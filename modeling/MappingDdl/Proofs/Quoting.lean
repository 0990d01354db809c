import MappingDdl.Proofs.Wording

/-!
# Quoting — names and literals can be read back

A name in quotes ends at the first quote that is not doubled. So it can be read off the front of any
text that does not go on with a quote, and a list of names can be read as long as what separates
them does not start with a quote. A literal is read in the same way, but where it is marked,
backslashes are doubled as well as quotes.

The name of a sequence is quoted twice over: it stands in quotes where the sequence is created, and
this text, quotes and all, stands in the literal from which the next value is taken.

Main results:

* `Text.Quoted.readInside_eq_some_iff`, `Text.Quoted.readNames_eq_some_iff` — what is read is what
  was written, and nothing else is.
* `Text.Quoted.readLiteral_literal` — a literal stands for its text.
* `Style.names_read_back` — names, qualified names and the names of sequences can be read back.
-/

namespace MappingDdl

namespace Text.Quoted

/-- Reads on inside of quotes, where marks are doubled, up to the first quote that stands alone, and
gives the text behind it as well. Of a pair of marks one is read. -/
def readInside (quote : Char) (marks : List Char) : List Char → Option (List Char × List Char)
  | [] => none
  | [c] => if c = quote then some ([], []) else none
  | c :: d :: rest =>
    if c ∈ marks ∧ d = c then (readInside quote marks rest).map fun r => (c :: r.1, r.2)
    else if c = quote then some ([], d :: rest)
    else if c ∈ marks then none
    else (readInside quote marks (d :: rest)).map fun r => (c :: r.1, r.2)

/-- Reads a name in quotes. -/
def readName (quote : Char) : List Char → Option (String × List Char)
  | [] => none
  | c :: rest =>
    if c = quote then (readInside quote [quote] rest).map fun r => (String.ofList r.1, r.2)
    else none

/-- Reads a string literal, with blanks before it. An `E` marks one with doubled backslashes. -/
def readLiteral (cs : List Char) : Option (String × List Char) :=
  match cs.dropWhile (· == ' ') with
  | '\'' :: rest => (readInside '\'' ['\''] rest).map fun r => (String.ofList r.1, r.2)
  | 'E' :: '\'' :: rest => (readInside '\'' ['\'', '\\'] rest).map fun r => (String.ofList r.1, r.2)
  | _ => none

/-- Doubling adds no other character. -/
theorem mem_double {quote c : Char} {cs : List Char} : c ∈ double quote cs ↔ c ∈ cs := by
  unfold double
  rw [List.mem_flatMap]
  constructor
  · rintro ⟨d, hd, hc⟩
    split at hc <;> simp_all
  · exact fun hc => ⟨c, hc, by split <;> simp_all⟩

section Inside

variable {quote : Char} {marks cs text rest : List Char}

/-- Nothing is doubled in an empty text. -/
@[simp] theorem doubleAll_nil (marks : List Char) : doubleAll marks [] = [] := rfl

/-- Each mark is doubled where it stands. -/
theorem doubleAll_cons (marks : List Char) (c : Char) (cs : List Char) :
    doubleAll marks (c :: cs) = (if c ∈ marks then [c, c] else [c]) ++ doubleAll marks cs :=
  rfl

/-- **Inside of quotes.** What is read up to a quote that stands alone is what was written with its
marks doubled. -/
theorem readInside_eq_some_iff (hQuote : quote ∈ marks) :
    readInside quote marks text = some (cs, rest) ↔
      text = doubleAll marks cs ++ quote :: rest ∧ rest.head? ≠ some quote := by
  constructor
  -- on what is read: a doubled mark, the quote at the end, or a plain character
  · intro h
    fun_induction readInside quote marks text generalizing cs with
    -- a text that ends inside of the quotes
    | case1 => cases h
    | case2 =>
      cases h
      exact ⟨rfl, by simp⟩
    | case3 => cases h
    -- a doubled mark, of which one is read
    | case4 c d more hPair ih =>
      obtain ⟨r, hr, hEq⟩ := Option.map_eq_some_iff.1 h
      cases hEq
      obtain ⟨rfl, hEnd⟩ := ih hr
      refine ⟨?_, hEnd⟩
      rw [doubleAll_cons, if_pos hPair.1, hPair.2]
      rfl
    -- a quote that ends what is read
    | case5 d more hAlone =>
      cases h
      refine ⟨rfl, fun hNext => hAlone ⟨hQuote, ?_⟩⟩
      exact Option.some.inj hNext
    | case6 => cases h
    -- a character that stands for itself
    | case7 c d more _ _ hPlain ih =>
      obtain ⟨r, hr, hEq⟩ := Option.map_eq_some_iff.1 h
      cases hEq
      obtain ⟨hMore, hEnd⟩ := ih hr
      refine ⟨?_, hEnd⟩
      rw [doubleAll_cons, if_neg hPlain, hMore]
      rfl
  · rintro ⟨rfl, hEnd⟩
    -- on what was written, from its first character
    induction cs with
    | nil =>
      -- the quote stands alone, at the end of the text or before another character
      cases rest with
      | nil => simp [readInside]
      | cons d more =>
        have hNext : ¬ (quote ∈ marks ∧ d = quote) := fun hPair => hEnd (by rw [hPair.2]; rfl)
        rw [doubleAll_nil, List.nil_append, readInside, if_neg hNext, if_pos rfl]
    | cons c more ih =>
      rw [doubleAll_cons]
      -- a mark was doubled
      by_cases hMark : c ∈ marks
      · rw [if_pos hMark, List.append_assoc, List.cons_append, List.singleton_append, readInside,
          if_pos ⟨hMark, rfl⟩, ih]
        rfl
      · -- the character is read alone, and there is more behind it: the quote at least
        obtain ⟨d, tail, hTail⟩ : ∃ d tail, doubleAll marks more ++ quote :: rest = d :: tail :=
          List.exists_cons_of_ne_nil (by simp)
        have hOther : c ≠ quote := fun hSame => hMark (hSame ▸ hQuote)
        rw [if_neg hMark, List.append_assoc, List.singleton_append, hTail, readInside,
          if_neg fun hPair => hMark hPair.1, if_neg hOther, if_neg hMark, ← hTail, ih]
        rfl

end Inside

section Names

variable {quote s : Char} {sep text rest : List Char} {name : String} {names : List String}

/-- A name in quotes has its own quotes doubled. -/
theorem toList_encode (quote : Char) (name : String) :
    (encode quote name).toList = quote :: (doubleAll [quote] name.toList ++ [quote]) := by
  simp [encode, double_eq_doubleAll]

/-- A name is read back from its text, if no quote follows. -/
theorem readName_eq_some_iff :
    readName quote text = some (name, rest) ↔
      text = (encode quote name).toList ++ rest ∧ rest.head? ≠ some quote := by
  -- a name is what is read between its quotes
  have hInside (more : List Char) :
      (readInside quote [quote] more).map (fun r => (String.ofList r.1, r.2)) = some (name, rest) ↔
        readInside quote [quote] more = some (name.toList, rest) := by
    rw [Option.map_eq_some_iff]
    constructor
    · rintro ⟨r, hr, hEq⟩
      cases hEq
      rw [hr, String.toList_ofList]
    · intro h
      exact ⟨_, h, by rw [String.ofList_toList]⟩
  rw [toList_encode]
  cases text with
  | nil => simp [readName]
  | cons c more =>
    -- it has to be opened
    by_cases hOpen : c = quote
    · rw [readName, if_pos hOpen, hInside, readInside_eq_some_iff (List.mem_singleton_self quote)]
      simp [hOpen]
    · rw [readName, if_neg hOpen]
      simp [hOpen]

/-- Reading a name leaves less to read. -/
theorem length_lt_of_readName (h : readName quote text = some (name, rest)) :
    rest.length < text.length := by
  rw [(readName_eq_some_iff.1 h).1, toList_encode]
  simp
  omega

/-- Reads a list of names in quotes, up to where none follows behind the separator. -/
def readNames (quote : Char) (sep text : List Char) : Option (List String × List Char) :=
  match _h : readName quote text with
  | none => none
  | some (name, rest) =>
    if sep.isPrefixOf rest then
      (readNames quote sep (rest.drop sep.length)).map fun r => (name :: r.1, r.2)
    else some ([name], rest)
termination_by text.length
decreasing_by
  have := length_lt_of_readName _h
  simp
  omega

/-- The names in quotes, with the separator between them. -/
def encodeAll (quote : Char) (sep : List Char) (names : List String) : List Char :=
  sep.intercalate (names.map fun name => (encode quote name).toList)

/-- Names are separated from each other. -/
theorem encodeAll_cons_cons (quote : Char) (sep : List Char) (name other : String)
    (names : List String) :
    encodeAll quote sep (name :: other :: names) =
      (encode quote name).toList ++ sep ++ encodeAll quote sep (other :: names) :=
  List.intercalate_cons_cons

/-- **Lists of names.** What is read is what was written, as long as the separator does not start
with a quote. -/
theorem readNames_eq_some_iff (hSep : s ≠ quote) :
    readNames quote (s :: sep) text = some (names, rest) ↔
      names ≠ [] ∧ text = encodeAll quote (s :: sep) names ++ rest ∧ rest.head? ≠ some quote ∧
        ¬ s :: sep <+: rest := by
  constructor
  -- on what is read: a name and more behind the separator, or the last name
  · intro h
    fun_induction readNames quote (s :: sep) text generalizing names with
    | case1 => cases h
    -- a name and a separator
    | case2 text name more hName hMore ih =>
      obtain ⟨r, hr, hEq⟩ := Option.map_eq_some_iff.1 h
      cases hEq
      obtain ⟨hSome, hRest, hEnd⟩ := ih hr
      obtain ⟨tail, rfl⟩ := List.isPrefixOf_iff_prefix.1 hMore
      rw [List.drop_left] at hRest
      obtain ⟨other, others, hOthers⟩ := List.exists_cons_of_ne_nil hSome
      refine ⟨List.cons_ne_nil _ _, ?_, hEnd⟩
      rw [(readName_eq_some_iff.1 hName).1, hOthers, encodeAll_cons_cons, ← hOthers, hRest]
      simp only [List.append_assoc]
    -- the last name, behind which nothing or something else stands
    | case3 text name more hName hLast =>
      cases h
      obtain ⟨rfl, hEnd⟩ := readName_eq_some_iff.1 hName
      refine ⟨List.cons_ne_nil _ _, ?_, hEnd, mt List.isPrefixOf_iff_prefix.2 hLast⟩
      exact congrArg (· ++ _) List.intercalate_singleton.symm
  · rintro ⟨hSome, rfl, hEnd, hLast⟩
    induction names with
    | nil => exact absurd rfl hSome
    | cons name others ih =>
      cases others with
      -- a name alone
      | nil =>
        have hName : readName quote (encodeAll quote (s :: sep) [name] ++ rest) =
            some (name, rest) :=
          readName_eq_some_iff.2 ⟨congrArg (· ++ rest) List.intercalate_singleton, hEnd⟩
        rw [readNames, hName]
        exact if_neg (mt List.isPrefixOf_iff_prefix.1 hLast)
      | cons other others =>
        -- the separator ends the first name, and the others stand behind it
        have hName : readName quote (encodeAll quote (s :: sep) (name :: other :: others) ++ rest) =
            some (name, s :: sep ++ (encodeAll quote (s :: sep) (other :: others) ++ rest)) := by
          refine readName_eq_some_iff.2 ⟨?_, fun hHead => hSep (Option.some.inj hHead)⟩
          rw [encodeAll_cons_cons]
          simp only [List.append_assoc]
        have hMore := List.prefix_append (s :: sep)
          (encodeAll quote (s :: sep) (other :: others) ++ rest)
        rw [readNames, hName]
        dsimp only
        rw [if_pos (List.isPrefixOf_iff_prefix.2 hMore), List.drop_left,
          ih (List.cons_ne_nil _ _)]
        rfl

end Names

/-! ## Literals -/

/-- **Literals.** A literal is read as the text that it was written for, whether or not it had to be
marked. -/
theorem readLiteral_literal {rest : List Char} (text : String) (hEnd : rest.head? ≠ some '\'') :
    readLiteral ((literal text).toList ++ rest) = some (text, rest) := by
  -- with any marks that have the quote among them
  have hInside (marks : List Char) (hQuote : '\'' ∈ marks) : readInside '\'' marks
      (doubleAll marks text.toList ++ '\'' :: rest) = some (text.toList, rest) :=
    (readInside_eq_some_iff hQuote).2 ⟨rfl, hEnd⟩
  unfold literal
  split
  · -- backslashes are doubled first, and quotes then
    rw [double_double (by decide)]
    simp [readLiteral, hInside ['\'', '\\'] List.mem_cons_self]
  -- no backslash, so that only quotes are doubled
  · next hPlain =>
    have hSelf : double '\\' text.toList = text.toList := double_eq_self (by simpa using hPlain)
    rw [hSelf, double_eq_doubleAll]
    simp [readLiteral, hInside ['\''] List.mem_cons_self]

end Text.Quoted

open Text.Quoted

/-! ## Texts without NUL -/

/-- A text without the NUL character. -/
def Text.NulFree (cs : List Char) : Prop :=
  '\x00' ∉ cs

instance : DecidablePred Text.NulFree :=
  fun cs => inferInstanceAs (Decidable ('\x00' ∉ cs))

/-- Quotes bring no null characters in. -/
theorem Flavor.nulFree_quote (fl : Flavor) {name : String} (h : Text.NulFree name.toList) :
    Text.NulFree (fl.quote name).toList := by
  cases fl with
  | standard => exact h
  | postgresql => simpa [quote, encode, Text.NulFree, mem_double] using h
  | mysql => simpa [quote, encode, Text.NulFree, mem_double] using h

/-- The names that go into the literals of a script have no NUL. -/
theorem Style.nulFree_qualified {st : Style} (hSchema : ∀ s ∈ st.schemaName, Text.NulFree s.toList)
    {name : String} (h : Text.NulFree name.toList) : Text.NulFree (st.qualified name).toList := by
  have hName := st.flavor.nulFree_quote h
  unfold qualified
  split
  · next s hSome =>
    have hQuoted := st.flavor.nulFree_quote (hSchema s hSome)
    simp_all [Text.NulFree]
  · exact hName

/-! ## Names of a flavor -/

/-- The mark between which a flavor puts names. -/
def Flavor.quoteMark : Flavor → Option Char
  | .standard => none
  | .postgresql => some '"'
  | .mysql => some '\x60'

namespace Flavor

variable {fl : Flavor} {quote : Char}

/-- A dialect with a mark puts names between two of them. -/
theorem quote_of_quoteMark (h : fl.quoteMark = some quote) (name : String) :
    fl.quote name = encode quote name := by
  cases fl with
  | standard => cases h
  | postgresql => cases h; rfl
  | mysql => cases h; rfl

/-- No name starts with what stands behind names. -/
theorem ne_quoteMark (h : fl.quoteMark = some quote) : ∀ c ∈ [',', '.', ' '], c ≠ quote := by
  cases fl with
  | standard => cases h
  | postgresql => cases h; simp
  | mysql => cases h; simp

/-- A list of names is separated by a comma and a blank. -/
theorem toList_quoteAll (h : fl.quoteMark = some quote) (names : List String) :
    (fl.quoteAll names).toList = encodeAll quote [',', ' '] names := by
  rw [quoteAll, encodeAll, String.toList_intercalate, List.map_map]
  congr 1
  exact List.map_congr_left fun name _ => congrArg _ (quote_of_quoteMark h name)

end Flavor

namespace Style

variable {st : Style} {quote : Char}

/-- A qualified name is separated from its schema by a point. -/
theorem toList_qualified (h : st.flavor.quoteMark = some quote) (name : String) :
    (st.qualified name).toList = encodeAll quote ['.'] (st.schemaName.toList ++ [name]) := by
  unfold qualified
  -- without a schema the name stands alone
  cases st.schemaName with
  | none =>
    rw [Flavor.quote_of_quoteMark h]
    exact List.intercalate_singleton.symm
  -- with one it stands behind a point
  | some schema =>
    simp only [Flavor.quote_of_quoteMark h, String.toList_append]
    rw [Option.toList_some, List.singleton_append, encodeAll_cons_cons]
    rw [encodeAll, List.map_singleton, List.intercalate_singleton]
    rfl

/-- A list of names is read back from its text. -/
theorem readNames_quoteAll (h : st.flavor.quoteMark = some quote) {names : List String}
    (hSome : names ≠ []) :
    readNames quote [',', ' '] (st.flavor.quoteAll names).toList = some (names, []) := by
  have hSep : ',' ≠ quote := Flavor.ne_quoteMark h _ (by decide)
  refine (readNames_eq_some_iff hSep).2 ⟨hSome, ?_, by simp, by simp⟩
  rw [Flavor.toList_quoteAll h, List.append_nil]

/-- A qualified name can be read where the text goes on with neither a quote nor a point. -/
theorem readNames_qualified (h : st.flavor.quoteMark = some quote) (name : String)
    (rest : List Char) (hEnd : rest.head? ≠ some quote ∧ rest.head? ≠ some '.') :
    readNames quote ['.'] ((st.qualified name).toList ++ rest) =
      some (st.schemaName.toList ++ [name], rest) := by
  have hSep : '.' ≠ quote := Flavor.ne_quoteMark h _ (by decide)
  refine (readNames_eq_some_iff hSep).2 ⟨by simp, by rw [toList_qualified h], hEnd.1, ?_⟩
  rintro ⟨tail, rfl⟩
  exact hEnd.2 rfl

/-- **Names can be read back.** Let names be written between quotes. Then every list of names can be
read from its text, and so can the schema and the name that make up a qualified name. So no two
lists, and no two qualified names, have one text. Where a literal can hold the name of a sequence,
the literal in the call for its next value is read as the very text that names the sequence where it
is created, and from this the schema and the name can be read. -/
theorem names_read_back (h : st.flavor.quoteMark = some quote) :
    (∀ names, names ≠ [] →
      readNames quote [',', ' '] (st.flavor.quoteAll names).toList = some (names, [])) ∧
    (∀ names others, names ≠ [] → others ≠ [] →
      st.flavor.quoteAll names = st.flavor.quoteAll others → names = others) ∧
    (∀ name, readNames quote ['.'] (st.qualified name).toList =
      some (st.schemaName.toList ++ [name], [])) ∧
    (∀ (other : Style) (name name' : String), other.flavor = st.flavor →
      st.qualified name = other.qualified name' →
        st.schemaName = other.schemaName ∧ name = name') ∧
    ∀ name, Text.NulFree name.toList →
      (∀ schema ∈ st.schemaName, Text.NulFree schema.toList) →
      ∃ literal identifier, st.nextvalText name = .ok ("nextval(" ++ literal ++ ")") ∧
        readLiteral (literal ++ ")").toList = some (identifier, [')']) ∧
        ∀ increment, ∃ clause,
          st.sequenceText name increment =
            "CREATE SEQUENCE IF NOT EXISTS " ++ identifier ++ clause ∧
          readNames quote ['.'] (identifier ++ clause).toList =
            some (st.schemaName.toList ++ [name], clause.toList) := by
  have hQualified {other : Style} (hOther : other.flavor.quoteMark = some quote) (name : String) :
      readNames quote ['.'] (other.qualified name).toList =
        some (other.schemaName.toList ++ [name], []) := by
    have hRead := readNames_qualified hOther name [] (by simp)
    rwa [List.append_nil] at hRead
  refine ⟨fun names hSome => readNames_quoteAll h hSome, fun names others hSome hOthers hSame => ?_,
    hQualified h, fun other name name' hFlavor hSame => ?_, fun name hFree hSchema => ?_⟩
  -- equal texts are read as the same lists
  · have hRead := readNames_quoteAll h hSome
    rw [hSame, readNames_quoteAll h hOthers] at hRead
    cases hRead
    rfl
  -- and equal qualified names as the same two names
  · have hRead := hQualified (hFlavor ▸ h) name'
    rw [← hSame, hQualified h name] at hRead
    have hBoth := congrArg Prod.fst (Option.some.inj hRead)
    obtain ⟨hSchemas, hNames⟩ := List.append_singleton_inj.1 hBoth
    exact ⟨by simpa using congrArg List.head? hSchemas, hNames⟩
  -- the name of a sequence has no NUL character, so it becomes a literal
  · have hText : SqlLiteral.string (st.qualified name) = .ok (literal (st.qualified name)) :=
      SqlLiteral.string_eq_ok_iff.2 ⟨nulFree_qualified hSchema hFree, rfl⟩
    refine ⟨literal (st.qualified name), st.qualified name, ?_, ?_, fun increment => ?_⟩
    · rw [nextvalText, hText]
      rfl
    · rw [String.toList_append]
      exact readLiteral_literal _ (by decide)
    -- what follows the name is the increment, if there is one
    · cases increment with
      | none =>
        refine ⟨"", rfl, ?_⟩
        rw [String.toList_append]
        exact readNames_qualified h name _ (by simp)
      | some i =>
        -- a blank ends the name of the sequence
        have hBlank : ' ' ≠ quote := Flavor.ne_quoteMark h _ (by decide)
        refine ⟨" INCREMENT BY " ++ SqlLiteral.integer i, rfl, ?_⟩
        rw [String.toList_append]
        exact readNames_qualified h name _ (by simpa using hBlank)

/-- Names with quotes in them, in a schema with a quote in its name. -/
def quoting : Style where
  flavor := .postgresql
  schemaName := some "a\"b"

/-- Quotes at the ends and side by side, an empty name, and a sequence with an apostrophe, a
backslash and a point in its name. -/
theorem names_read_back_of_quoting :
    (quoting.flavor.quoteAll ["\"\"x\"", "", "y\", \"z"] =
        "\"\"\"\"\"x\"\"\", \"\", \"y\"\", \"\"z\"" ∧
      readNames '"' [',', ' '] (quoting.flavor.quoteAll ["\"\"x\"", "", "y\", \"z"]).toList =
        some (["\"\"x\"", "", "y\", \"z"], [])) ∧
    quoting.qualified "it's\\.seq" = "\"a\"\"b\".\"it's\\.seq\"" ∧
    ∃ literal identifier, quoting.nextvalText "it's\\.seq" = .ok ("nextval(" ++ literal ++ ")") ∧
      readLiteral (literal ++ ")").toList = some (identifier, [')']) ∧
      ∃ clause, quoting.sequenceText "it's\\.seq" none =
          "CREATE SEQUENCE IF NOT EXISTS " ++ identifier ++ clause ∧
        readNames '"' ['.'] (identifier ++ clause).toList =
          some (["a\"b", "it's\\.seq"], clause.toList) := by
  have hMark : quoting.flavor.quoteMark = some '"' := rfl
  obtain ⟨hNames, -, -, -, hSequence⟩ := names_read_back hMark
  refine ⟨⟨by decide +kernel, hNames _ (by decide)⟩, by decide +kernel, ?_⟩
  obtain ⟨literal, identifier, hNext, hLiteral, hCreate⟩ :=
    hSequence "it's\\.seq" (by decide +kernel) (by decide +kernel)
  exact ⟨literal, identifier, hNext, hLiteral, hCreate none⟩

end Style

end MappingDdl
