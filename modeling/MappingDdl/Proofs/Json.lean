import Mathlib.Data.List.Basic
import MappingDdl.Json
import MappingDdl.Json.Reader
import MappingDdl.Log.Format

/-!
# JSON — what is written reads back

A value that is made of texts, integers, truth values, lists and mappings with texts as keys is
written in JSON so that it reads back as it was. So a log that is written in JSON loses nothing of
its records. A double is written in its shortest form, which is not treated here.

A text is read with fuel, and the text of a value has fuel enough: a value takes two steps for each
of its characters at most.

Main results:

* `Json.string?_quote` — a text reads back from between its quotes.
* `Json.read?_text` — a value reads back from its text.
* `LogLine.read?_json` — the line of a record reads back as the entries of the record.
-/

namespace MappingDdl

namespace Json

/-! ## Strings -/

/-- The value of a hexadecimal digit is read back. -/
theorem hexDigit?_digitChar {n : Nat} (h : n < 16) : hexDigit? (Nat.digitChar n) = some n := by
  have hDigits : ∀ n : Fin 16, hexDigit? (Nat.digitChar n) = some n.val := by decide
  exact hDigits ⟨n, h⟩

/-- One digit more is the last one of the number. -/
theorem hex_succ {width : Nat} (hWidth : 0 < width) (n : Nat) :
    Text.Literal.hex (width + 1) n =
      Text.Literal.hex width (n / 16) ++ [Nat.digitChar (n % 16)] := by
  unfold Text.Literal.hex
  by_cases hSmall : n < 16
  · -- all digits but the last one are zeros
    rw [Nat.toDigits_of_lt_base hSmall, Nat.div_eq_of_lt hSmall, Nat.mod_eq_of_lt hSmall]
    obtain ⟨w, rfl⟩ := Nat.exists_eq_add_of_lt hWidth
    simp [List.replicate_succ', Nat.toDigits_of_lt_base]
  -- otherwise the last digit is that of the remainder
  · rw [Nat.toDigits_of_base_le (by decide) (by omega)]
    simp only [List.length_append, List.length_singleton, Nat.add_sub_add_right,
      List.append_assoc]

/-- Four digits of a number, the highest first. -/
def fourDigits (n : Nat) : List Char :=
  [Nat.digitChar (n / 16 / 16 / 16), Nat.digitChar (n / 16 / 16 % 16),
    Nat.digitChar (n / 16 % 16), Nat.digitChar (n % 16)]

/-- A UTF-16 unit is written with four digits. -/
theorem hex_four {n : Nat} (h : n < 0x10000) : Text.Literal.hex 4 n = fourDigits n := by
  have hFirst : Text.Literal.hex 1 (n / 16 / 16 / 16) = [Nat.digitChar (n / 16 / 16 / 16)] := by
    rw [Text.Literal.hex, Nat.toDigits_of_lt_base (by omega)]
    rfl
  rw [hex_succ (by decide), hex_succ (by decide), hex_succ (by decide), hFirst]
  rfl

/-- The digits read back. -/
theorem hexNumber?_fourDigits {n : Nat} (h : n < 0x10000) :
    hexNumber? (fourDigits n) = some n := by
  have h₃ := hexDigit?_digitChar (n := n / 16 / 16 / 16) (by omega)
  have h₂ := hexDigit?_digitChar (n := n / 16 / 16 % 16) (by omega)
  have h₁ := hexDigit?_digitChar (n := n / 16 % 16) (by omega)
  have h₀ := hexDigit?_digitChar (n := n % 16) (by omega)
  simp only [hexNumber?, fourDigits, List.foldlM_cons, List.foldlM_nil, h₀, h₁, h₂, h₃,
    Option.map_some, Option.bind_eq_bind, Option.bind_some, Option.pure_def, Option.some.injEq]
  omega

/-- Where the code points of characters are. -/
theorem toNat_char (c : Char) : c.toNat < 0xd800 ∨ 0xdfff < c.toNat ∧ c.toNat < 0x110000 :=
  c.valid

/-- The code points that a character is read back as: itself, or the halves of a surrogate pair. -/
def units (c : Char) : List Nat :=
  let n := c.toNat
  if n < 0x10000 then [n]
  else [0xd800 + (n - 0x10000) / 0x400, 0xdc00 + (n - 0x10000) % 0x400]

/-- Puts code points in front of those that are read from the rest. -/
def ahead (ns : List Nat) (p : Option (List Nat × List Char)) : Option (List Nat × List Char) :=
  p.map fun p => (ns ++ p.1, p.2)

/-- An escape by number is read as its unit. -/
theorem codePoints?_unitEscape {n : Nat} (h : n < 0x10000) (cs : List Char) :
    codePoints? (unitEscape n ++ cs) = ahead [n] (codePoints? cs) := by
  have hNumber := hexNumber?_fourDigits h
  rw [unitEscape, hex_four h]
  simp only [fourDigits, List.cons_append, List.nil_append] at hNumber ⊢
  rw [codePoints?, hNumber]
  cases codePoints? cs <;> rfl

/-- An escape of one letter is read as the character that it stands for. -/
theorem codePoints?_escape {e c : Char} (hLetter : e ≠ 'u') (h : escape? e = some c)
    (cs : List Char) : codePoints? ('\\' :: e :: cs) = ahead [c.toNat] (codePoints? cs) := by
  rw [codePoints?.eq_4 _ _ (by rintro a b c d rest rfl; simp_all), h]
  cases codePoints? cs <;> rfl

/-- Every other character stands for itself. -/
theorem codePoints?_plain {c : Char} (hQuote : c ≠ '"') (hEscape : c ≠ '\\') (cs : List Char) :
    codePoints? (c :: cs) = ahead [c.toNat] (codePoints? cs) := by
  rw [codePoints?.eq_5 _ _ hQuote (fun _ _ _ _ _ h => absurd h hEscape)
    (fun _ _ h => absurd h hEscape)]
  cases codePoints? cs <;> rfl

/-- A character is read back as its code points, however it is escaped. -/
theorem codePoints?_escapeChar (c : Char) (cs : List Char) :
    codePoints? (escapeChar c ++ cs) = ahead (units c) (codePoints? cs) := by
  have hSmall (h : c.toNat < 0x10000) : units c = [c.toNat] := if_pos h
  have hEscape {e : Char} (hChars : escapeChar c = ['\\', e]) (hLetter : e ≠ 'u')
      (hStands : escape? e = some c) (hUnit : c.toNat < 0x10000) :
      codePoints? (escapeChar c ++ cs) = ahead (units c) (codePoints? cs) := by
    rw [hChars, hSmall hUnit]
    exact codePoints?_escape hLetter hStands cs
  -- one case for each escape with a letter, in the order in which they are tried
  by_cases hQuote : c = '"'
  · subst hQuote
    exact hEscape (e := '"') rfl (by decide) rfl (by decide)
  by_cases hSlash : c = '\\'
  · subst hSlash
    exact hEscape (e := '\\') rfl (by decide) rfl (by decide)
  by_cases hFeed : c = '\n'
  · subst hFeed
    exact hEscape (e := 'n') rfl (by decide) rfl (by decide)
  by_cases hReturn : c = '\r'
  · subst hReturn
    exact hEscape (e := 'r') rfl (by decide) rfl (by decide)
  by_cases hTab : c = '\t'
  · subst hTab
    exact hEscape (e := 't') rfl (by decide) rfl (by decide)
  by_cases hBack : c.toNat = 8
  · obtain rfl : c = '\x08' := Char.toNat_inj.1 hBack
    exact hEscape (e := 'b') rfl (by decide) rfl (by decide)
  by_cases hPage : c.toNat = 12
  · obtain rfl : c = '\x0c' := Char.toNat_inj.1 hPage
    exact hEscape (e := 'f') rfl (by decide) rfl (by decide)
  -- the other characters have no letter of their own
  simp only [escapeChar, hQuote, hSlash, hFeed, hReturn, hTab, hBack, hPage, or_self, if_false]
  split
  -- an ordinary character stands for itself
  · rw [hSmall (by omega)]
    exact codePoints?_plain hQuote hSlash cs
  -- a character without a letter is written as a unit
  · split
    · next hUnit =>
      rw [hSmall hUnit]
      exact codePoints?_unitEscape hUnit cs
    -- a character beyond the first plane is written as two units
    · next hPair =>
      have hChar := toNat_char c
      rw [List.append_assoc, codePoints?_unitEscape (by omega), codePoints?_unitEscape (by omega),
        units]
      simp only [hPair, if_false]
      cases codePoints? cs <;> rfl

/-- The characters of a text are read back as their code points, up to the quote. -/
theorem codePoints?_flatMap (cs rest : List Char) :
    codePoints? (cs.flatMap escapeChar ++ '"' :: rest) = some (cs.flatMap units, rest) := by
  induction cs with
  | nil => rfl
  | cons c cs ih =>
    rw [List.flatMap_cons, List.append_assoc, codePoints?_escapeChar, ih]
    rfl

/-- A code point that does not start a pair is a character of its own. -/
theorem joinPairs_cons {n : Nat} (h : ¬ (0xd800 ≤ n ∧ n < 0xdc00)) (ns : List Nat) :
    joinPairs (n :: ns) = Char.ofNat n :: joinPairs ns := by
  cases ns with
  | nil => rfl
  | cons m rest =>
    rw [joinPairs, if_neg]
    rintro ⟨hLow, hHigh, -⟩
    exact h ⟨hLow, hHigh⟩

/-- The code points of a text make up its characters. -/
theorem joinPairs_flatMap (cs : List Char) : joinPairs (cs.flatMap units) = cs := by
  induction cs with
  | nil => rfl
  | cons c cs ih =>
    rw [List.flatMap_cons, units]
    split
    · -- a character is never half of a pair
      have hValid : ¬ (0xd800 ≤ c.toNat ∧ c.toNat < 0xdc00) := by
        have hChar := toNat_char c
        omega
      rw [List.singleton_append, joinPairs_cons hValid, ih, Char.ofNat_toNat]
    -- two units make up one character again
    · next hPair =>
      have hChar := toNat_char c
      have hPoint : 0x10000 + (0xd800 + (c.toNat - 0x10000) / 0x400 - 0xd800) * 0x400 +
          (0xdc00 + (c.toNat - 0x10000) % 0x400 - 0xdc00) = c.toNat := by
        omega
      rw [List.cons_append, List.cons_append, List.nil_append, joinPairs, if_pos (by omega), hPoint,
        ih, Char.ofNat_toNat]

/-- **A text reads back** from between its quotes. -/
theorem string?_quote (s : String) (rest : List Char) :
    ∃ body, (quote s).toList = '"' :: body ∧ string? (body ++ rest) = some (s, rest) := by
  refine ⟨s.toList.flatMap escapeChar ++ ['"'], by rw [quote, String.toList_ofList]; rfl, ?_⟩
  rw [string?, List.append_assoc, List.singleton_append, codePoints?_flatMap, Option.map_some,
    joinPairs_flatMap, String.ofList_toList]

/-! ## Numbers -/

/-- The text goes on with something that is no part of a number. -/
def Stops (rest : List Char) : Prop :=
  ∀ c ∈ rest.head?, isNumberChar c = false

/-- A number ends where what follows is no part of it. -/
theorem takeWhile_of_stops {ds rest : List Char} (hDigits : ∀ c ∈ ds, isNumberChar c = true)
    (hStops : Stops rest) : (ds ++ rest).takeWhile isNumberChar = ds ∧
      (ds ++ rest).dropWhile isNumberChar = rest := by
  rw [List.takeWhile_append_of_pos hDigits, List.dropWhile_append_of_pos hDigits]
  cases rest with
  | nil => exact ⟨List.append_nil ds, rfl⟩
  | cons c rest =>
    have hStop := hStops c rfl
    simp [hStop]

/-- The digits of a natural number give it back. -/
theorem ofDigits_toDigits (n : Nat) :
    Number.ofDigits ((Nat.toDigits 10 n).map fun c => c.toNat - 48) = n := by
  rw [Number.ofDigits, List.foldl_map]
  exact Nat.ofDigitChars_toDigits (by decide) (by decide)

/-- The characters of an integer: a sign for a negative one, and digits. -/
theorem toList_toString (i : Int) : (toString i).toList =
    (if i < 0 then ['-'] else []) ++ Nat.toDigits 10 i.natAbs := by
  cases i with
  -- a number that is not negative has no sign
  | ofNat n =>
    change n.repr.toList = _
    have hPositive : ¬ Int.ofNat n < 0 := Int.not_lt.2 (Int.natCast_nonneg n)
    rw [Nat.toList_repr, if_neg hPositive]
    rfl
  -- a negative one has it in front of its digits
  | negSucc n =>
    change ("-" ++ (n + 1).repr).toList = _
    rw [String.toList_append, Nat.toList_repr, if_pos (Int.negSucc_lt_zero n)]
    rfl

/-- A number is written in digits. -/
theorem isDigit_toDigits (n : Nat) : (Nat.toDigits 10 n).all Char.isDigit = true :=
  List.all_eq_true.2 fun _ hc => Nat.isDigit_of_mem_toDigits (by decide) (by decide) hc

/-- An integer reads back from its digits and its sign. -/
theorem number?_toString (i : Int) : number? (toString i).toList = some (.int i) := by
  have hSome : (Nat.toDigits 10 i.natAbs).isEmpty = false := by
    simp
  rw [toList_toString]
  -- the sign stands in front, and no digit looks like one
  by_cases hNegative : i < 0
  · rw [if_pos hNegative]
    simp only [number?, List.singleton_append, List.head?_cons, beq_self_eq_true, if_true,
      List.drop_succ_cons, List.drop_zero, hSome, Bool.false_eq_true, if_false, isDigit_toDigits,
      ofDigits_toDigits, Option.some.injEq, Value.int.injEq, Int.ofNat_eq_natCast]
    omega
  -- a digit is not a sign
  · have hNoSign : (Nat.toDigits 10 i.natAbs).head? ≠ some '-' := by
      intro hHead
      have hDigit := Nat.isDigit_of_mem_toDigits (by decide) (by decide)
        (List.mem_of_mem_head? hHead)
      cases hDigit
    have hSign : ((Nat.toDigits 10 i.natAbs).head? == some '-') = false := beq_false_of_ne hNoSign
    rw [if_neg hNegative]
    simp only [number?, List.nil_append, hSign, Bool.false_eq_true, if_false, hSome,
      isDigit_toDigits, if_true, ofDigits_toDigits, Option.some.injEq, Value.int.injEq,
      Int.ofNat_eq_natCast]
    omega

/-! ## Values -/

/-- A value that is written as it is: it has no doubles, and only texts as keys. -/
inductive Exact : Value → Prop
  | null : Exact .null
  | bool (b : Bool) : Exact (.bool b)
  | int (i : Int) : Exact (.int i)
  | str (s : String) : Exact (.str s)
  | list {vs : List Value} (h : ∀ v ∈ vs, Exact v) : Exact (.list vs)
  | map {es : List (Value × Value)} (hKeys : ∀ e ∈ es, ∃ k, e.1 = .str k)
      (h : ∀ e ∈ es, Exact e.2) : Exact (.map es)

/-- A value is read from the characters, wherever they stand, with two steps for each of them. -/
def ReadsAs (cs : List Char) (v : Value) : Prop :=
  ∀ fuel rest, 2 * cs.length < fuel → Stops rest → value? fuel (cs ++ rest) = some (v, rest)

/-- The first character of a value is no blank, and closes nothing. -/
def Opens (cs : List Char) : Prop :=
  ∃ c rest, cs = c :: rest ∧ isBlank c = false ∧ c ≠ ']' ∧ c ≠ '\x7d'

/-- What opens with no blank is read as it stands. -/
theorem Opens.dropWhile {cs : List Char} (h : Opens cs) (rest : List Char) :
    (cs ++ rest).dropWhile isBlank = cs ++ rest := by
  obtain ⟨c, cs, rfl, hBlank, -⟩ := h
  rw [List.cons_append, List.dropWhile_cons, hBlank]
  rfl

/-- What closes a list or an object, or stands between items, is no part of a number. -/
theorem stops_cons {c : Char} (h : isNumberChar c = false) (rest : List Char) :
    Stops (c :: rest) := by
  rintro _ ⟨⟩
  exact h

/-- The first character of an integer. -/
def StartsNumber (c : Char) : Prop :=
  c = '-' ∨ c.isDigit = true

instance : DecidablePred StartsNumber :=
  fun c => inferInstanceAs (Decidable (c = '-' ∨ c.isDigit = true))

/-- Nothing else that is read starts like a number. -/
theorem StartsNumber.ne {c d : Char} (h : StartsNumber c) (hOther : ¬ StartsNumber d) : c ≠ d := by
  rintro rfl
  exact hOther h

/-- A number does not start with a blank. -/
theorem StartsNumber.isBlank {c : Char} (h : StartsNumber c) : isBlank c = false := by
  have hOther {d : Char} (hd : ¬ StartsNumber d) : (c == d) = false := beq_false_of_ne (h.ne hd)
  rw [Json.isBlank, hOther (by decide), hOther (by decide), hOther (by decide),
    hOther (by decide)]
  rfl

/-- An integer starts like a number, -/
theorem exists_startsNumber (i : Int) :
    ∃ c rest, (toString i).toList = c :: rest ∧ StartsNumber c := by
  rw [toList_toString]
  split
  -- a sign
  · exact ⟨'-', _, rfl, Or.inl rfl⟩
  -- or a first digit
  · cases hDigits : Nat.toDigits 10 i.natAbs with
    | nil => exact absurd hDigits Nat.toDigits_ne_nil
    | cons c rest =>
      have hDigit : c.isDigit = true := Nat.isDigit_of_mem_toDigits (by decide) (by decide)
        (hDigits ▸ List.mem_cons_self : c ∈ Nat.toDigits 10 i.natAbs)
      exact ⟨c, rest, rfl, Or.inr hDigit⟩

/-- and all of it can be part of one. -/
theorem isNumberChar_toString {i : Int} {c : Char} (h : c ∈ (toString i).toList) :
    isNumberChar c = true := by
  rw [toList_toString] at h
  rcases List.mem_append.1 h with hSign | hDigit
  · split at hSign
    · rw [List.mem_singleton.1 hSign]
      rfl
    · cases hSign
  · have hDigit := Nat.isDigit_of_mem_toDigits (by decide) (by decide) hDigit
    simp [isNumberChar, hDigit]

/-- What starts like a number is read as one. -/
theorem value?_number {c : Char} (h : StartsNumber c) (fuel : Nat) (cs : List Char) :
    value? (fuel + 1) (c :: cs) = (number? ((c :: cs).takeWhile isNumberChar)).map fun v =>
      (v, (c :: cs).dropWhile isNumberChar) := by
  -- no other kind of value starts like this
  have hHead {d : Char} {rest : List Char} (hEq : c :: cs = d :: rest) (hOther : ¬ StartsNumber d) :
      False :=
    h.ne hOther (List.cons.inj hEq).1
  rw [value?, List.dropWhile_cons, h.isBlank]
  simp only [Bool.false_eq_true, if_false]
  -- the kinds are tried in the order of the reader
  split
  -- what is left in the end is the number
  case h_7 => rfl
  all_goals next hEq => exact (hHead hEq (by decide)).elim

/-- An integer is read from its digits. -/
theorem readsAs_int (i : Int) : ReadsAs (toString i).toList (.int i) := by
  intro fuel rest hFuel hStops
  obtain ⟨c, cs, hChars, hStart⟩ := exists_startsNumber i
  have hDigits : ∀ d ∈ (toString i).toList, isNumberChar d = true := fun _ hd =>
    isNumberChar_toString hd
  obtain ⟨hTake, hDrop⟩ := takeWhile_of_stops hDigits hStops
  obtain ⟨fuel, rfl⟩ := Nat.exists_eq_add_of_lt hFuel
  have hNumber := value?_number hStart (2 * (toString i).toList.length + fuel) (cs ++ rest)
  rw [← List.cons_append, ← hChars, hTake, hDrop, number?_toString] at hNumber
  exact hNumber

/-! ### The walk over a value -/

/-- A blank in front of a value makes no difference. -/
theorem value?_blank (fuel : Nat) (cs : List Char) : value? fuel (' ' :: cs) = value? fuel cs := by
  cases fuel with
  | zero => rw [value?, value?]
  | succ fuel =>
    rw [value?, value?]
    rfl

/-- A blank in front of an item is passed over, -/
theorem items?_blank (fuel : Nat) (cs : List Char) : items? fuel (' ' :: cs) = items? fuel cs := by
  cases fuel with
  | zero => rw [items?, items?]
  | succ fuel => rw [items?, items?, value?_blank]

/-- so is one in front of a member, -/
theorem member?_blank (fuel : Nat) (cs : List Char) :
    member? fuel (' ' :: cs) = member? fuel cs := by
  cases fuel with
  | zero => rw [member?, member?]
  | succ fuel =>
    rw [member?, member?]
    rfl

/-- and in front of the members that are left. -/
theorem members?_blank (fuel : Nat) (cs : List Char) :
    members? fuel (' ' :: cs) = members? fuel cs := by
  cases fuel with
  | zero => rw [members?, members?]
  | succ fuel => rw [members?, members?, member?_blank]

/-- Items are separated by a comma and a blank. -/
theorem toList_items_cons (v w : Value) (rest : List Value) :
    (items (v :: w :: rest)).toList =
      (text v).toList ++ ',' :: ' ' :: (items (w :: rest)).toList := by
  rw [items, String.toList_append, String.toList_append, List.append_assoc]
  · rfl
  · simp

/-- The items of a list are read one after the other, up to the bracket. -/
theorem items?_items {vs : List Value} (hSome : vs ≠ [])
    (h : ∀ v ∈ vs, ReadsAs (text v).toList v) (fuel : Nat) (rest : List Char)
    (hFuel : 2 * (items vs).toList.length + 1 < fuel) :
    items? fuel ((items vs).toList ++ ']' :: rest) = some (vs, rest) := by
  -- on the items; reading one of them leaves fuel for the others, as their text is shorter
  induction vs generalizing fuel with
  | nil => exact absurd rfl hSome
  | cons v vs ih =>
    obtain ⟨hFirst, hRest⟩ := List.forall_mem_cons.1 h
    cases fuel with
    | zero => omega
    | succ fuel =>
      -- the last item, behind which the bracket closes
      cases vs with
      | nil =>
        rw [items] at hFuel ⊢
        have hRead := hFirst fuel (']' :: rest) (by omega) (stops_cons rfl rest)
        rw [items?, hRead]
        rfl
      -- one of several, behind which a comma stands
      | cons w vs =>
        rw [toList_items_cons] at hFuel ⊢
        simp only [List.length_append, List.length_cons] at hFuel
        have hRead := hFirst fuel (',' :: ' ' :: (items (w :: vs)).toList ++ ']' :: rest)
          (by omega) (stops_cons rfl _)
        have hOthers := ih (List.cons_ne_nil w vs) hRest fuel (by omega)
        rw [List.append_assoc, items?, hRead]
        change (items? fuel (' ' :: ((items (w :: vs)).toList ++ ']' :: rest))).map
          (fun p => (v :: p.1, p.2)) = _
        rw [items?_blank, hOthers]
        rfl

/-- A member of an object is read up to its end. -/
theorem member?_entry {k : String} {v : Value} (h : ReadsAs (text v).toList v) (fuel : Nat)
    (rest : List Char) (hFuel : 2 * (text v).toList.length + 1 < fuel) (hStops : Stops rest) :
    member? fuel ((quote k).toList ++ ':' :: ' ' :: (text v).toList ++ rest) =
      some (.str k, v, rest) := by
  cases fuel with
  | zero => omega
  | succ fuel =>
    -- the name is read first, then the colon and the value
    obtain ⟨body, hQuote, hKey⟩ := string?_quote k (':' :: ' ' :: (text v).toList ++ rest)
    have hValue := h fuel rest (by omega) hStops
    rw [hQuote, List.append_assoc, member?]
    change (string? (body ++ (':' :: ' ' :: (text v).toList ++ rest)) >>= _) = _
    rw [hKey]
    change (value? fuel (' ' :: ((text v).toList ++ rest))).map
      (fun p => (Value.str k, p.1, p.2)) = _
    rw [value?_blank, hValue]
    rfl

/-- A member is its key and its value with a colon and a blank between them. -/
theorem toList_entries_singleton (k : String) (v : Value) :
    (entries [(.str k, v)]).toList = (quote k).toList ++ ':' :: ' ' :: (text v).toList := by
  rw [entries, String.toList_append, String.toList_append, List.append_assoc]
  rfl

/-- Members are separated by a comma and a blank. -/
theorem toList_entries_cons (k : String) (v : Value) (e : Value × Value)
    (rest : List (Value × Value)) : (entries ((.str k, v) :: e :: rest)).toList =
      (quote k).toList ++ ':' :: ' ' :: (text v).toList ++
        ',' :: ' ' :: (entries (e :: rest)).toList := by
  rw [entries]
  · simp only [String.toList_append, List.append_assoc]
    rfl
  · simp

/-- The members of an object are read one after the other, up to the brace. -/
theorem members?_entries {es : List (Value × Value)} (hSome : es ≠ [])
    (hKeys : ∀ e ∈ es, ∃ k, e.1 = .str k) (h : ∀ e ∈ es, ReadsAs (text e.2).toList e.2)
    (fuel : Nat) (rest : List Char) (hFuel : 2 * (entries es).toList.length + 1 < fuel) :
    members? fuel ((entries es).toList ++ '\x7d' :: rest) = some (es, rest) := by
  -- on the members, as for the items of a list
  induction es generalizing fuel with
  | nil => exact absurd rfl hSome
  | cons e es ih =>
    obtain ⟨hFirst, hRest⟩ := List.forall_mem_cons.1 h
    obtain ⟨⟨k, hKey⟩, hOtherKeys⟩ := List.forall_mem_cons.1 hKeys
    obtain ⟨_, v⟩ := e
    cases hKey
    replace hFirst : ReadsAs (text v).toList v := hFirst
    cases fuel with
    | zero => omega
    | succ fuel =>
      cases es with
      -- the last member
      | nil =>
        rw [toList_entries_singleton] at hFuel ⊢
        simp only [List.length_append, List.length_cons] at hFuel
        have hMember := member?_entry (k := k) hFirst fuel ('\x7d' :: rest) (by omega)
          (stops_cons rfl rest)
        rw [members?, hMember]
        rfl
      -- one of several
      | cons e es =>
        rw [toList_entries_cons] at hFuel ⊢
        simp only [List.length_append, List.length_cons] at hFuel
        have hMember := member?_entry (k := k) hFirst fuel
          (',' :: ' ' :: (entries (e :: es)).toList ++ '\x7d' :: rest) (by omega) (stops_cons rfl _)
        have hOthers := ih (List.cons_ne_nil e es) hOtherKeys hRest fuel (by omega)
        rw [List.append_assoc, members?, hMember]
        change (members? fuel (' ' :: ((entries (e :: es)).toList ++ '\x7d' :: rest))).map
          (fun p => ((Value.str k, v) :: p.1, p.2)) = _
        rw [members?_blank, hOthers]
        rfl

/-- A list stands between brackets, -/
theorem toList_list (vs : List Value) :
    (text (.list vs)).toList = '[' :: ((items vs).toList ++ [']']) := by
  rw [text, String.toList_append, String.toList_append]
  rfl

/-- and an object between braces. -/
theorem toList_map (es : List (Value × Value)) :
    (text (.map es)).toList = '\x7b' :: ((entries es).toList ++ ['\x7d']) := by
  rw [text, String.toList_append, String.toList_append]
  rfl

/-- The first character of a value is no blank, and closes nothing. -/
theorem opens_text {v : Value} (h : Exact v) : Opens (text v).toList := by
  cases h with
  | null => exact ⟨'n', _, rfl, rfl, by decide, by decide⟩
  | bool b =>
    cases b with
    | true => exact ⟨'t', _, rfl, rfl, by decide, by decide⟩
    | false => exact ⟨'f', _, rfl, rfl, by decide, by decide⟩
  -- an integer starts with a digit or a sign
  | int i =>
    obtain ⟨c, rest, hChars, hStart⟩ := exists_startsNumber i
    exact ⟨c, rest, hChars, hStart.isBlank, hStart.ne (by decide), hStart.ne (by decide)⟩
  -- a text with its quote
  | str s =>
    obtain ⟨body, hQuote, -⟩ := string?_quote s []
    exact ⟨'"', body, hQuote, rfl, by decide, by decide⟩
  | @list vs h => exact ⟨'[', _, toList_list vs, rfl, by decide, by decide⟩
  | @map es hKeys h => exact ⟨'\x7b', _, toList_map es, rfl, by decide, by decide⟩

/-- So does a list of values that has any. -/
theorem opens_items {vs : List Value} (hSome : vs ≠ []) (h : ∀ v ∈ vs, Exact v) :
    Opens (items vs).toList := by
  match vs, hSome with
  | [v], _ =>
    rw [items]
    exact opens_text (h v List.mem_cons_self)
  | v :: w :: rest, _ =>
    obtain ⟨c, cs, hChars, hOpens⟩ := opens_text (h v List.mem_cons_self)
    rw [toList_items_cons, hChars]
    exact ⟨c, _, rfl, hOpens⟩

/-- The members of an object start with a quote. -/
theorem opens_entries {es : List (Value × Value)} (hSome : es ≠ [])
    (hKeys : ∀ e ∈ es, ∃ k, e.1 = .str k) : Opens (entries es).toList := by
  match es, hSome with
  -- one member
  | [(_, v)], _ =>
    obtain ⟨k, rfl⟩ := hKeys _ List.mem_cons_self
    obtain ⟨body, hQuote, -⟩ := string?_quote k []
    rw [toList_entries_singleton, hQuote]
    exact ⟨'"', _, rfl, rfl, by decide, by decide⟩
  -- several, of which the first one comes first
  | (_, v) :: e :: rest, _ =>
    obtain ⟨k, rfl⟩ := hKeys _ List.mem_cons_self
    obtain ⟨body, hQuote, -⟩ := string?_quote k []
    rw [toList_entries_cons, hQuote]
    exact ⟨'"', _, rfl, rfl, by decide, by decide⟩

/-- What follows an opening bracket and is not closed at once is read as items. -/
theorem value?_bracket {cs : List Char} (h : Opens cs) (fuel : Nat) (rest : List Char) :
    value? (fuel + 1) ('[' :: (cs ++ rest)) =
      (items? fuel (cs ++ rest)).map fun p => (.list p.1, p.2) := by
  have hDrop := h.dropWhile rest
  obtain ⟨c, cs, rfl, -, hOther, -⟩ := h
  have hHead : ('[' :: (c :: cs ++ rest)).dropWhile isBlank = '[' :: (c :: cs ++ rest) := rfl
  rw [value?, hHead]
  split
  -- what is behind the bracket does not close it
  case h_2 hEq =>
    obtain rfl := (List.cons.inj hEq).2
    rw [hDrop]
    split
    · next hEq => exact absurd (List.cons.inj hEq).1 hOther
    · rfl
  case h_7 hOpen _ _ _ _ => exact absurd rfl (hOpen _)
  -- no other kind of value starts with a bracket
  all_goals next hEq => simp at hEq

/-- What follows an opening brace and is not closed at once is read as members. -/
theorem value?_brace {cs : List Char} (h : Opens cs) (fuel : Nat) (rest : List Char) :
    value? (fuel + 1) ('\x7b' :: (cs ++ rest)) =
      (members? fuel (cs ++ rest)).map fun p => (.map p.1, p.2) := by
  have hDrop := h.dropWhile rest
  obtain ⟨c, cs, rfl, -, -, hOther⟩ := h
  have hHead : ('\x7b' :: (c :: cs ++ rest)).dropWhile isBlank = '\x7b' :: (c :: cs ++ rest) := rfl
  rw [value?, hHead]
  split
  -- what is behind the brace does not close it
  case h_3 hEq =>
    obtain rfl := (List.cons.inj hEq).2
    rw [hDrop]
    split
    · next hEq => exact absurd (List.cons.inj hEq).1 hOther
    · rfl
  case h_7 hOpen _ _ _ => exact absurd rfl (hOpen _)
  -- no other kind of value starts with a brace
  all_goals next hEq => simp at hEq

/-- A list is read from its items. -/
theorem readsAs_list {vs : List Value} (hExact : ∀ v ∈ vs, Exact v)
    (h : ∀ v ∈ vs, ReadsAs (text v).toList v) : ReadsAs (text (.list vs)).toList (.list vs) := by
  intro fuel rest hFuel _
  rw [toList_list] at hFuel ⊢
  simp only [List.length_cons, List.length_append, List.length_nil] at hFuel
  cases fuel with
  | zero => omega
  | succ fuel =>
    -- an empty list is closed at once
    by_cases hSome : vs = []
    · subst hSome
      rw [value?]
      rfl
    -- any other one is read item by item
    · have hItems := items?_items hSome h fuel rest (by omega)
      rw [List.cons_append, List.append_assoc, List.singleton_append,
        value?_bracket (opens_items hSome hExact), hItems]
      rfl

/-- An object is read from its members. -/
theorem readsAs_map {es : List (Value × Value)} (hKeys : ∀ e ∈ es, ∃ k, e.1 = .str k)
    (h : ∀ e ∈ es, ReadsAs (text e.2).toList e.2) : ReadsAs (text (.map es)).toList (.map es) := by
  intro fuel rest hFuel _
  rw [toList_map] at hFuel ⊢
  simp only [List.length_cons, List.length_append, List.length_nil] at hFuel
  cases fuel with
  | zero => omega
  | succ fuel =>
    -- an empty object is closed at once
    by_cases hSome : es = []
    · subst hSome
      rw [value?]
      rfl
    -- any other one is read member by member
    · have hMembers := members?_entries hSome hKeys h fuel rest (by omega)
      rw [List.cons_append, List.append_assoc, List.singleton_append,
        value?_brace (opens_entries hSome hKeys), hMembers]
      rfl

/-- A text is read from between its quotes. -/
theorem readsAs_str (s : String) : ReadsAs (text (.str s)).toList (.str s) := by
  intro fuel rest hFuel _
  obtain ⟨body, hQuote, hString⟩ := string?_quote s rest
  obtain ⟨fuel, rfl⟩ := Nat.exists_eq_add_of_lt hFuel
  have hChars : (text (.str s)).toList = '"' :: body := by rw [text, hQuote]
  rw [hChars, value?]
  change (string? (body ++ rest)).map (fun p => (Value.str p.1, p.2)) = _
  rw [hString]
  rfl

/-- A value is read from its text, wherever this stands. -/
theorem readsAs_text {v : Value} (h : Exact v) : ReadsAs (text v).toList v := by
  -- on the value: the parts of lists and objects are read wherever they stand
  induction h with
  | null =>
    intro fuel rest hFuel _
    obtain ⟨fuel, rfl⟩ := Nat.exists_eq_add_of_lt hFuel
    rw [value?]
    rfl
  | bool b =>
    intro fuel rest hFuel _
    obtain ⟨fuel, rfl⟩ := Nat.exists_eq_add_of_lt hFuel
    rw [value?]
    cases b <;> rfl
  | int i => exact readsAs_int i
  | str s => exact readsAs_str s
  | list hExact h => exact readsAs_list hExact h
  | map hKeys _ h => exact readsAs_map hKeys h

/-- **A value reads back from its text.** -/
theorem read?_text {v : Value} (h : Exact v) : read? (text v) = some v := by
  have hRead := readsAs_text h (2 * (text v).toList.length + 2) [] (by omega) nofun
  rw [List.append_nil] at hRead
  unfold read?
  simp only [hRead]
  rfl

end Json

/-! ## Lines of a log -/

/-- All values of a list of named fields are exact. -/
def ExactFields (fields : List (String × Value)) : Prop :=
  ∀ f ∈ fields, Json.Exact f.2

namespace LogContext

/-- A field with an exact value leaves the fields exact, -/
theorem exactFields_setField {fields : List (String × Value)} (h : ExactFields fields)
    {name : String} {v : Value} (hv : Json.Exact v) : ExactFields (setField fields name v) := by
  unfold setField
  split
  -- a field of this name is replaced
  · intro f hf
    obtain ⟨f₀, hf₀, rfl⟩ := List.mem_map.1 hf
    split
    · exact hv
    · exact h f₀ hf₀
  -- a new one comes last
  · intro f hf
    rcases List.mem_append.1 hf with hOld | hNew
    · exact h f hOld
    · exact List.mem_singleton.1 hNew ▸ hv

/-- and so do several of them. -/
theorem exactFields_setFields {fields changes : List (String × Value)} (h : ExactFields fields)
    (hChanges : ExactFields changes) : ExactFields (setFields fields changes) := by
  unfold setFields
  induction changes generalizing fields with
  | nil => exact h
  | cons c rest ih =>
    obtain ⟨hFirst, hRest⟩ := List.forall_mem_cons.1 hChanges
    exact ih (exactFields_setField h hFirst) hRest

/-- The named fields of a context are texts, so only the further ones may not be exact. -/
theorem exactFields_fields {c : LogContext} (h : ExactFields c.extra) : ExactFields c.fields := by
  refine exactFields_setFields (fun f hf => ?_) h
  obtain ⟨g, -, hg⟩ := List.mem_filterMap.1 hf
  obtain ⟨s, -, rfl⟩ := Option.map_eq_some_iff.1 hg
  exact .str s

end LogContext

namespace LogLine

/-- Entries of an object: texts as keys, and exact values. -/
def ExactEntries (es : List (Value × Value)) : Prop :=
  ∀ e ∈ es, (∃ k, e.1 = .str k) ∧ Json.Exact e.2

/-- Exact entries in two parts are exact together. -/
theorem ExactEntries.append {es es' : List (Value × Value)} (h : ExactEntries es)
    (h' : ExactEntries es') : ExactEntries (es ++ es') :=
  List.forall_mem_append.2 ⟨h, h'⟩

/-- An entry with an exact value is exact, -/
theorem exactEntries_entry (name : String) {v : Value} (h : Json.Exact v) :
    ExactEntries [entry name v] :=
  List.forall_mem_singleton.2 ⟨⟨name, rfl⟩, h⟩

/-- An entry that may be left out. -/
theorem exactEntries_ite (shown : Bool) {es : List (Value × Value)} (h : ExactEntries es) :
    ExactEntries (if shown then es else []) := by
  cases shown with
  | true => exact h
  | false => exact nofun

/-- and so is a group of fields that are. -/
theorem exactEntries_group (name : String) {fields : List (String × Value)}
    (h : ExactFields fields) : ExactEntries (group name fields) := by
  unfold group
  split
  -- no fields, no group
  · exact nofun
  · refine exactEntries_entry name (.map ?_ ?_)
    · intro e he
      obtain ⟨f, -, rfl⟩ := List.mem_map.1 he
      exact ⟨f.1, rfl⟩
    · intro e he
      obtain ⟨f, hf, rfl⟩ := List.mem_map.1 he
      exact h f hf

/-- The entries of a record are exact if its data and the further fields of its context are. -/
theorem exactEntries_entries (parts : LogParts) (time : String) {l : LogLine}
    (hData : ExactFields l.data) (hExtra : ExactFields l.context.extra) :
    ExactEntries (l.entries parts time) := by
  -- each part is shown or left out
  have hText (name s : String) : ExactEntries [entry name (.str s)] :=
    exactEntries_entry name (.str s)
  have hContext := exactEntries_group "context" (LogContext.exactFields_fields hExtra)
  have hHead := ((exactEntries_ite parts.timestamp (hText "timestamp" time)).append
    (exactEntries_ite parts.level (hText "level" l.level))).append
    (exactEntries_ite parts.logger (hText "logger" l.logger))
  -- the parts come in the order of the record
  unfold entries
  refine (((hHead.append (hText "message" l.message)).append
    (exactEntries_ite parts.context hContext)).append
    (exactEntries_group "data" hData)).append ?origin
  -- the last one tells where the record was made, if this is known
  case origin =>
    split
    · exact nofun
    · refine exactEntries_group "source" ?_
      simp [ExactFields, Json.Exact.str, Json.Exact.int]

/-- **A log in JSON loses nothing.** The line of a record reads back as the entries of the record,
whatever is in its texts, as long as its data and its further fields have no doubles. -/
theorem read?_json (parts : LogParts) (time : String) {l : LogLine}
    (hData : ExactFields l.data) (hExtra : ExactFields l.context.extra) :
    Json.read? (l.json parts time) = some (.map (l.entries parts time)) := by
  have hExact := exactEntries_entries parts time hData hExtra
  exact Json.read?_text (.map (fun e he => (hExact e he).1) fun e he => (hExact e he).2)

end LogLine

end MappingDdl
