import MappingDdl.Proofs.TypeGrammar

/-!
# Answers to type names — what a catalog says to any text

A catalog is asked about every text that a document gives as a type: names of classes come to it,
too. So a text that is no type expression should get the answer that there is no such type, and a
type expression should mean the same however it is spelled. Both hold but for the numbers. A group
may hold what looks like a number to the part of the reader that finds the brackets, and is none to
the part that reads numbers. Then there is no answer but an error.

Main results:

* `answer_of_not_isTypeExpression` — what is no type expression names no type, unless blanks stand
  between the digits of an item.
* `Frame.spell_reads_back` — a base name and numbers read back as they are written, in any frame,
  unless an information separator stands next to a number.
-/

namespace MappingDdl.TypeExpression

open Text

variable {s : String} {x : Frame} {items : Option (List (List Char))}

/-! ## What is no type expression -/

/-- What a spelling is read as: the base name in lower case, and its parameters. -/
theorem ofText_chars (hs : s.toList = x.chars items) (hLoose : AreLoose (items.getD [])) :
    ofText s = (readParams (TypeExpression.items ((items.map content).getD []))).map fun params =>
      some ⟨lower (String.ofList (x.base.rdropWhile (· == ' '))), params⟩ := by
  rw [ofText, hs, read_chars x items hLoose]

/-- A text that does not match is no type. -/
theorem ofText_of_read_eq_none (h : read s.toList = none) : ofText s = .ok none := by
  rw [ofText, h]

/-- A type expression matches. -/
theorem IsTypeExpression.exists_read (h : IsTypeExpression s) : ∃ p, read s.toList = some p := by
  obtain ⟨x, items, hs, hItems⟩ := h
  have hLoose : AreLoose (items.getD []) := fun item hItem => (hItems item hItem).isDigit_or_isBlank
  exact ⟨_, hs ▸ read_chars x items hLoose⟩

/-- So does a text with a broken number: what is in the brackets is not looked at yet. -/
theorem BreaksNumber.exists_read (h : BreaksNumber s) : ∃ p, read s.toList = some p := by
  obtain ⟨x, items, hs, hLoose, -⟩ := h
  exact ⟨_, hs ▸ read_chars x (some items) hLoose⟩

/-- A text from which something is read is one or the other. -/
theorem isTypeExpression_or_breaksNumber {p : List Char × Option (List Char)}
    (h : read s.toList = some p) : IsTypeExpression s ∨ BreaksNumber s := by
  obtain ⟨x, items, hs, hLoose⟩ := exists_chars_of_read h
  by_cases hItems : ∀ item ∈ items.getD [], IsItem item
  · exact Or.inl ⟨x, items, hs, hItems⟩
  · simp only [not_forall] at hItems
    obtain ⟨item, hMem, hBroken⟩ := hItems
    cases items with
    | none => cases hMem
    | some items => exact Or.inr ⟨x, items, hs, hLoose, item, hMem, hBroken⟩

/-- An item that is none cannot be read as a number. -/
theorem BreaksNumber.isUnreadable (h : BreaksNumber s) : IsUnreadable s := by
  obtain ⟨x, items, hs, hLoose, hBroken⟩ := h
  obtain ⟨item, hMem, hItem⟩ := exists_not_isItem_withoutLead.2 hBroken
  have hNone : Integer.ofText? (String.ofList item) = none := by
    cases hRead : Integer.ofText? (String.ofList item) with
    | none => rfl
    | some n => exact absurd (isItem_of_ofText? (areLoose_withoutLead hLoose item hMem) hRead) hItem
  refine ⟨_, _, hs ▸ read_chars x (some items) hLoose, String.ofList item, ?_, hNone⟩
  exact (mem_items_content hLoose).2
    ⟨item, hMem, fun hBlank => hItem (isItem_of_allBlank hBlank), rfl⟩

/-- A text is not both. -/
theorem BreaksNumber.not_isTypeExpression (h : BreaksNumber s) : ¬ IsTypeExpression s := by
  rintro ⟨y, items', hs', hItems'⟩
  obtain ⟨x, items, hs, hLoose, hBroken⟩ := h
  have hLoose' : AreLoose (items'.getD []) :=
    fun item hItem => (hItems' item hItem).isDigit_or_isBlank
  -- in both ways the same group is read
  have hRead : read (x.chars (some items)) = read (y.chars items') := congrArg read (hs ▸ hs')
  rw [read_chars x (some items) hLoose, read_chars y items' hLoose'] at hRead
  obtain ⟨-, hGroup⟩ := Prod.mk.inj (Option.some.inj hRead)
  -- the one that is a type expression has brackets too
  cases items' with
  | none => cases hGroup
  | some items' =>
    -- the broken item is among those that are read, and in the type expression no item is broken
    obtain ⟨item, hMem, hItem⟩ := exists_not_isItem_withoutLead.2 hBroken
    have hText : String.ofList item ∈ TypeExpression.items (content items) :=
      (mem_items_content hLoose).2
        ⟨item, hMem, fun hBlank => hItem (isItem_of_allBlank hBlank), rfl⟩
    rw [Option.some.inj hGroup] at hText
    obtain ⟨item', hMem', -, hEq⟩ := (mem_items_content hLoose').1 hText
    obtain rfl : item = item' := String.ofList_inj.1 hEq
    obtain ⟨bad, hBad, hNot⟩ := exists_not_isItem_withoutLead.1 ⟨item, hMem', hItem⟩
    exact hNot (hItems' bad hBad)

/-- **What is no type expression names no type.** Reading it gives nothing, and no catalog has it,
unless blanks stand between the digits of an item: then all of these fail. -/
theorem answer_of_not_isTypeExpression (h : ¬ IsTypeExpression s) :
    (¬ BreaksNumber s → ofText s = .ok none ∧
      ∀ c : TypeCatalog, c.get? s = .ok none ∧ c.contains s = .ok false) ∧
    (BreaksNumber s → ofText s = .error .malformed ∧
      ∀ c : TypeCatalog, c.get? s = .error .malformed ∧ c.contains s = .error .malformed) := by
  constructor
  · intro hWhole
    -- what matches is a type expression, or breaks a number
    have hRead : read s.toList = none := by
      refine Option.eq_none_iff_forall_ne_some.2 fun p hp => ?_
      rcases isTypeExpression_or_breaksNumber hp with hIs | hBreaks
      · exact h hIs
      · exact hWhole hBreaks
    have hText : ofText s = .ok none := ofText_of_read_eq_none hRead
    refine ⟨hText, fun c => ?_⟩
    have hGet : c.get? s = .ok none := by
      rw [TypeCatalog.get?, hText]
      rfl
    exact ⟨hGet, by rw [TypeCatalog.contains, hGet]; rfl⟩
  -- a number that cannot be read is an error wherever it is read
  · intro hBreaks
    have hUnreadable : IsUnreadable s := hBreaks.isUnreadable
    refine ⟨ofText_eq_error_iff.2 ⟨rfl, hUnreadable⟩, fun c => ?_⟩
    have hGet : c.get? s = .error .malformed := TypeCatalog.get?_eq_error_iff.2 ⟨rfl, hUnreadable⟩
    exact ⟨hGet, by rw [TypeCatalog.contains, hGet]; rfl⟩

/-! ### Texts of both kinds -/

/-- A letter where a number belongs. -/
def lettered : String := "varchar[abc]"

/-- A letter in the brackets does not match. -/
theorem read_lettered : read lettered.toList = none := by
  decide +kernel

/-- The frame of a type with two numbers. -/
def numericFrame : Frame where
  before := []
  base := "numeric".toList
  middle := []
  opening := '['
  closing := ']'
  after := []
  blank_before := List.forall_mem_nil _
  isBase := ⟨'n', "umeric".toList, rfl, by decide +kernel, List.all_eq_true.1 (by decide +kernel)⟩
  blank_middle := List.forall_mem_nil _
  opens := Or.inl rfl
  closes := Or.inl rfl
  blank_after := List.forall_mem_nil _

/-- Two numbers without a comma between them. -/
def unseparated : String := "numeric[1 2]"

/-- Two digits with a space between them break a number. -/
theorem breaksNumber_unseparated : BreaksNumber unseparated :=
  ⟨numericFrame, ["1 2".toList], by decide +kernel, by decide +kernel,
    "1 2".toList, List.mem_cons_self, by decide +kernel⟩

/-- The first text names no type, and the second one is answered with an error. -/
theorem answer_to_lettered_and_unseparated :
    (¬ IsTypeExpression lettered ∧ ofText lettered = .ok none) ∧
      ¬ IsTypeExpression unseparated ∧ ofText unseparated = .error .malformed := by
  refine ⟨?_, ?_⟩
  -- a text that does not match is neither of the two
  · have hNot : ¬ IsTypeExpression lettered := by
      intro hIs
      obtain ⟨p, hp⟩ := hIs.exists_read
      rw [read_lettered] at hp
      cases hp
    have hWhole : ¬ BreaksNumber lettered := by
      intro hBreaks
      obtain ⟨p, hp⟩ := hBreaks.exists_read
      rw [read_lettered] at hp
      cases hp
    exact ⟨hNot, ((answer_of_not_isTypeExpression hNot).1 hWhole).1⟩
  -- a text with a broken number is no type expression
  · have hNot : ¬ IsTypeExpression unseparated := breaksNumber_unseparated.not_isTypeExpression
    exact ⟨hNot, ((answer_of_not_isTypeExpression hNot).2 breaksNumber_unseparated).1⟩

/-- Two numbers without a comma between them are no type expression, and still get an error. -/
theorem unseparated_not_refused :
    ¬ (¬ IsTypeExpression unseparated → ofText unseparated = .ok none) := by
  intro hClaim
  have hNone : ofText unseparated = .ok none :=
    hClaim breaksNumber_unseparated.not_isTypeExpression
  rw [ofText_eq_error_iff.2 ⟨rfl, breaksNumber_unseparated.isUnreadable⟩] at hNone
  cases hNone

/-! ## Numbers as they are written -/

/-- A natural number as it is written in a group. -/
structure Numeral where
  before : List Char
  value : Nat
  after : List Char
  blank_before : AllBlank before
  blank_after : AllBlank after
  /-- Longer numerals are neither read nor written. -/
  length_le : (Nat.toDigits 10 value).length ≤ Integer.maxDigits

namespace Numeral

def chars (n : Numeral) : List Char :=
  n.before ++ Nat.toDigits 10 n.value ++ n.after

/-- No information separator stands next to the number. -/
def StandsApart (n : Numeral) : Prop :=
  AllNumberBlank n.before ∧ AllNumberBlank n.after

instance : DecidablePred StandsApart :=
  fun n => decidable_of_iff
    (n.before.all isNumberBlank = true ∧ n.after.all isNumberBlank = true)
    (and_congr List.all_eq_true List.all_eq_true)

/-- The number without the blanks in front of it. -/
def withoutLead (n : Numeral) : Numeral :=
  { n with before := [], blank_before := List.forall_mem_nil _ }

variable {n : Numeral}

/-- A number has digits. -/
theorem toDigits_ne_nil (n : Nat) : Nat.toDigits 10 n ≠ [] :=
  List.ne_nil_of_length_pos Nat.length_toDigits_pos

/-- A numeral consists of digits and blanks. -/
theorem isDigit_or_isBlank : ∀ c ∈ n.chars, isDigit c = true ∨ isBlank c = true := by
  intro c hc
  rw [chars, List.mem_append, List.mem_append] at hc
  rcases hc with (hBefore | hDigit) | hAfter
  · exact Or.inr (n.blank_before c hBefore)
  · exact Or.inl ((Integer.ofDigits_toDigits n.value).1 c hDigit)
  · exact Or.inr (n.blank_after c hAfter)

/-- It is not blank. -/
theorem not_allBlank : ¬ AllBlank n.chars := by
  intro hBlank
  obtain ⟨d, hd⟩ := List.exists_mem_of_ne_nil _ (toDigits_ne_nil n.value)
  have hDigit : isDigit d = true := (Integer.ofDigits_toDigits n.value).1 d hd
  rw [isDigit_of_isBlank (hBlank d (by simp [chars, hd]))] at hDigit
  cases hDigit

/-- Without the blanks in front it is a numeral too. -/
theorem dropBlank_chars : dropBlank n.chars = n.withoutLead.chars := by
  obtain ⟨d, rest, hDigits⟩ := List.exists_cons_of_ne_nil (toDigits_ne_nil n.value)
  have hFirst : isBlank d = false :=
    isBlank_of_isDigit ((Integer.ofDigits_toDigits n.value).1 d (by simp [hDigits]))
  rw [chars, List.append_assoc, dropBlank_of_allBlank n.blank_before, chars, withoutLead, hDigits]
  exact List.dropWhile_cons_of_neg (by simp [hFirst])

/-- A number reads back exactly if it stands apart. -/
theorem ofText?_chars (n : Numeral) : Integer.ofText? (String.ofList n.chars) =
    if n.StandsApart then some (Int.ofNat n.value) else none := by
  obtain ⟨hDigits, hValue⟩ := Integer.ofDigits_toDigits n.value
  split
  -- it stands apart, so that the blanks around are not looked at
  · next hApart =>
    rw [chars, Integer.ofText?_numeral hApart.1 hApart.2 hDigits (toDigits_ne_nil n.value)
      n.length_le, hValue]
  · next hTogether =>
    refine Option.eq_none_iff_forall_ne_some.2 fun i hi => hTogether ?_
    -- what is read has no separator, so none of its characters is one
    obtain ⟨before, ds, after, hBefore, hAfter, -, hRun, hEq⟩ :=
      Integer.exists_numeral_of_ofText? n.isDigit_or_isBlank hi
    have hChar : ∀ c ∈ n.chars, isBlank c = true → isNumberBlank c = true := by
      intro c hc hBlank
      rw [hEq, List.mem_append, List.mem_append] at hc
      rcases hc with (hFront | hDigit) | hBack
      · exact hBefore c hFront
      · rw [isBlank_of_isDigit (hRun c hDigit)] at hBlank
        cases hBlank
      · exact hAfter c hBack
    constructor
    · exact fun c hc => hChar c (by simp [chars, hc]) (n.blank_before c hc)
    · exact fun c hc => hChar c (by simp [chars, hc]) (n.blank_after c hc)

end Numeral

/-- The numbers as they are read: blanks in front of the first one do not count. -/
def numeralsRead : List Numeral → List Numeral
  | [] => []
  | n :: rest => n.withoutLead :: rest

/-- No information separator stands next to a number, except in front of the first one. -/
def StandApart (ns : List Numeral) : Prop :=
  ∀ n ∈ numeralsRead ns, n.StandsApart

instance : DecidablePred StandApart :=
  fun ns => inferInstanceAs (Decidable (∀ n ∈ numeralsRead ns, n.StandsApart))

/-- The values of numbers. -/
def values (ns : List Numeral) : List Int :=
  ns.map fun n => Int.ofNat n.value

/-- A base name with numbers in brackets, or alone where there are none. -/
def Frame.spell (x : Frame) (ns : List Numeral) : String :=
  String.ofList (x.chars (if ns.isEmpty then none else some (ns.map (·.chars))))

section Spelling

variable {ns : List Numeral}

/-- The blanks in front of the first numeral do not change the values. -/
theorem values_numeralsRead : values (numeralsRead ns) = values ns := by
  cases ns <;> rfl

/-- The first numeral is read without its blanks in front. -/
theorem withoutLead_map_chars :
    withoutLead (ns.map (·.chars)) = (numeralsRead ns).map (·.chars) := by
  cases ns with
  | nil => rfl
  | cons n rest =>
    rw [List.map_cons, withoutLead, Numeral.dropBlank_chars, numeralsRead, List.map_cons]

/-- Numerals are items of digits and blanks. -/
theorem areLoose_map_chars (ns : List Numeral) : AreLoose (ns.map (·.chars)) := by
  intro item hItem
  obtain ⟨n, -, rfl⟩ := List.mem_map.1 hItem
  exact n.isDigit_or_isBlank

/-- The texts that are read as numbers are the numbers. -/
theorem items_content_numerals (ns : List Numeral) :
    TypeExpression.items (content (ns.map (·.chars))) =
      (numeralsRead ns).map fun n => String.ofList n.chars := by
  rw [items_content (areLoose_map_chars ns), withoutLead_map_chars, List.filterMap_map,
    ← List.filterMap_eq_map]
  refine List.filterMap_congr fun n _ => ?_
  have hSome : ¬ (dropBlank n.chars).isEmpty = true := by
    rw [List.isEmpty_iff, dropBlank, List.dropWhile_eq_nil_iff]
    exact n.not_allBlank
  exact if_neg hSome

/-- Numerals that stand apart are read as their values. If one of them does not, the whole is an
error. -/
theorem readParams_numerals (ns : List Numeral) :
    readParams (ns.map fun n => String.ofList n.chars) =
      if ∀ n ∈ ns, n.StandsApart then .ok (values ns) else .error .malformed := by
  induction ns with
  | nil => simp [readParams, values]
  | cons n rest ih =>
    rw [List.map_cons, readParams, n.ofText?_chars, ih]
    -- the error of the first one comes before all others
    by_cases hFirst : n.StandsApart
    · rw [if_pos hFirst]
      by_cases hRest : ∀ n ∈ rest, n.StandsApart
      · rw [if_pos hRest, if_pos (List.forall_mem_cons.2 ⟨hFirst, hRest⟩)]
        rfl
      · rw [if_neg hRest, if_neg fun hAll => hRest (List.forall_mem_cons.1 hAll).2]
        rfl
    · rw [if_neg hFirst]
      exact (if_neg fun hAll => hFirst (hAll n List.mem_cons_self)).symm

/-- What is read from the spelling of a base name with numbers. -/
theorem Frame.ofText_spell (x : Frame) (ns : List Numeral) (hBase : x.base.getLast? ≠ some ' ') :
    ofText (x.spell ns) = if StandApart ns then
      .ok (some ⟨lower (String.ofList x.base), values ns⟩) else .error .malformed := by
  -- no space is at the end of the base name, so none is taken away
  have hName : x.base.rdropWhile (· == ' ') = x.base := by
    refine List.rdropWhile_eq_self_iff.2 fun hNe => ?_
    intro hSpace
    exact hBase (by rw [List.getLast?_eq_some_getLast hNe, beq_iff_eq.1 hSpace])
  -- the items are the numerals, the first one without its blanks in front
  have hItems : TypeExpression.items
      (((if ns.isEmpty then none else some (ns.map (·.chars))).map content).getD []) =
        (numeralsRead ns).map fun n => String.ofList n.chars := by
    cases ns with
    | nil => rfl
    | cons n rest => exact items_content_numerals (n :: rest)
  have hLoose : AreLoose ((if ns.isEmpty then none else some (ns.map (·.chars))).getD []) := by
    cases ns with
    | nil => exact List.forall_mem_nil _
    | cons n rest => exact areLoose_map_chars (n :: rest)
  have hChars : (x.spell ns).toList =
      x.chars (if ns.isEmpty then none else some (ns.map (·.chars))) := String.toList_ofList
  rw [ofText_chars hChars hLoose, hItems, readParams_numerals, hName,
    values_numeralsRead]
  by_cases hApart : StandApart ns
  · rw [if_pos hApart]
    exact congrArg _ (if_pos hApart)
  · rw [if_neg hApart]
    exact congrArg _ (if_neg hApart)

end Spelling

/-- **Type expressions read back as they are written.** Whatever brackets, letter case and blanks
they have, the base name is read in lower case, with the numbers, and a catalog answers with the
type of that name, with these parameters. The exception are information separators next to a number,
which are an error. -/
theorem Frame.spell_reads_back (x : Frame) (ns : List Numeral)
    (hBase : x.base.getLast? ≠ some ' ') :
    (StandApart ns →
      ofText (x.spell ns) = .ok (some ⟨lower (String.ofList x.base), values ns⟩) ∧
      ∀ c : TypeCatalog, c.get? (x.spell ns) =
        .ok ((c.find? (lower (String.ofList x.base))).map (·.withParams (values ns)))) ∧
    (¬ StandApart ns → ofText (x.spell ns) = .error .malformed ∧
      ∀ c : TypeCatalog, c.get? (x.spell ns) = .error .malformed) := by
  have hText := x.ofText_spell ns hBase
  -- a catalog looks for the base name that is read
  constructor
  · intro hApart
    rw [if_pos hApart] at hText
    refine ⟨hText, fun c => ?_⟩
    rw [TypeCatalog.get?, hText]
    rfl
  -- or passes on the error
  · intro hTogether
    rw [if_neg hTogether] at hText
    refine ⟨hText, fun c => ?_⟩
    rw [TypeCatalog.get?, hText]
    rfl

/-- A type in mixed case with blanks everywhere. -/
def spacedFrame : Frame where
  before := [' ', '\t']
  base := "Double Precision".toList
  middle := [' ', '\n']
  opening := '('
  closing := ')'
  after := [' ']
  blank_before := List.all_eq_true.1 rfl
  isBase :=
    ⟨'D', "ouble Precision".toList, rfl, by decide +kernel, List.all_eq_true.1 (by decide +kernel)⟩
  blank_middle := List.all_eq_true.1 rfl
  opens := Or.inr rfl
  closes := Or.inr rfl
  blank_after := List.all_eq_true.1 rfl

/-- Two numbers, the first one behind a separator. -/
def spacedNumerals : List Numeral :=
  [⟨['\x1c'], 12, [' '], List.all_eq_true.1 rfl, List.all_eq_true.1 rfl, by decide⟩,
    ⟨['\t'], 2, [], List.all_eq_true.1 rfl, List.all_eq_true.1 rfl, by decide⟩]

/-- Two precisions between blanks are read back, with a tabulator and a new line in them. The
separator in front of the first one is not next to it once the group is read. -/
theorem spell_of_spaced :
    spacedFrame.spell spacedNumerals = " \tDouble Precision \n(\x1c12 ,\t2) " ∧
      ofText " \tDouble Precision \n(\x1c12 ,\t2) " = .ok (some ⟨"double precision", [12, 2]⟩) := by
  have hSpell : spacedFrame.spell spacedNumerals = " \tDouble Precision \n(\x1c12 ,\t2) " := by
    decide +kernel
  have hLower : lower (String.ofList spacedFrame.base) = "double precision" := by decide +kernel
  obtain ⟨hRead, -⟩ := spacedFrame.spell_reads_back spacedNumerals (by decide +kernel)
  obtain ⟨hText, -⟩ := hRead (by decide +kernel)
  rw [hSpell, hLower] at hText
  exact ⟨hSpell, hText⟩

/-- A separator behind a number. -/
def trailed : List Numeral :=
  [⟨[], 5, ['\x1c'], List.all_eq_true.1 rfl, List.all_eq_true.1 rfl, by decide⟩]

/-- A number does not read back with a separator behind it, though that is a blank. -/
theorem trailed_not_read_back :
    numericFrame.spell trailed = "numeric[5\x1c]" ∧
      ¬ ofText (numericFrame.spell trailed) = .ok (some ⟨"numeric", [5]⟩) := by
  refine ⟨by decide +kernel, ?_⟩
  rw [numericFrame.ofText_spell trailed (by decide +kernel), if_neg (by decide +kernel)]
  exact fun h => by cases h

end MappingDdl.TypeExpression
