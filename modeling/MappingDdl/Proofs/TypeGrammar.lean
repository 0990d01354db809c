import MappingDdl.Proofs.Failures
import MappingDdl.Proofs.Numerals

/-!
# The grammar of type expressions — what is one, and what else is looked at

A type expression has a base name and, optionally, a group of items in brackets, all with blanks
around them. An item is blank or a number. The reader looks for the base name and the brackets
first, and takes every digit, blank and comma between the brackets for what belongs there; the
numbers are read afterwards. So there are texts of which the first part of the reader makes nothing
wrong, but which are no type expressions: those with an item of several numbers.

A text is written here from a `Frame`, which is everything but the items. The frame of a text is not
unique, as spaces behind the base name may be part of it, but what is read from the text is
(`read_chars`), and nothing is read from a text without a frame (`exists_chars_of_read`).

Main results:

* `read_chars` — what is read from a text with a frame.
* `exists_chars_of_read` — a text from which something is read has a frame.
* `items_content` — which texts of a group are read as numbers.
-/

namespace MappingDdl.TypeExpression

open Text

/-! ## The grammar -/

/-- A base name: an ASCII letter or the underscore, then word characters, hyphens and spaces. -/
def IsBase (cs : List Char) : Prop :=
  ∃ c rest, cs = c :: rest ∧ isNameStart c = true ∧ ∀ d ∈ rest, isBaseChar d = true

/-- The text of a type expression without its items. -/
structure Frame where
  before : List Char
  base : List Char
  /-- What stands between the base name and the opening bracket. -/
  middle : List Char
  opening : Char
  closing : Char
  after : List Char
  blank_before : AllBlank before
  isBase : IsBase base
  blank_middle : AllBlank middle
  opens : opening = '[' ∨ opening = '('
  closes : closing = ']' ∨ closing = ')'
  blank_after : AllBlank after

/-- A bracket group of items, if there is one, and all that follows it. -/
def Frame.tail (x : Frame) : Option (List (List Char)) → List Char
  | none => x.after
  | some items => x.opening :: ([','].intercalate items ++ x.closing :: x.after)

/-- The text with a bracket group of items, or without one. -/
def Frame.chars (x : Frame) (items : Option (List (List Char))) : List Char :=
  x.before ++ x.base ++ (x.middle ++ x.tail items)

/-- The items are made of digits and blanks. -/
def AreLoose (items : List (List Char)) : Prop :=
  ∀ item ∈ items, ∀ c ∈ item, isDigit c = true ∨ isBlank c = true

-- the characters of an item are tried, not all characters that there are
instance : DecidablePred AreLoose :=
  fun items => decidable_of_iff
    ((items.all fun item => item.all fun c => isDigit c || isBlank c) = true) (by simp [AreLoose])

/-- An item of a type expression: a run of digits with blanks around it, or blanks only. -/
def IsItem (item : List Char) : Prop :=
  AllDigits (trimBlank item)

instance : DecidablePred IsItem :=
  fun item => decidable_of_iff ((trimBlank item).all isDigit = true) List.all_eq_true

/-- The text is a type expression. -/
def IsTypeExpression (s : String) : Prop :=
  ∃ (x : Frame) (items : Option (List (List Char))),
    s.toList = x.chars items ∧ ∀ item ∈ items.getD [], IsItem item

/-- The text is one but for an item in which blanks stand between digits. -/
def BreaksNumber (s : String) : Prop :=
  ∃ (x : Frame) (items : List (List Char)),
    s.toList = x.chars (some items) ∧ AreLoose items ∧ ∃ item ∈ items, ¬ IsItem item

/-! ## Characters -/

section Characters

variable {c : Char} {cs : List Char}

/-- The space is the only blank character of a base name. -/
theorem not_baseChar_blankPoints : ∀ n ∈ Case.blankPoints, n ≠ 32 →
    isBaseChar (Char.ofNat n) = false := by
  decide +kernel

/-- The only blank that may stand in a base name is the space. -/
theorem eq_space_of_isBaseChar (hBase : isBaseChar c = true) (hBlank : isBlank c = true) :
    c = ' ' := by
  obtain ⟨n, hn, rfl⟩ := Case.exists_point_of_isBlank hBlank
  by_cases hSpace : n = 32
  · rw [hSpace]
  · rw [not_baseChar_blankPoints n hn hSpace] at hBase
    cases hBase

/-- No blank character begins a name. -/
theorem isNameStart_blankPoints : ∀ n ∈ Case.blankPoints, isNameStart (Char.ofNat n) = false := by
  decide +kernel

/-- So what begins a name is not blank. -/
theorem isBlank_of_isNameStart (h : isNameStart c = true) : isBlank c = false := by
  refine Bool.eq_false_iff.2 fun hBlank => ?_
  obtain ⟨n, hn, rfl⟩ := Case.exists_point_of_isBlank hBlank
  rw [isNameStart_blankPoints n hn] at h
  cases h

/-- A bracket is neither part of a base name nor of a group, and no blank. -/
structure Delimits (c : Char) : Prop where
  base  : isBaseChar c = false
  group : isGroupChar c = false
  blank : isBlank c = false

/-- An opening bracket ends the base name and the blanks behind it. -/
theorem Frame.delimits_opening (x : Frame) : Delimits x.opening := by
  rcases x.opens with h | h <;> rw [h] <;> exact ⟨by decide +kernel, by decide +kernel, by decide⟩

/-- A closing bracket ends the group. -/
theorem Frame.delimits_closing (x : Frame) : Delimits x.closing := by
  rcases x.closes with h | h <;> rw [h] <;> exact ⟨by decide +kernel, by decide +kernel, by decide⟩

/-- Blanks in front of a text are dropped. -/
theorem dropBlank_of_allBlank (h : AllBlank cs) (rest : List Char) :
    dropBlank (cs ++ rest) = dropBlank rest :=
  List.dropWhile_append_of_pos h

/-- Nothing is left of blanks. -/
theorem dropBlank_eq_nil (h : AllBlank cs) : dropBlank cs = [] :=
  List.dropWhile_eq_nil_iff.2 h

theorem dropBlank_dropBlank (cs : List Char) : dropBlank (dropBlank cs) = dropBlank cs :=
  List.dropWhile_idempotent _ _

end Characters

/-! ## Items -/

section Items

variable {item : List Char} {items : List (List Char)}

/-- Blanks in front of an item make no difference. -/
theorem isItem_dropBlank : IsItem (dropBlank item) ↔ IsItem item := by
  rw [IsItem, IsItem, trimBlank, dropBlank_dropBlank, trimBlank]

/-- Blanks are an item. -/
theorem isItem_of_allBlank (h : AllBlank item) : IsItem item := by
  have hNone : trimBlank item = [] := by
    rw [trimBlank, dropBlank_eq_nil h]
    rfl
  rw [IsItem, hNone]
  exact List.forall_mem_nil _

/-- An item consists of digits and blanks. -/
theorem IsItem.isDigit_or_isBlank (h : IsItem item) :
    ∀ c ∈ item, isDigit c = true ∨ isBlank c = true := by
  obtain ⟨before, after, hBefore, hAfter, hEq⟩ := exists_trimBlank item
  intro c hc
  rw [hEq, List.mem_append, List.mem_append] at hc
  rcases hc with (hFront | hRun) | hBack
  · exact Or.inr (hBefore c hFront)
  · exact Or.inl (h c hRun)
  · exact Or.inr (hAfter c hBack)

/-- What is read as a number is an item. -/
theorem isItem_of_ofText? {n : Int} (hChars : ∀ c ∈ item, isDigit c = true ∨ isBlank c = true)
    (h : Integer.ofText? (String.ofList item) = some n) : IsItem item := by
  obtain ⟨before, ds, after, hBefore, hAfter, -, hDigits, rfl⟩ :=
    Integer.exists_numeral_of_ofText? hChars h
  have hTrimmed : Trimmed ds := by
    constructor
    · exact fun c hc => isBlank_of_isDigit (hDigits c (List.mem_of_mem_head? hc))
    · exact fun c hc => isBlank_of_isDigit (hDigits c (List.mem_of_getLast? hc))
  rw [IsItem, trimBlank_pad hBefore.allBlank hAfter.allBlank, hTrimmed.trimBlank_eq]
  exact hDigits

/-- There is no comma in items of digits and blanks. -/
theorem AreLoose.comma_notMem (h : AreLoose items) : ∀ item ∈ items, ',' ∉ item := by
  intro item hItem hComma
  have hNot : ¬ (isDigit ',' = true ∨ isBlank ',' = true) := by decide +kernel
  exact hNot (h item hItem ',' hComma)

/-- Such items, with commas between, are what the brackets take. -/
theorem AreLoose.forall_isGroupChar (h : AreLoose items) :
    ∀ c ∈ [','].intercalate items, isGroupChar c = true := by
  induction items with
  | nil => exact List.forall_mem_nil _
  | cons item rest ih =>
    obtain ⟨hItem, hRest⟩ := List.forall_mem_cons.1 h
    have hFirst : ∀ c ∈ item, isGroupChar c = true := by
      intro c hc
      rcases hItem c hc with hDigit | hBlank
      · simp [isGroupChar, hDigit]
      · simp [isGroupChar, hBlank]
    cases rest with
    | nil => simpa using hFirst
    | cons next rest =>
      intro c hc
      -- the character is in the first item, or the comma behind it, or further on
      rw [List.intercalate_cons_cons, List.mem_append, List.mem_append] at hc
      rcases hc with (hHere | hComma) | hLater
      · exact hFirst c hHere
      · rw [List.mem_singleton.1 hComma]
        decide +kernel
      · exact ih hRest c hLater

/-- The items as they are read: the blanks at the front of the group are gone. -/
def withoutLead : List (List Char) → List (List Char)
  | [] => []
  | item :: rest => dropBlank item :: rest

/-- They are such items without the blanks at the front too. -/
theorem areLoose_withoutLead (h : AreLoose items) : AreLoose (withoutLead items) := by
  cases items with
  | nil => exact h
  | cons item rest =>
    obtain ⟨hItem, hRest⟩ := List.forall_mem_cons.1 h
    exact List.forall_mem_cons.2 ⟨fun c hc => hItem c (List.dropWhile_subset _ hc), hRest⟩

/-- An item is broken whether or not blanks are in front of it. -/
theorem exists_not_isItem_withoutLead :
    (∃ item ∈ withoutLead items, ¬ IsItem item) ↔ ∃ item ∈ items, ¬ IsItem item := by
  cases items with
  | nil => exact Iff.rfl
  | cons item rest => rw [withoutLead, List.exists_mem_cons_iff, List.exists_mem_cons_iff,
      isItem_dropBlank]

/-- The group as it is read. -/
def content (items : List (List Char)) : List Char :=
  dropBlank ([','].intercalate items)

/-- What is read of a group is its items, without the blanks at its front. -/
theorem content_eq (items : List (List Char)) :
    content items = [','].intercalate (withoutLead items) := by
  unfold content
  match items with
  | [] => rfl
  | [item] => simp [withoutLead]
  -- a comma ends the blanks at the front, so they are those of the first item
  | item :: next :: rest =>
    have hComma : isBlank ',' = false := by decide
    rw [withoutLead, List.intercalate_cons_cons, List.intercalate_cons_cons, List.append_assoc,
      List.append_assoc]
    exact dropWhile_append_stop hComma _ _

/-- The texts that are read as numbers: those of the items that are not blank. -/
theorem items_content (h : AreLoose items) :
    TypeExpression.items (content items) =
      (withoutLead items).filterMap fun item =>
        if (dropBlank item).isEmpty then none else some (String.ofList item) := by
  rw [content_eq, TypeExpression.items]
  by_cases hSome : withoutLead items = []
  · -- no items are read as one that is blank
    rw [hSome]
    rfl
  · rw [List.splitOn_intercalate _ (areLoose_withoutLead h).comma_notMem hSome]

/-- The items that are read are those that are not blank. -/
theorem mem_items_content (h : AreLoose items) {t : String} :
    t ∈ TypeExpression.items (content items) ↔
      ∃ item ∈ withoutLead items, ¬ AllBlank item ∧ t = String.ofList item := by
  rw [items_content h, List.mem_filterMap]
  refine exists_congr fun item => and_congr_right fun _ => ?_
  rw [Option.ite_none_left_eq_some, List.isEmpty_iff, dropBlank, List.dropWhile_eq_nil_iff,
    Option.some.injEq, eq_comm (a := t)]

end Items

/-! ## What is read -/

section Reading

variable {cs group rest : List Char} {x : Frame} {items : Option (List (List Char))}

/-- Blanks behind a base name that are taken for a part of it are spaces. -/
theorem eq_space_of_mem_takeWhile (items : Option (List (List Char))) {c : Char}
    (hBlank : AllBlank x.middle) (hc : c ∈ (x.middle ++ x.tail items).takeWhile isBaseChar) :
    c = ' ' := by
  have hBase : isBaseChar c = true := List.mem_takeWhile_imp hc
  refine eq_space_of_isBaseChar hBase ?_
  cases items with
  | none =>
    have hAll : AllBlank (x.middle ++ x.after) :=
      List.forall_mem_append.2 ⟨hBlank, x.blank_after⟩
    exact hAll c (List.takeWhile_subset _ hc)
  | some items =>
    rw [Frame.tail, takeWhile_append_stop x.delimits_opening.base] at hc
    exact hBlank c (List.takeWhile_subset _ hc)

/-- The brackets are found behind the blanks, and the group without the blanks at its front. -/
theorem readGroup_tail (h : AreLoose (items.getD [])) :
    readGroup (dropBlank (x.tail items)) = some (items.map content) := by
  cases items with
  | none =>
    rw [Frame.tail, dropBlank_eq_nil x.blank_after]
    rfl
  | some items =>
    have hGroup : ∀ c ∈ [','].intercalate items, isGroupChar c = true := h.forall_isGroupChar
    have hOpening := x.delimits_opening
    have hClosing := x.delimits_closing
    rw [Frame.tail, dropBlank, List.dropWhile_cons_of_neg (by simp [hOpening.blank])]
    simp only [Option.map_some, content]
    generalize [','].intercalate items = group at hGroup
    -- the reader goes up to the closing bracket, and once more over the content from its front
    have hDrop : (group ++ x.closing :: x.after).dropWhile isGroupChar =
        x.closing :: x.after := by
      rw [dropWhile_append_stop hClosing.group, List.dropWhile_eq_nil_iff.2 hGroup,
        List.nil_append]
    have hTake : (dropBlank (group ++ x.closing :: x.after)).takeWhile isGroupChar =
        dropBlank group := by
      rw [dropBlank, dropWhile_append_stop hClosing.blank, takeWhile_append_stop hClosing.group]
      exact List.takeWhile_eq_self_iff.2 fun c hc => hGroup c (List.dropWhile_subset _ hc)
    have hEnd : (dropBlank x.after).isEmpty = true := by
      rw [dropBlank_eq_nil x.blank_after]
      rfl
    rw [readGroup, if_pos x.opens, hDrop]
    simp only [hTake, hEnd, x.closes, and_self, if_true]

/-- **What is written is read**, but for spaces behind the base name and blanks at the front of the
group. -/
theorem read_chars (x : Frame) (items : Option (List (List Char)))
    (h : AreLoose (items.getD [])) :
    read (x.chars items) = some (x.base.rdropWhile (· == ' '), items.map content) := by
  obtain ⟨c, rest, hEq, hStart, hRest⟩ := x.isBase
  -- what follows the base name may begin with spaces, which are read as a part of it
  generalize hBehind : x.middle ++ x.tail items = behind
  have hSpaces : ∀ d ∈ behind.takeWhile isBaseChar, d = ' ' :=
    fun d hd => eq_space_of_mem_takeWhile items x.blank_middle (hBehind ▸ hd)
  have hFront : dropBlank (x.chars items) = c :: (rest ++ behind) := by
    rw [Frame.chars, hBehind, hEq, List.append_assoc, dropBlank_of_allBlank x.blank_before]
    exact List.dropWhile_cons_of_neg (by simp [isBlank_of_isNameStart hStart])
  have hTake : (rest ++ behind).takeWhile isBaseChar = rest ++ behind.takeWhile isBaseChar :=
    List.takeWhile_append_of_pos hRest
  have hDrop : dropBlank ((rest ++ behind).dropWhile isBaseChar) = dropBlank (x.tail items) := by
    have hBlank : AllBlank (behind.takeWhile isBaseChar) := by
      intro d hd
      rw [hSpaces d hd]
      decide
    calc dropBlank ((rest ++ behind).dropWhile isBaseChar)
        = dropBlank (behind.dropWhile isBaseChar) := by rw [List.dropWhile_append_of_pos hRest]
      _ = dropBlank (behind.takeWhile isBaseChar ++ behind.dropWhile isBaseChar) :=
          (dropBlank_of_allBlank hBlank _).symm
      _ = dropBlank behind := by rw [List.takeWhile_append_dropWhile]
      _ = dropBlank (x.tail items) := by rw [← hBehind, dropBlank_of_allBlank x.blank_middle]
  have hBase : ((c :: (rest ++ behind.takeWhile isBaseChar)).reverse.dropWhile
      (· == ' ')).reverse = x.base.rdropWhile (· == ' ') := by
    rw [← List.cons_append, ← hEq, List.reverse_append, List.dropWhile_append_of_pos]
    · rfl
    · intro d hd
      simp [hSpaces d (List.mem_reverse.1 hd)]
  -- what is left to do is to follow the reader
  rw [read, hFront]
  simp only [hStart, if_true, hTake, hDrop, readGroup_tail h, hBase, Option.map_some]

/-- The items of a group are what stands between its commas. -/
theorem areLoose_splitOn {content : List Char} (h : ∀ c ∈ content, isGroupChar c = true) :
    AreLoose (content.splitOn ',') := by
  induction content with
  | nil => simp [AreLoose]
  | cons c rest ih =>
    obtain ⟨hFirst, hRest⟩ := List.forall_mem_cons.1 h
    -- the last item ends at a comma
    have hLater := ih hRest
    rw [List.splitOn_cons_eq_if_modifyHead]
    split
    · exact List.forall_mem_cons.2 ⟨List.forall_mem_nil _, hLater⟩
    · next hOther =>
      have hItem : isDigit c = true ∨ isBlank c = true := by
        simpa [isGroupChar, hOther] using hFirst
      -- the character joins the first item of the rest
      cases hSplit : rest.splitOn ',' with
      | nil => exact List.forall_mem_nil _
      | cons item items =>
        rw [hSplit] at hLater
        obtain ⟨hHead, hTail⟩ := List.forall_mem_cons.1 hLater
        exact List.forall_mem_cons.2 ⟨List.forall_mem_cons.2 ⟨hItem, hHead⟩, hTail⟩

/-- What is read as a group is a group: nothing, or items of digits and blanks between brackets,
with blanks behind. -/
theorem exists_group_of_readGroup {found : Option (List Char)} (h : readGroup cs = some found) :
    cs = [] ∨ ∃ opening items closing after, (opening = '[' ∨ opening = '(') ∧
      (closing = ']' ∨ closing = ')') ∧ AllBlank after ∧ AreLoose items ∧
      cs = opening :: ([','].intercalate items ++ closing :: after) := by
  cases cs with
  | nil => exact Or.inl rfl
  | cons opening rest =>
    rw [readGroup] at h
    split at h
    · next hOpens =>
      split at h
      -- the reader has stopped at the character that has to close the group
      · next closing after hDrop =>
        split at h
        · next hEnd =>
          obtain ⟨hCloses, hAfter⟩ := hEnd
          refine Or.inr ⟨opening, (rest.takeWhile isGroupChar).splitOn ',', closing, after, hOpens,
            hCloses, ?_, areLoose_splitOn fun c hc => List.mem_takeWhile_imp hc, ?_⟩
          · exact List.dropWhile_eq_nil_iff.1 (List.isEmpty_iff.1 hAfter)
          -- what is between the brackets is its pieces with the commas
          · rw [List.intercalate_splitOn, ← hDrop, List.takeWhile_append_dropWhile]
        · cases h
      · cases h
    · cases h

/-- **Nothing else is read.** -/
theorem exists_chars_of_read {p : List Char × Option (List Char)} (h : read cs = some p) :
    ∃ (x : Frame) (items : Option (List (List Char))),
      cs = x.chars items ∧ AreLoose (items.getD []) := by
  rw [read] at h
  split at h
  · cases h
  -- behind the blanks at the front something is left, and begins a name
  · next c rest hFront =>
    split at h
    · next hStart =>
      obtain ⟨found, hFound, -⟩ := Option.map_eq_some_iff.1 h
      have hBefore : cs = cs.takeWhile isBlank ++ (c :: rest) := by
        rw [← hFront]
        exact List.takeWhile_append_dropWhile.symm
      have hBehind : rest = rest.takeWhile isBaseChar ++
          ((rest.dropWhile isBaseChar).takeWhile isBlank ++
            dropBlank (rest.dropWhile isBaseChar)) := by
        rw [dropBlank, List.takeWhile_append_dropWhile, List.takeWhile_append_dropWhile]
      have hBase : IsBase (c :: rest.takeWhile isBaseChar) :=
        ⟨c, _, rfl, hStart, fun d hd => List.mem_takeWhile_imp hd⟩
      rcases exists_group_of_readGroup hFound with hNone |
        ⟨opening, items, closing, after, hOpens, hCloses, hAfter, hLoose, hGroup⟩
      -- no group, so that any brackets do for the frame
      · refine ⟨⟨cs.takeWhile isBlank, _, (rest.dropWhile isBaseChar).takeWhile isBlank, '[', ']',
          [], fun d hd => List.mem_takeWhile_imp hd, hBase, fun d hd => List.mem_takeWhile_imp hd,
          Or.inl rfl, Or.inl rfl, List.forall_mem_nil _⟩, none, ?_, List.forall_mem_nil _⟩
        rw [hNone] at hBehind
        rw [hBefore, Frame.chars, List.append_assoc, List.cons_append]
        congr
      -- a group, with its own brackets
      · refine ⟨⟨cs.takeWhile isBlank, _, (rest.dropWhile isBaseChar).takeWhile isBlank, opening,
          closing, after, fun d hd => List.mem_takeWhile_imp hd, hBase,
          fun d hd => List.mem_takeWhile_imp hd, hOpens, hCloses, hAfter⟩, some items, ?_, hLoose⟩
        rw [hGroup] at hBehind
        rw [hBefore, Frame.chars, List.append_assoc, List.cons_append]
        congr
    · cases h

end Reading

end MappingDdl.TypeExpression
