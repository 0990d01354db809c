import Mathlib.Data.List.DropRight
import Mathlib.Data.List.Forall2
import Mathlib.Data.String.Basic
import MappingDdl.Text.Blank
import MappingDdl.Text.Case
import MappingDdl.Text.Order

/-!
# Spellings — letter case, the blanks around a name, and the order of names

Names are looked up without the blanks around them, and without regard to case. The two do not get
into each other's way: a blank has no case, the image of any other character has no blanks, and the
context of a final sigma does not reach past a blank. So blanks around a text stay where they are
when its case changes, and are the only thing that trimming takes away.

Main results:

* `Text.upper_trim` and `Text.lower_trim` — case and trimming commute.
* `Text.upper_trim_eq_iff` — a text has the upper-case form of what is left of it by trimming
  exactly if trimming leaves it as it is.
* `Text.sorted_pairwise` — a sorted list of distinct texts increases.
-/

namespace MappingDdl.Text

/-! ## Images of characters -/

namespace Case

/-- What a change of case may make of a character: a blank stays as it is, and any other character
becomes characters that are no blanks. -/
structure IsImage (c : Char) (image : List Char) : Prop where
  ne_nil    : image ≠ []
  of_blank  : isBlank c = true → image = [c]
  not_blank : isBlank c = false → ∀ u ∈ image, isBlank u = false

/-- The code points of blanks. -/
def blankPoints : List Nat :=
  [9, 10, 11, 12, 13, 28, 29, 30, 31, 32, 0x85, 0xa0, 0x1680, 0x2000, 0x2001, 0x2002, 0x2003,
    0x2004, 0x2005, 0x2006, 0x2007, 0x2008, 0x2009, 0x200a, 0x2028, 0x2029, 0x202f, 0x205f, 0x3000]

/-- The blank characters are those of the list. -/
theorem toNat_mem_blankPoints {c : Char} (h : isBlank c = true) : c.toNat ∈ blankPoints := by
  simp only [isBlank, Bool.or_eq_true, Bool.and_eq_true, decide_eq_true_eq, beq_iff_eq] at h
  simp only [blankPoints, List.mem_cons, List.not_mem_nil, or_false]
  omega

/-- A blank character is one of the code points of the list. -/
theorem exists_point_of_isBlank {c : Char} (h : isBlank c = true) :
    ∃ n ∈ blankPoints, c = Char.ofNat n :=
  ⟨c.toNat, toNat_mem_blankPoints h, (Char.ofNat_toNat c).symm⟩

/-- A number that stands for a blank character is in the list. -/
theorem mem_blankPoints_of_isBlank {n : Nat} (h : isBlank (Char.ofNat n) = true) :
    n ∈ blankPoints := by
  have hMem := toNat_mem_blankPoints h
  by_cases hValid : n.isValidChar
  · rw [Char.ofNat, dif_pos hValid] at hMem
    exact hMem
  · -- what is no code point stands for the first one, which is not blank
    rw [Char.ofNat, dif_neg hValid] at hMem
    exact absurd hMem (by decide)

/-- What is checked of the tables, entry by entry: they map no blank, and nothing to a blank. -/
theorem upperChar_blankPoints :
    ∀ n ∈ blankPoints, upperChar (Char.ofNat n) = [Char.ofNat n] := by
  decide +kernel

/-- Blank characters have no lower case of their own. -/
theorem lowerChar_blankPoints :
    ∀ n ∈ blankPoints, lowerChar (Char.ofNat n) = [Char.ofNat n] := by
  decide +kernel

/-- They are neither cased nor ignored where a sigma is looked around. -/
theorem startsCased_blankPoints : ∀ n ∈ blankPoints,
    Ranges.contains ignorableBounds (Char.ofNat n).toNat = false ∧
      Ranges.contains casedBounds (Char.ofNat n).toNat = false := by
  decide +kernel

/-- No run of the list leads to a blank. -/
def Run.AvoidBlanks (runs : List Run) : Prop :=
  ∀ r ∈ runs, ∀ n ∈ blankPoints, n < r.image ∨ r.image + (r.last - r.first) < n

/-- No run of the upper case table leads to a blank character. -/
theorem avoidBlanks_upperRuns : Run.AvoidBlanks upperRuns := by
  unfold Run.AvoidBlanks
  decide +kernel

/-- And none of the lower case table. -/
theorem avoidBlanks_lowerRuns : Run.AvoidBlanks lowerRuns := by
  unfold Run.AvoidBlanks
  decide +kernel

/-- So what a run maps to is not blank. -/
theorem Run.AvoidBlanks.not_isBlank {runs : List Run} (h : AvoidBlanks runs) {n m : Nat}
    (hImage : image? runs n = some m) : isBlank (Char.ofNat m) = false := by
  obtain ⟨r, hFind, rfl⟩ := Option.map_eq_some_iff.1 hImage
  have hRange := List.find?_some hFind
  simp only [Bool.and_eq_true, decide_eq_true_eq] at hRange
  -- a blank image would lie in the range of the run
  refine Bool.eq_false_iff.2 fun hBlank => ?_
  have hOutside := h r (List.mem_of_find?_eq_some hFind) _ (mem_blankPoints_of_isBlank hBlank)
  omega

/-- No entry of the list has a blank, or nothing at all, as its image. -/
def ExpansionsAvoidBlanks (expansions : List (Nat × List Nat)) : Prop :=
  ∀ e ∈ expansions, e.2 ≠ [] ∧ ∀ n ∈ e.2, isBlank (Char.ofNat n) = false

/-- No upper case of several characters is empty or has a blank one. -/
theorem avoidBlanks_upperExpansions : ExpansionsAvoidBlanks upperExpansions := by
  unfold ExpansionsAvoidBlanks
  decide +kernel

/-- And no lower case. -/
theorem avoidBlanks_lowerExpansions : ExpansionsAvoidBlanks lowerExpansions := by
  unfold ExpansionsAvoidBlanks
  decide +kernel

/-- In ASCII the upper case of a character that is not blank is not blank either. -/
theorem isBlank_toUpper_ascii : ∀ n < 128, isBlank (Char.ofNat n) = false →
    isBlank (Char.ofNat n).toUpper = false := by
  decide +kernel

/-- And neither is its lower case. -/
theorem isBlank_toLower_ascii : ∀ n < 128, isBlank (Char.ofNat n) = false →
    isBlank (Char.ofNat n).toLower = false := by
  decide +kernel

/-- One character is an image if it is blank exactly where the other one is. -/
theorem isImage_singleton {c u : Char} (hBlank : isBlank c = true → [u] = [c])
    (h : isBlank c = false → isBlank u = false) : IsImage c [u] where
  ne_nil := List.cons_ne_nil _ _
  of_blank := hBlank
  not_blank hNone _ hu := List.mem_singleton.1 hu ▸ h hNone

/-- What both case maps do outside ASCII. -/
theorem isImage_of_tables {runs : List Run} {expansions : List (Nat × List Nat)}
    (hRuns : Run.AvoidBlanks runs) (hExpansions : ExpansionsAvoidBlanks expansions) {c : Char}
    {image : List Char} (hBlank : isBlank c = true → image = [c])
    (hImage : image = match expansions.lookup c.toNat with
      | some points => points.map Char.ofNat
      | none => [((Run.image? runs c.toNat).map Char.ofNat).getD c]) : IsImage c image := by
  cases hLookup : expansions.lookup c.toNat with
  -- several characters, none of which is blank
  | some points =>
    simp only [hLookup] at hImage
    have hMem : (c.toNat, points) ∈ expansions := by
      obtain ⟨before, after, hEq, -⟩ := List.lookup_eq_some_iff.1 hLookup
      simp [hEq]
    obtain ⟨hNe, hNot⟩ := hExpansions _ hMem
    refine ⟨by simpa [hImage] using hNe, hBlank, fun _ u hu => ?_⟩
    obtain ⟨n, hn, rfl⟩ := List.mem_map.1 (hImage ▸ hu)
    exact hNot n hn
  -- one character, from a run or the same
  | none =>
    simp only [hLookup] at hImage
    subst hImage
    refine isImage_singleton hBlank fun hNone => ?_
    cases hRun : Run.image? runs c.toNat with
    | none => exact hNone
    | some m => exact hRuns.not_isBlank hRun

/-- The upper case of a character is an image of it. -/
theorem isImage_upperChar (c : Char) : IsImage c (upperChar c) := by
  have hBlank (h : isBlank c = true) : upperChar c = [c] := by
    obtain ⟨n, hn, rfl⟩ := exists_point_of_isBlank h
    exact upperChar_blankPoints n hn
  -- the tables only speak of what is not ASCII
  by_cases hAscii : c.toNat < 128
  · rw [upperChar, if_pos hAscii] at hBlank ⊢
    have hUpper := isBlank_toUpper_ascii c.toNat hAscii
    rw [Char.ofNat_toNat] at hUpper
    exact isImage_singleton hBlank hUpper
  · exact isImage_of_tables avoidBlanks_upperRuns avoidBlanks_upperExpansions hBlank
      (if_neg hAscii)

/-- The lower case of a character, away from a final sigma, is an image of it. -/
theorem isImage_lowerChar (c : Char) : IsImage c (lowerChar c) := by
  have hBlank (h : isBlank c = true) : lowerChar c = [c] := by
    obtain ⟨n, hn, rfl⟩ := exists_point_of_isBlank h
    exact lowerChar_blankPoints n hn
  by_cases hAscii : c.toNat < 128
  · rw [lowerChar, if_pos hAscii] at hBlank ⊢
    have hLower := isBlank_toLower_ascii c.toNat hAscii
    rw [Char.ofNat_toNat] at hLower
    exact isImage_singleton hBlank hLower
  · exact isImage_of_tables avoidBlanks_lowerRuns avoidBlanks_lowerExpansions hBlank
      (if_neg hAscii)

end Case

/-! ## Blanks at the ends -/

section Ends

variable {p : Char → Bool} {cs before after : List Char}

/-- What is dropped at the ends of a text can be put back. -/
theorem exists_dropEnds (p : Char → Bool) (cs : List Char) :
    ∃ before after, (∀ c ∈ before, p c = true) ∧ (∀ c ∈ after, p c = true) ∧
      cs = before ++ (cs.dropWhile p).rdropWhile p ++ after := by
  refine ⟨cs.takeWhile p, (cs.dropWhile p).rtakeWhile p, fun c hc => List.mem_takeWhile_imp hc,
    fun c hc => List.mem_rtakeWhile_imp hc, ?_⟩
  rw [List.append_assoc, List.rdropWhile_append_rtakeWhile, List.takeWhile_append_dropWhile]

/-- What stands at the ends of a text and is dropped there makes no difference. -/
theorem dropEnds_pad (hBefore : ∀ c ∈ before, p c = true) (hAfter : ∀ c ∈ after, p c = true) :
    ((before ++ cs ++ after).dropWhile p).rdropWhile p = (cs.dropWhile p).rdropWhile p := by
  rw [List.append_assoc, List.dropWhile_append_of_pos hBefore, List.dropWhile_append]
  by_cases hNone : (cs.dropWhile p).isEmpty
  · -- nothing is left, so everything is dropped from the front
    rw [if_pos hNone, List.isEmpty_iff.1 hNone, List.dropWhile_eq_nil_iff.2 hAfter]
  · rw [if_neg hNone, List.rdropWhile, List.reverse_append, List.dropWhile_append_of_pos]
    · rfl
    · exact fun c hc => hAfter c (List.mem_reverse.1 hc)

end Ends

/-- All of the characters are blanks. -/
abbrev AllBlank (cs : List Char) : Prop :=
  ∀ c ∈ cs, isBlank c = true

/-- There is no blank at either end. -/
structure Trimmed (cs : List Char) : Prop where
  head : ∀ c ∈ cs.head?, isBlank c = false
  last : ∀ c ∈ cs.getLast?, isBlank c = false

section Trim

variable {cs before after : List Char}

/-- A text without blanks at the ends is what is left of it. -/
theorem Trimmed.trimBlank_eq (h : Trimmed cs) : trimBlank cs = cs := by
  have hDrop : dropBlank cs = cs := by
    cases cs with
    | nil => rfl
    | cons c rest => simp [dropBlank, h.head c rfl]
  rw [trimBlank, hDrop]
  refine List.rdropWhile_eq_self_iff.2 fun hNe => ?_
  simp [h.last _ (List.getLast?_eq_some_getLast hNe)]

/-- What is left of a text has no blanks at the ends. -/
theorem trimmed_trimBlank (cs : List Char) : Trimmed (trimBlank cs) := by
  have hPrefix : trimBlank cs <+: dropBlank cs := List.rdropWhile_prefix isBlank _
  constructor
  · intro c hc
    -- the first character that is left is the first one that was not dropped
    have hHead : (dropBlank cs).head? = some c := by
      obtain ⟨after, hAfter⟩ := hPrefix
      rw [← hAfter, List.head?_append, Option.mem_def.1 hc]
      rfl
    have hNot := List.head?_dropWhile_not isBlank cs
    rw [dropBlank] at hHead
    rw [hHead] at hNot
    exact hNot
  -- and the last one is the last one that was not dropped
  · intro c hc
    obtain ⟨hNe, hLast⟩ := List.mem_getLast?_eq_getLast hc
    have hNot := List.rdropWhile_last_not isBlank (dropBlank cs) hNe
    rw [hLast]
    exact Bool.eq_false_iff.2 hNot

/-- A text is what is left of it, with blanks around. -/
theorem exists_trimBlank (cs : List Char) :
    ∃ before after, AllBlank before ∧ AllBlank after ∧ cs = before ++ trimBlank cs ++ after :=
  exists_dropEnds isBlank cs

/-- Blanks around a text make no difference to what is left of it. -/
theorem trimBlank_pad (hBefore : AllBlank before) (hAfter : AllBlank after) :
    trimBlank (before ++ cs ++ after) = trimBlank cs :=
  dropEnds_pad hBefore hAfter

/-- A map that leaves blanks at the ends where they are, and makes none, commutes with trimming. -/
theorem trimBlank_comm {f : List Char → List Char}
    (hPad : ∀ before cs after, AllBlank before → AllBlank after →
      f (before ++ cs ++ after) = before ++ f cs ++ after)
    (hTrimmed : ∀ cs, Trimmed cs → Trimmed (f cs)) (cs : List Char) :
    trimBlank (f cs) = f (trimBlank cs) := by
  obtain ⟨before, after, hBefore, hAfter, hEq⟩ := exists_trimBlank cs
  calc trimBlank (f cs)
      = trimBlank (f (before ++ trimBlank cs ++ after)) := congrArg (fun l => trimBlank (f l)) hEq
    _ = trimBlank (before ++ f (trimBlank cs) ++ after) := by rw [hPad _ _ _ hBefore hAfter]
    _ = trimBlank (f (trimBlank cs)) := trimBlank_pad hBefore hAfter
    _ = f (trimBlank cs) := (hTrimmed _ (trimmed_trimBlank cs)).trimBlank_eq

end Trim

/-! ## Case and blanks -/

namespace Case

variable {cs before after : List Char} {images : List (List Char)}

/-- Images of a text without blanks at the ends make such a text. -/
theorem trimmed_flatten (h : List.Forall₂ IsImage cs images) (hTrimmed : Trimmed cs) :
    Trimmed images.flatten := by
  constructor
  -- its first character is not blank, so that of its image is not
  · cases h with
    | nil => simp
    | @cons c image cs images hImage _ =>
      intro u hu
      obtain ⟨v, rest, rfl⟩ := List.exists_cons_of_ne_nil hImage.ne_nil
      obtain rfl : v = u := by simpa using hu
      exact hImage.not_blank (hTrimmed.head c rfl) v List.mem_cons_self
  -- for the last one we go to the end of the text
  · have hLast := hTrimmed.last
    clear hTrimmed
    induction h with
    | nil => simp
    | @cons c image cs images hImage hRest ih =>
      intro u hu
      cases hRest with
      | nil =>
        rw [List.flatten_cons, List.flatten_nil, List.append_nil] at hu
        exact hImage.not_blank (hLast c rfl) u (List.mem_of_getLast? hu)
      | @cons c' image' cs' images' hImage' hRest' =>
        -- the last character comes from the rest, which is not empty
        have hNe : (image' :: images').flatten ≠ [] := by
          rw [List.flatten_cons]
          exact List.append_ne_nil_of_left_ne_nil hImage'.ne_nil _
        rw [List.flatten_cons, List.getLast?_append_of_ne_nil _ hNe] at hu
        exact ih hLast u hu

/-! ### Upper case -/

/-- Blanks are their own upper case. -/
theorem flatMap_upperChar_of_blank (h : AllBlank cs) : cs.flatMap upperChar = cs := by
  induction cs with
  | nil => rfl
  | cons c rest ih =>
    rw [List.flatMap_cons, (isImage_upperChar c).of_blank (h c List.mem_cons_self),
      ih fun c' hc' => h c' (List.mem_cons_of_mem _ hc')]
    rfl

/-- Blanks around a text stay around its upper case. -/
theorem flatMap_upperChar_pad (hBefore : AllBlank before) (hAfter : AllBlank after) :
    (before ++ cs ++ after).flatMap upperChar = before ++ cs.flatMap upperChar ++ after := by
  rw [List.flatMap_append, List.flatMap_append, flatMap_upperChar_of_blank hBefore,
    flatMap_upperChar_of_blank hAfter]

/-- The upper case of a text without blanks at the ends has none there. -/
theorem trimmed_flatMap_upperChar (h : Trimmed cs) : Trimmed (cs.flatMap upperChar) := by
  rw [List.flatMap_def]
  refine trimmed_flatten ?_ h
  rw [List.forall₂_map_right_iff]
  exact List.forall₂_same.2 fun c _ => isImage_upperChar c

/-! ### Lower case -/

/-- A blank ends the context of a sigma, just as the end of the text does. -/
theorem startsCased_append_of_blank (hAfter : AllBlank after) :
    startsCased (cs ++ after) = startsCased cs := by
  induction cs with
  | nil =>
    cases after with
    | nil => rfl
    | cons c rest =>
      obtain ⟨n, hn, rfl⟩ := exists_point_of_isBlank (hAfter c List.mem_cons_self)
      obtain ⟨hIgnorable, hCased⟩ := startsCased_blankPoints n hn
      simp [startsCased, hIgnorable, hCased]
  | cons c rest ih => rw [List.cons_append, startsCased, startsCased, ih]

/-- A blank character is its own lower case wherever it stands. -/
theorem lowerFrom_cons_of_blank (context : List Char) {c : Char} (h : isBlank c = true) :
    lowerFrom context (c :: cs) = c :: lowerFrom (c :: context) cs := by
  have hSigma : c ≠ 'Σ' := by
    rintro rfl
    exact absurd h (by decide)
  rw [lowerFrom, if_neg hSigma, (isImage_lowerChar c).of_blank h]
  rfl

/-- So blanks are. -/
theorem lowerFrom_of_blank (context : List Char) (h : AllBlank cs) : lowerFrom context cs = cs := by
  induction cs generalizing context with
  | nil => rfl
  | cons c rest ih =>
    obtain ⟨hBlank, hRest⟩ := List.forall_mem_cons.1 h
    rw [lowerFrom_cons_of_blank context hBlank, ih _ hRest]

/-- Blanks behind a text do not change its lower case: a sigma is as final as it was. -/
theorem lowerFrom_append_of_blank (context : List Char) (hAfter : AllBlank after) :
    lowerFrom context (cs ++ after) = lowerFrom context cs ++ after := by
  induction cs generalizing context with
  | nil => exact lowerFrom_of_blank context hAfter
  | cons c rest ih =>
    rw [List.cons_append, lowerFrom, lowerFrom, startsCased_append_of_blank hAfter, ih,
      List.append_assoc]

/-- Nor do blanks far in front of it. -/
theorem lowerFrom_context_of_blank (context : List Char) (hAfter : AllBlank after) :
    lowerFrom (context ++ after) cs = lowerFrom context cs := by
  induction cs generalizing context with
  | nil => rfl
  | cons c rest ih =>
    rw [lowerFrom, lowerFrom, startsCased_append_of_blank hAfter, ← List.cons_append, ih]

/-- Nor do blanks right in front of it. -/
theorem lowerFrom_blank_append {context : List Char} (hContext : AllBlank context)
    (hBefore : AllBlank before) : lowerFrom context (before ++ cs) = before ++ lowerFrom [] cs := by
  induction before generalizing context with
  | nil => exact lowerFrom_context_of_blank [] hContext
  | cons c rest ih =>
    obtain ⟨hBlank, hRest⟩ := List.forall_mem_cons.1 hBefore
    rw [List.cons_append, lowerFrom_cons_of_blank context hBlank,
      ih (List.forall_mem_cons.2 ⟨hBlank, hContext⟩) hRest]
    rfl

/-- Blanks around a text stay around its lower case. -/
theorem lowerFrom_pad (hBefore : AllBlank before) (hAfter : AllBlank after) :
    lowerFrom [] (before ++ cs ++ after) = before ++ lowerFrom [] cs ++ after := by
  rw [lowerFrom_append_of_blank _ hAfter, lowerFrom_blank_append (List.forall_mem_nil _) hBefore]

/-- The lower case of a text is made of images of its characters. -/
theorem exists_images_lowerFrom (context cs : List Char) :
    ∃ images, List.Forall₂ IsImage cs images ∧ lowerFrom context cs = images.flatten := by
  induction cs generalizing context with
  | nil => exact ⟨[], .nil, rfl⟩
  | cons c rest ih =>
    obtain ⟨images, hImages, hEq⟩ := ih (c :: context)
    rw [lowerFrom, hEq, ← List.flatten_cons]
    refine ⟨_, .cons ?_ hImages, rfl⟩
    split
    -- a sigma has one of two lower cases, and none is blank
    · next hSigma =>
      subst hSigma
      exact isImage_singleton (fun h => absurd h (by decide)) fun _ => by split <;> decide
    · exact isImage_lowerChar c

/-- The lower case of a text without blanks at the ends has none there. -/
theorem trimmed_lowerFrom (h : Trimmed cs) : Trimmed (lowerFrom [] cs) := by
  obtain ⟨images, hImages, hEq⟩ := exists_images_lowerFrom [] cs
  rw [hEq]
  exact trimmed_flatten hImages h

end Case

/-! ## Texts -/

/-- The text is another one with blanks around it. -/
def Pads (s t : String) : Prop :=
  ∃ before after, AllBlank before ∧ AllBlank after ∧ s.toList = before ++ t.toList ++ after

/-- What is left of a text is left of it with blanks around. -/
theorem Pads.trim_eq {s t : String} (h : Pads s t) : trim s = trim t := by
  obtain ⟨before, after, hBefore, hAfter, hEq⟩ := h
  rw [trim, trim, hEq, trimBlank_pad hBefore hAfter]

/-- A text is what is left of it with blanks around. -/
theorem pads_trim (s : String) : Pads s (trim s) := by
  obtain ⟨before, after, hBefore, hAfter, hEq⟩ := exists_trimBlank s.toList
  exact ⟨before, after, hBefore, hAfter, by rw [trim, String.toList_ofList, ← hEq]⟩

section Names

variable {s t name : String}

/-- The upper case of what is left is what is left of the upper case. -/
theorem upper_trim (s : String) : upper (trim s) = trim (upper s) := by
  rw [upper, upper, trim, trim, String.toList_ofList, String.toList_ofList]
  exact congrArg _ (trimBlank_comm (f := (·.flatMap Case.upperChar))
    (fun _ _ _ => Case.flatMap_upperChar_pad) (fun _ => Case.trimmed_flatMap_upperChar) _).symm

/-- So is the lower case. -/
theorem lower_trim (s : String) : lower (trim s) = trim (lower s) := by
  rw [lower, lower, trim, trim, String.toList_ofList, String.toList_ofList]
  exact congrArg _ (trimBlank_comm (f := Case.lowerFrom [])
    (fun _ _ _ => Case.lowerFrom_pad) (fun _ => Case.trimmed_lowerFrom) _).symm

/-- A name without blanks around it is found under every text that is the name in some letter case
with blanks around it. -/
theorem Pads.upper_trim_eq (h : Pads s t) (hCase : upper t = upper name)
    (hName : trim name = name) : upper (trim s) = upper name := by
  rw [h.trim_eq, upper_trim, hCase, ← upper_trim, hName]

/-- Case takes no character away, so what trimming takes away is missing afterwards, too. -/
theorem upper_trim_eq_iff : upper (trim s) = upper s ↔ trim s = s := by
  refine ⟨fun h => ?_, fun h => by rw [h]⟩
  obtain ⟨before, after, hBefore, hAfter, hEq⟩ := pads_trim s
  have hUpper : (upper s).toList = before ++ (upper (trim s)).toList ++ after := by
    rw [upper, String.toList_ofList, hEq, Case.flatMap_upperChar_pad hBefore hAfter, upper,
      String.toList_ofList]
  have hLength := congrArg List.length hUpper
  rw [h, List.length_append, List.length_append] at hLength
  obtain rfl : before = [] := List.eq_nil_of_length_eq_zero (by omega)
  obtain rfl : after = [] := List.eq_nil_of_length_eq_zero (by omega)
  rw [List.nil_append, List.append_nil] at hEq
  exact (String.toList_inj.1 hEq).symm

/-- The upper case of a text is empty only if the text is. -/
theorem upper_ne_empty (h : s ≠ "") : upper s ≠ "" := by
  obtain ⟨c, rest, hChars⟩ := List.exists_cons_of_ne_nil (mt String.toList_eq_nil_iff.1 h)
  intro hNone
  have hImages := congrArg String.toList hNone
  rw [upper, String.toList_ofList, hChars, List.flatMap_cons] at hImages
  exact (Case.isImage_upperChar c).ne_nil (List.append_eq_nil_iff.1 hImages).1

/-- So is the lower case. -/
theorem lower_ne_empty (h : s ≠ "") : lower s ≠ "" := by
  obtain ⟨c, rest, hChars⟩ := List.exists_cons_of_ne_nil (mt String.toList_eq_nil_iff.1 h)
  obtain ⟨images, hImages, hEq⟩ := Case.exists_images_lowerFrom [] s.toList
  intro hNone
  have hNil := congrArg String.toList hNone
  rw [lower, String.toList_ofList, hEq] at hNil
  rw [hChars] at hImages
  cases hImages with
  | cons hImage _ => exact hImage.ne_nil (List.append_eq_nil_iff.1 hNil).1

end Names

/-! ## Order -/

/-- Different texts stand in strictly ascending order once they are sorted. -/
theorem sorted_pairwise {xs : List String} (h : xs.Nodup) : (sorted xs).Pairwise (· < ·) := by
  have hLe (a b : String) : (!decide (b < a)) = true ↔ a ≤ b := by
    rw [Bool.not_eq_true', decide_eq_false_iff_not, not_lt]
  have hOrder : (sorted xs).Pairwise fun a b => (!decide (b < a)) = true := by
    -- the order of the texts is transitive and total
    refine List.pairwise_mergeSort (fun a b c hab hbc => ?_) (fun a b => ?_) xs
    · exact (hLe a c).2 (le_trans ((hLe a b).1 hab) ((hLe b c).1 hbc))
    · exact Bool.or_eq_true_iff.2 ((le_total a b).imp (hLe a b).2 (hLe b a).2)
  -- no two are the same, neither before nor after
  have hNodup : (sorted xs).Nodup := (sorted_perm xs).nodup_iff.2 h
  exact (hOrder.and hNodup).imp fun hBoth => lt_of_le_of_ne ((hLe _ _).1 hBoth.1) hBoth.2

end MappingDdl.Text
