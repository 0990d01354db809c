import Mathlib.Data.List.DropRight
import MappingDdl.Proofs.Spelling
import MappingDdl.Text.Integer

/-!
# Numerals — which texts are read as numbers

A number may be written with blanks around it. Of the texts that are made of digits and blanks only,
the numbers are those with a single run of digits, of at most `Integer.maxDigits`, and with blanks
around it that may stand around a number. Information separators are blanks, but not of that kind.
So a number does not read back next to a separator, and two runs of digits are no number.

Main results:

* `Integer.ofText?_numeral` — a run of digits is read, with the blanks that may stand around it.
* `Integer.exists_numeral_of_ofText?` — nothing else is, of the texts with digits and blanks only.
* `Integer.ofDigits_toDigits` — the digits of a natural number read back.
-/

namespace MappingDdl.Text

/-! ## Up to a character that stops -/

section Stop

variable {p : Char → Bool} {a : Char}

/-- What stops a run of characters stops it in a longer text, too, -/
theorem takeWhile_append_stop (h : p a = false) (cs rest : List Char) :
    (cs ++ a :: rest).takeWhile p = cs.takeWhile p := by
  induction cs with
  | nil => simp [h]
  | cons c cs ih => simp [List.takeWhile_cons, ih]

/-- and stands first in what is left. -/
theorem dropWhile_append_stop (h : p a = false) (cs rest : List Char) :
    (cs ++ a :: rest).dropWhile p = cs.dropWhile p ++ a :: rest := by
  induction cs with
  | nil => simp [h]
  | cons c cs ih =>
    rw [List.cons_append, List.dropWhile_cons, List.dropWhile_cons, ih]
    split <;> rfl

end Stop

/-! ## Digits and blanks -/

/-- All of the characters are decimal digits. -/
abbrev AllDigits (cs : List Char) : Prop :=
  ∀ c ∈ cs, isDigit c = true

/-- All of the characters are blanks that may stand around a number. -/
abbrev AllNumberBlank (cs : List Char) : Prop :=
  ∀ c ∈ cs, isNumberBlank c = true

variable {c : Char} {cs before ds after : List Char}

/-- No blank is a digit. -/
theorem isDigit_blankPoints : ∀ n ∈ Case.blankPoints, isDigit (Char.ofNat n) = false := by
  decide +kernel

/-- So a blank character is none, -/
theorem isDigit_of_isBlank (h : isBlank c = true) : isDigit c = false := by
  obtain ⟨n, hn, rfl⟩ := Case.exists_point_of_isBlank h
  exact isDigit_blankPoints n hn

/-- and a digit is not blank. -/
theorem isBlank_of_isDigit (h : isDigit c = true) : isBlank c = false := by
  refine Bool.eq_false_iff.2 fun hBlank => ?_
  rw [isDigit_of_isBlank hBlank] at h
  cases h

/-- What is passed over around a number is blank. -/
theorem isBlank_of_isNumberBlank (h : isNumberBlank c = true) : isBlank c = true :=
  ((Bool.and_eq_true _ _).mp h).1

/-- A digit is not passed over. -/
theorem isNumberBlank_of_isDigit (h : isDigit c = true) : isNumberBlank c = false := by
  rw [isNumberBlank, isBlank_of_isDigit h, Bool.false_and]

/-- Characters that are passed over around a number are blank. -/
theorem AllNumberBlank.allBlank (h : AllNumberBlank cs) : AllBlank cs :=
  fun c hc => isBlank_of_isNumberBlank (h c hc)

/-- What is trimmed off stands on both sides. -/
theorem exists_trimNumber (cs : List Char) : ∃ before after, AllNumberBlank before ∧
    AllNumberBlank after ∧ cs = before ++ trimNumber cs ++ after :=
  exists_dropEnds isNumberBlank cs

/-- A run of digits is what trimming leaves of it. -/
theorem trimNumber_pad (hBefore : AllNumberBlank before) (hAfter : AllNumberBlank after)
    (hDigits : AllDigits ds) : trimNumber (before ++ ds ++ after) = ds := by
  -- the first digit is not blank
  have hFront : ds.dropWhile isNumberBlank = ds := by
    cases ds with
    | nil => rfl
    | cons d rest =>
      have hFirst : isNumberBlank d = false :=
        isNumberBlank_of_isDigit (hDigits d List.mem_cons_self)
      exact List.dropWhile_cons_of_neg (by simp [hFirst])
  -- and neither is the last one
  have hBack : ds.rdropWhile isNumberBlank = ds := by
    refine List.rdropWhile_eq_self_iff.2 fun hNe => ?_
    have hLast := isNumberBlank_of_isDigit (hDigits _ (List.getLast_mem hNe))
    simp [hLast]
  calc trimNumber (before ++ ds ++ after)
      = (ds.dropWhile isNumberBlank).rdropWhile isNumberBlank := dropEnds_pad hBefore hAfter
    _ = ds := by rw [hFront, hBack]

namespace Integer

/-! ## Digits as numbers -/

/-- Digits are read one by one. -/
theorem digits?_of_isDigit (hSome : cs ≠ []) (h : AllDigits cs) :
    digits? cs = some (cs.filterMap digitValue?) := by
  fun_induction digits? cs with
  | case1 => exact absurd rfl hSome
  -- the last character
  | case2 c =>
    obtain ⟨n, hn⟩ := Option.isSome_iff_exists.1 (h c List.mem_cons_self)
    simp [hn]
  | case3 c rest _ =>
    -- the underscore is no digit
    have hUnderscore := h '_' (List.mem_cons_of_mem _ List.mem_cons_self)
    exact absurd hUnderscore (by decide +kernel)
  -- a digit with more behind it
  | case4 c rest hNe _ ih =>
    obtain ⟨n, hn⟩ := Option.isSome_iff_exists.1 (h c List.mem_cons_self)
    have hRest : digits? rest = some (rest.filterMap digitValue?) :=
      ih (fun hNil => hNe hNil) fun c' hc' => h c' (List.mem_cons_of_mem _ hc')
    simp [hn, hRest]

/-- Without underscores only digits are read. -/
theorem isDigit_of_digits? {ns : List Nat} (hPlain : '_' ∉ cs) (h : digits? cs = some ns) :
    cs ≠ [] ∧ AllDigits cs := by
  fun_induction digits? cs generalizing ns with
  | case1 => cases h
  | case2 c =>
    obtain ⟨n, hn, -⟩ := Option.map_eq_some_iff.1 h
    exact ⟨List.cons_ne_nil _ _, List.forall_mem_singleton.2 (by simp [isDigit, hn])⟩
  | case3 c rest _ => exact absurd (List.mem_cons_of_mem _ List.mem_cons_self) hPlain
  | case4 c rest _ _ ih =>
    obtain ⟨n, hn, h⟩ := Option.bind_eq_some_iff.1 h
    obtain ⟨ms, hms, -⟩ := Option.bind_eq_some_iff.1 h
    obtain ⟨-, hRest⟩ := ih (fun hMem => hPlain (List.mem_cons_of_mem _ hMem)) hms
    refine ⟨List.cons_ne_nil _ _, List.forall_mem_cons.2 ⟨?_, hRest⟩⟩
    simp [isDigit, hn]

/-- A digit has the value that it was written for. -/
theorem digitValue?_digitChar {n : Nat} (h : n < 10) : digitValue? (Nat.digitChar n) = some n := by
  have hDigits : ∀ n : Fin 10, digitValue? (Nat.digitChar n) = some n.val := by decide
  exact hDigits ⟨n, h⟩

/-- **The digits of a natural number read back.** -/
theorem ofDigits_toDigits (n : Nat) :
    AllDigits (Nat.toDigits 10 n) ∧
      ofDigits ((Nat.toDigits 10 n).filterMap digitValue?) = n := by
  -- on the number; all digits but the last one are those of a tenth of it
  induction n using Nat.strongRecOn with
  | ind n ih =>
    rw [Nat.toDigits_eq_if (by omega)]
    have hLast : digitValue? (Nat.digitChar (n % 10)) = some (n % 10) :=
      digitValue?_digitChar (by omega)
    split
    · next hSmall =>
      -- a number below ten has one digit
      rw [Nat.mod_eq_of_lt hSmall] at hLast
      exact ⟨List.forall_mem_singleton.2 (by simp [isDigit, hLast]), by simp [hLast, ofDigits]⟩
    · -- all digits but the last one are those of the number without it
      obtain ⟨hDigits, hValue⟩ := ih (n / 10) (by omega)
      constructor
      · intro c hc
        -- the digits are those in front and the last one
        rcases List.mem_append.1 hc with hFront | hBack
        · exact hDigits c hFront
        · rw [List.mem_singleton.1 hBack, isDigit, hLast]
          rfl
      -- which counts once, and those in front ten times
      · rw [List.filterMap_append, ofDigits, List.foldl_append, ← ofDigits, hValue]
        simp only [List.filterMap_cons, hLast, List.filterMap_nil, List.foldl_cons, List.foldl_nil]
        omega

/-! ## Texts as numbers -/

/-- **A number is read** as the digits that are written, with the blanks that may stand around
it. -/
theorem ofText?_numeral (hBefore : AllNumberBlank before) (hAfter : AllNumberBlank after)
    (hDigits : AllDigits ds) (hSome : ds ≠ []) (hLength : ds.length ≤ maxDigits) :
    ofText? (String.ofList (before ++ ds ++ after)) =
      some (Int.ofNat (ofDigits (ds.filterMap digitValue?))) := by
  -- no more digits are read than there are
  have hCount : (ds.filterMap digitValue?).length ≤ maxDigits :=
    Nat.le_trans (List.length_filterMap_le _ _) hLength
  have hMagnitude : magnitude? ds = some (ofDigits (ds.filterMap digitValue?)) := by
    simp [magnitude?, digits?_of_isDigit hSome hDigits, hCount]
  rw [ofText?, String.toList_ofList, trimNumber_pad hBefore hAfter hDigits]
  split
  -- a digit is not a sign
  · exact absurd (hDigits '-' List.mem_cons_self) (by decide +kernel)
  · exact absurd (hDigits '+' List.mem_cons_self) (by decide +kernel)
  · rw [hMagnitude]
    rfl

/-- **No other text of digits and blanks is read as a number.** -/
theorem exists_numeral_of_ofText? {i : Int}
    (hChars : ∀ c ∈ cs, isDigit c = true ∨ isBlank c = true)
    (h : ofText? (String.ofList cs) = some i) : ∃ before ds after, AllNumberBlank before ∧
      AllNumberBlank after ∧ ds ≠ [] ∧ AllDigits ds ∧ cs = before ++ ds ++ after := by
  -- the blanks around the text are not looked at
  obtain ⟨before, after, hBefore, hAfter, hEq⟩ := exists_trimNumber cs
  rw [ofText?, String.toList_ofList] at h
  generalize trimNumber cs = ds at h hEq
  have hPart : ∀ c ∈ ds, isDigit c = true ∨ isBlank c = true :=
    fun c hc => hChars c (by simp [hEq, hc])
  -- neither a sign nor an underscore is a digit or a blank
  have hNone : ∀ c ∈ ['-', '+', '_'], c ∉ ds := by
    intro c hc hMem
    simp only [List.mem_cons, List.not_mem_nil, or_false] at hc
    rcases hc with rfl | rfl | rfl <;> exact absurd (hPart _ hMem) (by decide +kernel)
  split at h
  · exact absurd List.mem_cons_self (hNone '-' (by decide))
  · exact absurd List.mem_cons_self (hNone '+' (by decide))
  -- what is left is read digit by digit
  · obtain ⟨n, hn, -⟩ := Option.map_eq_some_iff.1 h
    obtain ⟨ns, hns, -⟩ := Option.bind_eq_some_iff.1 hn
    obtain ⟨hSome, hDigits⟩ := isDigit_of_digits? (hNone '_' (by decide)) hns
    exact ⟨before, ds, after, hBefore, hAfter, hSome, hDigits, hEq⟩

end Integer

end MappingDdl.Text
