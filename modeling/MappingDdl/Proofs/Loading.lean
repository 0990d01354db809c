import MappingDdl.Mapping.Source
import MappingDdl.Proofs.Failures

/-!
# Loading — what the reading of a document can end in

A text is read into a document whose structure is sound, or it is refused with an error that names
its source. There are ways around this: a text may hold something that fails in its reading other
than as malformed, a mapping may have a key that is no text, and a validation may fail itself. All
of them end in an error that names no source.

Nothing is assumed of the reader: what is shown here is how its outcomes are dealt with.

Main results:

* `Document.load_outcomes` — a sound document, or an error that names the source, unless the text
  escapes; and the texts that escape are those whose error names no source.
-/

namespace MappingDdl

/-- The text escapes: its reading ends in an error that names no source. -/
inductive Reader.Escapes (r : Reader) (text : String) : Fault → Prop
  /-- It is not read, and this is not for being malformed. -/
  | unread {f : Fault} (h : r.read text = .error (.conversion f)) : Escapes r text f
  /-- It is a mapping with a key that is no text. -/
  | key {entries : List (r.Object × r.Object)} {e : r.Object × r.Object}
      (h : r.read text = .ok (.mapping entries)) (he : e ∈ entries)
      (hKey : r.isText e.1 = false) : Escapes r text .wrongKind
  /-- It is a mapping whose validation fails. -/
  | unvalidated {content : Content r.Object} {entries : List (r.Object × r.Object)} {f : Fault}
      (h : r.read text = .ok content) (hEntries : content.entries? = some entries)
      (hTexts : ∀ e ∈ entries, r.isText e.1 = true)
      (hFailed : r.validate entries = .error (.failed f)) : Escapes r text f

namespace Document

variable {r : Reader} {source text : String} {f : Fault}

/-- The outcome is one that a load may have: a document whose structure is sound, or an error that
names the source. -/
def Answered (source : String) (outcome : Except LoadError Document) : Prop :=
  (∃ d, outcome = .ok d ∧ d.structureProblems = []) ∨
    ∃ e, outcome = .error e ∧ e.source? = some source

/-- What is answered does not end in an error without a source. -/
theorem not_answered_conversion : ¬ Answered source (.error (.conversion f)) := by
  rintro (⟨d, hOk, -⟩ | ⟨e, hError, hSource⟩)
  · cases hOk
  · cases hError
    cases hSource

section Mappings

variable {entries : List (r.Object × r.Object)}

/-- A key that is no text is refused before anything is validated. -/
theorem ofMapping_of_key {e : r.Object × r.Object} (he : e ∈ entries)
    (hKey : r.isText e.1 = false) :
    ofMapping r source entries = .error (.conversion .wrongKind) := by
  have hSome : (entries.any fun e => !r.isText e.1) = true :=
    List.any_eq_true.2 ⟨e, he, by rw [hKey]; rfl⟩
  unfold ofMapping
  rw [if_pos hSome]

/-- Entries whose keys are texts are validated. -/
theorem ofMapping_of_texts (hTexts : ∀ e ∈ entries, r.isText e.1 = true) :
    ofMapping r source entries = ofValidated source (r.validate entries) := by
  have hNone : ¬ (entries.any fun e => !r.isText e.1) = true := by
    simpa using hTexts
  unfold ofMapping
  rw [if_neg hNone]

/-- Unless the validation fails, the outcome for entries whose keys are texts is an answer. -/
theorem answered_ofMapping (hTexts : ∀ e ∈ entries, r.isText e.1 = true)
    (hFails : ∀ f, r.validate entries ≠ .error (.failed f)) :
    Answered source (ofMapping r source entries) := by
  rw [ofMapping_of_texts hTexts]
  cases hValid : r.validate entries with
  | error refusal =>
    -- a refusal that names the source
    cases refusal with
    | invalid e => exact Or.inr ⟨_, rfl, rfl⟩
    | failed f => exact absurd hValid (hFails f)
  -- a document, sound or not
  | ok d =>
    unfold ofValidated
    dsimp only
    split
    · next hSound => exact Or.inl ⟨d, rfl, hSound⟩
    · exact Or.inr ⟨_, rfl, rfl⟩

end Mappings

/-- A content with entries is dealt with as the mapping of these. -/
theorem ofContent_of_entries {content : Content r.Object} {entries : List (r.Object × r.Object)}
    (h : content.entries? = some entries) :
    ofContent r source content = ofMapping r source entries := by
  cases content with
  | nothing | mapping =>
    cases h
    rfl
  | other kind => cases h

/-- The error of a text that escapes is that of the failure, under every source. -/
theorem ofText_of_escapes (source : String) (h : r.Escapes text f) :
    ofText source text r = .error (.conversion f) := by
  -- the text was not read
  cases h with
  | unread hRead =>
    unfold ofText
    rw [hRead]
  -- a key is no text
  | key hRead he hKey =>
    unfold ofText
    rw [hRead]
    exact ofMapping_of_key he hKey
  -- the validation failed otherwise
  | unvalidated hRead hEntries hTexts hFailed =>
    unfold ofText
    rw [hRead]
    dsimp only
    rw [ofContent_of_entries hEntries, ofMapping_of_texts hTexts, hFailed]
    rfl

/-- A text that does not escape is answered. -/
theorem answered_of_not_escapes (source : String) (h : ∀ f, ¬ r.Escapes text f) :
    Answered source (ofText source text r) := by
  unfold ofText
  cases hRead : r.read text with
  -- the reading, the keys and the validation, in the order in which they can fail
  | error e =>
    -- a text that is malformed is refused, and any other failure escapes
    cases e with
    | malformed => exact Or.inr ⟨_, rfl, rfl⟩
    | conversion f => exact absurd (.unread hRead) (h f)
  | ok content =>
    change Answered source (ofContent r source content)
    cases hEntries : content.entries? with
    | none =>
      -- only a value of another kind has no entries, and its error names the source
      cases content with
      | other kind => exact Or.inr ⟨_, rfl, rfl⟩
      | nothing | mapping => cases hEntries
    | some entries =>
      have hTexts : ∀ e ∈ entries, r.isText e.1 = true := by
        intro e he
        -- a key that is no text would have escaped
        cases hKey : r.isText e.1 with
        | true => rfl
        | false =>
          cases content with
          | mapping =>
            cases hEntries
            exact absurd (.key hRead he hKey) (h _)
          | nothing =>
            cases hEntries
            cases he
          | other => cases hEntries
      rw [ofContent_of_entries hEntries]
      exact answered_ofMapping hTexts fun f hFailed =>
        h f (.unvalidated hRead hEntries hTexts hFailed)

/-- **What a load can end in.** A text that does not escape is a document without structure
problems, or it is refused with an error that names its source; no other text is. A text escapes
with a fault if and only if the error is this fault alone. -/
theorem load_outcomes (r : Reader) (source text : String) :
    (((∃ d, ofText source text r = .ok d ∧ d.structureProblems = []) ∨
      ∃ e, ofText source text r = .error e ∧ e.source? = some source) ↔
        ¬ ∃ f, r.Escapes text f) ∧
    ∀ f, r.Escapes text f ↔ ofText source text r = .error (.conversion f) := by
  have hError (f : Fault) (h : r.Escapes text f) := ofText_of_escapes source h
  refine ⟨⟨?_, ?_⟩, fun f => ⟨hError f, ?_⟩⟩
  -- a text that escapes is neither a document nor refused
  · rintro hAnswered ⟨f, hEscapes⟩
    rw [hError f hEscapes] at hAnswered
    exact not_answered_conversion hAnswered
  · intro hNone
    exact answered_of_not_escapes source (not_exists.1 hNone)
  · intro hFault
    by_contra hNot
    -- with another fault the error would be another one, too
    have hNone (g : Fault) : ¬ r.Escapes text g := by
      intro hOther
      have hSame := (hError g hOther).symm.trans hFault
      cases hSame
      exact hNot hOther
    have hAnswered := answered_of_not_escapes source hNone
    rw [hFault] at hAnswered
    exact not_answered_conversion hAnswered

/-! ## Texts of both kinds -/

/-- A mapping with a number as its key. -/
def numberKeyed : String := "1: 2"

/-- A mapping with a date in the thirteenth month. -/
def misdated : String := "since: 2020-13-01"

/-- The number is no key that a document may have. -/
theorem ofText_numberKeyed :
    ofText anonymousSource numberKeyed = .error (.conversion .wrongKind) :=
  error?_eq_some_iff.1 (by decide +kernel)

/-- The date that there is not is not read. -/
theorem escapes_misdated : Reader.standard.Escapes misdated .malformed :=
  .unread (error?_eq_some_iff.1 (by decide +kernel))

/-- A document, a list instead of one, a key that is a number, and a date that there is not. -/
theorem load_outcomes_of_texts :
    (∃ d, ofText "shop.yaml" "classes: []" = .ok d ∧ d.structureProblems = []) ∧
    (∃ e, ofText "shop.yaml" "- a" = .error e ∧ e.source? = some "shop.yaml") ∧
    Reader.standard.Escapes numberKeyed .wrongKind ∧
    ofText "shop.yaml" misdated = .error (.conversion .malformed) := by
  refine ⟨?_, ?_, ?_, ?_⟩
  -- a document without classes
  · obtain ⟨⟨-, hAnswered⟩, hFault⟩ := load_outcomes .standard "shop.yaml" "classes: []"
    obtain ⟨d, hRead, -⟩ : ∃ d, ofText "shop.yaml" "classes: []" = .ok d ∧ d.classes.length = 0 :=
      exists_ok_of_toOption_map (by decide +kernel)
    have hNone : ¬ ∃ f, Reader.standard.Escapes "classes: []" f := by
      rintro ⟨f, hEscapes⟩
      -- no failure of it can have escaped, since it is there
      have hError := (hFault f).1 hEscapes
      rw [hRead] at hError
      cases hError
    rcases hAnswered hNone with hDocument | ⟨e, hError, -⟩
    · exact hDocument
    · rw [hRead] at hError
      cases hError
  -- a list, which is refused for its kind
  · obtain ⟨⟨-, hAnswered⟩, hFault⟩ := load_outcomes .standard "shop.yaml" "- a"
    have hList : ofText "shop.yaml" "- a" = .error (.notMapping "shop.yaml" "list") :=
      error?_eq_some_iff.1 (by decide +kernel)
    have hNone : ¬ ∃ f, Reader.standard.Escapes "- a" f := by
      rintro ⟨f, hEscapes⟩
      have hError := (hFault f).1 hEscapes
      rw [hList] at hError
      cases hError
    rcases hAnswered hNone with ⟨d, hRead, -⟩ | hRefused
    · rw [hList] at hRead
      cases hRead
    · exact hRefused
  -- a key that is a number
  · obtain ⟨-, hFault⟩ := load_outcomes .standard anonymousSource numberKeyed
    exact (hFault _).2 ofText_numberKeyed
  -- a date that there is not
  · obtain ⟨-, hFault⟩ := load_outcomes .standard "shop.yaml" misdated
    exact (hFault _).1 escapes_misdated

/-- The mapping with a number as its key is no document, and its error names no source. -/
theorem numberKeyed_not_refused :
    ¬ ((∃ d, ofText anonymousSource numberKeyed = .ok d ∧ d.structureProblems = []) ∨
      ∃ e, ofText anonymousSource numberKeyed = .error e ∧ e.source? = some anonymousSource) := by
  rw [ofText_numberKeyed]
  exact not_answered_conversion

end Document

end MappingDdl
