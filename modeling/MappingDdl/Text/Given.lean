/-!
# Given texts — an empty text is no text

In names and settings an empty text means the same as none at all.
-/

namespace MappingDdl

/-- A text that counts as given only when it is not empty. -/
def given (s : Option String) : Option String :=
  s.filter (· != "")

@[simp] theorem given_none : given none = none := rfl

theorem given_eq_some_iff {s : Option String} {t : String} :
    given s = some t ↔ s = some t ∧ t ≠ "" := by
  simp [given, Option.filter_eq_some_iff]

end MappingDdl
