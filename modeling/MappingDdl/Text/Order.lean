/-!
# Order of texts — by code point

Lists of names are shown in the order of their code points.
-/

namespace MappingDdl.Text

/-- The texts in increasing order of code points. -/
def sorted (xs : List String) : List String :=
  xs.mergeSort fun a b => !decide (b < a)

theorem sorted_perm (xs : List String) : (sorted xs).Perm xs :=
  List.mergeSort_perm xs _

theorem mem_sorted {xs : List String} {x : String} : x ∈ sorted xs ↔ x ∈ xs :=
  (sorted_perm xs).mem_iff

end MappingDdl.Text
