/-!
# Quoted identifiers and string literals

An identifier stands between two quote characters, and a quote inside it is written twice. A string
literal does the same with single quotes; a backslash in it is doubled too, and the literal is then
marked.
-/

namespace MappingDdl.Text.Quoted

/-- The characters with every `quote` written twice. -/
def double (quote : Char) (cs : List Char) : List Char :=
  cs.flatMap fun c => if c = quote then [quote, quote] else [c]

/-- An identifier between quotes. -/
def encode (quote : Char) (s : String) : String :=
  String.ofList (quote :: double quote s.toList ++ [quote])

/-- A string literal. One with a backslash is marked by a leading blank and an `E`. -/
def literal (s : String) : String :=
  let body := String.ofList ('\'' :: double '\'' (double '\\' s.toList) ++ ['\''])
  if s.toList.contains '\\' then " E" ++ body else body

@[simp] theorem double_nil (quote : Char) : double quote [] = [] := rfl

/-- A text without the quote is not changed by doubling. -/
theorem double_eq_self {quote : Char} {cs : List Char} (h : quote ∉ cs) : double quote cs = cs := by
  induction cs with
  | nil => rfl
  | cons c rest ih =>
    simp only [List.mem_cons, not_or] at h
    have := ih h.2
    simp only [double, List.flatMap_cons] at *
    simp [Ne.symm h.1, this]

end MappingDdl.Text.Quoted
