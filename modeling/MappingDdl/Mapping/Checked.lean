import MappingDdl.Value

/-!
# Checked results — collecting every problem of a document

Validation does not stop at the first problem. `Checked` is a result that may be missing together
with the list of problems found; combining two checks keeps the problems of both, in order.
-/

namespace MappingDdl

/-- What is wrong at one place of a document. -/
inductive Issue
  | missing
  | notText
  | undecodableText
  | textTooShort
  | notList
  | listTooShort
  | notBool
  | unreadableBool
  | notMapping
  | notRecord
  deriving Repr, DecidableEq, Inhabited

/-- The code of an issue. -/
def Issue.code : Issue → String
  | missing => "missing"
  | notText => "string_type"
  | undecodableText => "string_unicode"
  | textTooShort => "string_too_short"
  | notList => "list_type"
  | listTooShort => "too_short"
  | notBool => "bool_type"
  | unreadableBool => "bool_parsing"
  | notMapping => "dict_type"
  | notRecord => "model_type"

/-- A step on the way to a place in a document. -/
inductive PathStep
  | name (s : String)
  | index (i : Int)
  deriving Repr, DecidableEq, Inhabited

/-- An issue and where it is. -/
structure Problem where
  path : List PathStep
  issue : Issue
  deriving Repr, DecidableEq, Inhabited

/-- The problems of a document, and the kind of record that was validated. -/
structure ValidationError where
  title : String
  problems : List Problem
  deriving Repr, DecidableEq, Inhabited

/-- A result, missing if there are problems. -/
structure Checked (α : Type) where
  value : Option α
  problems : List Problem

namespace Checked

variable {α β γ : Type}

/-- A result without problems. -/
def ok (a : α) : Checked α :=
  ⟨some a, []⟩

/-- One problem at the place at hand. -/
def issue (i : Issue) : Checked α :=
  ⟨none, [⟨[], i⟩]⟩

/-- Changes the result. -/
def map (f : α → β) (x : Checked α) : Checked β :=
  ⟨x.value.map f, x.problems⟩

/-- Applies a checked function to a checked argument; the problems of both are kept. -/
def ap (f : Checked (α → β)) (x : Checked α) : Checked β :=
  ⟨f.value.bind fun g => x.value.map g, f.problems ++ x.problems⟩

/-- Combines two checks. -/
def map₂ (f : α → β → γ) (x : Checked α) (y : Checked β) : Checked γ :=
  ap (map f x) y

/-- Puts the problems one step further down. -/
def within (step : PathStep) (x : Checked α) : Checked α :=
  ⟨x.value, x.problems.map fun p => { p with path := step :: p.path }⟩

/-- Checks the items of a list, each at its position. -/
def items (f : Value → Checked α) : Int → List Value → Checked (List α)
  | _, [] => ok []
  | i, v :: rest => map₂ List.cons ((f v).within (.index i)) (items f (i + 1) rest)

/-- The result, or the problems. -/
def toExcept (title : String) (x : Checked α) : Except ValidationError α :=
  match x.value, x.problems with
  | some a, [] => .ok a
  | _, problems => .error ⟨title, problems⟩

end Checked

end MappingDdl
