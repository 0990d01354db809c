import MappingDdl.Fault
import MappingDdl.Text.Blank
import MappingDdl.Text.Case
import MappingDdl.Text.Integer
import MappingDdl.Text.Word

/-!
# Type expressions — a base name with numeric parameters

`varchar[64]`, `numeric(12,2)`, `double precision`: a base name of word characters, hyphens and
blanks, then optionally a group of numbers between brackets or parentheses. The base name counts
without regard to case.

`read` splits the text; `ofText` also reads the numbers. A text of another form is no type
expression and has neither base nor parameters, but the digits of the group are only checked one by
one, so two numbers without a comma between them are a malformed parameter.
-/

namespace MappingDdl

/-- A type expression: its base name in lower case, and its parameters. -/
structure TypeExpression where
  base : String
  params : List Int
  deriving Repr, DecidableEq, Inhabited

namespace TypeExpression

/-- A character of a base name. -/
def isBaseChar (c : Char) : Bool :=
  Text.isWordChar c || c == '-' || c == ' '

/-- A character between the brackets. -/
def isGroupChar (c : Char) : Bool :=
  Text.isDigit c || Text.isBlank c || c == ','

/-- The group between brackets at the front, without the blanks it begins with, and nothing after it
but blanks: `some none` for no group, `none` for anything else. -/
def readGroup (cs : List Char) : Option (Option (List Char)) :=
  match cs with
  | [] => some none
  | c :: rest =>
    if c = '[' ∨ c = '(' then
      match rest.dropWhile isGroupChar with
      | d :: tail =>
        if (d = ']' ∨ d = ')') ∧ (Text.dropBlank tail).isEmpty then
          some (some ((Text.dropBlank rest).takeWhile isGroupChar))
        else none
      | [] => none
    else none

/-- Splits a text into the base name as written and the group between brackets. -/
def read (cs : List Char) : Option (List Char × Option (List Char)) :=
  match Text.dropBlank cs with
  | [] => none
  | c :: rest =>
    if Text.isNameStart c then
      let base := c :: rest.takeWhile isBaseChar
      let tail := Text.dropBlank (rest.dropWhile isBaseChar)
      (readGroup tail).map fun group => ((base.reverse.dropWhile (· == ' ')).reverse, group)
    else none

/-- The items of a group: the texts between its commas that are not blank. -/
def items (group : List Char) : List String :=
  (group.splitOn ',').filterMap fun item =>
    if (Text.dropBlank item).isEmpty then none else some (String.ofList item)

/-- Reads the numbers of a group. -/
def readParams : List String → Except Fault (List Int)
  | [] => .ok []
  | item :: rest =>
    match Text.Integer.ofText? item with
    | none => .error .malformed
    | some n => (readParams rest).map (n :: ·)

/-- The type expression written in a text, or `none` where the text is not of that form. -/
def ofText (s : String) : Except Fault (Option TypeExpression) :=
  match read s.toList with
  | none => .ok none
  | some (base, group) =>
    (readParams (items (group.getD []))).map fun params =>
      some ⟨Text.lower (String.ofList base), params⟩

end TypeExpression

end MappingDdl
