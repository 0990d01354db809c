import MappingDdl.Text.Template

/-!
# Scripts — text that grows statement by statement

A script collects text and counts the statements that were ended. Text printed with arguments is a
template; without arguments it is taken as it is. A failing operation adds nothing.
-/

namespace MappingDdl

/-- A script under construction. -/
structure Script where
  delimiter : String := ";"
  indent : String := "    "
  text : String := ""
  statements : Nat := 0
  deriving Repr, DecidableEq, Inhabited

namespace Script

/-- Adds text at the end. -/
def append (s : Script) (t : String) : Script :=
  { s with text := s.text ++ t }

/-- A way to fill the places of a template. Other arguments than texts may have parts, and texts, of
their own. -/
abbrev Filling := String → List Value → Except Fault String

/-- The text that a template with arguments stands for. -/
def expand (template : String) (args : List Value)
    (fill : Filling := Text.Template.fill) : Except Fault String :=
  if args.isEmpty then .ok template else fill template args

/-- Adds a template with its arguments. -/
def print (s : Script) (template : String) (args : List Value)
    (fill : Filling := Text.Template.fill) : Except Fault Script :=
  (expand template args fill).map s.append

/-- Adds a template with its arguments, and ends the line. -/
def printLine (s : Script) (template : String) (args : List Value)
    (fill : Filling := Text.Template.fill) : Except Fault Script :=
  (expand template args fill).map fun t => s.append (t ++ "\n")

/-- Adds a comment line. -/
def comment (s : Script) (text mark : String) : Script :=
  s.append (mark ++ " " ++ text ++ "\n")

/-- Ends the statement at hand and leaves a blank line. -/
def endStatement (s : Script) : Script :=
  { s with text := s.text ++ (s.delimiter ++ "\n\n"), statements := s.statements + 1 }

/-- Adds a whole statement. -/
def statement (s : Script) (t : String) : Script :=
  (s.append t).endStatement

/-- Adds a block of comment lines and a blank line; no lines add nothing. -/
def header (s : Script) (lines : List String) (mark : String) : Script :=
  if lines.isEmpty then s
  else (lines.foldl (fun s line => s.comment line mark) s).append "\n"

/-- Copies the text to the end of a sink; the number is that of the characters copied. -/
def copyTo (s : Script) (sink : String) : String × Nat :=
  (sink ++ s.text, s.text.length)

@[simp] theorem text_append (s : Script) (t : String) : (s.append t).text = s.text ++ t := rfl

@[simp] theorem statements_append (s : Script) (t : String) :
    (s.append t).statements = s.statements := rfl

@[simp] theorem text_statement (s : Script) (t : String) :
    (s.statement t).text = s.text ++ t ++ (s.delimiter ++ "\n\n") := rfl

@[simp] theorem statements_statement (s : Script) (t : String) :
    (s.statement t).statements = s.statements + 1 := rfl

end Script

end MappingDdl
