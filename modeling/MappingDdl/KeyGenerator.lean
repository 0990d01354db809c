import MappingDdl.Text.Blank
import MappingDdl.Text.Case
import MappingDdl.Value

/-!
# Key generators — where the values of primary keys come from

A key generator has a strategy and parameters. Only two strategies show in a script: columns of an
identity generator are generated by the database, and a sequence generator creates a sequence.
-/

namespace MappingDdl

/-- How primary key values are generated. -/
inductive Strategy
  | max
  | highLow
  | uuid
  | identity
  | sequence
  deriving Repr, DecidableEq, Inhabited

namespace Strategy

/-- The name of a strategy. -/
def text : Strategy → String
  | max => "MAX"
  | highLow => "HIGH-LOW"
  | uuid => "UUID"
  | identity => "IDENTITY"
  | sequence => "SEQUENCE"

/-- All strategies. -/
def all : List Strategy := [max, highLow, uuid, identity, sequence]

/-- The strategy with a given name, without regard to case and surrounding blanks. -/
def ofText? (s : String) : Option Strategy :=
  all.find? (·.text == Text.upper (Text.trim s))

end Strategy

/-- A key generator. `revision` tells apart generators of one name that replaced each other. -/
structure KeyGenerator where
  name : String
  strategy : Strategy
  params : List (String × Value)
  revision : Nat := 0
  deriving Inhabited

namespace KeyGenerator

/-- Whether two key generators are the same one. -/
def same (g h : KeyGenerator) : Bool :=
  g.name == h.name && g.revision == h.revision

/-- A parameter by name. -/
def param? (g : KeyGenerator) (name : String) : Option Value :=
  g.params.lookup name

end KeyGenerator

end MappingDdl
