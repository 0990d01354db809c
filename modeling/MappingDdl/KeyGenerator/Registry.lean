import MappingDdl.Dialect
import MappingDdl.Log
import MappingDdl.Mapping.Document

/-!
# The key generator registry of a run

The registry holds the key generators of one run by upper-case name. It starts with one generator
without parameters per strategy of the dialect, so that a class may name a strategy without a
declaration. A later declaration of a name replaces an earlier one, with a warning.

Main statement: `find?_insert`, what a name stands for after a registration.
-/

namespace MappingDdl

/-- Why a key generator cannot be made. -/
inductive KeyGeneratorError
  | unknownStrategy (strategy generator : String)
  | unsupportedStrategy (strategy : Strategy) (dialect generator : String)
  deriving Repr, DecidableEq, Inhabited

/-- The wording of a key generator error. -/
def KeyGeneratorError.message : KeyGeneratorError → String
  | unknownStrategy strategy generator =>
    s!"Unknown key generator strategy '{strategy}' for key generator '{generator}'"
  | unsupportedStrategy strategy dialect generator =>
    s!"Key generator strategy {strategy.text} is not supported by the {dialect} dialect " ++
      s!"(key generator '{generator}')"

/-- The key generator that a declaration makes in a dialect. -/
def KeyGenerator.ofDef (d : Dialect) (g : KeyGeneratorDef) :
    Except KeyGeneratorError KeyGenerator :=
  match Strategy.ofText? g.strategy with
  | none => .error (.unknownStrategy g.strategy g.name)
  | some s =>
    if d.strategies.contains s then .ok { name := g.key, strategy := s, params := g.params }
    else .error (.unsupportedStrategy s d.name g.name)

/-- The key generators of a run, newest first, and the names that were declared. -/
structure KeyGeneratorRegistry where
  dialect : Dialect
  generators : List KeyGenerator
  declared : List String
  deriving Inhabited

namespace KeyGeneratorRegistry

/-- The logger of the registry. -/
def logger : Logger := ⟨"generator.key_generators", false⟩

/-- The registry at the start of a run. -/
def initial (d : Dialect) : KeyGeneratorRegistry where
  dialect := d
  generators := d.strategies.map fun s => { name := s.text, strategy := s, params := [] }
  declared := []

/-- Drops all declarations. -/
def reset (r : KeyGeneratorRegistry) : KeyGeneratorRegistry :=
  initial r.dialect

/-- The registry with one more key generator, declared under its name. -/
def insert (r : KeyGeneratorRegistry) (g : KeyGenerator) : KeyGeneratorRegistry :=
  { r with
    generators := g :: r.generators.filter (·.name != g.name)
    declared := g.name :: r.declared }

/-- What the registry logs when a declaration made a generator. -/
def registered (r : KeyGeneratorRegistry) (d : KeyGeneratorDef) (g : KeyGenerator) :
    List LogRecord :=
  (if r.declared.contains d.key then
    [⟨.warning, logger, s!"Key generator '{d.name}' declared more than once, " ++
      "the last declaration replaces the earlier one", {}⟩]
  else []) ++
  [⟨.debug, logger, s!"Registered key generator {d.key} ({g.strategy.text})", {}⟩]

/-- Registers a declaration. -/
def register (r : KeyGeneratorRegistry) (d : KeyGeneratorDef) :
    Traced KeyGeneratorError (KeyGeneratorRegistry × KeyGenerator) :=
  match KeyGenerator.ofDef r.dialect d with
  | .error e => .fail e
  | .ok g => ⟨r.registered d g, .ok (r.insert g, g)⟩

/-- Registers declarations in order. The registry that comes back holds those before the first one
that fails. -/
def load (r : KeyGeneratorRegistry) : List KeyGeneratorDef →
    KeyGeneratorRegistry × Traced KeyGeneratorError Unit
  | [] => (r, pure ())
  | d :: rest =>
    match KeyGenerator.ofDef r.dialect d with
    | .error e => (r, .fail e)
    | .ok g =>
      -- a later declaration of a name replaces this one
      let (r', t) := (r.insert g).load rest
      (r', ⟨r.registered d g ++ t.log, t.outcome⟩)

/-- The key generator of a name, without regard to case and surrounding blanks. -/
def get? (r : KeyGeneratorRegistry) (name : Option String) : Option KeyGenerator :=
  (given name).bind fun n =>
    let key := Text.upper (Text.trim n)
    r.generators.find? (·.name == key)

/-- The names of all key generators, in order. -/
def names (r : KeyGeneratorRegistry) : List String :=
  Text.sorted (r.generators.map (·.name))

theorem find?_insert (r : KeyGeneratorRegistry) (g : KeyGenerator) (key : String) :
    (r.insert g).generators.find? (·.name == key) =
      if g.name = key then some g else r.generators.find? (·.name == key) := by
  by_cases h : g.name = key
  · simp [insert, h]
  · have : (r.generators.filter (·.name != g.name)).find? (·.name == key) =
        r.generators.find? (·.name == key) := by
      rw [List.find?_filter]
      congr 1
      funext x
      by_cases hx : x.name = key
      · simp [hx, Ne.symm h]
      · simp [hx]
    simp [insert, h, this]

end KeyGeneratorRegistry

end MappingDdl
