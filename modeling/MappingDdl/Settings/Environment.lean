import MappingDdl.Fault
import MappingDdl.Settings
import MappingDdl.Text.Integer

/-!
# Settings from the environment

Every setting has a variable of its own. A variable that is not set leaves the default; one that is
set is taken as it is, also if it is empty. Numbers must be whole numbers.
-/

namespace MappingDdl

/-- The variables of an environment. -/
abbrev Environment := List (String × String)

namespace Environment

/-- The value of a variable, with a default. -/
def text (env : Environment) (name default : String) : String :=
  (env.lookup name).getD default

/-- The texts that switch something on. -/
def onWords : List String := ["1", "true", "yes", "on"]

/-- Whether something is on, which it is by default. Every text but `onWords` switches it off. -/
def isOn (env : Environment) (name : String) : Bool :=
  match env.lookup name with
  | none => true
  -- a variable that is set to nothing switches off
  | some v => onWords.contains (Text.lower (Text.trim v))

/-- The whole number in a variable, with a default. -/
def int (env : Environment) (name : String) (default : Int) : Except Fault Int :=
  match env.lookup name with
  | none => .ok default
  | some v =>
    match Text.Integer.ofText? v with
    | some i => .ok i
    | none => .error .malformed

end Environment

/-- The toggles that an environment sets. -/
def Toggles.ofEnvironment (env : Environment) : Toggles where
  schema := env.isOn "DDLGEN_GENERATE_SCHEMA"
  drop := env.isOn "DDLGEN_GENERATE_DROP"
  create := env.isOn "DDLGEN_GENERATE_CREATE"
  primaryKey := env.isOn "DDLGEN_GENERATE_PRIMARY_KEY"
  foreignKey := env.isOn "DDLGEN_GENERATE_FOREIGN_KEY"
  index := env.isOn "DDLGEN_GENERATE_INDEX"
  keyGenerator := env.isOn "DDLGEN_GENERATE_KEY_GENERATOR"

/-- The type parameters that an environment sets. -/
def TypeDefaults.ofEnvironment (env : Environment) : Except Fault TypeDefaults := do
  let d : TypeDefaults := {}
  let charLength ← env.int "DDLGEN_CHAR_LENGTH" d.charLength
  let varcharLength ← env.int "DDLGEN_VARCHAR_LENGTH" d.varcharLength
  let binaryLength ← env.int "DDLGEN_BINARY_LENGTH" d.binaryLength
  let numericPrecision ← env.int "DDLGEN_NUMERIC_PRECISION" d.numericPrecision
  let numericDecimals ← env.int "DDLGEN_NUMERIC_DECIMALS" d.numericDecimals
  let floatPrecision ← env.int "DDLGEN_FLOAT_PRECISION" d.floatPrecision
  return ⟨charLength, varcharLength, binaryLength, numericPrecision, numericDecimals,
    floatPrecision⟩

namespace Settings

/-- The settings that an environment makes. -/
def ofEnvironment (env : Environment) : Except Fault Settings := do
  let d : Settings := {}
  let types ← TypeDefaults.ofEnvironment env
  return {
    dialect := env.text "DDLGEN_DIALECT" d.dialect
    groupBy := env.text "DDLGEN_GROUP_BY" d.groupBy
    delimiter := env.text "DDLGEN_DELIMITER" d.delimiter
    schemaName := env.text "DDLGEN_SCHEMA_NAME" d.schemaName
    engine := env.text "DDLGEN_MYSQL_ENGINE" d.engine
    toggles := .ofEnvironment env
    types
    foreignKeys :=
      { onDelete := env.text "DDLGEN_FK_ON_DELETE" ""
        onUpdate := env.text "DDLGEN_FK_ON_UPDATE" "" } }

end Settings

/-- Settings that are read from the environment when they are first asked for, and kept. -/
structure SettingsCache where
  cached : Option Settings := none
  deriving Repr, DecidableEq, Inhabited

namespace SettingsCache

/-- The settings, and the cache that keeps them. -/
def get (c : SettingsCache) (env : Environment) : Except Fault (Settings × SettingsCache) :=
  match c.cached with
  | some s => .ok (s, c)
  | none => (Settings.ofEnvironment env).map fun s => (s, ⟨some s⟩)

/-- Forgets the settings. -/
def reset (_ : SettingsCache) : SettingsCache := {}

end SettingsCache

end MappingDdl
