import MappingDdl.Dialect
import MappingDdl.Text.Given

/-!
# The dialect registry — dialects by name and second name

A registration adds a dialect under its name and all its second names, or under none of them if one
is already taken. Look-ups disregard case and surrounding blanks.

Main statement: `register_eq_ok_iff`, a registration succeeds exactly if none of its keys is taken.
-/

namespace MappingDdl

/-- A registered dialect. -/
structure DialectEntry where
  dialect : Dialect
  aliases : List String
  description : String
  deriving Repr, Inhabited

/-- The keys under which a dialect is found, its name first. -/
def DialectEntry.keys (e : DialectEntry) : List String :=
  e.dialect.name :: e.aliases.map Text.lower

/-- The registered dialects, in the order of registration. -/
structure DialectRegistry where
  entries : List DialectEntry
  deriving Repr, Inhabited

/-- Why a dialect cannot be used or registered. -/
inductive DialectError
  | unknown (name : Option String) (known : List String)
  | duplicate (key : String)
  deriving Repr, DecidableEq, Inhabited

/-- The wording of a dialect error. -/
def DialectError.message : DialectError → String
  | unknown name known =>
    let list := if known.isEmpty then "none" else ", ".intercalate known
    let name := name.getD "None"
    s!"Unknown dialect: {name} (available: {list})"
  | duplicate key => s!"Dialect already registered: {key}"

namespace DialectRegistry

/-- The keys that are taken. -/
def keys (r : DialectRegistry) : List String :=
  r.entries.flatMap (·.keys)

/-- The names of the registered dialects, in order. -/
def names (r : DialectRegistry) : List String :=
  Text.sorted (r.entries.map (·.dialect.name))

/-- Registers a dialect under its lower-case name and second names. -/
def register (r : DialectRegistry) (d : Dialect) (aliases : List String) (description : String) :
    Except DialectError DialectRegistry :=
  let entry : DialectEntry := ⟨{ d with name := Text.lower d.name }, aliases, description⟩
  match entry.keys.find? r.keys.contains with
  | some key => .error (.duplicate key)
  | none => .ok ⟨r.entries ++ [entry]⟩

/-- The dialect of a given name or second name. -/
def get? (r : DialectRegistry) (name : Option String) : Option Dialect :=
  match given name with
  | none => none
  | some name =>
    let key := Text.lower (Text.trim name)
    (r.entries.find? (·.keys.contains key)).map (·.dialect)

/-- The dialect of a given name, which must be known. -/
def get (r : DialectRegistry) (name : Option String) : Except DialectError Dialect :=
  match r.get? name with
  | some d => .ok d
  | none => .error (.unknown name r.names)

/-- The registered dialects, ordered by name. -/
def listing (r : DialectRegistry) : List DialectEntry :=
  r.names.filterMap fun n => r.entries.find? (·.dialect.name == n)

/-- The dialects that are always there. -/
def builtin : DialectRegistry := ⟨[
  ⟨.generic, ["sql92"], "Standard SQL, unquoted identifiers"⟩,
  ⟨.postgresql, ["postgres", "pg"], "PostgreSQL 12+, quoted identifiers"⟩,
  ⟨.mysql, ["mariadb"], "MySQL 5.7+, back-quoted identifiers"⟩]⟩

theorem register_eq_ok_iff {r r' : DialectRegistry} {d : Dialect} {aliases : List String}
    {description : String} :
    r.register d aliases description = .ok r' ↔
      (∀ k ∈ Text.lower d.name :: aliases.map Text.lower, k ∉ r.keys) ∧
      r' = ⟨r.entries ++ [⟨{ d with name := Text.lower d.name }, aliases, description⟩]⟩ := by
  unfold register
  simp only [DialectEntry.keys]
  split
  · rename_i key h
    have hk := List.find?_some h
    have hm := List.mem_of_find?_eq_some h
    constructor
    · intro h'; cases h'
    · rintro ⟨h', _⟩
      exact absurd (List.contains_iff_mem.1 hk) (h' key hm)
  · rename_i h
    rw [List.find?_eq_none] at h
    constructor
    · intro h'
      cases h'
      exact ⟨fun k hk hc => h k hk (List.contains_iff_mem.2 hc), rfl⟩
    · rintro ⟨_, rfl⟩
      rfl

end DialectRegistry

end MappingDdl
