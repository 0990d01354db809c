import MappingDdl.Mapping.Lineage

/-!
# Identity — which fields, columns and types identify the objects of a class

A class that marks a field as identity has exactly its marked fields as identity; otherwise the
class lists identity fields by name. A class without identity columns of its own takes those of the
nearest class it extends. The types of identity columns follow references: an identity field whose
type is a class stands for the identity types of that class.

Both walks may come back to where they were, which is an error of the document.
-/

namespace MappingDdl

/-- Why the identity of a class cannot be told. -/
inductive MappingError
  | unknownParent (cls parent : String)
  /-- The chain above `cls` comes back to `through`. -/
  | circularExtends (through cls : String)
  /-- The classes met on the way, the last one for the second time. -/
  | circularIdentity (chain : List String)
  | unknownClass (name : String)
  deriving Repr, DecidableEq, Inhabited

namespace MappingError

/-- The wording of a mapping error. -/
def message : MappingError → String
  | unknownParent cls parent => s!"Class '{cls}' extends unknown class '{parent}'"
  | circularExtends through _ => s!"Circular extends chain through class '{through}'"
  | circularIdentity chain => "Circular identity reference: " ++ " -> ".intercalate chain
  | unknownClass name => s!"Unknown class '{name}'"

/-- The class that a mapping error is about. -/
def className? : MappingError → Option String
  | unknownParent cls _ => some cls
  | circularExtends _ cls => some cls
  | circularIdentity chain => chain.head?
  | unknownClass _ => none

end MappingError

namespace ClassMapping

/-- Whether the class marks a field as identity. -/
def marksIdentity (c : ClassMapping) : Bool :=
  c.fields.any (·.identity)

/-- Whether the class lists a field as identity by its name. -/
def listsIdentity (c : ClassMapping) (f : FieldMapping) : Bool :=
  c.identity.any fun name => Text.lower name == Text.lower f.name

/-- Whether a field is an identity field of the class. -/
def isIdentity (c : ClassMapping) (f : FieldMapping) : Bool :=
  if c.marksIdentity then f.identity else c.listsIdentity f

/-- The identity fields that occupy columns, in the order of their declaration. -/
def identityFields (c : ClassMapping) : List FieldMapping :=
  c.fields.filter fun f => c.isIdentity f && f.isStored

/-- The class's own identity columns. -/
def ownIdentityColumns (c : ClassMapping) : List String :=
  c.identityFields.flatMap (·.columns)

end ClassMapping

/-- The identity columns of the first class of a chain that has any; `origin` is the class that was
asked about. -/
def Lineage.identityColumns (origin : String) : Lineage → Except MappingError (List String)
  | .root c => .ok c.ownIdentityColumns
  | .unknownParent c parent =>
    if c.ownIdentityColumns.isEmpty then .error (.unknownParent c.name parent)
    else .ok c.ownIdentityColumns
  | .cycle c parent =>
    if c.ownIdentityColumns.isEmpty then .error (.circularExtends parent origin)
    else .ok c.ownIdentityColumns
  | .step c rest =>
    if c.ownIdentityColumns.isEmpty then rest.identityColumns origin else .ok c.ownIdentityColumns

namespace Document

/-- The identity columns of a class, its own or inherited. -/
def identityColumns (d : Document) (c : ClassMapping) : Except MappingError (List String) :=
  (d.lineage c).identityColumns c.name

/-- The parent of a class. -/
def parent (d : Document) (c : ClassMapping) : Except MappingError (Option ClassMapping) :=
  match given c.parent with
  | none => .ok none
  | some name =>
    match d.class? name with
    | none => .error (.unknownParent c.name name)
    | some p => .ok (some p)

/-- Concatenates the lists that a function gives for the items of a list. -/
def concatMap {α β ε : Type} (f : α → Except ε (List β)) : List α → Except ε (List β)
  | [] => .ok []
  | a :: rest => do return (← f a) ++ (← concatMap f rest)

/-- The identity types of a class, given the classes whose names have not been met and the names on
the way to it. -/
def identityTypesFrom (d : Document) (unmet : List ClassMapping) (path : List String)
    (c : ClassMapping) : Except MappingError (List String) :=
  let visit (r : ClassMapping) : Except MappingError (List String) :=
    if _h : unmet.any (·.name == r.name) = true then
      d.identityTypesFrom (without unmet r.name) (path ++ [r.name]) r
    else .error (.circularIdentity (path ++ [r.name]))
  -- no identity fields of its own: those of the parent
  if c.identityFields.isEmpty then
    match d.parent c with
    | .error e => .error e
    | .ok none => .ok []
    | .ok (some p) => visit p
  else
    concatMap (fun f =>
      -- a declared type wins over the class that the field refers to
      match given f.sqlType with
      | some t => .ok (f.columns.map fun _ => t)
      | none =>
        match d.class? f.type with
        | some r => visit r
        | none => .ok (f.columns.map fun _ => f.type)) c.identityFields
termination_by unmet.length
decreasing_by all_goals exact length_without_lt _h

/-- The type names of a class's identity columns, one per column. -/
def identityTypes (d : Document) (c : ClassMapping) : Except MappingError (List String) :=
  d.identityTypesFrom (without d.classes c.name) [c.name] c

/-- The type names of the identity columns of a class given by name. -/
def identityTypesOf (d : Document) (name : String) : Except MappingError (List String) :=
  match d.class? name with
  | none => .error (.unknownClass name)
  | some c => d.identityTypes c

end Document

end MappingDdl
