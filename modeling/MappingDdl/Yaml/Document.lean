import MappingDdl.Yaml.Node.Parser
import MappingDdl.Yaml.Scalar

/-!
# The value of a YAML text

The values of the nodes of a tree. A merge key puts the entries of the mapping under it in front of
the entries around it, so that these win.

Values are made level by level: of several failures the least deep one counts, and of those the
first.
-/

namespace MappingDdl.Yaml

/-- A failure and the level it was found at. -/
structure Failure where
  level : Nat
  error : YamlError
  deriving Repr, DecidableEq, Inhabited

/-- The value of a node, or why it has none. -/
abbrev Outcome := Except Failure Value

/-- The failure of an outcome. -/
def Outcome.failure? : Outcome → Option Failure
  | .ok _ => none
  | .error f => some f

/-- The value of an outcome. -/
def Outcome.value? : Outcome → Option Value
  | .ok v => some v
  | .error _ => none

/-- The least deep failure of a list of outcomes, the first of several. -/
def firstFailure? (os : List Outcome) : Option Failure :=
  (os.filterMap Outcome.failure?).foldl
    (fun best f => match best with
      | none => some f
      | some b => if f.level < b.level then some f else some b)
    none

/-- The value made of parts, if none of them failed. -/
def gather (parts : List Outcome) (build : List Value → Value) : Outcome :=
  match firstFailure? parts with
  | some f => .error f
  | none => .ok (build (parts.filterMap Outcome.value?))

/-- The outcomes of mapping entries, keys before their values. -/
def entryParts (es : List (Outcome × Outcome)) : List Outcome :=
  es.flatMap fun e => [e.1, e.2]

/-- Entries from the values of keys and values in turn; the last value of a key counts. -/
def entriesOf : List Value → List (Value × Value) → List (Value × Value)
  | k :: v :: rest, es => entriesOf rest (Value.insert es k v)
  | _, es => es

/-- The entries of an ordered mapping. -/
def pairsOf : List Value → List Value
  | k :: v :: rest => .pair k v :: pairsOf rest
  | _ => []

namespace Node

/-- The value of a node that stands for a scalar. -/
def scalarOutcome (level : Nat) (n : Node) : Outcome :=
  match n, n.scalarText? with
  | .mapping .timestamp _, some _ => .error ⟨level, .conversion .wrongKind⟩
  | _, some t => (Scalar.value n.tag t).mapError (⟨level, ·⟩)
  | _, none => .error ⟨level, .malformed⟩

mutual

/-- The value of a node at a level. -/
def outcome (level : Nat) : Node → Outcome
  | .scalar tag text =>
    if tag.isCollection then .error ⟨level + 1, .malformed⟩
    else scalarOutcome level (.scalar tag text)
  | .sequence tag items =>
    match tag with
    | .seq => gather (outcomes (level + 1) items) .list
    | .orderedMap | .pairs => gather (pairOutcomes (level + 1) items) (fun vs => .list (pairsOf vs))
    | .map | .set => .error ⟨level + 1, .malformed⟩
    | _ => .error ⟨level, .malformed⟩
  | .mapping tag entries =>
    match tag with
    | .map | .set =>
      match entryOutcomes (level + 1) entries with
      | none => .error ⟨level + 1, .malformed⟩
      -- merged entries stand first, so that the mapping's own win
      | some (merged, own) =>
        gather (entryParts (merged ++ own)) fun vs =>
          let es := entriesOf vs []
          if tag == .map then .map es else .set (es.map (·.1))
    | .seq | .orderedMap | .pairs => .error ⟨level + 1, .malformed⟩
    | tag => scalarOutcome level (.mapping tag entries)

/-- The values of the items of a sequence. -/
def outcomes (level : Nat) : List Node → List Outcome
  | [] => []
  | n :: rest => outcome level n :: outcomes level rest

/-- The keys and values of an ordered mapping, each a mapping with one entry. -/
def pairOutcomes (level : Nat) : List Node → List Outcome
  | [] => []
  | .mapping _ [(k, v)] :: rest =>
    outcome level k :: outcome level v :: pairOutcomes level rest
  | _ :: _ => [.error ⟨level, .malformed⟩]

/-- The entries of a mapping: those merged into it, and its own. -/
def entryOutcomes (level : Nat) :
    List (Node × Node) → Option (List (Outcome × Outcome) × List (Outcome × Outcome))
  | [] => some ([], [])
  | (k, v) :: rest => do
    match k.tag with
    | .merge =>
      let es ← mergedOutcomes level v
      let (merged, own) ← entryOutcomes level rest
      return (es ++ merged, own)
    | .default =>
      let key := match k.scalarText? with
        | some text => .ok (Scalar.str text)
        | none => .error ⟨level, .malformed⟩
      let value := outcome level v
      let (merged, own) ← entryOutcomes level rest
      return (merged, (key, value) :: own)
    | tag =>
      let key := if tag.isCollection then .error ⟨level, .malformed⟩ else outcome level k
      let value := outcome level v
      let (merged, own) ← entryOutcomes level rest
      return (merged, (key, value) :: own)

/-- The entries under a merge key: those of a mapping, or those of a sequence of mappings, the last
mapping first. -/
def mergedOutcomes (level : Nat) : Node → Option (List (Outcome × Outcome))
  | .scalar _ _ => none
  | .mapping _ entries => (entryOutcomes level entries).map fun p => p.1 ++ p.2
  | .sequence _ items => mergedAll level items

/-- The entries of a sequence of mappings, the last mapping first. -/
def mergedAll (level : Nat) : List Node → Option (List (Outcome × Outcome))
  | [] => some []
  | .mapping _ entries :: rest => do
    let (merged, own) ← entryOutcomes level entries
    let after ← mergedAll level rest
    return after ++ merged ++ own
  | _ :: _ => none

end

end Node

/-- The value of a text. -/
def read (s : String) : Except YamlError Value := do
  let n ← Node.ofText? s
  (n.outcome 0).mapError (·.error)

end MappingDdl.Yaml
