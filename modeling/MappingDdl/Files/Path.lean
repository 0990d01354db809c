/-!
# Paths

A path is kept as its steps, without empty steps and steps to the same place; steps to the
directory above stay, since they cannot be taken back without looking at the files. The directory
that relative paths start from can also be named by its absolute path.
-/

namespace MappingDdl

/-- Where a path starts. -/
inductive PathAnchor
  | here
  /-- The directory that relative paths start from, by its absolute path. -/
  | home
  /-- The root, written with one or two slashes. -/
  | root (slashes : Nat)
  deriving Repr, DecidableEq, Inhabited

/-- A path. -/
structure Path where
  anchor : PathAnchor := .here
  steps : List String
  deriving Repr, DecidableEq, Inhabited

namespace Path

/-- The path that a text writes. Three and more slashes in front stand for one. -/
def ofText (s : String) : Path :=
  let slashes := (s.toList.takeWhile (· == '/')).length
  let steps := (s.splitOn "/").filter fun x => x != "" && x != "."
  ⟨if slashes = 0 then .here else .root (if slashes = 2 then 2 else 1), steps⟩

/-- A path one step further. -/
def child (p : Path) (name : String) : Path :=
  { p with steps := p.steps ++ [name] }

/-- The last step, empty if there is none. -/
def name (p : Path) : String :=
  p.steps.getLastD ""

/-- The text of a path; `home` is the absolute path of the directory at hand. -/
def text (home : String) (p : Path) : String :=
  let body := "/".intercalate p.steps
  match p.anchor with
  | .here => if p.steps.isEmpty then "." else body
  | .home => if p.steps.isEmpty then home else home ++ "/" ++ body
  | .root slashes => String.ofList (List.replicate slashes '/') ++ body

end Path

end MappingDdl
