import MappingDdl.Files.Path
import MappingDdl.Text.Literal

/-!
# A tree of files

The files below a directory, as far as a program can see them: reading and writing a file, taking
one away, and listing a directory. A path is followed step by step, and each step but the last must
lead to a directory. Outside of the tree only directories above it are known.
-/

namespace MappingDdl

/-- Why a file cannot be read or written. -/
inductive FileErrorKind
  | notFound
  | notDirectory
  | isDirectory
  | nameTooLong
  | notPermitted
  deriving Repr, DecidableEq, Inhabited

namespace FileErrorKind

/-- The number of an error. -/
def code : FileErrorKind → Nat
  | notFound => 2
  | notPermitted => 13
  | notDirectory => 20
  | isDirectory => 21
  | nameTooLong => 36

/-- The wording of an error. -/
def text : FileErrorKind → String
  | notFound => "No such file or directory"
  | notPermitted => "Permission denied"
  | notDirectory => "Not a directory"
  | isDirectory => "Is a directory"
  | nameTooLong => "File name too long"

/-- The message of an error at a path. -/
def message (k : FileErrorKind) (path : String) : String :=
  let quoted := String.ofList (Text.Literal.quoteChars false path.toList)
  s!"[Errno {k.code}] {k.text}: {quoted}"

end FileErrorKind

/-- The files below a directory. A place is named by the steps that lead to it. -/
structure FileTree where
  files : List (List String × List UInt8) := []
  directories : List (List String) := []
  /-- The absolute path of the directory itself. -/
  home : String := ""
  deriving Inhabited

/-- A place in or above a tree. -/
inductive Place
  | inside (steps : List String)
  /-- A directory so many steps above the tree. -/
  | above (n : Nat)
  deriving Repr, DecidableEq, Inhabited

namespace FileTree

/-- The content of a file. -/
def file? (t : FileTree) (steps : List String) : Option (List UInt8) :=
  t.files.lookup steps

/-- Whether a place in the tree is a directory. -/
def isDirectory (t : FileTree) (steps : List String) : Bool :=
  steps.isEmpty || t.directories.contains steps

/-- The longest name of a file, in bytes. -/
def maxNameSize : Nat := 255

/-- One step from a directory. -/
def step (t : FileTree) (place : Place) (name : String) : Except FileErrorKind Place :=
  match place with
  | .above n => if name = ".." then .ok (.above (n + 1)) else .error .notFound
  | .inside steps =>
    if !t.isDirectory steps then
      .error (if (t.file? steps).isSome then .notDirectory else .notFound)
    else if maxNameSize < name.utf8ByteSize then .error .nameTooLong
    else if name = ".." then
      .ok (if steps.isEmpty then .above 1 else .inside steps.dropLast)
    else .ok (.inside (steps ++ [name]))

/-- The place that a path leads to. -/
def locate (t : FileTree) (p : Path) : Except FileErrorKind Place :=
  match p.anchor with
  | .root _ => if p.steps.all (· == "..") then .ok (.above 0) else .error .notFound
  | _ => p.steps.foldlM t.step (.inside [])

/-- Reads a file. -/
def read (t : FileTree) (p : Path) : Except FileErrorKind (List UInt8) := do
  match ← t.locate p with
  | .above _ => throw .isDirectory
  | .inside steps =>
    if t.isDirectory steps then throw .isDirectory
    match t.file? steps with
    | some bytes => return bytes
    | none => throw .notFound

/-- The files with one of them put in, in its old place if it was there. -/
def insert (t : FileTree) (steps : List String) (bytes : List UInt8) : FileTree :=
  if (t.file? steps).isSome then
    { t with files := t.files.map fun f => if f.1 == steps then (steps, bytes) else f }
  else { t with files := t.files ++ [(steps, bytes)] }

/-- Writes a file, in a directory that must be there. A path that ends in a slash is no file's. -/
def write (t : FileTree) (path : String) (bytes : List UInt8) : Except FileErrorKind FileTree := do
  match ← t.locate (.ofText path) with
  | .above _ => throw .isDirectory
  | .inside steps =>
    if t.isDirectory steps then throw .isDirectory
    -- no directory is made on the way
    unless t.isDirectory steps.dropLast do
      throw (if (t.file? steps.dropLast).isSome then .notDirectory else .notFound)
    -- a slash at the end asks for a directory
    if path.toList.getLast? == some '/' then
      throw (if (t.file? steps).isSome then .notDirectory else .isDirectory)
    return t.insert steps bytes

/-- Puts a file in, with the directories around it. -/
def place (t : FileTree) (path : String) (bytes : List UInt8) : FileTree :=
  let steps := (Path.ofText path).steps
  let parents := (List.range steps.length).map fun n => steps.take n
  let directories := t.directories ++ parents.filter fun d => !t.directories.contains d
  { t with directories }.insert steps bytes

/-- Takes a file away. -/
def remove (t : FileTree) (path : String) : FileTree :=
  let steps := (Path.ofText path).steps
  { t with files := t.files.filter (·.1 != steps) }

/-- The steps to the place in the tree that a path names, with steps upward taken back. Places that
are not there are passed as if they were. -/
def resolve (p : Path) : Option (List String) :=
  match p.anchor with
  | .root _ => none
  | _ => p.steps.foldlM (fun steps name =>
      if name != ".." then some (steps ++ [name])
      else if steps.isEmpty then none
      else some steps.dropLast) []

/-- The names in a directory. -/
def names (t : FileTree) (steps : List String) : List String :=
  let inside (place : List String) : Option String :=
    if place.dropLast == steps then place.getLast? else none
  (t.files.map (·.1) ++ t.directories).filterMap inside |>.eraseDups

/-- Whether a path leads to a file or a directory. -/
def contains (t : FileTree) (p : Path) : Bool :=
  match t.locate p with
  | .error _ => false
  | .ok (.above _) => true
  | .ok (.inside steps) => t.isDirectory steps || (t.file? steps).isSome

end FileTree

end MappingDdl
