import MappingDdl.Mapping.Source
import MappingDdl.Text.Order

/-!
# A library of mapping documents

Documents are read from files and kept: a file that was read once is not read again, however its
path is written, until the library is told to forget. Files that could not be read are not kept.

Main statements: `load_of_cached`, a document that is kept is what loading gives, and
`load_after_load`, loading the same path again gives the same document.
-/

namespace MappingDdl

/-- A library: the directory it serves, and the documents it keeps by the place of their file. -/
structure Library where
  directory : Path := ⟨.home, ["mappings"]⟩
  cache : List (List String × Document) := []
  deriving Inhabited

namespace Library

/-- The library of a directory; an empty text names the directory for mappings. -/
def ofDirectory (directory : Option String) : Library :=
  match directory.filter (· != "") with
  | some d => { directory := .ofText d }
  | none => {}

/-- The document that is kept for a path. -/
def cached? (l : Library) (p : Path) : Option Document :=
  (FileTree.resolve p).bind fun place => l.cache.lookup place

/-- Keeps a document for a path. -/
def keep (l : Library) (p : Path) (d : Document) : Library :=
  match FileTree.resolve p with
  | some place => { l with cache := (place, d) :: l.cache }
  | none => l

/-- Forgets all documents. -/
def clear (l : Library) : Library :=
  { l with cache := [] }

/-- The document in a file. -/
def load (l : Library) (t : FileTree) (p : Path) : Library × Traced LoadError Document :=
  match l.cached? p with
  -- the file is not looked at again
  | some d => (l, pure d)
  | none =>
    match Document.ofFile (p.text t.home) (t.read p) with
    | .error e => (l, .fail e)
    | .ok d => (l.keep p d, do
        Traced.note .info sourceLogger (d.loadedMessage p.name)
        return d)

/-- The documents in files, up to the first that cannot be read. -/
def loadEach (t : FileTree) : Library → List Path → Library × Traced LoadError (List Document)
  | l, [] => (l, pure [])
  | l, p :: rest =>
    let (l', x) := l.load t p
    match x.outcome with
    -- what was read before the failure stays in the library
    | .error e => (l', ⟨x.log, .error e⟩)
    | .ok d =>
      let (l'', y) := loadEach t l' rest
      (l'', do
        let _ ← x
        return d :: (← y))

/-- Whether a file of this name holds a mapping. -/
def isMappingName (name : String) : Bool :=
  name.endsWith ".yaml" || name.endsWith ".yml"

/-- The mapping files of the directory, by name. -/
def paths (l : Library) (t : FileTree) : List Path :=
  match t.locate l.directory with
  | .ok (.inside steps) =>
    (Text.sorted ((t.names steps).filter isMappingName)).map l.directory.child
  | _ => []

/-- All documents of the directory. A directory that is not there has none. -/
def loadAll (l : Library) (t : FileTree) : Library × Traced LoadError (List Document) :=
  let directory := l.directory.text t.home
  if t.contains l.directory then
    let (l', x) := loadEach t l (l.paths t)
    (l', do
      let ds ← x
      Traced.note .info sourceLogger s!"Loaded {ds.length} mappings from {directory}"
      return ds)
  else (l, do
    Traced.note .warning sourceLogger s!"Mappings directory not found: {directory}"
    return [])

theorem load_of_cached {l : Library} {p : Path} {d : Document} (t : FileTree)
    (h : l.cached? p = some d) : l.load t p = (l, pure d) := by
  simp [load, h]

theorem cached?_keep {l : Library} {p : Path} {d : Document} {place : List String}
    (h : FileTree.resolve p = some place) : (l.keep p d).cached? p = some d := by
  simp [cached?, keep, h]

/-- A file inside the tree that was loaded once is loaded again as the same document, also after it
was changed. -/
theorem load_after_load {l : Library} {t t' : FileTree} {p : Path} {d : Document}
    {place : List String} (hp : FileTree.resolve p = some place)
    (h : (l.load t p).2.outcome = .ok d) :
    (((l.load t p).1.load t' p).2).outcome = .ok d := by
  cases hc : l.cached? p with
  | some e =>
    rw [load_of_cached t hc] at h ⊢
    rw [load_of_cached t' hc]
    exact h
  | none =>
    simp only [load, hc] at h ⊢
    cases hd : Document.ofFile (p.text t.home) (t.read p) with
    | error e => simp [hd] at h
    | ok e =>
      rw [hd] at h
      have he : e = d := by
        simpa [Traced.outcome_bind, Except.bind] using h
      subst he
      simp [cached?_keep hp]

end Library

end MappingDdl
