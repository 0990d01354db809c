import MappingDdl.Files.Tree
import MappingDdl.Log
import MappingDdl.Mapping.Structure
import MappingDdl.Mapping.Validation
import MappingDdl.Text.Lines
import MappingDdl.Yaml.Document

/-!
# Sources of mapping documents

A document is read from a text in three steps: the text must be YAML, its value must be a valid
document, and the structure of the document must be sound. A text without a value is the empty
document. Every error of these steps names the source of the text.

How YAML is read and how a document is validated is a matter of a `Reader`, which may fail in other
ways, too. `Reader.standard` is the one that is taken where none is given.
-/

namespace MappingDdl

/-- Why a source gives no document. -/
inductive LoadError
  | unreadable (source : String) (kind : FileErrorKind)
  | malformed (source : String)
  | notMapping (source kind : String)
  | invalid (source : String) (e : ValidationError)
  | inconsistent (source : String) (problems : List StructureProblem)
  /-- What no step has an error for. -/
  | conversion (f : Fault)
  deriving Repr, DecidableEq, Inhabited

namespace LoadError

/-- The source that an error names. -/
def source? : LoadError → Option String
  | unreadable s _ | malformed s | notMapping s _ | invalid s _ | inconsistent s _ => some s
  | conversion _ => none

/-- The heading of a failed validation. -/
def validationHeading (e : ValidationError) : String :=
  let n := e.problems.length
  let noun := if n = 1 then "error" else "errors"
  s!"{n} validation {noun} for {e.title}"

/-- The wording of an error; a failed conversion has none. -/
def message : LoadError → String
  | unreadable s k => s!"Cannot read mapping file {s}: " ++ k.message s
  | malformed s => s!"Malformed YAML in {s}"
  | notMapping s kind => s!"Mapping in {s} must be a YAML mapping, got {kind}"
  | invalid s e => s!"Invalid mapping in {s}: " ++ validationHeading e
  | inconsistent s problems =>
    s!"Invalid mapping in {s}: " ++ Text.Literal.list (problems.map (·.message))
  | conversion _ => ""

end LoadError

/-! ## Readers -/

/-- What a text holds: nothing, a mapping, or a value of another kind. -/
inductive Content (α : Type)
  | nothing
  | mapping (entries : List (α × α))
  | other (kind : String)

/-- The content that a value is. -/
def Content.ofValue : Value → Content Value
  | .null => .nothing
  | .map entries => .mapping entries
  | v => .other v.kindName

/-- The entries of a content; nothing is a mapping without any. -/
def Content.entries? {α : Type} : Content α → Option (List (α × α))
  | nothing => some []
  | mapping entries => some entries
  | other _ => none

/-- Why entries are no document. -/
inductive Refusal
  /-- The validation says what is wrong with them. -/
  | invalid (e : ValidationError)
  /-- The validation itself fails. -/
  | failed (f : Fault)
  deriving Repr, DecidableEq, Inhabited

/-- A way to read texts, and to validate what was read. -/
structure Reader where
  /-- The values that texts hold. -/
  Object : Type
  /-- The content of a text, if it is well formed and nothing else keeps it from being read. -/
  read : String → Except Yaml.YamlError (Content Object)
  /-- Whether a value is a text. -/
  isText : Object → Bool
  /-- The document in the entries of a mapping with texts as keys. -/
  validate : List (Object × Object) → Except Refusal Document

namespace Reader

/-- Whether a value of a document is a text. -/
def isStandardText : Value → Bool
  | .str _ | .unpaired _ => true
  | _ => false

/-- The reader that gives the values of this library, and validates leniently. -/
def standard : Reader where
  Object := Value
  read text := (Yaml.read text).map Content.ofValue
  isText := isStandardText
  validate entries := (Document.ofEntries entries).mapError .invalid

instance : Inhabited Reader := ⟨standard⟩

end Reader

/-! ## Documents -/

namespace Document

/-- The source of a text that has none of its own. -/
def anonymousSource : String := "<string>"

/-- The document that was validated, whose structure must be sound. -/
def ofValidated (source : String) : Except Refusal Document → Except LoadError Document
  | .error (.invalid e) => .error (.invalid source e)
  | .error (.failed f) => .error (.conversion f)
  | .ok d =>
    match d.structureProblems with
    | [] => .ok d
    | problems => .error (.inconsistent source problems)

/-- The document with given entries, which must have texts as keys. -/
def ofMapping (r : Reader) (source : String) (entries : List (r.Object × r.Object)) :
    Except LoadError Document :=
  if entries.any fun e => !r.isText e.1 then .error (.conversion .wrongKind)
  else ofValidated source (r.validate entries)

/-- The document that a content stands for. -/
def ofContent (r : Reader) (source : String) : Content r.Object → Except LoadError Document
  -- a text without content is an empty document
  | .nothing => ofMapping r source []
  | .mapping entries => ofMapping r source entries
  | .other kind => .error (.notMapping source kind)

/-- The document in a text. -/
def ofText (source text : String) (r : Reader := .standard) : Except LoadError Document :=
  match r.read text with
  | .ok content => ofContent r source content
  | .error .malformed => .error (.malformed source)
  | .error (.conversion f) => .error (.conversion f)

/-- The document in the bytes of a file, or in none if the file cannot be read. -/
def ofFile (source : String) (content : Except FileErrorKind (List UInt8))
    (r : Reader := .standard) : Except LoadError Document :=
  match content with
  | .error k => .error (.unreadable source k)
  | .ok bytes =>
    match Text.ofFile? bytes with
    | some text => ofText source text r
    | none => .error (.conversion .undecodable)

end Document

/-- The logger of the reading of sources. -/
def sourceLogger : Logger := ⟨"services.mapping_service", false⟩

/-- The record of a document that was read from a file of a given name. -/
def Document.loadedMessage (d : Document) (file : String) : String :=
  s!"Loaded mapping {file}: {d.classes.length} classes, {d.keyGenerators.length} key generators"

end MappingDdl
