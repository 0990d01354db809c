import MappingDdl.Mapping.Coercions
import MappingDdl.Mapping.Document

/-!
# Validation — from a value to a mapping document

A document is accepted leniently: single values are taken for others (`Coercions`), a single text
may stand for a list of one text, and null for an empty list. Entries that are not known are left
out. All problems are reported, in the order of the declared entries.
-/

namespace MappingDdl

namespace Validation

variable (c : Coercions)

/-- Texts of at least one character. -/
def name (v : Value) : Checked String :=
  match c.text v with
  | ⟨some s, ps⟩ => if s = "" then .issue .textTooShort else ⟨some s, ps⟩
  | x => x

/-- Texts or null. -/
def textOrNull : Value → Checked (Option String)
  | .null => .ok none
  | v => (c.text v).map some

/-- Lists of checked items. -/
def list {α : Type} (item : Value → Checked α) (v : Value) : Checked (List α) :=
  match c.items v with
  | some vs => Checked.items item 0 vs
  | none => .issue .notList

/-- A single text as a list of one, and null as the empty list. -/
def listed : Value → Value
  | .null => .list []
  | .str s => .list [.str s]
  | .unpaired s => .list [.unpaired s]
  | v => v

/-- Lists of texts, with the short forms. -/
def texts (v : Value) : Checked (List String) :=
  list c c.text (listed v)

/-- Lists of at least one text, with the short forms. -/
def someTexts (v : Value) : Checked (List String) :=
  match texts c v with
  | ⟨some [], []⟩ => .issue .listTooShort
  | x => x

/-- A declared entry of a record; without a default it must be there. -/
def entry {α : Type} (es : List (Value × Value)) (key : String) (default : Option α)
    (check : Value → Checked α) : Checked α :=
  Checked.within (.name key) <|
    match Value.lookup es key, default with
    | some v, _ => check v
    | none, some a => .ok a
    | none, none => .issue .missing

/-- Records: mappings whose declared entries are checked. -/
def record {α : Type} (check : List (Value × Value) → Checked α) (v : Value) : Checked α :=
  match c.entries v with
  | some es => check es
  | none => .issue .notRecord

/-- A key generator declaration; the strategy is the name where none is given. -/
def keyGenerator (es : List (Value × Value)) : Checked KeyGeneratorDef :=
  let build (name : String) (strategy : Option String) (ps : List (String × Value)) :
      KeyGeneratorDef := ⟨name, (given strategy).getD name, ps⟩
  (((entry es "name" none (name c)).map build).ap
    (entry es "strategy" (some none) (textOrNull c))).ap
    (entry es "params" (some []) c.params)

/-- An index declaration. -/
def index (es : List (Value × Value)) : Checked IndexDef :=
  (((entry es "name" (some none) (textOrNull c)).map IndexDef.mk).ap
    (entry es "columns" none (someTexts c))).ap (entry es "unique" (some false) c.bool)

/-- A field declaration. -/
def field (es : List (Value × Value)) : Checked FieldMapping :=
  (((((((entry es "name" none (name c)).map FieldMapping.mk).ap
    (entry es "type" none (name c))).ap
    (entry es "identity" (some false) c.bool)).ap
    (entry es "required" (some false) c.bool)).ap
    (entry es "columns" (some []) (texts c))).ap
    (entry es "sql_type" (some none) (textOrNull c))).ap
    (entry es "many_table" (some none) (textOrNull c)) |>.ap
    (entry es "many_key" (some []) (texts c))

/-- A class declaration. -/
def classMapping (es : List (Value × Value)) : Checked ClassMapping :=
  ((((((entry es "name" none (name c)).map ClassMapping.mk).ap
    (entry es "table" (some none) (textOrNull c))).ap
    (entry es "extends" (some none) (textOrNull c))).ap
    (entry es "key_generator" (some none) (textOrNull c))).ap
    (entry es "identity" (some []) (texts c))).ap
    (entry es "fields" (some []) (list c (record c (field c)))) |>.ap
    (entry es "indexes" (some []) (list c (record c (index c))))

/-- A whole document. -/
def document (es : List (Value × Value)) : Checked Document :=
  (((entry es "description" (some none) (textOrNull c)).map Document.mk).ap
    (entry es "key_generators" (some []) (list c (record c (keyGenerator c))))).ap
    (entry es "classes" (some []) (list c (record c (classMapping c))))

end Validation

/-- The key generator declaration in the entries of a mapping. -/
def KeyGeneratorDef.ofEntries (es : List (Value × Value)) (c : Coercions := .lax) :
    Except ValidationError KeyGeneratorDef :=
  (Validation.keyGenerator c es).toExcept "KeyGeneratorDef"

/-- The index declaration in the entries of a mapping. -/
def IndexDef.ofEntries (es : List (Value × Value)) (c : Coercions := .lax) :
    Except ValidationError IndexDef :=
  (Validation.index c es).toExcept "IndexDef"

/-- The field declaration in the entries of a mapping. -/
def FieldMapping.ofEntries (es : List (Value × Value)) (c : Coercions := .lax) :
    Except ValidationError FieldMapping :=
  (Validation.field c es).toExcept "FieldMapping"

/-- The class declaration in the entries of a mapping. -/
def ClassMapping.ofEntries (es : List (Value × Value)) (c : Coercions := .lax) :
    Except ValidationError ClassMapping :=
  (Validation.classMapping c es).toExcept "ClassMapping"

/-- The document in the entries of a mapping. -/
def Document.ofEntries (es : List (Value × Value)) (c : Coercions := .lax) :
    Except ValidationError Document :=
  (Validation.document c es).toExcept "MappingDocument"

end MappingDdl
