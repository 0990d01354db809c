import MappingDdl.Yaml.Tag
import MappingDdl.Yaml.Token

/-!
# YAML nodes — the tree of a document

Scalars keep their text; what value they have is decided by their tag.
-/

namespace MappingDdl.Yaml

/-- A node of a document. -/
inductive Node
  | scalar (tag : Tag) (text : ScalarText)
  | sequence (tag : Tag) (items : List Node)
  | mapping (tag : Tag) (entries : List (Node × Node))
  deriving Inhabited

namespace Node

/-- The tag of a node. -/
def tag : Node → Tag
  | scalar t _ => t
  | sequence t _ => t
  | mapping t _ => t

/-- The node that stands where nothing is written. -/
def empty : Node :=
  scalar (.ofPlain "") ⟨"", true⟩

mutual

/-- The text of a scalar; a mapping stands for the scalar under its default key. -/
def scalarText? : Node → Option ScalarText
  | scalar _ text => some text
  | sequence _ _ => none
  | mapping _ entries => defaultText? entries

/-- The text of the scalar under the first default key. -/
def defaultText? : List (Node × Node) → Option ScalarText
  | [] => none
  | (k, v) :: rest => if k.tag == .default then scalarText? v else defaultText? rest

end

end Node

end MappingDdl.Yaml
