/-!
# Line breaks of files

In a file read as text, every line break counts as a line feed.
-/

namespace MappingDdl.Text

/-- The text with each carriage return, alone or before a line feed, as one line feed. -/
def unifyBreaks : List Char → List Char
  | [] => []
  | '\r' :: '\n' :: cs => '\n' :: unifyBreaks cs
  | c :: cs => (if c = '\r' then '\n' else c) :: unifyBreaks cs

/-- The text in the bytes of a file. -/
def ofFile? (bytes : List UInt8) : Option String :=
  (String.fromUTF8? ⟨bytes.toArray⟩).map fun s => String.ofList (unifyBreaks s.toList)

end MappingDdl.Text
