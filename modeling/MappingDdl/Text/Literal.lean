import MappingDdl.Text.Printable

/-!
# Quoted literals — texts and lists of texts inside messages

A message shows a text between single quotes, or between double quotes when the text holds a single
quote and no double quote. The quote in use and the backslash are escaped, and what cannot be
printed is written by its code point.
-/

namespace MappingDdl.Text.Literal

/-- The lower-case hexadecimal digits of `n`, padded with zeros to `width`. -/
def hex (width n : Nat) : List Char :=
  let ds := (Nat.toDigits 16 n)
  List.replicate (width - ds.length) '0' ++ ds

/-- The escape of a character by its code point, in the shortest of the three widths. -/
def codeEscape (c : Char) : List Char :=
  let n := c.toNat
  if n < 0x100 then '\\' :: 'x' :: hex 2 n
  else if n < 0x10000 then '\\' :: 'u' :: hex 4 n
  else '\\' :: 'U' :: hex 8 n

/-- One character between quotes `quote`; `asciiOnly` escapes every character outside ASCII. -/
def escapeChar (asciiOnly : Bool) (quote c : Char) : List Char :=
  if c = '\\' || c = quote then ['\\', c]
  else if c = '\n' then ['\\', 'n']
  else if c = '\r' then ['\\', 'r']
  else if c = '\t' then ['\\', 't']
  else if isPrintable c && !(asciiOnly && 128 ≤ c.toNat) then [c]
  else codeEscape c

/-- The quote used for a text. -/
def quoteFor (cs : List Char) : Char :=
  if cs.contains '\'' && !cs.contains '"' then '"' else '\''

/-- A text between quotes. -/
def quoteChars (asciiOnly : Bool) (cs : List Char) : List Char :=
  let q := quoteFor cs
  q :: cs.flatMap (escapeChar asciiOnly q) ++ [q]

/-- A text between quotes. -/
def quote (s : String) : String :=
  String.ofList (quoteChars false s.toList)

/-- A list of texts, each between quotes, inside square brackets. -/
def list (xs : List String) : String :=
  "[" ++ ", ".intercalate (xs.map quote) ++ "]"

end MappingDdl.Text.Literal
