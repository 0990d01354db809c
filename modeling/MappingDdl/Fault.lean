/-!
# Faults — why a conversion of a text or a value has no result

The faults of filling a template, reading a number or decoding a text. They carry no wording: what
failed is said by the caller, which knows what it was converting.
-/

namespace MappingDdl

/-- The kinds of failure of a conversion. -/
inductive Fault
  /-- The text or number is not of the accepted form. -/
  | malformed
  /-- A position beyond the last argument. -/
  | noSuchPosition
  /-- A name that stands for no argument. -/
  | noSuchName
  /-- A value of a kind that the conversion does not take. -/
  | wrongKind
  /-- A value that lacks the part asked for. -/
  | noSuchPart
  /-- A number too large for the conversion. -/
  | outOfRange
  /-- Bytes that are not the encoding of a text. -/
  | undecodable
  /-- A text with a character that has no place where it is written. -/
  | forbidden
  /-- A text with halves of surrogate pairs, where its encoding is needed. -/
  | unencodable
  /-- A conversion that takes more steps or more room than there are. -/
  | exhausted
  deriving Repr, DecidableEq, Inhabited

end MappingDdl
