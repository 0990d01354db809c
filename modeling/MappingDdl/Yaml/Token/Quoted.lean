import MappingDdl.Yaml.Token
import MappingDdl.Yaml.Token.Plain

/-!
# Quoted scalars

Between single quotes a doubled quote stands for one. Between double quotes a backslash starts an
escape, and one at the end of a line joins it with the next. Line breaks are folded in both.

An escape may name half of a surrogate pair; two halves in a row make one character.
-/

namespace MappingDdl.Yaml.Quoted

/-- The characters that an escape of one letter stands for. -/
def escapes : List (Char × Nat) := [
  ('0', 0), ('a', 7), ('b', 8), ('t', 9), ('\t', 9), ('n', 10), ('v', 11), ('f', 12), ('r', 13),
  ('e', 0x1b), (' ', 0x20), ('"', 0x22), ('\\', 0x5c), ('/', 0x2f), ('N', 0x85), ('_', 0xa0),
  ('L', 0x2028), ('P', 0x2029)]

/-- The number of hexadecimal digits after an escape letter. -/
def escapeWidth? : Char → Option Nat
  | 'x' => some 2
  | 'u' => some 4
  | 'U' => some 8
  | _ => none

/-- The value of a hexadecimal digit. -/
def hexDigit? (c : Char) : Option Nat :=
  if c.isDigit then some (c.toNat - 48)
  else if 'a' ≤ c ∧ c ≤ 'f' then some (c.toNat - 87)
  else if 'A' ≤ c ∧ c ≤ 'F' then some (c.toNat - 55)
  else none

/-- The code point written in `width` hexadecimal digits. -/
def codePoint (width : Nat) (cs : List Char) : Except YamlError Nat :=
  let ds := (cs.take width).filterMap hexDigit?
  if ds.length != width then .error .malformed
  else
    let n := ds.foldl (fun n d => 16 * n + d) 0
    if 0x7fffffff < n then .error (.conversion .outOfRange)
    else if 0x10ffff < n then .error (.conversion .malformed)
    else .ok n

/-- Reads blank lines inside a quoted scalar, with fuel for one step per line. A document marker is
not allowed there. -/
def blankLines : Nat → Cursor → Except YamlError (List Char × Cursor)
  | 0, c => .ok ([], c)
  | fuel + 1, c =>
    if c.isDocumentMarker then .error .malformed
    else
      let c := c.skip fun x => x == ' ' || x == '\t'
      match c.lineBreak? with
      | none => .ok ([], c)
      | some (b, c) => (blankLines fuel c).map fun p => (b :: p.1, p.2)

/-- Reads blanks and line breaks inside a quoted scalar. -/
def gap (c : Cursor) : Except YamlError (List Char × Cursor) :=
  let (spaces, c) := c.span fun x => x == ' ' || x == '\t'
  match c.peek, c.lineBreak? with
  | none, _ => .error .malformed
  | _, none => .ok (spaces, c)
  | _, some (b, c) => (blankLines (c.rest.length + 1) c).map fun p => (foldBreaks b p.1, p.2)

/-- Reads an escape after its backslash. -/
def escape (c : Cursor) : Except YamlError (List Nat × Cursor) :=
  match c.peek with
  | none => .error .malformed
  | some x =>
    match escapes.lookup x, escapeWidth? x with
    | some n, _ => .ok ([n], c.next)
    | none, some width =>
      (codePoint width c.next.rest).map fun n => ([n], c.next.advance width)
    | none, none =>
      match c.lineBreak? with
      | some (_, c) =>
        (blankLines (c.rest.length + 1) c).map fun p => (p.1.map (·.toNat), p.2)
      | none => .error .malformed

/-- Reads a quoted scalar after its opening quote as code points, with fuel for one step per
character. -/
def readWith (double : Bool) : Nat → Cursor → Except YamlError (List Nat × Cursor)
  | 0, _ => .error .malformed
  | fuel + 1, c =>
    match c.peek with
    | none => .error .malformed
    | some x => do
      if isGap (some x) then
        let (cs, c) ← gap c
        let (rest, c) ← readWith double fuel c
        return (cs.map (·.toNat) ++ rest, c)
      -- a doubled quote stands for one
      else if x == '\'' && !double && c.peekAt 1 == some '\'' then
        let (rest, c) ← readWith double fuel (c.advance 2)
        return (x.toNat :: rest, c)
      else if x == (if double then '"' else '\'') then return ([], c.next)
      else if x == '\\' && double then
        let (ns, c) ← escape c.next
        let (rest, c) ← readWith double fuel c
        return (ns ++ rest, c)
      else
        let (rest, c) ← readWith double fuel c.next
        return (x.toNat :: rest, c)

/-- Half of a surrogate pair. -/
def isSurrogate (n : Nat) : Bool :=
  0xd800 ≤ n && n < 0xe000

/-- The characters of code points, in which pairs of surrogates are joined. -/
def joinSurrogates : List Nat → List Char
  | [] => []
  | h :: l :: rest =>
    if 0xd800 ≤ h ∧ h < 0xdc00 ∧ 0xdc00 ≤ l ∧ l < 0xe000 then
      Char.ofNat (0x10000 + (h - 0xd800) * 0x400 + (l - 0xdc00)) :: joinSurrogates rest
    else (if isSurrogate h then '\ufffd' else Char.ofNat h) :: joinSurrogates (l :: rest)
  | [n] => [if isSurrogate n then '\ufffd' else Char.ofNat n]

/-- Reads a quoted scalar from its opening quote. -/
def read (double : Bool) (c : Cursor) : Except YamlError (ScalarText × Cursor) := do
  let (ns, c) ← readWith double (c.rest.length + 1) c.next
  return (⟨String.ofList (joinSurrogates ns), !ns.any isSurrogate⟩, c)

end MappingDdl.Yaml.Quoted
