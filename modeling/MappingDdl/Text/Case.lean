import MappingDdl.Text.Ranges
import MappingDdl.Text.Case.Table

/-!
# Letter case — lower and upper case of every script

Names are compared and stored without regard to case. `lower` and `upper` map every letter of every
script; a letter may become several characters, and a capital sigma becomes the final sigma at the
end of a word.
-/

namespace MappingDdl.Text

namespace Case

/-- The lower-case form of one character, taken alone. -/
def lowerChar (c : Char) : List Char :=
  if c.toNat < 128 then [c.toLower]
  else match lowerExpansions.lookup c.toNat with
    | some image => image.map Char.ofNat
    | none => [((Run.image? lowerRuns c.toNat).map Char.ofNat).getD c]

/-- The upper-case form of one character. -/
def upperChar (c : Char) : List Char :=
  if c.toNat < 128 then [c.toUpper]
  else match upperExpansions.lookup c.toNat with
    | some image => image.map Char.ofNat
    | none => [((Run.image? upperRuns c.toNat).map Char.ofNat).getD c]

/-- Whether, past the characters that do not count, the list starts with a cased letter. -/
def startsCased : List Char → Bool
  | [] => false
  | c :: rest =>
    if Ranges.contains ignorableBounds c.toNat then startsCased rest
    else Ranges.contains casedBounds c.toNat

/-- Lower case with the characters already passed, nearest first, as the context of a sigma. -/
def lowerFrom (before : List Char) : List Char → List Char
  | [] => []
  | c :: rest =>
    let image :=
      if c = 'Σ' then [if startsCased before && !startsCased rest then 'ς' else 'σ']
      else lowerChar c
    image ++ lowerFrom (c :: before) rest

end Case

/-- The text in lower case. -/
def lower (s : String) : String :=
  String.ofList (Case.lowerFrom [] s.toList)

/-- The text in upper case. -/
def upper (s : String) : String :=
  String.ofList (s.toList.flatMap Case.upperChar)

end MappingDdl.Text
