import MappingDdl.KeyGenerator.Sequence

/-!
# Templates — what comes out of a filled template

The program writes its statements with templates in which places have numbers, and lets a user name
sequences with a template of their own. Of the first kind it is known how they are filled. A
template that is made of texts without braces and of numbered places (`Segment`) gives these texts
with the arguments between them, and no character of an argument means anything. One of the second
kind may do much more, and may fail. Of the way in which it is filled we only ask that the first
kind is no exception (`Formatting.Lawful`).

Main results:

* `fill_source` — the result of a template with numbered places.
* `Formatting.lawful_standard` — the templates of `Text.Template` are filled in this way.
-/

namespace MappingDdl

namespace Text

namespace Template

/-! ## Templates with numbered places -/

/-- A part of a template that the program writes itself: a text without braces, or a place with the
position of an argument, which is a digit. -/
inductive Segment
  | text (s : String)
  | place (position : Nat)

namespace Segment

/-- The segment as it stands in a template. -/
def chars : Segment → List Char
  | text s => s.toList
  | place n => ['{', Nat.digitChar n, '}']

/-- What stands in the place of the segment. -/
def filled (args : List String) : Segment → String
  | text s => s
  | place n => args.getD n ""

/-- The segment can stand in a template with so many arguments. -/
def Fits (count : Nat) : Segment → Prop
  | text s => '{' ∉ s.toList ∧ '}' ∉ s.toList
  | place n => n < 10 ∧ n < count

instance (count : Nat) : DecidablePred (Fits count)
  | text s => inferInstanceAs (Decidable ('{' ∉ s.toList ∧ '}' ∉ s.toList))
  | place n => inferInstanceAs (Decidable (n < 10 ∧ n < count))

/-- The pieces as which the segment is read. -/
def pieces : Segment → List Piece
  | text s => s.toList.map fun c => .text [c]
  | place n => [.place [Nat.digitChar n] none []]

end Segment

/-- The template of some segments. -/
def source (segs : List Segment) : String :=
  String.ofList (segs.flatMap (·.chars))

/-- The segments with their places filled. -/
def filled (segs : List Segment) (args : List String) : String :=
  String.join (segs.map (·.filled args))

@[simp] theorem filled_nil (args : List String) : filled [] args = "" := rfl

/-- Segments are filled one after the other. -/
theorem filled_cons (s : Segment) (segs : List Segment) (args : List String) :
    filled (s :: segs) args = s.filled args ++ filled segs args := by
  simp [filled, String.join_cons]

@[simp] theorem filled_text_cons (s : String) (segs : List Segment) (args : List String) :
    filled (.text s :: segs) args = s ++ filled segs args :=
  filled_cons (.text s) segs args

@[simp] theorem filled_place_cons (n : Nat) (segs : List Segment) (args : List String) :
    filled (.place n :: segs) args = args.getD n "" ++ filled segs args :=
  filled_cons (.place n) segs args

section Reading

variable {fuel : Nat} {cs rest : List Char} {c : Char}

theorem piecesWith_nil (fuel : Nat) : piecesWith fuel [] = [] := by
  cases fuel <;> rfl

/-- A character that is no brace stands for itself. -/
theorem piecesWith_plain (hOpen : c ≠ '{') (hClose : c ≠ '}') :
    piecesWith (fuel + 1) (c :: rest) = .text [c] :: piecesWith fuel rest := by
  rw [piecesWith]
  all_goals simp_all

/-- A digit has no meaning of its own inside a place. -/
theorem digitChar_plain {n : Nat} (h : n < 10) :
    Nat.digitChar n ∉ ['{', '}', '!', ':', '[', '.'] := by
  have hDigits : ∀ n : Fin 10, Nat.digitChar n ∉ ['{', '}', '!', ':', '[', '.'] := by decide
  exact hDigits ⟨n, h⟩

/-- A digit in braces is read as a place with this position. -/
theorem piecesWith_place {n : Nat} (h : n < 10) :
    piecesWith (fuel + 1) ('{' :: Nat.digitChar n :: '}' :: rest) =
      .place [Nat.digitChar n] none [] :: piecesWith fuel rest := by
  have hPlain := digitChar_plain h
  generalize Nat.digitChar n = c at hPlain
  simp only [List.mem_cons, List.not_mem_nil, or_false, not_or] at hPlain
  obtain ⟨hOpen, hClose, hBang, hColon, hBracket, -⟩ := hPlain
  have hField : splitField false (c :: '}' :: rest) = some ([c], .brace, rest) := by
    have hOther : (c == '[') = false := by simpa using hBracket
    rw [splitField, hOther]
    all_goals simp_all [splitField]
  rw [piecesWith]
  · simp only [takePlace, hField]
  · simp_all

/-- A text without braces is read character by character, whatever follows. -/
theorem piecesWith_append (hOpen : '{' ∉ cs) (hClose : '}' ∉ cs) :
    piecesWith (cs.length + fuel) (cs ++ rest) =
      (cs.map fun c => .text [c]) ++ piecesWith fuel rest := by
  induction cs with
  | nil => simp
  | cons c cs ih =>
    simp only [List.mem_cons, not_or] at hOpen hClose
    rw [List.length_cons, Nat.add_right_comm, List.cons_append,
      piecesWith_plain (Ne.symm hOpen.1) (Ne.symm hClose.1), ih hOpen.2 hClose.2]
    rfl

/-- A text that is written from segments is split into their pieces. -/
theorem piecesWith_segments {segs : List Segment} {count : Nat}
    (hFits : ∀ s ∈ segs, s.Fits count) (hFuel : (segs.flatMap (·.chars)).length ≤ fuel) :
    piecesWith fuel (segs.flatMap (·.chars)) = segs.flatMap (·.pieces) := by
  -- on the segments: a text uses as much fuel as it has characters, and a place less
  induction segs generalizing fuel with
  | nil => exact piecesWith_nil fuel
  | cons s rest ih =>
    obtain ⟨hFirst, hRest⟩ := List.forall_mem_cons.1 hFits
    rw [List.flatMap_cons, List.length_append] at hFuel
    rw [List.flatMap_cons, List.flatMap_cons]
    cases s with
    | text s =>
      obtain ⟨k, rfl⟩ := Nat.exists_eq_add_of_le (Nat.le_of_add_right_le hFuel)
      -- the characters of a text stand for themselves, or for one of two braces
      rw [Segment.chars, piecesWith_append hFirst.1 hFirst.2,
        ih hRest (Nat.le_of_add_le_add_left hFuel)]
      rfl
    | place n =>
      rw [Segment.chars, List.length_cons, List.length_cons, List.length_singleton] at hFuel
      obtain ⟨k, rfl⟩ : ∃ k, fuel = k + 1 := Nat.exists_eq_add_one.2 (by omega)
      rw [Segment.chars, List.cons_append, List.cons_append, List.singleton_append,
        -- a place is read to its closing brace
        piecesWith_place hFirst.1, ih hRest (by omega)]
      rfl

end Reading

section Filling

variable {args : List String} {depth : Nat} {numbering : Numbering}

/-- A text in front is put in front of what is filled. -/
theorem fillPieces_text (args : List Value) (numbering : Numbering) (cs : List Char)
    (rest : List Piece) :
    fillPieces args depth numbering ((cs.map fun c => .text [c]) ++ rest) =
      (fillPieces args depth numbering rest).map fun p => (String.ofList cs ++ p.1, p.2) := by
  induction cs with
  | nil =>
    rw [List.map_nil, List.nil_append]
    cases fillPieces args depth numbering rest <;> simp [Except.map]
  | cons c cs ih =>
    rw [List.map_cons, List.cons_append, fillPieces, ih]
    cases fillPieces args depth numbering rest with
    | error f => rfl
    | ok p =>
      simp [bind, Except.bind, pure, Except.pure, Except.map, ← String.toList_inj]

/-- A digit is a position. -/
theorem position?_digit {n : Nat} (h : n < 10) : position? [Nat.digitChar n] = .ok (some n) := by
  -- there are ten of them, each with its own value
  have hDigits : ∀ n : Fin 10, digitValue? (Nat.digitChar n) = some n.val := by decide
  have hValue : digitValue? (Nat.digitChar n) = some n := hDigits ⟨n, h⟩
  have hDigit : isDigit (Nat.digitChar n) = true := by rw [isDigit, hValue]; rfl
  -- none is too large for a position
  have hSmall : ¬ maxNumber < n := by
    have hLt : n < maxNumber := Nat.lt_trans h (by decide)
    omega
  simp [position?, takeNumber, hDigit, hValue, Integer.ofDigits, hSmall, bind, Except.bind, pure,
    Except.pure]

/-- A position names an argument, as long as arguments are not counted. -/
theorem argument_position {args : List Value} {n : Nat} {v : Value} (hDigit : n < 10)
    (hNumbering : ∀ next, numbering ≠ .counted next) (h : args[n]? = some v) :
    argument args numbering [Nat.digitChar n] = .ok (v, .given) := by
  have hPlain : (Nat.digitChar n != '.' && Nat.digitChar n != '[') = true := by
    have := digitChar_plain hDigit
    simp_all
  -- nothing is behind the position, neither a part nor an index
  have hFirst : [Nat.digitChar n].takeWhile (fun c => c != '.' && c != '[') =
      [Nat.digitChar n] := by
    simp only [List.takeWhile_cons, hPlain, if_true, List.takeWhile_nil]
  have hPath : [Nat.digitChar n].dropWhile (fun c => c != '.' && c != '[') = [] := by
    simp only [List.dropWhile_cons, hPlain, if_true, List.dropWhile_nil]
  simp only [argument, hFirst, hPath, position?_digit hDigit]
  cases numbering with
  | counted next => exact absurd rfl (hNumbering next)
  | undecided => simp [bind, Except.bind, pure, Except.pure, h, follow, followWith]
  | given => simp [bind, Except.bind, pure, Except.pure, h, follow, followWith]

theorem layout_text (s : String) : layout (.str s) [] = .ok s := rfl

/-- Segments are filled as they are, whatever characters the arguments have. -/
theorem fillPieces_segments (depth : Nat) (numbering : Numbering) {segs : List Segment}
    (hFits : ∀ s ∈ segs, s.Fits args.length) (hNumbering : ∀ next, numbering ≠ .counted next) :
    ∃ last, fillPieces (args.map .str) depth numbering (segs.flatMap (·.pieces)) =
      .ok (filled segs args, last) := by
  -- on the segments; from the first place on, arguments are given and can no more be counted
  induction segs generalizing numbering with
  | nil => exact ⟨numbering, by rw [List.flatMap_nil, fillPieces]; rfl⟩
  | cons s rest ih =>
    obtain ⟨hFirst, hRest⟩ := List.forall_mem_cons.1 hFits
    rw [List.flatMap_cons, filled_cons]
    cases s with
    | text s =>
      -- a text does not count arguments
      obtain ⟨last, hLast⟩ := ih numbering hRest hNumbering
      refine ⟨last, ?_⟩
      rw [Segment.pieces, fillPieces_text, hLast]
      simp [Except.map, Segment.filled]
    | place n =>
      -- a place gives one, so from here on they are given
      obtain ⟨last, hLast⟩ := ih .given hRest (by simp)
      refine ⟨last, ?_⟩
      obtain ⟨hDigit, hLt⟩ := hFirst
      have hArg : (args.map Value.str)[n]? = some (.str (args.getD n "")) := by
        simp [hLt]
      rw [Segment.pieces, List.singleton_append, fillPieces,
        argument_position hDigit hNumbering hArg]
      simp [bind, Except.bind, pure, Except.pure, convert, layout_text, hLast, Segment.filled]

/-- **A template with numbered places is filled by its arguments as they are**, whatever characters
these have. -/
theorem fill_source (args : List String) {segs : List Segment}
    (hFits : ∀ s ∈ segs, s.Fits args.length) :
    fill (source segs) (args.map .str) = .ok (filled segs args) := by
  obtain ⟨last, hLast⟩ := fillPieces_segments 1 .undecided hFits (by simp)
  rw [fill, source, String.toList_ofList, Template.pieces,
    piecesWith_segments hFits (Nat.le_refl _), hLast]
  rfl

/-- An argument of any kind behind a text is written in its plain form, if it has one. -/
theorem fill_text_place {s : String} (h : Segment.Fits 1 (.text s)) (v : Value) :
    fill (source [.text s, .place 0]) [v] = (layout v []).map (s ++ ·) := by
  have hFits : ∀ seg ∈ [.text s, .place 0], Segment.Fits 1 seg := by
    simpa using ⟨h, by decide⟩
  rw [fill, source, String.toList_ofList, Template.pieces,
    piecesWith_segments hFits (Nat.le_refl _)]
  rw [List.flatMap_cons, List.flatMap_singleton, Segment.pieces, Segment.pieces, fillPieces_text,
    fillPieces, argument_position (by decide) (by simp) (v := v) rfl]
  cases hLayout : layout v [] with
  | error f => simp [bind, Except.bind, pure, Except.pure, convert, hLayout, Except.map]
  | ok t => simp [bind, Except.bind, pure, Except.pure, convert, hLayout, fillPieces, Except.map]

end Filling

end Template

end Text

/-! ## Ways to fill templates -/

open Text.Template

/-- What is asked of a way to fill templates. One with numbered places only is filled by its
argument, which is a text with an encoding, and then the result is one, too. Nothing is said of
other templates, nor of other values in the place of a template. -/
structure Formatting.Lawful (format : Formatting) : Prop where
  fill_source : ∀ (segs : List Segment) (argument : String), (∀ s ∈ segs, s.Fits 1) →
    format.fill (.str (source segs)) argument = .ok ⟨filled segs [argument], true⟩

/-- The way in which the program formats fills its own patterns as they stand. -/
theorem Formatting.lawful_standard : Formatting.standard.Lawful where
  fill_source segs argument hFits := by
    have hFill : Text.Template.fill (source segs) [.str argument] = .ok (filled segs [argument]) :=
      Text.Template.fill_source [argument] hFits
    simp only [standard, layout_text, bind, Except.bind, hFill, pure, Except.pure]

end MappingDdl
