import MappingDdl.Command.Option
import MappingDdl.Text.Digit

/-!
# Reading a command line

The words of a command line are first told apart: options, values, and the separator after which
all words are values. Then they are taken from left to right. An option may be written by the
beginning of its name, and its value in the next word or, after an equals sign, in the same one;
options of one letter may be joined in one word. The one value that belongs to no option is the
mapping. What nobody takes is reported at the end.
-/

namespace MappingDdl.Command

/-- A word of a command line. -/
inductive Word
  | value (s : String)
  | separator
  /-- An option under the name it was found by, and the value in the same word. -/
  | option (o : CommandOption) (name : String) (attached : Option String)
  /-- A word that looks like an option but is none. -/
  | unknown (s : String)
  deriving Repr, DecidableEq, Inhabited

/-- A word cut at its first equals sign. -/
def splitAtEquals (cs : List Char) : Option (List Char × List Char) :=
  match cs.dropWhile (· != '=') with
  | [] => none
  | _ :: after => some (cs.takeWhile (· != '='), after)

/-- Whether a word is a negative number: a hyphen and digits, perhaps with a point before the last
of them. -/
def isNegativeNumber (cs : List Char) : Bool :=
  let cs := if cs.getLast? == some '\n' then cs.dropLast else cs
  match cs with
  | '-' :: cs =>
    let rest := cs.dropWhile Text.isDigit
    (rest.isEmpty && !cs.isEmpty) ||
      match rest with
      | '.' :: ds => !ds.isEmpty && ds.all Text.isDigit
      | _ => false
  | _ => false

/-- The options that a word can stand for, with the values it gives them: a long name may be cut
short, and after a single letter comes its value. -/
def candidates (cs : List Char) : List (String × CommandOption × Option String) :=
  match cs with
  | '-' :: '-' :: _ =>
    let (stem, attached) := match splitAtEquals cs with
      | some (stem, after) => (stem, some (String.ofList after))
      | none => (cs, none)
    (CommandOption.names.filter fun n => stem.isPrefixOf n.1.toList).map fun n =>
      (n.1, n.2, attached)
  | '-' :: x :: rest =>
    (CommandOption.names.filter fun n => n.1.toList == ['-', x]).map fun n =>
      (n.1, n.2, some (String.ofList rest))
  | _ => []

/-- The kind of a word in front of the separator. -/
def classify (s : String) : Except CommandStop Word :=
  let cs := s.toList
  if cs.head? != some '-' then .ok (.value s)
  -- a full name wins over all options that start with it
  else match CommandOption.ofName? s with
  | some o => .ok (.option o s none)
  | none =>
    -- a lone hyphen is a value
    if cs.length = 1 then .ok (.value s)
    else
      let exact := (splitAtEquals cs).bind fun p =>
        let name := String.ofList p.1
        (CommandOption.ofName? name).map fun o => Word.option o name (some (String.ofList p.2))
      match exact, candidates cs with
      | some w, _ => .ok w
      | none, [(name, o, attached)] => .ok (.option o name attached)
      | none, c :: c' :: rest => .error (.ambiguous s ((c :: c' :: rest).map (·.1)))
      | none, [] =>
        -- no option looks like a number, and none has a blank
        if isNegativeNumber cs || cs.contains ' ' then .ok (.value s) else .ok (.unknown s)

/-- The kinds of all words. -/
def words : List String → Except CommandStop (List Word)
  | [] => .ok []
  | s :: rest =>
    if s = "--" then .ok (.separator :: rest.map .value)
    else do return (← classify s) :: (← words rest)

/-- What was taken from a command line so far. -/
structure Taken where
  request : CommandRequest := {}
  mapping : Option String := none
  /-- The words that nobody took, last first. -/
  extras : List String := []
  deriving Repr, DecidableEq, Inhabited

namespace Taken

/-- Keeps a word that nobody took. -/
def leave (t : Taken) (s : String) : Taken :=
  { t with extras := s :: t.extras }

/-- Sets options one after the other. -/
def setAll (t : Taken) (os : List (CommandOption × OptionValue)) : Except CommandStop Taken :=
  (os.foldlM (fun (r : CommandRequest) o => r.set o.1 o.2) t.request).map fun request =>
    { t with request }

end Taken

/-- The options joined in one word, given the first of them and what follows it. The last one may
lack its value. -/
def joined (o : CommandOption) (name : String) :
    List Char → Except CommandStop (List (CommandOption × Option OptionValue))
  | [] => .error (.unexpectedValue o "")
  | x :: rest =>
    if o.takesValue then .ok [(o, some (.ofAttached (String.ofList (x :: rest))))]
    else if name.startsWith "--" then .error (.unexpectedValue o (String.ofList (x :: rest)))
    else
      let name := String.ofList ['-', x]
      match CommandOption.ofName? name, rest with
      | none, _ => .error (.unexpectedValue o (String.ofList (x :: rest)))
      | some o', [] => .ok [(o, some .nothing), (o', if o'.takesValue then none else some .nothing)]
      | some o', rest => (joined o' name rest).map ((o, some .nothing) :: ·)

/-- The options of one word. The last one may lack its value. -/
def optionsOf (o : CommandOption) (name : String) (attached : Option String) :
    Except CommandStop (List (CommandOption × Option OptionValue)) :=
  match attached with
  | none => .ok [(o, if o.takesValue then none else some .nothing)]
  | some s => if s = "" && o.takesValue then .ok [(o, some (.text ""))] else joined o name s.toList

/-- Takes words from left to right. -/
def take : Taken → List Word → Except CommandStop Taken
  | t, [] => .ok t
  | t, .unknown s :: rest => take (t.leave s) rest
  | t, .value s :: rest =>
    match t.mapping, rest with
    | none, .separator :: rest => take { t with mapping := some s } rest
    | none, rest => take { t with mapping := some s } rest
    | some _, rest => take (t.leave s) rest
  | t, .separator :: rest =>
    match t.mapping, rest with
    | none, .value s :: rest => take { t with mapping := some s } rest
    | _, rest => take (t.leave "--") rest
  | t, .option o name attached :: rest =>
    match optionsOf o name attached with
    | .error e => .error e
    | .ok os =>
      -- only the last option of a word may still need the next word
      let complete := os.filterMap fun p => p.2.map fun v => (p.1, v)
      match (os.find? (·.2.isNone)).map (·.1), rest with
      | none, rest =>
        match t.setAll complete with
        | .error e => .error e
        | .ok t => take t rest
      | some o, .value s :: rest =>
        match t.setAll (complete ++ [(o, .text s)]) with
        | .error e => .error e
        | .ok t => take t rest
      | some o, _ => .error (.missingValue o)

/-- What a command line asks for. -/
def parse (arguments : List String) : Except CommandStop CommandRequest := do
  let t ← take {} (← words arguments)
  match t.mapping, t.extras with
  | none, _ => throw .missingMapping
  | some mapping, [] => return { t.request with mapping }
  | some _, extras => throw (.unrecognized extras.reverse)

end MappingDdl.Command
