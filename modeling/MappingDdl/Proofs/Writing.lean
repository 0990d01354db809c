import MappingDdl.Proofs.Printing

/-!
# Writing — a script under any sequence of operations

Whoever writes a script prints templates and comments, ends statements, and copies what is there to
a sink, in any order. A template can fail, and writing goes on after it. What an operation does to a
script is `Operation.perform`. `Operation.steps` is the same piece by piece, where what was written
before a fault would stay written. That nothing does (`Operation.steps_eq_perform`), is because a
template is expanded before its first character is written.

An operation contributes a text of its own, whatever was written before it
(`Operation.contribution`). A run is then described by the operations alone: its text are the
contributions of those that did not fail. How templates are filled does not matter for this. Here
`fill` is any way to do it, and may fail on any template.

Main results:

* `Operation.steps_eq_perform` — an operation is done as a whole or not at all.
* `Operation.perform_eq` — what one operation answers, and what it changes.
* `Writer.run_after` — a run goes on from what the operations before it have left.
* `Writer.run_new` — every run of a new writer, position by position.
-/

namespace MappingDdl

open Text.Template

namespace Script

variable (fill : Filling)

/-- An operation on a script. A comment gets its mark and its text as arguments of a template. -/
inductive Operation
  | print (template : String) (args : List Value)
  | printLine (template : String) (args : List Value)
  | comment (text mark : Value)
  | endStatement
  | copy

/-- What an operation answers: that it is done, or how many characters it has copied. -/
inductive Answer
  | done
  | copied (count : Nat)
  deriving Repr, DecidableEq

/-- A script, and the sink that it is copied to. -/
structure Writer where
  script : Script
  sink : String

/-- Steps of writing. What was written before a fault stays written. -/
abbrev Writing := ExceptT Fault (StateM Writer)

namespace Writer

/-- Nothing is written yet. -/
def new (delimiter indent sink : String) : Writer :=
  ⟨{ delimiter, indent }, sink⟩

/-- Writes a piece of text. -/
def write (text : String) : Writing Unit :=
  modify fun w => { w with script := w.script.append text }

/-- Prints a template: it is expanded, and then written. -/
def print (template : String) (args : List Value) : Writing Unit := do
  let text ← MonadExcept.ofExcept (expand template args fill)
  write text

/-- Prints a template, and then writes the end of the line. -/
def printLine (template : String) (args : List Value) : Writing Unit := do
  print fill template args
  write "\n"

/-- Writes the delimiter and a blank line, and counts the statement. -/
def endStatement : Writing Unit := do
  write ((← get).script.delimiter ++ "\n\n")
  modify fun w => { w with script := { w.script with statements := w.script.statements + 1 } }

/-- Copies the text to the sink, and gives its length. -/
def copy : Writing Nat := do
  let w ← get
  let (sink, count) := w.script.copyTo w.sink
  set { w with sink }
  return count

end Writer

namespace Operation

/-- An operation, step by step. -/
def steps : Operation → Writing Answer
  | print template args => do
    Writer.print fill template args
    return .done
  | printLine template args => do
    Writer.printLine fill template args
    return .done
  | comment text mark => do
    Writer.printLine fill "\x7b0\x7d \x7b1\x7d" [mark, text]
    return .done
  | endStatement => do
    Writer.endStatement
    return .done
  | copy => do
    return .copied (← Writer.copy)

/-- A script that an operation has made, or the fault that kept it from it. -/
def kept (w : Writer) : Except Fault Script → Except Fault Answer × Writer
  | .ok script => (.ok .done, { w with script })
  | .error fault => (.error fault, w)

/-- Performs an operation: what it answers, and what is written then. -/
def perform (op : Operation) (w : Writer) : Except Fault Answer × Writer :=
  match op with
  | print template args => kept w (w.script.print template args fill)
  | printLine template args => kept w (w.script.printLine template args fill)
  | comment text mark => kept w (w.script.printLine "\x7b0\x7d \x7b1\x7d" [mark, text] fill)
  | endStatement => kept w (.ok w.script.endStatement)
  | copy =>
    let (sink, count) := w.script.copyTo w.sink
    (.ok (.copied count), { w with sink })

/-- The text that an operation contributes, unless it fails. -/
def contribution (delimiter : String) : Operation → Except Fault String
  | print template args => expand template args fill
  | printLine template args => (expand template args fill).map (· ++ "\n")
  | comment text mark => (expand "\x7b0\x7d \x7b1\x7d" [mark, text] fill).map (· ++ "\n")
  | endStatement => .ok (delimiter ++ "\n\n")
  | copy => .ok ""

/-- What an operation answers if a text is there already. -/
def answer (delimiter text : String) : Operation → Except Fault Answer
  | copy => .ok (.copied text.length)
  | op => (op.contribution fill delimiter).map fun _ => .done

/-- Whether an operation ends a statement. -/
def ends : Operation → Bool
  | endStatement => true
  | _ => false

/-- Whether an operation copies the text. -/
def copies : Operation → Bool
  | copy => true
  | _ => false

end Operation

namespace Writer

/-- Performs operations one after the other, whether or not they fail. -/
def run : List Operation → Writer → List (Except Fault Answer) × Writer
  | [], w => ([], w)
  | op :: rest, w =>
    let (answer, w) := op.perform fill w
    let (answers, w) := run rest w
    (answer :: answers, w)

/-- The contributions of the operations that do not fail. -/
def written (delimiter : String) (ops : List Operation) : String :=
  String.join (ops.filterMap fun op => (op.contribution fill delimiter).toOption)

/-- What the operations copy: each copy is all that the operations before it have written. -/
def copied (delimiter : String) (ops : List Operation) : String :=
  String.join (ops.mapIdx fun i op =>
    if op.copies then written fill delimiter (ops.take i) else "")

/-- What operations make of a new writer. -/
def after (delimiter indent sink : String) (ops : List Operation) : Writer where
  script := ⟨delimiter, indent, written fill delimiter ops, ops.countP (·.ends)⟩
  sink := sink ++ copied fill delimiter ops

end Writer

/-! ## One operation -/

namespace Operation

variable {fill} {template : String} {args : List Value} {w : Writer} {op : Operation}

/-- The end of the line is written only after a template that did not fail. -/
theorem steps_printLine :
    (Writer.printLine fill template args >>= fun _ => pure Answer.done).run.run w =
      kept w (w.script.printLine template args fill) := by
  simp only [Script.printLine, Writer.printLine, Writer.print]
  cases expand template args fill with
  | error fault => rfl
  | ok text =>
    have hJoined : (w.script.append text).append "\n" = w.script.append (text ++ "\n") := by
      simp [append, String.append_assoc]
    exact congrArg (fun script => (Except.ok Answer.done, { w with script })) hJoined

/-- An operation is done as a whole or not at all: nothing is left of one that fails. -/
theorem steps_eq_perform (op : Operation) (w : Writer) :
    (op.steps fill).run.run w = op.perform fill w := by
  cases op with
  | print template args =>
    simp only [steps, perform, Writer.print, Script.print]
    cases expand template args fill <;> rfl
  | printLine template args => exact steps_printLine
  | comment text mark => exact steps_printLine
  | endStatement => rfl
  | copy => rfl

variable (fill) in
/-- What an operation makes of a writer. -/
def change (op : Operation) (w : Writer) : Writer where
  script :=
    { w.script with
      text := w.script.text ++ ((op.contribution fill w.script.delimiter).toOption).getD ""
      statements := w.script.statements + if op.ends then 1 else 0 }
  sink := w.sink ++ if op.copies then w.script.text else ""

/-- A text is added, or there is none and nothing changes. -/
theorem kept_map (w : Writer) (x : Except Fault String) :
    kept w (x.map w.script.append) =
      (x.map fun _ => .done, { w with script := w.script.append (x.toOption.getD "") }) := by
  cases x with
  | ok text => rfl
  | error fault => simp [kept, Except.map, Except.toOption, append]

/-- What is answered depends on the delimiter and the text, and what is added to a script depends on
the delimiter alone. -/
theorem perform_eq (op : Operation) (w : Writer) :
    op.perform fill w =
      (op.answer fill w.script.delimiter w.script.text, op.change fill w) := by
  -- the end of a line is a part of what is added
  have hLine (x : Except Fault String) :
      (x.map fun t => w.script.append (t ++ "\n")) = (x.map (· ++ "\n")).map w.script.append := by
    cases x <;> rfl
  -- an operation is what it answers and what it adds, case by case
  cases op with
  | print template args =>
    rw [perform, Script.print, kept_map]
    simp [append, answer, change, contribution, ends, copies]
  | printLine template args =>
    rw [perform, Script.printLine, hLine, kept_map]
    simp [append, answer, change, contribution, ends, copies]
  | comment text mark =>
    rw [perform, Script.printLine, hLine, kept_map]
    simp [append, answer, change, contribution, ends, copies]
  -- the end of a statement and a copy cannot fail
  | endStatement =>
    simp [perform, kept, Script.endStatement, answer, change, contribution, Except.map,
      Except.toOption, ends, copies]
  | copy => simp [perform, copyTo, answer, change, contribution, Except.toOption, ends, copies]

/-- What fails once something is made of it failed before. -/
theorem eq_error_of_map {α β ε : Type} {x : Except ε α} {f : α → β} {e : ε}
    (h : x.map f = .error e) : x = .error e := by
  cases x with
  | ok a => cases h
  | error e' => exact congrArg Except.error (Except.error.inj h)

/-- An operation that fails changes nothing. -/
theorem perform_of_error {fault : Fault} (h : (op.perform fill w).1 = .error fault) :
    (op.perform fill w).2 = w := by
  rw [perform_eq] at h ⊢
  -- only templates can fail
  have hNothing : op.contribution fill w.script.delimiter = .error fault ∧ op.ends = false ∧
      op.copies = false := by
    cases op with
    | print template args => exact ⟨eq_error_of_map h, rfl, rfl⟩
    | printLine template args => exact ⟨eq_error_of_map h, rfl, rfl⟩
    | comment text mark => exact ⟨eq_error_of_map h, rfl, rfl⟩
    | endStatement => cases h
    | copy => cases h
  obtain ⟨hContribution, hEnds, hCopies⟩ := hNothing
  simp [change, hContribution, hEnds, hCopies, Except.toOption]

end Operation

/-! ## Many operations -/

namespace Writer

variable {fill} {delimiter indent sink : String}

/-- One operation more adds what it contributes, or nothing where it fails. -/
theorem written_append_singleton (ops : List Operation) (op : Operation) :
    written fill delimiter (ops ++ [op]) =
      written fill delimiter ops ++ ((op.contribution fill delimiter).toOption).getD "" := by
  unfold written
  rw [List.filterMap_append, String.join_append]
  cases hContribution : (op.contribution fill delimiter).toOption <;> simp [hContribution]

/-- A copy takes what was written before it. -/
theorem copied_append_singleton (ops : List Operation) (op : Operation) :
    copied fill delimiter (ops ++ [op]) =
      copied fill delimiter ops ++ if op.copies then written fill delimiter ops else "" := by
  unfold copied
  rw [List.mapIdx_concat, String.join_append]
  -- the operations before an earlier one are still the same
  have hBefore : (ops.mapIdx fun i o =>
        if o.copies then written fill delimiter ((ops ++ [op]).take i) else "") =
      ops.mapIdx fun i o => if o.copies then written fill delimiter (ops.take i) else "" := by
    refine List.mapIdx_eq_mapIdx_iff.2 fun i hi => ?_
    rw [List.take_append_of_le_length hi.le]
  rw [hBefore, List.take_left, join_singleton]

/-- Each operation takes a writer from where the operations before it left it. -/
theorem change_after (ops : List Operation) (op : Operation) :
    op.change fill (after fill delimiter indent sink ops) =
      after fill delimiter indent sink (ops ++ [op]) := by
  simp only [Operation.change, after, written_append_singleton, copied_append_singleton,
    List.countP_append, List.countP_singleton, String.append_assoc]

/-- A run goes on from what the operations before it have left. -/
theorem run_after (delimiter indent sink : String) (before ops : List Operation) :
    run fill ops (after fill delimiter indent sink before) =
      (ops.mapIdx fun i op =>
          op.answer fill delimiter (written fill delimiter (before ++ ops.take i)),
        after fill delimiter indent sink (before ++ ops)) := by
  -- the operations that are done move over to those before
  induction ops generalizing before with
  | nil => simp [run]
  | cons op rest ih =>
    rw [run, Operation.perform_eq, change_after]
    dsimp only
    rw [ih, List.mapIdx_cons]
    simp [after]

theorem after_nil : after fill delimiter indent sink [] = new delimiter indent sink := by
  simp [after, new, written, copied]

/-- Writing is append-only, and every operation is done as a whole or not at all, however templates
are filled. In a run of a new writer, the text is that of the operations that did not fail, every
ended statement counts, and every copy takes all that there is. An operation that fails leaves nothing behind, not even where it
is done piece by piece; text without arguments is no template, and to copy leaves the script as it
is. -/
theorem run_new (fill : Filling) (delimiter indent sink : String) (ops : List Operation) :
    run fill ops (new delimiter indent sink) =
        (ops.mapIdx fun i op => op.answer fill delimiter (written fill delimiter (ops.take i)),
          ⟨⟨delimiter, indent, written fill delimiter ops, ops.countP (·.ends)⟩,
            sink ++ copied fill delimiter ops⟩) ∧
      (∀ (op : Operation) (w : Writer), (op.steps fill).run.run w = op.perform fill w) ∧
      (∀ (op : Operation) (w : Writer) (fault : Fault),
        (op.perform fill w).1 = .error fault → (op.perform fill w).2 = w) ∧
      (∀ (text : String) (w : Writer), (Operation.print text []).perform fill w =
        (.ok .done, { w with script := w.script.append text })) ∧
      (∀ (text : String) (w : Writer), (Operation.printLine text []).perform fill w =
        (.ok .done, { w with script := w.script.append (text ++ "\n") })) ∧
      ∀ w : Writer, Operation.copy.perform fill w =
        (.ok (.copied w.script.text.length), { w with sink := w.sink ++ w.script.text }) := by
  have hRun : run fill ops (after fill delimiter indent sink []) = _ :=
    run_after delimiter indent sink [] ops
  rw [after_nil] at hRun
  exact ⟨hRun, Operation.steps_eq_perform, fun _ _ _ => Operation.perform_of_error,
    fun _ _ => rfl, fun _ _ => rfl, fun _ => rfl⟩

end Writer

end Script

end MappingDdl
