import MappingDdl.Generation
import MappingDdl.Proofs.Wording

/-!
# Emission — what the writing of a plan adds to a script

Writing a plan renders its statements one after the other and stops at the first one that cannot be
rendered. A statement carries all that its text depends on, so the script that comes out is known
statement by statement: `Emission.Wrote` says that an emission succeeded and added exactly the texts
of given statements, each followed by the delimiter.

Main results:

* `outcome_emitSteps`, `script_emitSteps` — an emission fails with the first fault among the
  statements of its plan; without a fault it adds all their texts.
* `wrote_of_emit`, `outcome_emit` — the same of the header and the plan of a schema.
* `Emission.Wrote.count_eq` — the number of statements that an emission counts.
-/

namespace MappingDdl

/-! ## Whole statements -/

namespace Script

/-- Adds whole statements, one after the other. -/
def addAll (sc : Script) (texts : List String) : Script :=
  texts.foldl statement sc

/-- Without texts a script stays as it is. -/
@[simp] theorem addAll_nil (sc : Script) : sc.addAll [] = sc := rfl

/-- Texts are added one by one. -/
@[simp] theorem addAll_cons (sc : Script) (t : String) (ts : List String) :
    sc.addAll (t :: ts) = (sc.statement t).addAll ts := rfl

/-- Each text that is added counts as a statement. -/
theorem statements_addAll (sc : Script) (texts : List String) :
    (sc.addAll texts).statements = sc.statements + texts.length := by
  induction texts generalizing sc with
  | nil => rfl
  | cons t ts ih =>
    rw [addAll_cons, ih, statements_statement, List.length_cons]
    omega

/-- The texts stand behind each other, each with the delimiter and an empty line. -/
theorem text_addAll (sc : Script) (texts : List String) :
    (sc.addAll texts).text =
      sc.text ++ String.join (texts.map fun t => t ++ sc.delimiter ++ "\n\n") := by
  -- on the texts, with the script that the first one leaves for the rest
  induction texts generalizing sc with
  | nil => simp
  | cons t ts ih =>
    rw [addAll_cons, ih]
    simp [String.join_cons, String.append_assoc, statement, endStatement, append]

/-- A header has no statements. -/
theorem statements_header (sc : Script) (lines : List String) (mark : String) :
    (sc.header lines mark).statements = sc.statements := by
  -- the lines are comments, which are not counted
  have hLines : ∀ sc : Script,
      (lines.foldl (fun s line => s.comment line mark) sc).statements = sc.statements := by
    induction lines with
    | nil => exact fun _ => rfl
    | cons line rest ih => exact fun sc => ih (sc.comment line mark)
  unfold header
  split
  · rfl
  · exact hLines sc

end Script

namespace Statement

variable {st : Style}

/-- What is wrong with a statement that cannot be written. -/
def fault? (st : Style) (x : Statement) : Option Fault :=
  match x.render st with
  | .ok _ => none
  | .error i => some i.fault

/-- The text of a statement, as far as it can be written. -/
def text (st : Style) (x : Statement) : String :=
  match x.render st with
  | .ok t => t
  | .error i => i.written

/-- A statement without a fault has its text. -/
theorem render_of_fault? {x : Statement} (h : x.fault? st = none) :
    x.render st = .ok (x.text st) := by
  unfold fault? at h
  unfold text
  split at h
  · next t hRender => rw [hRender]
  · cases h

/-- A statement with words has no fault, -/
theorem fault?_of_worded {x : Statement} {text : String} (h : x.Worded st text) :
    x.fault? st = none := by
  rw [fault?, render_of_worded h]

/-- and these words are its text. -/
theorem text_of_worded {x : Statement} {t : String} (h : x.Worded st t) : x.text st = t := by
  rw [text, render_of_worded h]

/-- The first fault among statements. -/
def firstFault? (st : Style) (xs : List Statement) : Option Fault :=
  xs.findSome? (·.fault? st)

/-- The fault of the first statement comes before those of the others. -/
theorem firstFault?_cons (x : Statement) (xs : List Statement) :
    firstFault? st (x :: xs) = (x.fault? st).or (firstFault? st xs) := by
  rw [firstFault?, List.findSome?_cons]
  cases x.fault? st <;> rfl

/-- There is no first fault exactly if there is none at all. -/
theorem firstFault?_eq_none_iff {xs : List Statement} :
    firstFault? st xs = none ↔ ∀ x ∈ xs, x.fault? st = none :=
  List.findSome?_eq_none_iff

/-- Only the statements of a key generator can have a fault. -/
theorem fault?_of_kind_ne {x : Statement} (h : x.kind ≠ .keyGenerator) : x.fault? st = none := by
  cases x with
  | createSequence => exact absurd rfl h
  | setDefault => exact absurd rfl h
  | _ => rfl

/-- The first of some statements that cannot be written. -/
def firstFaulty? (st : Style) (xs : List Statement) : Option Statement :=
  xs.find? fun x => (x.fault? st).isSome

/-- The first fault is that of the first statement that has one. -/
theorem firstFault?_eq_bind (st : Style) (xs : List Statement) :
    firstFault? st xs = (firstFaulty? st xs).bind (·.fault? st) := by
  induction xs with
  | nil => rfl
  | cons x rest ih =>
    rw [firstFault?_cons, firstFaulty?, List.find?_cons]
    cases hFault : x.fault? st with
    | none => exact ih
    | some f => exact hFault.symm

/-- This statement has a fault. -/
theorem exists_fault_of_firstFaulty? {xs : List Statement} {x : Statement}
    (h : firstFaulty? st xs = some x) : ∃ f, x.fault? st = some f := by
  unfold firstFaulty? at h
  have hSome := List.find?_some h
  exact Option.isSome_iff_exists.1 hSome

/-- Only the statements of key generators count. -/
theorem firstFaulty?_filter (st : Style) (xs : List Statement) :
    firstFaulty? st (xs.filter (·.kind = .keyGenerator)) = firstFaulty? st xs := by
  unfold firstFaulty?
  rw [List.find?_filter]
  refine congrArg (xs.find? ·) (funext fun x => ?_)
  by_cases hKind : x.kind = .keyGenerator
  · simp [hKind]
  · simp [hKind, fault?_of_kind_ne hKind]

end Statement

/-! ## Plans -/

/-- Computations with a log can be put together in any grouping. -/
theorem Traced.bind_assoc {ε α β γ : Type} (x : Traced ε α) (f : α → Traced ε β)
    (f' : β → Traced ε γ) : x >>= f >>= f' = x >>= fun a => f a >>= f' := by
  change Traced.andThen (Traced.andThen x f) f' = Traced.andThen x fun a => (f a).andThen f'
  unfold Traced.andThen
  cases x.outcome with
  | error e => rfl
  | ok a =>
    cases hOutcome : (f a).outcome with
    | error e => simp only [hOutcome]
    | ok b => simp only [hOutcome, List.append_assoc]

open Statement

variable {st : Style} {sc : Script} {fl : Flavor} {settings : Settings} {s : Schema}
  {header : List String} {mark : String} {g : Grouping} {format : Formatting}

/-- An emission with a given first fault. -/
def emissionOutcome (fault : Option Fault) : Except GenerationError Unit :=
  fault.elim (.ok ()) fun f => .error (.rendering f)

/-- An emission succeeds if there is no fault, -/
theorem emissionOutcome_eq_ok_iff {fault : Option Fault} :
    emissionOutcome fault = .ok () ↔ fault = none := by
  cases fault <;> simp [emissionOutcome]

/-- and fails with the fault that there is. -/
theorem emissionOutcome_eq_error_iff {fault : Option Fault} {e : GenerationError} :
    emissionOutcome fault = .error e ↔ ∃ f, fault = some f ∧ e = .rendering f := by
  cases fault <;> simp [emissionOutcome, eq_comm]

/-- A note of an unused generator is no statement. -/
theorem statements_unused_cons (generator table : String) (p : List PlanStep) :
    Plan.statements (.unused generator table :: p) = Plan.statements p := rfl

/-- A step that writes a statement is this statement. -/
theorem statements_statement_cons (x : Statement) (p : List PlanStep) :
    Plan.statements (.statement x :: p) = x :: Plan.statements p := rfl

/-- The statements of a plan are written up to the first fault. -/
theorem outcome_emitSteps (st : Style) (sc : Script) (p : List PlanStep) :
    (emitSteps st sc p).trace.outcome = emissionOutcome (firstFault? st (Plan.statements p)) := by
  -- on the plan, with the script that the first step leaves
  induction p generalizing sc with
  | nil => rfl
  | cons step rest ih =>
    cases step with
    -- a note writes nothing
    | unused generator table =>
      rw [statements_unused_cons, ← ih sc]
      exact Traced.outcome_bind _ _
    -- a statement is written, unless it is the first one to fail
    | statement x =>
      rw [statements_statement_cons, emitSteps, firstFault?_cons]
      cases hRender : x.render st with
      | ok t =>
        rw [show x.fault? st = none by simp [fault?, hRender], Option.none_or]
        exact ih _
      | error i =>
        rw [show x.fault? st = some i.fault by simp [fault?, hRender]]
        rfl

/-- Where all statements of a plan can be written, their texts are added to the script. -/
theorem script_emitSteps {p : List PlanStep} (h : firstFault? st (Plan.statements p) = none) :
    (emitSteps st sc p).script = sc.addAll ((Plan.statements p).map (·.text st)) := by
  induction p generalizing sc with
  | nil => rfl
  | cons step rest ih =>
    cases step with
    -- a note adds nothing to the script
    | unused generator table =>
      rw [statements_unused_cons] at h ⊢
      exact ih h
    -- a statement adds its text
    | statement x =>
      rw [statements_statement_cons, firstFault?_eq_none_iff, List.forall_mem_cons,
        ← firstFault?_eq_none_iff] at h
      have hRender := render_of_fault? h.1
      rw [statements_statement_cons, List.map_cons, Script.addAll_cons, emitSteps, hRender]
      exact ih h.2

/-- Goes on with the script of an emission, if it succeeded. -/
def Emission.andThen (e : Emission) (next : Script → Emission) : Emission :=
  match e.trace.outcome with
  | .error _ => e
  | .ok _ => ⟨(next e.script).script, e.trace >>= fun _ => (next e.script).trace⟩

/-- Two plans in a row are written one after the other. -/
theorem emitSteps_append (st : Style) (sc : Script) (p q : List PlanStep) :
    emitSteps st sc (p ++ q) = (emitSteps st sc p).andThen fun sc => emitSteps st sc q := by
  -- on the first plan; a note of an unused generator stays in front of both logs
  induction p generalizing sc with
  | nil => rfl
  | cons step rest ih =>
    cases step with
    | unused generator table =>
      rw [List.cons_append, emitSteps, ih, emitSteps]
      unfold Emission.andThen
      rw [Traced.outcome_bind]
      -- with a fault in the rest the second plan is not begun
      cases (emitSteps st sc rest).trace.outcome with
      | error e => simp [Except.bind]
      | ok _ => simp [Except.bind, Traced.bind_assoc]
    -- a statement comes first in both, or stops both
    | statement x =>
      rw [List.cons_append, emitSteps, emitSteps]
      cases x.render st with
      | ok t => exact ih _
      | error i => rfl

/-- The emission succeeded, and wrote the statements `xs` behind `start`. Each statement has the
words of its kind, and the script consists of them, one after the other, with the delimiter and a
blank line behind each. -/
structure Emission.Wrote (e : Emission) (st : Style) (start : Script) (xs : List Statement) :
    Prop where
  outcome  : e.trace.outcome = .ok ()
  complete : ∀ x ∈ xs, x.render st = .ok (x.text st)
  worded   : ∀ x ∈ xs, x.Worded st (x.text st)
  script   : e.script = start.addAll (xs.map (·.text st))
  text     : e.script.text =
    start.text ++ String.join (xs.map fun x => x.text st ++ start.delimiter ++ "\n\n")

/-- What was written had no fault. -/
theorem Emission.Wrote.fault?_eq_none {e : Emission} {start : Script} {xs : List Statement}
    (h : e.Wrote st start xs) : ∀ x ∈ xs, x.fault? st = none := by
  intro x hx
  unfold fault?
  rw [h.complete x hx]

/-- A script counts what was written to it. -/
theorem Emission.Wrote.count_eq {e : Emission} {xs : List Statement}
    (h : e.Wrote st (sc.header header mark) xs) :
    e.script.statements - sc.statements = xs.length := by
  rw [h.script, Script.statements_addAll, Script.statements_header, List.length_map]
  omega

/-! ## Schemas -/

/-- A schema is written up to the first fault of its statements. -/
theorem outcome_emit (h : settings.grouping = .ok g) :
    (emit fl settings s sc header mark format).trace.outcome =
      emissionOutcome (firstFault? (.ofSettings fl settings sc.indent format)
        (Plan.statements (Plan.ofSchema fl settings.toggles g s))) := by
  unfold emit
  rw [h]
  refine (Traced.outcome_bind _ _).trans ?_
  rw [outcome_emitSteps]
  cases firstFault? _ _ <;> rfl

/-- A script that is finished has the statements of the plan behind the header. -/
theorem wrote_of_emit (h : settings.grouping = .ok g)
    (hOk : (emit fl settings s sc header mark format).trace.outcome = .ok ()) :
    (emit fl settings s sc header mark format).Wrote (.ofSettings fl settings sc.indent format)
      (sc.header header mark) (Plan.statements (Plan.ofSchema fl settings.toggles g s)) := by
  have hNone := emissionOutcome_eq_ok_iff.1 ((outcome_emit h).symm.trans hOk)
  have hComplete := fun x hx => render_of_fault? (firstFault?_eq_none_iff.1 hNone x hx)
  have hScript : (emit fl settings s sc header mark format).script = _ :=
    (by rw [emit, h]; rfl : _ = _).trans (script_emitSteps hNone)
  refine ⟨hOk, hComplete, fun x hx => worded_of_render (hComplete x hx), hScript, ?_⟩
  rw [hScript, Script.text_addAll, List.map_map]
  rfl

/-- Where something was written, the grouping is known. -/
theorem exists_grouping_of_emit
    (hOk : (emit fl settings s sc header mark format).trace.outcome = .ok ()) :
    ∃ g, settings.grouping = .ok g := by
  cases h : settings.grouping with
  | ok g => exact ⟨g, rfl⟩
  | error e =>
    rw [emit, h] at hOk
    cases hOk

end MappingDdl
