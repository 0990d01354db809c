import MappingDdl.Value

/-!
# Log records and the computations that write them

A record carries its level, the logger that wrote it, a message and the context it was written in:
the mapping, class, table and dialect at hand. `Traced` is a computation that writes records and
then succeeds or fails; the records of a failed computation are kept.

Main statements: the monad laws of `Traced` in the form the proofs need them (`outcome_bind`,
`log_bind_of_ok`), and `outcome_inContext`, setting a context changes no outcome.
-/

namespace MappingDdl

/-- The severity of a record. -/
inductive LogLevel
  | debug
  | info
  | warning
  | error
  | critical
  deriving Repr, DecidableEq, Inhabited

namespace LogLevel

/-- The number of a level; a larger number is more severe. -/
def severity : LogLevel → Nat
  | debug => 10
  | info => 20
  | warning => 30
  | error => 40
  | critical => 50

/-- The name of a level. -/
def text : LogLevel → String
  | debug => "DEBUG"
  | info => "INFO"
  | warning => "WARNING"
  | error => "ERROR"
  | critical => "CRITICAL"

end LogLevel

/-- What a record is about. -/
structure LogContext where
  mapping : Option String := none
  className : Option String := none
  table : Option String := none
  dialect : Option String := none
  component : Option String := none
  operation : Option String := none
  /-- Further fields, which win over the named ones. -/
  extra : List (String × Value) := []
  deriving Inhabited

namespace LogContext

/-- A list of named fields with one field set, in its old place if there is one. -/
def setField (fields : List (String × Value)) (name : String) (v : Value) : List (String × Value) :=
  if fields.any (·.1 == name) then fields.map fun f => if f.1 == name then (name, v) else f
  else fields ++ [(name, v)]

/-- A list of named fields with those of a second list set one by one. -/
def setFields (fields changes : List (String × Value)) : List (String × Value) :=
  changes.foldl (fun fs c => setField fs c.1 c.2) fields

/-- The fields of a context that are set, by name. -/
def fields (c : LogContext) : List (String × Value) :=
  let named := [("mapping", c.mapping), ("class_name", c.className), ("table", c.table),
    ("dialect", c.dialect), ("component", c.component), ("operation", c.operation)]
  setFields (named.filterMap fun f => f.2.map fun v => (f.1, .str v)) c.extra

/-- A context inside another one: what it does not set comes from the outer one. -/
def within (outer inner : LogContext) : LogContext where
  mapping := inner.mapping.or outer.mapping
  className := inner.className.or outer.className
  table := inner.table.or outer.table
  dialect := inner.dialect.or outer.dialect
  component := inner.component.or outer.component
  operation := inner.operation.or outer.operation
  extra := setFields outer.extra inner.extra

end LogContext

/-- A source of records. Some loggers attach the context to the record itself as its data. -/
structure Logger where
  name : String
  attachesContext : Bool
  deriving Repr, DecidableEq, Inhabited

/-- One line of the log. -/
structure LogRecord where
  level : LogLevel
  logger : Logger
  message : String
  context : LogContext := {}
  deriving Inhabited

namespace LogRecord

/-- The data attached to the record. -/
def data (r : LogRecord) : List (String × Value) :=
  if r.logger.attachesContext then r.context.fields else []

/-- Whether the record is shown where only warnings and worse are. -/
def isWarning (r : LogRecord) : Bool :=
  LogLevel.warning.severity ≤ r.level.severity

end LogRecord

/-- A computation that writes log records and then succeeds or fails. -/
structure Traced (ε α : Type) where
  log : List LogRecord
  outcome : Except ε α

namespace Traced

variable {ε α β : Type}

/-- A result without records. -/
def ofExcept (outcome : Except ε α) : Traced ε α :=
  ⟨[], outcome⟩

/-- Runs a second computation on the result of the first; a failure of the first is final. -/
def andThen (x : Traced ε α) (f : α → Traced ε β) : Traced ε β :=
  match x.outcome with
  | .error e => ⟨x.log, .error e⟩
  | .ok a =>
    let y := f a
    ⟨x.log ++ y.log, y.outcome⟩

instance : Monad (Traced ε) where
  pure a := ⟨[], .ok a⟩
  bind := andThen

/-- Writes one record. -/
def note (level : LogLevel) (logger : Logger) (message : String) : Traced ε Unit :=
  ⟨[⟨level, logger, message, {}⟩], .ok ()⟩

/-- Fails. -/
def fail (e : ε) : Traced ε α :=
  ⟨[], .error e⟩

/-- Puts the records of a computation inside a context. -/
def inContext (outer : LogContext) (x : Traced ε α) : Traced ε α :=
  ⟨x.log.map fun r => { r with context := outer.within r.context }, x.outcome⟩

/-- Changes the type of failures. -/
def mapError {ε' : Type} (f : ε → ε') (x : Traced ε α) : Traced ε' α :=
  ⟨x.log, x.outcome.mapError f⟩

/-- The messages of warnings and worse. -/
def warnings (x : Traced ε α) : List String :=
  (x.log.filter (·.isWarning)).map (·.message)

@[simp] theorem outcome_pure (a : α) : (pure a : Traced ε α).outcome = .ok a := rfl

@[simp] theorem outcome_fail (e : ε) : (fail e : Traced ε α).outcome = .error e := rfl

@[simp] theorem outcome_ofExcept (x : Except ε α) : (ofExcept x).outcome = x := rfl

@[simp] theorem outcome_note (level : LogLevel) (logger : Logger) (message : String) :
    (note level logger message : Traced ε Unit).outcome = .ok () := rfl

@[simp] theorem outcome_inContext (outer : LogContext) (x : Traced ε α) :
    (x.inContext outer).outcome = x.outcome := rfl

theorem outcome_mapError {ε' : Type} (f : ε → ε') (x : Traced ε α) :
    (x.mapError f).outcome = x.outcome.mapError f := rfl

theorem outcome_bind (x : Traced ε α) (f : α → Traced ε β) :
    (x >>= f).outcome = x.outcome.bind fun a => (f a).outcome := by
  change (andThen x f).outcome = _
  unfold andThen
  split <;> simp_all [Except.bind]

/-- Two computations in a row succeed exactly if both of them do. -/
theorem outcome_bind_eq_ok_iff {x : Traced ε α} {f : α → Traced ε β} {b : β} :
    (x >>= f).outcome = .ok b ↔ ∃ a, x.outcome = .ok a ∧ (f a).outcome = .ok b := by
  rw [outcome_bind]
  cases x.outcome <;> simp [Except.bind]

/-- What comes second is only run on what the first computation gives. -/
theorem bind_congr {x : Traced ε α} {f g : α → Traced ε β}
    (h : ∀ a, x.outcome = .ok a → f a = g a) : x >>= f = x >>= g := by
  change andThen x f = andThen x g
  unfold andThen
  split
  · rfl
  · next a hOutcome => rw [h a hOutcome]

theorem log_bind_of_ok {x : Traced ε α} {f : α → Traced ε β} {a : α} (h : x.outcome = .ok a) :
    (x >>= f).log = x.log ++ (f a).log := by
  change (andThen x f).log = _
  simp [andThen, h]

theorem log_bind_of_error {x : Traced ε α} {f : α → Traced ε β} {e : ε} (h : x.outcome = .error e) :
    (x >>= f).log = x.log := by
  change (andThen x f).log = _
  simp [andThen, h]

end Traced

end MappingDdl
