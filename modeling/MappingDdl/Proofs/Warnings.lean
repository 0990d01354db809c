import MappingDdl.Proofs.Origin

/-!
# Warnings — what a build warns of

Building a schema writes many records, but few of them are warnings: one for each key generator that
is declared once more, and one for each table whose class names a key generator that is not known.
Every other step is `Traced.Quiet`, so the warnings of a build are those of its origins, in order.

Main results:

* `Schema.exists_alerts_of_ofDocument` — the warnings of a build, one after the other.
* `Schema.mem_alerts_iff` — of all records, the warning about the table of a class.
-/

namespace MappingDdl

/-! ## Quiet computations -/

namespace Traced

variable {ε ε' α β : Type}

/-- The records that are shown where only warnings and worse are. -/
def alerts (x : Traced ε α) : List LogRecord :=
  x.log.filter (·.isWarning)

/-- Nothing is warned of. -/
def Quiet (x : Traced ε α) : Prop :=
  x.alerts = []

variable {x : Traced ε α} {f : α → Traced ε β} {a : α}

/-- The warnings of two steps are those of the first, then those of the second. -/
theorem alerts_bind_of_ok (h : x.outcome = .ok a) :
    (x >>= f).alerts = x.alerts ++ (f a).alerts := by
  rw [alerts, log_bind_of_ok h, List.filter_append]
  rfl

/-- What is quiet adds no warning to those before, whether it runs or not. -/
theorem alerts_bind_of_quiet (hf : ∀ a, (f a).Quiet) : (x >>= f).alerts = x.alerts := by
  cases h : x.outcome with
  | error e => rw [alerts, log_bind_of_error h, alerts]
  | ok a => rw [alerts_bind_of_ok h, hf a, List.append_nil]

/-- Quiet steps make a quiet step. -/
theorem Quiet.bind (hx : x.Quiet) (hf : ∀ a, (f a).Quiet) : (x >>= f).Quiet :=
  (alerts_bind_of_quiet hf).trans hx

/-- The warnings behind a quiet step are all there are. -/
theorem Quiet.alerts_bind (hx : x.Quiet) (h : x.outcome = .ok a) :
    (x >>= f).alerts = (f a).alerts := by
  rw [alerts_bind_of_ok h, hx, List.nil_append]

theorem quiet_pure (a : α) : (pure a : Traced ε α).Quiet := rfl

theorem quiet_fail (e : ε) : (fail e : Traced ε α).Quiet := rfl

theorem quiet_ofExcept (x : Except ε α) : (ofExcept x).Quiet := rfl

/-- A context changes where the warnings belong, not what they say. -/
theorem alerts_inContext (outer : LogContext) (x : Traced ε α) :
    (x.inContext outer).alerts =
      x.alerts.map fun r => { r with context := outer.within r.context } := by
  rw [alerts, inContext, List.filter_map]
  rfl

theorem alerts_mapError (f : ε → ε') (x : Traced ε α) : (x.mapError f).alerts = x.alerts := rfl

end Traced

open Traced (quiet_pure quiet_fail quiet_ofExcept)

theorem Building.quiet_debug (message : String) : (Building.debug message).Quiet := rfl

/-! ## The steps of a build -/

namespace Blueprint

variable {b : Blueprint} {built : List Table} {relation : Relation} {c parent : ClassMapping}
  {name : String} {js : List ClassMapping} {t : Table} {g : Option KeyGenerator}

/-- Nobody is warned about the types of a field. -/
theorem quiet_fieldTypes (f : FieldMapping) : (b.fieldTypes c f).Quiet := by
  unfold fieldTypes
  split
  -- its SQL type
  · exact quiet_ofExcept _
  -- the class that it refers to, or its own type
  · refine (quiet_ofExcept _).bind fun found => ?_
    split
    · exact quiet_pure _
    · exact (Building.quiet_debug _).bind fun _ => quiet_ofExcept _

/-- Nobody is warned about a field. -/
theorem quiet_addField (f : FieldMapping) : (b.addField built relation c g t f).Quiet := by
  refine (quiet_fieldTypes f).bind fun ft => (quiet_ofExcept _).bind fun t => ?_
  split
  · exact quiet_pure _
  · exact (quiet_ofExcept _).bind fun _ => quiet_pure _

/-- Nobody is warned about a junction that is queued. -/
theorem quiet_queued (table : String) (keyGenerator : Option String) :
    (queued js table keyGenerator).Quiet := by
  unfold queued
  split
  · exact quiet_pure _
  · split
    · exact quiet_fail _
    · exact (Building.quiet_debug _).bind fun _ => quiet_pure _

/-- Nobody is warned about a relation. -/
theorem quiet_addRelation (f : FieldMapping) : (b.addRelation js c name f).Quiet := by
  unfold addRelation
  split
  · exact quiet_fail _
  · split
    · exact quiet_fail _
    · exact (quiet_queued _ _).bind fun _ => (quiet_ofExcept _).bind fun _ =>
        (quiet_ofExcept _).bind fun _ => quiet_pure _

/-- Nor about the fields of a class, one after the other. -/
theorem quiet_addFields (fs : List FieldMapping) :
    (b.addFields built relation c g t js fs).Quiet := by
  induction fs generalizing t js with
  | nil => exact quiet_pure _
  | cons f rest ih =>
    -- a field goes to a junction, to the table, or nowhere
    rw [addFields]
    split
    · exact (quiet_addRelation f).bind fun _ => ih
    · split
      · exact (quiet_addField f).bind fun _ => ih
      · exact ih

/-- Nor about inherited fields. -/
theorem quiet_inheritFields (fs : List FieldMapping) :
    (b.inheritFields c parent g t fs).Quiet := by
  induction fs generalizing t with
  | nil => exact quiet_pure _
  | cons f rest ih =>
    rw [inheritFields]
    split
    · exact (Building.quiet_debug _).bind fun _ => ih
    · exact (quiet_fieldTypes f).bind fun _ => (quiet_ofExcept _).bind fun _ =>
        (Building.quiet_debug _).bind fun _ => ih

/-- Nor about the merge as a whole. -/
theorem quiet_inherit (l : Lineage) : (b.inherit t l).Quiet := by
  -- the merge walks along the lineage, and a step up is one step of the induction
  induction l generalizing t with
  | root => exact quiet_pure _
  | unknownParent => exact quiet_fail _
  | cycle => exact quiet_fail _
  | step c rest ih =>
    rw [inherit]
    split
    · exact (quiet_inheritFields _).bind fun _ => ih
    · exact (quiet_ofExcept _).bind fun _ => quiet_pure _

/-! ## Warnings about tables -/

/-- The warning about an origin, if there is one: its class has fields, and names a key generator
that is not known. -/
def alert (b : Blueprint) (o : Origin) : List LogRecord :=
  if o.cls.fields.isEmpty then []
  else match given o.cls.keyGenerator with
  | none => []
  | some name =>
    if (b.registry.get? (some name)).isSome then []
    else [{
      level := .warning
      logger := Building.logger
      message :=
        s!"Class {o.cls.name} uses unknown key generator '{name}', no key generator attached"
      context := { className := some o.cls.name, table := some o.table } }]

/-- The warning about an origin belongs to its class and to its table. -/
theorem context_of_mem_alert {o : Origin} {r : LogRecord} (h : r ∈ b.alert o) :
    r.context.className = some o.cls.name ∧ r.context.table = some o.table := by
  rw [alert] at h
  split at h
  · cases h
  · split at h
    · cases h
    · split at h
      · cases h
      · cases List.mem_singleton.1 h
        exact ⟨rfl, rfl⟩

/-- There is none exactly if the key generator that is asked for is known. -/
theorem alert_eq_nil_iff {o : Origin} (hFields : o.cls.fields ≠ []) :
    b.alert o = [] ↔ ∀ name, given o.cls.keyGenerator = some name →
      (b.registry.get? (some name)).isSome := by
  rw [alert, if_neg (by simpa using hFields)]
  cases given o.cls.keyGenerator with
  | none => simp
  | some name => cases h : b.registry.get? (some name) <;> simp [h]

/-- Of the steps in which a table is made only the one that looks for the key generator warns. -/
theorem alerts_table : (b.table built relation c name js).alerts =
    b.alert ⟨relation, c, name⟩ := by
  rw [table, Traced.alerts_inContext, alert]
  split
  · rfl
  · -- everything behind the key generator is quiet, whether it fails or not
    rw [Traced.alerts_bind_of_quiet fun g => (quiet_addFields _).bind fun _ =>
      (quiet_inherit _).bind fun _ => (quiet_ofExcept _).bind fun _ =>
        (Building.quiet_debug _).bind fun _ => quiet_pure _]
    rw [keyGenerator]
    split
    -- no generator is asked for, or one that is known or not
    · next hNone =>
      rw [hNone]
      rfl
    · next asked hGiven =>
      rw [hGiven]
      dsimp only
      cases hKnown : b.registry.get? (some asked) with
      | some g => rfl
      | none => rfl

theorem quiet_addTable {s : Schema} : (addTable s t).Quiet := quiet_ofExcept _

/-- The classes with a table warn one after the other, each of its own key generator. -/
theorem alerts_addClasses {s : Schema} {cs : List ClassMapping} {r : Schema × List ClassMapping}
    (h : (b.addClasses s js cs).outcome = .ok r) :
    (b.addClasses s js cs).alerts = (Origin.ofClasses cs).flatMap b.alert := by
  induction cs generalizing s js with
  | nil => rfl
  | cons c rest ih =>
    rcases addClasses_cons_eq_ok_iff.1 h with
      ⟨hUnmapped, hRest⟩ | ⟨name, t, js₁, s₁, hMapped, hTable, hAdd, hRest⟩
    · -- a class without a table is no origin, and all that is said of it is that it is skipped
      have hSame : Origin.ofClasses (c :: rest) = Origin.ofClasses rest := by
        simp [Origin.ofClasses, hUnmapped]
      rw [hSame, ← ih hRest, addClasses, hUnmapped]
      exact (Building.quiet_debug _).alerts_bind rfl
    -- a class with a table warns when this is made
    · have hNext : Origin.ofClasses (c :: rest) =
          ⟨.oneToOne, c, name⟩ :: Origin.ofClasses rest := by
        simp [Origin.ofClasses, hMapped]
      rw [hNext, List.flatMap_cons, ← ih hRest, addClasses, hMapped]
      refine (Traced.alerts_bind_of_ok hTable).trans ?_
      rw [alerts_table]
      exact congrArg _ (quiet_addTable.alerts_bind hAdd)

/-- So do the junctions of the queue. -/
theorem alerts_addJunctions {s s' : Schema} (h : (b.addJunctions s js).outcome = .ok s') :
    (b.addJunctions s js).alerts = (js.map Origin.ofJunction).flatMap b.alert := by
  induction js generalizing s with
  | nil => rfl
  | cons j rest ih =>
    obtain ⟨t, js', s₁, hTable, hAdd, hRest⟩ := addJunctions_cons_eq_ok_iff.1 h
    rw [List.map_cons, List.flatMap_cons, ← ih hRest, addJunctions]
    refine ((Building.quiet_debug _).alerts_bind rfl).trans ?_
    refine (Traced.alerts_bind_of_ok hTable).trans ?_
    rw [alerts_table]
    exact congrArg _ (quiet_addTable.alerts_bind hAdd)

end Blueprint

/-! ## The warnings of a build -/

/-- What is registered is registered outside of any class. -/
theorem KeyGeneratorRegistry.context_of_load {r : KeyGeneratorRegistry} {gs : List KeyGeneratorDef}
    {x : LogRecord} (h : x ∈ (r.load gs).2.log) : x.context.table = none := by
  induction gs generalizing r with
  | nil => cases h
  | cons g rest ih =>
    rw [load] at h
    split at h
    -- the declaration is not accepted, and nothing is said of the ones behind it
    · cases h
    · rcases List.mem_append.1 h with hHere | hLater
      · -- there are one or two records for each declaration, and none of them has a context
        rw [registered] at hHere
        split at hHere
        · rcases List.mem_pair.1 hHere with rfl | rfl <;> rfl
        · cases List.mem_singleton.1 hHere
          rfl
      · exact ih hLater

section OfDocument

variable {registry : KeyGeneratorRegistry} {settings : Settings} {catalog : TypeCatalog}
  {d : Document} {s : Schema}

/-- **The warnings of a build.** A build that gives a schema warns of the key generators that are
declared once more, and then of each origin whose key generator is not known. -/
theorem Schema.exists_alerts_of_ofDocument
    (h : (Schema.ofDocument registry settings catalog d).outcome = .ok s) :
    ∃ js : List ClassMapping, (d.blueprint registry catalog).Builds s.tables
        (Origin.ofClasses d.classes ++ js.map Origin.ofJunction) ∧
      (Schema.ofDocument registry settings catalog d).alerts =
        (registry.reset.load d.keyGenerators).2.alerts ++
          (Origin.ofClasses d.classes ++ js.map Origin.ofJunction).flatMap
            (d.blueprint registry catalog).alert := by
  -- the classes and the junctions that were built are the origins
  obtain ⟨hSound, hLoaded, s₁, js, hClasses, hJunctions⟩ := Schema.ofDocument_eq_ok_iff.1 h
  have hBuilds := (Blueprint.builds_of_addClasses .nil .nil hClasses).1
  refine ⟨js, Blueprint.builds_of_addJunctions hBuilds hJunctions, ?_⟩
  rw [List.flatMap_append, ← Blueprint.alerts_addClasses hClasses,
    ← Blueprint.alerts_addJunctions hJunctions, Schema.ofDocument, hSound]
  -- the stages one after the other: registrations, classes, junctions, and a last record
  refine (Traced.alerts_bind_of_ok (mapError_eq_ok_iff.2 hLoaded)).trans ?_
  rw [Traced.alerts_mapError]
  refine congrArg _ ((Traced.alerts_bind_of_ok hClasses).trans ?_)
  refine congrArg _ ((Traced.alerts_bind_of_ok hJunctions).trans ?_)
  exact List.append_nil _

/-- Of all records, a warning about the table of a class is the one about its key generator. -/
theorem Schema.mem_alerts_iff
    (h : (Schema.ofDocument registry settings catalog d).outcome = .ok s) {c : ClassMapping}
    (hc : c ∈ d.classes) {table : String} (hMapped : c.mappedTable = some table) {r : LogRecord}
    (hTable : r.context.table = some table) :
    r ∈ (Schema.ofDocument registry settings catalog d).alerts ↔
      r ∈ (d.blueprint registry catalog).alert ⟨.oneToOne, c, table⟩ := by
  obtain ⟨js, hBuilds, hAlerts⟩ := Schema.exists_alerts_of_ofDocument h
  have hOrigin : (⟨.oneToOne, c, table⟩ : Origin) ∈
      Origin.ofClasses d.classes ++ js.map Origin.ofJunction :=
    Origin.mem_append_of_class hc hMapped
  rw [hAlerts, List.mem_append, List.mem_flatMap]
  constructor
  · rintro (hLoading | ⟨o, ho, hAlert⟩)
    · -- a registration is not about any table
      have hNone := KeyGeneratorRegistry.context_of_load (List.mem_filter.1 hLoading).1
      cases hNone.symm.trans hTable
    · -- the table belongs to no other origin
      have hName := (Blueprint.context_of_mem_alert hAlert).2
      have hSame : o = ⟨.oneToOne, c, table⟩ :=
        hBuilds.origin_eq ho hOrigin (Option.some.inj (hName.symm.trans hTable))
      rwa [hSame] at hAlert
  · exact fun hAlert => Or.inr ⟨_, hOrigin, hAlert⟩

end OfDocument

end MappingDdl
