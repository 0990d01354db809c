import MappingDdl.Proofs.Sequences

/-!
# Variants — scripts of one schema under different settings

A grouping changes the order of the statements of tables, and a toggle leaves out the statements of
one kind. Neither of them changes a statement: its text depends on the style of the settings, which
knows nothing of groupings and toggles, and not on what was written before it, as each task binds
the key generator that it writes (`emitFrom_eq_emit`).

Main results:

* `emit_grouping_perm` — two scripts of a schema that differ in their grouping.
* `emit_toggles_filter` — two scripts of a schema that differ in the kinds that are switched on.
-/

namespace MappingDdl

variable {fl : Flavor} {settings : Settings} {s : Schema} {sc : Script} {header : List String}
  {mark : String} {format : Formatting}

/-- What is switched on has nothing to do with the grouping. -/
theorem Settings.grouping_toggles (settings : Settings) (on : Toggles) :
    ({ settings with toggles := on } : Settings).grouping = settings.grouping := by
  simp only [Settings.grouping]

/-- The style does not depend on the order of statements. -/
theorem Style.ofSettings_groupBy (fl : Flavor) (settings : Settings) (value indent : String)
    (format : Formatting) :
    Style.ofSettings fl { settings with groupBy := value } indent format =
      .ofSettings fl settings indent format := rfl

/-- The style does not depend on which statements there are. -/
theorem Style.ofSettings_toggles (fl : Flavor) (settings : Settings) (on : Toggles)
    (indent : String) (format : Formatting) :
    Style.ofSettings fl { settings with toggles := on } indent format =
      .ofSettings fl settings indent format := rfl

/-- Writes a schema into a script under a given grouping. -/
def emitBy (g : Grouping) (fl : Flavor) (settings : Settings) (s : Schema) (sc : Script)
    (header : List String) (mark : String) (format : Formatting := .standard) : Emission :=
  emit fl { settings with groupBy := g.text } s sc header mark format

/-- A script fails with the first fault of its statements, in the order of the grouping. -/
theorem outcome_emitBy (g : Grouping) :
    (emitBy g fl settings s sc header mark format).trace.outcome =
      emissionOutcome (Statement.firstFault? (.ofSettings fl settings sc.indent format)
        (Plan.statements (Plan.ofSchema fl settings.toggles g s))) := by
  unfold emitBy
  rw [outcome_emit (Settings.grouping_of_text rfl), Style.ofSettings_groupBy]

/-- One that does not fail has the statements of the schema first, then those of the tables. -/
theorem wrote_of_emitBy {g : Grouping}
    (hOk : (emitBy g fl settings s sc header mark format).trace.outcome = .ok ()) :
    (emitBy g fl settings s sc header mark format).Wrote (.ofSettings fl settings sc.indent format)
      (sc.header header mark) (Plan.ownStatements fl settings.toggles s ++
        Plan.arranged fl (Plan.kinds settings.toggles) s.tables g) := by
  unfold emitBy at hOk ⊢
  have h := wrote_of_emit (Settings.grouping_of_text rfl) hOk
  rwa [Style.ofSettings_groupBy, Plan.statements_ofSchema] at h

/-- **The groupings say the same thing.** Written by table and by kind, a schema either gives two
scripts that have the same header, the same statements of the schema itself, and of the tables the
same statements each as often; or it fails both times, at the same statement and with the same
fault. The number that is counted is that of the statements. Which tables the key generators were
bound to before, by one of the two scripts or by another one, makes no difference. -/
theorem emit_grouping_perm (fl : Flavor) (settings : Settings) (s : Schema) (sc : Script)
    (header : List String) (mark : String) (format : Formatting) :
    (∀ β g, (emitFrom β fl { settings with groupBy := g.text } s sc header mark format).2 =
      emitBy g fl settings s sc header mark format) ∧
    ((∃ own byTable byKind,
      (emitBy .byTable fl settings s sc header mark format).Wrote
        (.ofSettings fl settings sc.indent format) (sc.header header mark) (own ++ byTable) ∧
      (emitBy .byKind fl settings s sc header mark format).Wrote
        (.ofSettings fl settings sc.indent format) (sc.header header mark) (own ++ byKind) ∧
      (∀ x ∈ own, x.kind = .schema) ∧ (∀ x ∈ byTable, x.kind ≠ .schema) ∧
      byTable.Perm byKind ∧
      ∀ g, (emitBy g fl settings s sc header mark format).script.statements - sc.statements =
        (own ++ byTable).length) ∨
    ∃ x f, x.fault? (.ofSettings fl settings sc.indent format) = some f ∧
      ∀ g, (emitBy g fl settings s sc header mark format).trace.outcome = .error (.rendering f) ∧
        Statement.firstFaulty? (.ofSettings fl settings sc.indent format)
          (Plan.statements (Plan.ofSchema fl settings.toggles g s)) = some x) := by
  refine ⟨fun β g => emitFrom_eq_emit β fl _ s sc header mark format, ?_⟩
  -- both groupings stop at the same statement, if they stop
  have hFaulty (g : Grouping) := Plan.firstFaulty?_grouping fl settings.toggles s
    (.ofSettings fl settings sc.indent format) g .byTable
  have hOutcome (g : Grouping) : (emitBy g fl settings s sc header mark format).trace.outcome =
      emissionOutcome ((Statement.firstFaulty? (.ofSettings fl settings sc.indent format)
        (Plan.statements (Plan.ofSchema fl settings.toggles .byTable s))).bind
          (·.fault? (.ofSettings fl settings sc.indent format))) := by
    rw [outcome_emitBy, Statement.firstFault?_eq_bind, hFaulty]
  cases hFirst : Statement.firstFaulty? (.ofSettings fl settings sc.indent format)
      (Plan.statements (Plan.ofSchema fl settings.toggles .byTable s)) with
  -- a statement that has a fault: no grouping gets past it
  | some x =>
    obtain ⟨f, hFault⟩ := Statement.exists_fault_of_firstFaulty? hFirst
    refine Or.inr ⟨x, f, hFault, fun g => ⟨?_, (hFaulty g).trans hFirst⟩⟩
    rw [hOutcome, hFirst, Option.bind_some, hFault]
    rfl
  -- without one both are written, and the statements of the tables are only arranged in another way
  | none =>
    have hOk (g : Grouping) :
        (emitBy g fl settings s sc header mark format).trace.outcome = .ok () := by
      rw [hOutcome, hFirst]
      rfl
    have hPerm := Plan.arranged_perm fl (Plan.kinds settings.toggles) s.tables
    refine Or.inl ⟨_, _, _, wrote_of_emitBy (hOk .byTable), wrote_of_emitBy (hOk .byKind),
      fun _ => Plan.kind_of_mem_ownStatements, fun _ => Plan.kind_ne_of_mem_arranged, hPerm, ?_⟩
    intro g
    rw [(wrote_of_emitBy (hOk g)).count_eq]
    cases g with
    | byTable => rfl
    | byKind => exact (hPerm.append_left _).length_eq.symm

/-- **Toggles only filter.** Where the script with all kinds of statements can be written, so can
the one with some of them switched off. It has the same header, and of the statements those of the
kinds that are left, in the same order and with the same texts. The number that is counted is that
of the statements left. Which tables the key generators were bound to before makes no difference. -/
theorem emit_toggles_filter
    (hAll : (emit fl { settings with toggles := {} } s sc header mark format).trace.outcome =
      .ok ()) :
    (∀ β, (emitFrom β fl settings s sc header mark format).2 =
      emit fl settings s sc header mark format) ∧
    ∃ xs,
      (emit fl { settings with toggles := {} } s sc header mark format).Wrote
        (.ofSettings fl settings sc.indent format) (sc.header header mark) xs ∧
      (emit fl settings s sc header mark format).Wrote
        (.ofSettings fl settings sc.indent format) (sc.header header mark)
        (xs.filter (settings.toggles.allows ·.kind)) ∧
      (emit fl settings s sc header mark format).script.statements - sc.statements =
        (xs.filter (settings.toggles.allows ·.kind)).length := by
  refine ⟨fun β => emitFrom_eq_emit β fl settings s sc header mark format, ?_⟩
  obtain ⟨g, hGroupingAll⟩ := exists_grouping_of_emit hAll
  have hWroteAll := wrote_of_emit hGroupingAll hAll
  -- the style does not depend on what is switched on
  rw [Style.ofSettings_toggles] at hWroteAll
  have hGrouping : settings.grouping = .ok g := settings.grouping_toggles {} ▸ hGroupingAll
  -- what is written without a fault is so too where some of it is left out
  have hOk : (emit fl settings s sc header mark format).trace.outcome = .ok () := by
    rw [outcome_emit hGrouping, emissionOutcome_eq_ok_iff, Statement.firstFault?_eq_none_iff,
      Plan.statements_ofSchema_filter]
    intro x hx
    exact hWroteAll.fault?_eq_none x (List.mem_of_mem_filter hx)
  have hWrote := wrote_of_emit hGrouping hOk
  rw [Plan.statements_ofSchema_filter] at hWrote
  exact ⟨_, hWroteAll, hWrote, hWrote.count_eq⟩

/-- Orders and lines without their sequences: the other statements are written as before. -/
theorem emit_toggles_of_numbered :
    ∃ s xs, Schema.ofNumbered.outcome = .ok s ∧
      (emit .postgresql {} s {} [] "--").Wrote (.ofSettings .postgresql {} "    ")
        (Script.header {} [] "--") xs ∧
      (emit .postgresql { toggles := ({} : Toggles).disable .keyGenerator } s {} [] "--").Wrote
        (.ofSettings .postgresql {} "    ") (Script.header {} [] "--")
        (xs.filter ((({} : Toggles).disable .keyGenerator).allows ·.kind)) := by
  obtain ⟨s, hs, -, hAll⟩ := Schema.exists_ofNumbered
  obtain ⟨-, xs, hWroteAll, hWrote, -⟩ := @emit_toggles_filter .postgresql
    { toggles := ({} : Toggles).disable .keyGenerator } s {} [] "--" .standard hAll
  exact ⟨s, xs, hs, hWroteAll, hWrote⟩

end MappingDdl
