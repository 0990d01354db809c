import MappingDdl.Proofs.Arrangement
import MappingDdl.Proofs.Origin
import MappingDdl.Proofs.Templates

/-!
# Sequences — key generators whose statements can be written

The parameters of a key generator are read when its statements are written, and then they may turn
out to say nothing. Where no pattern of names is given the sequence of a table is named for it
(`KeyGenerator.sequenceName_of_default`), and with an increment that is an integer the statements
are sure to be written (`KeyGenerator.isWritable`).

Main results:

* `KeyGenerator.sequenceName_of_source` — the name of a sequence, for a pattern with places only.
* `outcome_emit_of_isWritable` — with key generators whose statements can be written a schema has a
  script, in every dialect, under every grouping and with all kinds of statements.
-/

namespace MappingDdl

/-! ## Names of sequences -/

section Pattern

open Text.Template

/-- The table's name and a suffix. -/
theorem defaultPattern_eq_source :
    KeyGenerator.defaultPattern = source [.place 0, .text "_seq"] := by
  decide +kernel

variable {format : Formatting} {g : KeyGenerator}

/-- A pattern with nothing but places for the table's name gives this name in each of them, whatever
characters it has. -/
theorem KeyGenerator.sequenceName_of_source (hFormat : format.Lawful) {segs : List Segment}
    (hPattern : g.pattern = .str (source segs)) (hFits : ∀ s ∈ segs, s.Fits 1) (table : String) :
    g.sequenceName table format = .ok ⟨filled segs [table], true⟩ := by
  rw [sequenceName, hPattern]
  exact hFormat.fill_source segs table hFits

/-- Without a pattern a sequence is named for its table. -/
theorem KeyGenerator.sequenceName_of_default (hFormat : format.Lawful)
    (h : g.param? "sequence" = none) (table : String) :
    g.sequenceName table format = .ok ⟨table ++ "_seq", true⟩ := by
  have hPattern : g.pattern = .str (source [.place 0, .text "_seq"]) := by
    rw [pattern, h, defaultPattern_eq_source]
  rw [sequenceName_of_source hFormat hPattern (by decide +kernel)]
  simp

end Pattern

/-! ## The statements of a key generator -/

namespace Flavor

variable {fl : Flavor} {t : Table} {x : Statement}

/-- The statements of a generator are those of a sequence, and its defaults in PostgreSQL. -/
theorem mem_generatorStatements_iff {g : KeyGenerator} :
    x ∈ fl.generatorStatements t g ↔ g.strategy = .sequence ∧
      (x = .createSequence t.name g ∨
        fl = .postgresql ∧ ∃ c ∈ t.columnsOf g, x = .setDefault t.name c.name g) := by
  unfold generatorStatements
  cases hStrategy : g.strategy <;> cases fl
  all_goals simp [eq_comm]

/-- A table has those of its generator, if columns are bound to this. -/
theorem mem_tableStatements_keyGenerator_iff :
    x ∈ fl.tableStatements t .keyGenerator ↔ ∃ g, t.keyGenerator = some g ∧
      t.columnsOf g ≠ [] ∧ x ∈ fl.generatorStatements t g := by
  unfold tableStatements
  cases t.keyGenerator with
  | none => simp
  | some g => by_cases h : t.columnsOf g = [] <;> simp [h]

end Flavor

/-! ## Key generators that can be written -/

/-- Whether the statements of a key generator for a table can be written: its sequence is named for
the table, which a literal can hold, and its increment is an integer. -/
def KeyGenerator.isWritable (st : Style) (table : String) (g : KeyGenerator) : Bool :=
  (g.param? "sequence").isNone &&
  (SqlLiteral.string (st.qualified (table ++ "_seq"))).toOption.isSome &&
  g.increment.toOption.any (·.all Text.Integer.isWritable)

namespace Statement

variable {st : Style} {fl : Flavor} {t : Table} {g : KeyGenerator} {x : Statement}

/-- If a generator can be written, each of its statements can. -/
theorem fault?_eq_none_of_isWritable (hFormat : st.format.Lawful)
    (h : g.isWritable st t.name = true) (hx : x ∈ fl.generatorStatements t g) :
    x.fault? st = none := by
  simp only [KeyGenerator.isWritable, Bool.and_eq_true, Option.isNone_iff_eq_none] at h
  obtain ⟨⟨hPattern, hLiteral⟩, hIncrement⟩ := h
  have hName := KeyGenerator.sequenceName_of_default hFormat hPattern t.name
  obtain ⟨-, rfl | ⟨-, c, -, rfl⟩⟩ := Flavor.mem_generatorStatements_iff.1 hx
  -- the creation has a name and a step
  · obtain ⟨i, hi, hWritable⟩ : ∃ i, g.increment = .ok i ∧
        i.all Text.Integer.isWritable = true := by
      cases hi : g.increment with
      | error f => rw [hi] at hIncrement; cases hIncrement
      | ok i => exact ⟨i, rfl, by rwa [hi] at hIncrement⟩
    exact fault?_of_worded (.createSequence hName hi (fun _ => rfl) hWritable)
  · -- a default: the name of the sequence is put into a literal
    have hFree : '\x00' ∉ (st.path (t.name ++ "_seq")).toList := by
      rw [← Style.qualified_eq_path]
      intro hMem
      simp [SqlLiteral.string, hMem, Except.toOption] at hLiteral
    exact fault?_of_worded (.setDefault hName rfl hFree)

end Statement

/-- **A schema whose key generators can be written has a script**, under every grouping and with all
kinds of statements that are switched on. -/
theorem outcome_emit_of_isWritable {fl : Flavor} {settings : Settings} {s : Schema} {sc : Script}
    {header : List String} {mark : String} {format : Formatting} {g : Grouping}
    (hFormat : format.Lawful) (hGrouping : settings.grouping = .ok g)
    (h : ∀ t ∈ s.tables, ∀ generator ∈ t.keyGenerator,
      generator.isWritable (.ofSettings fl settings sc.indent format) t.name = true) :
    (emit fl settings s sc header mark format).trace.outcome = .ok () := by
  rw [outcome_emit hGrouping, emissionOutcome_eq_ok_iff, Statement.firstFault?_eq_none_iff]
  intro x hx
  by_cases hKind : x.kind = .keyGenerator
  · -- a statement of a table's own key generator, which the hypothesis speaks of
    rw [Plan.statements_ofSchema] at hx
    rcases List.mem_append.1 hx with hOwn | hTable
    -- the statements of the schema itself are of other kinds
    · cases (Plan.kind_of_mem_ownStatements hOwn).symm.trans hKind
    -- those of a table are of a kind, and the kind says whose they are
    · obtain ⟨t, ht, k, -, hMem⟩ := Plan.mem_arranged_iff.1 hTable
      cases (Flavor.kind_of_mem_tableStatements hMem).symm.trans hKind
      obtain ⟨generator, hGenerator, -, hStatement⟩ :=
        Flavor.mem_tableStatements_keyGenerator_iff.1 hMem
      exact Statement.fault?_eq_none_of_isWritable hFormat (h t ht generator hGenerator) hStatement
  -- statements of other kinds never fail
  · exact Statement.fault?_of_kind_ne hKind

/-! ## A document with a shared key generator -/

/-- Orders and their lines are numbered by one key generator, and a line refers to its order. -/
def Document.numbered : Document where
  keyGenerators :=
    [{ name := "numbers", strategy := "sequence", params := [("increment", .int 5)] }]
  classes :=
    [{ name := "Order"
       table := some "order"
       keyGenerator := some "numbers"
       fields :=
         [{ name := "no", type := "integer", identity := true, columns := ["no"] },
          { name := "placed", type := "date", columns := ["placed"] }]
       indexes := [{ name := none, columns := ["placed"], unique := false }] },
     { name := "Line"
       table := some "line"
       keyGenerator := some "numbers"
       fields :=
         [{ name := "no", type := "integer", identity := true, columns := ["no"] },
          { name := "order", type := "Order", columns := ["order_no"] }] }]

/-- Its schema in PostgreSQL, with default settings. -/
def Schema.ofNumbered : Building Schema :=
  Schema.ofDocument (.initial .postgresql) {} (Dialect.postgresql.catalog {}) .numbered

/-- The numbered document has a script, with all kinds of statements. -/
theorem Schema.exists_ofNumbered :
    ∃ s, Schema.ofNumbered.outcome = .ok s ∧ s.tables.map (·.name) = ["order", "line"] ∧
      (emit .postgresql {} s {} [] "--").trace.outcome = .ok () := by
  -- what is computed: the names of the tables, and that their generators can be written
  let view (s : Schema) :=
    (s.tables.map (·.name), s.tables.all fun t =>
      t.keyGenerator.all fun g => g.isWritable (.ofSettings .postgresql {} "    ") t.name)
  obtain ⟨s, hs, hView⟩ : ∃ s, Schema.ofNumbered.outcome = .ok s ∧
      view s = (["order", "line"], true) := by
    refine exists_ok_of_toOption_map ?_
    decide +kernel
  obtain ⟨hNames, hWritable⟩ := Prod.mk.injEq _ _ _ _ ▸ hView
  refine ⟨s, hs, hNames, outcome_emit_of_isWritable
    Formatting.lawful_standard (Settings.grouping_of_text (g := .byTable) rfl) fun t ht g hg => ?_⟩
  have hAll := List.all_eq_true.1 hWritable t ht
  rw [Option.mem_def.1 hg] at hAll
  exact hAll

end MappingDdl
