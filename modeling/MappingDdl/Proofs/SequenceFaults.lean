import MappingDdl.Proofs.Integrity
import MappingDdl.Proofs.Printing

/-!
# Sequence faults — why a schema has no script

The parameters of a key generator are read when its sequence is written. They may turn out to name
no sequence, to hold no increment, or to hold one with more digits than a numeral may have. In
PostgreSQL the name has to be encoded, which halves of surrogate pairs do not allow, and the default
of a column repeats it in a literal, which holds everything but the NUL character
(`KeyGenerator.SequenceFails`). Nothing else goes wrong where a schema is written: each table has a
primary key, each foreign key a table to refer to, and names are printed as they are
(`Style.PrintsNames`).

So the first table whose sequence fails says what is wrong with a schema, under both groupings
(`Plan.firstFault?_statements`). How patterns are filled makes no difference to any of this.

Main results:

* `Flavor.firstFault?_keyGenerator` — the statements of a table fail as its sequence does.
* `Schema.emission_fails_iff` — when the writing of a schema fails, and with what.
-/

namespace MappingDdl

open Text

/-! ## One sequence -/

namespace KeyGenerator

/-- Why the sequence of a key generator for a table cannot be written: the first thing that is wrong
with it. -/
inductive SequenceFails (st : Style) (g : KeyGenerator) (table : String) : Fault → Prop
  /-- The pattern gives no name. -/
  | unnamed {f : Fault} (hName : g.sequenceName table st.format = .error f) :
      SequenceFails st g table f
  /-- The increment is no integer. -/
  | unstepped {name : Formatted} {f : Fault} (hName : g.sequenceName table st.format = .ok name)
      (hIncrement : g.increment = .error f) : SequenceFails st g table f
  /-- PostgreSQL cannot encode the name. -/
  | unencoded {name : Formatted} {increment : Option Int}
      (hName : g.sequenceName table st.format = .ok name) (hIncrement : g.increment = .ok increment)
      (hFlavor : st.flavor = .postgresql) (hHalf : name.isEncodable = false) :
      SequenceFails st g table .unencodable
  /-- The increment has too many digits. -/
  | unwritten {name : Formatted} {i : Int} (hName : g.sequenceName table st.format = .ok name)
      (hIncrement : g.increment = .ok (some i)) (hEncodes : st.Encodes name)
      (hSize : Integer.isWritable i = false) : SequenceFails st g table .malformed
  /-- PostgreSQL cannot put the name into a literal. -/
  | forbidden {name : Formatted} {increment : Option Int}
      (hName : g.sequenceName table st.format = .ok name) (hIncrement : g.increment = .ok increment)
      (hEncodes : st.Encodes name) (hSize : increment.all Integer.isWritable = true)
      (hFlavor : st.flavor = .postgresql) (hNul : '\x00' ∈ (st.path name.text).toList) :
      SequenceFails st g table .forbidden

end KeyGenerator

/-- What is wrong with a sequence of a given name, if anything. Its increment comes first. -/
def Style.sequenceFault? (st : Style) (name : Formatted) : Except Fault (Option Int) → Option Fault
  | .error f => some f
  | .ok increment =>
    if ¬ st.Encodes name then some .unencodable
    else if increment.all Integer.isWritable = false then some .malformed
    else if st.flavor = .postgresql ∧ '\x00' ∈ (st.path name.text).toList then some .forbidden
    else none

namespace KeyGenerator

/-- What is wrong with a sequence, if anything. Its name comes first. -/
def sequenceFault? (st : Style) (g : KeyGenerator) (table : String) : Option Fault :=
  match g.sequenceName table st.format with
  | .error f => some f
  | .ok name => st.sequenceFault? name g.increment

variable {st : Style} {g : KeyGenerator} {table : String} {name : Formatted} {f : Fault}

/-- With a name it remains to look at the style and the step. -/
theorem sequenceFault?_of_name (h : g.sequenceName table st.format = .ok name) :
    g.sequenceFault? st table = st.sequenceFault? name g.increment := by
  rw [sequenceFault?, h]

/-- A fault that is found is one that a sequence can fail with. -/
theorem sequenceFails_of_sequenceFault? (h : g.sequenceFault? st table = some f) :
    g.SequenceFails st table f := by
  cases hName : g.sequenceName table st.format with
  | error f' =>
    rw [sequenceFault?, hName] at h
    exact Option.some.inj h ▸ .unnamed hName
  | ok name =>
    rw [sequenceFault?_of_name hName] at h
    cases hIncrement : g.increment with
    | error f' =>
      rw [hIncrement] at h
      exact Option.some.inj h ▸ .unstepped hName hIncrement
    | ok increment =>
      rw [hIncrement, Style.sequenceFault?] at h
      split at h
      -- PostgreSQL has to encode the name
      · next hHalf =>
        cases h
        obtain ⟨hFlavor, hHalf⟩ := Classical.not_imp.1 hHalf
        exact .unencoded hName hIncrement hFlavor (by simpa using hHalf)
      -- the step is put into the text
      · next hEncodes =>
        replace hEncodes := not_not.1 hEncodes
        split at h
        · next hSize =>
          cases h
          obtain ⟨i, rfl, hSize⟩ := (Option.all_eq_false _ _).1 hSize
          exact .unwritten hName hIncrement hEncodes (by simpa using hSize)
        · next hSize =>
          -- PostgreSQL refuses a name with the NUL character
          split at h
          · next hNul =>
            cases h
            exact .forbidden hName hIncrement hEncodes (by simpa using hSize) hNul.1 hNul.2
          · cases h

/-- Every way in which a sequence fails is found, and none hides another. -/
theorem sequenceFault?_of_sequenceFails (h : g.SequenceFails st table f) :
    g.sequenceFault? st table = some f := by
  cases h with
  | unnamed hName => rw [sequenceFault?, hName]
  | unstepped hName hIncrement => rw [sequenceFault?_of_name hName, hIncrement]; rfl
  | unencoded hName hIncrement hFlavor hHalf =>
    rw [sequenceFault?_of_name hName, hIncrement]
    simp [Style.sequenceFault?, Style.Encodes, hFlavor, hHalf]
  | unwritten hName hIncrement hEncodes hSize =>
    rw [sequenceFault?_of_name hName, hIncrement]
    simp [Style.sequenceFault?, hEncodes, hSize]
  | forbidden hName hIncrement hEncodes hSize hFlavor hNul =>
    rw [sequenceFault?_of_name hName, hIncrement]
    simp [Style.sequenceFault?, hEncodes, hSize, hFlavor, hNul]

/-- What is found is what a sequence fails with. -/
theorem sequenceFault?_eq_some_iff :
    g.sequenceFault? st table = some f ↔ g.SequenceFails st table f :=
  ⟨sequenceFails_of_sequenceFault?, sequenceFault?_of_sequenceFails⟩

end KeyGenerator

namespace Statement

variable {st : Style} {table column : String} {g : KeyGenerator} {name : Formatted}

/-- The creation of a sequence that cannot be named fails as the pattern does. -/
theorem fault?_createSequence_of_unnamed {f : Fault}
    (h : g.sequenceName table st.format = .error f) :
    (createSequence table g).fault? st = some f := by
  have hRender : (createSequence table g).render st = .error ⟨"", f⟩ := by
    simp [render, Style.renderSequence, h]
  rw [fault?, hRender]

/-- The creation of a sequence fails as the sequence does, in every dialect, but for the NUL
character in its name. -/
theorem fault?_createSequence (hName : g.sequenceName table st.format = .ok name) :
    (createSequence table g).fault? st =
      match g.increment with
      | .error f => some f
      | .ok increment =>
        if ¬ st.Encodes name then some .unencodable
        else if increment.all Integer.isWritable = false then some .malformed
        else none := by
  have hRender : (createSequence table g).render st = st.renderSequence table g := rfl
  rw [fault?, hRender]
  cases hIncrement : g.increment with
  | error f => by_cases hFlavor : st.flavor = .postgresql <;>
      simp [Style.renderSequence, hName, hIncrement, hFlavor]
  | ok increment =>
    rw [Style.renderSequence_of_read hName hIncrement]
    by_cases hEncodes : st.Encodes name
    · cases hWritable : increment.all Integer.isWritable <;> simp [hEncodes, hWritable]
    · simp [hEncodes]

/-- A default fails where no literal can hold the name of the sequence. -/
theorem fault?_setDefault (hName : g.sequenceName table st.format = .ok name)
    (hEncodable : name.isEncodable = true) :
    (setDefault table column g).fault? st =
      if '\x00' ∈ (st.path name.text).toList then some .forbidden else none := by
  split
  · next hNul =>
    have hNext : (g.sequenceName table st.format >>= Formatted.encoded >>= st.nextvalText) =
        .error .forbidden := by
      rw [← Style.qualified_eq_path] at hNul
      simp [hName, bind, Except.bind, Formatted.encoded, hEncodable, Style.nextvalText,
        SqlLiteral.string, hNul]
    simp only [fault?, render, hNext]
  · next hFree => exact fault?_of_worded (.setDefault hName hEncodable hFree)

end Statement

/-! ## The sequences of a schema -/

/-- The fault of the sequence that a table uses, if it has one. -/
def Table.sequenceFault? (st : Style) (t : Table) : Option Fault :=
  t.sequenceGenerator?.bind (·.sequenceFault? st t.name)

open Statement

/-- The defaults fail together, for they all name one sequence. -/
theorem Flavor.firstFault?_sequenceDefaults {st : Style} {t : Table} {g : KeyGenerator}
    {name : Formatted} (hUsed : t.columnsOf g ≠ [])
    (hName : g.sequenceName t.name st.format = .ok name) (hEncodes : st.Encodes name) :
    firstFault? st (st.flavor.sequenceDefaults t g) =
      if st.flavor = .postgresql ∧ '\x00' ∈ (st.path name.text).toList then some .forbidden
      else none := by
  unfold sequenceDefaults
  by_cases hFlavor : st.flavor = .postgresql
  · have hFault (c : Column) : (setDefault t.name c.name g).fault? st =
        if '\x00' ∈ (st.path name.text).toList then some .forbidden else none :=
      fault?_setDefault hName (hEncodes hFlavor)
    obtain ⟨c, rest, hColumns⟩ := List.exists_cons_of_ne_nil hUsed
    -- the first default already names the sequence
    by_cases hNul : '\x00' ∈ (st.path name.text).toList
    · rw [if_pos hFlavor, if_pos ⟨hFlavor, hNul⟩, hColumns, List.map_cons, firstFault?_cons, hFault,
        if_pos hNul, Option.some_or]
    · rw [if_pos hFlavor, if_neg fun h => hNul h.2, firstFault?_eq_none_iff]
      -- no default has anything else that can fail
      intro x hx
      obtain ⟨c, -, rfl⟩ := List.mem_map.1 hx
      rw [hFault, if_neg hNul]
  · rw [if_neg hFlavor, if_neg fun h => hFlavor h.1]
    rfl

/-- The statements of a sequence that is used fail as the sequence does. -/
theorem Flavor.firstFault?_sequence {st : Style} {t : Table} {g : KeyGenerator}
    (hUsed : t.columnsOf g ≠ []) :
    firstFault? st (.createSequence t.name g :: st.flavor.sequenceDefaults t g) =
      g.sequenceFault? st t.name := by
  rw [firstFault?_cons, KeyGenerator.sequenceFault?]
  -- without a name nothing of the sequence is written
  cases hName : g.sequenceName t.name st.format with
  | error f => rw [fault?_createSequence_of_unnamed hName, Option.some_or]
  | ok name =>
    rw [fault?_createSequence hName]
    cases g.increment with
    | error f => rfl
    | ok increment =>
      dsimp only [Style.sequenceFault?]
      -- with a sequence that is written, it remains to put its name into the defaults
      by_cases hEncodes : st.Encodes name
      · by_cases hSize : increment.all Integer.isWritable = false
        · simp [hEncodes, hSize]
        · rw [if_neg (not_not.2 hEncodes), if_neg hSize, if_neg (not_not.2 hEncodes), if_neg hSize,
            Option.none_or, firstFault?_sequenceDefaults hUsed hName hEncodes]
      · simp [hEncodes]

/-- The statements of the key generator of a table fail as its sequence does. -/
theorem Flavor.firstFault?_keyGenerator (st : Style) (t : Table) :
    firstFault? st (st.flavor.tableStatements t .keyGenerator) = t.sequenceFault? st := by
  rw [tableStatements_keyGenerator, Table.sequenceFault?]
  cases hSequence : t.sequenceGenerator? with
  | none => rfl
  | some g =>
    rw [Option.toList_some, List.flatMap_singleton, Option.bind_some]
    exact firstFault?_sequence (Table.sequenceGenerator?_eq_some_iff.1 hSequence).2.2

theorem Statement.firstFault?_flatMap {α : Type} {st : Style} {l : List α}
    {statements : α → List Statement} {fault : α → Option Fault}
    (h : ∀ a ∈ l, firstFault? st (statements a) = fault a) :
    firstFault? st (l.flatMap statements) = l.findSome? fault := by
  induction l with
  | nil => rfl
  | cons a rest ih =>
    obtain ⟨hFirst, hRest⟩ := List.forall_mem_cons.1 h
    rw [List.findSome?_cons, ← ih hRest, ← hFirst]
    unfold firstFault?
    rw [List.flatMap_cons, List.findSome?_append]
    cases (statements a).findSome? (·.fault? st) <;> rfl

/-- The first table whose sequence fails says what is wrong with a plan, under every grouping. -/
theorem Plan.firstFault?_statements (st : Style) (on : Toggles) (grouping : Grouping) (s : Schema) :
    firstFault? st (statements (ofSchema st.flavor on grouping s)) =
      if on.keyGenerator then s.tables.findSome? (·.sequenceFault? st) else none := by
  rw [firstFault?_eq_bind, ← firstFaulty?_filter, filter_kind_statements (by decide),
    ← firstFault?_eq_bind]
  change firstFault? st (if on.keyGenerator then _ else _) = _
  split
  · exact firstFault?_flatMap fun t _ => Flavor.firstFault?_keyGenerator st t
  · rfl

/-! ## The emission of a schema -/

/-- The table has a sequence generator that one of its identity columns has too, and its sequence
cannot be written. -/
def Table.SequenceFails (st : Style) (t : Table) (f : Fault) : Prop :=
  ∃ g, t.keyGenerator = some g ∧ g.strategy = .sequence ∧
    (∃ c ∈ t.identityColumns, c.keyGenerator = some g) ∧ g.SequenceFails st t.name f

namespace Schema

variable {registry : KeyGeneratorRegistry} {settings settings' : Settings} {catalog : TypeCatalog}
  {d : Document} {s : Schema} {fl : Flavor} {sc : Script} {header : List String} {mark : String}
  {β : Bindings} {format : Formatting} {st : Style} {grouping : Grouping} {t : Table} {f : Fault}

theorem sequenceFault?_eq_some_iff
    (hBuild : (ofDocument registry settings catalog d).outcome = .ok s)
    (ht : t ∈ s.tables) : t.sequenceFault? st = some f ↔ t.SequenceFails st f := by
  obtain ⟨o, built, js, js', hTable⟩ := exists_table_of_ofDocument hBuild ht
  simp only [Table.sequenceFault?, Option.bind_eq_some_iff,
    Blueprint.sequenceGenerator?_of_table hTable, KeyGenerator.sequenceFault?_eq_some_iff,
    Table.SequenceFails, and_assoc]

/-- The first fault among the tables of a schema is that of the first table whose sequence fails. -/
theorem findSome?_sequenceFault?_eq_some_iff
    (hBuild : (ofDocument registry settings catalog d).outcome = .ok s) :
    s.tables.findSome? (·.sequenceFault? st) = some f ↔
      ∃ before t after, s.tables = before ++ t :: after ∧
        (∀ u ∈ before, ∀ f', ¬ u.SequenceFails st f') ∧ t.SequenceFails st f := by
  rw [List.findSome?_eq_some_iff]
  refine exists_congr fun before => exists_congr fun t => exists_congr fun after =>
    and_congr_right fun hTables => ?_
  have hHere : t.sequenceFault? st = some f ↔ t.SequenceFails st f :=
    sequenceFault?_eq_some_iff hBuild (by simp [hTables])
  have hBefore : (∀ u ∈ before, u.sequenceFault? st = none) ↔
      ∀ u ∈ before, ∀ f', ¬ u.SequenceFails st f' := by
    refine forall₂_congr fun u hu => ?_
    have hMem : u ∈ s.tables := hTables ▸ List.mem_append_left _ hu
    rw [Option.eq_none_iff_forall_ne_some]
    exact forall_congr' fun f' => not_congr (sequenceFault?_eq_some_iff hBuild hMem)
  rw [hHere, hBefore, and_comm]

/-- What the statements of a schema ask for is there: primary keys, and the tables of references. -/
theorem isSome_primaryKey_and_exists_reference
    (hBuild : (ofDocument registry settings catalog d).outcome = .ok s) (ht : t ∈ s.tables) :
    t.primaryKey.isSome = true ∧
      ∀ k ∈ t.foreignKeys, ∃ u ∈ s.tables, u.name = k.referenceTable := by
  obtain ⟨js, -, hBuilds⟩ := exists_junctions_of_ofDocument hBuild
  obtain ⟨i, hi⟩ := List.mem_iff_getElem?.1 ht
  obtain ⟨o, js₀, js₁, -, hTable⟩ := hBuilds.table_at hi
  refine ⟨by rw [(Blueprint.keyed_of_table hTable).key]; rfl, fun k hk => ?_⟩
  obtain ⟨j, -, u, hu, hName, -⟩ := hBuilds.target_of_foreignKey hi hk
  exact ⟨u, List.mem_of_getElem? hu, hName⟩

/-- What becomes of a schema depends on the sequences of its tables alone. -/
theorem outcome_emitFrom (hGrouping : settings.grouping = .ok grouping) :
    (emitFrom β fl settings s sc header mark format).2.trace.outcome = emissionOutcome
      (if settings.toggles.keyGenerator then
        s.tables.findSome? (·.sequenceFault? (.ofSettings fl settings sc.indent format))
      else none) := by
  have hFault := Plan.firstFault?_statements (.ofSettings fl settings sc.indent format)
    settings.toggles grouping s
  rw [emitFrom_eq_emit, outcome_emit hGrouping, ← hFault]
  rfl

/-- **The writing of a schema fails in a sequence only.** Where the schema of a document is written,
in any dialect, with any statements switched on, from any bindings and however patterns are filled,
it fails exactly if the statements of key generators are on and the sequence of some table fails:
one that an identity column uses, and whose pattern gives no name, whose increment is no integer, or
whose name or increment cannot be written. The first such table says why. Otherwise all that is
asked for is there: primary keys, and the tables that foreign keys refer to. No name is read as a
template. -/
theorem emission_fails_iff (hBuild : (ofDocument registry settings' catalog d).outcome = .ok s)
    (hGrouping : settings.grouping = .ok grouping) :
    (∀ e, (emitFrom β fl settings s sc header mark format).2.trace.outcome = .error e ↔
      settings.toggles.keyGenerator = true ∧ ∃ before t after f,
        s.tables = before ++ t :: after ∧
          (∀ u ∈ before, ∀ f',
            ¬ u.SequenceFails (.ofSettings fl settings sc.indent format) f') ∧
          t.SequenceFails (.ofSettings fl settings sc.indent format) f ∧ e = .rendering f) ∧
    (∀ t ∈ s.tables, t.primaryKey.isSome = true ∧
      ∀ k ∈ t.foreignKeys, ∃ u ∈ s.tables, u.name = k.referenceTable) ∧
    (Style.ofSettings fl settings sc.indent format).PrintsNames := by
  refine ⟨fun e => ?_, fun t ht => isSome_primaryKey_and_exists_reference hBuild ht,
    Style.printsNames (Style.isUnqualified_ofSettings _ _ _ _)⟩
  rw [outcome_emitFrom hGrouping, emissionOutcome_eq_error_iff]
  constructor
  · rintro ⟨f, hSome, rfl⟩
    -- the first table whose sequence fails is the first one that is asked for a fault
    obtain ⟨hOn, hSome⟩ := Option.ite_none_right_eq_some.1 hSome
    obtain ⟨before, t, after, hTables, hNone, hFails⟩ :=
      (findSome?_sequenceFault?_eq_some_iff hBuild).1 hSome
    exact ⟨hOn, before, t, after, f, hTables, hNone, hFails, rfl⟩
  · rintro ⟨hOn, before, t, after, f, hTables, hNone, hFails, rfl⟩
    -- and the other way round
    refine ⟨f, (if_pos hOn).trans ?_, rfl⟩
    exact (findSome?_sequenceFault?_eq_some_iff hBuild).2
      ⟨before, t, after, hTables, hNone, hFails⟩

end Schema

/-! ## Documents whose sequences fail -/

/-- Without patterns, sequences are named for their tables, and then their names and increments say
what is wrong with them. -/
theorem Schema.sequenceFaults_of_default {s : Schema} {st : Style} (hFormat : st.format.Lawful)
    (h : s.tables.all (fun t =>
      t.sequenceGenerator?.all fun g => (g.param? "sequence").isNone) = true) :
    s.tables.map (·.sequenceFault? st) = s.tables.map fun t => t.sequenceGenerator?.bind fun g =>
      st.sequenceFault? ⟨t.name ++ "_seq", true⟩ g.increment := by
  refine List.map_congr_left fun t ht => Option.bind_congr fun g hg => ?_
  have hDefault := List.all_eq_true.1 h t ht
  rw [Option.mem_def.1 hg, Option.all_some, Option.isNone_iff_eq_none] at hDefault
  exact KeyGenerator.sequenceFault?_of_name
    (KeyGenerator.sequenceName_of_default hFormat hDefault t.name)

/-- Orders are numbered by a sequence. Lines have one whose increment is no number. The first table
has braces and a quote in its name. -/
def Document.unstepped : Document where
  keyGenerators :=
    [{ name := "numbers", strategy := "sequence", params := [] },
     { name := "steps", strategy := "sequence", params := [("increment", .str "two")] }]
  classes :=
    [{ name := "Order"
       table := some "\x7border\x7d\""
       keyGenerator := some "numbers"
       fields := [{ name := "no", type := "integer", identity := true, columns := ["no"] }] },
     { name := "Line"
       table := some "line"
       keyGenerator := some "steps"
       fields := [{ name := "no", type := "integer", identity := true, columns := ["no"] }] }]

/-- Its schema in PostgreSQL, with default settings. -/
def Schema.ofUnstepped : Building Schema :=
  Schema.ofDocument (.initial .postgresql) {} (Dialect.postgresql.catalog {}) .unstepped

/-- Orders are no obstacle to the script, and lines are. -/
theorem Schema.emission_of_unstepped :
    ∃ s, Schema.ofUnstepped.outcome = .ok s ∧
      s.tables.map (·.name) = ["\x7border\x7d\"", "line"] ∧
      (emitFrom [] .postgresql {} s {} [] "--").2.trace.outcome =
        .error (.rendering .malformed) := by
  -- what is computed: the names, that the patterns are the usual ones, and what each sequence fails
  -- with
  let view (s : Schema) :=
    (s.tables.map (·.name),
      s.tables.all (fun t => t.sequenceGenerator?.all fun g => (g.param? "sequence").isNone),
      s.tables.map fun t => t.sequenceGenerator?.bind fun g =>
        (Style.ofSettings .postgresql {} "    ").sequenceFault? ⟨t.name ++ "_seq", true⟩
          g.increment)
  obtain ⟨s, hs, hView⟩ : ∃ s, Schema.ofUnstepped.outcome = .ok s ∧
      view s = (["\x7border\x7d\"", "line"], true, [none, some .malformed]) :=
    exists_ok_of_toOption_map (by decide +kernel)
  obtain ⟨hNames, hRest⟩ := Prod.mk.inj hView
  obtain ⟨hDefault, hFaults⟩ := Prod.mk.inj hRest
  rw [← sequenceFaults_of_default Formatting.lawful_standard hDefault] at hFaults
  -- there are two tables, and only the second one fails
  obtain ⟨order, line, hTables⟩ : ∃ order line, s.tables = [order, line] :=
    List.length_eq_two.1 (by simpa using congrArg List.length hNames)
  obtain ⟨hOrder, hLine⟩ : order.sequenceFault? (.ofSettings .postgresql {} "    ") = none ∧
      line.sequenceFault? (.ofSettings .postgresql {} "    ") = some .malformed := by
    simpa [hTables] using hFaults
  refine ⟨s, hs, hNames,
    ((emission_fails_iff hs (Settings.grouping_of_text (g := .byTable) rfl)).1 _).2 ?_⟩
  refine ⟨rfl, [order], line, [], .malformed, hTables, fun u hu f' hFails => ?_, ?_, rfl⟩
  · cases List.mem_singleton.1 hu
    cases hOrder.symm.trans ((sequenceFault?_eq_some_iff hs (by simp [hTables])).2 hFails)
  · exact (sequenceFault?_eq_some_iff hs (by simp [hTables])).1 hLine

/-- Orders are numbered in steps of a number that is one digit too long. -/
def Document.oversized : Document where
  keyGenerators :=
    [{ name := "big", strategy := "SEQUENCE"
       params := [("increment", .int (Int.ofNat (Nat.pow 10 4300)))] }]
  classes :=
    [{ name := "Order"
       table := some "orders"
       keyGenerator := some "big"
       fields := [{ name := "no", type := "integer", identity := true, columns := ["no"] }] }]

/-- Its schema in standard SQL, with default settings. -/
def Schema.ofOversized : Building Schema :=
  Schema.ofDocument (.initial .generic) {} (Dialect.generic.catalog {}) .oversized

/-- A pattern that gives a name and an increment that is an integer are not enough: the integer has
to be written, too. -/
theorem Schema.emission_of_oversized :
    ∃ s, Schema.ofOversized.outcome = .ok s ∧
      (emitFrom [] .standard {} s {} [] "--").2.trace.outcome = .error (.rendering .malformed) ∧
      ∀ t ∈ s.tables, ∀ g, t.keyGenerator = some g →
        (∃ name, g.sequenceName t.name = .ok name) ∧ ∃ i, g.increment = .ok i := by
  -- what is computed: that both can be read, and that the sequence fails
  let view (s : Schema) :=
    (s.tables.all (fun t => t.sequenceGenerator?.all fun g => (g.param? "sequence").isNone),
      s.tables.all (fun t => t.keyGenerator.all fun g =>
        (g.param? "sequence").isNone && g.increment.toOption.isSome),
      s.tables.map fun t => t.sequenceGenerator?.bind fun g =>
        (Style.ofSettings .standard {} "    ").sequenceFault? ⟨t.name ++ "_seq", true⟩ g.increment)
  obtain ⟨s, hs, hView⟩ : ∃ s, Schema.ofOversized.outcome = .ok s ∧
      view s = (true, true, [some .malformed]) :=
    exists_ok_of_toOption_map (by decide +kernel)
  obtain ⟨hDefault, hRest⟩ := Prod.mk.inj hView
  obtain ⟨hRead, hFaults⟩ := Prod.mk.inj hRest
  rw [← sequenceFaults_of_default Formatting.lawful_standard hDefault] at hFaults
  have hFirst : s.tables.findSome? (·.sequenceFault? (.ofSettings .standard {} "    ")) =
      some .malformed := by
    rw [← Function.id_comp (fun t : Table => t.sequenceFault? _), ← List.findSome?_map, hFaults]
    rfl
  refine ⟨s, hs, ?_, fun t ht g hg => ?_⟩
  · refine (outcome_emitFrom (Settings.grouping_of_text (g := .byTable) rfl)).trans ?_
    exact congrArg emissionOutcome hFirst
  · have hBoth := List.all_eq_true.1 hRead t ht
    rw [hg, Option.all_some, Bool.and_eq_true, Option.isNone_iff_eq_none] at hBoth
    refine ⟨⟨_, KeyGenerator.sequenceName_of_default Formatting.lawful_standard hBoth.1 t.name⟩, ?_⟩
    cases hIncrement : g.increment with
    | error f => rw [hIncrement] at hBoth; cases hBoth.2
    | ok i => exact ⟨i, rfl⟩

end MappingDdl
