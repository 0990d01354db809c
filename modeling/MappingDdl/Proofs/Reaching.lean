import MappingDdl.Proofs.Generators
import MappingDdl.Proofs.LastWins
import MappingDdl.Proofs.Warnings

/-!
# Reaching — whether a class gets the key generator that it names

A key generator is declared under its name in upper case. A class that names it is looked up under
the name without the blanks around it, in upper case, too. So what a class gets depends on the
spelling of the declaration: one without blanks around its name is found, and no other one is, not
even by a class that repeats its name character for character.

Main results:

* `Document.follows_registered` — the key generators of a run stand for those of the document.
* `Schema.reachesOwn_iff` — when a class reaches the key generator that is declared under the name
  it gives.
-/

namespace MappingDdl

/-- A class is warned of while its table is made. -/
def ClassMapping.IsWarnedOf (c : ClassMapping) (log : List LogRecord) : Prop :=
  ∃ r ∈ log, r.isWarning = true ∧ r.context.className = some c.name ∧
    r.context.table = c.mappedTable

section OfDocument

variable {registry : KeyGeneratorRegistry} {settings : Settings} {catalog : TypeCatalog}
  {d : Document} {s : Schema} {c : ClassMapping} {table name : String}

/-- A build that gives a schema has registered all key generators of the document. -/
theorem Document.follows_registered
    (h : (Schema.ofDocument registry settings catalog d).outcome = .ok s) :
    (d.registered registry).Follows registry.dialect d.keyGenerators := by
  obtain ⟨-, hLoaded, -⟩ := Schema.ofDocument_eq_ok_iff.1 h
  have hStart := KeyGeneratorRegistry.follows_initial registry.dialect
  have hFollows := hStart.load d.keyGenerators
  rwa [List.nil_append,
    List.takeWhile_eq_self_iff.2 (hStart.supported_of_load hLoaded)] at hFollows

/-- The table of a class that extends nothing has the key generator that the class names. -/
theorem Schema.exists_table_of_root
    (h : (Schema.ofDocument registry settings catalog d).outcome = .ok s) (hc : c ∈ d.classes)
    (hFields : c.fields ≠ []) (hParent : given c.parent = none)
    (hMapped : c.mappedTable = some table) :
    ∃ t, s.table? table = some t ∧
      t.keyGenerator = (d.registered registry).get? c.keyGenerator := by
  obtain ⟨js, -, hBuilds⟩ := Schema.exists_junctions_of_ofDocument h
  obtain ⟨t, built, js₀, js₁, hFind, hTable⟩ := hBuilds.exists_table_of_class hc hMapped
  exact ⟨t, hFind, Blueprint.keyGenerator_of_root hParent hFields hTable⟩

/-- A class is warned of exactly if the key generator that it names is not known. -/
theorem Schema.isWarnedOf_iff
    (h : (Schema.ofDocument registry settings catalog d).outcome = .ok s) (hc : c ∈ d.classes)
    (hFields : c.fields ≠ []) (hMapped : c.mappedTable = some table)
    (hNamed : given c.keyGenerator = some name) :
    c.IsWarnedOf (Schema.ofDocument registry settings catalog d).log ↔
      (d.registered registry).get? (some name) = none := by
  -- the table has an alert exactly if its generator is unknown
  have hAlert : (d.blueprint registry catalog).alert ⟨.oneToOne, c, table⟩ = [] ↔
      ((d.registered registry).get? (some name)).isSome := by
    rw [Blueprint.alert_eq_nil_iff hFields, hNamed]
    exact ⟨fun hAll => hAll name rfl, fun hKnown _ hSame => Option.some.inj hSame ▸ hKnown⟩
  rw [← Option.not_isSome_iff_eq_none, ← hAlert]
  constructor
  -- the record about the class is one of the alerts for its table, as no other class has this table
  · rintro ⟨r, hr, hWarning, -, hTable⟩ hNone
    rw [hMapped] at hTable
    have hMem := (Schema.mem_alerts_iff h hc hMapped hTable).1 (List.mem_filter.2 ⟨hr, hWarning⟩)
    rw [hNone] at hMem
    cases hMem
  -- the alert is a record of the build, and a warning
  · intro hSome
    obtain ⟨r, hr⟩ := List.exists_mem_of_ne_nil _ hSome
    obtain ⟨hName, hTable⟩ := Blueprint.context_of_mem_alert hr
    obtain ⟨hMem, hWarning⟩ := List.mem_filter.1 ((Schema.mem_alerts_iff h hc hMapped hTable).2 hr)
    exact ⟨r, hMem, hWarning, hName, hTable.trans hMapped.symm⟩

/-- **Reaching a declaration.** A class with fields that extends nothing names a declared
key generator. Its table has what the name stands for without the blanks around it, and the class is
warned of if this is nothing. So the table has the generator of the last declaration of the name,
and there is no warning, exactly if the name has no blanks around it. -/
theorem Schema.reachesOwn_iff
    (h : (Schema.ofDocument registry settings catalog d).outcome = .ok s) (hc : c ∈ d.classes)
    (hFields : c.fields ≠ []) (hParent : given c.parent = none)
    (hMapped : c.mappedTable = some table) (hNamed : given c.keyGenerator = some name)
    (hDeclared : name ∈ d.keyGenerators.map (·.name)) :
    ∃ t g made, s.table? table = some t ∧
      KeyGeneratorDef.last? d.keyGenerators (Text.upper name) = some g ∧
      g.generator? = some made ∧
      t.keyGenerator = registry.dialect.lookup d.keyGenerators (Text.upper (Text.trim name)) ∧
      (c.IsWarnedOf (Schema.ofDocument registry settings catalog d).log ↔
        t.keyGenerator = none) ∧
      (t.keyGenerator = some made ∧
          ¬ c.IsWarnedOf (Schema.ofDocument registry settings catalog d).log ↔
        Text.trim name = name) := by
  -- the table has what the registry has under the name
  obtain ⟨t, hFind, hTable⟩ := Schema.exists_table_of_root h hc hFields hParent hMapped
  have hFollows := Document.follows_registered h
  obtain ⟨hGiven, hName⟩ := given_eq_some_iff.1 hNamed
  rw [hGiven] at hTable
  have hWarned := Schema.isWarnedOf_iff h hc hFields hMapped hNamed
  rw [← hTable] at hWarned
  rw [hFollows.get_of_ne_empty hName] at hTable
  -- the name is declared, so there is a last declaration of it
  obtain ⟨g, hLast⟩ : ∃ g, KeyGeneratorDef.last? d.keyGenerators (Text.upper name) = some g := by
    refine Option.ne_none_iff_exists'.1 fun hNone => KeyGeneratorDef.last?_eq_none_iff.1 hNone ?_
    obtain ⟨g, hg, hSame⟩ := List.mem_map.1 hDeclared
    exact List.mem_map.2 ⟨g, hg, congrArg Text.upper hSame⟩
  -- it was accepted, so it made a generator
  obtain ⟨hMem, hKey⟩ := KeyGeneratorDef.mem_of_last? hLast
  obtain ⟨made, hMade⟩ := Option.isSome_iff_exists.1 (hFollows.isSome_generator? g hMem)
  have hOwn : registry.dialect.lookup d.keyGenerators (Text.upper name) = some made := by
    rw [Dialect.lookup, hLast]
    exact hMade
  refine ⟨t, g, made, hFind, hLast, hMade, hTable, hWarned, ?_⟩
  rw [hWarned, hTable]
  constructor
  · -- a generator is known by its name, and the name that was looked for has no blanks around it
    rintro ⟨hReached, -⟩
    refine Text.upper_trim_eq_iff.1 ?_
    rw [← hFollows.name_of_lookup hReached, hFollows.name_of_lookup hOwn]
  -- without blanks the declaration is what is looked for
  · intro hTrim
    rw [hTrim, hOwn]
    exact ⟨rfl, Option.some_ne_none made⟩

end OfDocument

/-- Items have the key generator of a name, under which one is declared. -/
def Document.repeating (name : String) : Document where
  keyGenerators := [{ name, strategy := "UUID", params := [] }]
  classes :=
    [{ name := "Item"
       table := some "item"
       keyGenerator := some name
       fields := [{ name := "id", type := "integer", identity := true, columns := ["id"] }] }]

/-- Its schema in standard SQL, with default settings. -/
def Schema.ofRepeating (name : String) : Building Schema :=
  Schema.ofDocument (.initial .generic) {} (Dialect.generic.catalog {}) (.repeating name)

/-- A name without blanks around it is reached. -/
theorem Schema.reachesOwn_of_ids :
    ∃ s c t, (Schema.ofRepeating "ids").outcome = .ok s ∧ c ∈ (Document.repeating "ids").classes ∧
      s.table? "item" = some t ∧ t.keyGenerator.map (·.strategy) = some .uuid ∧
      ¬ c.IsWarnedOf (Schema.ofRepeating "ids").log := by
  obtain ⟨s, hs, -⟩ : ∃ s, (Schema.ofRepeating "ids").outcome = .ok s ∧
      s.tables.map (·.name) = ["item"] := exists_ok_of_toOption_map (by decide +kernel)
  have hc : (Document.repeating "ids").classes[0] ∈ (Document.repeating "ids").classes :=
    List.getElem_mem _
  have hNamed : given (some "ids") = some "ids" := rfl
  obtain ⟨t, g, made, hFind, hLast, hMade, -, -, hReached⟩ :=
    Schema.reachesOwn_iff hs hc (List.cons_ne_nil _ _) rfl rfl hNamed List.mem_cons_self
  -- the name has no blanks around it
  obtain ⟨hTable, hQuiet⟩ := hReached.2 (by decide +kernel)
  refine ⟨s, _, t, hs, hc, hFind, ?_, hQuiet⟩
  -- the only declaration asks for this strategy
  obtain rfl : g = ⟨"ids", "UUID", []⟩ :=
    List.mem_singleton.1 (KeyGeneratorDef.mem_of_last? hLast).1
  rw [hTable, ← hMade]
  rfl

/-- A name that is declared with a blank before it is not reached, though the class gives this very
name. -/
theorem Schema.not_reachesOwn_of_blank :
    ∃ s c t, (Schema.ofRepeating " ids").outcome = .ok s ∧
      c ∈ (Document.repeating " ids").classes ∧ c.fields ≠ [] ∧ c.parent = none ∧
      c.mappedTable = some "item" ∧ c.keyGenerator = some " ids" ∧
      " ids" ∈ (Document.repeating " ids").keyGenerators.map (·.name) ∧
      s.table? "item" = some t ∧ t.keyGenerator = none ∧
      c.IsWarnedOf (Schema.ofRepeating " ids").log := by
  obtain ⟨s, hs, -⟩ : ∃ s, (Schema.ofRepeating " ids").outcome = .ok s ∧
      s.tables.map (·.name) = ["item"] := exists_ok_of_toOption_map (by decide +kernel)
  have hc : (Document.repeating " ids").classes[0] ∈ (Document.repeating " ids").classes :=
    List.getElem_mem _
  -- the name that is looked for is none that was registered
  have hUnknown : ((Document.repeating " ids").registered (.initial .generic)).get? (some " ids") =
      none := Option.isNone_iff_eq_none.1 (by decide +kernel)
  have hNamed : given (some " ids") = some " ids" := rfl
  obtain ⟨t, hFind, hTable⟩ := Schema.exists_table_of_root hs hc (List.cons_ne_nil _ _) rfl rfl
  have hWarned :=
    (Schema.isWarnedOf_iff hs hc (List.cons_ne_nil _ _) rfl hNamed).2 hUnknown
  exact ⟨s, _, t, hs, hc, List.cons_ne_nil _ _, rfl, rfl, rfl, List.mem_cons_self, hFind,
    hTable.trans hUnknown, hWarned⟩

end MappingDdl
