import MappingDdl.Proofs.Integrity

/-!
# Junction tables — which there are, and what they look like

Junctions are queued while the tables of classes are made, and get their own tables afterwards. The
table of a junction is made like any other one, from a class whose fields are all sides. So each of
its columns belongs to one side, and each side is one foreign key.

The sides of a junction are told apart by name, without regard to case. A side whose name is taken
is passed over, whatever class it stands for: of an association whose two sides share a name only
one half is made.

Main results:

* `Schema.tableNames_eq` — the tables of a schema, in order.
* `Schema.junction_shape` — columns, primary key and foreign keys of a junction table.
* `Schema.halves_iff` — when both halves of an association are in its junction table.
-/

namespace MappingDdl

/-! ## Names -/

/-- The tables that classes are mapped to, in the order of the document. -/
def Document.classTables (d : Document) : List String :=
  d.classes.filterMap (·.mappedTable)

/-- The junctions that the associations of a document name, each at its first occurrence. -/
def Document.junctionNames (d : Document) : List String :=
  (d.associations.filterMap (·.field.manyTable)).eraseDups

/-- The class that a name stands for in a junction: that of the first side of this name. -/
def Document.sideClass? (d : Document) (junction name : String) : Option ClassMapping :=
  ((d.sides junction).find? (·.isNamed name)).map (·.cls)

/-- Two names, different up to case, stand for the two classes in the junction. -/
def Document.KeepsApart (d : Document) (junction : String) (c r : ClassMapping) : Prop :=
  ∃ own opposite, Text.lower own ≠ Text.lower opposite ∧
    d.sideClass? junction own = some c ∧ d.sideClass? junction opposite = some r

/-- A table of the document is one that some class is mapped to. -/
theorem Document.mem_classTables_iff {d : Document} {name : String} :
    name ∈ d.classTables ↔ ∃ c ∈ d.classes, c.mappedTable = some name :=
  List.mem_filterMap

/-- The tables made from classes have the names that these are mapped to. -/
theorem Origin.map_table_ofClasses (cs : List ClassMapping) :
    (ofClasses cs).map (·.table) = cs.filterMap (·.mappedTable) := by
  rw [ofClasses, List.map_filterMap]
  refine List.filterMap_congr fun c _ => ?_
  rw [Option.map_map]
  exact Option.map_id_apply

/-- All fields of a junction identify. -/
theorem ClassMapping.IsJunction.isIdentity {j : ClassMapping} {f : FieldMapping}
    (hj : j.IsJunction) (hf : f ∈ j.fields) : j.isIdentity f = true := by
  have hMarks : j.marksIdentity = true := List.any_eq_true.2 ⟨f, hf, (hj.sides f hf).identity⟩
  rw [ClassMapping.isIdentity, if_pos hMarks]
  exact (hj.sides f hf).identity

namespace Blueprint

variable {b : Blueprint} {ts : List Table} {js : List ClassMapping}

/-- A schema has the tables of its classes and then those of its junctions. -/
theorem Builds.names_eq_append {cs : List ClassMapping}
    (h : b.Builds ts (Origin.ofClasses cs ++ js.map Origin.ofJunction)) :
    ts.map (·.name) = cs.filterMap (·.mappedTable) ++ js.map (·.name) := by
  rw [h.names_eq, List.map_append, Origin.map_table_ofClasses, List.map_map]
  rfl

/-- Where a table comes from a class, all of its foreign keys are references of that class. -/
theorem Builds.exists_class {t : Table}
    (h : b.Builds ts (Origin.ofClasses b.document.classes ++ js.map Origin.ofJunction))
    (ht : t ∈ ts) (hName : t.name ∈ b.document.classTables) :
    ∃ c ∈ b.document.classes, ∃ built js₀ js₁,
      (b.table built .oneToOne c t.name js₀).outcome = .ok (t, js₁) := by
  obtain ⟨o, ho, built, js₀, js₁, -, hTable⟩ := h.exists_origin ht
  obtain ⟨c, hc, hMapped⟩ := Document.mem_classTables_iff.1 hName
  have hOrigin : (⟨.oneToOne, c, t.name⟩ : Origin) ∈
      Origin.ofClasses b.document.classes ++ js.map Origin.ofJunction :=
    Origin.mem_append_of_class hc hMapped
  cases h.origin_eq ho hOrigin (name_of_table hTable).symm
  exact ⟨c, hc, built, js₀, js₁, hTable⟩

/-! ## The table of a junction -/

/-- The table `t` was made from the queued junction `j`, in the schema of a sound document. -/
structure JunctionTable (b : Blueprint) (junction : String) (j : ClassMapping) (t : Table) :
    Prop where
  sound      : b.document.structureProblems = []
  isJunction : j.IsJunction
  holds      : j.Holds (b.document.sides junction)
  table      : ∃ built js js', (b.table built .manyToMany j j.name js).outcome = .ok (t, js')

section JunctionTable

variable {junction : String} {j : ClassMapping} {t : Table}

/-- Fields that all identify have identity columns only. -/
theorem Lays.identity_eq_true {identity : FieldMapping → Bool} {g : Option KeyGenerator}
    {fs : List FieldMapping} {cs : List Column} (h : b.Lays identity g fs cs)
    (hAll : ∀ f ∈ fs, identity f = true) : ∀ c ∈ cs, c.identity = true := by
  intro c hc
  obtain ⟨f, hf, ft, -, hOf⟩ := h.exists_field hc
  obtain ⟨p, -, rfl⟩ := List.mem_map.1 hOf
  exact hAll f hf

/-- The table of a junction is keyed. -/
theorem JunctionTable.keyed (h : b.JunctionTable junction j t) : t.Keyed := by
  obtain ⟨built, js, js', hTable⟩ := h.table
  exact keyed_of_table hTable

/-- The table of a junction has the columns of its sides, and all of them identify. -/
theorem JunctionTable.columns_eq (h : b.JunctionTable junction j t) :
    (∀ c ∈ t.columns, c.identity = true) ∧ t.columnNames = j.fields.flatMap (·.columns) ∧
      t.keyColumns = t.columnNames := by
  have hj := h.isJunction
  obtain ⟨built, js, js', hTable⟩ := h.table
  -- a junction without sides has an empty table
  by_cases hFields : j.fields = []
  · rcases stages_of_table hTable with ⟨-, rfl⟩ | ⟨hSome, -⟩
    · rw [hFields]
      exact ⟨by simp [Table.withPrimaryKey], rfl, rfl⟩
    · exact absurd hFields hSome
  obtain ⟨g, u, w, hContributed, hInherit, hIndexes⟩ := contributed_of_table hTable hFields
  -- a junction extends nothing and has no indexes, so its fields make the whole table
  rw [Document.lineage_root (hj.parent ▸ given_none)] at hInherit
  cases hInherit
  rw [hj.indexes] at hIndexes
  cases hIndexes
  -- all fields of a junction are sides
  obtain ⟨cs, hLays, hColumns⟩ := hContributed.lays
  have hOwn : t.columns = cs := hColumns
  rw [List.filter_eq_self.2 fun f hf => (hj.sides f hf).isStored] at hLays
  have hAll : ∀ c ∈ t.columns, c.identity = true :=
    hOwn ▸ hLays.identity_eq_true fun f hf => hj.isIdentity hf
  have hOrder : t.KeyInOrder := hContributed.inOrder
  refine ⟨hAll, ?_, ?_⟩
  -- its columns are theirs, one side after the other
  · rw [Table.columnNames, hOwn, hLays.columnNames]
  -- and each of them identifies
  · rw [hOrder, Table.identityColumns, List.filter_eq_self.2 hAll]
    rfl

/-- The foreign keys of the table of a junction are those of its sides, in order. -/
theorem JunctionTable.refers (h : b.JunctionTable junction j t) :
    b.Refers .manyToMany t j.fields t.foreignKeys := by
  obtain ⟨built, js, js', hTable⟩ := h.table
  have hRefers := refers_of_table hTable
  rwa [List.filter_eq_self.2 fun f hf => (h.isJunction.sides f hf).isStored] at hRefers

/-- A side refers to the class that its name stands for. -/
theorem JunctionTable.class?_eq_some (h : b.JunctionTable junction j t) {f : FieldMapping}
    (hf : f ∈ j.fields) :
    ∃ c, b.document.class? f.type = some c ∧ b.document.sideClass? junction f.name = some c := by
  obtain ⟨s, hs, hType⟩ := h.holds.exists_side hf
  have hMem : s.cls ∈ b.document.classes :=
    Document.cls_mem_of_mem_sides (List.mem_of_find?_eq_some hs)
  refine ⟨s.cls, ?_, ?_⟩
  · rw [hType]
    exact Document.class?_eq_some h.sound hMem
  · rw [Document.sideClass?, hs]
    rfl

/-- The columns of a junction are those of its foreign keys, one key after the other. -/
theorem JunctionTable.columnNames_eq (h : b.JunctionTable junction j t) :
    t.columnNames = t.foreignKeys.flatMap (·.columns) := by
  rw [h.columns_eq.2.1]
  refine (h.refers.flatMap_columns fun f hf => ?_).symm
  obtain ⟨c, hClass, -⟩ := h.class?_eq_some hf
  exact ⟨by rw [(h.isJunction.sides f hf).sqlType]; rfl, c, hClass⟩

/-- Every foreign key was made for a side, and refers to the class that the side's name stands
for. -/
theorem JunctionTable.exists_side (h : b.JunctionTable junction j t) {k : ForeignKey}
    (hk : k ∈ t.foreignKeys) :
    ∃ f ∈ j.fields, ∃ c, b.document.sideClass? junction f.name = some c ∧
      b.Reference .manyToMany t f c k := by
  obtain ⟨f, hf, c, hReference⟩ := h.refers.exists_field hk
  obtain ⟨_, hClass, hSide⟩ := h.class?_eq_some hf
  cases hClass.symm.trans hReference.class?_eq_some
  exact ⟨f, hf, c, hSide, hReference⟩

/-- Every name that stands for a class has a foreign key that refers to it. -/
theorem JunctionTable.exists_key (h : b.JunctionTable junction j t) {side : String}
    {c : ClassMapping} (hSide : b.document.sideClass? junction side = some c) :
    ∃ f ∈ j.fields, Text.lower f.name = Text.lower side ∧
      ∃ k ∈ t.foreignKeys, b.Reference .manyToMany t f c k := by
  -- the name stands for the first side that has it
  obtain ⟨s, hs, rfl⟩ := Option.map_eq_some_iff.1 hSide
  have hMem : s.cls ∈ b.document.classes :=
    Document.cls_mem_of_mem_sides (List.mem_of_find?_eq_some hs)
  have hFirst := h.holds.first side
  -- the first side of the name has a field, and this field refers to the class
  rw [hs, Option.map_some] at hFirst
  obtain ⟨f, hFind, hType⟩ := Option.map_eq_some_iff.1 hFirst
  have hf := List.mem_of_find?_eq_some hFind
  have hNamed := List.find?_some hFind
  refine ⟨f, hf, by simpa [FieldMapping.isNamed] using hNamed, h.refers.exists_key hf ?_ ?_⟩
  -- a side has no SQL type
  · rw [(h.isJunction.sides f hf).sqlType]
    rfl
  -- its type is the class
  · rw [hType]
    exact Document.class?_eq_some h.sound hMem

/-- Foreign keys of different sides share no column, and each of them has one. -/
theorem JunctionTable.disjoint_columns (h : b.JunctionTable junction j t) {f f' : FieldMapping}
    {c c' : ClassMapping} {k k' : ForeignKey} (hf : f ∈ j.fields) (hf' : f' ∈ j.fields)
    (hk : b.Reference .manyToMany t f c k) (hk' : b.Reference .manyToMany t f' c' k') :
    k.columns.Disjoint k'.columns ↔ f ≠ f' := by
  obtain ⟨built, js, js', hTable⟩ := h.table
  have hStored := (h.isJunction.sides f hf).isStored
  rw [hk.columns, hk'.columns]
  constructor
  -- a key that shares no column with itself has none
  · rintro hApart rfl
    obtain ⟨column, hColumn⟩ :=
      List.exists_mem_of_ne_nil _ (FieldMapping.columns_ne_nil_of_isStored hStored)
    exact hApart hColumn hColumn
  -- different fields have different columns
  · exact disjoint_columns_of_table hTable hf hStored hf' (h.isJunction.sides f' hf').isStored

end JunctionTable

end Blueprint

/-! ## A document with junctions -/

/-- Posts have tags, which both classes declare, and are related to other posts. They have their
identity from a class without a table, which has an association of its own. -/
def Document.linked : Document where
  classes :=
    [{ name := "Draft"
       fields :=
         [{ name := "blog", type := "integer", identity := true, columns := ["blog"] },
          { name := "no", type := "integer", identity := true, columns := ["no"] },
          { name := "topics", type := "Tag", manyTable := some "draft_tag" }] },
     { name := "Tag"
       table := some "tag"
       fields :=
         [{ name := "id", type := "integer", identity := true, columns := ["id"] },
          { name := "posts", type := "Post", manyTable := some "post_tag" }] },
     { name := "Post"
       table := some "post"
       parent := some "Draft"
       fields :=
         [{ name := "lead", type := "Tag", columns := ["lead_tag"] },
          { name := "tags", type := "Tag", manyTable := some "post_tag" },
          { name := "related", type := "Post", manyTable := some "post_post" }] }]

/-- Its schema in standard SQL, with default settings. -/
def Schema.ofLinked : Building Schema :=
  Schema.ofDocument (.initial .generic) {} (Dialect.generic.catalog {}) .linked

/-- The schema of the linked document, as far as the results below look at it. -/
theorem Schema.exists_ofLinked :
    ∃ s post tags, Schema.ofLinked.outcome = .ok s ∧
      s.table? "post" = some post ∧ post.foreignKeys.length = 1 ∧
      s.table? "post_tag" = some tags ∧ tags.columnNames = ["tag", "post_blog", "post_no"] := by
  -- what is computed: the keys of posts, and the columns of the junction
  let view (s : Schema) :=
    ((s.table? "post").map (·.foreignKeys.length), (s.table? "post_tag").map (·.columnNames))
  obtain ⟨s, hs, hView⟩ : ∃ s, Schema.ofLinked.outcome = .ok s ∧
      view s = (some 1, some ["tag", "post_blog", "post_no"]) := by
    refine exists_ok_of_toOption_map ?_
    decide +kernel
  obtain ⟨hPost, hTags⟩ := Prod.mk.inj hView
  obtain ⟨post, hFindPost, hKeys⟩ := Option.map_eq_some_iff.1 hPost
  obtain ⟨tags, hFindTags, hColumns⟩ := Option.map_eq_some_iff.1 hTags
  exact ⟨s, post, tags, hs, hFindPost, hKeys, hFindTags, hColumns⟩

/-! ## Schemas -/

section Schema

variable {registry : KeyGeneratorRegistry} {settings : Settings} {catalog : TypeCatalog}
  {d : Document} {s : Schema}

/-- Every junction that an association names has a table, which was made from the queue. -/
theorem Schema.exists_junctionTable
    (h : (Schema.ofDocument registry settings catalog d).outcome = .ok s) {junction : String}
    (hName : junction ∈ d.junctionNames) :
    ∃ (b : Blueprint) (j : ClassMapping) (t : Table), b.document = d ∧
      s.table? junction = some t ∧ b.JunctionTable junction j t := by
  have hSound := (Schema.ofDocument_eq_ok_iff.1 h).1
  -- the association has put it into the queue
  obtain ⟨b, js, rfl, -, hQueues, hBuilds⟩ := Schema.exists_queues_of_ofDocument h
  have hQueued : junction ∈ js.map (·.name) := by
    rw [hQueues.names_eq]
    exact hName
  obtain ⟨j, hj, rfl⟩ := List.mem_map.1 hQueued
  have hOrigin : Origin.ofJunction j ∈
      Origin.ofClasses b.document.classes ++ js.map Origin.ofJunction :=
    List.mem_append_right _ (List.mem_map_of_mem hj)
  -- and the queue has been built
  obtain ⟨t, built, js₀, js₁, hFind, hTable⟩ := hBuilds.exists_table hOrigin
  exact ⟨b, j, t, rfl, hFind, hSound, hQueues.isJunction j hj, hQueues.holds j hj, built, js₀, js₁,
    hTable⟩

/-- **The tables of a schema.** They are those of the mapped classes in the order of the document,
and then the junctions in the order in which associations first name them. No name occurs twice. -/
theorem Schema.tableNames_eq
    (h : (Schema.ofDocument registry settings catalog d).outcome = .ok s) :
    s.tableNames = d.classTables ++ d.junctionNames ∧ s.tableNames.Nodup := by
  obtain ⟨b, js, rfl, -, hQueues, hBuilds⟩ := Schema.exists_queues_of_ofDocument h
  refine ⟨?_, hBuilds.nodup_names⟩
  have hNames := hBuilds.names_eq_append
  rw [hQueues.names_eq] at hNames
  exact hNames

/-- The junction of posts and tags is there once, and what a post inherits makes none. -/
theorem Schema.tableNames_of_linked :
    ∃ s, Schema.ofLinked.outcome = .ok s ∧
      s.tableNames = ["tag", "post", "post_tag", "post_post"] ∧ s.tableNames.Nodup := by
  obtain ⟨s, -, -, hs, -⟩ := Schema.exists_ofLinked
  obtain ⟨hNames, hNodup⟩ := Schema.tableNames_eq hs
  refine ⟨s, hs, hNames.trans ?_, hNodup⟩
  decide

/-- **The shape of a junction table.** All of its columns identify, and they are the primary key.
They are the columns of its foreign keys, one key after the other, so that each column belongs to
one of them. Each foreign key refers to the identity of a mapped class. The foreign keys of all
other tables are references of classes. -/
theorem Schema.junction_shape
    (h : (Schema.ofDocument registry settings catalog d).outcome = .ok s)
    {t : Table} (ht : t ∈ s.tables) :
    (t.name ∈ d.junctionNames →
      (∀ c ∈ t.columns, c.identity = true) ∧
      t.primaryKey.map (·.columns) = some t.columnNames ∧
      (∀ k ∈ t.foreignKeys, k.relation = .manyToMany) ∧
      t.columnNames = t.foreignKeys.flatMap (·.columns) ∧
      (∀ column ∈ t.columnNames, ∃! k, k ∈ t.foreignKeys ∧ column ∈ k.columns) ∧
      ∀ k ∈ t.foreignKeys, ∃ r ∈ d.classes, r.mappedTable = some k.referenceTable ∧
        d.identityColumns r = .ok k.referenceColumns) ∧
    (t.name ∈ d.classTables → ∀ k ∈ t.foreignKeys, k.relation = .oneToOne) := by
  obtain ⟨b₀, js₀, -, -, -, hBuilds₀⟩ := Schema.exists_queues_of_ofDocument h
  -- a junction is in the queue of associations, any other table comes from its class
  refine ⟨fun hName => ?_, fun hName k hk => ?_⟩
  · obtain ⟨b, j, t', rfl, hFind, hJunction⟩ := Schema.exists_junctionTable h hName
    cases hFind.symm.trans (find?_of_nodup_map hBuilds₀.nodup_names ht)
    have hConcat := hJunction.columnNames_eq
    refine ⟨hJunction.columns_eq.1, ?_, fun k hk => ?_, hConcat, fun column hColumn => ?_,
      fun k hk => ?_⟩
    -- its primary key has all of its columns
    · rw [hJunction.keyed.key, hJunction.columns_eq.2.2]
      rfl
    -- its foreign keys are those of its sides
    · obtain ⟨f, -, c, -, hReference⟩ := hJunction.exists_side hk
      exact hReference.relation
    · -- the columns of the foreign keys are distinct, so no two of them share one
      obtain ⟨k, hk, hIn⟩ := List.mem_flatMap.1 (hConcat ▸ hColumn)
      refine ⟨k, ⟨hk, hIn⟩, ?_⟩
      rintro k' ⟨hk', hIn'⟩
      have hNodup : (t.foreignKeys.flatMap (·.columns)).Nodup :=
        hConcat ▸ hJunction.keyed.nodupNames
      exact eq_of_mem_flatMap hNodup hk' hk hIn' hIn
    -- a side refers to the identity of its class
    · obtain ⟨f, hf, r, -, hReference⟩ := hJunction.exists_side hk
      have hIdentity := hReference.key
      rw [if_pos (hJunction.isJunction.sides f hf).manyKey] at hIdentity
      exact ⟨r, List.mem_of_find?_eq_some hReference.class?_eq_some, hReference.table, hIdentity⟩
  -- the table of a class has the foreign keys of its fields
  · obtain ⟨b, js, rfl, -, -, hBuilds⟩ := Schema.exists_queues_of_ofDocument h
    obtain ⟨c, -, built, js₀, js₁, hTable⟩ := hBuilds.exists_class ht hName
    obtain ⟨f, -, -, r, hReference⟩ := Blueprint.references_of_table hTable hk
    exact hReference.relation

/-- The junction of posts and tags, and the reference of a post to its first tag. -/
theorem Schema.shape_of_linked :
    ∃ s post tags, Schema.ofLinked.outcome = .ok s ∧ post ∈ s.tables ∧ tags ∈ s.tables ∧
      tags.columnNames = ["tag", "post_blog", "post_no"] ∧
      (∀ c ∈ tags.columns, c.identity = true) ∧
      tags.primaryKey.map (·.columns) = some ["tag", "post_blog", "post_no"] ∧
      tags.foreignKeys.flatMap (·.columns) = ["tag", "post_blog", "post_no"] ∧
      (∀ k ∈ tags.foreignKeys, k.relation = .manyToMany) ∧
      post.foreignKeys.length = 1 ∧ ∀ k ∈ post.foreignKeys, k.relation = .oneToOne := by
  obtain ⟨s, post, tags, hs, hPost, hKeys, hTags, hColumns⟩ := Schema.exists_ofLinked
  have hMemPost := List.mem_of_find?_eq_some hPost
  have hMemTags := List.mem_of_find?_eq_some hTags
  have hJunction : tags.name ∈ Document.linked.junctionNames := by
    rw [Schema.name_of_table? hTags]
    decide
  have hClass : post.name ∈ Document.linked.classTables := by
    rw [Schema.name_of_table? hPost]
    decide
  -- one of the tables is a junction, and the other one is not
  obtain ⟨hIdentity, hKey, hMany, hConcat, -⟩ := (Schema.junction_shape hs hMemTags).1 hJunction
  have hOne := (Schema.junction_shape hs hMemPost).2 hClass
  rw [hColumns] at hKey hConcat
  exact ⟨s, post, tags, hs, hMemPost, hMemTags, hColumns, hIdentity, hKey, hConcat.symm, hMany,
    hKeys, hOne⟩

/-- **The two halves of an association.** Its junction table has a foreign key for each of its two
classes, on different columns, exactly if different names stand for the two classes there. -/
theorem Schema.halves_iff
    (h : (Schema.ofDocument registry settings catalog d).outcome = .ok s)
    {c : ClassMapping} (hc : c ∈ d.classes) {table : String} (hMapped : c.mappedTable = some table)
    {f : FieldMapping} (hf : f ∈ c.fields) {junction : String}
    (hJunction : f.manyTable = some junction) :
    ∃ t r related, s.table? junction = some t ∧ d.class? f.type = some r ∧
      r.mappedTable = some related ∧
      ((∃ k ∈ t.foreignKeys, ∃ k' ∈ t.foreignKeys, k ≠ k' ∧ k.columns.Disjoint k'.columns ∧
          k.referenceTable = table ∧ k'.referenceTable = related) ↔
        d.KeepsApart junction c r) := by
  obtain ⟨b₀, js, rfl, -, hQueues, hBuilds⟩ := Schema.exists_queues_of_ofDocument h
  -- the association is queued, so its junction and the other class are there
  have hMany : f.isManyToMany = true := by
    rw [FieldMapping.isManyToMany, hJunction]
    rfl
  have ha : (⟨c, f⟩ : Association) ∈ b₀.document.associations :=
    Document.mem_associations_iff.2 ⟨hc, by rw [hMapped]; rfl, hf, hMany⟩
  have hName : junction ∈ b₀.document.junctionNames :=
    List.mem_eraseDups.2 (List.mem_filterMap.2 ⟨_, ha, hJunction⟩)
  obtain ⟨r, related, hClass, hRelated⟩ := hQueues.exists_related ha
  have hr : r ∈ b₀.document.classes := List.mem_of_find?_eq_some hClass
  obtain ⟨b, j, t, hDocument, hFind, hTable⟩ := Schema.exists_junctionTable h hName
  refine ⟨t, r, related, hFind, hClass, hRelated, ?_, ?_⟩
  · -- each of the two keys was made for a side, which refers to the class of the table
    rintro ⟨k, hk, k', hk', -, hApart, rfl, rfl⟩
    -- the side of the class that declares the association
    obtain ⟨g, hg, q, hOwn, hReference⟩ := hTable.exists_side hk
    -- and the opposite one
    obtain ⟨g', hg', q', hOpposite, hReference'⟩ := hTable.exists_side hk'
    have hMem := List.mem_of_find?_eq_some hReference.class?_eq_some
    have hMem' := List.mem_of_find?_eq_some hReference'.class?_eq_some
    rw [hDocument] at hMem hMem' hOwn hOpposite
    cases hBuilds.class_eq hMem hc hReference.table hMapped
    cases hBuilds.class_eq hMem' hr hReference'.table hRelated
    refine ⟨g.name, g'.name, fun hSame => ?_, hOwn, hOpposite⟩
    -- sides of one name are one side, whose columns are not disjoint from themselves
    exact (hTable.disjoint_columns hg hg' hReference hReference').1 hApart
      (List.inj_on_of_nodup_map hTable.holds.distinct hg hg' hSame)
  · rintro ⟨own, opposite, hNe, hOwn, hOpposite⟩
    rw [← hDocument] at hOwn hOpposite
    obtain ⟨g, hg, hName, k, hk, hReference⟩ := hTable.exists_key hOwn
    obtain ⟨g', hg', hName', k', hk', hReference'⟩ := hTable.exists_key hOpposite
    -- different names are those of different sides, which share no column
    have hOther : g ≠ g' := by
      rintro rfl
      exact hNe (hName.symm.trans hName')
    have hApart := (hTable.disjoint_columns hg hg' hReference hReference').2 hOther
    refine ⟨k, hk, k', hk', ?_, hApart, ?_, ?_⟩
    · rintro rfl
      exact (hTable.disjoint_columns hg hg hReference hReference).1 hApart rfl
    -- the tables are those to which the two classes are mapped
    · exact Option.some.inj (hReference.table.symm.trans hMapped)
    · exact Option.some.inj (hReference'.table.symm.trans hRelated)

/-- Related posts are kept apart by the name of the field, so both halves refer to posts. -/
theorem Schema.halves_of_linked :
    ∃ s t, Schema.ofLinked.outcome = .ok s ∧ s.table? "post_post" = some t ∧
      ∃ k ∈ t.foreignKeys, ∃ k' ∈ t.foreignKeys, k ≠ k' ∧ k.columns.Disjoint k'.columns ∧
        k.referenceTable = "post" ∧ k'.referenceTable = "post" := by
  obtain ⟨s, -, -, hs, -⟩ := Schema.exists_ofLinked
  have hPost : Document.linked.classes[2] ∈ Document.linked.classes := List.getElem_mem _
  have hMapped : Document.linked.classes[2].mappedTable = some "post" := by decide
  have hRelation : Document.linked.classes[2].fields[2] ∈ Document.linked.classes[2].fields :=
    List.getElem_mem _
  have hTable : Document.linked.classes[2].fields[2].manyTable = some "post_post" := rfl
  obtain ⟨t, r, related, hFind, hClass, hRelated, hHalves⟩ :=
    Schema.halves_iff hs hPost hMapped hRelation hTable
  -- the class is related to itself, under the name of the field
  obtain rfl : Document.linked.classes[2] = r := by
    refine Option.some.inj (Eq.trans ?_ hClass)
    decide
  obtain rfl : "post" = related := by
    refine Option.some.inj (Eq.trans ?_ hRelated)
    decide
  refine ⟨s, t, hs, hFind, hHalves.2 ⟨"post", "related", ?_, ?_, ?_⟩⟩
  · decide
  · decide
  · decide

/-- An edge leads from a node to a node. The field has the name of the table, but for its case. -/
def Document.looped : Document where
  classes :=
    [{ name := "Node"
       table := some "node"
       fields :=
         [{ name := "id", type := "integer", identity := true, columns := ["id"] },
          { name := "Node", type := "Node", columns := ["target_id"], manyTable := some "edge"
            manyKey := ["source_id"] }] }]

/-- Its schema in standard SQL, with default settings. -/
def Schema.ofLooped : Building Schema :=
  Schema.ofDocument (.initial .generic) {} (Dialect.generic.catalog {}) .looped

/-- The table of edges has no target: the second side has the name of the first one. -/
theorem Schema.half_of_looped :
    ∃ s t, Schema.ofLooped.outcome = .ok s ∧ s.table? "edge" = some t ∧
      t.columnNames = ["source_id"] ∧
      t.foreignKeys = [⟨"edge_node", .manyToMany, ["source_id"], "node", ["id"]⟩] ∧
      ¬ ∃ k ∈ t.foreignKeys, ∃ k' ∈ t.foreignKeys, k ≠ k' ∧ k.columns.Disjoint k'.columns ∧
        k.referenceTable = "node" ∧ k'.referenceTable = "node" := by
  -- what is computed: one column and one key
  let view (s : Schema) := (s.table? "edge").map fun t => (t.columnNames, t.foreignKeys)
  obtain ⟨s, hs, hView⟩ : ∃ s, Schema.ofLooped.outcome = .ok s ∧ view s =
      some (["source_id"], [⟨"edge_node", .manyToMany, ["source_id"], "node", ["id"]⟩]) := by
    refine exists_ok_of_toOption_map ?_
    decide +kernel
  obtain ⟨t, hFind, hTable⟩ := Option.map_eq_some_iff.1 hView
  obtain ⟨hColumns, hKeys⟩ := Prod.mk.inj hTable
  refine ⟨s, t, hs, hFind, hColumns, hKeys, ?_⟩
  -- so there are no two keys
  rintro ⟨k, hk, k', hk', hNe, -⟩
  rw [hKeys, List.mem_singleton] at hk hk'
  exact hNe (hk.trans hk'.symm)

end Schema

end MappingDdl
