import Mathlib.Data.List.Dedup
import MappingDdl.Proofs.KeyTypes
import MappingDdl.Proofs.Merging
import MappingDdl.Proofs.Referencing

/-!
# Redeclaration — a key that the document does not tell

A class that declares every identity field of its parent again has a primary key of its own columns:
all of them are promoted, and none is added. References to the class are not made from its table.
They ask the document, and the document answers with the identity of the parent
(`Document.identityColumns`, `Document.identityTypes`). So the answer is right
(`Document.TellsKey`) only as far as parent and class have chosen the same columns.

Main results:

* `ClassMapping.merge_eq_of_again` — where all identity fields are declared again, all are promoted.
* `Document.identityTypes_of_extends` — a class without identity fields has the identity types of
  its parent.
* `Schema.tellsKey_iff` — when the document tells the key of such a class.
-/

namespace MappingDdl

/-- Distinct elements are as many as those of any list with the same ones, each counted once. -/
theorem length_eq_dedup_of_mem_iff {α : Type} [DecidableEq α] {l l' : List α} (hNodup : l.Nodup)
    (h : ∀ a, a ∈ l ↔ a ∈ l') : l.length = l'.dedup.length := by
  refine List.Perm.length_eq ((List.perm_ext_iff_of_nodup hNodup (List.nodup_dedup _)).2 ?_)
  intro a
  rw [h, List.mem_dedup]

/-! ## Fields that are all declared again -/

namespace ClassMapping

variable {c p : ClassMapping} {columns : List String} {fs : List FieldMapping}

/-- The fields with which a class declares the identity fields of another class again. -/
def redeclaring (c p : ClassMapping) : List FieldMapping :=
  p.identityFields.filterMap fun g => c.field? g.name

/-- Where every identity field is declared again in columns of the class, all of these are promoted,
and nothing is added. -/
theorem merge_eq_of_again (hColumns : c.columns ⊆ columns)
    (hAll : ∀ g ∈ fs, ∃ f, c.field? g.name = some f ∧ f.isStored = true) :
    c.merge columns fs =
      ⟨[], (fs.filterMap fun g => c.field? g.name).flatMap (·.columns)⟩ := by
  -- on the inherited fields; none of them adds columns to those that are there
  induction fs with
  | nil => rfl
  | cons g rest ih =>
    -- the class has a field for the first one, with columns of its own
    obtain ⟨f, hField, hStored⟩ := hAll g List.mem_cons_self
    have hMem : f ∈ c.fields := List.mem_of_find?_eq_some hField
    have hOwn : f.columns ⊆ columns := fun column hColumn =>
      hColumns (mem_columns_of_stored hMem hStored hColumn)
    have hAgain : c.redeclared? columns g = some f :=
      redeclared?_eq_some_iff.2 ⟨hField, hStored, hOwn⟩
    have hFirst : (g :: rest).filterMap (fun g => c.field? g.name) =
        f :: rest.filterMap fun g => c.field? g.name :=
      List.filterMap_cons_some hField
    rw [merge_cons_of_some hAgain, ih fun g' hg' => hAll g' (List.mem_cons_of_mem _ hg'), hFirst,
      List.flatMap_cons]

end ClassMapping

namespace Document

variable {d : Document} {c p : ClassMapping}

/-- The class `c` has no identity columns of its own and extends the class `p`, which has identity
fields. It declares each of these again, in columns of its own. -/
structure RedeclaresAll (d : Document) (c p : ClassMapping) : Prop where
  noIdentity : c.ownIdentityColumns = []
  parent     : d.Extends c p
  identity   : p.identityFields ≠ []
  again      : ∀ g ∈ p.identityFields, ∃ f, c.field? g.name = some f ∧ f.isStored = true

/-- The answers of the document about the identity of a class fit the primary key of its table: the
identity columns are those of the key, and there is one identity type for each of them. -/
structure TellsKey (d : Document) (c : ClassMapping) (t : Table) : Prop where
  columns : ∃ columns, d.identityColumns c = .ok columns ∧
              ∀ column, column ∈ columns ↔ column ∈ t.keyColumns
  types   : ∃ names, d.identityTypes c = .ok names ∧ names.length = t.keyColumns.length

/-! ## The identity of a class and of its parent -/

/-- A class without identity fields inherits those of its parent, where this has some. -/
theorem identityClass?_of_extends (hSound : d.structureProblems = []) (hc : c ∈ d.classes)
    (hNone : c.identityFields = []) (hExtends : d.Extends c p) (hSome : p.identityFields ≠ []) :
    (d.lineage c).identityClass? = some p := by
  rcases d.lineageFrom_cases (without d.classes c.name) c with
    ⟨hParent, -⟩ | ⟨parent, hParent, -⟩ | ⟨p', hExtends', -, hEq⟩ | ⟨p', hExtends', hMet, -⟩
  -- the class has a parent, and no other one
  · cases hParent.symm.trans hExtends
  · cases hParent.symm.trans hExtends
  -- so it inherits from it, or from those above
  · cases hExtends'.symm.trans hExtends
    have hHead := d.head_lineageFrom (without (without d.classes c.name) p.name) p
    rw [lineage, hEq, Lineage.identityClass?_step hNone,
      Lineage.identityClass?_of_head (hHead.symm ▸ hSome), hHead]
  · -- only the class itself was met, and it has no identity fields
    cases hExtends'.symm.trans hExtends
    have hListed : d.classes.any (·.name == p.name) = true :=
      List.any_eq_true.2 ⟨p, hExtends.mem_classes, beq_self_eq_true _⟩
    cases class_eq_of_name_eq hSound hExtends.mem_classes hc (name_eq_of_any_without hListed hMet)
    exact absurd hNone hSome

/-- The walk from a class without identity fields goes on to its parent, and takes what it finds
there. -/
theorem identityTypes_of_extends (hSound : d.structureProblems = []) (hc : c ∈ d.classes)
    (hNone : c.identityFields = []) (hExtends : d.Extends c p) {names : List String} :
    d.identityTypes c = .ok names ↔ d.identityTypes p = .ok names := by
  -- on the way up the walk takes what it finds
  have hUp : ∀ names, d.identityTypes c = .ok names → d.identityTypes p = .ok names := by
    intro names h
    cases identityTypesFrom_eq_ok_iff.1 h with
    | none _ hParent => cases hParent.symm.trans hExtends
    | parent _ hParent hNames =>
      cases hParent.symm.trans hExtends
      exact identityTypes_of_visit namedAmong_without hNames
    | own hSome => exact absurd hNone hSome
  refine ⟨hUp names, fun h => ?_⟩
  -- the parent is the only class that the walk goes on to, so it comes to an end
  have hAcc : Acc d.Next c := by
    refine Acc.intro c fun q hNext => ?_
    cases hNext with
    | parent _ hParent =>
      cases hParent.symm.trans hExtends
      exact (exists_identityTypes_iff hSound hExtends.mem_classes).1 ⟨names, h⟩
    | reference hf =>
      rw [hNone] at hf
      cases hf
  obtain ⟨names', hNames'⟩ := (exists_identityTypes_iff hSound hc).2 hAcc
  cases (hUp names' hNames').symm.trans h
  exact hNames'

/-- Where a class declares all of them again, its own columns are promoted and none are added. -/
theorem RedeclaresAll.merged_eq (h : d.RedeclaresAll c p) (hSound : d.structureProblems = [])
    (hc : c ∈ d.classes) :
    d.merged c = ⟨[], (c.redeclaring p).flatMap (·.columns)⟩ := by
  have hNone := ClassMapping.ownIdentityColumns_eq_nil_iff.1 h.noIdentity
  have hNearest := identityClass?_of_extends hSound hc hNone h.parent h.identity
  rcases merge_lineage hNone hNearest c.columns with ⟨-, hMerge⟩ | ⟨hNot, -⟩
  · rw [merged, hMerge, ClassMapping.merge_eq_of_again (List.Subset.refl _) h.again]
    rfl
  · exact absurd h.parent hNot

/-- Such a class has fields. -/
theorem RedeclaresAll.fields_ne_nil (h : d.RedeclaresAll c p) : c.fields ≠ [] := by
  obtain ⟨g, hg⟩ := List.exists_mem_of_ne_nil _ h.identity
  obtain ⟨f, hField, -⟩ := h.again g hg
  exact List.ne_nil_of_mem (List.mem_of_find?_eq_some hField)

end Document

/-! ## The key of the table -/

section Key

variable {b : Blueprint} {built : List Table} {relation : Relation} {c p : ClassMapping}
  {name : String} {js js' : List ClassMapping} {t u : Table}

/-- The primary key consists of the columns of the fields that declare the identity again. -/
theorem Document.RedeclaresAll.mem_keyColumns_iff (h : b.document.RedeclaresAll c p)
    (hSound : b.document.structureProblems = []) (hc : c ∈ b.document.classes)
    (hTable : (b.table built relation c name js).outcome = .ok (t, js')) (column : String) :
    column ∈ t.keyColumns ↔ column ∈ (c.redeclaring p).flatMap (·.columns) := by
  have hNone := ClassMapping.ownIdentityColumns_eq_nil_iff.1 h.noIdentity
  rw [Blueprint.mem_keyColumns_iff_of_table hTable h.fields_ne_nil hNone, h.merged_eq hSound hc]
  simp

/-- There are as many columns in the primary key as the declaring fields have different ones. -/
theorem Document.RedeclaresAll.length_keyColumns (h : b.document.RedeclaresAll c p)
    (hSound : b.document.structureProblems = []) (hc : c ∈ b.document.classes)
    (hTable : (b.table built relation c name js).outcome = .ok (t, js')) :
    t.keyColumns.length = ((c.redeclaring p).flatMap (·.columns)).dedup.length :=
  length_eq_dedup_of_mem_iff (Blueprint.keyed_of_table hTable).nodupKey
    (h.mem_keyColumns_iff hSound hc hTable)

/-- The identity columns of the class are those of its parent. -/
theorem Document.RedeclaresAll.identityColumns_eq (h : b.document.RedeclaresAll c p)
    (hSound : b.document.structureProblems = []) (hc : c ∈ b.document.classes)
    (hTable : (b.table built relation c name js).outcome = .ok (t, js')) :
    b.document.identityColumns c = .ok p.ownIdentityColumns := by
  have hNone := ClassMapping.ownIdentityColumns_eq_nil_iff.1 h.noIdentity
  have hNearest := identityClass?_of_extends hSound hc hNone h.parent h.identity
  rw [Blueprint.identityColumns_eq_of_table hTable h.fields_ne_nil,
    (Lineage.identity_of_identityClass? hNearest).1]
  rfl

/-- The identity types of a class with identity fields are one for each of its identity columns, as
far as it has a table; no two of these are the same. -/
theorem Blueprint.exists_identityTypes_of_own (hSound : b.document.structureProblems = [])
    (hp : p ∈ b.document.classes) (hSome : p.identityFields ≠ [])
    (hTable : (b.table built relation p name js).outcome = .ok (u, js')) :
    p.ownIdentityColumns.Nodup ∧ ∃ names, b.document.identityTypes p = .ok names ∧
      names.length = p.ownIdentityColumns.length := by
  -- with identity fields the class is where the walk ends
  have hHead : (b.document.lineage p).head = p := b.document.head_lineage p
  have hOnce : (b.document.lineage p).DeclaresIdentityOnce :=
    Lineage.declaresIdentityOnce_of_head (hHead.symm ▸ hSome)
  have hIdentity := Lineage.identity_of_head hHead hSome
  have hFields := ClassMapping.fields_ne_nil_of_identityFields hSome
  have hKey : u.keyColumns = p.ownIdentityColumns := by
    rw [keyColumns_eq_of_table hTable hFields hOnce, hIdentity]
    rfl
  obtain ⟨names, hNames⟩ :=
    exists_identityTypes_of_table hSound hp hTable hFields hOnce (hIdentity.symm ▸ hSome)
  -- the names stand for the columns of the key
  refine ⟨hKey ▸ (keyed_of_table hTable).nodupKey, names, hNames, ?_⟩
  rw [← hKey]
  exact (standsFor_of_table hTable hSome hNames).length_eq

end Key

/-- **Which redeclared keys the document tells.** A mapped class declares every identity field of
its parent again. Its primary key consists of its own columns for these fields. What the document
answers about the identity of the class fits this key exactly if the parent has the same identity
columns, and as many identity types as there are columns in the key. If the parent has a table, the
same columns are enough. -/
theorem Schema.tellsKey_iff {registry : KeyGeneratorRegistry} {settings : Settings}
    {catalog : TypeCatalog} {d : Document} {s : Schema}
    (h : (Schema.ofDocument registry settings catalog d).outcome = .ok s) {c p : ClassMapping}
    (hc : c ∈ d.classes) {name : String} (hMapped : c.mappedTable = some name)
    (hAll : d.RedeclaresAll c p) :
    ∃ t, s.table? name = some t ∧ t.columnNames = c.columns ∧
      d.identityColumns c = .ok p.ownIdentityColumns ∧
      (∀ column, column ∈ t.keyColumns ↔ column ∈ (c.redeclaring p).flatMap (·.columns)) ∧
      (d.TellsKey c t ↔
        (∀ column, column ∈ p.ownIdentityColumns ↔
          column ∈ (c.redeclaring p).flatMap (·.columns)) ∧
        ∃ names, d.identityTypes p = .ok names ∧
          names.length = ((c.redeclaring p).flatMap (·.columns)).dedup.length) ∧
      (p.mappedTable.isSome = true → (d.TellsKey c t ↔
        ∀ column, column ∈ p.ownIdentityColumns ↔
          column ∈ (c.redeclaring p).flatMap (·.columns))) := by
  have hSound := (Schema.ofDocument_eq_ok_iff.1 h).1
  obtain ⟨b, js, rfl, -, -, hBuilds⟩ := Schema.exists_builds_of_ofDocument h
  obtain ⟨t, built, js₀, js₁, hFind, hTable⟩ := hBuilds.exists_table_of_class hc hMapped
  -- the class has no identity of its own
  have hNone := ClassMapping.ownIdentityColumns_eq_nil_iff.1 hAll.noIdentity
  have hKey := hAll.mem_keyColumns_iff hSound hc hTable
  have hLength := hAll.length_keyColumns hSound hc hTable
  have hColumns := hAll.identityColumns_eq hSound hc hTable
  -- its identity types are those of its parent
  have hTypes : ∀ names,
      b.document.identityTypes c = .ok names ↔ b.document.identityTypes p = .ok names :=
    fun names => Document.identityTypes_of_extends hSound hc hNone hAll.parent
  have hIff : b.document.TellsKey c t ↔
      (∀ column, column ∈ p.ownIdentityColumns ↔
        column ∈ (c.redeclaring p).flatMap (·.columns)) ∧
      ∃ names, b.document.identityTypes p = .ok names ∧
        names.length = ((c.redeclaring p).flatMap (·.columns)).dedup.length := by
    -- both sides speak of the columns and of the types, with the key written in either way
    constructor
    · rintro ⟨⟨columns, hEq, hSame⟩, names, hNames, hCount⟩
      cases hColumns.symm.trans hEq
      exact ⟨fun column => (hSame column).trans (hKey column), names, (hTypes names).1 hNames,
        hCount.trans hLength⟩
    · rintro ⟨hSame, names, hNames, hCount⟩
      exact ⟨⟨_, hColumns, fun column => (hSame column).trans (hKey column).symm⟩, names,
        (hTypes names).2 hNames, hCount.trans hLength.symm⟩
  refine ⟨t, hFind, ?_, hColumns, hKey, hIff, fun hSome => hIff.trans
    ⟨And.left, fun hSame => ⟨hSame, ?_⟩⟩⟩
  -- nothing is added to the columns of the class
  · rw [Blueprint.columnNames_eq_of_table hTable hAll.fields_ne_nil, hAll.merged_eq hSound hc]
    exact List.append_nil _
  · -- the table of the parent tells how many identity types there are
    obtain ⟨table, hTableOf⟩ := Option.isSome_iff_exists.1 hSome
    have hp := hAll.parent.mem_classes
    obtain ⟨u, built', js₂, js₃, -, hParent⟩ := hBuilds.exists_table_of_class hp hTableOf
    obtain ⟨hNodup, names, hNames, hCount⟩ :=
      Blueprint.exists_identityTypes_of_own hSound hp hAll.identity hParent
    exact ⟨names, hNames, hCount.trans (length_eq_dedup_of_mem_iff hNodup hSame)⟩

/-- An admin and a guest extend an account and declare its identity again, an admin in a column of
the same name, a guest in one of another name. -/
def Document.logins : Document where
  classes :=
    [{ name := "Account"
       table := some "account"
       fields := [{ name := "id", type := "integer", identity := true, columns := ["id"] }] },
     { name := "Admin"
       table := some "admin"
       parent := some "Account"
       fields := [{ name := "ID", type := "integer", columns := ["id"] }] },
     { name := "Guest"
       table := some "guest"
       parent := some "Account"
       fields := [{ name := "id", type := "integer", columns := ["guest_id"] }] }]

/-- Its schema in standard SQL, with default settings. -/
def Schema.ofLogins : Building Schema :=
  Schema.ofDocument (.initial .generic) {} (Dialect.generic.catalog {}) .logins

/-- Admins and guests declare the identity of accounts again. -/
theorem Document.redeclaresAll_logins {c : ClassMapping}
    (hc : c = logins.classes[1] ∨ c = logins.classes[2]) :
    logins.RedeclaresAll c logins.classes[0] := by
  -- both classes extend the account, and an account has one identity field
  have hParent : ∀ c : ClassMapping, logins.parent c = .ok (some logins.classes[0]) →
      logins.Extends c logins.classes[0] := fun _ => id
  have hIdentity : logins.classes[0].identityFields = logins.classes[0].fields := by decide
  have hOnly : ∀ g ∈ logins.classes[0].identityFields, g = logins.classes[0].fields[0] :=
    fun g hg => List.mem_singleton.1 (by rwa [hIdentity] at hg)
  rcases hc with rfl | rfl
  -- an admin
  · refine ⟨by decide, hParent _ (by decide), by decide, fun g hg => ?_⟩
    exact hOnly g hg ▸ ⟨logins.classes[1].fields[0], by decide, by decide⟩
  -- a guest
  · refine ⟨by decide, hParent _ (by decide), by decide, fun g hg => ?_⟩
    exact hOnly g hg ▸ ⟨logins.classes[2].fields[0], by decide, by decide⟩

/-- The document tells the key of an admin. -/
theorem Schema.tellsKey_of_admin :
    ∃ s t, Schema.ofLogins.outcome = .ok s ∧ s.table? "admin" = some t ∧
      Document.logins.TellsKey Document.logins.classes[1] t := by
  obtain ⟨s, hs, -⟩ : ∃ s, Schema.ofLogins.outcome = .ok s ∧
      s.tableNames = ["account", "admin", "guest"] :=
    exists_ok_of_toOption_map (by decide +kernel)
  have hMapped : Document.logins.classes[1].mappedTable = some "admin" := by decide
  -- an admin has the same column as an account
  obtain ⟨t, hFind, -, -, -, -, hIff⟩ := Schema.tellsKey_iff hs (List.getElem_mem _) hMapped
    (Document.redeclaresAll_logins (Or.inl rfl))
  refine ⟨s, t, hs, hFind, (hIff (by decide)).2 fun column => ?_⟩
  have hSame : Document.logins.classes[0].ownIdentityColumns =
      (Document.logins.classes[1].redeclaring Document.logins.classes[0]).flatMap
        (·.columns) := by
    decide
  rw [hSame]

/-- The document does not tell the key of a guest: it answers with a column that the table does not
have. -/
theorem Schema.not_tellsKey_of_guest :
    Document.logins.RedeclaresAll Document.logins.classes[2] Document.logins.classes[0] ∧
      ∃ s t, Schema.ofLogins.outcome = .ok s ∧ s.table? "guest" = some t ∧
        t.keyColumns = ["guest_id"] ∧ t.columnNames = ["guest_id"] ∧
        Document.logins.identityColumns Document.logins.classes[2] = .ok ["id"] := by
  refine ⟨Document.redeclaresAll_logins (Or.inr rfl), ?_⟩
  let view (s : Schema) := (s.table? "guest").map fun t => (t.keyColumns, t.columnNames)
  obtain ⟨s, hs, hView⟩ : ∃ s, Schema.ofLogins.outcome = .ok s ∧
      view s = some (["guest_id"], ["guest_id"]) :=
    exists_ok_of_toOption_map (by decide +kernel)
  obtain ⟨t, hFind, hEq⟩ := Option.map_eq_some_iff.1 hView
  obtain ⟨hKey, hNames⟩ := Prod.mk.inj hEq
  exact ⟨s, t, hs, hFind, hKey, hNames, by decide +kernel⟩

end MappingDdl
