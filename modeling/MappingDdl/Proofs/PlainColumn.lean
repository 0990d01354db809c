import MappingDdl.Proofs.FurtherField
import MappingDdl.Proofs.Referencing

/-!
# Plain columns — one more of them in one table

A field of a new name, with one column of a new name, is seen in the table of its class and nowhere
else. It is not an identity field, so no other class asks for it. Under its name no identity field
is declared again. No column that comes from above, no foreign key and no index can be about its
column.

Main results:

* `Blueprint.exists_addField_plain` — the field adds its column to a table, and nothing else.
* `Schema.plain_column_is_local` — the schema with the field has one more column, in one table.
-/

namespace MappingDdl

/-- A plain field that is new in the document: it is not marked as identity, no field and no
class-level identity has its name, and no field has its column. -/
structure FieldMapping.IsNewIn (f : FieldMapping) (d : Document) (catalog : TypeCatalog) :
    Prop where
  isPlain  : d.Plain catalog f
  identity : f.identity = false
  fields   : ∀ c ∈ d.classes, ∀ own ∈ c.fields, own.isNamed f.name = false
  listed   : ∀ c ∈ d.classes, ∀ name ∈ c.identity, Text.lower name ≠ Text.lower f.name
  columns  : ∀ c ∈ d.classes, ∀ own ∈ c.fields, own.columns.Disjoint f.columns

namespace FieldMapping.IsNewIn

variable {f : FieldMapping} {d : Document} {catalog : TypeCatalog} {c : ClassMapping} {i : Nat}

/-- A plain field is stored, -/
theorem isStored (hf : f.IsNewIn d catalog) : f.isStored = true := by
  obtain ⟨column, hColumn⟩ := hf.isPlain.column
  simp [FieldMapping.isStored, FieldMapping.hasColumns, FieldMapping.isManyToMany, hColumn,
    hf.isPlain.manyTable]

/-- and does not identify. -/
theorem isIdentity (hf : f.IsNewIn d catalog) (hc : c ∈ d.classes) : c.isIdentity f = false := by
  rw [ClassMapping.isIdentity]
  split
  · exact hf.identity
  · rw [ClassMapping.listsIdentity, List.any_eq_false]
    exact fun name hName hSame => hf.listed c hc name hName (eq_of_beq hSame)

/-- The field declares no identity field again. -/
theorem declaresAgainAlike (hf : f.IsNewIn d catalog) :
    d.DeclaresAgainAlike (c.swap (c.insertField i f)) := by
  refine Document.declaresAgainAlike_swap fun _ p hp own hOwn columns => ?_
  refine ClassMapping.redeclared?_insertField ?_
  have hOther := hf.fields p hp own (ClassMapping.mem_identityFields_iff.1 hOwn).1
  simp only [FieldMapping.isNamed, beq_eq_false_iff_ne] at hOther ⊢
  exact hOther.symm

end FieldMapping.IsNewIn

namespace Blueprint

variable {b : Blueprint} {c : ClassMapping} {f : FieldMapping} {t : Table}

/-- A plain field adds its column at the end of a table that does not have it, and nothing else. -/
theorem exists_addField_plain (hf : b.document.Plain b.catalog f) (hPlain : c.isIdentity f = false)
    (hNew : t.columnNames.Disjoint f.columns) (built : List Table) (relation : Relation)
    (g : Option KeyGenerator) :
    ∃ u column, (b.addField built relation c g t f).outcome = .ok u ∧ t.Inserts [column] [] u ∧
      f.columns = [column.name] ∧ b.catalog.get? f.type = .ok (some column.type) ∧
      column.identity = false ∧ column.required = f.required := by
  -- one column, of a type that the catalog has
  obtain ⟨name, hName⟩ := hf.column
  obtain ⟨type, hType⟩ := hf.type
  have hTypes : b.HasTypes f ⟨f.columns.map fun _ => type, none⟩ :=
    .declared (by simp [hf.sqlType]) hf.noClass (columnType?_eq_ok_iff.2 hType)
  let column : Column := ⟨name, type, false, f.required, g⟩
  let u : Table := { t with columns := t.columns ++ [column] }
  have hAdd : addColumns t f false g [(name, type)] = .ok u := by
    rw [hName] at hNew
    exact bind_eq_ok_iff.2
      ⟨u, Table.addColumn_eq_ok_iff.2 ⟨List.disjoint_singleton.1 hNew, rfl⟩, rfl⟩
  -- the field refers to nothing, so it is done with its column
  refine ⟨u, column, addField_eq_ok_iff.2 ⟨_, u, hTypes, ?_, Or.inl ⟨rfl, rfl⟩⟩, ?_, hName, hType,
    rfl, rfl⟩
  · rw [hPlain, hName]
    exact hAdd
  · exact ⟨⟨t.columns, [], by simp, rfl⟩, ⟨t.foreignKeys, [], by simp, by simp [u]⟩, rfl, rfl, rfl,
      rfl⟩

end Blueprint

section Schema

variable {registry : KeyGeneratorRegistry} {settings : Settings} {catalog : TypeCatalog}
  {d : Document} {s : Schema} {c : ClassMapping} {f : FieldMapping} {name : String}

/-- **A plain column is local.** A document that has a schema still has one with a new plain field
anywhere in a mapped class that has fields. The table of the class has one more column, which is no
identity column. In everything else the table is as it was, and so are all other tables. -/
theorem Schema.plain_column_is_local
    (h : (Schema.ofDocument registry settings catalog d).outcome = .ok s) (hc : c ∈ d.classes)
    (hMapped : c.mappedTable = some name) (hFields : c.fields ≠ []) (hf : f.IsNewIn d catalog)
    (i : Nat) :
    ∃ before t after u column, s.tables = before ++ t :: after ∧ t.name = name ∧
      (Schema.ofDocument registry settings catalog (d.insertField c i f)).outcome =
        .ok ⟨s.name, before ++ u :: after⟩ ∧
      t.Inserts [column] [] u ∧ f.columns = [column.name] ∧
      catalog.get? f.type = .ok (some column.type) ∧ column.identity = false ∧
      column.required = f.required := by
  -- the field is no identity field, whatever the class lists
  have hKeeps : c.KeepsIdentity f := ⟨hf.identity, fun _ => hf.isIdentity hc⟩
  obtain ⟨first, last, hSplit⟩ := List.append_of_mem hc
  obtain ⟨before, t, after, js, g, v, queued, hTables, hName, -, hTake, hNext⟩ :=
    Schema.exists_ofDocument_insertField hKeeps hf.declaresAgainAlike hFields h hSplit hMapped
  -- no field of the document has the column, so the fields before have not made it
  have hNew : v.columnNames.Disjoint f.columns := by
    rw [(Blueprint.columnNames_of_addFields hTake).2.1]
    intro column hColumn
    obtain ⟨own, hOwn, hHere⟩ := List.mem_flatMap.1 hColumn
    exact hf.columns c hc own (List.mem_of_mem_take (List.mem_of_mem_filter hOwn)) hHere
  -- the field is plain in the new document too, which has the same classes
  have hPlainThere : (d.insertField c i f).Plain catalog f := by
    refine { hf.isPlain with noClass := ?_ }
    rw [Document.insertField, (hKeeps.revision i).class?_revise, hf.isPlain.noClass]
    rfl
  have hPlain : (c.insertField i f).isIdentity f = false :=
    (ClassMapping.isIdentity_insertField hf.identity i f).trans (hf.isIdentity hc)
  -- so it adds its column where it stands
  obtain ⟨w, column, hField, hInserts, hColumns, hType, hRest⟩ := Blueprint.exists_addField_plain
    (b := (d.insertField c i f).blueprint registry catalog) hPlainThere hPlain hNew before
    .oneToOne g
  -- no other field has this column
  have hApart {p : ClassMapping} (hp : p ∈ d.classes) (own : FieldMapping) (hOwn : own ∈ p.fields) :
      own.columns.Disjoint ([column].map (·.name)) := by
    rw [List.map_singleton, ← hColumns]
    exact hf.columns p hp own hOwn
  obtain ⟨u, hs', hInserts'⟩ := hNext w [column] []
    (Blueprint.addFields_cons_eq_ok_iff.2 (Or.inr (Or.inl ⟨hf.isStored, w, hField, rfl⟩))) hInserts
    (fun own hOwn _ => hApart hc own hOwn)
    (fun _ p hp own hOwn _ => hApart (Document.toList_lineageFrom_subset hc hp) own hOwn)
  exact ⟨before, t, after, u, column, hTables, hName, hs', hInserts', hColumns, hType, hRest⟩

end Schema

/-- Items get a color. -/
def FieldMapping.color : FieldMapping :=
  { name := "color", type := "varchar(20)", columns := ["color"] }

/-- The color of an item stands in the table of items only, though an item has its identity from
above, and notes refer to items in two ways. -/
theorem Schema.color_of_sample :
    ∃ s before t after u column, Schema.ofSample.outcome = .ok s ∧
      s.tables = before ++ t :: after ∧ t.name = "item" ∧
      (Schema.ofDocument (.initial .generic) {} (Dialect.generic.catalog {})
        (Document.sample.insertField Document.sample.classes[2] 0 .color)).outcome =
          .ok ⟨s.name, before ++ u :: after⟩ ∧
      t.Inserts [column] [] u ∧ column.name = "color" ∧ column.identity = false := by
  obtain ⟨s, -, -, -, hs, -⟩ := Schema.exists_ofSample
  -- the column is new in every class of the sample
  have hNew : ∀ c ∈ Document.sample.classes, ∀ own ∈ c.fields, "color" ∉ own.columns := by decide
  have hColor : FieldMapping.color.IsNewIn .sample (Dialect.generic.catalog {}) :=
    ⟨⟨⟨"color", rfl⟩, rfl, rfl, by decide, TypeCatalog.exists_of_isSome (by decide +kernel)⟩, rfl,
      by decide, by decide, fun c hc own hOwn => List.disjoint_singleton.2 (hNew c hc own hOwn)⟩
  have hItem : Document.sample.classes[2] ∈ Document.sample.classes := List.getElem_mem _
  obtain ⟨before, t, after, u, column, hTables, hName, hs', hInserts, hColumns, -, hPlain, -⟩ :=
    Schema.plain_column_is_local hs hItem rfl (by decide) hColor 0
  exact ⟨s, before, t, after, u, column, hs, hTables, hName, hs', hInserts,
    (List.singleton_inj.1 hColumns).symm, hPlain⟩

end MappingDdl
