import Mathlib.Data.List.Forall2
import MappingDdl.Mapping.Validation
import MappingDdl.Mapping.Written

/-!
# Validating again — a document is what validation makes of it

Validation is lenient: several values stand for one document. Of all of them one is special, the
value of the document itself, with every entry written out. Validation accepts it and leaves it as
it is. So validation is a projection onto documents, and a later step never has to know how a
document was spelled.

Which values are taken for others is left open. All that is used of the coercions is that they leave
alone what needs none, and that no two parameters have one name (`Coercions.Lawful`).

That a check projects (`Checked.Projects`) is shown for the checks of single entries first, and
goes over to lists and records. The short forms of a document (a text for a list of one, null for
no texts, no strategy for the name of a key generator) are a relation of values, one for each kind
of record.

Main results:

* `Coercions.lawful_lax` — the coercions of a lenient validation are lawful.
* `Validation.projects_document` — validation accepts the value of a document, and gives it back.
* `Validation.document_congr` — short forms and long forms are validated alike, with the same
  problems where there are any.
* `Document.validation_projects` — both, for documents that are accepted.
-/

namespace MappingDdl

/-! ## Results without problems -/

namespace Checked

variable {α β γ : Type} {x : Checked α} {a : α} {b : β}

/-- A result stays without problems where it is changed. -/
theorem map_ok {f : α → β} (hx : x = ok a) : map f x = ok (f a) := by
  rw [hx]
  rfl

/-- So it does where a function without problems is applied to it. -/
theorem ap_ok {f : Checked (α → β)} {g : α → β} (hf : f = ok g) (hx : x = ok a) :
    ap f x = ok (g a) := by
  rw [hf, hx]
  rfl

/-- A changed result has no problems only if the result has none. -/
theorem map_eq_ok_iff {f : α → β} : map f x = ok b ↔ ∃ a, x = ok a ∧ f a = b := by
  obtain ⟨value, problems⟩ := x
  cases value <;> simp [map, ok, and_comm]

/-- No problems are lost where a function is applied: neither part has any. -/
theorem ap_eq_ok_iff {f : Checked (α → β)} :
    ap f x = ok b ↔ ∃ g a, f = ok g ∧ x = ok a ∧ g a = b := by
  obtain ⟨value, problems⟩ := x
  obtain ⟨value', problems'⟩ := f
  constructor
  · intro h
    obtain ⟨hValue, hProblems⟩ := Checked.mk.inj h
    obtain ⟨g, hg, hMap⟩ := Option.bind_eq_some_iff.1 hValue
    obtain ⟨a, ha, hApply⟩ := Option.map_eq_some_iff.1 hMap
    obtain ⟨hFirst, hSecond⟩ := List.append_eq_nil_iff.1 hProblems
    exact ⟨g, a, congrArg₂ mk hg hFirst, congrArg₂ mk ha hSecond, hApply⟩
  · rintro ⟨g, a, hf, hx, rfl⟩
    exact ap_ok hf hx

/-- The same for two checks that are combined. -/
theorem map₂_eq_ok_iff {f : α → β → γ} {y : Checked β} {c : γ} :
    map₂ f x y = ok c ↔ ∃ a b, x = ok a ∧ y = ok b ∧ f a b = c := by
  rw [map₂, ap_eq_ok_iff]
  constructor
  · rintro ⟨g, b, hg, hb, rfl⟩
    obtain ⟨a, ha, rfl⟩ := map_eq_ok_iff.1 hg
    exact ⟨a, b, ha, hb, rfl⟩
  · rintro ⟨a, b, ha, hb, rfl⟩
    exact ⟨f a, b, map_eq_ok_iff.2 ⟨a, ha, rfl⟩, hb, rfl⟩

/-- Being within something more says nothing of a value that has no problem. -/
theorem within_eq_ok_iff {step : PathStep} : x.within step = ok a ↔ x = ok a := by
  obtain ⟨value, problems⟩ := x
  simp [within, ok]

/-- What is accepted is exactly what was checked without a problem. -/
theorem toExcept_eq_ok_iff {title : String} : x.toExcept title = .ok a ↔ x = ok a := by
  obtain ⟨value, problems⟩ := x
  cases value <;> cases problems <;> simp [toExcept, ok]

/-- The items of a list are accepted one by one. -/
theorem items_eq_ok_iff {check : Value → Checked α} {i : Int} {vs : List Value} {as : List α} :
    items check i vs = ok as ↔ List.Forall₂ (fun v a => check v = ok a) vs as := by
  induction vs generalizing i as with
  | nil => cases as <;> simp [items, ok]
  | cons v rest ih =>
    rw [items, map₂_eq_ok_iff]
    constructor
    · rintro ⟨a, as', ha, has', rfl⟩
      exact .cons (within_eq_ok_iff.1 ha) (ih.1 has')
    · intro h
      cases h with
      | cons ha hRest => exact ⟨_, _, within_eq_ok_iff.2 ha, ih.2 hRest, rfl⟩

/-- A list is checked alike if its items are replaced by others that are checked alike. -/
theorem items_congr {check : Value → Checked α} {R : Value → Value → Prop} {i : Int}
    {vs ws : List Value} (hCheck : ∀ v w, R v w → check w = check v) (h : List.Forall₂ R vs ws) :
    items check i ws = items check i vs := by
  induction h generalizing i with
  | nil => rfl
  | cons hFirst _ ih => rw [items, items, hCheck _ _ hFirst, ih]

/-- A check is a projection: what it accepts is accepted again, as it is written. -/
def Projects (check : Value → Checked α) (write : α → Value) : Prop :=
  ∀ v a, check v = ok a → check (write a) = ok a

end Checked

/-- The entries of a mapping with texts as keys. -/
abbrev Validation.written (fields : List (String × Value)) : List (Value × Value) :=
  fields.map fun f => (.str f.1, f.2)

/-! ## Coercions -/

namespace Coercions

open Checked Validation

/-- What every validation keeps to, lenient or not: a text, a truth value, a list and a record stand
for themselves, and so do parameters with different names. There are no others. -/
structure Lawful (c : Coercions) : Prop where
  text_str : ∀ s, c.text (.str s) = ok s
  bool_bool : ∀ b, c.bool (.bool b) = ok b
  items_list : ∀ vs, c.items (.list vs) = some vs
  entries_map : ∀ es, c.entries (.map es) = some es
  nodup_of_params : ∀ {v ps}, c.params v = ok ps → (ps.map (·.1)).Nodup
  params_written : ∀ {ps : List (String × Value)}, (ps.map (·.1)).Nodup →
    c.params (.map (written ps)) = ok ps

/-- Entries of which each is put in front under its key have different keys. -/
theorem Lax.nodup_of_paramEntries {es : List (Value × Value)} {ps : List (String × Value)}
    (h : paramEntries es = ok ps) : (ps.map (·.1)).Nodup := by
  induction es generalizing ps with
  | nil =>
    cases h
    -- neither entry has a problem, so both give something
    exact List.nodup_nil
  | cons e rest ih =>
    rw [paramEntries, map₂_eq_ok_iff] at h
    obtain ⟨key, others, -, hOthers, rfl⟩ := h
    rw [consParam, List.map_cons, List.nodup_cons]
    constructor
    -- the entries of the same key behind the first one have given way to it
    · intro hMem
      obtain ⟨p, hp, hKey⟩ := List.mem_map.1 hMem
      obtain ⟨-, hNe⟩ := List.mem_filter.1 hp
      simp [hKey] at hNe
    · exact (ih hOthers).sublist (List.filter_sublist.map _)

/-- Nothing is lost of entries that have different keys already. -/
theorem Lax.paramEntries_written {ps : List (String × Value)} (h : (ps.map (·.1)).Nodup) :
    paramEntries (written ps) = ok ps := by
  induction ps with
  | nil => rfl
  | cons p rest ih =>
    obtain ⟨hNew, hRest⟩ := List.nodup_cons.1 h
    -- the first key is nowhere in the rest, so it takes nothing away there
    have hAll : rest.filter (·.1 != p.1) = rest := by
      refine List.filter_eq_self.2 fun q hq => ?_
      have hNe : q.1 ≠ p.1 := fun hSame => hNew (List.mem_map.2 ⟨q, hq, hSame⟩)
      simpa using hNe
    -- nor is there anything for it to be put in the place of
    have hNone : rest.lookup p.1 = none := by
      rw [List.lookup_eq_none_iff]
      intro q hq
      have hNe : p.1 ≠ q.1 := fun hSame => hNew (List.mem_map.2 ⟨q, hq, hSame.symm⟩)
      simpa using hNe
    rw [written, List.map_cons, paramEntries, map₂_eq_ok_iff]
    refine ⟨p.1, rest, rfl, ih hRest, ?_⟩
    rw [consParam, hNone, hAll]
    rfl

/-- The coercions of a lenient validation are lawful. -/
theorem lawful_lax : Coercions.lax.Lawful where
  text_str _ := rfl
  bool_bool _ := rfl
  items_list _ := rfl
  entries_map _ := rfl
  nodup_of_params {v ps} h := by
    cases v with
    | map es => exact Lax.nodup_of_paramEntries h
    | _ => cases h
  params_written := Lax.paramEntries_written

end Coercions

namespace Validation

open Checked Value

/-! ## Entries -/

section Entries

variable {α : Type} {es : List (Value × Value)} {fields : List (String × Value)} {key : String}
  {default : Option α} {check : Value → Checked α} {write : α → Value} {a : α} {v : Value}

/-- What two mappings give for a key is related, if it is the same. -/
theorem rel_of_eq {α : Type} {x y : Option α} (h : y = x) : Option.Rel Eq x y := by
  rw [h]
  cases x with
  | none => exact .none
  | some a => exact .some rfl

/-- A text is a key of its own. -/
theorem eq_str_of_sameKey {v : Value} {key : String} (h : v.sameKey (.str key) = true) :
    v = .str key := by
  cases v with
  | str s => exact congrArg str (beq_iff_eq.1 h)
  | float f =>
    -- a number is never the same key as a text
    have hNone : (str key).fraction? = none := rfl
    simp only [sameKey, hNone] at h
    split at h <;> simp_all
  | _ => simp [sameKey, fraction?] at h

/-- A mapping that is written from fields gives for a key what the fields do. -/
theorem lookup_written (fields : List (String × Value)) (key : String) :
    lookup (written fields) key = fields.lookup key := by
  induction fields with
  | nil => rfl
  | cons f rest ih =>
    rw [lookup, written, List.map_cons, List.find?_cons, List.lookup_cons]
    by_cases hKey : f.1 = key
    -- the first field is the one that is looked up in both
    · simp [sameKey, hKey]
    · have hOther : (key == f.1) = false := beq_false_of_ne (Ne.symm hKey)
      simp only [sameKey, beq_false_of_ne hKey, hOther]
      -- otherwise both look further
      exact ih

/-- An entry is what its check makes of the field that is written for it. -/
theorem entry_of_lookup (hLookup : fields.lookup key = some v) (h : check v = ok a) :
    entry (written fields) key default check = ok a := by
  unfold entry
  rw [lookup_written, hLookup]
  exact within_eq_ok_iff.2 h

/-- What an entry gives, or the default for it, is accepted as it is written. -/
theorem check_of_entry (h : entry es key default check = ok a) (hCheck : Projects check write)
    (hDefault : ∀ d ∈ default, check (write d) = ok d) : check (write a) = ok a := by
  unfold entry at h
  rw [within_eq_ok_iff] at h
  cases hLookup : lookup es key with
  -- the entry was there, and its check speaks for itself
  | some v =>
    rw [hLookup] at h
    exact hCheck v a h
  -- it was not, and only a default can have been given
  | none =>
    rw [hLookup] at h
    cases default with
    | some d =>
      cases h
      exact hDefault a rfl
    | none => cases h

/-- An entry that must be there gives the same again where it is written out. -/
theorem entry_written (h : entry es key none check = ok a) (hCheck : Projects check write)
    (hLookup : fields.lookup key = some (write a)) : entry (written fields) key none check = ok a :=
  entry_of_lookup hLookup (check_of_entry h hCheck nofun)

/-- So does one that has a default. -/
theorem entry_written_of_default {d : α} (h : entry es key (some d) check = ok a)
    (hCheck : Projects check write) (hDefault : check (write d) = ok d)
    (hLookup : fields.lookup key = some (write a)) :
    entry (written fields) key (some d) check = ok a := by
  refine entry_of_lookup hLookup (check_of_entry h hCheck fun d' hd => ?_)
  cases hd
  exact hDefault

/-- An entry is validated alike in two mappings if its check does not tell the values apart. -/
theorem entry_congr {R : Value → Value → Prop} {es' : List (Value × Value)}
    (hCheck : ∀ v w, R v w → check w = check v)
    (h : Option.Rel R (lookup es key) (lookup es' key)) :
    entry es' key default check = entry es key default check := by
  unfold entry
  generalize lookup es key = old, lookup es' key = new at h
  cases h with
  | some hRel => exact congrArg (within (.name key)) (hCheck _ _ hRel)
  | none => rfl

/-- An entry does not tell mappings apart that give the same for its key. -/
theorem entry_congr_of_eq {es' : List (Value × Value)}
    (h : Option.Rel Eq (lookup es key) (lookup es' key)) :
    entry es' key default check = entry es key default check :=
  entry_congr (fun _ _ hSame => congrArg check hSame.symm) h

end Entries

/-! ## Checks of single entries -/

section Projections

variable {c : Coercions} (hc : c.Lawful)

/-- A name has at least one character. -/
theorem ne_empty_of_name {v : Value} {s : String} (h : name c v = ok s) : s ≠ "" := by
  rintro rfl
  rw [name] at h
  split at h
  · split at h
    · cases h
    · next hNot => exact hNot (Option.some.inj (congrArg Checked.value h))
  · next hOther => exact hOther _ _ h

include hc

/-- A name that was accepted is not empty, and is accepted as it is. -/
theorem projects_name : Projects (name c) .str := by
  intro v s h
  have hSome : s ≠ "" := ne_empty_of_name h
  simp [name, hc.text_str, Checked.ok, hSome]

/-- A text or nothing is accepted as what it is. -/
theorem projects_textOrNull : Projects (textOrNull c) ofText? := by
  intro v s _
  cases s with
  | none => rfl
  | some s =>
    change map some (c.text (.str s)) = _
    rw [hc.text_str, map_ok rfl]

/-- A truth value is accepted as what it is. -/
theorem projects_bool : Projects c.bool .bool := fun _ b _ => hc.bool_bool b

/-- Texts in a list are accepted as they are. -/
theorem texts_ofTexts (xs : List String) : texts c (ofTexts xs) = ok xs := by
  change list c c.text (.list (xs.map .str)) = _
  rw [list, hc.items_list, items_eq_ok_iff, List.forall₂_map_left_iff]
  exact List.forall₂_same.2 fun s _ => hc.text_str s

/-- Texts are accepted as what they are, from a list. -/
theorem projects_texts : Projects (texts c) ofTexts := fun _ xs _ => texts_ofTexts hc xs

/-- Texts of which there has to be one are accepted from a list. -/
theorem projects_someTexts : Projects (someTexts c) ofTexts := by
  intro v xs h
  rw [someTexts, texts_ofTexts hc]
  cases xs with
  | cons x rest => rfl
  | nil =>
    -- no texts at all are never accepted
    rw [someTexts] at h
    split at h
    · cases h
    · next hOther => exact absurd h hOther

/-- Parameters are accepted as what they are, since their keys are different. -/
theorem projects_params : Projects c.params ofFields :=
  fun _ _ h => hc.params_written (hc.nodup_of_params h)

/-! ## Lists and records -/

/-- No items are a list, too. -/
theorem list_nil {α : Type} {item : Value → Checked α} : list c item (.list []) = ok [] := by
  rw [list, hc.items_list]
  rfl

/-- A list of what is accepted is accepted as the list of what each item is written as. -/
theorem projects_list {α : Type} {item : Value → Checked α} {write : α → Value}
    (h : Projects item write) : Projects (list c item) fun as => .list (as.map write) := by
  intro v as hList
  rw [list] at hList
  split at hList
  · next hItems =>
    have hChecked := items_eq_ok_iff.1 hList
    rw [list, hc.items_list, items_eq_ok_iff, List.forall₂_map_left_iff]
    clear hItems hList
    -- the items are gone through together with what they were checked to be
    induction hChecked with
    | nil => exact .nil
    | cons ha _ ih => exact .cons (h _ _ ha) ih
  · cases hList

/-- A record that is accepted is accepted as its fields are written. -/
theorem projects_record {α : Type} {check : List (Value × Value) → Checked α}
    {fields : α → List (String × Value)}
    (h : ∀ es a, check es = ok a → check (written (fields a)) = ok a) :
    Projects (record c check) fun a => ofFields (fields a) := by
  intro v a hRecord
  rw [record] at hRecord
  split at hRecord
  · next es hEntries =>
    change record c check (.map (written (fields a))) = _
    rw [record, hc.entries_map]
    exact h es a hRecord
  · cases hRecord

/-- A field that was accepted is accepted as it is written, with all its defaults. -/
theorem projects_field : Projects (record c (field c)) FieldMapping.toValue := by
  refine projects_record hc fun es f h => ?_
  simp only [field, ap_eq_ok_iff, map_eq_ok_iff] at h
  obtain ⟨_, manyKey, h, hManyKey, rfl⟩ := h
  obtain ⟨_, manyTable, h, hManyTable, rfl⟩ := h
  obtain ⟨_, sqlType, h, hSqlType, rfl⟩ := h
  obtain ⟨_, columns, h, hColumns, rfl⟩ := h
  obtain ⟨_, required, h, hRequired, rfl⟩ := h
  obtain ⟨_, identity, h, hIdentity, rfl⟩ := h
  obtain ⟨_, type, h, hType, rfl⟩ := h
  obtain ⟨name, hName, rfl⟩ := h
  have hNames := projects_name hc
  have hTexts := projects_texts hc
  have hText := projects_textOrNull hc
  have hBool := projects_bool hc
  -- what was read entry by entry is written entry by entry, in the same order
  refine ap_ok (ap_ok (ap_ok (ap_ok (ap_ok (ap_ok (ap_ok (map_ok ?_) ?_) ?_) ?_) ?_) ?_) ?_) ?_
  · exact entry_written hName hNames rfl
  · exact entry_written hType hNames rfl
  · exact entry_written_of_default hIdentity hBool (hc.bool_bool false) rfl
  · exact entry_written_of_default hRequired hBool (hc.bool_bool false) rfl
  · exact entry_written_of_default hColumns hTexts (texts_ofTexts hc []) rfl
  · exact entry_written_of_default hSqlType hText rfl rfl
  · exact entry_written_of_default hManyTable hText rfl rfl
  · exact entry_written_of_default hManyKey hTexts (texts_ofTexts hc []) rfl

/-- An index that was accepted is accepted as it is written. -/
theorem projects_index : Projects (record c (index c)) IndexDef.toValue := by
  refine projects_record hc fun es i h => ?_
  simp only [index, ap_eq_ok_iff, map_eq_ok_iff] at h
  obtain ⟨_, unique, h, hUnique, rfl⟩ := h
  obtain ⟨_, columns, h, hColumns, rfl⟩ := h
  obtain ⟨name, hName, rfl⟩ := h
  -- the name may be missing, but the columns may not
  refine ap_ok (ap_ok (map_ok ?_) ?_) ?_
  · exact entry_written_of_default hName (projects_textOrNull hc) rfl rfl
  · exact entry_written hColumns (projects_someTexts hc) rfl
  · exact entry_written_of_default hUnique (projects_bool hc) (hc.bool_bool false) rfl

/-- A generator has a strategy once it is validated, its own name at least. -/
theorem projects_keyGenerator : Projects (record c (keyGenerator c)) KeyGeneratorDef.toValue := by
  refine projects_record hc fun es d h => ?_
  simp only [keyGenerator, ap_eq_ok_iff, map_eq_ok_iff] at h
  obtain ⟨_, params, h, hParams, rfl⟩ := h
  obtain ⟨_, strategy, h, -, rfl⟩ := h
  obtain ⟨name, hName, rfl⟩ := h
  -- the strategy is a text now, so the second time it is not the name that stands for it
  have hSome : name ≠ "" := ne_empty_of_name (check_of_entry hName (projects_name hc) nofun)
  have hGiven : (given strategy).getD name ≠ "" := by
    cases hText : given strategy with
    | none => exact hSome
    | some t => exact (given_eq_some_iff.1 hText).2
  have hText : textOrNull c (.str ((given strategy).getD name)) =
      ok (some ((given strategy).getD name)) := by
    change map some (c.text (.str _)) = _
    rw [hc.text_str, map_ok rfl]
  have hNone : c.params (ofFields []) = ok [] := hc.params_written List.nodup_nil
  refine Eq.trans (ap_ok (ap_ok (map_ok (entry_written hName (projects_name hc) rfl))
    (entry_of_lookup rfl hText))
    (entry_written_of_default hParams (projects_params hc) hNone rfl)) ?_
  have hStrategy := given_eq_some_iff.2 ⟨rfl, hGiven⟩
  simp only [hStrategy, Option.getD_some]

/-- A class that was accepted is accepted as it is written. Its fields and its indexes are, one by
one. -/
theorem projects_classMapping : Projects (record c (classMapping c)) ClassMapping.toValue := by
  refine projects_record hc fun es m h => ?_
  simp only [classMapping, ap_eq_ok_iff, map_eq_ok_iff] at h
  obtain ⟨_, indexes, h, hIndexes, rfl⟩ := h
  obtain ⟨_, fields, h, hFields, rfl⟩ := h
  obtain ⟨_, identity, h, hIdentity, rfl⟩ := h
  obtain ⟨_, keyGenerator, h, hKeyGenerator, rfl⟩ := h
  obtain ⟨_, parent, h, hParent, rfl⟩ := h
  obtain ⟨_, table, h, hTable, rfl⟩ := h
  obtain ⟨name, hName, rfl⟩ := h
  have hText := projects_textOrNull hc
  have hFieldList := projects_list hc (projects_field hc)
  have hIndexList := projects_list hc (projects_index hc)
  -- the entries come in the order in which they are checked
  refine ap_ok (ap_ok (ap_ok (ap_ok (ap_ok (ap_ok (map_ok ?_) ?_) ?_) ?_) ?_) ?_) ?_
  · exact entry_written hName (projects_name hc) rfl
  · exact entry_written_of_default hTable hText rfl rfl
  · exact entry_written_of_default hParent hText rfl rfl
  · exact entry_written_of_default hKeyGenerator hText rfl rfl
  · exact entry_written_of_default hIdentity (projects_texts hc) (texts_ofTexts hc []) rfl
  · exact entry_written_of_default hFields hFieldList (list_nil hc) rfl
  · exact entry_written_of_default hIndexes hIndexList (list_nil hc) rfl

/-- Validation accepts the value of a document, and gives the document back. -/
theorem projects_document : Projects (record c (document c)) Document.toValue := by
  refine projects_record hc fun es d h => ?_
  simp only [document, ap_eq_ok_iff, map_eq_ok_iff] at h
  obtain ⟨_, classes, h, hClasses, rfl⟩ := h
  obtain ⟨_, keyGenerators, h, hKeyGenerators, rfl⟩ := h
  obtain ⟨description, hDescription, rfl⟩ := h
  have hGeneratorList := projects_list hc (projects_keyGenerator hc)
  have hClassList := projects_list hc (projects_classMapping hc)
  refine ap_ok (ap_ok (map_ok ?_) ?_) ?_
  · exact entry_written_of_default hDescription (projects_textOrNull hc) rfl rfl
  · exact entry_written_of_default hKeyGenerators hGeneratorList (list_nil hc) rfl
  · exact entry_written_of_default hClasses hClassList (list_nil hc) rfl

end Projections

/-! ## Short forms -/

/-- A short form of texts and the list that it stands for: a text is the only one, and null is none
at all. -/
inductive SpellsOut : Value → Value → Prop
  | text (s : String) : SpellsOut (.str s) (.list [.str s])
  | unpaired (s : String) : SpellsOut (.unpaired s) (.list [.unpaired s])
  | null : SpellsOut .null (.list [])

/-- The same texts, possibly spelled out. -/
def SameTexts (v w : Value) : Prop :=
  w = v ∨ SpellsOut v w

section ShortForms

variable (c : Coercions)

/-- Texts are the same whether they are spelled out or not. -/
theorem texts_congr (v w : Value) (h : SameTexts v w) : texts c w = texts c v := by
  obtain rfl | hSpelled := h
  · rfl
  · cases hSpelled <;> rfl

/-- A text and the list of it alone are the same for this check too. -/
theorem someTexts_congr (v w : Value) (h : SameTexts v w) : someTexts c w = someTexts c v := by
  rw [someTexts, someTexts, texts_congr c v w h]

end ShortForms

/-- Entries with the same keys, and with values that are related key by key. -/
def Respelled (R : String → Value → Value → Prop) (es es' : List (Value × Value)) : Prop :=
  ∀ key, Option.Rel (R key) (lookup es key) (lookup es' key)

/-- The same value, or records with related entries. -/
def SameRecord (R : List (Value × Value) → List (Value × Value) → Prop) (v w : Value) : Prop :=
  w = v ∨ ∃ es es', v = .map es ∧ w = .map es' ∧ R es es'

/-- The same value, or lists with related items. -/
def SameItems (R : Value → Value → Prop) (v w : Value) : Prop :=
  w = v ∨ ∃ vs ws, v = .list vs ∧ w = .list ws ∧ List.Forall₂ R vs ws

/-- How the entries of a field may be respelled. -/
def FieldSpelling : String → Value → Value → Prop
  | "columns" | "many_key" => SameTexts
  | _ => Eq

/-- How the entries of an index may be respelled. -/
def IndexSpelling : String → Value → Value → Prop
  | "columns" => SameTexts
  | _ => Eq

/-- How the entries of a class may be respelled. -/
def ClassSpelling : String → Value → Value → Prop
  | "identity" => SameTexts
  | "fields" => SameItems (SameRecord (Respelled FieldSpelling))
  | "indexes" => SameItems (SameRecord (Respelled IndexSpelling))
  | _ => Eq

/-- The ways not to give a strategy; an empty text is one, in whatever form it is taken for one. -/
inductive NoStrategy (c : Coercions) : Option Value → Prop
  | missing : NoStrategy c none
  | null : NoStrategy c (some .null)
  | empty {v : Value} (h : c.text v = ok "") : NoStrategy c (some v)

/-- A generator may get its name as its strategy if it has none. -/
structure GeneratorRespelled (c : Coercions) (es es' : List (Value × Value)) : Prop where
  others : ∀ key ≠ "strategy", lookup es' key = lookup es key
  strategy : lookup es' "strategy" = lookup es "strategy" ∨
    NoStrategy c (lookup es "strategy") ∧
      ∃ v name, lookup es "name" = some v ∧ c.text v = ok name ∧
        lookup es' "strategy" = some (.str name)

/-- How the entries of a document may be respelled. -/
def DocumentSpelling (c : Coercions) : String → Value → Value → Prop
  | "key_generators" => SameItems (SameRecord (GeneratorRespelled c))
  | "classes" => SameItems (SameRecord (Respelled ClassSpelling))
  | _ => Eq

section Congruence

variable {c : Coercions} (hc : c.Lawful)

include hc

/-- Records are validated alike if their entries are. -/
theorem record_congr {α : Type} {check : List (Value × Value) → Checked α}
    {R : List (Value × Value) → List (Value × Value) → Prop}
    (h : ∀ es es', R es es' → check es' = check es) (v w : Value) (hSame : SameRecord R v w) :
    record c check w = record c check v := by
  obtain rfl | ⟨es, es', rfl, rfl, hEntries⟩ := hSame
  · rfl
  · rw [record, record, hc.entries_map, hc.entries_map]
    exact h es es' hEntries

/-- Lists are validated alike if their items are. -/
theorem list_congr {α : Type} {item : Value → Checked α} {R : Value → Value → Prop}
    (h : ∀ v w, R v w → item w = item v) (v w : Value) (hSame : SameItems R v w) :
    list c item w = list c item v := by
  obtain rfl | ⟨vs, ws, rfl, rfl, hItems⟩ := hSame
  · rfl
  · rw [list, list, hc.items_list, hc.items_list]
    exact items_congr h hItems

-- What an entry may be respelled as is found by its key, so `h key` is the relation of its values.

omit hc in
/-- A field does not tell apart how its lists of columns are spelled. -/
theorem field_congr (es es' : List (Value × Value)) (h : Respelled FieldSpelling es es') :
    field c es' = field c es := by
  unfold field
  rw [entry_congr_of_eq (h "name"), entry_congr_of_eq (h "type"), entry_congr_of_eq (h "identity"),
    entry_congr_of_eq (h "required"), entry_congr (texts_congr c) (h "columns"),
    entry_congr_of_eq (h "sql_type"), entry_congr_of_eq (h "many_table"),
    entry_congr (texts_congr c) (h "many_key")]

omit hc in
/-- An index does not tell apart how its list of columns is spelled. -/
theorem index_congr (es es' : List (Value × Value)) (h : Respelled IndexSpelling es es') :
    index c es' = index c es := by
  unfold index
  rw [entry_congr_of_eq (h "name"), entry_congr (someTexts_congr c) (h "columns"),
    entry_congr_of_eq (h "unique")]

/-- A class does not tell apart how its identity, its fields and its indexes are spelled. -/
theorem classMapping_congr (es es' : List (Value × Value)) (h : Respelled ClassSpelling es es') :
    classMapping c es' = classMapping c es := by
  have hFields := list_congr hc (record_congr hc (field_congr (c := c)))
  have hIndexes := list_congr hc (record_congr hc (index_congr (c := c)))
  unfold classMapping
  rw [entry_congr_of_eq (h "name"), entry_congr_of_eq (h "table"), entry_congr_of_eq (h "extends"),
    entry_congr_of_eq (h "key_generator"), entry_congr (texts_congr c) (h "identity"),
    entry_congr hFields (h "fields"), entry_congr hIndexes (h "indexes")]

omit hc in
/-- Where no strategy is given, the entry for it is accepted, and gives none. -/
theorem exists_of_noStrategy {es : List (Value × Value)}
    (h : NoStrategy c (lookup es "strategy")) :
    ∃ old, entry es "strategy" (some none) (textOrNull c) = ok old ∧ given old = none := by
  unfold entry
  generalize lookup es "strategy" = strategy at h
  cases h with
  | missing | null => exact ⟨none, rfl, rfl⟩
  | @empty v hEmpty =>
    cases v with
    | null => exact ⟨none, rfl, rfl⟩
    | _ => exact ⟨some "", within_eq_ok_iff.2 (map_ok hEmpty), rfl⟩

/-- A generator without a strategy is validated as with its name for one. -/
theorem keyGenerator_congr (es es' : List (Value × Value)) (h : GeneratorRespelled c es es') :
    keyGenerator c es' = keyGenerator c es := by
  have hName : entry es' "name" none (name c) = entry es "name" none (name c) :=
    entry_congr_of_eq (rel_of_eq (h.others "name" (by decide)))
  have hParams : entry es' "params" (some []) c.params = entry es "params" (some []) c.params :=
    entry_congr_of_eq (rel_of_eq (h.others "params" (by decide)))
  -- the other entries are the same, so only the strategy is left to look at
  unfold keyGenerator
  rw [hName, hParams]
  obtain hSame | ⟨hNone, v, generator, hLookup, hText, hGiven⟩ := h.strategy
  · rw [entry_congr_of_eq (rel_of_eq hSame)]
  · obtain ⟨old, hOld, hNoText⟩ := exists_of_noStrategy hNone
    have hNew : entry es' "strategy" (some none) (textOrNull c) = ok (some generator) := by
      unfold entry
      rw [hGiven]
      exact within_eq_ok_iff.2 (map_ok (hc.text_str generator))
    have hChecked : entry es "name" none (name c) = (name c v).within (.name "name") := by
      unfold entry
      rw [hLookup]
    rw [hNew, hOld, hChecked, name, hText]
    by_cases hEmpty : generator = ""
    · -- an empty name is a problem of its own, whatever the strategy is
      rw [hEmpty]
      rfl
    · have hSome : given (some generator) = some generator := given_eq_some_iff.2 ⟨rfl, hEmpty⟩
      simp [ok, Checked.within, Checked.map, ap, hEmpty, hSome, hNoText]

/-- Short forms and long forms are validated alike, with the same problems where there are any. -/
theorem document_congr (es es' : List (Value × Value))
    (h : Respelled (DocumentSpelling c) es es') : document c es' = document c es := by
  have hGenerators := list_congr hc (record_congr hc (keyGenerator_congr hc))
  have hClasses := list_congr hc (record_congr hc (classMapping_congr hc))
  unfold document
  rw [entry_congr_of_eq (h "description"), entry_congr hGenerators (h "key_generators"),
    entry_congr hClasses (h "classes")]

end Congruence

/-- Replacing values where they stand respells the entries. -/
theorem respelled_of_forall₂ {R : String → Value → Value → Prop} {es es' : List (Value × Value)}
    (h : List.Forall₂ (fun e e' => e'.1 = e.1 ∧ ∀ key, e.1 = .str key → R key e.2 e'.2) es es') :
    Respelled R es es' := by
  intro key
  induction h with
  | nil => exact .none
  | @cons e e' _ _ hFirst _ ih =>
    obtain ⟨hKey, hValue⟩ := hFirst
    unfold lookup at ih ⊢
    rw [List.find?_cons, List.find?_cons, hKey]
    cases hFound : e.1.sameKey (.str key) with
    | true => exact .some (hValue key (eq_str_of_sameKey hFound))
    | false => exact ih

/-- So does giving its name to a generator without a strategy. -/
theorem generatorRespelled_append {c : Coercions} (hc : c.Lawful) {es : List (Value × Value)}
    {name : String} (hNone : lookup es "strategy" = none)
    (hName : lookup es "name" = some (.str name)) :
    GeneratorRespelled c es (es ++ [(.str "strategy", .str name)]) := by
  have hLookup (key : String) : lookup (es ++ [(.str "strategy", .str name)]) key =
      (lookup es key).or (lookup [(.str "strategy", .str name)] key) := by
    unfold lookup
    rw [List.find?_append]
    cases es.find? fun e => e.1.sameKey (.str key) <;> rfl
  constructor
  · intro key hKey
    have hOther : lookup [(.str "strategy", .str name)] key = none := by
      simp [lookup, sameKey, Ne.symm hKey]
    rw [hLookup, hOther, Option.or_none]
  · right
    rw [hLookup, hNone]
    exact ⟨.missing, _, name, hName, hc.text_str name, rfl⟩

end Validation

open Validation in
/-- **Validation is a projection.** The value of a document that was accepted is accepted, and gives
the same document. So does every other spelling of what the document was made of. -/
theorem Document.validation_projects {c : Coercions} (hc : c.Lawful) {es : List (Value × Value)}
    {d : Document} (h : ofEntries es c = .ok d) :
    (∃ es', d.toValue = .map es' ∧ ofEntries es' c = .ok d) ∧
      ∀ es', Respelled (DocumentSpelling c) es es' → ofEntries es' c = .ok d := by
  have hAccepted : document c es = .ok d := Checked.toExcept_eq_ok_iff.1 h
  constructor
  -- the check that accepted the document accepts what it is written as
  · have hRecord : record c (document c) (.map es) = .ok d := by
      rw [record, hc.entries_map]
      exact hAccepted
    have hWritten : record c (document c) d.toValue = .ok d :=
      projects_document hc (.map es) d hRecord
    obtain ⟨es', hValue⟩ : ∃ es', d.toValue = .map es' := ⟨_, rfl⟩
    rw [hValue, record, hc.entries_map] at hWritten
    exact ⟨es', hValue, Checked.toExcept_eq_ok_iff.2 hWritten⟩
  -- a respelling goes through the same checks
  · intro es' hSpelled
    rw [ofEntries, document_congr hc es es' hSpelled]
    exact h

namespace Validation

open Value

/-- The entries of an order, with every short form there is. -/
def shortOrder : List (Value × Value) :=
  written [
    ("key_generators", .list [ofFields [("name", .str "max")]]),
    ("classes", .list [ofFields [("name", .str "Order"), ("identity", .str "id"),
      ("fields", .list [ofFields [("name", .str "id"), ("type", .str "integer"),
        ("columns", .str "id"), ("many_key", .null)]]),
      ("indexes", .list [ofFields [("columns", .str "id")]])]])]

/-- The entries of the same order, with everything spelled out. -/
def longOrder : List (Value × Value) :=
  written [
    ("key_generators", .list [ofFields [("name", .str "max"), ("strategy", .str "max")]]),
    ("classes", .list [ofFields [("name", .str "Order"), ("identity", .list [.str "id"]),
      ("fields", .list [ofFields [("name", .str "id"), ("type", .str "integer"),
        ("columns", .list [.str "id"]), ("many_key", .list [])]]),
      ("indexes", .list [ofFields [("columns", .list [.str "id"])]])]])]

/-- The one is a respelling of the other. -/
theorem respelled_order : Respelled (DocumentSpelling .lax) shortOrder longOrder := by
  refine respelled_of_forall₂ (.cons ⟨rfl, ?generators⟩ (.cons ⟨rfl, ?classes⟩ .nil))
  -- the generator is given its own name as its strategy
  case generators =>
    rintro key ⟨⟩
    have hMax : GeneratorRespelled .lax (written [("name", .str "max")])
        (written [("name", .str "max"), ("strategy", .str "max")]) :=
      generatorRespelled_append Coercions.lawful_lax rfl rfl
    exact .inr ⟨_, _, rfl, rfl, .cons (.inr ⟨_, _, rfl, rfl, hMax⟩) .nil⟩
  -- the class is given one column as a text, and one as a list
  case classes =>
    rintro key ⟨⟩
    refine .inr ⟨_, _, rfl, rfl, .cons (.inr ⟨_, _, rfl, rfl, ?_⟩) .nil⟩
    refine respelled_of_forall₂ (.cons ⟨rfl, ?_⟩ (.cons ⟨rfl, ?_⟩ (.cons ⟨rfl, ?fields⟩
      (.cons ⟨rfl, ?indexes⟩ .nil))))
    · rintro key ⟨⟩
      rfl
    · rintro key ⟨⟩
      exact .inr (.text "id")
    case fields =>
      rintro key ⟨⟩
      refine .inr ⟨_, _, rfl, rfl, .cons (.inr ⟨_, _, rfl, rfl, ?_⟩) .nil⟩
      refine respelled_of_forall₂ (.cons ⟨rfl, ?_⟩ (.cons ⟨rfl, ?_⟩ (.cons ⟨rfl, ?_⟩
        (.cons ⟨rfl, ?_⟩ .nil)))) <;> rintro key ⟨⟩
      · rfl
      · rfl
      · exact .inr (.text "id")
      · exact .inr .null
    case indexes =>
      rintro key ⟨⟩
      refine .inr ⟨_, _, rfl, rfl, .cons (.inr ⟨_, _, rfl, rfl, ?_⟩) .nil⟩
      refine respelled_of_forall₂ (.cons ⟨rfl, ?_⟩ .nil)
      rintro key ⟨⟩
      exact .inr (.text "id")

end Validation

open Validation in
/-- Under lenient validation, an order that is declared in short forms is the same document as its
value and as the order that is spelled out. -/
theorem Document.validation_projects_of_order :
    Coercions.lax.Lawful ∧ ∃ d, ofEntries shortOrder .lax = .ok d ∧
      (∃ es, d.toValue = .map es ∧ ofEntries es .lax = .ok d) ∧
      ofEntries longOrder .lax = .ok d := by
  obtain ⟨d, hAccepted⟩ : ∃ d, ofEntries shortOrder .lax = .ok d := ⟨_, rfl⟩
  obtain ⟨hWritten, hSpelled⟩ := validation_projects Coercions.lawful_lax hAccepted
  exact ⟨Coercions.lawful_lax, d, hAccepted, hWritten, hSpelled longOrder respelled_order⟩

end MappingDdl
