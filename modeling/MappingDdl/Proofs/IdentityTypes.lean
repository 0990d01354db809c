import MappingDdl.Proofs.Inheritance

/-!
# Identity types — the names that a walk over references gives

`Document.identityTypesFrom` walks up to parents and across to referenced classes, and takes every
class that it meets off the classes that may still be met. One step of the walk is a relation
(`Document.IdentityNames`) that leaves open how the classes it comes to are resolved. As a
successful walk never meets a class twice, it does not matter on which way it came to a class: what
it finds there is the answer for this class alone.

Main results:

* `Document.identityTypesFrom_mono` — a walk that succeeds also does so with more classes to meet.
* `Document.fieldNames_of_identityTypes` — the identity types of a class are those of the fields of
  its lineage, one field after the other.
* `Document.exists_identityTypes_iff` — in a sound document the walk succeeds exactly if every way
  on from the class (`Document.Next`) comes to an end.
-/

namespace MappingDdl

namespace Document

variable {d : Document}

/-- A concatenation succeeds if each element does, and has their results in order. -/
theorem concatMap_eq_ok_iff {α β ε : Type} {f : α → Except ε (List β)} {l : List α}
    {bs : List β} :
    concatMap f l = .ok bs ↔
      ∃ bss, List.Forall₂ (fun a bs => f a = .ok bs) l bss ∧ bs = bss.flatten := by
  induction l generalizing bs with
  -- nothing is read for no element
  | nil =>
    rw [concatMap]
    constructor
    · rintro h
      cases h
      exact ⟨[], .nil, rfl⟩
    · rintro ⟨bss, hForall, rfl⟩
      cases hForall
      rfl
  | cons a rest ih =>
    rw [concatMap, bind_eq_ok_iff]
    constructor
    -- the first one succeeds, and so do the others
    · rintro ⟨as, hHead, h⟩
      obtain ⟨tail, hTail, h⟩ := bind_eq_ok_iff.1 h
      cases h
      obtain ⟨bss, hForall, rfl⟩ := ih.1 hTail
      exact ⟨as :: bss, .cons hHead hForall, rfl⟩
    -- and their results are put together
    · rintro ⟨bss, hForall, rfl⟩
      cases hForall with
      | cons hHead hRest => exact ⟨_, hHead, bind_eq_ok_iff.2 ⟨_, ih.2 ⟨_, hRest, rfl⟩, rfl⟩⟩

/-! ## One step of the walk -/

/-- The type names that an identity field stands for: its SQL type for each column, else those of
the class that its type names, else its type for each column. -/
inductive FieldNames (d : Document) (resolve : ClassMapping → List String → Prop)
    (f : FieldMapping) : List String → Prop
  | sqlType {s : String} (hGiven : given f.sqlType = some s) :
      FieldNames d resolve f (f.columns.map fun _ => s)
  | reference {r : ClassMapping} {names : List String} (hGiven : given f.sqlType = none)
      (hClass : d.class? f.type = some r) (hNames : resolve r names) :
      FieldNames d resolve f names
  | declared (hGiven : given f.sqlType = none) (hClass : d.class? f.type = none) :
      FieldNames d resolve f (f.columns.map fun _ => f.type)

/-- The type names of a class: those of its identity fields, or of its parent if it has none. -/
inductive IdentityNames (d : Document) (resolve : ClassMapping → List String → Prop)
    (c : ClassMapping) : List String → Prop
  | none (hNone : c.identityFields = []) (hParent : d.parent c = .ok none) :
      IdentityNames d resolve c []
  | parent {p : ClassMapping} {names : List String} (hNone : c.identityFields = [])
      (hParent : d.parent c = .ok (some p)) (hNames : resolve p names) :
      IdentityNames d resolve c names
  | own {namess : List (List String)} (hSome : c.identityFields ≠ [])
      (hFields : List.Forall₂ (d.FieldNames resolve) c.identityFields namess) :
      IdentityNames d resolve c namess.flatten

variable {resolve resolve' : ClassMapping → List String → Prop}

/-- A field has its names under any resolution that finds at least as much. -/
theorem FieldNames.imp {f : FieldMapping} {names : List String}
    (hResolve : ∀ r names, resolve r names → resolve' r names)
    (h : d.FieldNames resolve f names) : d.FieldNames resolve' f names := by
  cases h with
  | sqlType hGiven => exact .sqlType hGiven
  | reference hGiven hClass hNames => exact .reference hGiven hClass (hResolve _ _ hNames)
  | declared hGiven hClass => exact .declared hGiven hClass

/-- So has a class. -/
theorem IdentityNames.imp {c : ClassMapping} {names : List String}
    (hResolve : ∀ r names, resolve r names → resolve' r names)
    (h : d.IdentityNames resolve c names) : d.IdentityNames resolve' c names := by
  cases h with
  | none hNone hParent => exact .none hNone hParent
  | parent hNone hParent hNames => exact .parent hNone hParent (hResolve _ _ hNames)
  | own hSome hFields => exact .own hSome (hFields.imp fun _ _ h => h.imp hResolve)

/-- What the walk finds at a class that it comes to. -/
def visit (d : Document) (unmet : List ClassMapping) (path : List String) (r : ClassMapping) :
    Except MappingError (List String) :=
  if _h : unmet.any (·.name == r.name) = true then
    d.identityTypesFrom (without unmet r.name) (path ++ [r.name]) r
  else .error (.circularIdentity (path ++ [r.name]))

/-- The type names of an identity field, given what is found at a class. -/
def fieldNames (d : Document) (visit : ClassMapping → Except MappingError (List String))
    (f : FieldMapping) : Except MappingError (List String) :=
  match given f.sqlType with
  | some t => .ok (f.columns.map fun _ => t)
  | none =>
    match d.class? f.type with
    | some r => visit r
    | none => .ok (f.columns.map fun _ => f.type)

/-- A class is visited if it was not met, and is not met again from there. -/
theorem visit_eq_ok_iff {unmet : List ClassMapping} {path : List String} {r : ClassMapping}
    {names : List String} :
    d.visit unmet path r = .ok names ↔ unmet.any (·.name == r.name) = true ∧
      d.identityTypesFrom (without unmet r.name) (path ++ [r.name]) r = .ok names := by
  unfold visit
  split
  -- it was not met, so the walk goes on from it
  · next hUnmet => exact ⟨fun h => ⟨hUnmet, h⟩, fun h => h.2⟩
  -- it was met, which is an error
  · next hMet =>
    constructor
    · intro h
      cases h
    · rintro ⟨hUnmet, -⟩
      exact absurd hUnmet hMet

/-- The names of a field are an SQL type, those of a class, or its type. -/
theorem fieldNames_eq_ok_iff {visit : ClassMapping → Except MappingError (List String)}
    {f : FieldMapping} {names : List String} :
    d.fieldNames visit f = .ok names ↔
      d.FieldNames (fun r names => visit r = .ok names) f names := by
  unfold fieldNames
  constructor
  · intro h
    split at h
    -- an SQL type is taken as it stands
    · next s hGiven =>
      cases h
      exact .sqlType hGiven
    · next hGiven =>
      -- a class, which is visited
      split at h
      · next r hClass => exact .reference hGiven hClass h
      -- no class, so the type stands for itself
      · next hClass =>
        cases h
        exact .declared hGiven hClass
  -- each case leads back to its branch
  · intro h
    cases h with
    | sqlType hGiven => rw [hGiven]
    | reference hGiven hClass hNames =>
      rw [hGiven, hClass]
      exact hNames
    | declared hGiven hClass => rw [hGiven, hClass]

/-- One step of the walk, with the visits that it makes. -/
theorem identityTypesFrom_eq (unmet : List ClassMapping) (path : List String) (c : ClassMapping) :
    d.identityTypesFrom unmet path c =
      if c.identityFields.isEmpty then
        match d.parent c with
        | .error e => .error e
        | .ok none => .ok []
        | .ok (some p) => d.visit unmet path p
      else concatMap (d.fieldNames (d.visit unmet path)) c.identityFields := by
  rw [identityTypesFrom]
  rfl

/-- What the walk finds at a class is what `IdentityNames` says. -/
theorem identityTypesFrom_eq_ok_iff {unmet : List ClassMapping} {path : List String}
    {c : ClassMapping} {names : List String} :
    d.identityTypesFrom unmet path c = .ok names ↔
      d.IdentityNames (fun r names => d.visit unmet path r = .ok names) c names := by
  rw [identityTypesFrom_eq]
  -- a class without identity fields asks its parent, any other one its fields
  by_cases hNone : c.identityFields = []
  · rw [if_pos (List.isEmpty_iff.2 hNone)]
    constructor
    · intro h
      -- the parent may be unknown, missing, or there
      split at h
      · cases h
      · next hParent =>
        cases h
        exact .none hNone hParent
      · next p hParent => exact .parent hNone hParent h
    -- the three ways to have names lead back, one of which is excluded here
    · intro h
      cases h with
      | none _ hParent => rw [hParent]
      | parent _ hParent hNames =>
        rw [hParent]
        exact hNames
      | own hSome => exact absurd hNone hSome
  -- every identity field has its names
  · rw [if_neg (by simpa using hNone), concatMap_eq_ok_iff]
    constructor
    · rintro ⟨namess, hFields, rfl⟩
      exact .own hNone (hFields.imp fun _ _ => fieldNames_eq_ok_iff.1)
    · intro h
      cases h with
      | none hEmpty => exact absurd hEmpty hNone
      | parent hEmpty => exact absurd hEmpty hNone
      | @own namess _ hFields =>
        exact ⟨namess, hFields.imp fun _ _ => fieldNames_eq_ok_iff.2, rfl⟩

/-! ## The whole walk -/

/-- The classes of the one list have only names that classes of the other one have. -/
def NamedAmong (unmet unmet' : List ClassMapping) : Prop :=
  ∀ name, unmet.any (·.name == name) = true → unmet'.any (·.name == name) = true

section NamedAmong

variable {unmet unmet' unmet'' : List ClassMapping} {name other : String}

/-- A name is among those left if it was there and is another one. -/
theorem any_without_iff :
    (without unmet name).any (·.name == other) = true ↔
      unmet.any (·.name == other) = true ∧ other ≠ name := by
  simp only [without, List.any_eq_true, List.mem_filter, bne_iff_ne, beq_iff_eq]
  constructor
  · rintro ⟨c, ⟨hc, hNe⟩, rfl⟩
    exact ⟨⟨c, hc, rfl⟩, hNe⟩
  · rintro ⟨⟨c, hc, rfl⟩, hNe⟩
    exact ⟨c, ⟨hc, hNe⟩, rfl⟩

/-- Without one class there are no new names. -/
theorem namedAmong_without : NamedAmong (without unmet name) unmet :=
  fun _ hName => (any_without_iff.1 hName).1

/-- Names among names among others are among these. -/
theorem NamedAmong.trans (h : NamedAmong unmet unmet') (h' : NamedAmong unmet' unmet'') :
    NamedAmong unmet unmet'' :=
  fun name hName => h' name (h name hName)

/-- Without one class the names stay among those without it. -/
theorem NamedAmong.without (h : NamedAmong unmet unmet') :
    NamedAmong (without unmet name) (without unmet' name) := by
  intro other hOther
  obtain ⟨hAny, hNe⟩ := any_without_iff.1 hOther
  exact any_without_iff.2 ⟨h other hAny, hNe⟩

end NamedAmong

/-- A walk that succeeds finds the same with more classes to meet, whatever way it came. -/
theorem identityTypesFrom_mono {unmet unmet' : List ClassMapping} {path path' : List String}
    {c : ClassMapping} {names : List String} (hUnmet : NamedAmong unmet unmet')
    (h : d.identityTypesFrom unmet path c = .ok names) :
    d.identityTypesFrom unmet' path' c = .ok names := by
  refine identityTypesFrom_eq_ok_iff.2 ((identityTypesFrom_eq_ok_iff.1 h).imp fun r ns hr => ?_)
  -- the class that the walk goes on to leaves fewer to meet on both sides
  obtain ⟨hMet, hFound⟩ := visit_eq_ok_iff.1 hr
  exact visit_eq_ok_iff.2 ⟨hUnmet _ hMet, identityTypesFrom_mono hUnmet.without hFound⟩
termination_by unmet.length
decreasing_by exact length_without_lt hMet

/-- What the walk finds at a class is the answer for this class alone. -/
theorem identityTypes_of_visit {unmet : List ClassMapping} {path : List String} {r : ClassMapping}
    {names : List String} (hUnmet : NamedAmong unmet d.classes)
    (h : d.visit unmet path r = .ok names) : d.identityTypes r = .ok names :=
  identityTypesFrom_mono hUnmet.without (visit_eq_ok_iff.1 h).2

/-! ## The walk and the lineage -/

/-- The type names that an identity field stands for in the answer for a class. -/
abbrev ResolvedNames (d : Document) : FieldMapping → List String → Prop :=
  d.FieldNames fun r names => d.identityTypes r = .ok names

/-- A class without a parent gives no name of one. -/
theorem given_parent_of_parent_none {c : ClassMapping} (h : d.parent c = .ok none) :
    given c.parent = none := by
  cases hGiven : given c.parent with
  | none => rfl
  | some name =>
    cases hClass : d.class? name <;> simp [parent, hGiven, hClass] at h

/-- A class with a parent gives its name. -/
theorem given_parent_of_parent {c p : ClassMapping} (h : d.parent c = .ok (some p)) :
    ∃ name, given c.parent = some name ∧ d.class? name = some p := by
  cases hGiven : given c.parent with
  | none => simp [parent, hGiven] at h
  | some name =>
    cases hClass : d.class? name with
    | none => simp [parent, hGiven, hClass] at h
    | some q =>
      have hSame : q = p := by simpa [parent, hGiven, hClass] using h
      exact ⟨name, rfl, hSame ▸ hClass⟩

/-- A class without a parent is the root of its lineage. -/
theorem lineageFrom_of_parent_none {unmet : List ClassMapping} {c : ClassMapping}
    (h : d.parent c = .ok none) : d.lineageFrom unmet c = .root c :=
  lineageFrom_root (given_parent_of_parent_none h)

/-- A class with a parent that is still to be met comes before the lineage of this parent. -/
theorem lineageFrom_of_parent {unmet : List ClassMapping} {c p : ClassMapping}
    (h : d.parent c = .ok (some p)) (hUnmet : unmet.any (·.name == p.name) = true) :
    d.lineageFrom unmet c = .step c (d.lineageFrom (without unmet p.name) p) := by
  obtain ⟨name, hGiven, hClass⟩ := given_parent_of_parent h
  rw [lineageFrom, hGiven]
  simp only [hClass, dif_pos hUnmet]

/-- The walk up to the class with identity fields follows the lineage. -/
theorem fieldNames_of_identityTypesFrom {unmet : List ClassMapping} {path : List String}
    {c : ClassMapping} {names : List String} (hUnmet : NamedAmong unmet d.classes)
    (h : d.identityTypesFrom unmet path c = .ok names) :
    ∃ namess, List.Forall₂ d.ResolvedNames (d.lineageFrom unmet c).identity namess ∧
      names = namess.flatten := by
  cases identityTypesFrom_eq_ok_iff.1 h with
  -- a root, at which both walks end
  | none hNone hParent =>
    rw [lineageFrom_of_parent_none hParent, Lineage.identity_root, hNone]
    exact ⟨[], .nil, rfl⟩
  -- the lineage goes on to the same parent
  | parent hNone hParent hNames =>
    obtain ⟨hMet, hFound⟩ := visit_eq_ok_iff.1 hNames
    rw [lineageFrom_of_parent hParent hMet, Lineage.identity_step hNone]
    exact fieldNames_of_identityTypesFrom (namedAmong_without.trans hUnmet) hFound
  | @own namess hSome hFields =>
    -- the lineage ends its search at the same class, and every reference is resolved anew
    rw [Lineage.identity_of_head (head_lineageFrom d unmet c) hSome]
    refine ⟨namess, hFields.imp fun f ns hNames => hNames.imp fun r ns' hr => ?_, rfl⟩
    exact identityTypes_of_visit hUnmet hr
termination_by unmet.length
decreasing_by exact length_without_lt hMet

/-- The identity types of a class are those of the identity fields of its lineage, in order. -/
theorem fieldNames_of_identityTypes {c : ClassMapping} {names : List String}
    (h : d.identityTypes c = .ok names) :
    ∃ namess, List.Forall₂ d.ResolvedNames (d.lineage c).identity namess ∧
      names = namess.flatten :=
  fieldNames_of_identityTypesFrom namedAmong_without h

/-! ## Where the walk succeeds -/

/-- If each element is related to something, the list is. -/
theorem exists_forall₂ {α β : Type} {R : α → β → Prop} {l : List α} (h : ∀ a ∈ l, ∃ b, R a b) :
    ∃ bs, List.Forall₂ R l bs := by
  induction l with
  | nil => exact ⟨[], .nil⟩
  | cons a rest ih =>
    obtain ⟨b, hb⟩ := h a List.mem_cons_self
    obtain ⟨bs, hbs⟩ := ih fun a' ha' => h a' (List.mem_cons_of_mem _ ha')
    exact ⟨b :: bs, .cons hb hbs⟩

/-- In related lists each element is related to one of the others. -/
theorem exists_of_mem_forall₂ {α β : Type} {R : α → β → Prop} {l : List α} {bs : List β} {a : α}
    (h : List.Forall₂ R l bs) (ha : a ∈ l) : ∃ b ∈ bs, R a b := by
  obtain ⟨i, hi⟩ := List.mem_iff_get.1 ha
  exact ⟨_, List.get_mem _ _, hi ▸ h.get i.2 (h.length_eq ▸ i.2)⟩

/-- What can be reached is not below itself. -/
theorem not_rel_self_of_acc {α : Type} {r : α → α → Prop} {a : α} (h : Acc r a) : ¬ r a a := by
  induction h with
  | intro a _ ih => exact fun hSelf => ih a hSelf hSelf

/-- The walk goes on from the class `c` to the class `q`: to its parent if it has no identity
fields, and else to the classes that these refer to. -/
inductive Next (d : Document) (q c : ClassMapping) : Prop
  | parent (hNone : c.identityFields = []) (hParent : d.parent c = .ok (some q))
  | reference {f : FieldMapping} (hf : f ∈ c.identityFields) (hGiven : given f.sqlType = none)
      (hClass : d.class? f.type = some q)

/-- The walk only goes on to classes of the document. -/
theorem Next.mem_classes {c q : ClassMapping} (h : d.Next q c) : q ∈ d.classes := by
  cases h with
  | parent _ hParent =>
    obtain ⟨name, -, hClass⟩ := given_parent_of_parent hParent
    exact List.mem_of_find?_eq_some hClass
  | reference _ _ hClass => exact List.mem_of_find?_eq_some hClass

/-- A class whose names are found has every class found that the walk goes on to. -/
theorem IdentityNames.exists_next {c q : ClassMapping} {names : List String}
    (h : d.IdentityNames resolve c names) (hNext : d.Next q c) : ∃ ns, resolve q ns := by
  cases hNext with
  | parent hNone hParent =>
    -- a class that goes on to its parent has no other names
    cases h with
    | none _ hRoot => cases hRoot.symm.trans hParent
    | parent _ hParent' hNames =>
      cases hParent.symm.trans hParent'
      exact ⟨names, hNames⟩
    | own hSome => exact absurd hNone hSome
  | @reference f hf hGiven hClass =>
    -- one that goes on to a class has a field for it
    cases h with
    | none hNone =>
      rw [hNone] at hf
      cases hf
    | parent hNone =>
      rw [hNone] at hf
      cases hf
    | own _ hFields =>
      -- and this field has names for no other reason
      obtain ⟨ns, -, hField⟩ := exists_of_mem_forall₂ hFields hf
      cases hField with
      | sqlType hGiven' => cases hGiven.symm.trans hGiven'
      | reference _ hClass' hNames =>
        cases hClass.symm.trans hClass'
        exact ⟨_, hNames⟩
      | declared _ hNone => cases hNone.symm.trans hClass

/-- A walk that succeeds comes to an end on every way. -/
theorem acc_of_identityTypesFrom {unmet : List ClassMapping} {path : List String}
    {c : ClassMapping} {names : List String}
    (h : d.identityTypesFrom unmet path c = .ok names) : Acc d.Next c := by
  refine Acc.intro c fun q hNext => ?_
  obtain ⟨ns, hVisit⟩ := (identityTypesFrom_eq_ok_iff.1 h).exists_next hNext
  obtain ⟨hMet, hFound⟩ := visit_eq_ok_iff.1 hVisit
  exact acc_of_identityTypesFrom hFound
termination_by unmet.length
decreasing_by exact length_without_lt hMet

/-- In a sound document the parent of a class is a class of the document. -/
theorem exists_parent (hSound : d.structureProblems = []) {c : ClassMapping}
    (hc : c ∈ d.classes) : ∃ p, d.parent c = .ok p := by
  cases hGiven : given c.parent with
  | none => exact ⟨none, by rw [parent, hGiven]⟩
  | some name =>
    obtain ⟨p, hp, hName⟩ :=
      List.mem_map.1 ((structureProblems_eq_nil_iff.1 hSound).2 c hc name hGiven)
    have hClass : d.class? name = some p := hName ▸ Document.class?_eq_some hSound hp
    exact ⟨some p, by simp only [parent, hGiven, hClass]⟩

/-- In a sound document only what is found further on can keep the names of a class from being
found. -/
theorem exists_identityNames (hSound : d.structureProblems = []) {c : ClassMapping}
    (hc : c ∈ d.classes) (h : ∀ q, d.Next q c → ∃ ns, resolve q ns) :
    ∃ names, d.IdentityNames resolve c names := by
  -- without identity fields the parent is next, otherwise the class of each field that has one
  by_cases hNone : c.identityFields = []
  · obtain ⟨p, hParent⟩ := exists_parent hSound hc
    -- no parent: the class has no names, but it is found
    cases p with
    | none => exact ⟨[], .none hNone hParent⟩
    | some p =>
      obtain ⟨ns, hNames⟩ := h p (.parent hNone hParent)
      exact ⟨ns, .parent hNone hParent hNames⟩
  -- each field has names: an SQL type, a type, or those of its class
  · have hFields : ∀ f ∈ c.identityFields, ∃ ns, d.FieldNames resolve f ns := by
      intro f hf
      cases hGiven : given f.sqlType with
      | some s => exact ⟨_, .sqlType hGiven⟩
      | none =>
        cases hClass : d.class? f.type with
        | none => exact ⟨_, .declared hGiven hClass⟩
        | some q =>
          obtain ⟨ns, hNames⟩ := h q (.reference hf hGiven hClass)
          exact ⟨ns, .reference hGiven hClass hNames⟩
    -- put together they are the names of the class
    obtain ⟨namess, hForall⟩ := exists_forall₂ hFields
    exact ⟨namess.flatten, .own hNone hForall⟩

section Step

variable {step : ClassMapping → ClassMapping → Prop} {c q : ClassMapping}

/-- So it does over many steps. -/
theorem mem_classes_of_transGen (hStep : ∀ q c, step q c → q ∈ d.classes)
    (h : Relation.TransGen step q c) : q ∈ d.classes := by
  induction h with
  | single hNext => exact hStep _ _ hNext
  | tail _ _ ih => exact ih

/-- From where every way comes to an end, none comes back. -/
theorem name_ne_of_transGen (hSound : d.structureProblems = [])
    (hStep : ∀ q c, step q c → q ∈ d.classes) (hc : c ∈ d.classes) (hAcc : Acc step c)
    (h : Relation.TransGen step q c) : q.name ≠ c.name := by
  intro hName
  have hNodup := (structureProblems_eq_nil_iff.1 hSound).1
  cases List.inj_on_of_nodup_map hNodup (mem_classes_of_transGen hStep h) hc hName
  exact not_rel_self_of_acc hAcc.transGen h

/-- At the start of a walk every class further on may be met, if none of the ways comes back. -/
theorem any_without_of_transGen (hSound : d.structureProblems = [])
    (hStep : ∀ q c, step q c → q ∈ d.classes) (hc : c ∈ d.classes) (hAcc : Acc step c)
    (h : Relation.TransGen step q c) :
    (without d.classes c.name).any (·.name == q.name) = true := by
  have hListed := mem_classes_of_transGen hStep h
  have hAny : d.classes.any (·.name == q.name) = true :=
    List.any_eq_true.2 ⟨q, hListed, beq_self_eq_true _⟩
  exact any_without_iff.2 ⟨hAny, name_ne_of_transGen hSound hStep hc hAcc h⟩

end Step

/-- Where every way comes to an end, the walk succeeds if it may meet all classes on these ways. -/
theorem exists_identityTypesFrom (hSound : d.structureProblems = []) {c : ClassMapping}
    (hAcc : Acc d.Next c) (hc : c ∈ d.classes) (unmet : List ClassMapping) (path : List String)
    (hUnmet : ∀ q, Relation.TransGen d.Next q c → unmet.any (·.name == q.name) = true) :
    ∃ names, d.identityTypesFrom unmet path c = .ok names := by
  induction hAcc generalizing unmet path with
  | intro c hBelow ih =>
    obtain ⟨names, hNames⟩ : ∃ names,
        d.IdentityNames (fun r ns => d.visit unmet path r = .ok ns) c names := by
      refine exists_identityNames hSound hc fun q hNext => ?_
      -- no class on a way from `q` is `q` itself, which alone is taken off
      have hq := hNext.mem_classes
      obtain ⟨ns, hFound⟩ := ih q hNext hq (without unmet q.name) (path ++ [q.name])
        fun q' hq' => any_without_iff.2 ⟨hUnmet q' (hq'.tail hNext),
          name_ne_of_transGen hSound (fun _ _ => Next.mem_classes) hq (hBelow q hNext) hq'⟩
      exact ⟨ns, visit_eq_ok_iff.2 ⟨hUnmet q (.single hNext), hFound⟩⟩
    exact ⟨names, identityTypesFrom_eq_ok_iff.2 hNames⟩

/-- The identity types of a class are found exactly if every way of the walk comes to an end. -/
theorem exists_identityTypes_iff (hSound : d.structureProblems = []) {c : ClassMapping}
    (hc : c ∈ d.classes) : (∃ names, d.identityTypes c = .ok names) ↔ Acc d.Next c := by
  constructor
  · rintro ⟨names, h⟩
    exact acc_of_identityTypesFrom h
  · intro hAcc
    exact exists_identityTypesFrom hSound hAcc hc _ _ fun q hq =>
      any_without_of_transGen hSound (fun _ _ => Next.mem_classes) hc hAcc hq

/-- The way up to the class with identity fields goes on only from there. -/
theorem acc_of_lineageFrom {unmet : List ClassMapping} {c : ClassMapping}
    (hSome : (d.lineageFrom unmet c).identity ≠ [])
    (hFields : ∀ f ∈ (d.lineageFrom unmet c).identity, given f.sqlType = none →
      ∀ q, d.class? f.type = some q → Acc d.Next q) : Acc d.Next c := by
  -- a class without identity fields only goes on to its parent
  by_cases hNone : c.identityFields = []
  · refine Acc.intro c fun q hNext => ?_
    -- it has no identity field to go on from
    cases hNext with
    | reference hf =>
      rw [hNone] at hf
      cases hf
    | parent _ hParent =>
      by_cases hMet : unmet.any (·.name == q.name) = true
      · rw [lineageFrom_of_parent hParent hMet, Lineage.identity_step hNone] at hSome hFields
        exact acc_of_lineageFrom hSome hFields
      · -- the lineage ends in a cycle, below any class with identity fields
        obtain ⟨name, hGiven, hClass⟩ := given_parent_of_parent hParent
        have hCycle : d.lineageFrom unmet c = .cycle c q.name := by
          rw [lineageFrom, hGiven]
          simp only [hClass, dif_neg hMet]
        refine absurd ?_ hSome
        simp [hCycle, Lineage.identity, Lineage.identityClass?, Lineage.toList, hNone]
  · rw [Lineage.identity_of_head (head_lineageFrom d unmet c) hNone] at hFields
    refine Acc.intro c fun q hNext => ?_
    cases hNext with
    -- with identity fields it does not ask its parent
    | parent hEmpty => exact absurd hEmpty hNone
    | reference hf hGiven hClass => exact hFields _ hf hGiven q hClass
termination_by unmet.length
decreasing_by exact length_without_lt hMet

end Document

end MappingDdl
