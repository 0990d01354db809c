import MappingDdl.Proofs.Failures

/-!
# Dependencies — which circles keep the identity of a class from being found

The identity types of a class depend on the classes that its identity fields refer to, or on its
parent; its identity columns depend on its parent alone, and only where it has none of its own. Both
walks keep account of the classes on their way, and fail where they meet one again. A plain
recursion keeps no account: where it ends it gives the same answer, and it runs on forever exactly
where the walk fails.

Main results:

* `Document.identityTypes_eq_ok_iff` — the walk over types finds what the plain recursion gives.
* `Document.identity_found_unless_revisited` — both walks in one statement: each fails exactly if
  its steps come back to a class, and finds the answer of the plain recursion otherwise.
-/

namespace MappingDdl

/-- A computation fails if it does not succeed. -/
theorem exists_error_iff {ε α : Type} {x : Except ε α} :
    (∃ e, x = .error e) ↔ ¬ ∃ a, x = .ok a := by
  cases x <;> simp

namespace Document

variable {d : Document} {c q : ClassMapping}

/-! ## Identity types -/

/-- The identity types of the class `c` depend on the class `q`. -/
def DependsOn (d : Document) (c q : ClassMapping) : Prop :=
  d.Next q c

/-- The type names of an identity field, given those of the classes. -/
def fieldTypeNames (d : Document) (found : ClassMapping → List String) (f : FieldMapping) :
    List String :=
  match given f.sqlType with
  | some s => f.columns.map fun _ => s
  | none =>
    match d.class? f.type with
    | some r => found r
    | none => f.columns.map fun _ => f.type

/-- One step of the plain recursion: the identity types of a class, given those of the classes that
it depends on. -/
def typeNames (d : Document) (found : ClassMapping → List String) (c : ClassMapping) :
    List String :=
  if c.identityFields.isEmpty then
    match d.parent c with
    | .ok (some p) => found p
    | _ => []
  else c.identityFields.flatMap (d.fieldTypeNames found)

/-- The plain recursion ends at a class with an answer: it does so at every class that this one
depends on, and one step takes their answers to the one for the class. -/
inductive HasTypeNames (d : Document) : ClassMapping → List String → Prop
  | step {c : ClassMapping} (found : ClassMapping → List String)
      (hFound : ∀ q, d.DependsOn c q → HasTypeNames d q (found q)) :
      HasTypeNames d c (d.typeNames found c)

variable {resolve : ClassMapping → List String → Prop} {found : ClassMapping → List String}
  {names : List String}

/-- One step of the walk is one step of the plain recursion if both find the same further on. -/
theorem IdentityNames.eq_typeNames (h : d.IdentityNames resolve c names)
    (hFound : ∀ q ns, d.DependsOn c q → resolve q ns → found q = ns) :
    d.typeNames found c = names := by
  unfold typeNames
  cases h with
  -- nothing to identify, and nobody above
  | none hNone hParent => simp only [hNone, hParent, List.isEmpty_nil, if_true]
  -- the parent answers
  | parent hNone hParent hNames =>
    simp only [hNone, hParent, List.isEmpty_nil, if_true]
    exact hFound _ _ (.parent hNone hParent) hNames
  | @own namess hSome hFields =>
    -- each identity field has its names in the recursion, as what it depends on has
    have hEach : List.Forall₂ (fun f ns => d.fieldTypeNames found f = ns) c.identityFields
        namess := by
      refine ((List.forall₂_and_left _ _).2 ⟨fun f hf => hf, hFields⟩).imp ?_
      rintro f ns ⟨hf, hNames⟩
      unfold fieldTypeNames
      cases hNames with
      | sqlType hGiven => rw [hGiven]
      | reference hGiven hClass hNames =>
        rw [hGiven, hClass]
        exact hFound _ _ (.reference hf hGiven hClass) hNames
      | declared hGiven hClass => rw [hGiven, hClass]
    have hMap : c.identityFields.map (d.fieldTypeNames found) = namess := by
      rw [← List.forall₂_eq_eq_eq]
      exact List.forall₂_map_left_iff.2 hEach
    rw [if_neg (by simpa using hSome), List.flatMap_def, hMap]

/-- What the walk finds is what the plain recursion gives. -/
theorem hasTypeNames_of_identityTypes (h : d.identityTypes c = .ok names) :
    d.HasTypeNames c names := by
  induction acc_of_identityTypesFrom h generalizing names with
  -- a class from which the walk comes to an end; the further ones have been answered
  | intro c _ ih =>
    have hNames : d.IdentityNames (fun q ns => d.identityTypes q = .ok ns) c names :=
      (identityTypesFrom_eq_ok_iff.1 h).imp fun _ _ => identityTypes_of_visit namedAmong_without
    -- the answers further on, where there are any
    let found (q : ClassMapping) : List String := (d.identityTypes q).toOption.getD []
    have hFound (q : ClassMapping) (ns : List String) (hq : d.identityTypes q = .ok ns) :
        found q = ns := by
      simp only [found, hq, Except.toOption, Option.getD_some]
    rw [← hNames.eq_typeNames fun q ns _ hq => hFound q ns hq]
    refine .step found fun q hNext => ?_
    obtain ⟨ns, hq⟩ := hNames.exists_next hNext
    rw [hFound q ns hq]
    exact ih q hNext hq

/-- Where the plain recursion ends the walk finds the same. -/
theorem identityTypes_of_hasTypeNames (hSound : d.structureProblems = []) (hc : c ∈ d.classes)
    (h : d.HasTypeNames c names) : d.identityTypes c = .ok names := by
  induction h with
  | @step c found _ ih =>
    -- each class further on has its names
    have hFurther (q : ClassMapping) (hNext : d.Next q c) : d.identityTypes q = .ok (found q) :=
      ih q hNext hNext.mem_classes
    have hAcc : Acc d.Next c :=
      Acc.intro c fun q hNext => acc_of_identityTypesFrom (hFurther q hNext)
    -- so the walk comes to an end here as well
    obtain ⟨names, hOk⟩ := (exists_identityTypes_iff hSound hc).2 hAcc
    have hNames : d.IdentityNames (fun q ns => d.identityTypes q = .ok ns) c names :=
      -- and finds at each step what the recursion finds
      (identityTypesFrom_eq_ok_iff.1 hOk).imp fun _ _ => identityTypes_of_visit namedAmong_without
    rw [hOk, hNames.eq_typeNames fun q ns hNext hq => ?_]
    cases (hFurther q hNext).symm.trans hq
    rfl

/-- **The walk over identity types is the plain recursion.** -/
theorem identityTypes_eq_ok_iff (hSound : d.structureProblems = []) (hc : c ∈ d.classes) :
    d.identityTypes c = .ok names ↔ d.HasTypeNames c names :=
  ⟨hasTypeNames_of_identityTypes, identityTypes_of_hasTypeNames hSound hc⟩

/-- The walk over identity types fails exactly if the dependencies come back to a class. -/
theorem identityTypes_fails_iff (hSound : d.structureProblems = []) (hc : c ∈ d.classes) :
    (∃ e, d.identityTypes c = .error e) ↔ Revisits d.DependsOn c := by
  have hEnds : Acc d.Next c ↔ ¬ Revisits d.DependsOn c :=
    acc_iff_not_revisits fun _ _ hNext => Next.mem_classes hNext
  rw [exists_error_iff, exists_identityTypes_iff hSound hc, hEnds, not_not]

/-! ## Identity columns -/

/-- The class `c` has no identity columns, and extends the class `p`. -/
def LacksIdentity (d : Document) (c p : ClassMapping) : Prop :=
  c.ownIdentityColumns = [] ∧ d.Extends c p

/-- The way up from the class `c` to the first class with identity columns comes to `p`, and ends
there: `p` has identity columns, or extends nothing. -/
structure EndsAt (d : Document) (c p : ClassMapping) : Prop where
  way : Relation.ReflTransGen d.LacksIdentity c p
  ends : p.ownIdentityColumns ≠ [] ∨ d.parent p = .ok none

/-- Where a way up ends, it does not go on. -/
theorem EndsAt.not_lacksIdentity {p : ClassMapping} (h : d.EndsAt c p) (q : ClassMapping) :
    ¬ d.LacksIdentity p q := by
  rintro ⟨hNone, hExtends⟩
  rcases h.ends with hSome | hRoot
  · exact hSome hNone
  · cases hRoot.symm.trans hExtends

/-- A class has one parent at most, so the way up ends at one class only. -/
theorem EndsAt.unique {p p' : ClassMapping} (h : d.EndsAt c p) (h' : d.EndsAt c p') : p = p' := by
  have hUnique : Relator.RightUnique d.LacksIdentity := fun _ _ _ hStep hStep' =>
    Option.some.inj (Except.ok.inj (hStep.2.symm.trans hStep'.2))
  -- from an end no way leads on
  have hLast {p p' : ClassMapping} (hp : d.EndsAt c p)
      (hWay : Relation.ReflTransGen d.LacksIdentity p p') : p = p' := by
    rcases hWay.cases_head with hSame | ⟨q, hStep, -⟩
    · exact hSame
    · exact absurd hStep (hp.not_lacksIdentity q)
  -- of two ways up from one class the one goes on from the other
  rcases Relation.ReflTransGen.total_of_right_unique hUnique h.way h'.way with hWay | hWay
  · exact hLast h hWay
  · exact (hLast h' hWay).symm

/-- One more class below the way makes it longer at its start. -/
theorem EndsAt.head {p q : ClassMapping} (hStep : d.LacksIdentity c q) (h : d.EndsAt q p) :
    d.EndsAt c p :=
  ⟨.head hStep h.way, h.ends⟩

/-- The way up that ends does not come back. -/
theorem EndsAt.acc {p : ClassMapping} (h : d.EndsAt c p) :
    Acc (fun p c => d.LacksIdentity c p) c := by
  have hLast : Acc (fun p c => d.LacksIdentity c p) p :=
    Acc.intro p fun q hStep => absurd hStep (h.not_lacksIdentity q)
  refine h.way.head_induction_on hLast fun {a b} hStep _ hBelow => Acc.intro a fun q hStep' => ?_
  -- a class has no other parent
  cases hStep.2.symm.trans hStep'.2
  exact hBelow

/-- A class with identity columns of its own has these. -/
theorem identityColumns_of_own {l : Lineage} {origin : String} (hHead : l.head = c)
    (hSome : c.ownIdentityColumns ≠ []) : l.identityColumns origin = .ok c.ownIdentityColumns := by
  subst hHead
  cases l with
  | root c => rfl
  | unknownParent c parent => exact if_neg (List.isEmpty_iff.not.2 hSome)
  | cycle c parent => exact if_neg (List.isEmpty_iff.not.2 hSome)
  | step c rest => exact if_neg (List.isEmpty_iff.not.2 hSome)

/-- The columns that the walk finds are those of the class where the way up ends. -/
theorem exists_endsAt_of_identityColumns {unmet : List ClassMapping} {c : ClassMapping}
    {origin : String} {columns : List String}
    (h : (d.lineageFrom unmet c).identityColumns origin = .ok columns) :
    ∃ p, d.EndsAt c p ∧ p.ownIdentityColumns = columns := by
  -- a class without identity columns asks its parent, any other one is where the way ends
  by_cases hNone : c.ownIdentityColumns = []
  · rcases lineageFrom_cases d unmet c with
      ⟨hParent, hEq⟩ | ⟨name, -, hEq⟩ | ⟨p, hExtends, hUnmet, hEq⟩ | ⟨p, -, -, hEq⟩
    -- a root without identity columns, where the way ends
    · rw [hEq, Lineage.identityColumns] at h
      cases h
      exact ⟨c, ⟨.refl, Or.inr hParent⟩, rfl⟩
    -- an unknown parent is an error
    · simp [hEq, Lineage.identityColumns, hNone] at h
    -- the way goes on to the parent
    · simp only [hEq, Lineage.identityColumns, hNone, List.isEmpty_nil, if_true] at h
      obtain ⟨q, hEnds, hColumns⟩ := exists_endsAt_of_identityColumns h
      exact ⟨q, hEnds.head ⟨hNone, hExtends⟩, hColumns⟩
    -- a circle is an error
    · simp [hEq, Lineage.identityColumns, hNone] at h
  · rw [identityColumns_of_own (head_lineageFrom d unmet c) hNone] at h
    cases h
    exact ⟨c, ⟨.refl, Or.inl hNone⟩, rfl⟩
termination_by unmet.length
decreasing_by exact length_without_lt hUnmet

/-- A class that is asked for an identity is a class of the document. -/
theorem LacksIdentity.mem_classes {p : ClassMapping} (h : d.LacksIdentity c p) : p ∈ d.classes :=
  h.2.mem_classes

/-- Where the way up ends, the walk finds columns if it may meet all classes on it. -/
theorem exists_identityColumnsFrom {c : ClassMapping} (hSound : d.structureProblems = [])
    (hAcc : Acc (fun p c => d.LacksIdentity c p) c) (hc : c ∈ d.classes)
    (unmet : List ClassMapping) (origin : String)
    (hUnmet : ∀ q, Relation.TransGen (fun p c => d.LacksIdentity c p) q c →
      unmet.any (·.name == q.name) = true) :
    ∃ columns, (d.lineageFrom unmet c).identityColumns origin = .ok columns := by
  induction hAcc generalizing unmet with
  | intro c hBelow ih =>
    -- on the way up, with the classes that may still be met
    by_cases hNone : c.ownIdentityColumns = []
    · rcases lineageFrom_cases d unmet c with
        ⟨-, hEq⟩ | ⟨name, hUnknown, -⟩ | ⟨p, hExtends, -, hEq⟩ | ⟨p, hExtends, hMet, -⟩
      · exact ⟨c.ownIdentityColumns, by rw [hEq, Lineage.identityColumns]⟩
      · obtain ⟨p, hParent⟩ := exists_parent hSound hc
        cases hUnknown.symm.trans hParent
      · have hStep : d.LacksIdentity c p := ⟨hNone, hExtends⟩
        have hp := hStep.mem_classes
        -- no class on the way up from `p` is `p` itself, which alone is taken off
        obtain ⟨columns, hFound⟩ := ih p hStep hp (without unmet p.name)
          fun q hq => any_without_iff.2 ⟨hUnmet q (hq.tail hStep),
            name_ne_of_transGen hSound (fun _ _ => LacksIdentity.mem_classes) hp
              (hBelow p hStep) hq⟩
        refine ⟨columns, ?_⟩
        simp only [hEq, Lineage.identityColumns, hNone, List.isEmpty_nil, if_true, hFound]
      · rw [hUnmet p (.single ⟨hNone, hExtends⟩)] at hMet
        cases hMet
    · exact ⟨_, identityColumns_of_own (head_lineageFrom d unmet c) hNone⟩

/-- The identity columns of a class are found exactly if the way up comes to an end. -/
theorem exists_identityColumns_iff (hSound : d.structureProblems = []) (hc : c ∈ d.classes) :
    (∃ columns, d.identityColumns c = .ok columns) ↔
      Acc (fun p c => d.LacksIdentity c p) c := by
  constructor
  · rintro ⟨columns, h⟩
    obtain ⟨p, hEnds, -⟩ := exists_endsAt_of_identityColumns h
    exact hEnds.acc
  · intro hAcc
    exact exists_identityColumnsFrom hSound hAcc hc _ _ fun q hq =>
      any_without_of_transGen hSound (fun _ _ => LacksIdentity.mem_classes) hc hAcc hq

/-- The walk over identity columns finds those of the class where the way up ends. -/
theorem identityColumns_eq_ok_iff (hSound : d.structureProblems = []) (hc : c ∈ d.classes)
    {columns : List String} :
    d.identityColumns c = .ok columns ↔ ∃ p, d.EndsAt c p ∧ p.ownIdentityColumns = columns := by
  refine ⟨exists_endsAt_of_identityColumns, ?_⟩
  rintro ⟨p, hEnds, rfl⟩
  obtain ⟨columns, hFound⟩ := (exists_identityColumns_iff hSound hc).2 hEnds.acc
  obtain ⟨q, hEnds', rfl⟩ := exists_endsAt_of_identityColumns hFound
  rw [hFound, hEnds.unique hEnds']

/-- The walk over identity columns fails exactly if the way up comes back to a class. -/
theorem identityColumns_fails_iff (hSound : d.structureProblems = []) (hc : c ∈ d.classes) :
    (∃ e, d.identityColumns c = .error e) ↔ Revisits d.LacksIdentity c := by
  have hEnds : Acc (fun p c => d.LacksIdentity c p) c ↔ ¬ Revisits d.LacksIdentity c :=
    acc_iff_not_revisits fun _ _ hStep => hStep.mem_classes
  rw [exists_error_iff, exists_identityColumns_iff hSound hc, hEnds, not_not]

/-! ## Both walks -/

/-- **What keeps an identity from being found.** In a sound document the walk over the identity
types of a class fails exactly if its dependencies come back to a class, and what it finds otherwise
is the answer of the plain recursion, whether the class is given or named. The walk over its
identity columns fails exactly if the way up comes back to a class before one with identity columns,
and finds otherwise the columns of the class where the way up ends. -/
theorem identity_found_unless_revisited (hSound : d.structureProblems = []) (hc : c ∈ d.classes) :
    ((∃ e, d.identityTypes c = .error e) ↔ Revisits d.DependsOn c) ∧
      (∀ names, d.identityTypes c = .ok names ↔ d.HasTypeNames c names) ∧
      d.identityTypesOf c.name = d.identityTypes c ∧
      ((∃ e, d.identityColumns c = .error e) ↔ Revisits d.LacksIdentity c) ∧
      ∀ columns, d.identityColumns c = .ok columns ↔
        ∃ p, d.EndsAt c p ∧ p.ownIdentityColumns = columns := by
  refine ⟨identityTypes_fails_iff hSound hc, fun _ => identityTypes_eq_ok_iff hSound hc, ?_,
    identityColumns_fails_iff hSound hc, fun _ => identityColumns_eq_ok_iff hSound hc⟩
  rw [identityTypesOf, class?_eq_some hSound hc]

/-- Both sides of a corner are at one place, which is not a circle. A ring refers to a ring, a link
is what it extends, and two loops extend each other. -/
def crossing : Document where
  classes :=
    [{ name := "Place"
       fields := [{ name := "id", type := "integer", identity := true, columns := ["id"] }] },
     { name := "Left"
       fields := [{ name := "at", type := "Place", identity := true, columns := ["at_id"] }] },
     { name := "Right"
       fields := [{ name := "at", type := "Place", identity := true, columns := ["at_id"] }] },
     { name := "Corner"
       fields :=
         [{ name := "left", type := "Left", identity := true, columns := ["left_id"] },
          { name := "right", type := "Right", identity := true, columns := ["right_id"] }] },
     { name := "Ring"
       fields := [{ name := "next", type := "Ring", identity := true, columns := ["next_id"] }] },
     { name := "Link", parent := some "Ring" },
     { name := "Loop", parent := some "Noose" },
     { name := "Noose", parent := some "Loop" }]

/-- A class above a diamond has the types of both its ways. One that refers to a ring has none,
though its columns are found, and one that extends itself has no columns. -/
theorem identity_of_crossing :
    crossing.HasTypeNames crossing.classes[3] ["integer", "integer"] ∧
      Revisits crossing.DependsOn crossing.classes[5] ∧
      (∃ p, crossing.EndsAt crossing.classes[5] p ∧ p.ownIdentityColumns = ["next_id"]) ∧
      Revisits crossing.LacksIdentity crossing.classes[6] := by
  have hSound : crossing.structureProblems = [] := by decide +kernel
  have hFound (i : Fin 8) := identity_found_unless_revisited hSound
    (List.getElem_mem i.2 : crossing.classes[i] ∈ crossing.classes)
  -- what the walk answers for the classes is computed
  have hCorner : crossing.identityTypes crossing.classes[3] = .ok ["integer", "integer"] := by
    decide +kernel
  have hLink : crossing.identityTypes crossing.classes[5] =
      .error (.circularIdentity ["Link", "Ring", "Ring"]) := by decide +kernel
  have hColumns : crossing.identityColumns crossing.classes[5] = .ok ["next_id"] := by
    decide +kernel
  have hLoop : crossing.identityColumns crossing.classes[6] =
      .error (.circularExtends "Loop" "Loop") := by decide +kernel
  -- and what it means is said by the theorem
  exact ⟨((hFound 3).2.1 _).1 hCorner, (hFound 5).1.1 ⟨_, hLink⟩,
    ((hFound 5).2.2.2.2 _).1 hColumns, (hFound 6).2.2.2.1.1 ⟨_, hLoop⟩⟩

end Document

end MappingDdl
