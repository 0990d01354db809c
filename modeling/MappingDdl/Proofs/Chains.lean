import Mathlib.Data.Fintype.EquivFin
import Mathlib.Data.Set.Finite.Basic
import Mathlib.Order.WellFounded
import MappingDdl.Proofs.IdentityTypes

/-!
# Chains — where a class comes back to itself by extending

`Document.Extends` is one step from a class to its parent. A class has one parent at most, so its
chain either ends or comes back to a class on it (`Document.ComesBack`). A lineage lists each class
of the chain once, and says in its last constructor how the chain goes on from there.

Main results:

* `acc_iff_not_revisits` — among finitely many classes, every way comes to an end exactly if none
  comes back.
* `Document.lineageFrom_cases` — the four ways in which a lineage goes on from a class.
* `Document.isCircular_lineage_iff` — the lineage of a class ends in a circle exactly if its chain
  comes back.
-/

namespace MappingDdl

/-! ## Ways that come back -/

/-- Some way of steps from `a` comes to a place that it can come back to. -/
def Revisits {α : Type} (step : α → α → Prop) (a : α) : Prop :=
  ∃ b, Relation.ReflTransGen step a b ∧ Relation.TransGen step b b

section Revisits

variable {α : Type} {step : α → α → Prop} {a : α}

/-- Where every way comes to an end, none comes back. -/
theorem not_revisits_of_acc (h : Acc (fun b a => step a b) a) : ¬ Revisits step a := by
  rintro ⟨q, hReach, hBack⟩
  -- every place on the way has ways that end only
  have hEnds : Acc (fun b a => step a b) q := by
    clear hBack
    induction hReach with
    | refl => exact h
    | tail _ hStep ih => exact ih.inv hStep
  exact Document.not_rel_self_of_acc hEnds.transGen (Relation.transGen_swap.2 hBack)

/-- Where all steps lead into one list, a way that does not come back ends: it can only go on to
places further down, and these are finitely many. -/
theorem acc_iff_not_revisits {places : List α} (hPlaces : ∀ a b, step a b → b ∈ places) :
    Acc (fun b a => step a b) a ↔ ¬ Revisits step a := by
  refine ⟨not_revisits_of_acc, fun hNone => ?_⟩
  -- `further q p`: the place `q` is further down a way from `a` than `p`
  let further (q p : { b // b ∈ places }) : Prop :=
    Relation.ReflTransGen step a p ∧ Relation.TransGen step p q
  have : Finite { b // b ∈ places } := (List.finite_toSet places).to_subtype
  have : IsTrans _ further :=
    ⟨fun q p o hqp hpo => ⟨hpo.1, hpo.2.trans hqp.2⟩⟩
  have : Std.Irrefl further := ⟨fun q hq => hNone ⟨q, hq⟩⟩
  have hWell : WellFounded further := Finite.wellFounded_of_trans_of_irrefl further
  -- from the places that are left, and these are fewer with each step
  have hBelow (p : { b // b ∈ places }) (hReach : Relation.ReflTransGen step a p) :
      Acc (fun b a => step a b) (p : α) := by
    induction p using hWell.induction with
    | _ p ih =>
      refine Acc.intro _ fun q hStep => ?_
      exact ih ⟨q, hPlaces _ _ hStep⟩ ⟨hReach, .single hStep⟩ (hReach.tail hStep)
  exact Acc.intro a fun q hStep => hBelow ⟨q, hPlaces _ _ hStep⟩ (.single hStep)

end Revisits

namespace Lineage

/-- Whether the last class of the chain extends a class of the chain. -/
def isCircular : Lineage → Bool
  | root _ | unknownParent _ _ => false
  | cycle _ _ => true
  | step _ rest => rest.isCircular

/-- The classes of the chain before the last one. -/
def inner (l : Lineage) : List ClassMapping :=
  l.toList.dropLast

/-- One more class below leaves the last one where it is. -/
theorem inner_step (c : ClassMapping) (rest : Lineage) :
    (step c rest).inner = c :: rest.inner := by
  obtain ⟨cs, hList⟩ := rest.toList_eq_head_cons
  have hSome : rest.toList ≠ [] := by simp [hList]
  exact List.dropLast_cons_of_ne_nil hSome

/-- A walk up the chain that stops at the first class with identity columns comes to the circle:
none of the classes before the last one has any. -/
def ReachesCircle (l : Lineage) : Prop :=
  l.isCircular = true ∧ ∀ c ∈ l.inner, c.ownIdentityColumns = []

/-- A class that extends one met before is at the circle. -/
theorem reachesCircle_cycle (c : ClassMapping) (parent : String) :
    (cycle c parent).ReachesCircle :=
  ⟨rfl, fun _ hc => absurd hc List.not_mem_nil⟩

/-- From a class below, the walk comes there if it has no identity columns to stop at. -/
theorem reachesCircle_step_iff {c : ClassMapping} {rest : Lineage} :
    (step c rest).ReachesCircle ↔ c.ownIdentityColumns = [] ∧ rest.ReachesCircle := by
  unfold ReachesCircle
  rw [inner_step, List.forall_mem_cons]
  exact and_left_comm

end Lineage

namespace Document

variable {d : Document}

/-- The class `c` extends the class `p`. -/
def Extends (d : Document) (c p : ClassMapping) : Prop :=
  d.parent c = .ok (some p)

/-- From `c` on, the classes that extend each other come back to one of them. -/
def ComesBack (d : Document) (c : ClassMapping) : Prop :=
  ∃ q, Relation.ReflTransGen d.Extends c q ∧ Relation.TransGen d.Extends q q

/-- A class extends nothing, a name that no class has, a class that is still to be met, or one that
was met before. -/
theorem lineageFrom_cases (d : Document) (unmet : List ClassMapping) (c : ClassMapping) :
    (d.parent c = .ok none ∧ d.lineageFrom unmet c = .root c) ∨
      (∃ name, d.parent c = .error (.unknownParent c.name name) ∧
        d.lineageFrom unmet c = .unknownParent c name) ∨
      (∃ p, d.Extends c p ∧ unmet.any (·.name == p.name) = true ∧
        d.lineageFrom unmet c = .step c (d.lineageFrom (without unmet p.name) p)) ∨
      ∃ p, d.Extends c p ∧ unmet.any (·.name == p.name) = false ∧
        d.lineageFrom unmet c = .cycle c p.name := by
  cases hGiven : given c.parent with
  | none =>
    have hParent : d.parent c = .ok none := by rw [parent, hGiven]
    -- without a parent it is a root
    exact Or.inl ⟨hParent, lineageFrom_of_parent_none hParent⟩
  | some name =>
    cases hClass : d.class? name with
    | none =>
      -- the parent is the name of no class
      refine Or.inr (Or.inl ⟨name, ?_, ?_⟩)
      · simp only [parent, hGiven, hClass]
      · rw [lineageFrom, hGiven]
        simp only [hClass]
    | some p =>
      have hParent : d.Extends c p := by simp only [Extends, parent, hGiven, hClass]
      cases hUnmet : unmet.any (·.name == p.name) with
      | true =>
        -- it is met now for the first time
        refine Or.inr (Or.inr (Or.inl ⟨p, hParent, hUnmet, ?_⟩))
        exact lineageFrom_of_parent hParent hUnmet
      | false =>
        -- it was met before
        refine Or.inr (Or.inr (Or.inr ⟨p, hParent, hUnmet, ?_⟩))
        rw [lineageFrom, hGiven]
        simp [hClass, hUnmet]

/-- A class that is extended is a class of the document. -/
theorem Extends.mem_classes {c p : ClassMapping} (h : d.Extends c p) : p ∈ d.classes := by
  obtain ⟨name, -, hClass⟩ := given_parent_of_parent h
  exact List.mem_of_find?_eq_some hClass

/-- A name that is taken off the names to be met is the only one that is not met any more. -/
theorem name_eq_of_any_without {unmet : List ClassMapping} {name other : String}
    (hOld : unmet.any (·.name == other) = true)
    (hNone : (without unmet name).any (·.name == other) = false) : other = name := by
  by_contra hNe
  have hLeft := any_without_iff.2 ⟨hOld, hNe⟩
  rw [hNone] at hLeft
  cases hLeft

/-- Classes of one name are one class. -/
theorem class_eq_of_name_eq (hSound : d.structureProblems = []) {c c' : ClassMapping}
    (hc : c ∈ d.classes) (hc' : c' ∈ d.classes) (hName : c.name = c'.name) : c = c' :=
  List.inj_on_of_nodup_map (structureProblems_eq_nil_iff.1 hSound).1 hc hc' hName

/-! ## Circles -/

/-- A lineage that ends in a circle does so at a class that was met on the way to its last class. -/
theorem comesBack_of_lineageFrom (hSound : d.structureProblems = [])
    {unmet : List ClassMapping} {c : ClassMapping}
    (hMet : ∀ q ∈ d.classes, unmet.any (·.name == q.name) = false →
      Relation.ReflTransGen d.Extends q c)
    (h : (d.lineageFrom unmet c).isCircular = true) : d.ComesBack c := by
  rcases lineageFrom_cases d unmet c with
    ⟨-, hEq⟩ | ⟨name, -, hEq⟩ | ⟨p, hExtends, hUnmet, hEq⟩ | ⟨p, hExtends, hUnmet, hEq⟩
  -- neither a root nor an unknown parent is a circle
  · rw [hEq] at h
    cases h
  · rw [hEq] at h
    cases h
  · rw [hEq] at h
    -- the parent is met now, and whatever was met before leads to it as well
    have hMetAbove : ∀ q ∈ d.classes, (without unmet p.name).any (·.name == q.name) = false →
        Relation.ReflTransGen d.Extends q p := by
      intro q hq hNone
      cases hOld : unmet.any (·.name == q.name) with
      | true =>
        have hSame : q.name = p.name := name_eq_of_any_without hOld hNone
        rw [class_eq_of_name_eq hSound hq hExtends.mem_classes hSame]
      | false => exact (hMet q hq hOld).tail hExtends
    obtain ⟨q, hReach, hCircle⟩ := comesBack_of_lineageFrom hSound hMetAbove h
    exact ⟨q, .head hExtends hReach, hCircle⟩
  -- the parent was met before, so that it leads to the class which extends it
  · have hReach := hMet p hExtends.mem_classes hUnmet
    exact ⟨p, .single hExtends, .tail' hReach hExtends⟩
termination_by unmet.length
decreasing_by exact length_without_lt hUnmet

/-- Where the lineage does not end in a circle, the chain ends. -/
theorem acc_of_isCircular_eq_false {unmet : List ClassMapping} {c : ClassMapping}
    (h : (d.lineageFrom unmet c).isCircular = false) : Acc (fun p c => d.Extends c p) c := by
  refine Acc.intro c fun q hq => ?_
  rcases lineageFrom_cases d unmet c with
    ⟨hParent, -⟩ | ⟨name, hParent, -⟩ | ⟨p, hExtends, hUnmet, hEq⟩ | ⟨p, -, -, hEq⟩
  -- a class without a parent that is a class has nothing above it
  · cases hParent.symm.trans hq
  · cases hParent.symm.trans hq
  · -- a class has no other parent
    cases hExtends.symm.trans hq
    rw [hEq] at h
    exact acc_of_isCircular_eq_false h
  -- and what ends in a circle is excluded
  · rw [hEq] at h
    cases h
termination_by unmet.length
decreasing_by exact length_without_lt hUnmet

/-- **The end of a lineage.** In a sound document the lineage of a class ends in a circle exactly if
the chain of the classes it extends comes back to one of them. -/
theorem isCircular_lineage_iff (hSound : d.structureProblems = []) {c : ClassMapping}
    (hc : c ∈ d.classes) : (d.lineage c).isCircular = true ↔ d.ComesBack c := by
  constructor
  · intro h
    refine comesBack_of_lineageFrom hSound (fun q hq hMet => ?_) h
    -- at the start only the class itself was met
    have hListed : d.classes.any (·.name == q.name) = true :=
      List.any_eq_true.2 ⟨q, hq, beq_self_eq_true _⟩
    rw [class_eq_of_name_eq hSound hq hc (name_eq_of_any_without hListed hMet)]
  · intro h
    by_contra hCircular
    have hEnds : (d.lineage c).isCircular = false := by simpa using hCircular
    exact not_revisits_of_acc (acc_of_isCircular_eq_false hEnds) h

end Document

end MappingDdl
