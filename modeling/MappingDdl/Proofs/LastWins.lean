import Mathlib.Data.List.Nodup
import MappingDdl.KeyGenerator.Registry
import MappingDdl.Proofs.Spelling

/-!
# The last declaration wins — what a registry of key generators stands for

A registry keeps two things: the key generators by name, and the names that were declared. What it
answers depends on less: the declarations that were registered since the last reset, in order
(`KeyGeneratorRegistry.history`). Of those with one upper-case name the last one counts, and a
strategy of the dialect stands for itself where none has its name.

`KeyGeneratorRegistry.Follows` ties the two parts of a registry to the declarations. Every action
keeps it (`Follows.after`), and so does every run of actions; the answers follow from it.

Main results:

* `KeyGeneratorRegistry.follows_run` — a registry stands for the declarations of its history.
* `KeyGeneratorRegistry.run_lastWins` — its answers, names, refusals and warnings after any actions.
-/

namespace MappingDdl

/-! ## Declarations -/

/-- Whether the dialect has the strategy that a declaration asks for. -/
def Dialect.supports (d : Dialect) (g : KeyGeneratorDef) : Bool :=
  (Strategy.ofText? g.strategy).any (d.strategies.contains ·)

/-- The key generator that a declaration stands for; none, if its strategy is unknown. -/
def KeyGeneratorDef.generator? (g : KeyGeneratorDef) : Option KeyGenerator :=
  (Strategy.ofText? g.strategy).map fun s => { name := g.key, strategy := s, params := g.params }

/-- The key generator that a dialect has under a name without any declaration. -/
def Dialect.ownGenerator? (d : Dialect) (key : String) : Option KeyGenerator :=
  (d.strategies.find? (·.text == key)).map fun s => { name := s.text, strategy := s, params := [] }

/-- The last of the declarations of a name. -/
def KeyGeneratorDef.last? (gs : List KeyGeneratorDef) (key : String) : Option KeyGeneratorDef :=
  (gs.filter (·.key == key)).getLast?

/-- What a name stands for after some declarations. -/
def Dialect.lookup (d : Dialect) (gs : List KeyGeneratorDef) (key : String) :
    Option KeyGenerator :=
  match KeyGeneratorDef.last? gs key with
  | some g => g.generator?
  | none => d.ownGenerator? key

namespace KeyGeneratorDef

variable {gs : List KeyGeneratorDef} {g : KeyGeneratorDef} {key : String}

/-- One more declaration is the last one of its own name only. -/
theorem last?_concat (gs : List KeyGeneratorDef) (g : KeyGeneratorDef) (key : String) :
    last? (gs ++ [g]) key = if g.key = key then some g else last? gs key := by
  rw [last?, List.filter_append]
  by_cases hKey : g.key = key
  · simp [hKey]
  · simp [hKey, last?]

/-- Only a name that is not declared has no last declaration. -/
theorem last?_eq_none_iff : last? gs key = none ↔ key ∉ gs.map (·.key) := by
  rw [last?, List.getLast?_eq_none_iff, List.filter_eq_nil_iff]
  simp

/-- The last declaration of a name is a declaration of this name. -/
theorem mem_of_last? (h : last? gs key = some g) : g ∈ gs ∧ g.key = key := by
  simpa using List.mem_of_getLast? h

end KeyGeneratorDef

/-- A declaration makes a key generator exactly if the dialect supports it. -/
theorem KeyGenerator.ofDef_eq_ok_iff {d : Dialect} {g : KeyGeneratorDef} {made : KeyGenerator} :
    KeyGenerator.ofDef d g = .ok made ↔ d.supports g = true ∧ g.generator? = some made := by
  rw [ofDef, Dialect.supports, KeyGeneratorDef.generator?]
  cases Strategy.ofText? g.strategy with
  | none => simp
  | some s => by_cases h : s ∈ d.strategies <;> simp [h]

/-- It is refused exactly if the dialect does not. -/
theorem KeyGenerator.exists_ofDef_eq_error_iff {d : Dialect} {g : KeyGeneratorDef} :
    (∃ e, KeyGenerator.ofDef d g = .error e) ↔ d.supports g = false := by
  rw [ofDef, Dialect.supports]
  cases Strategy.ofText? g.strategy with
  | none => simp
  | some s => by_cases h : s ∈ d.strategies <;> simp [h]

/-! ## Actions -/

namespace KeyGeneratorRegistry

/-- What is done with a registry. -/
inductive Action
  | register (g : KeyGeneratorDef)
  | load (gs : List KeyGeneratorDef)
  | reset
  | get (name : Option String)

/-- The declarations that an action is about. -/
def Action.declarations : Action → List KeyGeneratorDef
  | register g => [g]
  | load gs => gs
  | reset => []
  | get _ => []

/-- The declarations that count after an action, given those that did before it. Registration stops
at the first one that the dialect does not support. -/
def Action.declare (d : Dialect) (gs : List KeyGeneratorDef) : Action → List KeyGeneratorDef
  | register g => if d.supports g then gs ++ [g] else gs
  | load new => gs ++ new.takeWhile d.supports
  | reset => []
  | get _ => gs

/-- The declarations that were registered since the last reset, in order. -/
def history (d : Dialect) (as : List Action) : List KeyGeneratorDef :=
  as.foldl (Action.declare d) []

/-- A registry after an action. One that fails leaves what it made before. -/
def after (r : KeyGeneratorRegistry) : Action → KeyGeneratorRegistry
  | .register g =>
    match (r.register g).outcome with
    | .ok (r', _) => r'
    | .error _ => r
  | .load gs => (r.load gs).1
  | .reset => r.reset
  | .get _ => r

/-- The records of an action. -/
def log (r : KeyGeneratorRegistry) : Action → List LogRecord
  | .register g => (r.register g).log
  | .load gs => (r.load gs).2.log
  | .reset => []
  | .get _ => []

/-- A registry after actions, one after the other. -/
def run (r : KeyGeneratorRegistry) (as : List Action) : KeyGeneratorRegistry :=
  as.foldl after r

/-- The records of actions, one after the other. -/
def runLog (r : KeyGeneratorRegistry) : List Action → List LogRecord
  | [] => []
  | a :: rest => r.log a ++ (r.after a).runLog rest

/-! ## What every action keeps -/

/-- The two parts of the registry stand for the declarations `gs`. -/
structure Follows (r : KeyGeneratorRegistry) (d : Dialect) (gs : List KeyGeneratorDef) : Prop where
  dialect   : r.dialect = d
  supported : ∀ g ∈ gs, d.supports g = true
  declared  : ∀ key, key ∈ r.declared ↔ key ∈ gs.map (·.key)
  lookup    : ∀ key, r.generators.find? (·.name == key) = d.lookup gs key
  nodup     : d.strategies.Nodup → (r.generators.map (·.name)).Nodup

variable {r : KeyGeneratorRegistry} {d : Dialect} {gs : List KeyGeneratorDef} {g : KeyGeneratorDef}
  {made : KeyGenerator}

/-- A new registry stands for no declarations. -/
theorem follows_initial (d : Dialect) : (initial d).Follows d [] where
  dialect := rfl
  supported := List.forall_mem_nil _
  declared _ := Iff.rfl
  -- no declaration is there, so each name stands for a strategy or for nothing
  lookup key := by
    rw [initial, List.find?_map]
    rfl
  nodup hSet := by
    -- different strategies have different names
    have hInjective : Function.Injective Strategy.text := by
      intro s s' h
      cases s <;> cases s' <;> first | rfl | exact absurd h (by decide)
    rw [initial, List.map_map]
    exact hSet.map hInjective

/-- With what a declaration makes, a registry stands for one declaration more. -/
theorem Follows.insert (h : r.Follows d gs) (hDef : KeyGenerator.ofDef r.dialect g = .ok made) :
    (r.insert made).Follows d (gs ++ [g]) := by
  rw [h.dialect] at hDef
  obtain ⟨hSupported, hMade⟩ := KeyGenerator.ofDef_eq_ok_iff.1 hDef
  -- it is registered under the key of the declaration
  have hName : made.name = g.key := by
    obtain ⟨s, -, rfl⟩ := Option.map_eq_some_iff.1 hMade
    rfl
  refine ⟨h.dialect, ?_, fun key => ?_, fun key => ?_, fun hSet => ?_⟩
  -- all that counts is supported
  · exact List.forall_mem_append.2 ⟨h.supported, List.forall_mem_singleton.2 hSupported⟩
  -- the keys are those of the declarations, with the new one
  · rw [KeyGeneratorRegistry.insert, List.mem_cons, h.declared, hName, List.map_append,
      List.mem_append, List.map_singleton, List.mem_singleton, or_comm]
  · -- the new declaration is the last one of its own name, and none of another one
    rw [find?_insert, hName, Dialect.lookup, KeyGeneratorDef.last?_concat]
    by_cases hKey : g.key = key
    · rw [if_pos hKey, if_pos hKey]
      exact hMade.symm
    · rw [if_neg hKey, if_neg hKey, h.lookup, Dialect.lookup]
  · -- the new generator is the only one of its name
    rw [KeyGeneratorRegistry.insert, List.map_cons, List.nodup_cons]
    refine ⟨fun hMem => ?_, (h.nodup hSet).sublist (List.filter_sublist.map _)⟩
    obtain ⟨other, hOther, hSame⟩ := List.mem_map.1 hMem
    simpa [hSame] using (List.mem_filter.1 hOther).2

/-- A declaration that makes a key generator is registered, -/
theorem register_of_ok (hDef : KeyGenerator.ofDef r.dialect g = .ok made) :
    r.register g = ⟨r.registered g made, .ok (r.insert made, made)⟩ := by
  rw [register, hDef]

/-- and any other one fails. -/
theorem register_of_error {e : KeyGeneratorError}
    (hDef : KeyGenerator.ofDef r.dialect g = .error e) : r.register g = .fail e := by
  rw [register, hDef]

/-- The registry then has the key generator, -/
theorem after_of_ok (hDef : KeyGenerator.ofDef r.dialect g = .ok made) :
    r.after (.register g) = r.insert made := by
  rw [after, register_of_ok hDef]

/-- or stays as it is. -/
theorem after_of_error {e : KeyGeneratorError}
    (hDef : KeyGenerator.ofDef r.dialect g = .error e) : r.after (.register g) = r := by
  rw [after, register_of_error hDef]
  rfl

/-- A list is loaded from its first declaration on, -/
theorem load_cons_of_ok {rest : List KeyGeneratorDef}
    (hDef : KeyGenerator.ofDef r.dialect g = .ok made) :
    r.load (g :: rest) = (((r.insert made).load rest).1,
      ⟨r.registered g made ++ ((r.insert made).load rest).2.log,
        ((r.insert made).load rest).2.outcome⟩) := by
  rw [load, hDef]

/-- up to the one that is refused. -/
theorem load_cons_of_error {rest : List KeyGeneratorDef} {e : KeyGeneratorError}
    (hDef : KeyGenerator.ofDef r.dialect g = .error e) : r.load (g :: rest) = (r, .fail e) := by
  rw [load, hDef]

/-- What a supported declaration makes, and what is refused. -/
theorem Follows.made_or_refused (h : r.Follows d gs) (g : KeyGeneratorDef) :
    (d.supports g = true ∧ ∃ made, g.generator? = some made ∧
      KeyGenerator.ofDef r.dialect g = .ok made) ∨
    (d.supports g = false ∧ ∃ e, KeyGenerator.ofDef r.dialect g = .error e) := by
  rw [h.dialect]
  cases hDef : KeyGenerator.ofDef d g with
  | ok made =>
    obtain ⟨hSupported, hMade⟩ := KeyGenerator.ofDef_eq_ok_iff.1 hDef
    exact Or.inl ⟨hSupported, made, hMade, rfl⟩
  | error e => exact Or.inr ⟨KeyGenerator.exists_ofDef_eq_error_iff.1 ⟨e, hDef⟩, e, rfl⟩

/-- A registry into which a list was loaded stands for what comes before its first refusal. -/
theorem Follows.load (h : r.Follows d gs) (new : List KeyGeneratorDef) :
    (r.load new).1.Follows d (gs ++ new.takeWhile d.supports) := by
  induction new generalizing r gs with
  | nil =>
    rw [List.takeWhile_nil, List.append_nil]
    exact h
  | cons g rest ih =>
    rcases h.made_or_refused g with ⟨hSupported, made, -, hDef⟩ | ⟨hRefused, e, hDef⟩
    · -- the rest is loaded into a registry that stands for one declaration more
      rw [load_cons_of_ok hDef, List.takeWhile_cons_of_pos hSupported, List.append_cons]
      exact ih (h.insert hDef)
    · -- nothing behind the first declaration that is refused is looked at
      rw [load_cons_of_error hDef, List.takeWhile_cons_of_neg (by simp [hRefused]), List.append_nil]
      exact h

/-- A list that is loaded without a failure has no declaration that the dialect does not support. -/
theorem Follows.supported_of_load (h : r.Follows d gs) {new : List KeyGeneratorDef}
    (hLoaded : (r.load new).2.outcome = .ok ()) : ∀ g ∈ new, d.supports g = true := by
  induction new generalizing r gs with
  | nil => exact List.forall_mem_nil _
  | cons g rest ih =>
    rcases h.made_or_refused g with ⟨hSupported, made, -, hDef⟩ | ⟨-, e, hDef⟩
    · rw [load_cons_of_ok hDef] at hLoaded
      exact List.forall_mem_cons.2 ⟨hSupported, ih (h.insert hDef) hLoaded⟩
    · rw [load_cons_of_error hDef] at hLoaded
      cases hLoaded

/-- **One action.** The registry keeps standing for the declarations that count. -/
theorem Follows.after (h : r.Follows d gs) (a : Action) :
    (r.after a).Follows d (a.declare d gs) := by
  cases a with
  -- a declaration counts if it is supported
  | register g =>
    rcases h.made_or_refused g with ⟨hSupported, made, -, hDef⟩ | ⟨hRefused, e, hDef⟩
    · rw [after_of_ok hDef, Action.declare, if_pos hSupported]
      exact h.insert hDef
    · rw [after_of_error hDef, Action.declare, if_neg (by simp [hRefused])]
      exact h
  -- of a list everything up to the first refusal counts
  | load new => exact h.load new
  -- after a reset nothing counts
  | reset =>
    have hReset : r.after .reset = initial d := congrArg initial h.dialect
    rw [hReset]
    exact follows_initial d
  -- a question changes nothing
  | get name => exact h

/-- So it does after any actions. -/
theorem follows_foldl (h : r.Follows d gs) (as : List Action) :
    (r.run as).Follows d (as.foldl (Action.declare d) gs) := by
  induction as generalizing r gs with
  | nil => exact h
  | cons a rest ih => exact ih (h.after a)

/-- **Any actions.** A registry stands for the declarations of its history. -/
theorem follows_run (d : Dialect) (as : List Action) :
    ((initial d).run as).Follows d (history d as) :=
  follows_foldl (follows_initial d) as

/-! ## Answers -/

end KeyGeneratorRegistry

/-- The warning that a declaration replaces an earlier one. -/
def KeyGeneratorDef.replacing (g : KeyGeneratorDef) : String :=
  s!"Key generator '{g.name}' declared more than once, " ++
    "the last declaration replaces the earlier one"

/-- A name stands for something if it is that of a strategy or of a declaration. -/
theorem Dialect.isSome_lookup_iff {d : Dialect} {gs : List KeyGeneratorDef} {key : String}
    (hMade : ∀ g ∈ gs, g.generator?.isSome) :
    (d.lookup gs key).isSome ↔ key ∈ d.strategies.map (·.text) ∨ key ∈ gs.map (·.key) := by
  rw [lookup]
  cases hLast : KeyGeneratorDef.last? gs key with
  | some g =>
    obtain ⟨hMem, hKey⟩ := KeyGeneratorDef.mem_of_last? hLast
    exact ⟨fun _ => Or.inr (List.mem_map.2 ⟨g, hMem, hKey⟩), fun _ => hMade g hMem⟩
  | none =>
    have hOther := KeyGeneratorDef.last?_eq_none_iff.1 hLast
    simp [ownGenerator?, hOther]

namespace KeyGeneratorRegistry

variable {r : KeyGeneratorRegistry} {d : Dialect} {gs : List KeyGeneratorDef} {g : KeyGeneratorDef}
  {made : KeyGenerator}

/-- How a registry answers where the declarations `gs` count. -/
structure LastWins (r : KeyGeneratorRegistry) (d : Dialect) (gs : List KeyGeneratorDef) :
    Prop where
  made : ∀ g ∈ gs, g.generator?.isSome
  /-- A name is found in any letter case, with blanks around it. -/
  get : ∀ name n t : String, name ≠ "" → Text.trim name = name → Text.Pads n t →
    Text.upper t = Text.upper name → r.get? (some n) = d.lookup gs (Text.upper name)
  get_blank : ∀ n : String, Text.trim n = "" → r.get? (some n) = none
  get_none : r.get? none = none
  /-- The names increase, and are those of the strategies and of the declarations. -/
  names : r.names.Pairwise (· < ·)
  mem_names : ∀ key, key ∈ r.names ↔ key ∈ d.strategies.map (·.text) ∨ key ∈ gs.map (·.key)
  /-- A registration warns of a name that was declared, not of one that only a strategy has. -/
  registers : ∀ g, d.supports g = true → ∃ made, g.generator? = some made ∧
    (r.register g).outcome = .ok (r.after (.register g), made) ∧
    (r.register g).warnings = if g.key ∈ gs.map (·.key) then [g.replacing] else []
  refuses : ∀ g, d.supports g = false →
    ∃ e, r.register g = .fail e ∧ r.after (.register g) = r
  loads : ∀ new : List KeyGeneratorDef, (∀ g ∈ new, d.supports g = true) →
    r.load new = (r.run (new.map .register), ⟨r.runLog (new.map .register), .ok ()⟩)
  /-- A list is registered up to the first declaration that is refused. -/
  stops : ∀ (done : List KeyGeneratorDef) (g : KeyGeneratorDef) (rest : List KeyGeneratorDef),
    (∀ x ∈ done, d.supports x = true) → d.supports g = false →
    ∃ e, r.register g = .fail e ∧ r.load (done ++ g :: rest) =
      (r.run (done.map .register), ⟨r.runLog (done.map .register), .error e⟩)
  reset : r.after .reset = initial d

/-! ### Names -/

/-- A name is looked up in upper case, without the blanks around it. -/
theorem Follows.get_of_ne_empty (h : r.Follows d gs) {n : String} (hn : n ≠ "") :
    r.get? (some n) = d.lookup gs (Text.upper (Text.trim n)) := by
  rw [get?, given_eq_some_iff.2 ⟨rfl, hn⟩, ← h.lookup]
  rfl

/-- What stands under a name has this name. -/
theorem Follows.name_of_lookup (h : r.Follows d gs) {key : String}
    (hFound : d.lookup gs key = some made) : made.name = key := by
  rw [← h.lookup] at hFound
  simpa using List.find?_some hFound

/-- So it is found in any case and with any blanks around it. -/
theorem Follows.get (h : r.Follows d gs) {name n t : String} (hName : name ≠ "")
    (hTrim : Text.trim name = name) (hPads : Text.Pads n t)
    (hCase : Text.upper t = Text.upper name) :
    r.get? (some n) = d.lookup gs (Text.upper name) := by
  have hKey := hPads.upper_trim_eq hCase hTrim
  -- a name in upper case is not empty, so the text it was made from is not either
  have hn : n ≠ "" := by
    rintro rfl
    exact Text.upper_ne_empty hName (hKey.symm.trans (by decide))
  rw [h.get_of_ne_empty hn, hKey]

/-- Nothing has a blank name. -/
theorem Follows.get_blank (h : r.Follows d gs) (hNames : ∀ g ∈ gs, g.name ≠ "") {n : String}
    (hBlank : Text.trim n = "") : r.get? (some n) = none := by
  -- no name at all
  by_cases hn : n = ""
  · rw [hn]
    rfl
  · -- neither a declaration nor a strategy has the empty name
    have hLast : KeyGeneratorDef.last? gs "" = none := by
      refine KeyGeneratorDef.last?_eq_none_iff.2 fun hMem => ?_
      obtain ⟨g, hg, hKey⟩ := List.mem_map.1 hMem
      exact Text.upper_ne_empty (hNames g hg) hKey
    have hOwn : d.ownGenerator? "" = none := by
      rw [Dialect.ownGenerator?, Option.map_eq_none_iff, List.find?_eq_none]
      intro s _
      cases s <;> decide
    rw [h.get_of_ne_empty hn, hBlank]
    have hEmpty : Text.upper "" = "" := by decide
    rw [hEmpty, Dialect.lookup, hLast]
    exact hOwn

/-- Each declaration that counts makes a key generator. -/
theorem Follows.isSome_generator? (h : r.Follows d gs) : ∀ g ∈ gs, g.generator?.isSome := by
  intro g hg
  have hSupported := h.supported g hg
  rw [Dialect.supports] at hSupported
  obtain ⟨s, hStrategy, -⟩ := (Option.any_eq_true _ _).1 hSupported
  rw [KeyGeneratorDef.generator?, hStrategy]
  rfl

/-- The names of a registry are those of strategies and declarations. -/
theorem Follows.mem_names (h : r.Follows d gs) (key : String) :
    key ∈ r.names ↔ key ∈ d.strategies.map (·.text) ∨ key ∈ gs.map (·.key) := by
  rw [← Dialect.isSome_lookup_iff h.isSome_generator?, ← h.lookup key, names, Text.mem_sorted]
  simp

/-! ### Registrations -/

/-- What is made of a declaration that the dialect supports. -/
theorem Follows.exists_made (h : r.Follows d gs) (hSupported : d.supports g = true) :
    ∃ made, g.generator? = some made ∧ KeyGenerator.ofDef r.dialect g = .ok made := by
  rcases h.made_or_refused g with ⟨-, hMade⟩ | ⟨hRefused, -⟩
  · exact hMade
  · cases hRefused.symm.trans hSupported

/-- A declaration that the dialect does not support is refused. -/
theorem Follows.exists_refusal (h : r.Follows d gs) (hRefused : d.supports g = false) :
    ∃ e, KeyGenerator.ofDef r.dialect g = .error e := by
  rcases h.made_or_refused g with ⟨hSupported, -⟩ | ⟨-, hError⟩
  · cases hRefused.symm.trans hSupported
  · exact hError

/-- A supported declaration is registered, with a warning if its name is taken. -/
theorem Follows.registers (h : r.Follows d gs) (hSupported : d.supports g = true) :
    ∃ made, g.generator? = some made ∧
      (r.register g).outcome = .ok (r.after (.register g), made) ∧
      (r.register g).warnings = if g.key ∈ gs.map (·.key) then [g.replacing] else [] := by
  obtain ⟨made, hMade, hDef⟩ := h.exists_made hSupported
  refine ⟨made, hMade, ?_, ?_⟩
  · rw [after_of_ok hDef, register_of_ok hDef]
  · -- of the two records that there may be, only the first one is a warning
    rw [register_of_ok hDef, Traced.warnings, registered]
    -- the name is taken, so a warning comes before the record
    by_cases hKey : g.key ∈ gs.map (·.key)
    · rw [if_pos (List.contains_iff_mem.2 ((h.declared g.key).2 hKey)), if_pos hKey]
      rfl
    · rw [if_neg (mt List.contains_iff_mem.1 (mt (h.declared g.key).1 hKey)), if_neg hKey]
      rfl

/-- One that is not supported fails and changes nothing. -/
theorem Follows.refuses (h : r.Follows d gs) (hRefused : d.supports g = false) :
    ∃ e, r.register g = .fail e ∧ r.after (.register g) = r := by
  obtain ⟨e, hDef⟩ := h.exists_refusal hRefused
  exact ⟨e, register_of_error hDef, after_of_error hDef⟩

/-- The log of a run starts with that of its first registration. -/
theorem runLog_of_ok {as : List Action} (hDef : KeyGenerator.ofDef r.dialect g = .ok made) :
    r.runLog (.register g :: as) = r.registered g made ++ (r.insert made).runLog as := by
  rw [runLog, log, after_of_ok hDef, register_of_ok hDef]

/-- What comes after supported declarations in a list is loaded as if they had been registered one
by one before. -/
theorem Follows.load_append (h : r.Follows d gs) {done : List KeyGeneratorDef}
    (hDone : ∀ x ∈ done, d.supports x = true) (rest : List KeyGeneratorDef) :
    (r.run (done.map .register)).Follows d (gs ++ done) ∧
      r.load (done ++ rest) = (((r.run (done.map .register)).load rest).1,
        ⟨r.runLog (done.map .register) ++ ((r.run (done.map .register)).load rest).2.log,
          ((r.run (done.map .register)).load rest).2.outcome⟩) := by
  -- on the declarations before, with the registry that the first one leaves
  induction done generalizing r gs with
  | nil =>
    rw [List.append_nil]
    exact ⟨h, rfl⟩
  | cons g more ih =>
    obtain ⟨hFirst, hMore⟩ := List.forall_mem_cons.1 hDone
    obtain ⟨made, -, hDef⟩ := h.exists_made hFirst
    -- the first one is registered, and the rest is loaded after it
    have hRun : r.run ((g :: more).map .register) = (r.insert made).run (more.map .register) := by
      rw [List.map_cons, run, List.foldl_cons, after_of_ok hDef]
      rfl
    obtain ⟨hFollows, hLoad⟩ := ih (h.insert hDef) hMore
    rw [hRun, List.append_cons]
    refine ⟨hFollows, ?_⟩
    rw [List.cons_append, load_cons_of_ok hDef, hLoad, List.map_cons, runLog_of_ok hDef,
      List.append_assoc]

/-- To load supported declarations is to register them one by one. -/
theorem Follows.loads (h : r.Follows d gs) {new : List KeyGeneratorDef}
    (hAll : ∀ g ∈ new, d.supports g = true) :
    r.load new = (r.run (new.map .register), ⟨r.runLog (new.map .register), .ok ()⟩) := by
  obtain ⟨-, hLoad⟩ := h.load_append hAll []
  rw [List.append_nil] at hLoad
  rw [hLoad]
  have hNil (r : KeyGeneratorRegistry) : r.load [] = (r, ⟨[], .ok ()⟩) := rfl
  rw [hNil, List.append_nil]

/-- To load a list with a refusal is to register what comes before. -/
theorem Follows.stops (h : r.Follows d gs) {done rest : List KeyGeneratorDef}
    (hDone : ∀ x ∈ done, d.supports x = true) (hRefused : d.supports g = false) :
    ∃ e, r.register g = .fail e ∧ r.load (done ++ g :: rest) =
      (r.run (done.map .register), ⟨r.runLog (done.map .register), .error e⟩) := by
  obtain ⟨hFollows, hLoad⟩ := h.load_append hDone (g :: rest)
  obtain ⟨e, hDef⟩ := h.exists_refusal hRefused
  -- the refusal is the same before and after the others are registered
  have hLater : KeyGenerator.ofDef (r.run (done.map .register)).dialect g = .error e := by
    rw [hFollows.dialect, ← h.dialect]
    exact hDef
  refine ⟨e, register_of_error hDef, ?_⟩
  rw [hLoad, load_cons_of_error hLater]
  simp only [Traced.fail, List.append_nil]

/-! ### Histories -/

/-- What counts after an action counted before or is declared by it. -/
theorem mem_of_mem_declare {a : Action} (hg : g ∈ a.declare d gs) :
    g ∈ gs ∨ g ∈ a.declarations := by
  cases a with
  -- it is the one that is registered
  | register g' =>
    rw [Action.declare] at hg
    split at hg
    · exact List.mem_append.1 hg
    · exact Or.inl hg
  -- it is one of those that are loaded
  | load new => exact (List.mem_append.1 hg).imp_right (List.takeWhile_subset _ ·)
  | reset => cases hg
  | get name => exact Or.inl hg

/-- What counts after a run is declared by one of its actions. -/
theorem exists_action_of_mem_foldl {as : List Action} (hg : g ∈ as.foldl (Action.declare d) gs) :
    g ∈ gs ∨ ∃ a ∈ as, g ∈ a.declarations := by
  induction as generalizing gs with
  | nil => exact Or.inl hg
  | cons a rest ih =>
    rcases ih hg with hHere | ⟨a', ha', hDeclared⟩
    · exact (mem_of_mem_declare hHere).imp_right fun hDeclared => ⟨a, List.mem_cons_self, hDeclared⟩
    · exact Or.inr ⟨a', List.mem_cons_of_mem _ ha', hDeclared⟩

/-- **The last declaration of a name wins.** After any actions on a new registry of a dialect, a
name stands for the last declaration of it that was registered since the last reset, else for a
strategy of the dialect. What is refused leaves no trace, and of a list what comes before it stays.
A warning tells of a name that was declared since the last reset. The strategies of a dialect are a
set, and a name that is declared is not empty. -/
theorem run_lastWins (hSet : d.strategies.Nodup) (as : List Action)
    (hNames : ∀ a ∈ as, ∀ g ∈ a.declarations, g.name ≠ "") :
    ((initial d).run as).LastWins d (history d as) := by
  have h := follows_run d as
  -- what counts was declared by an action, so that it has a name
  have hDeclared : ∀ g ∈ history d as, g.name ≠ "" := by
    intro g hg
    rcases exists_action_of_mem_foldl hg with hNone | ⟨a, ha, hMem⟩
    · cases hNone
    · exact hNames a ha g hMem
  exact
    { made := h.isSome_generator?
      get := fun _ _ _ hName hTrim hPads hCase => h.get hName hTrim hPads hCase
      get_blank := fun _ hBlank => h.get_blank hDeclared hBlank
      get_none := rfl
      names := Text.sorted_pairwise (h.nodup hSet)
      mem_names := h.mem_names
      registers := fun _ hSupported => h.registers hSupported
      refuses := fun _ hRefused => h.refuses hRefused
      loads := fun _ hAll => h.loads hAll
      stops := fun _ _ _ hDone hRefused => h.stops hDone hRefused
      reset := congrArg initial h.dialect }

/-- A declaration that a reset drops, and a list whose third declaration is refused. -/
def Action.sample : List Action :=
  [.register ⟨"max", "UUID", []⟩, .reset,
    .load [⟨"Ids", "MAX", []⟩, ⟨"ids", "UUID", []⟩, ⟨"IDS", "SNOWFLAKE", []⟩, ⟨"late", "MAX", []⟩],
    .get (some "late")]

/-- The second of two declarations of a name counts, the refused third one does not; the dropped
one uncovers the strategy. -/
theorem lastWins_of_sample :
    let r := (initial .generic).run Action.sample
    (r.get? (some " idS ")).map (·.strategy) = some .uuid ∧
      (r.get? (some "max")).map (·.strategy) = some .max ∧ r.get? (some "late") = none ∧
      "LATE" ∉ r.names := by
  intro r
  have h : r.LastWins .generic (history .generic Action.sample) :=
    run_lastWins (d := .generic) (by decide) Action.sample (by decide)
  -- the names are asked for in other spellings than they were declared in
  have hIds :=
    h.get "idS" " idS " _ (by decide) (by decide +kernel) (Text.pads_trim _) (by decide +kernel)
  have hMax :=
    h.get "max" "max" _ (by decide) (by decide +kernel) (Text.pads_trim _) (by decide +kernel)
  have hLate :=
    h.get "late" "late" _ (by decide) (by decide +kernel) (Text.pads_trim _) (by decide +kernel)
  refine ⟨?_, ?_, ?_, ?_⟩
  · rw [hIds]
    decide +kernel
  · rw [hMax]
    decide +kernel
  · rw [hLate]
    rfl
  -- the dropped declaration is not listed either
  · rw [h.mem_names]
    decide +kernel

end KeyGeneratorRegistry

end MappingDdl
