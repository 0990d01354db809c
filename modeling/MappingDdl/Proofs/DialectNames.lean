import MappingDdl.Dialect.Registry
import MappingDdl.Proofs.Spelling
import MappingDdl.Proofs.Table

/-!
# Names of dialects — what registrations make of a registry

A registration is done as a whole or not at all: it is refused for the first of its keys that is
taken, and then nothing of it is there. What is once registered stays. So a registry is told by the
registrations that succeeded, in order (`DialectRegistry.accepted`), and each of these is found
under its name and all its second names, however they are spelled.

Main results:

* `DialectRegistry.wellKept_run` — what registrations preserve.
* `DialectRegistry.run_answers` — what a registry answers after any registrations.
-/

namespace MappingDdl

/-- A registration that is asked for. -/
structure Registration where
  dialect : Dialect
  aliases : List String
  description : String

namespace Registration

/-- The names that are registered, the dialect's own first. -/
def names (q : Registration) : List String :=
  q.dialect.name :: q.aliases

/-- What is registered. -/
def entry (q : Registration) : DialectEntry :=
  ⟨{ q.dialect with name := Text.lower q.dialect.name }, q.aliases, q.description⟩

/-- The names are not empty and have no blanks around them. -/
def WellNamed (q : Registration) : Prop :=
  ∀ name ∈ q.names, name ≠ "" ∧ Text.trim name = name

instance (q : Registration) : Decidable q.WellNamed :=
  inferInstanceAs (Decidable (∀ name ∈ q.names, name ≠ "" ∧ Text.trim name = name))

/-- An entry is found under its names in lower case. -/
theorem keys_entry (q : Registration) : q.entry.keys = q.names.map Text.lower := rfl

end Registration

namespace DialectRegistry

variable {r r' : DialectRegistry} {q : Registration} {e : DialectEntry} {key : String}

/-! ## Registrations -/

/-- Tries a registration. -/
def attempt (r : DialectRegistry) (q : Registration) : Except DialectError DialectRegistry :=
  r.register q.dialect q.aliases q.description

/-- The registry after a registration was tried. -/
def after (r : DialectRegistry) (q : Registration) : DialectRegistry :=
  match r.attempt q with
  | .ok r' => r'
  | .error _ => r

/-- The registry after registrations were tried, one after the other. -/
def run (r : DialectRegistry) (qs : List Registration) : DialectRegistry :=
  qs.foldl after r

/-- What the registrations that succeed register, in order. -/
def accepted (r : DialectRegistry) : List Registration → List DialectEntry
  | [] => []
  | q :: rest =>
    match r.attempt q with
    | .ok r' => q.entry :: r'.accepted rest
    | .error _ => r.accepted rest

/-- A registration succeeds exactly if no key of it is taken, and then it comes in at the end. -/
theorem attempt_eq_ok_iff : r.attempt q = .ok r' ↔
    (∀ key ∈ q.entry.keys, key ∉ r.keys) ∧ r' = ⟨r.entries ++ [q.entry]⟩ :=
  register_eq_ok_iff

/-- **Refusals.** A registration is refused exactly if a key of it is taken, and then for the first
one that is. -/
theorem attempt_eq_error_iff {err : DialectError} : r.attempt q = .error err ↔
    ∃ before key rest, q.entry.keys = before ++ key :: rest ∧ (∀ k ∈ before, k ∉ r.keys) ∧
      key ∈ r.keys ∧ err = .duplicate key := by
  constructor
  · -- the keys are looked at in order, so the one that is found is the first that is taken
    intro h
    rw [attempt, register] at h
    split at h
    · next key hFound =>
      cases h
      obtain ⟨hTaken, before, rest, hKeys, hBefore⟩ := List.find?_eq_some_iff_append.1 hFound
      exact ⟨before, key, rest, hKeys, by simpa using hBefore, List.contains_iff_mem.1 hTaken, rfl⟩
    · cases h
  -- the search for a taken key stops at the first one
  · rintro ⟨before, key, rest, hKeys, hBefore, hTaken, rfl⟩
    have hFirst : q.entry.keys.find? r.keys.contains = some key :=
      List.find?_eq_some_iff_append.2
        ⟨List.contains_iff_mem.2 hTaken, before, rest, hKeys, by simpa using hBefore⟩
    rw [attempt, register]
    split
    · next key' hFound =>
      cases hFirst.symm.trans hFound
      rfl
    · next hNone => cases hFirst.symm.trans hNone

/-- What a registration does: all of it, or nothing. -/
theorem attempt_cases (r : DialectRegistry) (q : Registration) :
    (r.attempt q = .ok ⟨r.entries ++ [q.entry]⟩ ∧ r.after q = ⟨r.entries ++ [q.entry]⟩ ∧
      ∀ key ∈ q.entry.keys, key ∉ r.keys) ∨
    (∃ err, r.attempt q = .error err ∧ r.after q = r) := by
  rw [after]
  cases h : r.attempt q with
  | ok r' =>
    obtain ⟨hNew, rfl⟩ := attempt_eq_ok_iff.1 h
    exact Or.inl ⟨rfl, rfl, hNew⟩
  | error err => exact Or.inr ⟨err, rfl, rfl⟩

/-- After registrations the entries are those before and the accepted ones. -/
theorem entries_run (r : DialectRegistry) (qs : List Registration) :
    (r.run qs).entries = r.entries ++ r.accepted qs := by
  induction qs generalizing r with
  | nil => exact (List.append_nil _).symm
  | cons q rest ih =>
    rw [run, List.foldl_cons, ← run, ih, accepted]
    rcases attempt_cases r q with ⟨hOk, hAfter, -⟩ | ⟨err, hError, hAfter⟩
    · rw [hOk, hAfter]
      exact List.append_assoc _ _ _
    · rw [hError, hAfter]

/-- What was accepted of the first registrations stays accepted with more of them. -/
theorem accepted_append (r : DialectRegistry) (qs more : List Registration) :
    r.accepted (qs ++ more) = r.accepted qs ++ (r.run qs).accepted more := by
  induction qs generalizing r with
  | nil => rfl
  | cons q rest ih =>
    rw [List.cons_append, accepted, accepted, run, List.foldl_cons, ← run]
    rcases attempt_cases r q with ⟨hOk, hAfter, -⟩ | ⟨err, hError, hAfter⟩
    · rw [hOk, hAfter, List.cons_append, ← ih]
    · rw [hError, hAfter, ← ih]

/-! ## What registrations preserve -/

/-- Every dialect of the registry is found under all its keys, and the keys are names. -/
structure WellKept (r : DialectRegistry) : Prop where
  named : ∀ key ∈ r.keys, key ≠ "" ∧ Text.trim key = key
  found : ∀ e ∈ r.entries, ∀ key ∈ e.keys, r.entries.find? (·.keys.contains key) = some e
  nodup : (r.entries.map (·.dialect.name)).Nodup

/-- The keys of an entry are keys of the registry. -/
theorem mem_keys_of_mem (he : e ∈ r.entries) (hKey : key ∈ e.keys) : key ∈ r.keys :=
  List.mem_flatMap.2 ⟨e, he, hKey⟩

/-- An empty registry is well kept. -/
theorem wellKept_empty : WellKept ⟨[]⟩ where
  named _ hKey := by cases hKey
  found _ he := by cases he
  nodup := List.nodup_nil

/-- It stays so with one more entry that has new keys. -/
theorem WellKept.append (h : r.WellKept) (hNamed : q.WellNamed)
    (hNew : ∀ key ∈ q.entry.keys, key ∉ r.keys) :
    WellKept ⟨r.entries ++ [q.entry]⟩ where
  named key hKey := by
    rw [keys, List.flatMap_append, List.mem_append] at hKey
    rcases hKey with hOld | hAdded
    · exact h.named key hOld
    · -- lower case makes a name neither empty nor blank at its ends
      rw [List.flatMap_singleton, q.keys_entry] at hAdded
      obtain ⟨name, hName, rfl⟩ := List.mem_map.1 hAdded
      -- its own names were checked when it was registered
      obtain ⟨hSome, hTrim⟩ := hNamed name hName
      exact ⟨Text.lower_ne_empty hSome, by rw [← Text.lower_trim, hTrim]⟩
  found e he key hKey := by
    rw [List.find?_append]
    rcases List.mem_append.1 he with hOld | hAdded
    · -- what was found before is found first
      rw [h.found e hOld key hKey, Option.some_or]
    · -- no dialect that was there before has a key of the new one
      obtain rfl := List.mem_singleton.1 hAdded
      have hNone : r.entries.find? (·.keys.contains key) = none := by
        refine List.find?_eq_none.2 fun e' he' hOther => hNew key hKey ?_
        exact mem_keys_of_mem he' (List.contains_iff_mem.1 hOther)
      rw [hNone, Option.none_or, List.find?_singleton, if_pos (List.contains_iff_mem.2 hKey)]
  nodup := by
    -- the name of a dialect is one of its keys
    rw [List.map_append, List.map_singleton, ← List.concat_eq_append]
    refine h.nodup.concat fun hMem => hNew q.entry.dialect.name List.mem_cons_self ?_
    obtain ⟨e, he, hSame⟩ := List.mem_map.1 hMem
    exact mem_keys_of_mem he (hSame ▸ List.mem_cons_self)

/-- **One registration.** -/
theorem WellKept.after (h : r.WellKept) (hNamed : q.WellNamed) : (r.after q).WellKept := by
  rcases attempt_cases r q with ⟨-, hAfter, hNew⟩ | ⟨err, -, hAfter⟩
  · rw [hAfter]
    exact h.append hNamed hNew
  · rw [hAfter]
    exact h

/-- **Any registrations.** -/
theorem wellKept_run (h : r.WellKept) {qs : List Registration} (hNamed : ∀ q ∈ qs, q.WellNamed) :
    (r.run qs).WellKept := by
  induction qs generalizing r with
  | nil => exact h
  | cons q rest ih =>
    obtain ⟨hFirst, hRest⟩ := List.forall_mem_cons.1 hNamed
    exact ih (h.after hFirst) hRest

/-- The registrations of the dialects that are always there. -/
def builtinRegistrations : List Registration :=
  builtin.entries.map fun e => ⟨e.dialect, e.aliases, e.description⟩

/-- The builtin registry is what registrations make of an empty one, -/
theorem run_builtinRegistrations : run ⟨[]⟩ builtinRegistrations = builtin := by
  rfl

/-- so it is well kept. -/
theorem wellKept_builtin : builtin.WellKept := by
  rw [← run_builtinRegistrations]
  exact wellKept_run wellKept_empty (by decide +kernel)

/-! ## Answers -/

/-- A name is looked up in lower case, without the blanks around it. -/
theorem get_of_ne_empty {n : String} (hn : n ≠ "") : r.get? (some n) =
    (r.entries.find? (·.keys.contains (Text.lower (Text.trim n)))).map (·.dialect) := by
  rw [get?, given_eq_some_iff.2 ⟨rfl, hn⟩]

/-- A dialect is found under its keys in any letter case, with blanks around them. -/
theorem WellKept.get (h : r.WellKept) (he : e ∈ r.entries) (hKey : key ∈ e.keys) {n t : String}
    (hPads : Text.Pads n t) (hCase : Text.lower t = key) :
    r.get (some n) = .ok e.dialect := by
  obtain ⟨hSome, hTrim⟩ := h.named key (mem_keys_of_mem he hKey)
  have hName : Text.lower (Text.trim n) = key := by
    rw [hPads.trim_eq, Text.lower_trim, hCase, hTrim]
  have hn : n ≠ "" := by
    rintro rfl
    exact hSome (hName.symm.trans (by decide))
  rw [DialectRegistry.get, get_of_ne_empty hn, hName, h.found e he key hKey]
  rfl

/-- A dialect is not found exactly if the name in lower case, without the blanks around it, is no
key. -/
theorem WellKept.exists_error_iff (h : r.WellKept) (n : String) :
    (∃ err, r.get (some n) = .error err) ↔ Text.lower (Text.trim n) ∉ r.keys := by
  constructor
  · -- under a key, spelled as it may be, there is a dialect
    rintro ⟨err, hError⟩ hMem
    obtain ⟨e, he, hKey⟩ := List.mem_flatMap.1 hMem
    -- a key is found, with blanks around it or not
    cases hError.symm.trans (h.get he hKey (Text.pads_trim n) rfl)
  · intro hNone
    have hGet : r.get? (some n) = none := by
      -- an empty name stands for no dialect at all
      by_cases hn : n = ""
      · rw [hn]
        rfl
      · rw [get_of_ne_empty hn, Option.map_eq_none_iff, List.find?_eq_none]
        exact fun e he hKey => hNone (mem_keys_of_mem he (List.contains_iff_mem.1 hKey))
    -- what is not found is unknown
    exact ⟨.unknown (some n) r.names, by rw [DialectRegistry.get, hGet]⟩

/-- The list of all dialects is in the order of the names. -/
theorem WellKept.names_listing (h : r.WellKept) : r.listing.map (·.dialect.name) = r.names := by
  rw [listing, List.map_filterMap]
  have hAll : ∀ n ∈ r.names,
      (r.entries.find? (·.dialect.name == n)).map (·.dialect.name) = some n := by
    intro n hn
    obtain ⟨e, he, rfl⟩ := List.mem_map.1 (Text.mem_sorted.1 hn)
    rw [find?_of_nodup_map h.nodup he, Option.map_some]
  rw [List.filterMap_congr hAll, List.filterMap_some]

/-- All entries are listed, each one once. -/
theorem WellKept.listing_perm (h : r.WellKept) : r.listing.Perm r.entries := by
  have hAll : ∀ e ∈ r.entries,
      r.entries.find? (·.dialect.name == e.dialect.name) = some e :=
    fun e he => find?_of_nodup_map h.nodup he
  -- sorting the names only orders them, and each finds its own entry
  have hPerm := (Text.sorted_perm (r.entries.map (·.dialect.name))).filterMap
    fun n => r.entries.find? (·.dialect.name == n)
  have hSame : (r.entries.map (·.dialect.name)).filterMap
      (fun n => r.entries.find? (·.dialect.name == n)) = r.entries := by
    rw [List.filterMap_map]
    exact (List.filterMap_congr hAll).trans List.filterMap_some
  rwa [hSame] at hPerm

/-- How a registry answers that holds some dialects and no others. -/
structure Answers (r : DialectRegistry) (es : List DialectEntry) : Prop where
  /-- A registration is refused for the first of its keys that is taken. -/
  refuses : ∀ q err, r.attempt q = .error err ↔
    ∃ before key rest, q.entry.keys = before ++ key :: rest ∧
      (∀ k ∈ before, k ∉ es.flatMap (·.keys)) ∧ key ∈ es.flatMap (·.keys) ∧ err = .duplicate key
  unchanged : ∀ q err, r.attempt q = .error err → r.after q = r
  registers : ∀ q, (∀ key ∈ q.entry.keys, key ∉ es.flatMap (·.keys)) →
    r.attempt q = .ok (r.after q) ∧ (r.after q).entries = es ++ [q.entry]
  /-- A dialect is found under its keys in any letter case, with blanks around them. -/
  get : ∀ e ∈ es, ∀ key ∈ e.keys, ∀ n t, Text.Pads n t → Text.lower t = key →
    r.get (some n) = .ok e.dialect
  fails : ∀ n, (∃ err, r.get (some n) = .error err) ↔
    Text.lower (Text.trim n) ∉ es.flatMap (·.keys)
  fails_none : ∃ err, r.get none = .error err
  /-- Each dialect is listed once, and the names increase. -/
  listing : r.listing.Perm es
  sorted : (r.listing.map (·.dialect.name)).Pairwise (· < ·)

/-- A registry that is well kept answers as it should. -/
theorem WellKept.answers (h : r.WellKept) : r.Answers r.entries where
  refuses _ _ := attempt_eq_error_iff
  -- a refused registration leaves all as it was
  unchanged q err hError := by
    rcases attempt_cases r q with ⟨hOk, -⟩ | ⟨-, -, hAfter⟩
    · cases hOk.symm.trans hError
    · exact hAfter
  -- an accepted one puts its entry at the end
  registers q hNew := by
    have hOk := attempt_eq_ok_iff.2 ⟨hNew, rfl⟩
    rcases attempt_cases r q with ⟨-, hAfter, -⟩ | ⟨err, hError, -⟩
    · rw [hAfter]
      exact ⟨hOk, rfl⟩
    · cases hError.symm.trans hOk
  get _ he _ hKey _ _ hPads hCase := h.get he hKey hPads hCase
  fails := h.exists_error_iff
  fails_none := ⟨_, rfl⟩
  listing := h.listing_perm
  sorted := h.names_listing ▸ Text.sorted_pairwise h.nodup

/-- **All or nothing, and for ever.** After any registrations the registry answers as one that holds
the dialects that are always there and those whose registration succeeded, each once. A dialect
whose registration has succeeded is found under its name and all its second names, whatever is
registered later. -/
theorem run_answers {qs : List Registration} (hNamed : ∀ q ∈ qs, q.WellNamed) :
    (builtin.run qs).Answers (builtin.entries ++ builtin.accepted qs) ∧
      ∀ earlier q later r', qs = earlier ++ q :: later →
        (builtin.run earlier).attempt q = .ok r' →
        ∀ name ∈ q.names, ∀ n t, Text.Pads n t → Text.lower t = Text.lower name →
          (builtin.run qs).get (some n) = .ok q.entry.dialect := by
  have hAnswers := (wellKept_run wellKept_builtin hNamed).answers
  rw [entries_run] at hAnswers
  refine ⟨hAnswers, fun earlier q later r' hSplit hOk name hName n t hPads hCase => ?_⟩
  have hAccepted : q.entry ∈ builtin.accepted qs := by
    rw [hSplit, accepted_append, accepted, hOk]
    exact List.mem_append_right _ List.mem_cons_self
  exact hAnswers.get q.entry (List.mem_append_right _ hAccepted) (Text.lower name)
    (List.mem_map_of_mem hName) n t hPads hCase

/-- A dialect with a second name in two letter cases, and one whose last second name is taken. -/
def sampleRegistrations : List Registration :=
  [⟨{ Dialect.generic with name := "Oracle", title := "Oracle" }, ["ora", "ORA"], ""⟩,
    ⟨{ Dialect.generic with name := "DB2", title := "DB2" }, ["udb", "Pg"], ""⟩]

/-- The first dialect is there under its second name, the other one under none of its names. -/
theorem answers_of_sampleRegistrations :
    let r := builtin.run sampleRegistrations
    (r.get (some " oRa\n")).map (·.title) = .ok "Oracle" ∧
      (∀ n ∈ ["DB2", "udb"], ∃ err, r.get (some n) = .error err) ∧
      r.listing.Perm (builtin.entries ++ [(sampleRegistrations[0]).entry]) := by
  intro r
  have hNamed : ∀ q ∈ sampleRegistrations, q.WellNamed := by decide +kernel
  obtain ⟨hAnswers, hForever⟩ := run_answers hNamed
  -- the second registration repeats a key, so only the first one is accepted
  have hAccepted : builtin.accepted sampleRegistrations = [(sampleRegistrations[0]).entry] := rfl
  rw [hAccepted] at hAnswers
  obtain ⟨r', hOk⟩ : ∃ r', builtin.attempt sampleRegistrations[0] = .ok r' := ⟨_, rfl⟩
  -- and what is accepted once is found for ever
  have hGet := hForever [] _ _ r' rfl hOk "ora" (by decide) " oRa\n" _ (Text.pads_trim _)
    (by decide +kernel)
  refine ⟨?_, fun n hn => ?_, hAnswers.listing⟩
  · rw [hGet]
    rfl
  -- the other names are no keys
  · rw [hAnswers.fails]
    revert n
    decide +kernel

end DialectRegistry

end MappingDdl
