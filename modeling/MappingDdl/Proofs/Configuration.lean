import Mathlib.Data.List.Induction
import MappingDdl.Settings.Environment

/-!
# Configuration — settings that are read once

Settings are read from the environment when they are first asked for, and kept until they are
forgotten. A reading that fails keeps nothing, so the next one starts anew. Of all that was done
since the settings were last forgotten, only the first reading that succeeded counts.

Main results:

* `Settings.ofEnvironment_congr` — settings depend on the variables of the settings only.
* `SettingsCache.kept_cases` — what a run keeps: nothing, or what its first reading gave.
* `SettingsCache.get_run` — what is answered after a run, in whatever environment.
-/

namespace MappingDdl

/-! ## Variables -/

namespace Environment

/-- The names of the variables that settings are read from. -/
def settingNames : List String := [
  "DDLGEN_DIALECT", "DDLGEN_GROUP_BY", "DDLGEN_DELIMITER", "DDLGEN_SCHEMA_NAME",
  "DDLGEN_MYSQL_ENGINE", "DDLGEN_GENERATE_SCHEMA", "DDLGEN_GENERATE_DROP",
  "DDLGEN_GENERATE_CREATE", "DDLGEN_GENERATE_PRIMARY_KEY", "DDLGEN_GENERATE_FOREIGN_KEY",
  "DDLGEN_GENERATE_INDEX", "DDLGEN_GENERATE_KEY_GENERATOR", "DDLGEN_CHAR_LENGTH",
  "DDLGEN_VARCHAR_LENGTH", "DDLGEN_BINARY_LENGTH", "DDLGEN_NUMERIC_PRECISION",
  "DDLGEN_NUMERIC_DECIMALS", "DDLGEN_FLOAT_PRECISION", "DDLGEN_FK_ON_DELETE",
  "DDLGEN_FK_ON_UPDATE"]

/-- Two environments agree on the variables of the settings. -/
def Agree (env env' : Environment) : Prop :=
  ∀ name ∈ settingNames, env.lookup name = env'.lookup name

variable {env env' : Environment} {name : String}

/-- A text setting only reads its own variable. -/
theorem text_congr (h : env.lookup name = env'.lookup name) (default : String) :
    env.text name default = env'.text name default := by
  rw [text, text, h]

/-- So does a switch, -/
theorem isOn_congr (h : env.lookup name = env'.lookup name) : env.isOn name = env'.isOn name := by
  rw [isOn, isOn, h]

/-- and so does a number. -/
theorem int_congr (h : env.lookup name = env'.lookup name) (default : Int) :
    env.int name default = env'.int name default := by
  rw [int, int, h]

end Environment

section Agreement

variable {env env' : Environment} (h : env.Agree env')

include h

/-- The toggles only read variables of settings. -/
theorem Toggles.ofEnvironment_congr : ofEnvironment env = ofEnvironment env' := by
  have hOn (name : String) (hName : name ∈ Environment.settingNames) :=
    Environment.isOn_congr (h name hName)
  unfold ofEnvironment
  rw [hOn "DDLGEN_GENERATE_SCHEMA" (by decide), hOn "DDLGEN_GENERATE_DROP" (by decide),
    hOn "DDLGEN_GENERATE_CREATE" (by decide), hOn "DDLGEN_GENERATE_PRIMARY_KEY" (by decide),
    hOn "DDLGEN_GENERATE_FOREIGN_KEY" (by decide), hOn "DDLGEN_GENERATE_INDEX" (by decide),
    hOn "DDLGEN_GENERATE_KEY_GENERATOR" (by decide)]

/-- The defaults of types only read variables of settings. -/
theorem TypeDefaults.ofEnvironment_congr : ofEnvironment env = ofEnvironment env' := by
  have hInt (name : String) (hName : name ∈ Environment.settingNames) :=
    Environment.int_congr (h name hName)
  unfold ofEnvironment
  dsimp only
  rw [hInt "DDLGEN_CHAR_LENGTH" (by decide), hInt "DDLGEN_VARCHAR_LENGTH" (by decide),
    hInt "DDLGEN_BINARY_LENGTH" (by decide), hInt "DDLGEN_NUMERIC_PRECISION" (by decide),
    hInt "DDLGEN_NUMERIC_DECIMALS" (by decide), hInt "DDLGEN_FLOAT_PRECISION" (by decide)]

/-- Settings depend on the variables of the settings only, and so does the failure to read them. -/
theorem Settings.ofEnvironment_congr : ofEnvironment env = ofEnvironment env' := by
  have hText (name : String) (hName : name ∈ Environment.settingNames) :=
    Environment.text_congr (h name hName)
  unfold ofEnvironment
  -- every variable that is looked at is one of the settings
  dsimp only
  rw [hText "DDLGEN_DIALECT" (by decide), hText "DDLGEN_GROUP_BY" (by decide),
    hText "DDLGEN_DELIMITER" (by decide), hText "DDLGEN_SCHEMA_NAME" (by decide),
    hText "DDLGEN_MYSQL_ENGINE" (by decide), hText "DDLGEN_FK_ON_DELETE" (by decide),
    hText "DDLGEN_FK_ON_UPDATE" (by decide), Toggles.ofEnvironment_congr h,
    TypeDefaults.ofEnvironment_congr h]

end Agreement

/-! ## Runs -/

namespace SettingsCache

/-- What is done with kept settings. -/
inductive Action
  /-- They are asked for, in an environment. -/
  | get (env : Environment)
  /-- They are forgotten. -/
  | reset

/-- The cache after an action. A reading that fails leaves it as it was. -/
def perform (c : SettingsCache) : Action → SettingsCache
  | .get env =>
    match c.get env with
    | .ok (_, c') => c'
    | .error _ => c
  | .reset => c.reset

/-- The cache after some actions. -/
def run (c : SettingsCache) (as : List Action) : SettingsCache :=
  as.foldl perform c

/-- The settings cannot be read here. -/
def Action.Fails (a : Action) : Prop :=
  ∃ env f, a = .get env ∧ Settings.ofEnvironment env = .error f

/-- Nothing was read since the settings were last forgotten, for want of a reading that succeeds. -/
def Unread (as : List Action) : Prop :=
  ∃ old failed, as = old ++ failed ∧ (old = [] ∨ old.getLast? = some .reset) ∧
    ∀ a ∈ failed, a.Fails

/-- The settings are those of the first reading that succeeded since they were last forgotten. -/
def Kept (as : List Action) (s : Settings) : Prop :=
  ∃ before env after, as = before ++ .get env :: after ∧ Unread before ∧
    Settings.ofEnvironment env = .ok s ∧ .reset ∉ after

section Steps

variable {c : SettingsCache} {as : List Action} {env : Environment} {s : Settings} {f : Fault}

/-- The last action is performed on what the actions before it leave. -/
theorem run_concat (c : SettingsCache) (as : List Action) (a : Action) :
    c.run (as ++ [a]) = (c.run as).perform a := by
  rw [run, List.foldl_append]
  rfl

/-- Settings that are kept are not read again. -/
theorem perform_get_of_some (h : c.cached = some s) : c.perform (.get env) = c := by
  rw [perform, get, h]

/-- A reading that succeeds while nothing is kept is kept. -/
theorem perform_get_of_ok (h : c.cached = none) (hRead : Settings.ofEnvironment env = .ok s) :
    (c.perform (.get env)).cached = some s := by
  rw [perform, get, h, hRead]
  rfl

/-- One that fails leaves nothing behind. -/
theorem perform_get_of_error (h : c.cached = none)
    (hRead : Settings.ofEnvironment env = .error f) : c.perform (.get env) = c := by
  rw [perform, get, h, hRead]
  rfl

/-- After a reset nothing is read. -/
theorem unread_reset (as : List Action) : Unread (as ++ [.reset]) :=
  ⟨as ++ [.reset], [], (List.append_nil _).symm, Or.inr List.getLast?_concat, nofun⟩

/-- After a reading that fails still nothing is read. -/
theorem Unread.concat {a : Action} (h : Unread as) (hFails : a.Fails) : Unread (as ++ [a]) := by
  obtain ⟨old, failed, rfl, hOld, hFailed⟩ := h
  refine ⟨old, failed ++ [a], List.append_assoc .., hOld, fun b hb => ?_⟩
  rcases List.mem_append.1 hb with hBefore | hLast
  · exact hFailed b hBefore
  · exact List.mem_singleton.1 hLast ▸ hFails

/-- What is kept stays when it is asked for once more. -/
theorem Kept.concat (h : Kept as s) (env : Environment) : Kept (as ++ [.get env]) s := by
  obtain ⟨before, first, after, rfl, hUnread, hRead, hReset⟩ := h
  refine ⟨before, first, after ++ [.get env], ?_, hUnread, hRead, ?_⟩
  · rw [List.append_assoc, List.cons_append]
  · simpa using hReset

end Steps

/-- What a run keeps: nothing as long as nothing was read, and then what the first reading gave. -/
theorem kept_cases (as : List Action) :
    Unread as ∧ (run {} as).cached = none ∨ ∃ s, Kept as s ∧ (run {} as).cached = some s := by
  -- on the actions from the last one, since only it tells what is kept now
  induction as using List.reverseRecOn with
  | nil => exact Or.inl ⟨⟨[], [], rfl, Or.inl rfl, nofun⟩, rfl⟩
  | append_singleton as a ih =>
    rw [run_concat]
    cases a with
    -- after a reset nothing is kept
    | reset => exact Or.inl ⟨unread_reset as, rfl⟩
    | get env =>
      -- the first reading is kept, if it gives settings
      rcases ih with ⟨hUnread, hNone⟩ | ⟨s, hKept, hSome⟩
      · cases hRead : Settings.ofEnvironment env with
        | ok s =>
          have hFirst : Kept (as ++ [.get env]) s := ⟨as, env, [], rfl, hUnread, hRead, nofun⟩
          exact Or.inr ⟨s, hFirst, perform_get_of_ok hNone hRead⟩
        | error f =>
          rw [perform_get_of_error hNone hRead]
          exact Or.inl ⟨hUnread.concat ⟨env, f, rfl, hRead⟩, hNone⟩
      -- and what is kept is given again, whatever the environment says by now
      · rw [perform_get_of_some hSome]
        exact Or.inr ⟨s, hKept.concat env, hSome⟩

/-- **Settings are read once.** After any run, either nothing was read since the settings were last
forgotten, and the environment at hand is read; or every environment is answered with what the first
reading gave. -/
theorem get_run (as : List Action) :
    (Unread as ∧ ∀ env, ((run {} as).get env).map (·.1) = Settings.ofEnvironment env) ∨
      ∃ s, Kept as s ∧ ∀ env, (run {} as).get env = .ok (s, run {} as) := by
  rcases kept_cases as with ⟨hUnread, hNone⟩ | ⟨s, hKept, hSome⟩
  · refine Or.inl ⟨hUnread, fun env => ?_⟩
    rw [get, hNone]
    cases Settings.ofEnvironment env <;> rfl
  · refine Or.inr ⟨s, hKept, fun env => ?_⟩
    rw [get, hSome]

end SettingsCache

end MappingDdl
