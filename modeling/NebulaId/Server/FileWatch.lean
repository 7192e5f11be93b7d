import NebulaId.Machine.Run
import NebulaId.Server.Reload

/-!
# Watching the configuration file (`server/config/hot_reload.rs`)

Tick after tick `watch` looks when the file was modified, and reloads it when that is another time
than the last. It looks first and reads afterwards, and what it has read is not in force before it
is parsed. In between the file is written and other calls install a configuration.

* `watch_catches_up`: when every modification has a time of its own, no change is missed.
* `coarse_time_misses`: two modifications at one time, and the second one is.
* `failed_read_misses`: the same after a read that has failed.
-/

namespace NebulaId

open Machine

/-- What is at the path; the time is `metadata.modified().ok()`. -/
structure WatchedFile where
  modified : Option ℕ
  content : String

/-- Where `watch` is. -/
inductive WatchTask where
  | waiting
  | reading
  | parsing (content : String)
  | auditing

structure WatchedConfig where
  file : Option WatchedFile
  /-- The times of all modifications. -/
  times : List ℕ
  config : FullConfig
  /-- What each callback has been called with. -/
  reloadCallbacks : List (List FullConfig)
  lastModified : Option ℕ
  task : WatchTask
  /-- How often the watcher has looked at the file. -/
  looks : ℕ

inductive WatchAct where
  | write (file : WatchedFile)
  | remove
  | addReloadCallback
  | updateConfig (newConfig : FullConfig)
  | tick
  | read (readable : Bool)
  | install
  | audited

namespace WatchedConfig

def new (config : FullConfig) (file : Option WatchedFile) : WatchedConfig where
  file := file
  times := (file.bind WatchedFile.modified).toList
  config := config
  reloadCallbacks := []
  lastModified := none
  task := .waiting
  looks := 0

/-- Stores a configuration and calls the callbacks with it. -/
def store (w : WatchedConfig) (newConfig : FullConfig) : WatchedConfig :=
  { w with
    config := newConfig
    reloadCallbacks := w.reloadCallbacks.map fun calls => calls ++ [newConfig] }

/-- The look at the file. -/
def tick (w : WatchedConfig) : WatchedConfig :=
  match w.file with
  | some file =>
    if w.lastModified = none ∨ file.modified ≠ w.lastModified then
      { w with lastModified := file.modified, task := .reading, looks := w.looks + 1 }
    else { w with looks := w.looks + 1 }
  | none => { w with looks := w.looks + 1 }

/-- `parse` is `parse_toml_config`. -/
def step (parse : String → Except ConfigError FullConfig) (w : WatchedConfig) :
    WatchAct → Option WatchedConfig
  | .write file => some { w with file := some file, times := file.modified.toList ++ w.times }
  | .remove => some { w with file := none }
  | .addReloadCallback => some { w with reloadCallbacks := w.reloadCallbacks ++ [[]] }
  | .updateConfig newConfig => some (w.store newConfig)
  | .tick => match w.task with
    | .waiting => some w.tick
    | _ => none
  | .read readable => match w.task with
    | .reading => match w.file with
      | some file =>
        some { w with task := if readable then .parsing file.content else .waiting }
      | none => some { w with task := .waiting }
    | _ => none
  | .install => match w.task with
    | .parsing content => match parse content with
      | .ok newConfig => some { w.store newConfig with task := .auditing }
      | .error _ => some { w with task := .waiting }
    | _ => none
  | .audited => match w.task with
    | .auditing => some { w with task := .waiting }
    | _ => none

/-- Every modification has a time of its own, or none. -/
def OwnTime (w : WatchedConfig) : WatchAct → Prop
  | .write file => ∀ time, file.modified = some time → time ∉ w.times
  | _ => True

/-- Nobody but the watcher has to do with the file and the configuration, and it can read. -/
def Quiet (_ : WatchedConfig) : WatchAct → Prop
  | .write _ | .remove | .updateConfig _ | .read false => False
  | _ => True

/-- The configuration is in force, and the latest that the first callbacks know of. -/
def Holds (c : FullConfig) (callbacks : ℕ) (w : WatchedConfig) : Prop :=
  w.config = c ∧ ∀ calls ∈ w.reloadCallbacks.take callbacks, calls.getLast? = some c

/-- The watcher has still to look at the file as it is now, or it is at it, or done with it. -/
structure Follows (f : WatchedFile) (c : FullConfig) (looks callbacks : ℕ) (w : WatchedConfig) :
    Prop where
  file : w.file = some f
  looks_le : looks ≤ w.looks
  callbacks_le : callbacks ≤ w.reloadCallbacks.length
  before : w.looks = looks → w.lastModified = none ∨ f.modified ≠ w.lastModified
  since : looks < w.looks → w.lastModified = f.modified ∧
    (w.task = .reading ∨ w.task = .parsing f.content ∨
      (w.task = .waiting ∨ w.task = .auditing) ∧ w.Holds c callbacks)

variable {parse : String → Except ConfigError FullConfig} {w w' : WatchedConfig} {f : WatchedFile}
  {c newConfig : FullConfig} {looks callbacks : ℕ} {act : WatchAct}
  {file : Option WatchedFile}

theorem holds_store (w : WatchedConfig) (c : FullConfig) (callbacks : ℕ) :
    (w.store c).Holds c callbacks := by
  refine ⟨rfl, fun calls hcalls => ?_⟩
  obtain ⟨calls', -, rfl⟩ := List.mem_map.mp (List.mem_of_mem_take hcalls)
  simp

/-! ## What the steps of the watcher do -/

theorem tick_cases (w : WatchedConfig) :
    (∃ file, w.file = some file ∧ (w.lastModified = none ∨ file.modified ≠ w.lastModified) ∧
      w.tick = { w with lastModified := file.modified, task := .reading, looks := w.looks + 1 }) ∨
    (∀ file, w.file = some file → w.lastModified ≠ none ∧ file.modified = w.lastModified) ∧
      w.tick = { w with looks := w.looks + 1 } := by
  unfold tick
  cases hfile : w.file with
  | none => exact Or.inr ⟨by simp, rfl⟩
  | some file =>
    by_cases hnew : w.lastModified = none ∨ file.modified ≠ w.lastModified
    · exact Or.inl ⟨file, rfl, hnew, by simp [hnew]⟩
    · refine Or.inr ⟨?_, by simp [hnew]⟩
      rintro _ ⟨⟩
      simpa [not_or] using hnew

theorem step_tick (h : step parse w .tick = some w') : w.task = .waiting ∧ w' = w.tick := by
  cases htask : w.task <;> simp_all [step]

theorem step_read {readable : Bool} (h : step parse w (.read readable) = some w') :
    w.task = .reading ∧ ∃ task, w' = { w with task } ∧
      ∀ file, w.file = some file → readable = true → task = .parsing file.content := by
  cases htask : w.task <;> simp only [step, htask, reduceCtorEq] at h
  refine ⟨rfl, ?_⟩
  cases hfile : w.file with
  | none =>
    simp only [hfile, Option.some.injEq] at h
    exact ⟨.waiting, h.symm, by simp⟩
  | some file =>
    simp only [hfile, Option.some.injEq] at h
    refine ⟨_, h.symm, ?_⟩
    rintro _ ⟨⟩ hreadable
    simp [hreadable]

theorem step_install (h : step parse w .install = some w') :
    ∃ content, w.task = .parsing content ∧
      ((∃ newConfig, parse content = .ok newConfig ∧
        w' = { w.store newConfig with task := .auditing }) ∨
      (∃ e, parse content = .error e) ∧ w' = { w with task := .waiting }) := by
  cases htask : w.task with
  | parsing content =>
    refine ⟨content, rfl, ?_⟩
    cases hparse : parse content with
    | ok newConfig => simp_all [step]
    | error e => simp_all [step]
  | _ => simp_all [step]

theorem step_audited (h : step parse w .audited = some w') :
    w.task = .auditing ∧ w' = { w with task := .waiting } := by
  cases htask : w.task <;> simp_all [step]

/-! ## Every time has been one of the file -/

/-- The times that the file and the watcher have are among those of the modifications. -/
structure Known (w : WatchedConfig) : Prop where
  file : ∀ file, w.file = some file → ∀ time, file.modified = some time → time ∈ w.times
  seen : ∀ time, w.lastModified = some time → time ∈ w.times

theorem known_new (config : FullConfig) (file : Option WatchedFile) : (new config file).Known := by
  refine ⟨?_, by simp [new]⟩
  rintro file' hfile time htime
  change file = some file' at hfile
  simp [new, hfile, htime]

theorem known_step (h : w.Known) (hs : step parse w act = some w') : w'.Known := by
  obtain ⟨hfile, hseen⟩ := h
  cases act with
  | write file =>
    obtain rfl := Option.some.inj hs
    refine ⟨?_, fun time htime => List.mem_append_right _ (hseen time htime)⟩
    rintro _ ⟨⟩ time htime
    simp [htime]
  | remove =>
    obtain rfl := Option.some.inj hs
    exact ⟨by simp, hseen⟩
  | addReloadCallback =>
    obtain rfl := Option.some.inj hs
    exact ⟨hfile, hseen⟩
  | updateConfig newConfig =>
    obtain rfl := Option.some.inj hs
    exact ⟨hfile, hseen⟩
  | tick =>
    obtain ⟨-, rfl⟩ := step_tick hs
    rcases tick_cases w with ⟨file, hsome, -, heq⟩ | ⟨-, heq⟩
    · rw [heq]
      exact ⟨hfile, hfile file hsome⟩
    · rw [heq]
      exact ⟨hfile, hseen⟩
  | read readable =>
    obtain ⟨-, task, rfl, -⟩ := step_read hs
    exact ⟨hfile, hseen⟩
  | install =>
    obtain ⟨content, -, ⟨newConfig, -, rfl⟩ | ⟨-, rfl⟩⟩ := step_install hs
    · exact ⟨hfile, hseen⟩
    · exact ⟨hfile, hseen⟩
  | audited =>
    obtain ⟨-, rfl⟩ := step_audited hs
    exact ⟨hfile, hseen⟩

/-! ## The watcher follows -/

/-- A modification with its own time is one that the watcher has not seen. -/
theorem follows_write (h : w.Known) (hown : OwnTime w (.write f))
    (hs : step parse w (.write f) = some w') :
    w'.Follows f c w'.looks w'.reloadCallbacks.length := by
  obtain rfl := Option.some.inj hs
  refine ⟨rfl, le_rfl, le_rfl, fun _ => ?_, fun hlt => absurd hlt (lt_irrefl _)⟩
  cases hseen : w.lastModified with
  | none => exact Or.inl rfl
  | some time =>
    refine Or.inr fun heq => ?_
    exact hown time heq (h.seen time hseen)

theorem follows_step (hparse : parse f.content = .ok c) (h : w.Follows f c looks callbacks)
    (hquiet : Quiet w act) (hs : step parse w act = some w') : w'.Follows f c looks callbacks := by
  obtain ⟨hfile, hlooks, hcallbacks, hbefore, hsince⟩ := h
  cases act with
  | write _ | remove | updateConfig _ => exact hquiet.elim
  | addReloadCallback =>
    obtain rfl := Option.some.inj hs
    refine ⟨hfile, hlooks, by simp; omega, hbefore, fun hlt => ?_⟩
    obtain ⟨hseen, hat⟩ := hsince hlt
    refine ⟨hseen, hat.imp_right (Or.imp_right (And.imp_right fun hholds => ?_))⟩
    refine ⟨hholds.1, ?_⟩
    rw [List.take_append_of_le_length hcallbacks]
    exact hholds.2
  | tick =>
    obtain ⟨hwaiting, rfl⟩ := step_tick hs
    rcases tick_cases w with ⟨file, hsome, -, heq⟩ | ⟨hold, heq⟩
    · obtain rfl := Option.some.inj (hsome.symm.trans hfile)
      rw [heq]
      exact ⟨hfile, by simp; omega, hcallbacks, fun hsame => by simp at hsame; omega,
        fun _ => ⟨rfl, Or.inl rfl⟩⟩
    · obtain ⟨hsome, hsame⟩ := hold f hfile
      have hlt : looks < w.looks := by
        rcases Nat.lt_or_eq_of_le hlooks with hlt | heq
        · exact hlt
        · exact absurd hsame ((hbefore heq.symm).resolve_left hsome)
      obtain ⟨hseen, hat⟩ := hsince hlt
      rw [heq]
      refine ⟨hfile, by simp; omega, hcallbacks, fun hsame => by simp at hsame; omega, fun _ => ?_⟩
      rw [hwaiting] at hat
      refine ⟨hseen, Or.inr (Or.inr ⟨Or.inl hwaiting, ?_⟩)⟩
      simpa [Holds] using hat
  | read readable =>
    cases readable with
    | false => exact hquiet.elim
    | true =>
      obtain ⟨-, task, rfl, htask⟩ := step_read hs
      exact ⟨hfile, hlooks, hcallbacks, hbefore,
        fun hlt => ⟨(hsince hlt).1, Or.inr (Or.inl (htask f hfile rfl))⟩⟩
  | install =>
    obtain ⟨content, htask, hcases⟩ := step_install hs
    have hat : looks < w.looks → w.lastModified = f.modified ∧ content = f.content := by
      intro hlt
      obtain ⟨hseen, hat⟩ := hsince hlt
      rw [htask] at hat
      exact ⟨hseen, by simpa using hat⟩
    rcases hcases with ⟨newConfig, hnew, rfl⟩ | ⟨⟨e, herror⟩, rfl⟩
    · refine ⟨hfile, hlooks, by simpa [store] using hcallbacks, hbefore, fun hlt => ?_⟩
      obtain ⟨hseen, rfl⟩ := hat hlt
      obtain rfl := Except.ok.inj (hnew.symm.trans hparse)
      exact ⟨hseen, Or.inr (Or.inr ⟨Or.inr rfl, holds_store w _ callbacks⟩)⟩
    · refine ⟨hfile, hlooks, hcallbacks, hbefore, fun hlt => ?_⟩
      obtain ⟨-, rfl⟩ := hat hlt
      rw [hparse] at herror
      cases herror
  | audited =>
    obtain ⟨htask, rfl⟩ := step_audited hs
    refine ⟨hfile, hlooks, hcallbacks, hbefore, fun hlt => ?_⟩
    obtain ⟨hseen, hat⟩ := hsince hlt
    rw [htask] at hat
    refine ⟨hseen, Or.inr (Or.inr ⟨Or.inl rfl, ?_⟩)⟩
    simpa [Holds] using hat

/-- **No change of the file is missed.** Whatever has happened before, a modification with its own
time is followed by a quiet time. Then the content is in force, and the latest that the
callbacks know of, as soon as the watcher has looked at the file again and is done. -/
theorem watch_catches_up {w₁ w₂ : WatchedConfig}
    (h : Reaches (step parse) Free (new newConfig file) w) (hown : OwnTime w (.write f))
    (hwrite : step parse w (.write f) = some w₁) (hparse : parse f.content = .ok c)
    (hquiet : Reaches (step parse) Quiet w₁ w₂) (hlooked : w₁.looks < w₂.looks)
    (hdone : w₂.task = .waiting) : w₂.Holds c w₁.reloadCallbacks.length := by
  have hknown : w.Known := h.invariant (known_new newConfig file) fun _ _ _ hi _ hs =>
    known_step hi hs
  have hfollows : w₂.Follows f c w₁.looks w₁.reloadCallbacks.length :=
    hquiet.invariant (follows_write hknown hown hwrite) fun _ _ _ hi hC hs =>
      follows_step hparse hi hC hs
  obtain ⟨-, hat⟩ := hfollows.since hlooked
  rw [hdone] at hat
  simpa using hat

/-- The size of a batch is the length of the file. -/
def batchReader (content : String) : Except ConfigError FullConfig :=
  .ok { FullConfig.plainFile with batchGenerate := ⟨content.length.toUInt32⟩ }

/-- There is a callback, and the file has been written for the first time. -/
def firstWritten : WatchedConfig :=
  { new FullConfig.plainFile (some ⟨some 5, "content"⟩) with reloadCallbacks := [[]] }

theorem watch_catches_up_once : ∃ w₂ : WatchedConfig,
    Reaches (step batchReader) Quiet firstWritten w₂ ∧
    w₂.Holds { FullConfig.plainFile with batchGenerate := ⟨7⟩ } 1 := by
  have hstart : Reaches (step batchReader) Free (new FullConfig.plainFile none) _ :=
    Reaches.single (a := .addReloadCallback) trivial rfl
  have hquiet : Reaches (step batchReader) Quiet firstWritten _ :=
    Reaches.cons (a := .tick) trivial rfl <|
    Reaches.cons (a := .read true) trivial rfl <|
    Reaches.cons (a := .install) trivial rfl <|
    Reaches.single (a := .audited) trivial rfl
  exact ⟨_, hquiet, watch_catches_up hstart (f := ⟨some 5, "content"⟩) (by simp [OwnTime, new]) rfl
    rfl hquiet (by decide) rfl⟩

/-- The watcher takes over what has been written first. -/
theorem coarse_time_misses : ∃ w₁ w₂ : WatchedConfig,
    Reaches (step batchReader) Free (new FullConfig.plainFile (some ⟨some 5, "first"⟩)) w₁ ∧
    w₁.file = some ⟨some 5, "second"⟩ ∧ Reaches (step batchReader) Quiet w₁ w₂ ∧
    w₁.looks < w₂.looks ∧ w₂.task = .waiting ∧ w₂.config.batchGenerate.maxBatchSize = 5 := by
  have hfirst : Reaches (step batchReader) Free
      (new FullConfig.plainFile (some ⟨some 5, "first"⟩)) _ :=
    Reaches.cons (a := .tick) trivial rfl <|
    Reaches.cons (a := .read true) trivial rfl <|
    Reaches.cons (a := .install) trivial rfl <|
    Reaches.cons (a := .audited) trivial rfl <|
    Reaches.single (a := .write ⟨some 5, "second"⟩) trivial rfl
  exact ⟨_, _, hfirst, rfl, Reaches.single (a := .tick) trivial rfl, by decide, rfl, rfl⟩

/-- It does not look at the file again after it could not read it. -/
theorem failed_read_misses : ∃ w₁ w₂ : WatchedConfig,
    Reaches (step batchReader) Free (new FullConfig.plainFile (some ⟨some 5, "first"⟩)) w₁ ∧
    Reaches (step batchReader) Quiet w₁ w₂ ∧ w₁.looks < w₂.looks ∧ w₂.task = .waiting ∧
    w₂.config = FullConfig.plainFile := by
  have hfailed : Reaches (step batchReader) Free
      (new FullConfig.plainFile (some ⟨some 5, "first"⟩)) _ :=
    Reaches.cons (a := .tick) trivial rfl <|
    Reaches.single (a := .read false) trivial rfl
  exact ⟨_, _, hfailed, Reaches.single (a := .tick) trivial rfl, by decide, rfl, rfl⟩

end WatchedConfig

end NebulaId
