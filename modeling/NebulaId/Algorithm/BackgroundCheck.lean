import NebulaId.Machine.Threads
import Mathlib.Data.List.Basic

/-!
# The life of the background check (`core/algorithm/degradation_manager.rs`)

`start_background_check` claims `running`, spawns a task that checks all algorithms at every tick,
and stores the sender of the channel that stops it and its handle. `stop_background_check` takes
the sender, sends `true`, takes the handle, waits for the task to end, and clears `running`.

* `stop_in_start_orphans`: a stop in the middle of a start leaves a task that nobody can stop.
* `background_check_single`: when starts and stops keep apart, any number of each may overlap, and
  at most one task is alive, the one that the next stop ends.
-/

namespace NebulaId

namespace BackgroundCheck

open Machine

inductive Activity where
  | waiting
  | checking
  | exited
  deriving DecidableEq

/-- A task that has been spawned; `signalled` when `true` has gone through its channel. -/
structure BackgroundTask where
  signalled : Bool
  activity : Activity
  deriving DecidableEq

/-- The fields of the manager, and the tasks in the order in which they were spawned. A sender and a
handle are known by the number of their task. -/
structure Manager where
  running : Bool
  shutdownTx : Option ℕ
  backgroundTask : Option ℕ
  tasks : List BackgroundTask

/-- How far a call has come. -/
inductive Control where
  | idle
  | spawning
  | storingTx (task : ℕ)
  | storingTask (task : ℕ)
  | sending (task : ℕ)
  | takingTask
  | awaiting (task : ℕ)
  | clearing
  deriving DecidableEq

/-- A new call, the next operation of a call, or a move of a task: a tick, the end of a check, or
a look at the channel. -/
inductive Op where
  | start
  | stop
  | proceed
  | tick (task : ℕ)
  | checked (task : ℕ)
  | changed (task : ℕ)

namespace Manager

def new : Manager := ⟨false, none, none, []⟩

def setTask (s : Manager) (k : ℕ) (t : BackgroundTask) : Manager :=
  { s with tasks := s.tasks.set k t }

/-- `send(true)` -/
def signal (s : Manager) (k : ℕ) : Manager :=
  { s with tasks := s.tasks.modify k fun t => { t with signalled := true } }

/-- A move of a task. With the sender dropped and nothing sent, `changed` returns at once and the
task goes on. -/
def moveTask (s : Manager) : Op → Option Manager
  | .tick k => s.tasks[k]?.bind fun t =>
    if t.activity = .waiting then some (s.setTask k { t with activity := .checking }) else none
  | .checked k => s.tasks[k]?.bind fun t =>
    if t.activity = .checking then some (s.setTask k { t with activity := .waiting }) else none
  | .changed k => s.tasks[k]?.bind fun t =>
    if t.activity = .waiting then
      some (if t.signalled then s.setTask k { t with activity := .exited } else s)
    else none
  | .start | .stop | .proceed => none

end Manager

/-- One operation of one call, or a move of a task. -/
def step (_ : ℕ) : Op → Manager → Control → Option (Manager × Control)
  | .start, s, .idle =>
    some (if s.running then (s, .idle) else ({ s with running := true }, .spawning))
  | .proceed, s, .spawning =>
    some ({ s with tasks := s.tasks ++ [⟨false, .waiting⟩] }, .storingTx s.tasks.length)
  | .proceed, s, .storingTx k => some ({ s with shutdownTx := some k }, .storingTask k)
  | .proceed, s, .storingTask k => some ({ s with backgroundTask := some k }, .idle)
  | .stop, s, .idle => match s.shutdownTx with
    | some k => some ({ s with shutdownTx := none }, .sending k)
    | none => some (s, .clearing)
  | .proceed, s, .sending k => some (s.signal k, .takingTask)
  | .proceed, s, .takingTask => match s.backgroundTask with
    | some k => some ({ s with backgroundTask := none }, .awaiting k)
    | none => some (s, .clearing)
  | .proceed, s, .awaiting k => s.tasks[k]?.bind fun t =>
    if t.activity = .exited then some (s, .clearing) else none
  | .proceed, s, .clearing => some ({ s with running := false }, .idle)
  | .tick k, s, p => (s.moveTask (.tick k)).map fun s => (s, p)
  | .checked k, s, p => (s.moveTask (.checked k)).map fun s => (s, p)
  | .changed k, s, p => (s.moveTask (.changed k)).map fun s => (s, p)
  | _, _, _ => none

def noCalls : World Manager Control := ⟨.new, fun _ => .idle⟩

/-- The call is a start past its claim. -/
def Control.starting : Control → Bool
  | .spawning | .storingTx _ | .storingTask _ => true
  | _ => false

/-- The call is a stop. -/
def Control.stopping : Control → Bool
  | .sending _ | .takingTask | .awaiting _ | .clearing => true
  | _ => false

/-- No start claims `running` while a stop is under way, and no stop begins while a start is. -/
def KeepsApart (w : World Manager Control) (act : ℕ × Op) : Prop :=
  match act.2 with
  | .start => w.shared.running = false → ∀ j, (w.threads j).stopping = false
  | .stop => ∀ j, (w.threads j).starting = false
  | _ => True

/-- A stop that comes between the claim and the store of the sender finds nothing to stop. -/
theorem stop_in_start_orphans : ∃ w, Reaches (World.step step) Free noCalls w ∧
    (∀ i, w.threads i = .idle) ∧ w.shared.tasks = [⟨false, .waiting⟩, ⟨false, .waiting⟩] ∧
      w.shared.shutdownTx = some 1 := by
  have hreach : Reaches (World.step step) Free noCalls _ :=
    Reaches.cons (a := (0, .start)) trivial rfl <|
    Reaches.cons (a := (1, .stop)) trivial rfl <|
    Reaches.cons (a := (1, .proceed)) trivial rfl <|
    Reaches.cons (a := (0, .proceed)) trivial rfl <|
    Reaches.cons (a := (0, .proceed)) trivial rfl <|
    Reaches.cons (a := (0, .proceed)) trivial rfl <|
    Reaches.cons (a := (2, .start)) trivial rfl <|
    Reaches.cons (a := (2, .proceed)) trivial rfl <|
    Reaches.cons (a := (2, .proceed)) trivial rfl <|
    Reaches.single (a := (2, .proceed)) trivial rfl
  refine ⟨_, hreach, fun i => ?_, rfl, rfl⟩
  by_cases h2 : i = 2
  · subst h2
    rfl
  · by_cases h0 : i = 0
    · subst h0
      rfl
    · by_cases h1 : i = 1
      · subst h1
        rfl
      · simp [Function.update_of_ne, h0, h1, h2, noCalls]

/-! ## The phases -/

/-- All tasks have ended but `k`, if there is one; it has been signalled or not, and has ended
only if it has. -/
structure Manager.Alive (s : Manager) (k : Option ℕ) (signalled : Bool) : Prop where
  dead : ∀ (j : ℕ) t, s.tasks[j]? = some t → k ≠ some j → t.activity = .exited
  live : ∀ j ∈ k, ∃ t, s.tasks[j]? = some t ∧ t.signalled = signalled ∧
    (t.activity = .exited → signalled = true)

/-- What the fields say while a call is in the middle of its work. -/
def Manager.Fits (s : Manager) : Control → Prop
  | .idle | .clearing => False
  | .spawning =>
    s.running = true ∧ s.shutdownTx = none ∧ s.backgroundTask = none ∧ s.Alive none true
  | .storingTx k =>
    s.running = true ∧ s.shutdownTx = none ∧ s.backgroundTask = none ∧ s.Alive (some k) false
  | .storingTask k =>
    s.running = true ∧ s.shutdownTx = some k ∧ s.backgroundTask = none ∧ s.Alive (some k) false
  | .sending k => s.shutdownTx = none ∧ s.backgroundTask = some k ∧ s.Alive (some k) false
  | .takingTask => s.shutdownTx = none ∧ ∃ k, s.backgroundTask = some k ∧ s.Alive (some k) true
  | .awaiting k => s.shutdownTx = none ∧ s.backgroundTask = none ∧ s.Alive (some k) true

/-- Nothing runs, one task runs, or one call is at work on it; the other calls have nothing left
to do but to clear `running`, and while a start is at work not even that. -/
inductive Phase (w : World Manager Control) : Prop
  | stopped (rest : ∀ j, w.threads j = .idle ∨ w.threads j = .clearing)
      (tx : w.shared.shutdownTx = none) (handle : w.shared.backgroundTask = none)
      (tasks : w.shared.Alive none true)
      (claimed : w.shared.running = true → ∃ j, w.threads j = .clearing) : Phase w
  | running (k : ℕ) (rest : ∀ j, w.threads j = .idle) (claimed : w.shared.running = true)
      (tx : w.shared.shutdownTx = some k) (handle : w.shared.backgroundTask = some k)
      (tasks : w.shared.Alive (some k) false) : Phase w
  | owned (i : ℕ) (p : Control) (owner : w.threads i = p) (fits : w.shared.Fits p)
      (rest : ∀ j, j ≠ i → w.threads j = .idle ∨ (w.threads j = .clearing ∧ p.stopping = true)) :
      Phase w

variable {w w' : World Manager Control} {s s' : Manager} {i j : ℕ} {k : Option ℕ} {b : Bool}
  {p : Control} {op : Op}

theorem phase_noCalls : Phase noCalls :=
  .stopped (fun _ => Or.inl rfl) rfl rfl ⟨by simp [noCalls, Manager.new], by simp⟩ (by
    simp [noCalls, Manager.new])

/-! ## Moves of the tasks -/

theorem Manager.Alive.setTask {n : ℕ} {t t' : BackgroundTask} (h : s.Alive k b)
    (ht : s.tasks[n]? = some t) (hsignalled : t'.signalled = t.signalled)
    (hactive : t.activity ≠ .exited) (hexit : t'.activity = .exited → t.signalled = true) :
    (s.setTask n t').Alive k b := by
  have hn : n < s.tasks.length := (List.getElem?_eq_some_iff.mp ht).1
  -- a task that moves is alive
  have hk : k = some n := by
    by_contra hne
    exact hactive (h.dead n t ht hne)
  subst hk
  obtain ⟨x, hx, hb, -⟩ := h.live n rfl
  cases ht.symm.trans hx
  refine ⟨fun j u hu hne => ?_, fun j hj => ?_⟩
  · have hjn : n ≠ j := fun heq => hne (congrArg some heq)
    exact h.dead j u (by rwa [Manager.setTask, List.getElem?_set_ne hjn] at hu) hne
  · cases hj
    refine ⟨t', List.getElem?_set_self hn, hsignalled.trans hb, fun hexited => ?_⟩
    rw [← hb]
    exact hexit hexited

/-- A move of a task changes that task only, and none comes to life. -/
theorem moveTask_keeps (h : s.moveTask op = some s') : s'.running = s.running ∧
    s'.shutdownTx = s.shutdownTx ∧ s'.backgroundTask = s.backgroundTask ∧
      ∀ k b, s.Alive k b → s'.Alive k b := by
  cases op with
  | tick n =>
    obtain ⟨t, ht, hs⟩ := Option.bind_eq_some_iff.mp h
    split at hs <;> cases hs
    rename_i hwaiting
    exact ⟨rfl, rfl, rfl, fun k b hk => hk.setTask ht rfl (by simp [hwaiting]) (by simp)⟩
  | checked n =>
    obtain ⟨t, ht, hs⟩ := Option.bind_eq_some_iff.mp h
    split at hs <;> cases hs
    rename_i hchecking
    exact ⟨rfl, rfl, rfl, fun k b hk => hk.setTask ht rfl (by simp [hchecking]) (by simp)⟩
  | changed n =>
    obtain ⟨t, ht, hs⟩ := Option.bind_eq_some_iff.mp h
    split at hs
    · rename_i hwaiting
      cases hs
      split
      · rename_i hsignalled
        exact ⟨rfl, rfl, rfl,
          fun k b hk => hk.setTask ht rfl (by simp [hwaiting]) fun _ => hsignalled⟩
      · exact ⟨rfl, rfl, rfl, fun _ _ hk => hk⟩
    · cases hs
  | start | stop | proceed => cases h

theorem Manager.Fits.moveTask (hp : s.Fits p) (h : s.moveTask op = some s') : s'.Fits p := by
  obtain ⟨hrunning, htx, hhandle, halive⟩ := moveTask_keeps h
  cases p with
  | idle | clearing => exact hp
  | spawning | storingTx k | storingTask k =>
    obtain ⟨h1, h2, h3, h4⟩ := hp
    exact ⟨hrunning.trans h1, htx.trans h2, hhandle.trans h3, halive _ _ h4⟩
  | sending k | awaiting k =>
    obtain ⟨h1, h2, h3⟩ := hp
    exact ⟨htx.trans h1, hhandle.trans h2, halive _ _ h3⟩
  | takingTask =>
    obtain ⟨h1, k, h2, h3⟩ := hp
    exact ⟨htx.trans h1, k, hhandle.trans h2, halive _ _ h3⟩

theorem Phase.moveTask (hw : Phase w) (h : w.shared.moveTask op = some s') :
    Phase ⟨s', w.threads⟩ := by
  obtain ⟨hrunning, htx, hhandle, halive⟩ := moveTask_keeps h
  cases hw with
  | stopped rest tx handle tasks claimed =>
    exact .stopped rest (htx.trans tx) (hhandle.trans handle) (halive _ _ tasks)
      fun hrun => claimed (hrunning.symm.trans hrun)
  | running k rest claimed tx handle tasks =>
    exact .running k rest (hrunning.trans claimed) (htx.trans tx) (hhandle.trans handle)
      (halive _ _ tasks)
  | owned i p owner fits rest => exact .owned i p owner (fits.moveTask h) rest

/-! ## Calls -/

/-- The fields of a manager with other tasks or flags, but the same list of tasks. -/
theorem Manager.Alive.of_tasks (h : s.Alive k b) (htasks : s'.tasks = s.tasks) : s'.Alive k b := by
  refine ⟨fun j t ht => h.dead j t ?_, fun j hj => ?_⟩
  · rwa [htasks] at ht
  · rw [htasks]
    exact h.live j hj

/-- The new task is the only one alive. -/
theorem Manager.Alive.spawn (h : s.Alive none true)
    (htasks : s'.tasks = s.tasks ++ [⟨false, .waiting⟩]) :
    s'.Alive (some s.tasks.length) false := by
  refine ⟨fun j t ht hne => ?_, fun j hj => ?_⟩
  · rw [htasks] at ht
    have hlt : j < s.tasks.length := by
      have hj := (List.getElem?_eq_some_iff.mp ht).1
      rw [List.length_append, List.length_singleton] at hj
      have : s.tasks.length ≠ j := fun heq => hne (congrArg some heq)
      omega
    rw [List.getElem?_append_left hlt] at ht
    exact h.dead j t ht (by simp)
  · cases hj
    refine ⟨⟨false, .waiting⟩, ?_, rfl, by simp⟩
    rw [htasks, List.getElem?_concat_length]

/-- The task alive has been signalled. -/
theorem Manager.Alive.signal {n : ℕ} (h : s.Alive (some n) false) :
    (s.signal n).Alive (some n) true := by
  refine ⟨fun j t ht hne => ?_, fun j hj => ?_⟩
  · have hnj : n ≠ j := fun heq => hne (congrArg some heq)
    refine h.dead j t ?_ hne
    simpa [Manager.signal, List.getElem?_modify, hnj] using ht
  · cases hj
    obtain ⟨t, ht, -, -⟩ := h.live n rfl
    refine ⟨{ t with signalled := true }, ?_, rfl, fun _ => rfl⟩
    simp [Manager.signal, ht]

/-- Once the last task has ended, nothing is alive. -/
theorem Manager.Alive.ended {n : ℕ} {t : BackgroundTask} (h : s.Alive (some n) true)
    (ht : s.tasks[n]? = some t) (hexited : t.activity = .exited) : s.Alive none true := by
  refine ⟨fun j u hu _ => ?_, by simp⟩
  by_cases hjn : n = j
  · subst hjn
    cases ht.symm.trans hu
    exact hexited
  · exact h.dead j u hu fun heq => hjn (Option.some.inj heq)

theorem threads_other {sh : Manager} {q : Control} (hj : j ≠ i) :
    (World.mk sh (Function.update w.threads i q)).threads j = w.threads j :=
  Function.update_of_ne hj _ _

/-- What a start has claimed it keeps. -/
theorem Manager.Fits.claimed (h : s.Fits p) (hp : p.starting = true) : s.running = true := by
  cases p with
  | spawning | storingTx k | storingTask k => exact h.1
  | _ => cases hp

/-- A stop has taken the sender. -/
theorem Manager.Fits.taken (h : s.Fits p) (hp : p.starting = false) :
    p.stopping = true ∧ s.shutdownTx = none := by
  cases p with
  | idle | clearing => exact h.elim
  | spawning | storingTx k | storingTask k => cases hp
  | sending k | awaiting k | takingTask => exact ⟨rfl, h.1⟩

/-- A stop does not mind what `running` says. -/
theorem Manager.Fits.clear (h : s.Fits p) (hp : p.stopping = true) :
    Manager.Fits { s with running := false } p := by
  cases p with
  | idle | clearing => exact h
  | spawning | storingTx k | storingTask k => cases hp
  | sending k | awaiting k => exact ⟨h.1, h.2.1, h.2.2.of_tasks rfl⟩
  | takingTask =>
    obtain ⟨h1, k, h2, h3⟩ := h
    exact ⟨h1, k, h2, h3.of_tasks rfl⟩

/-- A call in the middle of its work is the one that owns the phase. -/
theorem Phase.owner (hw : Phase w) (hi : w.threads i = p) (hidle : p ≠ .idle)
    (hclearing : p ≠ .clearing) : w.shared.Fits p ∧
      ∀ j, j ≠ i → w.threads j = .idle ∨ (w.threads j = .clearing ∧ p.stopping = true) := by
  have hrest : ¬ (w.threads i = .idle ∨ w.threads i = .clearing) := by
    rw [hi]
    exact fun h => h.elim hidle hclearing
  cases hw with
  | stopped rest tx handle tasks claimed => exact absurd (rest i) hrest
  | running k rest claimed tx handle tasks => exact absurd (Or.inl (rest i)) hrest
  | owned i' p' owner fits rest =>
    by_cases hii : i = i'
    · subst hii
      cases owner.symm.trans hi
      exact ⟨fits, rest⟩
    · exact absurd ((rest i hii).imp_right And.left) hrest

/-- The owner takes a step and stays the owner. -/
theorem Phase.next (hrest : ∀ j, j ≠ i → w.threads j = .idle ∨
      (w.threads j = .clearing ∧ p.stopping = true)) (hfits : s.Fits p) :
    Phase ⟨s, Function.update w.threads i p⟩ := by
  refine .owned i p (Function.update_self _ _ _) hfits fun j hj => ?_
  rw [threads_other hj]
  exact hrest j hj

/-- A start claims `running`. -/
theorem Phase.start (hw : Phase w) (hi : w.threads i = .idle)
    (hguard : w.shared.running = false → ∀ j, (w.threads j).stopping = false)
    (hs : step i .start w.shared (w.threads i) = some (s, p)) :
    Phase ⟨s, Function.update w.threads i p⟩ := by
  rw [hi] at hs
  cases hrun : w.shared.running with
  | true =>
    simp only [step, hrun, if_true] at hs
    cases hs
    rw [← hi, Function.update_eq_self]
    exact hw
  | false =>
    simp [step, hrun] at hs
    obtain ⟨rfl, rfl⟩ := hs
    have hnone := hguard hrun
    cases hw with
    | stopped rest tx handle tasks claimed =>
      refine Phase.next (fun j _ => Or.inl ?_) ⟨rfl, tx, handle, tasks.of_tasks rfl⟩
      refine (rest j).resolve_right fun hclearing => ?_
      have := hnone j
      rw [hclearing] at this
      cases this
    | running k rest claimed tx handle tasks => rw [hrun] at claimed; cases claimed
    | owned i' p' owner fits rest =>
      exfalso
      have hstop := hnone i'
      rw [owner] at hstop
      cases hp : p'.starting with
      | true => rw [fits.claimed hp] at hrun; cases hrun
      | false => rw [(fits.taken hp).1] at hstop; cases hstop

/-- A stop takes the sender, if there is one. -/
theorem Phase.stop (hw : Phase w) (hi : w.threads i = .idle)
    (hguard : ∀ j, (w.threads j).starting = false)
    (hs : step i .stop w.shared (w.threads i) = some (s, p)) :
    Phase ⟨s, Function.update w.threads i p⟩ := by
  rw [hi] at hs
  cases hw with
  | stopped rest tx handle tasks claimed =>
    simp only [step, tx] at hs
    cases hs
    refine .stopped (fun j => ?_) tx handle tasks fun _ => ⟨i, Function.update_self _ _ _⟩
    by_cases hj : j = i
    · subst hj
      exact Or.inr (Function.update_self _ _ _)
    · rw [threads_other hj]
      exact rest j
  | running k rest claimed tx handle tasks =>
    simp only [step, tx] at hs
    cases hs
    exact Phase.next (fun j _ => Or.inl (rest j)) ⟨rfl, handle, tasks.of_tasks rfl⟩
  | owned i' p' owner fits rest =>
    have hstarting := hguard i'
    rw [owner] at hstarting
    obtain ⟨hstopping, tx⟩ := fits.taken hstarting
    have hne : i' ≠ i := by
      rintro rfl
      cases owner.symm.trans hi
      exact fits
    simp only [step, tx] at hs
    cases hs
    refine .owned i' p' ?_ fits fun j hj => ?_
    · rw [threads_other hne]
      exact owner
    · by_cases hji : j = i
      · subst hji
        exact Or.inr ⟨Function.update_self _ _ _, hstopping⟩
      · rw [threads_other hji]
        exact rest j hj

/-- A stop that has nothing left to do clears `running`. -/
theorem Phase.clear (hw : Phase w) (hi : w.threads i = .clearing) :
    Phase ⟨{ w.shared with running := false }, Function.update w.threads i .idle⟩ := by
  cases hw with
  | stopped rest tx handle tasks claimed =>
    refine .stopped (fun j => ?_) tx handle (tasks.of_tasks rfl) (by simp)
    by_cases hj : j = i
    · subst hj
      exact Or.inl (Function.update_self _ _ _)
    · rw [threads_other hj]
      exact rest j
  | running k rest claimed tx handle tasks => cases (rest i).symm.trans hi
  | owned i' p' owner fits rest =>
    have hne : i ≠ i' := by
      rintro rfl
      cases owner.symm.trans hi
      exact fits
    have hstopping : p'.stopping = true := by
      rcases rest i hne with hrest | ⟨-, hrest⟩
      · cases hrest.symm.trans hi
      · exact hrest
    refine .owned i' p' ?_ (fits.clear hstopping) fun j hj => ?_
    · rw [threads_other hne.symm]
      exact owner
    · by_cases hji : j = i
      · subst hji
        exact Or.inl (Function.update_self _ _ _)
      · rw [threads_other hji]
        exact rest j hj

/-- A call goes on with its work. -/
theorem Phase.proceed (hw : Phase w) (hs : step i .proceed w.shared (w.threads i) = some (s, p)) :
    Phase ⟨s, Function.update w.threads i p⟩ := by
  cases hi : w.threads i with
  | idle => rw [hi] at hs; cases hs
  | clearing =>
    rw [hi] at hs
    cases hs
    exact hw.clear hi
  | spawning =>
    obtain ⟨⟨h1, h2, h3, h4⟩, hrest⟩ := hw.owner hi (by simp) (by simp)
    rw [hi] at hs
    cases hs
    exact Phase.next hrest ⟨h1, h2, h3, h4.spawn rfl⟩
  | storingTx k =>
    obtain ⟨⟨h1, -, h3, h4⟩, hrest⟩ := hw.owner hi (by simp) (by simp)
    rw [hi] at hs
    cases hs
    exact Phase.next hrest ⟨h1, rfl, h3, h4.of_tasks rfl⟩
  | storingTask k =>
    obtain ⟨⟨h1, h2, -, h4⟩, hrest⟩ := hw.owner hi (by simp) (by simp)
    rw [hi] at hs
    cases hs
    refine .running k (fun j => ?_) h1 h2 rfl (h4.of_tasks rfl)
    by_cases hj : j = i
    · subst hj
      exact Function.update_self _ _ _
    · rw [threads_other hj]
      exact (hrest j hj).resolve_right fun h => nomatch h.2
  | sending k =>
    obtain ⟨⟨h1, h2, h3⟩, hrest⟩ := hw.owner hi (by simp) (by simp)
    rw [hi] at hs
    cases hs
    exact Phase.next hrest ⟨h1, k, h2, h3.signal⟩
  | takingTask =>
    obtain ⟨⟨h1, k, h2, h3⟩, hrest⟩ := hw.owner hi (by simp) (by simp)
    rw [hi] at hs
    simp only [step, h2] at hs
    cases hs
    exact Phase.next hrest ⟨h1, rfl, h3.of_tasks rfl⟩
  | awaiting k =>
    obtain ⟨⟨h1, h2, h3⟩, hrest⟩ := hw.owner hi (by simp) (by simp)
    rw [hi] at hs
    obtain ⟨t, ht, hs⟩ := Option.bind_eq_some_iff.mp hs
    split at hs <;> cases hs
    rename_i hexited
    refine .stopped (fun j => ?_) h1 h2 (h3.ended ht hexited)
      fun _ => ⟨i, Function.update_self _ _ _⟩
    by_cases hj : j = i
    · subst hj
      exact Or.inr (Function.update_self _ _ _)
    · rw [threads_other hj]
      exact (hrest j hj).imp_right And.left

/-- **One step.** -/
theorem phase_step {act : ℕ × Op} (hw : Phase w) (hguard : KeepsApart w act)
    (hs : World.step step w act = some w') : Phase w' := by
  obtain ⟨i, op⟩ := act
  obtain ⟨s, p, hstep, rfl⟩ := World.step_eq_some.mp hs
  cases op with
  | start =>
    cases hi : w.threads i with
    | idle => exact hw.start hi hguard hstep
    | _ => rw [hi] at hstep; cases hstep
  | stop =>
    cases hi : w.threads i with
    | idle => exact hw.stop hi hguard hstep
    | _ => rw [hi] at hstep; cases hstep
  | proceed => exact hw.proceed hstep
  | tick k | checked k | changed k =>
    obtain ⟨s', hmove, he⟩ := Option.map_eq_some_iff.mp hstep
    cases he
    rw [Function.update_eq_self]
    exact hw.moveTask hmove

theorem phase_of_reaches (h : Reaches (World.step step) KeepsApart noCalls w) : Phase w :=
  h.invariant phase_noCalls fun _ _ _ hw hguard hs => phase_step hw hguard hs

/-! ## One task at most -/

/-- At most one task is alive, and it is the one that the fields name. -/
theorem Manager.Alive.unique (h : s.Alive k b) {m n : ℕ} {t u : BackgroundTask}
    (hm : s.tasks[m]? = some t) (hn : s.tasks[n]? = some u) (ht : t.activity ≠ .exited)
    (hu : u.activity ≠ .exited) : m = n := by
  have hkm : k = some m := by
    by_contra hne
    exact ht (h.dead m t hm hne)
  have hkn : k = some n := by
    by_contra hne
    exact hu (h.dead n u hn hne)
  exact Option.some.inj (hkm.symm.trans hkn)

theorem Manager.Fits.alive (h : s.Fits p) : ∃ k b, s.Alive k b := by
  cases p with
  | idle | clearing => exact h.elim
  | spawning | storingTx k | storingTask k => exact ⟨_, _, h.2.2.2⟩
  | sending k | awaiting k => exact ⟨_, _, h.2.2⟩
  | takingTask =>
    obtain ⟨-, k, -, halive⟩ := h
    exact ⟨_, _, halive⟩

theorem Phase.alive (hw : Phase w) : ∃ k b, w.shared.Alive k b := by
  cases hw with
  | stopped rest tx handle tasks claimed => exact ⟨_, _, tasks⟩
  | running k rest claimed tx handle tasks => exact ⟨_, _, tasks⟩
  | owned i p owner fits rest => exact fits.alive

/-- **Starts and stops.** However the starts and the stops run into their own kind, and whatever
the tasks do, at most one task is alive. When all calls have returned, `running` says whether
there is one, and a stop finds both its sender and its handle. -/
theorem background_check_single (h : Reaches (World.step step) KeepsApart noCalls w) :
    (∀ (m n : ℕ) t u, w.shared.tasks[m]? = some t → w.shared.tasks[n]? = some u →
      t.activity ≠ .exited → u.activity ≠ .exited → m = n) ∧
    ((∀ j, w.threads j = .idle) →
      (w.shared.running = false ∧ w.shared.shutdownTx = none ∧ w.shared.backgroundTask = none ∧
        ∀ t ∈ w.shared.tasks, t.activity = .exited) ∨
      (w.shared.running = true ∧ ∃ k t, w.shared.shutdownTx = some k ∧
        w.shared.backgroundTask = some k ∧ w.shared.tasks[k]? = some t ∧ t.signalled = false ∧
          t.activity ≠ .exited)) := by
  have hw := phase_of_reaches h
  constructor
  · intro m n t u hm hn ht hu
    obtain ⟨k, b, halive⟩ := hw.alive
    exact halive.unique hm hn ht hu
  · intro hidle
    cases hw with
    | stopped rest tx handle tasks claimed =>
      refine Or.inl ⟨?_, tx, handle, fun t ht => ?_⟩
      · by_contra hrun
        obtain ⟨j, hj⟩ := claimed (eq_true_of_ne_false hrun)
        cases (hidle j).symm.trans hj
      · obtain ⟨n, hn⟩ := List.mem_iff_getElem?.mp ht
        exact tasks.dead n t hn (by simp)
    | running k rest claimed tx handle tasks =>
      obtain ⟨t, ht, hsignalled, hexit⟩ := tasks.live k rfl
      exact Or.inr ⟨claimed, k, t, tx, handle, ht, hsignalled, fun hx => nomatch hexit hx⟩
    | owned i p owner fits rest =>
      cases (hidle i).symm.trans owner
      exact fits.elim

theorem background_check_single_two : ∃ w,
    Reaches (World.step step) KeepsApart noCalls w ∧ (∀ j, w.threads j = .idle) ∧
      w.shared.running = true ∧ w.shared.tasks = [⟨true, .exited⟩, ⟨false, .waiting⟩] ∧
      ∀ (m n : ℕ) t u, w.shared.tasks[m]? = some t → w.shared.tasks[n]? = some u →
        t.activity ≠ .exited → u.activity ≠ .exited → m = n := by
  have hreach : Reaches (World.step step) KeepsApart noCalls _ :=
    Reaches.cons (a := (0, .start)) (fun _ _ => rfl) rfl <|
    Reaches.cons (a := (1, .start)) (fun h => nomatch h) rfl <|
    Reaches.cons (a := (0, .proceed)) trivial rfl <|
    Reaches.cons (a := (0, .proceed)) trivial rfl <|
    Reaches.cons (a := (0, .proceed)) trivial rfl <|
    Reaches.cons (a := (0, .stop)) (fun | 0 | 1 | _ + 2 => rfl) rfl <|
    Reaches.cons (a := (1, .stop)) (fun | 0 | 1 | _ + 2 => rfl) rfl <|
    Reaches.cons (a := (0, .proceed)) trivial rfl <|
    Reaches.cons (a := (0, .proceed)) trivial rfl <|
    Reaches.cons (a := (2, .changed 0)) trivial rfl <|
    Reaches.cons (a := (0, .proceed)) trivial rfl <|
    Reaches.cons (a := (0, .proceed)) trivial rfl <|
    Reaches.cons (a := (1, .proceed)) trivial rfl <|
    Reaches.cons (a := (1, .start))
      (fun _ => fun | 0 | 1 | 2 | _ + 3 => rfl) rfl <|
    Reaches.cons (a := (1, .proceed)) trivial rfl <|
    Reaches.cons (a := (1, .proceed)) trivial rfl <|
    Reaches.single (a := (1, .proceed)) trivial rfl
  exact ⟨_, hreach, fun | 0 | 1 | 2 | _ + 3 => rfl, rfl, rfl, (background_check_single hreach).1⟩

end BackgroundCheck

end NebulaId
