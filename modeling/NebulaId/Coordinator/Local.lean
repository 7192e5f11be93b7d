import NebulaId.Machine.Threads
import Mathlib.Data.List.Basic

/-!
# The in-process lock (`core/coordinator/local.rs`)

`LocalDistributedLock` keeps a map from keys to flags behind a mutex. `acquire` looks the
key up in one critical section and inserts it in another; `release` of a guard removes the
entry of its key, whoever put it there. `lockStep` takes one task through one critical
section. The table also keeps every guard handed out, with a mark for the released ones.

* `two_tasks_one_key`: two tasks that look before either inserts both get a guard.
* `orderly_exclusive`: in a run whose steps are `Orderly` at most one unreleased guard
  exists per key and the entry of every unreleased guard is in the map; and a step from
  there keeps this exactly when it is `Orderly` itself.
-/

namespace NebulaId

open Machine

inductive LockError where
  | connectionFailed (value : String)
  | timeout (key : String)
  | acquireFailed (key reason : String)
  | releaseFailed (key reason : String)
  | etcdError (value : String)
  | notConfigured
  | serviceUnavailable
  deriving DecidableEq

structure LocalLockGuard where
  key : String
  released : Bool
  deriving DecidableEq

structure LocalDistributedLock where
  locks : String → Option Bool
  guards : List LocalLockGuard
  errors : List LockError

namespace LocalDistributedLock

def new : LocalDistributedLock := ⟨fun _ => none, [], []⟩

def isLocked (m : LocalDistributedLock) (key : String) : Bool := (m.locks key).getD false

/-- `acquire_lock`, and the guard that `acquire` makes of it. -/
def acquireLock (m : LocalDistributedLock) (key : String) : LocalDistributedLock :=
  { m with locks := Function.update m.locks key (some true), guards := m.guards ++ [⟨key, false⟩] }

def releaseLock (m : LocalDistributedLock) (key : String) : LocalDistributedLock :=
  { m with locks := Function.update m.locks key none }

/-- The release of guard `guard`. -/
def releaseGuard (m : LocalDistributedLock) (guard : ℕ) (g : LocalLockGuard) :
    LocalDistributedLock :=
  { m.releaseLock g.key with guards := m.guards.set guard { g with released := true } }

/-- Between its two critical sections a task knows the key it found free. -/
inductive Task where
  | idle
  | inserting (key : String)

inductive Op where
  | acquire (key : String)
  | insert
  | release (guard : ℕ)

/-- One critical section of one task. -/
def lockStep (_ : ℕ) (op : Op) (m : LocalDistributedLock) :
    Task → Option (LocalDistributedLock × Task)
  | .idle => match op with
    | .acquire key =>
      if m.isLocked key then
        let e := LockError.acquireFailed key "Lock already held in local mode"
        some ({ m with errors := e :: m.errors }, .idle)
      else some (m, .inserting key)
    | .release guard => (m.guards[guard]?).map fun g => (m.releaseGuard guard g, .idle)
    | .insert => none
  | .inserting key => match op with
    | .insert => some (m.acquireLock key, .idle)
    | _ => none

def start : World LocalDistributedLock Task := ⟨new, fun _ => .idle⟩

/-- At most one unreleased guard per key, and the entry of each of them is in the map. -/
structure Exclusive (m : LocalDistributedLock) : Prop where
  unique : ∀ (i j : ℕ) (g g' : LocalLockGuard), m.guards[i]? = some g → m.guards[j]? = some g' →
    g.released = false → g'.released = false → g.key = g'.key → i = j
  kept : ∀ g ∈ m.guards, g.released = false → m.isLocked g.key = true

/-- A task inserts only a key that is still free, and a guard that was released before is
released again only while nobody holds its key. -/
def Orderly (w : World LocalDistributedLock Task) (act : ℕ × Op) : Prop :=
  match w.threads act.1, act.2 with
  | .inserting key, .insert => w.shared.isLocked key = false
  | .idle, .release guard => ∀ g, w.shared.guards[guard]? = some g → g.released = true →
      w.shared.isLocked g.key = false
  | _, _ => True

/-- Two tasks look before either inserts. -/
theorem two_tasks_one_key : ∃ w, Reaches (World.step lockStep) Free start w ∧
    ¬ Exclusive w.shared := by
  have hrun : ((run (World.step lockStep) start
      [(0, .acquire "k"), (1, .acquire "k"), (0, .insert), (1, .insert)]).map
        fun w => w.shared.guards) = some [⟨"k", false⟩, ⟨"k", false⟩] := by
    decide
  obtain ⟨w, hw, hguards⟩ := Option.map_eq_some_iff.mp hrun
  refine ⟨w, reaches_of_run hw, fun h => ?_⟩
  have hij := h.unique 0 1 ⟨"k", false⟩ ⟨"k", false⟩ (by rw [hguards]; rfl) (by rw [hguards]; rfl)
    rfl rfl rfl
  omega

/-! ## Acquiring and releasing -/

/-- The invariant: every entry of the map belongs to an unreleased guard. -/
structure LockInv (m : LocalDistributedLock) : Prop extends Exclusive m where
  owned : ∀ key, m.isLocked key = true →
    ∃ (i : ℕ) (g : LocalLockGuard), m.guards[i]? = some g ∧ g.released = false ∧ g.key = key

variable {m : LocalDistributedLock} {key : String} {guard : ℕ} {g : LocalLockGuard}

theorem lockInv_new : LockInv new where
  unique _ _ _ _ h := by cases h
  kept _ h := by cases h
  owned _ h := by cases h

theorem isLocked_acquireLock (key' : String) :
    (m.acquireLock key).isLocked key' = (decide (key' = key) || m.isLocked key') := by
  by_cases hk : key' = key
  · subst hk
    simp [acquireLock, isLocked]
  · simp [acquireLock, isLocked, hk]

theorem isLocked_releaseGuard (key' : String) :
    (m.releaseGuard guard g).isLocked key' = (decide (key' ≠ g.key) && m.isLocked key') := by
  by_cases hk : key' = g.key
  · subst hk
    simp [releaseGuard, releaseLock, isLocked]
  · simp [releaseGuard, releaseLock, isLocked, hk]

/-- The guards after `acquire`: the old ones, and the new one at the end. -/
theorem guards_acquireLock {i : ℕ} : (m.acquireLock key).guards[i]? = some g ↔
    m.guards[i]? = some g ∨ i = m.guards.length ∧ g = ⟨key, false⟩ := by
  rw [acquireLock, List.getElem?_append]
  split
  · rename_i hlt
    constructor
    · exact Or.inl
    · rintro (h | ⟨rfl, -⟩)
      · exact h
      · omega
  · rename_i hge
    rw [List.getElem?_singleton, List.getElem?_eq_none (by omega)]
    constructor
    · intro h
      split at h
      · cases h
        exact Or.inr ⟨by omega, rfl⟩
      · cases h
    · rintro (h | ⟨rfl, rfl⟩)
      · cases h
      · simp

/-- An unreleased guard after a release is another one, untouched. -/
theorem guards_releaseGuard {i : ℕ} {g' : LocalLockGuard} (hg' : g'.released = false)
    (h : (m.releaseGuard guard g).guards[i]? = some g') : i ≠ guard ∧ m.guards[i]? = some g' := by
  change (m.guards.set guard { g with released := true })[i]? = some g' at h
  rw [List.getElem?_set] at h
  split at h
  · split at h
    · cases h
      cases hg'
    · cases h
  · rename_i hne
    exact ⟨fun he => hne he.symm, h⟩

theorem guards_releaseGuard_of_ne {i : ℕ} (hne : i ≠ guard) :
    (m.releaseGuard guard g).guards[i]? = m.guards[i]? := by
  change (m.guards.set guard { g with released := true })[i]? = _
  rw [List.getElem?_set_ne (Ne.symm hne)]

theorem LockInv.acquire (h : LockInv m) (hfree : m.isLocked key = false) :
    LockInv (m.acquireLock key) := by
  have hnot : ∀ g ∈ m.guards, g.released = false → g.key ≠ key := by
    intro g hg hr hk
    have hlocked := h.kept g hg hr
    rw [hk, hfree] at hlocked
    cases hlocked
  refine ⟨⟨?_, ?_⟩, ?_⟩
  · intro i j g g' hi hj hr hr' hk
    rcases guards_acquireLock.mp hi with hi | ⟨rfl, rfl⟩
    · rcases guards_acquireLock.mp hj with hj | ⟨rfl, rfl⟩
      · exact h.unique i j g g' hi hj hr hr' hk
      · exact absurd hk (hnot g (List.mem_of_getElem? hi) hr)
    · rcases guards_acquireLock.mp hj with hj | ⟨rfl, rfl⟩
      · exact absurd hk.symm (hnot g' (List.mem_of_getElem? hj) hr')
      · rfl
  · intro g hg hr
    rw [isLocked_acquireLock]
    rcases List.mem_append.mp hg with hg | hg
    · rw [h.kept g hg hr, Bool.or_true]
    · rw [List.mem_singleton.mp hg]
      simp
  · intro key' hlocked
    rw [isLocked_acquireLock, Bool.or_eq_true, decide_eq_true_eq] at hlocked
    rcases hlocked with rfl | hlocked
    · exact ⟨m.guards.length, ⟨key', false⟩, guards_acquireLock.mpr (Or.inr ⟨rfl, rfl⟩), rfl, rfl⟩
    · obtain ⟨i, g, hi, hr, hk⟩ := h.owned key' hlocked
      exact ⟨i, g, guards_acquireLock.mpr (Or.inl hi), hr, hk⟩

/-- A key inserted over a held one has two guards. -/
theorem LockInv.not_exclusive_acquire (h : LockInv m) (hlocked : m.isLocked key = true) :
    ¬ Exclusive (m.acquireLock key) := by
  intro hex
  obtain ⟨i, g, hi, hr, hk⟩ := h.owned key hlocked
  have hlast := hex.unique i m.guards.length g ⟨key, false⟩ (guards_acquireLock.mpr (Or.inl hi))
    (guards_acquireLock.mpr (Or.inr ⟨rfl, rfl⟩)) hr rfl hk
  rw [hlast, List.getElem?_eq_none (Nat.le_refl _)] at hi
  cases hi

theorem LockInv.release (h : LockInv m) (hg : m.guards[guard]? = some g)
    (hok : g.released = true → m.isLocked g.key = false) : LockInv (m.releaseGuard guard g) := by
  refine ⟨⟨?_, ?_⟩, ?_⟩
  · intro i j g₁ g₂ hi hj hr hr' hk
    exact h.unique i j g₁ g₂ (guards_releaseGuard hr hi).2 (guards_releaseGuard hr' hj).2 hr hr' hk
  · intro g' hmem hr
    obtain ⟨i, hi⟩ := List.getElem?_of_mem hmem
    obtain ⟨hne, hi⟩ := guards_releaseGuard hr hi
    have hlocked := h.kept g' (List.mem_of_getElem? hi) hr
    have hkey : g'.key ≠ g.key := by
      intro hk
      cases hgr : g.released with
      | false => exact hne (h.unique i guard g' g hi hg hr hgr hk)
      | true =>
        rw [hk, hok hgr] at hlocked
        cases hlocked
    rw [isLocked_releaseGuard, hlocked]
    simpa using hkey
  · intro key' hlocked
    rw [isLocked_releaseGuard, Bool.and_eq_true, decide_eq_true_eq] at hlocked
    obtain ⟨i, g', hi, hr, hk⟩ := h.owned key' hlocked.2
    have hne : i ≠ guard := by
      rintro rfl
      rw [hi] at hg
      cases hg
      exact hlocked.1 hk.symm
    exact ⟨i, g', (guards_releaseGuard_of_ne hne).trans hi, hr, hk⟩

/-- A stale release of a held key takes the entry of its holder away. -/
theorem LockInv.not_exclusive_release (h : LockInv m) (hg : m.guards[guard]? = some g)
    (hstale : g.released = true) (hlocked : m.isLocked g.key = true) :
    ¬ Exclusive (m.releaseGuard guard g) := by
  intro hex
  obtain ⟨i, g', hi, hr, hk⟩ := h.owned g.key hlocked
  have hne : i ≠ guard := by
    rintro rfl
    rw [hi] at hg
    cases hg
    rw [hr] at hstale
    cases hstale
  have hkept := hex.kept g'
    (List.mem_of_getElem? ((guards_releaseGuard_of_ne hne).trans hi)) hr
  rw [isLocked_releaseGuard, hk] at hkept
  simp at hkept

/-! ## Orderly runs -/

variable {w w' : World LocalDistributedLock Task} {act : ℕ × Op}

/-- **One step** keeps the lock exclusive exactly when it is orderly. -/
theorem lockInv_step (h : LockInv w.shared) (hstep : World.step lockStep w act = some w') :
    (Orderly w act → LockInv w'.shared) ∧ (Exclusive w'.shared → Orderly w act) := by
  obtain ⟨i, op⟩ := act
  obtain ⟨sh, p, hs, rfl⟩ := World.step_eq_some.mp hstep
  unfold Orderly
  cases hp : w.threads i with
  | idle =>
    rw [hp] at hs
    cases op with
    | acquire key =>
      have hsame : sh.locks = w.shared.locks ∧ sh.guards = w.shared.guards := by
        unfold lockStep at hs
        dsimp only at hs
        split at hs <;> cases hs <;> exact ⟨rfl, rfl⟩
      have hlocked : sh.isLocked = w.shared.isLocked := by
        funext key
        simp only [isLocked, hsame.1]
      refine ⟨fun _ => ⟨⟨?_, ?_⟩, ?_⟩, fun _ => trivial⟩
      · rw [hsame.2]
        exact h.unique
      · rw [hsame.2, hlocked]
        exact h.kept
      · rw [hsame.2, hlocked]
        exact h.owned
    | insert => cases hs
    | release guard =>
      obtain ⟨g, hg, he⟩ := Option.map_eq_some_iff.mp hs
      cases he
      constructor
      · intro hok
        exact h.release hg (hok g hg)
      · intro hex g' hg' hstale
        rw [hg] at hg'
        cases hg'
        by_contra hlocked
        exact h.not_exclusive_release hg hstale (by simpa using hlocked) hex
  | inserting key =>
    rw [hp] at hs
    cases op with
    | insert =>
      cases hs
      constructor
      · exact h.acquire
      · intro hex
        by_contra hlocked
        exact h.not_exclusive_acquire (by simpa using hlocked) hex
    | acquire key' => cases hs
    | release guard => cases hs

theorem lockInv_of_reaches (h : Reaches (World.step lockStep) Orderly start w) :
    LockInv w.shared :=
  h.invariant lockInv_new fun _ _ _ hi hord hs => (lockInv_step hi hs).1 hord

/-- **Orderly runs.** The lock excludes in every state that an orderly run reaches, and the
next step keeps it so exactly when it is orderly. -/
theorem orderly_exclusive (h : Reaches (World.step lockStep) Orderly start w) :
    Exclusive w.shared ∧ ∀ act w', World.step lockStep w act = some w' →
      (Exclusive w'.shared ↔ Orderly w act) := by
  have hinv := lockInv_of_reaches h
  refine ⟨hinv.toExclusive, fun act w' hs => ?_⟩
  obtain ⟨hkeep, hneed⟩ := lockInv_step hinv hs
  exact ⟨hneed, fun hord => (hkeep hord).toExclusive⟩

/-- A key goes from one task to another through a release. -/
theorem orderly_exclusive_handover : ∃ w, Reaches (World.step lockStep) Orderly start w ∧
    w.shared.guards = [⟨"k", true⟩, ⟨"k", false⟩] ∧ Exclusive w.shared := by
  have hrelease : ∀ g : LocalLockGuard, [LocalLockGuard.mk "k" false][0]? = some g →
      g.released = true → ((new.acquireLock "k").isLocked g.key = false) := by
    intro g hg hr
    cases hg
    cases hr
  have hreach : Reaches (World.step lockStep) Orderly start _ :=
    Reaches.cons (a := (0, .acquire "k")) trivial rfl <|
    Reaches.cons (a := (0, .insert)) rfl rfl <|
    Reaches.cons (a := (0, .release 0)) hrelease rfl <|
    Reaches.cons (a := (1, .acquire "k")) trivial rfl <|
    Reaches.single (a := (1, .insert)) rfl rfl
  exact ⟨_, hreach, rfl, (orderly_exclusive hreach).1⟩

end LocalDistributedLock

end NebulaId
