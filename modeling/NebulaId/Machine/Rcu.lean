import NebulaId.Machine.Threads
import Mathlib.Algebra.Order.Ring.Nat

/-!
# Read, copy, update

A cell points to a value that is never changed in place. An update loads the pointer, makes a new
value from the old one, and swaps the pointer if it still is the one it has loaded; otherwise it
goes on from the pointer that it has found there. Any number of updates may be at work.

* `rcu_replays`: the value of the cell is the first one with all updates that have ended applied
  to it, each once, in the order in which they have ended.
* `rcu_failures`: an update has failed to swap at most as often as others have ended since it
  loaded.
-/

namespace Machine

variable {σ υ : Type*}

/-- Two pointers are the same exactly when they have the same version. `history` are the updates
that have ended, the last one first. -/
structure Cell (σ υ : Type*) where
  version : ℕ
  value : σ
  history : List υ

/-- An update at work: `first` is the version it has loaded, `seen` the one its value is from, and
`failures` counts the swaps that have failed. -/
inductive Updater (σ υ : Type*) where
  | idle
  | loading (u : υ)
  | swapping (u : υ) (first seen failures : ℕ) (read : σ)

inductive RcuOp (υ : Type*) where
  | start (u : υ)
  | proceed

/-- One operation of one update. -/
def rcuStep (apply : υ → σ → σ) (_ : ℕ) :
    RcuOp υ → Cell σ υ → Updater σ υ → Option (Cell σ υ × Updater σ υ)
  | .start u, c, .idle => some (c, .loading u)
  | .proceed, c, .loading u => some (c, .swapping u c.version c.version 0 c.value)
  | .proceed, c, .swapping u first seen failures read =>
    if seen = c.version then some (⟨c.version + 1, apply u read, u :: c.history⟩, .idle)
    else some (c, .swapping u first c.version (failures + 1) c.value)
  | _, _, _ => none

/-- A cell that nobody has updated. -/
def freshCell (υ : Type*) (start : σ) : World (Cell σ υ) (Updater σ υ) :=
  ⟨⟨0, start, []⟩, fun _ => .idle⟩

/-- The cell holds what the updates made so far have made of the first value. -/
structure Cell.Replays (apply : υ → σ → σ) (start : σ) (c : Cell σ υ) : Prop where
  value : c.value = c.history.foldr apply start
  version : c.version = c.history.length

/-- What an update has read is the value of the version that it has seen, and each failure has
seen a later version. -/
def Updater.Sound (c : Cell σ υ) (_ : ℕ) : Updater σ υ → Prop
  | .swapping _ first seen failures read =>
    (seen = c.version → read = c.value) ∧ seen ≤ c.version ∧ first + failures ≤ seen
  | _ => True

abbrev RcuInv (apply : υ → σ → σ) (start : σ) : World (Cell σ υ) (Updater σ υ) → Prop :=
  World.Inv (Cell.Replays apply start) Updater.Sound fun _ _ => True

variable {apply : υ → σ → σ} {start : σ} {w w' : World (Cell σ υ) (Updater σ υ)} {i : ℕ}

theorem rcuInv_fresh : RcuInv apply start (freshCell υ start) where
  memory := ⟨rfl, rfl⟩
  thread _ := trivial
  pair _ _ _ := trivial

/-- An update leaves the cell alone. -/
theorem RcuInv.quiet (h : RcuInv apply start w) {p : Updater σ υ} (hp : p.Sound w.shared i) :
    RcuInv apply start ⟨w.shared, Function.update w.threads i p⟩ :=
  h.update (fun _ _ _ => trivial) h.memory hp (fun _ _ hj => hj) fun _ _ _ => trivial

/-- An update swaps the pointer: what the others have read is of an earlier version now. -/
theorem RcuInv.swap (h : RcuInv apply start w) (u : υ) :
    RcuInv apply start ⟨⟨w.shared.version + 1, apply u w.shared.value, u :: w.shared.history⟩,
      Function.update w.threads i .idle⟩ := by
  obtain ⟨hvalue, hversion⟩ := h.memory
  refine h.update (fun _ _ _ => trivial) ⟨?_, ?_⟩ trivial ?_ fun _ _ _ => trivial
  · rw [hvalue, List.foldr_cons]
  · rw [hversion, List.length_cons]
  · intro j _ hj
    cases hp : w.threads j with
    | swapping u' first seen failures read =>
      rw [hp] at hj
      obtain ⟨-, hseen, hfailures⟩ := hj
      exact ⟨fun heq => by dsimp only at heq; omega, Nat.le_succ_of_le hseen, hfailures⟩
    | _ => trivial

/-- **One step.** -/
theorem rcuInv_step {a : ℕ × RcuOp υ} (h : RcuInv apply start w)
    (hs : World.step (rcuStep apply) w a = some w') : RcuInv apply start w' := by
  obtain ⟨i, op⟩ := a
  obtain ⟨c, p, hstep, rfl⟩ := World.step_eq_some.mp hs
  have hi := h.thread i
  cases hp : w.threads i with
  | idle =>
    rw [hp] at hstep
    cases op with
    | start u =>
      cases hstep
      exact h.quiet trivial
    | proceed => cases hstep
  | loading u =>
    rw [hp] at hstep
    cases op with
    | start u => cases hstep
    | proceed =>
      cases hstep
      exact h.quiet ⟨fun _ => rfl, le_rfl, le_rfl⟩
  | swapping u first seen failures read =>
    rw [hp] at hstep hi
    obtain ⟨hread, hseen, hfailures⟩ := hi
    cases op with
    | start u => cases hstep
    | proceed =>
      simp only [rcuStep] at hstep
      split at hstep
      · rename_i heq
        cases hstep
        rw [hread heq]
        exact h.swap u
      · rename_i hne
        cases hstep
        exact h.quiet ⟨fun _ => rfl, le_rfl, by omega⟩

theorem rcuInv_of_reaches (h : Reaches (World.step (rcuStep apply)) Free (freshCell υ start) w) :
    RcuInv apply start w :=
  h.invariant rcuInv_fresh fun _ _ _ hinv _ hs => rcuInv_step hinv hs

/-- **Serial updates.** -/
theorem rcu_replays (h : Reaches (World.step (rcuStep apply)) Free (freshCell υ start) w) :
    w.shared.value = w.shared.history.foldr apply start := (rcuInv_of_reaches h).memory.value

/-- **Progress.** An update fails only when another one has ended in the meantime. -/
theorem rcu_failures (h : Reaches (World.step (rcuStep apply)) Free (freshCell υ start) w)
    {u : υ} {first seen failures : ℕ} {read : σ}
    (hi : w.threads i = .swapping u first seen failures read) :
    failures ≤ w.shared.history.length - first := by
  have hinv := rcuInv_of_reaches h
  have hthread := hinv.thread i
  rw [hi] at hthread
  obtain ⟨-, hseen, hfailures⟩ := hthread
  rw [← hinv.memory.version]
  omega

end Machine
