import NebulaId.Machine.Threads
import Mathlib.Data.Finset.Card
import Mathlib.Data.Fintype.Card

/-!
# Tasks on a number of workers

An executor has `W` workers, and a worker that has taken a task runs it until the task is done or
waits. Only a task that waits can be taken from its worker, so a task that goes round in a loop
keeps the worker.

* `step_cases`: what a step of the executor is.
* `world_reaches`: the tasks move as threads do.
* `lt_of_busy`: when all workers are busy and one more task is alive, more than `W` tasks are.
-/

namespace Machine

/-- `done` is a task that has not begun or has ended, and `waits` one at an await. -/
structure AsyncProgram (σ π α : Type*) where
  step : ℕ → α → σ → π → Option (σ × π)
  done : π → Bool
  waits : π → Bool

structure Executor (W : ℕ) (σ π : Type*) where
  world : World σ π
  workers : Fin W → Option ℕ

/-- A task begins; a free worker takes one; a worker runs its task one operation further, or leaves
it where it waits. -/
inductive ExecutorAct (W : ℕ) (α : Type*) where
  | spawn (i : ℕ) (a : α)
  | take (k : Fin W) (i : ℕ)
  | run (k : Fin W) (a : α)
  | suspend (k : Fin W)

namespace Executor

variable {W n : ℕ} {σ π α : Type*}

def step (prog : AsyncProgram σ π α) (e : Executor W σ π) : ExecutorAct W α → Option (Executor W σ π)
  | .spawn i a =>
    if prog.done (e.world.threads i) then
      (World.step prog.step e.world (i, a)).map fun w => ⟨w, e.workers⟩
    else none
  | .take k i =>
    if e.workers k = none ∧ prog.done (e.world.threads i) = false ∧ ∀ k', e.workers k' ≠ some i then
      some ⟨e.world, Function.update e.workers k (some i)⟩
    else none
  | .run k a => (e.workers k).bind fun i => (World.step prog.step e.world (i, a)).map fun w =>
      ⟨w, if prog.done (w.threads i) then Function.update e.workers k none else e.workers⟩
  | .suspend k => (e.workers k).bind fun i =>
      if prog.waits (e.world.threads i) then some ⟨e.world, Function.update e.workers k none⟩ else none

/-- No two workers run the same task, and none runs one that is done. -/
structure Apart (prog : AsyncProgram σ π α) (e : Executor W σ π) : Prop where
  single : ∀ k k' i, e.workers k = some i → e.workers k' = some i → k = k'
  busy : ∀ k i, e.workers k = some i → prog.done (e.world.threads i) = false

/-- No more than `n` tasks are alive. -/
def AtMost (prog : AsyncProgram σ π α) (n : ℕ) (e : Executor W σ π) : Prop :=
  ∃ s : Finset ℕ, s.card ≤ n ∧ ∀ i, prog.done (e.world.threads i) = false → i ∈ s

/-- A task begins only while fewer than `n` are alive. -/
def Room (prog : AsyncProgram σ π α) (n : ℕ) (e : Executor W σ π) : ExecutorAct W α → Prop
  | .spawn _ _ => ∃ s : Finset ℕ, s.card < n ∧ ∀ i, prog.done (e.world.threads i) = false → i ∈ s
  | _ => True

variable {prog : AsyncProgram σ π α} {e e' : Executor W σ π} {act : ExecutorAct W α}

theorem step_spawn {i : ℕ} {a : α} {w : World σ π} (hdone : prog.done (e.world.threads i) = true)
    (hw : World.step prog.step e.world (i, a) = some w) :
    step prog e (.spawn i a) = some ⟨w, e.workers⟩ :=
  Option.ite_none_right_eq_some.mpr ⟨hdone, Option.map_eq_some_iff.mpr ⟨w, hw, rfl⟩⟩

theorem step_take {k : Fin W} {i : ℕ} (hfree : e.workers k = none)
    (halive : prog.done (e.world.threads i) = false) (hnone : ∀ k', e.workers k' ≠ some i) :
    step prog e (.take k i) = some ⟨e.world, Function.update e.workers k (some i)⟩ :=
  if_pos ⟨hfree, halive, hnone⟩

theorem step_run {k : Fin W} {i : ℕ} {a : α} {w : World σ π} (hk : e.workers k = some i)
    (hw : World.step prog.step e.world (i, a) = some w)
    (halive : prog.done (w.threads i) = false) : step prog e (.run k a) = some ⟨w, e.workers⟩ := by
  refine Option.bind_eq_some_iff.mpr ⟨i, hk, Option.map_eq_some_iff.mpr ⟨w, hw, ?_⟩⟩
  rw [halive]
  rfl

theorem step_suspend {k : Fin W} {i : ℕ} (hk : e.workers k = some i)
    (hwaits : prog.waits (e.world.threads i) = true) :
    step prog e (.suspend k) = some ⟨e.world, Function.update e.workers k none⟩ :=
  Option.bind_eq_some_iff.mpr ⟨i, hk, if_pos hwaits⟩

/-- What a step is. -/
theorem step_cases (h : step prog e act = some e') :
    (∃ i a w, act = .spawn i a ∧ prog.done (e.world.threads i) = true ∧
      World.step prog.step e.world (i, a) = some w ∧ e' = ⟨w, e.workers⟩) ∨
    (∃ k i, act = .take k i ∧ e.workers k = none ∧ prog.done (e.world.threads i) = false ∧
      (∀ k', e.workers k' ≠ some i) ∧ e' = ⟨e.world, Function.update e.workers k (some i)⟩) ∨
    (∃ k i a w, act = .run k a ∧ e.workers k = some i ∧
      World.step prog.step e.world (i, a) = some w ∧
      e' = ⟨w, if prog.done (w.threads i) then Function.update e.workers k none else e.workers⟩) ∨
    ∃ k i, act = .suspend k ∧ e.workers k = some i ∧ prog.waits (e.world.threads i) = true ∧
      e' = ⟨e.world, Function.update e.workers k none⟩ := by
  cases act with
  | spawn i a =>
    obtain ⟨hdone, h⟩ := Option.ite_none_right_eq_some.mp h
    obtain ⟨w, hw, rfl⟩ := Option.map_eq_some_iff.mp h
    exact Or.inl ⟨i, a, w, rfl, hdone, hw, rfl⟩
  | take k i =>
    obtain ⟨⟨hfree, halive, hnone⟩, h⟩ := Option.ite_none_right_eq_some.mp h
    cases h
    exact Or.inr (Or.inl ⟨k, i, rfl, hfree, halive, hnone, rfl⟩)
  | run k a =>
    obtain ⟨i, hi, h⟩ := Option.bind_eq_some_iff.mp h
    obtain ⟨w, hw, rfl⟩ := Option.map_eq_some_iff.mp h
    exact Or.inr (Or.inr (Or.inl ⟨k, i, a, w, rfl, hi, hw, rfl⟩))
  | suspend k =>
    obtain ⟨i, hi, h⟩ := Option.bind_eq_some_iff.mp h
    obtain ⟨hwaits, h⟩ := Option.ite_none_right_eq_some.mp h
    cases h
    exact Or.inr (Or.inr (Or.inr ⟨k, i, rfl, hi, hwaits, rfl⟩))

/-- The tasks move as threads do. -/
theorem world_step (h : step prog e act = some e') :
    e'.world = e.world ∨ ∃ i a, World.step prog.step e.world (i, a) = some e'.world := by
  rcases step_cases h with ⟨i, a, w, -, -, hw, rfl⟩ | ⟨k, i, -, -, -, -, rfl⟩ |
    ⟨k, i, a, w, -, -, hw, rfl⟩ | ⟨k, i, -, -, -, rfl⟩
  · exact Or.inr ⟨i, a, hw⟩
  · exact Or.inl rfl
  · exact Or.inr ⟨i, a, hw⟩
  · exact Or.inl rfl

theorem world_reaches {C : Executor W σ π → ExecutorAct W α → Prop}
    (h : Reaches (step prog) C e e') : Reaches (World.step prog.step) Free e.world e'.world := by
  induction h with
  | refl => exact Reaches.refl _
  | tail _ hn ih =>
    obtain ⟨act, -, hstep⟩ := hn
    rcases world_step hstep with heq | ⟨i, a, hw⟩
    · rw [heq]
      exact ih
    · exact ih.trans (Reaches.single trivial hw)

/-- A step moves one thread only. -/
theorem threads_of_ne {w w' : World σ π} {i j : ℕ} {a : α}
    (h : World.step prog.step w (i, a) = some w') (hne : j ≠ i) : w'.threads j = w.threads j := by
  obtain ⟨sh, p, -, rfl⟩ := World.step_eq_some.mp h
  exact Function.update_of_ne hne _ _

theorem of_release {workers : Fin W → Option ℕ} {k k' : Fin W} {j : ℕ}
    (h : Function.update workers k none k' = some j) : k' ≠ k ∧ workers k' = some j := by
  by_cases hk : k' = k
  · subst hk
    rw [Function.update_self] at h
    cases h
  · rw [Function.update_of_ne hk] at h
    exact ⟨hk, h⟩

theorem Apart.release (hapart : Apart prog e) (k : Fin W) :
    Apart prog ⟨e.world, Function.update e.workers k none⟩ where
  single _ _ j hj hj' := hapart.single _ _ j (of_release hj).2 (of_release hj').2
  busy k' j hj := hapart.busy k' j (of_release hj).2

theorem Apart.step (hapart : Apart prog e) (h : step prog e act = some e') : Apart prog e' := by
  rcases step_cases h with ⟨i, a, w, -, hdone, hw, rfl⟩ | ⟨k, i, -, -, halive, hnone, rfl⟩ |
    ⟨k, i, a, w, -, hk, hw, rfl⟩ | ⟨k, i, -, hk, -, rfl⟩
  · refine ⟨hapart.single, fun k' j hj => ?_⟩
    have hne : j ≠ i := by
      rintro rfl
      rw [hapart.busy k' j hj] at hdone
      cases hdone
    dsimp only
    rw [threads_of_ne hw hne]
    exact hapart.busy k' j hj
  · have hold : ∀ k' j, Function.update e.workers k (some i) k' = some j →
        (k' = k ∧ j = i) ∨ (j ≠ i ∧ e.workers k' = some j) := by
      intro k' j hj
      by_cases hk : k' = k
      · subst hk
        rw [Function.update_self] at hj
        exact Or.inl ⟨rfl, (Option.some.inj hj).symm⟩
      · rw [Function.update_of_ne hk] at hj
        refine Or.inr ⟨?_, hj⟩
        rintro rfl
        exact hnone k' hj
    refine ⟨fun k₁ k₂ j hj hj' => ?_, fun k' j hj => ?_⟩
    · rcases hold k₁ j hj with ⟨rfl, rfl⟩ | ⟨hne, hold₁⟩
      · rcases hold k₂ j hj' with ⟨rfl, -⟩ | ⟨hne, -⟩
        · rfl
        · exact absurd rfl hne
      · rcases hold k₂ j hj' with ⟨-, rfl⟩ | ⟨-, hold₂⟩
        · exact absurd rfl hne
        · exact hapart.single k₁ k₂ j hold₁ hold₂
    · rcases hold k' j hj with ⟨-, rfl⟩ | ⟨-, hj⟩
      · exact halive
      · exact hapart.busy k' j hj
  · -- the other workers run other tasks, which have not moved
    have hother : ∀ k' j, e.workers k' = some j → k' ≠ k → prog.done (w.threads j) = false := by
      intro k' j hj hne
      have hji : j ≠ i := by
        rintro rfl
        exact hne (hapart.single k' k j hj hk)
      rw [threads_of_ne hw hji]
      exact hapart.busy k' j hj
    split
    · refine ⟨fun _ _ j hj hj' => hapart.single _ _ j (of_release hj).2 (of_release hj').2, ?_⟩
      intro k' j hj
      exact hother k' j (of_release hj).2 (of_release hj).1
    · rename_i halive
      refine ⟨hapart.single, fun k' j hj => ?_⟩
      by_cases hkk : k' = k
      · subst hkk
        rw [hk] at hj
        cases hj
        exact Bool.not_eq_true _ |>.mp halive
      · exact hother k' j hj hkk
  · exact hapart.release k

/-- After a step of the thread `i` the others are alive that were. -/
theorem alive_of_step {w w' : World σ π} {i j : ℕ} {a : α} {s : Finset ℕ}
    (h : World.step prog.step w (i, a) = some w')
    (hs : ∀ j, prog.done (w.threads j) = false → j ∈ s) (hj : prog.done (w'.threads j) = false) :
    j ∈ insert i s := by
  by_cases hji : j = i
  · rw [hji]
    exact Finset.mem_insert_self i s
  · rw [threads_of_ne h hji] at hj
    exact Finset.mem_insert_of_mem (hs j hj)

theorem AtMost.step (hapart : Apart prog e) (hmost : AtMost prog n e) (hroom : Room prog n e act)
    (h : step prog e act = some e') : AtMost prog n e' := by
  rcases step_cases h with ⟨i, a, w, rfl, -, hw, rfl⟩ | ⟨k, i, -, -, -, -, rfl⟩ |
    ⟨k, i, a, w, -, hk, hw, rfl⟩ | ⟨k, i, -, -, -, rfl⟩
  · obtain ⟨s, hcard, hs⟩ := hroom
    refine ⟨insert i s, ?_, fun j hj => alive_of_step hw hs hj⟩
    have hinsert := Finset.card_insert_le i s
    omega
  · exact hmost
  · obtain ⟨s, hcard, hs⟩ := hmost
    refine ⟨s, hcard, fun j hj => ?_⟩
    have hi : i ∈ s := hs i (hapart.busy k i hk)
    have hmem := alive_of_step hw hs hj
    rw [Finset.insert_eq_of_mem hi] at hmem
    exact hmem
  · exact hmost

/-- A run of at most `n` tasks at a time. -/
theorem reaches_room (h : Reaches (step prog) (Room prog n) e e') (hapart : Apart prog e)
    (hmost : AtMost prog n e) : Apart prog e' ∧ AtMost prog n e' := by
  refine h.invariant (I := fun e => Apart prog e ∧ AtMost prog n e) ⟨hapart, hmost⟩ ?_
  rintro e act e' ⟨ha, hm⟩ hroom hstep
  exact ⟨ha.step hstep, hm.step ha hroom hstep⟩

/-- A worker runs its task through some operations, and the task is not done yet. -/
theorem reaches_work {C : Executor W σ π → ExecutorAct W α → Prop} (hC : ∀ e k a, C e (.run k a))
    {k : Fin W} {i : ℕ} {as : List α} {m' : σ} {p' : π} (hk : e.workers k = some i)
    (h : World.runThread prog.step (fun p => prog.done p = false) i e.world.shared
      (e.world.threads i) as = some (m', p')) (halive : prog.done p' = false) :
    Reaches (step prog) C e ⟨⟨m', Function.update e.world.threads i p'⟩, e.workers⟩ := by
  induction as generalizing e with
  | nil =>
    cases h
    rw [Function.update_eq_self]
    exact Reaches.refl e
  | cons a as ih =>
    obtain ⟨-, h⟩ := Option.ite_none_right_eq_some.mp h
    obtain ⟨⟨m, p⟩, hs, h⟩ := Option.bind_eq_some_iff.mp h
    let w : World σ π := ⟨m, Function.update e.world.threads i p⟩
    have hself : w.threads i = p := Function.update_self i p e.world.threads
    have hw : World.step prog.step e.world (i, a) = some w := World.step_eq_some.mpr ⟨m, p, hs, rfl⟩
    have hp : prog.done (w.threads i) = false := by
      rw [hself]
      cases as with
      | nil =>
        cases h
        exact halive
      | cons b bs => exact (Option.ite_none_right_eq_some.mp h).1
    have hrest := ih (e := ⟨w, e.workers⟩) hk (by rw [hself]; exact h)
    dsimp only [w] at hrest
    rw [Function.update_idem] at hrest
    exact Reaches.cons (hC e k a) (step_run hk hw hp) hrest

/-- **Busy workers.** When all of them are busy and one more task is alive, more than `W` are. -/
theorem lt_of_busy (hapart : Apart prog e) (hmost : AtMost prog n e)
    (hbusy : ∀ k, ∃ i, e.workers k = some i) {j : ℕ}
    (halive : prog.done (e.world.threads j) = false) (hfree : ∀ k, e.workers k ≠ some j) :
    W < n := by
  obtain ⟨s, hcard, hs⟩ := hmost
  choose task htask using hbusy
  have hinj : Function.Injective task := by
    intro k k' heq
    exact hapart.single k k' (task k) (htask k) (heq ▸ htask k')
  have hsub : insert j (Finset.univ.image task) ⊆ s := by
    intro i hi
    rcases Finset.mem_insert.mp hi with rfl | hi
    · exact hs i halive
    · obtain ⟨k, -, rfl⟩ := Finset.mem_image.mp hi
      exact hs _ (hapart.busy k _ (htask k))
  have hnot : j ∉ Finset.univ.image task := by
    intro hj
    obtain ⟨k, -, rfl⟩ := Finset.mem_image.mp hj
    exact hfree k (htask k)
  have hle := Finset.card_le_card hsub
  rw [Finset.card_insert_of_notMem hnot, Finset.card_image_of_injective _ hinj, Finset.card_univ,
    Fintype.card_fin] at hle
  omega

end Executor

end Machine
