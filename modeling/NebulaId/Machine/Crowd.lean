import NebulaId.Machine.Run
import Mathlib.Algebra.Order.Ring.Nat
import Mathlib.Data.List.Basic

/-!
# Tasks that come and go

A crowd is a shared memory with the list of the tasks started so far. A `Program` says how
a task starts, what one atomic step of a task does to the memory and to the task, and what
happens around the tasks (the clock). `Crowd.step` lets any task move and any new task
come, so its runs are all the interleavings of any number of tasks. A list of tasks has a
count for each kind of task, which a function from task numbers has not.

* `Guard`: a condition on the task that moves.
* `step_cases`: what a step is.
* `countP_set_add`, `sum_map_set_add`: how a count and a sum change when one task moves.
-/

namespace Machine

/-- `ρ` are the requests that start tasks, `α` the inputs of a step, `ε` the events around
the tasks. -/
structure Program (σ π ρ α ε : Type*) where
  start : ρ → π
  step : α → σ → π → Option (σ × π)
  pass : ε → σ → σ

/-- A new task, a step of task number `i`, or an event around the tasks. -/
inductive CrowdAct (ρ α ε : Type*) where
  | spawn (r : ρ)
  | move (i : ℕ) (a : α)
  | pass (e : ε)

structure Crowd (σ π : Type*) where
  shared : σ
  tasks : List π

namespace Crowd

variable {σ π ρ α ε : Type*}

def step (prog : Program σ π ρ α ε) (w : Crowd σ π) : CrowdAct ρ α ε → Option (Crowd σ π)
  | .spawn r => some ⟨w.shared, w.tasks ++ [prog.start r]⟩
  | .move i a => w.tasks[i]?.bind fun p => (prog.step a w.shared p).map fun r =>
      ⟨r.1, w.tasks.set i r.2⟩
  | .pass e => some ⟨prog.pass e w.shared, w.tasks⟩

/-- Only a task that meets the condition moves. -/
def Guard (G : Crowd σ π → π → Prop) (w : Crowd σ π) : CrowdAct ρ α ε → Prop
  | .move i _ => ∀ p, w.tasks[i]? = some p → G w p
  | _ => True

variable {prog : Program σ π ρ α ε} {G : Crowd σ π → π → Prop} {w w' : Crowd σ π} {i : ℕ} {a : α}
  {p q : π}

theorem step_move : step prog w (.move i a) = some w' ↔
    ∃ p sh q, w.tasks[i]? = some p ∧ prog.step a w.shared p = some (sh, q) ∧
      w' = ⟨sh, w.tasks.set i q⟩ := by
  simp only [step, Option.bind_eq_some_iff, Option.map_eq_some_iff, Prod.exists]
  constructor
  · rintro ⟨p, hp, sh, q, hs, rfl⟩
    exact ⟨p, sh, q, hp, hs, rfl⟩
  · rintro ⟨p, sh, q, hp, hs, rfl⟩
    exact ⟨p, hp, sh, q, hs, rfl⟩

/-- A step starts a task, moves one, or leaves the tasks alone. -/
theorem step_cases {act : CrowdAct ρ α ε} (h : step prog w act = some w') :
    (∃ r, act = .spawn r ∧ w' = ⟨w.shared, w.tasks ++ [prog.start r]⟩) ∨
    (∃ i a p sh q, act = .move i a ∧ w.tasks[i]? = some p ∧
      prog.step a w.shared p = some (sh, q) ∧ w' = ⟨sh, w.tasks.set i q⟩) ∨
    ∃ e, act = .pass e ∧ w' = ⟨prog.pass e w.shared, w.tasks⟩ := by
  cases act with
  | spawn r => exact Or.inl ⟨r, rfl, (Option.some.inj h).symm⟩
  | move i a =>
    obtain ⟨p, sh, q, hp, hs, rfl⟩ := step_move.mp h
    exact Or.inr (Or.inl ⟨i, a, p, sh, q, rfl, hp, hs, rfl⟩)
  | pass e => exact Or.inr (Or.inr ⟨e, rfl, (Option.some.inj h).symm⟩)

theorem reaches_spawn (r : ρ) :
    Reaches (step prog) (Guard G) w ⟨w.shared, w.tasks ++ [prog.start r]⟩ :=
  Reaches.single (a := .spawn r) trivial rfl

/-- The task behind `ps` moves. -/
theorem reaches_move {sh sh' : σ} {ps qs : List π} (hG : G ⟨sh, ps ++ p :: qs⟩ p)
    (hs : prog.step a sh p = some (sh', q)) :
    Reaches (step prog) (Guard G) ⟨sh, ps ++ p :: qs⟩ ⟨sh', ps ++ q :: qs⟩ := by
  have hp : (ps ++ p :: qs)[ps.length]? = some p := by simp
  refine Reaches.single (a := .move ps.length a) (fun p' hp' => ?_)
    (step_move.mpr ⟨p, sh', q, hp, hs, by simp⟩)
  have heq : p = p' := Option.some.inj (hp.symm.trans hp')
  exact heq ▸ hG

theorem forall_mem_set {P : π → Prop} {tasks : List π} (h : ∀ p ∈ tasks, P p) (hq : P q) :
    ∀ p ∈ tasks.set i q, P p := by
  intro p hp
  rcases List.mem_or_eq_of_mem_set hp with hp | rfl
  · exact h p hp
  · exact hq

theorem forall_mem_snoc {P : π → Prop} {tasks : List π} (h : ∀ p ∈ tasks, P p) (hq : P q) :
    ∀ p ∈ tasks ++ [q], P p := by
  intro p hp
  rcases List.mem_append.mp hp with hp | hp
  · exact h p hp
  · rw [List.mem_singleton.mp hp]
    exact hq

/-- One task has moved: the count loses the old task and gains the new one. -/
theorem countP_set_add {tasks : List π} (f : π → Bool) (hp : tasks[i]? = some p) :
    (tasks.set i q).countP f + (if f p then 1 else 0) =
      tasks.countP f + if f q then 1 else 0 := by
  obtain ⟨hi, rfl⟩ := List.getElem?_eq_some_iff.mp hp
  have hle := List.boole_getElem_le_countP (p := f) hi
  rw [List.countP_set hi]
  omega

/-- One task has moved: a sum over the tasks loses its old share and gains the new one. -/
theorem sum_map_set_add {tasks : List π} (f : π → ℕ) (hp : tasks[i]? = some p) :
    ((tasks.set i q).map f).sum + f p = (tasks.map f).sum + f q := by
  induction tasks generalizing i with
  | nil => cases hp
  | cons t tasks ih =>
    cases i with
    | zero =>
      cases hp
      rw [List.set_cons_zero, List.map_cons, List.map_cons, List.sum_cons, List.sum_cons]
      omega
    | succ i =>
      have hrest := ih (i := i) hp
      rw [List.set_cons_succ, List.map_cons, List.map_cons, List.sum_cons, List.sum_cons]
      omega

end Crowd

end Machine
