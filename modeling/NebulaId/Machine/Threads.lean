import NebulaId.Machine.Run
import Mathlib.Logic.Function.Basic

/-!
# Interleaved threads over a shared memory

A program gives one atomic step of one thread: from the thread's number, an input (a
clock reading, the reply of a service), the shared memory and the thread's own state, it
computes the new memory and the new state of that thread, or `none` when the thread
cannot take this step. `World.step` lets any thread move, so the runs of `World.step` are
all the interleavings of the atomic steps of any number of threads.

`World.Inv G L M` is an invariant in the thread-modular form: `G` about the memory, `L`
about the memory and one thread, `M` about two different threads. `Inv.update` is the
rule for one step: show `G` and `L` for the thread that moved, that `L` of the other
threads survives the change of the memory, and `M` between it and the others.
-/

namespace Machine

/-- The shared memory and the state of every thread. -/
structure World (σ π : Type*) where
  shared : σ
  threads : ℕ → π

namespace World

variable {σ π α : Type*}

/-- One step of one thread. -/
def step (prog : ℕ → α → σ → π → Option (σ × π)) (w : World σ π) (a : ℕ × α) :
    Option (World σ π) :=
  (prog a.1 a.2 w.shared (w.threads a.1)).map fun r =>
    ⟨r.1, Function.update w.threads a.1 r.2⟩

variable {prog : ℕ → α → σ → π → Option (σ × π)} {w w' : World σ π} {i : ℕ} {a : α}

/-- A step is one step of the program of one thread; the other threads stand still. -/
theorem step_eq_some :
    step prog w (i, a) = some w' ↔ ∃ sh p, prog i a w.shared (w.threads i) = some (sh, p) ∧
      w' = ⟨sh, Function.update w.threads i p⟩ := by
  simp only [step, Option.map_eq_some_iff, Prod.exists]
  constructor
  · rintro ⟨sh, p, h, rfl⟩
    exact ⟨sh, p, h, rfl⟩
  · rintro ⟨sh, p, h, rfl⟩
    exact ⟨sh, p, h, rfl⟩

/-- After a step each thread is the one that moved or stands where it stood. -/
theorem threads_moved {sh : σ} {p q : π} {threads : ℕ → π} {j : ℕ}
    (h : (World.mk sh (Function.update threads i p)).threads j = q) :
    (j = i ∧ p = q) ∨ (j ≠ i ∧ threads j = q) := by
  by_cases hji : j = i
  · subst hji
    exact Or.inl ⟨rfl, by simpa using h⟩
  · exact Or.inr ⟨hji, by simpa [Function.update_of_ne hji] using h⟩

/-- What holds of each thread and of the new state of the one that moves holds of each
thread afterwards. -/
theorem threads_forall {P : π → Prop} {sh : σ} {p : π} (hp : P p) (h : ∀ j, P (w.threads j))
    (j : ℕ) : P ((World.mk sh (Function.update w.threads i p)).threads j) := by
  by_cases hji : j = i
  · subst hji
    simpa using hp
  · simpa [Function.update_of_ne hji] using h j

/-- A thread that stands elsewhere than the one that moves stays there. -/
theorem threads_kept {sh : σ} {p : π} {j : ℕ} (hne : w.threads j ≠ w.threads i) :
    (World.mk sh (Function.update w.threads i p)).threads j = w.threads j := by
  refine Function.update_of_ne ?_ _ _
  rintro rfl
  exact hne rfl

/-- An invariant of the memory, of each thread, and of each two threads. -/
structure Inv (G : σ → Prop) (L : σ → ℕ → π → Prop) (M : π → π → Prop) (w : World σ π) :
    Prop where
  memory : G w.shared
  thread : ∀ i, L w.shared i (w.threads i)
  pair : ∀ i j, i ≠ j → M (w.threads i) (w.threads j)

/-- **Step rule.** After one thread has moved only four things are left to show: the
memory, the moved thread, the other threads under the new memory, and the moved thread
against each other one. -/
theorem Inv.update {G : σ → Prop} {L : σ → ℕ → π → Prop} {M : π → π → Prop}
    (h : Inv G L M w) (hM : ∀ p q, M p q → M q p) {sh : σ} {p : π} (hG : G sh) (hL : L sh i p)
    (hframe : ∀ j, j ≠ i → L w.shared j (w.threads j) → L sh j (w.threads j))
    (hpair : ∀ j, j ≠ i → M (w.threads i) (w.threads j) → M p (w.threads j)) :
    Inv G L M ⟨sh, Function.update w.threads i p⟩ where
  memory := hG
  thread j := by
    by_cases hj : j = i
    · subst hj
      simpa using hL
    · simpa [Function.update_of_ne hj] using hframe j hj (h.thread j)
  pair j k hjk := by
    by_cases hj : j = i
    · subst hj
      simpa [Function.update_of_ne hjk.symm] using hpair k hjk.symm (h.pair j k hjk)
    · by_cases hk : k = i
      · subst hk
        simpa [Function.update_of_ne hj] using hM _ _ (hpair j hj (h.pair k j hjk.symm))
      · simpa [Function.update_of_ne hj, Function.update_of_ne hk] using h.pair j k hjk

/-- A step of the thread at work, written with the other threads left open. -/
theorem step_update {m m' : σ} {p p' : π} {threads : ℕ → π} (hs : prog i a m p = some (m', p')) :
    step prog ⟨m, Function.update threads i p⟩ (i, a) =
      some ⟨m', Function.update threads i p'⟩ := by
  refine step_eq_some.mpr ⟨m', p', ?_, ?_⟩
  · simpa using hs
  · simp

theorem reaches_step {C : World σ π → ℕ × α → Prop} {m m' : σ} {p p' : π} {threads : ℕ → π}
    (hC : C ⟨m, Function.update threads i p⟩ (i, a)) (hs : prog i a m p = some (m', p')) :
    Reaches (step prog) C ⟨m, Function.update threads i p⟩
      ⟨m', Function.update threads i p'⟩ := Reaches.single hC (step_update hs)

/-- A run in which a thread does not move leaves it where it stood. -/
theorem run_untouched {as : List (ℕ × α)} (h : run (step prog) w as = some w')
    (hi : ∀ a ∈ as, a.1 ≠ i) : w'.threads i = w.threads i := by
  induction as generalizing w with
  | nil =>
    cases h
    rfl
  | cons a as ih =>
    obtain ⟨w₁, hw₁, hrest⟩ := Option.bind_eq_some_iff.mp h
    obtain ⟨sh, p, -, rfl⟩ := step_eq_some.mp hw₁
    rw [ih hrest fun b hb => hi b (List.mem_cons_of_mem _ hb)]
    exact Function.update_of_ne (Ne.symm (hi a List.mem_cons_self)) _ _

/-- Operations of one thread, one after the other, as long as its own state meets `ok`. -/
def runThread (prog : ℕ → α → σ → π → Option (σ × π)) (ok : π → Prop) [DecidablePred ok] (i : ℕ) :
    σ → π → List α → Option (σ × π)
  | m, p, [] => some (m, p)
  | m, p, a :: as => if ok p then
      (prog i a m p).bind fun r => runThread prog ok i r.1 r.2 as
    else none

theorem reaches_runThread {C : World σ π → ℕ × α → Prop} {ok : π → Prop} [DecidablePred ok]
    {threads : ℕ → π} {m m' : σ} {p p' : π} {as : List α}
    (hC : ∀ m p a, ok p → C ⟨m, Function.update threads i p⟩ (i, a))
    (h : runThread prog ok i m p as = some (m', p')) :
    Reaches (step prog) C ⟨m, Function.update threads i p⟩
      ⟨m', Function.update threads i p'⟩ := by
  induction as generalizing m p with
  | nil =>
    cases h
    exact Reaches.refl _
  | cons a as ih =>
    unfold runThread at h
    split at h
    · rename_i hok
      obtain ⟨r, hr, hrest⟩ := Option.bind_eq_some_iff.mp h
      exact (reaches_step (hC m p a hok) hr).trans (ih hrest)
    · cases h

end World

end Machine
