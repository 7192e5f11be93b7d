import NebulaId.Machine.Crowd

/-!
# Scripts over an interface

A script is sequential code that calls an interface and goes on with the replies: `C` are the
calls and `R c` is the reply to the call `c`. What is behind the interface is a function `serve`
from the call, an input and the memory. A script can be run by itself (`exec`, where the calls get
the inputs of a stream) or among others (`program`: each call is one atomic step of a `Crowd`).

* `exec_bind`, `exec_attempt`: sequential code is run part by part; `attempt` is code that may
  fail, and what follows a failure is not run.
* `step_cases`: a step of a crowd of scripts is a call of one of them.
-/

namespace Machine

universe u v w

inductive Script (C : Type u) (R : C → Type u) (α : Type u) : Type u where
  | done (a : α)
  | call (c : C) (next : R c → Script C R α)

namespace Script

variable {C : Type u} {R : C → Type u} {α β ε : Type u} {σ : Type v} {ι : Type w}

def bind : Script C R α → (α → Script C R β) → Script C R β
  | done a, f => f a
  | call c next, f => call c fun r => (next r).bind f

def ask (c : C) : Script C R (R c) := call c done

/-- Go on with the value, or hand the error on. -/
def attempt (x : Script C R (Except ε α)) (f : α → Script C R (Except ε β)) :
    Script C R (Except ε β) :=
  x.bind fun
    | .ok a => f a
    | .error e => done (.error e)

@[simp] theorem attempt_ok (a : α) (f : α → Script C R (Except ε β)) :
    (done (.ok a) : Script C R (Except ε α)).attempt f = f a := rfl

@[simp] theorem attempt_error (e : ε) (f : α → Script C R (Except ε β)) :
    (done (.error e) : Script C R (Except ε α)).attempt f = done (.error e) := rfl

@[simp] theorem attempt_call (c : C) (next : R c → Script C R (Except ε α))
    (f : α → Script C R (Except ε β)) :
    (call c next).attempt f = call c fun r => (next r).attempt f := rfl

/-- The value, the number of calls made so far, and the memory. -/
structure Ran (α : Type u) (σ : Type v) where
  value : α
  calls : ℕ
  memory : σ

/-- Run a script: its calls get the inputs of the stream `ins` from number `n` on. -/
def exec (serve : (c : C) → ι → σ → R c × σ) (ins : ℕ → ι) : Script C R α → ℕ → σ → Ran α σ
  | done a, n, s => ⟨a, n, s⟩
  | call c next, n, s =>
    (next (serve c (ins n) s).1).exec serve ins (n + 1) (serve c (ins n) s).2

variable {serve : (c : C) → ι → σ → R c × σ} {ins : ℕ → ι} {n : ℕ} {s : σ}

@[simp] theorem exec_done (a : α) : (done a : Script C R α).exec serve ins n s = ⟨a, n, s⟩ := rfl

@[simp] theorem exec_call (c : C) (next : R c → Script C R α) :
    (call c next).exec serve ins n s =
      (next (serve c (ins n) s).1).exec serve ins (n + 1) (serve c (ins n) s).2 := rfl

@[simp] theorem exec_ask (c : C) :
    (ask c : Script C R (R c)).exec serve ins n s =
      ⟨(serve c (ins n) s).1, n + 1, (serve c (ins n) s).2⟩ := rfl

theorem exec_bind (x : Script C R α) (f : α → Script C R β) :
    (x.bind f).exec serve ins n s =
      (f (x.exec serve ins n s).value).exec serve ins (x.exec serve ins n s).calls
        (x.exec serve ins n s).memory := by
  induction x generalizing n s with
  | done a => rfl
  | call c next ih => exact ih _

theorem exec_attempt_ok {x : Script C R (Except ε α)} {f : α → Script C R (Except ε β)} {a : α}
    (h : (x.exec serve ins n s).value = .ok a) :
    (x.attempt f).exec serve ins n s =
      (f a).exec serve ins (x.exec serve ins n s).calls (x.exec serve ins n s).memory := by
  rw [attempt, exec_bind, h]

theorem exec_attempt_error {x : Script C R (Except ε α)} {f : α → Script C R (Except ε β)} {e : ε}
    (h : (x.exec serve ins n s).value = .error e) :
    (x.attempt f).exec serve ins n s =
      ⟨.error e, (x.exec serve ins n s).calls, (x.exec serve ins n s).memory⟩ := by
  rw [attempt, exec_bind, h, exec_done]

theorem exec_attempt_cases (serve : (c : C) → ι → σ → R c × σ) (ins : ℕ → ι) (n : ℕ) (s : σ)
    (x : Script C R (Except ε α)) (f : α → Script C R (Except ε β)) :
    (∃ a, (x.exec serve ins n s).value = .ok a ∧ (x.attempt f).exec serve ins n s =
      (f a).exec serve ins (x.exec serve ins n s).calls (x.exec serve ins n s).memory) ∨
    ∃ e, (x.exec serve ins n s).value = .error e ∧ (x.attempt f).exec serve ins n s =
      ⟨.error e, (x.exec serve ins n s).calls, (x.exec serve ins n s).memory⟩ := by
  cases h : (x.exec serve ins n s).value with
  | ok a => exact Or.inl ⟨a, rfl, exec_attempt_ok h⟩
  | error e => exact Or.inr ⟨e, rfl, exec_attempt_error h⟩

/-- To answer in another way leaves the memory alone. -/
theorem exec_attempt_done (x : Script C R (Except ε α)) (f : α → Except ε β) :
    ((x.attempt fun a => done (f a)).exec serve ins n s).memory =
      (x.exec serve ins n s).memory := by
  rcases exec_attempt_cases serve ins n s x fun a => done (f a) with
    ⟨a, -, hexec⟩ | ⟨e, -, hexec⟩
  · rw [hexec, exec_done]
  · rw [hexec]

/-! ## Scripts among others -/

variable {ρ π : Type*}

/-- A request starts a script, and each of its calls is one step. -/
def program (serve : (c : C) → ι → σ → R c × σ) (start : ρ → Script C R α) :
    Program σ (Script C R α) ρ ι Unit where
  start := start
  step
    | i, s, call c next => some ((serve c i s).2, next (serve c i s).1)
    | _, _, done _ => none
  pass _ s := s

/-- A script comes, one of them makes its call, or nothing happens. -/
theorem step_cases {start : ρ → Script C R α} {w w' : Crowd σ (Script C R α)}
    {act : CrowdAct ρ ι Unit} (h : Crowd.step (program serve start) w act = some w') :
    (∃ r, act = .spawn r ∧ w' = ⟨w.shared, w.tasks ++ [start r]⟩) ∨
    (∃ k i c next, act = .move k i ∧ w.tasks[k]? = some (call c next) ∧
      w' = ⟨(serve c i w.shared).2, w.tasks.set k (next (serve c i w.shared).1)⟩) ∨
    act = .pass () ∧ w' = w := by
  rcases Crowd.step_cases h with ⟨r, hact, hw⟩ | ⟨k, i, p, sh, q, hact, hp, hs, hw⟩ | ⟨e, hact, hw⟩
  · exact Or.inl ⟨r, hact, hw⟩
  · cases p with
    | done a => cases hs
    | call c next =>
      cases hs
      exact Or.inr (Or.inl ⟨k, i, c, next, hact, hp, hw⟩)
  · exact Or.inr (Or.inr ⟨hact, hw⟩)

end Script

end Machine
