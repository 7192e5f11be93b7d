import Mathlib.Data.List.TakeDrop
import Mathlib.Data.Nat.Notation

/-!
# Loops that call again after a failure

`collect` calls until enough calls have succeeded or too many have failed. A call takes a state to
an outcome and the next state; `none` stands for a call that does not return.

* `collect_eq`: what was collected is the outcomes of the first successes.
* `spent_iff`: the loop stops short, with so many outcomes, if and only if the last failure that it
  allows comes right after so many successes.
-/

namespace Machine

variable {σ ε α : Type*} (call : σ → Option (Except ε α × σ))

/-- Calls until `missing` have succeeded or `left` have failed. -/
def collect : ℕ → ℕ → σ → Option (List α × σ)
  | 0, _, s => some ([], s)
  | _ + 1, 0, s => some ([], s)
  | missing + 1, left + 1, s =>
    match call s with
    | none => none
    | some (.ok x, s) => (collect missing (left + 1) s).map fun (xs, s) => (x :: xs, s)
    | some (.error _, s) => collect (missing + 1) left s
  termination_by missing left => missing + left

/-- How many of the first calls fail. -/
def failures : ℕ → σ → ℕ
  | 0, _ => 0
  | calls + 1, s =>
    match call s with
    | none => 0
    | some (.ok _, s) => failures calls s
    | some (.error _, s) => failures calls s + 1

/-- The outcomes of the first calls that succeed, each with the state that it leaves. -/
def successes : ℕ → σ → List (α × σ)
  | 0, _ => []
  | calls + 1, s =>
    match call s with
    | none => []
    | some (.ok x, s) => (x, s) :: successes calls s
    | some (.error _, s) => successes calls s

/-- The last allowed failure comes right after so many successes. -/
def Spent : ℕ → ℕ → σ → Prop
  | 0, done, _ => done = 0
  | left + 1, done, s =>
    failures call (done + left) s = left ∧ failures call (done + left + 1) s = left + 1

variable {call} {missing left done : ℕ} {s s' : σ} {x : α} {e : ε} {xs : List α}

theorem call_cases (call : σ → Option (Except ε α × σ)) (s : σ) :
    call s = none ∨ (∃ x s', call s = some (.ok x, s')) ∨ ∃ e s', call s = some (.error e, s') := by
  cases h : call s with
  | none => exact Or.inl rfl
  | some p =>
    obtain ⟨outcome, s'⟩ := p
    cases outcome with
    | ok x => exact Or.inr (Or.inl ⟨x, s', rfl⟩)
    | error e => exact Or.inr (Or.inr ⟨e, s', rfl⟩)

theorem collect_ok (h : call s = some (.ok x, s')) :
    collect call (missing + 1) (left + 1) s =
      (collect call missing (left + 1) s').map fun p => (x :: p.1, p.2) := by
  rw [collect, h]

theorem collect_error (h : call s = some (.error e, s')) :
    collect call (missing + 1) (left + 1) s = collect call (missing + 1) left s' := by
  rw [collect, h]

theorem failures_ok (h : call s = some (.ok x, s')) (calls : ℕ) :
    failures call (calls + 1) s = failures call calls s' := by
  rw [failures, h]

theorem failures_error (h : call s = some (.error e, s')) (calls : ℕ) :
    failures call (calls + 1) s = failures call calls s' + 1 := by
  rw [failures, h]

theorem failures_le (calls : ℕ) (s : σ) : failures call calls s ≤ calls := by
  induction calls generalizing s with
  | zero => exact Nat.le_refl 0
  | succ calls ih =>
    rcases call_cases call s with h | ⟨x, s', h⟩ | ⟨e, s', h⟩
    · rw [failures, h]
      exact Nat.zero_le _
    · rw [failures_ok h]
      exact Nat.le_succ_of_le (ih s')
    · rw [failures_error h]
      exact Nat.succ_le_succ (ih s')

theorem spent_succ : Spent call (left + 1) done s ↔
    failures call (done + left) s = left ∧ failures call (done + left + 1) s = left + 1 := Iff.rfl

/-- After a success there is one less to come. -/
theorem spent_ok (h : call s = some (.ok x, s')) :
    Spent call (left + 1) (done + 1) s ↔ Spent call (left + 1) done s' := by
  rw [spent_succ, spent_succ, Nat.add_right_comm done 1 left, failures_ok h, failures_ok h]

theorem not_spent_ok (h : call s = some (.ok x, s')) : ¬ Spent call (left + 1) 0 s := by
  rintro ⟨-, hafter⟩
  rw [Nat.zero_add, failures_ok h] at hafter
  have hle : failures call left s' ≤ left := failures_le left s'
  omega

/-- After a failure there is one less allowed. -/
theorem spent_error (h : call s = some (.error e, s')) :
    Spent call (left + 1) done s ↔ Spent call left done s' := by
  rw [spent_succ]
  cases left with
  | zero =>
    rw [failures_error h]
    cases done with
    | zero =>
      refine iff_of_true ⟨rfl, ?_⟩ rfl
      rfl
    | succ done =>
      rw [Nat.add_zero, failures_error h]
      exact iff_of_false (by omega) (Nat.succ_ne_zero done)
  | succ left =>
    rw [spent_succ, ← Nat.add_assoc, failures_error h, failures_error h]
    omega

theorem collect_length_le (h : collect call missing left s = some (xs, s')) :
    xs.length ≤ missing := by
  induction missing, left, s using collect.induct call generalizing xs s' with
  | case1 left s =>
    rw [collect] at h
    cases h
    exact Nat.le_refl 0
  | case2 missing s =>
    rw [collect] at h
    cases h
    exact Nat.zero_le _
  | case3 missing left s hcall =>
    rw [collect, hcall] at h
    cases h
  | case4 missing left s x t hcall ih =>
    rw [collect_ok hcall] at h
    obtain ⟨⟨ys, t'⟩, hys, heq⟩ := Option.map_eq_some_iff.mp h
    cases heq
    exact Nat.succ_le_succ (ih hys)
  | case5 missing left s e t hcall ih =>
    rw [collect_error hcall] at h
    exact ih h

/-- **A loop that stops short**. -/
theorem spent_iff (h : collect call missing left s = some (xs, s')) (hdone : done < missing) :
    Spent call left done s ↔ xs.length = done := by
  induction missing, left, s using collect.induct call generalizing xs s' done with
  | case1 left s => cases hdone
  | case2 missing s =>
    rw [collect] at h
    cases h
    exact eq_comm
  | case3 missing left s hcall =>
    rw [collect, hcall] at h
    cases h
  | case4 missing left s x t hcall ih =>
    rw [collect_ok hcall] at h
    obtain ⟨⟨ys, t'⟩, hys, heq⟩ := Option.map_eq_some_iff.mp h
    cases heq
    cases done with
    | zero => exact iff_of_false (not_spent_ok hcall) (Nat.succ_ne_zero _)
    | succ done =>
      rw [spent_ok hcall, ih hys (Nat.lt_of_succ_lt_succ hdone)]
      exact Nat.succ_inj.symm
  | case5 missing left s e t hcall ih =>
    rw [collect_error hcall] at h
    rw [spent_error hcall]
    exact ih h hdone

theorem successes_ok (h : call s = some (.ok x, s')) (calls : ℕ) :
    successes call (calls + 1) s = (x, s') :: successes call calls s' := by
  rw [successes, h]

theorem successes_error (h : call s = some (.error e, s')) (calls : ℕ) :
    successes call (calls + 1) s = successes call calls s' := by
  rw [successes, h]

/-- **What a loop collects**. -/
theorem collect_eq (h : collect call missing left s = some (xs, s')) :
    xs = ((successes call (missing + left) s).take xs.length).map Prod.fst := by
  induction missing, left, s using collect.induct call generalizing xs s' with
  | case1 left s =>
    rw [collect] at h
    cases h
    rfl
  | case2 missing s =>
    rw [collect] at h
    cases h
    rfl
  | case3 missing left s hcall =>
    rw [collect, hcall] at h
    cases h
  | case4 missing left s x t hcall ih =>
    rw [collect_ok hcall] at h
    obtain ⟨⟨ys, t'⟩, hys, heq⟩ := Option.map_eq_some_iff.mp h
    cases heq
    rw [show missing.succ + left.succ = missing + (left + 1) + 1 by omega, successes_ok hcall,
      List.length_cons, List.take_succ_cons, List.map_cons]
    exact congrArg (x :: ·) (ih hys)
  | case5 missing left s e t hcall ih =>
    rw [collect_error hcall] at h
    rw [show missing.succ + left.succ = missing + 1 + left + 1 by omega, successes_error hcall]
    exact ih h

end Machine
