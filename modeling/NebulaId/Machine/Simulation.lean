import Mathlib.Algebra.Group.Defs
import NebulaId.Machine.Along

/-!
# A run that an abstract state follows

`Simulated step Q s t as` says that for the run of the actions `as` from `s` there is an abstract run
from `t`, of which every step is related by `Q` to one of the run.

* `simulated_iff`: when `Q` keeps the states related, and related states have such a step exactly
  when the condition `C` is met, the run is followed if and only if every step of it meets `C`.
* `run_measure`: a quantity that every step changes by a given amount.
-/

namespace Machine

variable {σ τ α M : Type*} {step : σ → α → Option σ} {Q : σ → α → σ → τ → τ → Prop}
  {R : σ → τ → Prop} {C : σ → α → Prop} {s s' : σ} {t : τ} {as : List α}

def Simulated (step : σ → α → Option σ) (Q : σ → α → σ → τ → τ → Prop) : σ → τ → List α → Prop
  | _, _, [] => True
  | s, t, a :: as => ∀ s', step s a = some s' → ∃ t', Q s a s' t t' ∧ Simulated step Q s' t' as

/-- **Simulation rule.** -/
theorem simulated_iff
    (hQ : ∀ s a s' t t', step s a = some s' → Q s a s' t t' → R s' t')
    (hC : ∀ s a s' t, R s t → step s a = some s' → ((∃ t', Q s a s' t t') ↔ C s a)) (h : R s t) :
    Simulated step Q s t as ↔ EachStep step (fun s a _ => C s a) s as := by
  induction as generalizing s t with
  | nil => exact Iff.rfl
  | cons a as ih =>
    constructor
    · intro hsim s' hs
      obtain ⟨t', hstep, hrest⟩ := hsim s' hs
      exact ⟨(hC s a s' t h hs).mp ⟨t', hstep⟩, (ih (hQ s a s' t t' hs hstep)).mp hrest⟩
    · intro heach s' hs
      obtain ⟨hmet, hrest⟩ := heach s' hs
      obtain ⟨t', hstep⟩ := (hC s a s' t h hs).mpr hmet
      exact ⟨t', hstep, (ih (hQ s a s' t t' hs hstep)).mpr hrest⟩

/-- The sum of an amount over the steps of a run. -/
def sumAlong [AddMonoid M] (step : σ → α → Option σ) (gain : σ → α → M) : σ → List α → M
  | _, [] => 0
  | s, a :: as => match step s a with
    | none => 0
    | some s' => gain s a + sumAlong step gain s' as

theorem run_measure [AddMonoid M] {μ : σ → M} {gain : σ → α → M}
    (heach : EachStep step (fun s a s' => μ s' = μ s + gain s a) s as)
    (hrun : run step s as = some s') : μ s' = μ s + sumAlong step gain s as := by
  induction as generalizing s with
  | nil =>
    cases hrun
    exact (add_zero _).symm
  | cons a as ih =>
    obtain ⟨middle, hs, hrest⟩ := Option.bind_eq_some_iff.mp hrun
    obtain ⟨hgain, heach⟩ := heach middle hs
    rw [ih heach hrest, hgain, sumAlong, hs, add_assoc]

end Machine
