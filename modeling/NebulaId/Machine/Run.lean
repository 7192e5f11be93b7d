import Mathlib.Logic.Relation
import Mathlib.Tactic.Common

/-!
# Runs of a partial step function

A system is a step function `σ → α → Option σ`: `step s a = none` when the action `a`
is not enabled in `s`. A guard `C : σ → α → Prop` speaks about the state before a step
and the action taken.

* `run` executes a list of actions.
* `Reaches step C s s'`: some run from `s` to `s'` takes only steps that meet `C`.
  With `Free`, the guard that is always met, these are all the reachable states.
* `runWhile` executes a list of actions as long as the guard is met.
* `Reaches.invariant`: what every guarded step preserves holds in every state reached.
-/

namespace Machine

variable {σ α : Type*}

/-- Execute a list of actions; `none` when one of them is not enabled. -/
def run (step : σ → α → Option σ) : σ → List α → Option σ
  | s, [] => some s
  | s, a :: as => (step s a).bind fun s' => run step s' as

/-- The guard that every step meets. -/
def Free (_ : σ) (_ : α) : Prop := True

/-- One step whose state and action meet the guard. -/
def Next (step : σ → α → Option σ) (C : σ → α → Prop) (s s' : σ) : Prop :=
  ∃ a, C s a ∧ step s a = some s'

/-- The states a run can reach when every step of it meets the guard. -/
def Reaches (step : σ → α → Option σ) (C : σ → α → Prop) : σ → σ → Prop :=
  Relation.ReflTransGen (Next step C)

variable {step : σ → α → Option σ} {C D : σ → α → Prop} {s s' s'' : σ}

@[simp] theorem run_nil : run step s [] = some s := rfl

@[simp] theorem run_cons (a : α) (as : List α) :
    run step s (a :: as) = (step s a).bind fun s' => run step s' as := rfl

theorem run_append (as bs : List α) :
    run step s (as ++ bs) = (run step s as).bind fun s' => run step s' bs := by
  induction as generalizing s with
  | nil => rfl
  | cons a as ih =>
    rw [List.cons_append, run_cons, run_cons, Option.bind_assoc]
    simp only [ih]

/-- A run that ends with `a` is a run and a step. -/
theorem run_concat {as : List α} {a : α} :
    run step s (as ++ [a]) = some s'' ↔ ∃ s', run step s as = some s' ∧ step s' a = some s'' := by
  rw [run_append, Option.bind_eq_some_iff]
  simp only [run_cons, run_nil, Option.bind_fun_some]

namespace Reaches

theorem refl (s : σ) : Reaches step C s s := Relation.ReflTransGen.refl

theorem trans (h : Reaches step C s s') (h' : Reaches step C s' s'') :
    Reaches step C s s'' := Relation.ReflTransGen.trans h h'

/-- Put one guarded step in front of a run. -/
theorem cons {a : α} (hC : C s a) (hs : step s a = some s') (h : Reaches step C s' s'') :
    Reaches step C s s'' := Relation.ReflTransGen.head ⟨a, hC, hs⟩ h

theorem single {a : α} (hC : C s a) (hs : step s a = some s') : Reaches step C s s' :=
  cons hC hs (refl s')

theorem mono (hCD : ∀ s a, C s a → D s a) (h : Reaches step C s s') : Reaches step D s s' :=
  Relation.ReflTransGen.mono (fun _ _ ⟨a, hC, hs⟩ => ⟨a, hCD _ a hC, hs⟩) _ _ h

theorem free (h : Reaches step C s s') : Reaches step Free s s' :=
  h.mono fun _ _ _ => trivial

/-- **Invariant rule.** What holds at the start and is preserved by every guarded step
holds in every state reached. -/
theorem invariant {I : σ → Prop} (h : Reaches step C s s') (h0 : I s)
    (hI : ∀ s a s', I s → C s a → step s a = some s' → I s') : I s' := by
  induction h with
  | refl => exact h0
  | tail _ hn ih =>
    obtain ⟨a, hC, hs⟩ := hn
    exact hI _ a _ ih hC hs

end Reaches

theorem reaches_of_run {as : List α} (h : run step s as = some s') :
    Reaches step Free s s' := by
  induction as generalizing s with
  | nil => cases h; exact Reaches.refl _
  | cons a as ih =>
    obtain ⟨t, ht, hrest⟩ := Option.bind_eq_some_iff.mp h
    exact Reaches.cons trivial ht (ih hrest)

/-- Execute a list of actions; `none` when one of them is not enabled or not guarded. -/
def runWhile (step : σ → α → Option σ) (C : σ → α → Prop) [∀ s a, Decidable (C s a)] :
    σ → List α → Option σ
  | s, [] => some s
  | s, a :: as => if C s a then (step s a).bind fun s' => runWhile step C s' as else none

theorem reaches_of_runWhile [∀ s a, Decidable (C s a)] {as : List α}
    (h : runWhile step C s as = some s') : Reaches step C s s' := by
  induction as generalizing s with
  | nil => cases h; exact Reaches.refl _
  | cons a as ih =>
    unfold runWhile at h
    split at h
    · obtain ⟨t, ht, hrest⟩ := Option.bind_eq_some_iff.mp h
      exact Reaches.cons ‹C s a› ht (ih hrest)
    · cases h

end Machine
