import Mathlib.Tactic.Common

/-!
# What an observer can tell

Every action of a machine has an output. Some of the actions concern an observer, and two states may
be alike to it.

* `observed_purge`: when the other actions leave a state alike, and those that concern the
  observer do and answer the same in states that are alike, then it sees the same in a run without
  the other actions.
-/

namespace Machine

variable {σ α β γ : Type*}

/-- The actions of a run, each with its output. -/
def outputs (step : σ → α → σ × β) : σ → List α → List (α × β)
  | _, [] => []
  | s, a :: as => (a, (step s a).2) :: outputs step (step s a).1 as

/-- The actions that concern the observer, with what it sees of their outputs. -/
def observed (concerns : α → Prop) [DecidablePred concerns] (look : β → γ) (l : List (α × β)) :
    List (α × γ) :=
  (l.filter fun e => concerns e.1).map fun e => (e.1, look e.2)

structure Unwinding (step : σ → α → σ × β) (concerns : α → Prop) (look : β → γ)
    (Alike : σ → σ → Prop) : Prop where
  respects : ∀ s t a, Alike s t → ¬ concerns a → Alike (step s a).1 t
  consistent : ∀ s t a, Alike s t → concerns a → Alike (step s a).1 (step t a).1
  output : ∀ s t a, Alike s t → concerns a → look (step s a).2 = look (step t a).2

variable {step : σ → α → σ × β} {concerns : α → Prop} [DecidablePred concerns] {look : β → γ}
  {Alike : σ → σ → Prop} {s t : σ} {as : List α} {a : α} {b : β} {l : List (α × β)}

theorem observed_cons_of_pos (h : concerns a) :
    observed concerns look ((a, b) :: l) = (a, look b) :: observed concerns look l := by
  simp [observed, h]

theorem observed_cons_of_neg (h : ¬ concerns a) :
    observed concerns look ((a, b) :: l) = observed concerns look l := by
  simp [observed, h]

/-- **Purging.** The observer cannot tell a run from the one without the actions that do not concern
it. -/
theorem observed_purge (h : Unwinding step concerns look Alike) (halike : Alike s t) :
    observed concerns look (outputs step s as) =
      observed concerns look (outputs step t (as.filter concerns)) := by
  induction as generalizing s t with
  | nil => rfl
  | cons a as ih =>
    by_cases ha : concerns a
    · rw [List.filter_cons_of_pos (by simpa using ha), outputs, outputs, observed_cons_of_pos ha,
        observed_cons_of_pos ha, h.output s t a halike ha, ih (h.consistent s t a halike ha)]
    · rw [List.filter_cons_of_neg (by simpa using ha), outputs, observed_cons_of_neg ha,
        ih (h.respects s t a halike ha)]

end Machine
