import Mathlib.Tactic.Common

/-!
# A task that runs to its end

A task moves by a step function over a memory, and between any two of its steps the rest of the
system may change the memory as `E` allows. `Ends step E done Q` says that, whatever the rest does,
the task can always move and after finitely many steps of its own is done, in a memory that meets
`Q`. `Passes step E done H` says the same of a place `H` on the way, at least one step away.

* `Passes.ends`: a task that comes to where it ends.
* `Ends.exclusive`: two ends of one task have a memory in common.
* `not_ends_of_loop`: a task that comes to `H`, and from `H` to `H` again, never ends.
-/

namespace Machine

variable {σ τ : Type*}

inductive Ends (step : σ → τ → Option (σ × τ)) (E : σ → σ → Prop) (done : τ → Prop) (Q : σ → Prop) :
    σ → τ → Prop
  | intro {s : σ} {t : τ} (moves : ∀ s', E s s' → (step s' t).isSome)
      (last : ∀ s' s'' t', E s s' → step s' t = some (s'', t') → done t' → Q s'')
      (next : ∀ s' s'' t', E s s' → step s' t = some (s'', t') → ¬ done t' →
        Ends step E done Q s'' t') : Ends step E done Q s t

inductive Passes (step : σ → τ → Option (σ × τ)) (E : σ → σ → Prop) (done : τ → Prop)
    (H : σ → τ → Prop) : σ → τ → Prop
  | intro {s : σ} {t : τ} (moves : ∀ s', E s s' → (step s' t).isSome)
      (alive : ∀ s' s'' t', E s s' → step s' t = some (s'', t') → ¬ done t')
      (next : ∀ s' s'' t', E s s' → step s' t = some (s'', t') → ¬ H s'' t' →
        Passes step E done H s'' t') : Passes step E done H s t

variable {step : σ → τ → Option (σ × τ)} {E : σ → σ → Prop} {done : τ → Prop} {P Q : σ → Prop}
  {H K : σ → τ → Prop} {s s' : σ} {t : τ}

namespace Passes

/-- The next step comes to the place, or to where the task passes on. -/
theorem next_step (h : ∀ s', E s s' → ∃ s'' t', step s' t = some (s'', t') ∧ ¬ done t' ∧
    (H s'' t' ∨ Passes step E done H s'' t')) : Passes step E done H s t := by
  refine .intro (fun s' hs => ?_) (fun s' s'' t' hs hstep => ?_)
    fun s' s'' t' hs hstep hnot => ?_ <;> obtain ⟨u, v, hu, hv, hon⟩ := h s' hs
  · rw [hu]
    rfl
  · cases hstep.symm.trans hu
    exact hv
  · cases hstep.symm.trans hu
    exact hon.resolve_left hnot

theorem mono (hHK : ∀ s t, H s t → K s t) (h : Passes step E done H s t) :
    Passes step E done K s t := by
  induction h with
  | intro moves alive _ ih =>
    exact .intro moves alive fun s' s'' t' hs hstep hnot =>
      ih s' s'' t' hs hstep fun hH => hnot (hHK s'' t' hH)

theorem trans (h : Passes step E done H s t) (hK : ∀ s t, H s t → Passes step E done K s t) :
    Passes step E done K s t := by
  induction h with
  | @intro s t moves alive next ih =>
    refine .intro moves alive fun s' s'' t' hs hstep _ => ?_
    by_cases hH : H s'' t'
    · exact hK s'' t' hH
    · exact ih s' s'' t' hs hstep hH

theorem ends (h : Passes step E done H s t) (hQ : ∀ s t, H s t → Ends step E done Q s t) :
    Ends step E done Q s t := by
  induction h with
  | @intro s t moves alive next ih =>
    refine .intro moves (fun s' s'' t' hs hstep hdone => ?_) fun s' s'' t' hs hstep _ => ?_
    · exact absurd hdone (alive s' s'' t' hs hstep)
    · by_cases hH : H s'' t'
      · exact hQ s'' t' hH
      · exact ih s' s'' t' hs hstep hH

end Passes

namespace Ends

/-- The task is done after its next step. -/
theorem last_step (h : ∀ s', E s s' → ∃ s'' t', step s' t = some (s'', t') ∧ done t' ∧ Q s'') :
    Ends step E done Q s t := by
  refine .intro (fun s' hs => ?_) (fun s' s'' t' hs hstep _ => ?_)
    fun s' s'' t' hs hstep hnot => ?_ <;> obtain ⟨u, v, hu, hv, hQ⟩ := h s' hs
  · rw [hu]
    rfl
  · cases hstep.symm.trans hu
    exact hQ
  · cases hstep.symm.trans hu
    exact absurd hv hnot

/-- What the rest may do leaves the task one that ends. -/
theorem interfere (htrans : ∀ s s' s'', E s s' → E s' s'' → E s s'') (hE : E s s')
    (h : Ends step E done Q s t) : Ends step E done Q s' t := by
  cases h with
  | intro moves last next =>
    refine .intro (fun u hu => moves u (htrans _ _ _ hE hu)) ?_ ?_
    · exact fun u v t' hu => last u v t' (htrans _ _ _ hE hu)
    · exact fun u v t' hu => next u v t' (htrans _ _ _ hE hu)

/-- A task that nobody disturbs has one end. -/
theorem exclusive (hrefl : ∀ s, E s s) (hP : Ends step E done P s t)
    (hQ : Ends step E done Q s t) : ∃ s, P s ∧ Q s := by
  induction hP with
  | @intro s t moves last next ih =>
    cases hQ with
    | intro _ last' next' =>
      obtain ⟨⟨s', t'⟩, hstep⟩ := Option.isSome_iff_exists.mp (moves s (hrefl s))
      by_cases hdone : done t'
      · exact ⟨s', last s s' t' (hrefl s) hstep hdone, last' s s' t' (hrefl s) hstep hdone⟩
      · exact ih s s' t' (hrefl s) hstep hdone (next' s s' t' (hrefl s) hstep hdone)

end Ends

/-- **A loop** that the task never leaves. -/
theorem not_ends_of_loop (hrefl : ∀ s, E s s)
    (hloop : ∀ s t, H s t → Passes step E done H s t) (h : Passes step E done H s t) :
    ¬ Ends step E done Q s t := by
  intro hends
  induction hends with
  | @intro s t _ _ _ ih =>
    cases h with
    | intro moves alive next =>
      obtain ⟨⟨s', t'⟩, hstep⟩ := Option.isSome_iff_exists.mp (moves s (hrefl s))
      refine ih s s' t' (hrefl s) hstep (alive s s' t' (hrefl s) hstep) ?_
      by_cases hH : H s' t'
      · exact hloop s' t' hH
      · exact next s s' t' (hrefl s) hstep hH

end Machine
