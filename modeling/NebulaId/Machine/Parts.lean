import NebulaId.Machine.Run

/-!
# A part of a system

A system is made of parts, and a step of the system moves some of them.

* `Reaches.part`: when every guarded step of the system leaves a part as it is or is a guarded
  step of that part, the run of the system is a run of the part.
* `Reaches.guarded`: a guard that an invariant gives may be added to a run.
-/

namespace Machine

variable {σ τ α β : Type*} {step : σ → α → Option σ} {C D : σ → α → Prop}
  {partStep : τ → β → Option τ} {E : τ → β → Prop} {s s' : σ}

namespace Reaches

/-- **Projection.** What a run of the system does to a part is a run of the part. -/
theorem part (view : σ → τ) (h : Reaches step C s s')
    (hpart : ∀ s a s', C s a → step s a = some s' →
      view s' = view s ∨ ∃ b, E (view s) b ∧ partStep (view s) b = some (view s')) :
    Reaches partStep E (view s) (view s') := by
  induction h with
  | refl => exact refl _
  | tail _ hn ih =>
    obtain ⟨a, hC, hs⟩ := hn
    rcases hpart _ a _ hC hs with heq | ⟨b, hE, hb⟩
    · rw [heq]
      exact ih
    · exact ih.trans (single hE hb)

/-- What holds along a run may be added to the guard of its steps. -/
theorem guarded {I : σ → Prop} (h : Reaches step C s s') (h0 : I s)
    (hI : ∀ s a s', I s → C s a → step s a = some s' → I s') (hD : ∀ s a, I s → C s a → D s a) :
    Reaches step D s s' := by
  suffices hboth : Reaches step D s s' ∧ I s' from hboth.1
  induction h with
  | refl => exact ⟨refl _, h0⟩
  | tail _ hn ih =>
    obtain ⟨a, hC, hs⟩ := hn
    exact ⟨ih.1.trans (single (hD _ a ih.2 hC) hs), hI _ a _ ih.2 hC hs⟩

end Reaches

end Machine
