import NebulaId.Machine.Run

/-!
# Every step of a run

`EachStep step P s as` says that `P` relates the state before, the action and the state after,
for every step of the run of the actions `as` from `s`.

* `eachStep_iff`: two relations that agree on every step agree on every run.
* `eachStep_iff_of_invariant`: an invariant that a step keeps exactly when the step meets the
  condition `C` holds along a run exactly when every step of the run meets `C`.
-/

namespace Machine

variable {σ α : Type*} {step : σ → α → Option σ} {P Q : σ → α → σ → Prop} {C : σ → α → Prop}
  {I : σ → Prop} {s s' : σ} {as : List α}

def EachStep (step : σ → α → Option σ) (P : σ → α → σ → Prop) : σ → List α → Prop
  | _, [] => True
  | s, a :: as => ∀ s', step s a = some s' → P s a s' ∧ EachStep step P s' as

theorem eachStep_cons_some {a : α} (h : step s a = some s') :
    EachStep step P s (a :: as) ↔ P s a s' ∧ EachStep step P s' as := by
  constructor
  · exact fun heach => heach s' h
  · intro hboth t ht
    cases h.symm.trans ht
    exact hboth

theorem eachStep_cons_none {a : α} (h : step s a = none) : EachStep step P s (a :: as) := by
  intro t ht
  cases h.symm.trans ht

instance decidableEachStep [∀ s a s', Decidable (P s a s')] :
    ∀ (s : σ) (as : List α), Decidable (EachStep step P s as)
  | _, [] => isTrue trivial
  | s, a :: as => match h : step s a with
    | none => isTrue (eachStep_cons_none h)
    | some s' =>
      have := decidableEachStep s' as
      decidable_of_iff (P s a s' ∧ EachStep step P s' as) (eachStep_cons_some h).symm

/-- What holds of every step holds of every step of a run. -/
theorem EachStep.of_step (hP : ∀ s a s', step s a = some s' → P s a s') : EachStep step P s as := by
  induction as generalizing s with
  | nil => trivial
  | cons a as ih => exact fun s' hs => ⟨hP s a s' hs, ih⟩

theorem EachStep.mono (hPQ : ∀ s a s', step s a = some s' → P s a s' → Q s a s')
    (h : EachStep step P s as) : EachStep step Q s as := by
  induction as generalizing s with
  | nil => trivial
  | cons a as ih =>
    intro s' hs
    obtain ⟨hP, hrest⟩ := h s' hs
    exact ⟨hPQ s a s' hs hP, ih hrest⟩

theorem EachStep.and (hP : EachStep step P s as) (hQ : EachStep step Q s as) :
    EachStep step (fun s a s' => P s a s' ∧ Q s a s') s as := by
  induction as generalizing s with
  | nil => trivial
  | cons a as ih =>
    intro s' hs
    obtain ⟨hP', hPrest⟩ := hP s' hs
    obtain ⟨hQ', hQrest⟩ := hQ s' hs
    exact ⟨⟨hP', hQ'⟩, ih hPrest hQrest⟩

theorem eachStep_iff (hPQ : ∀ s a s', step s a = some s' → (P s a s' ↔ Q s a s')) :
    EachStep step P s as ↔ EachStep step Q s as :=
  ⟨EachStep.mono fun s a s' hs => (hPQ s a s' hs).mp,
    EachStep.mono fun s a s' hs => (hPQ s a s' hs).mpr⟩

/-- Two relations that agree on every step from a state with an invariant. -/
theorem eachStep_iff_of_agree {J : σ → Prop} (hJ0 : J s)
    (hJ : ∀ s a s', J s → step s a = some s' → J s')
    (hPQ : ∀ s a s', J s → step s a = some s' → (P s a s' ↔ Q s a s')) :
    EachStep step P s as ↔ EachStep step Q s as := by
  induction as generalizing s with
  | nil => exact Iff.rfl
  | cons a as ih =>
    constructor
    · intro h s' hs
      obtain ⟨hP, hrest⟩ := h s' hs
      exact ⟨(hPQ s a s' hJ0 hs).mp hP, (ih (hJ s a s' hJ0 hs)).mp hrest⟩
    · intro h s' hs
      obtain ⟨hQ, hrest⟩ := h s' hs
      exact ⟨(hPQ s a s' hJ0 hs).mpr hQ, (ih (hJ s a s' hJ0 hs)).mpr hrest⟩

/-- **An invariant along a run**: it holds after every step if and only if every step meets its
condition. -/
theorem eachStep_iff_of_invariant (h0 : I s)
    (hI : ∀ s a s', I s → step s a = some s' → (I s' ↔ C s a)) :
    EachStep step (fun _ _ s' => I s') s as ↔ EachStep step (fun s a _ => C s a) s as := by
  induction as generalizing s with
  | nil => exact Iff.rfl
  | cons a as ih =>
    constructor
    · intro h s' hs
      obtain ⟨hs', hrest⟩ := h s' hs
      exact ⟨(hI s a s' h0 hs).mp hs', (ih hs').mp hrest⟩
    · intro h s' hs
      obtain ⟨hC, hrest⟩ := h s' hs
      have hs' := (hI s a s' h0 hs).mpr hC
      exact ⟨hs', (ih hs').mpr hrest⟩

/-- The same, where a second invariant, that no step breaks, helps. -/
theorem eachStep_iff_of_invariants {J : σ → Prop} (hI0 : I s) (hJ0 : J s)
    (hJ : ∀ s a s', J s → step s a = some s' → J s')
    (hI : ∀ s a s', J s → I s → step s a = some s' → (I s' ↔ C s a)) :
    EachStep step (fun _ _ s' => I s') s as ↔ EachStep step (fun s a _ => C s a) s as := by
  induction as generalizing s with
  | nil => exact Iff.rfl
  | cons a as ih =>
    constructor
    · intro h s' hs
      obtain ⟨hs', hrest⟩ := h s' hs
      exact ⟨(hI s a s' hJ0 hI0 hs).mp hs', (ih hs' (hJ s a s' hJ0 hs)).mp hrest⟩
    · intro h s' hs
      obtain ⟨hC, hrest⟩ := h s' hs
      have hs' := (hI s a s' hJ0 hI0 hs).mpr hC
      exact ⟨hs', (ih hs' (hJ s a s' hJ0 hs)).mpr hrest⟩

end Machine
