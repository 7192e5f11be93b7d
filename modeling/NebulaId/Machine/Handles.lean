import NebulaId.Machine.Run
import Mathlib.Data.List.Basic

/-!
# Handles with a copied part and a shared part

A `Family` is what the handles of one object hold. Part of the object is behind a shared
reference; the rest is copied when a handle is cloned. A result that is recorded through a
handle changes the shared part and that handle's copy. `results` keeps what has been recorded
through any handle, newest first; its fold is the one object that the handles stand for.

* `shared_eq_replay`: the shared part is that object's in every state reached.
* `InStep`: every copy is that object's.
* `inStep_of_reaches`: so it is in every run of `Harmless` steps.
* `view_eq_of_inStep`: what one of several handles records without being out of step
  afterwards has changed no reading.
-/

namespace Machine

structure Family (γ σ ρ : Type*) where
  shared : γ
  copies : List σ
  results : List ρ

inductive HandleAct (ρ : Type*) where
  | record (i : ℕ) (r : ρ)
  | clone (i : ℕ)
  | drop (i : ℕ)

namespace Family

variable {γ σ ρ : Type*}

/-- `g` is what a result does to the shared part, `f` what it does to a copy. -/
def step (g : ρ → γ → γ) (f : ρ → σ → σ) (w : Family γ σ ρ) :
    HandleAct ρ → Option (Family γ σ ρ)
  | .record i r => w.copies[i]?.map fun m =>
      ⟨g r w.shared, w.copies.set i (f r m), r :: w.results⟩
  | .clone i => w.copies[i]?.map fun m => { w with copies := w.copies ++ [m] }
  | .drop i => w.copies[i]?.map fun _ => { w with copies := w.copies.eraseIdx i }

/-- Every handle holds what the results, in order, make of the first copy. -/
def InStep (f : ρ → σ → σ) (first : σ) (w : Family γ σ ρ) : Prop :=
  ∀ m ∈ w.copies, m = w.results.foldr f first

/-- Nothing is recorded through one of several handles, except what changes nothing. -/
def Harmless (f : ρ → σ → σ) (w : Family γ σ ρ) : HandleAct ρ → Prop
  | .record i r => ∀ m, w.copies[i]? = some m → w.copies.length = 1 ∨ f r m = m
  | _ => True

variable {g : ρ → γ → γ} {f : ρ → σ → σ} {first : σ} {origin : γ} {w w' : Family γ σ ρ}
  {act : HandleAct ρ}

theorem step_cases (h : step g f w act = some w') :
    (∃ i r m, act = .record i r ∧ w.copies[i]? = some m ∧
      w' = ⟨g r w.shared, w.copies.set i (f r m), r :: w.results⟩) ∨
    (∃ i m, act = .clone i ∧ w.copies[i]? = some m ∧ w' = { w with copies := w.copies ++ [m] }) ∨
    ∃ i, act = .drop i ∧ w' = { w with copies := w.copies.eraseIdx i } := by
  cases act with
  | record i r =>
    obtain ⟨m, hm, rfl⟩ := Option.map_eq_some_iff.mp h
    exact Or.inl ⟨i, r, m, rfl, hm, rfl⟩
  | clone i =>
    obtain ⟨m, hm, rfl⟩ := Option.map_eq_some_iff.mp h
    exact Or.inr (Or.inl ⟨i, m, rfl, hm, rfl⟩)
  | drop i =>
    obtain ⟨_, _, rfl⟩ := Option.map_eq_some_iff.mp h
    exact Or.inr (Or.inr ⟨i, rfl, rfl⟩)

theorem shared_eq_replay {s : Family γ σ ρ} (hs : s.results = []) (ho : s.shared = origin)
    {C : Family γ σ ρ → HandleAct ρ → Prop} (h : Reaches (step g f) C s w) :
    w.shared = w.results.foldr g origin := by
  refine h.invariant (I := fun w => w.shared = w.results.foldr g origin) ?_ ?_
  · rw [hs]
    exact ho
  · intro w act w' hi _ hstep
    obtain ⟨i, r, m, -, -, rfl⟩ | ⟨i, m, -, -, rfl⟩ | ⟨i, -, rfl⟩ := step_cases hstep
    · exact congrArg (g r) hi
    · exact hi
    · exact hi

theorem InStep.step (h : InStep f first w) (hG : Harmless f w act)
    (hs : Family.step g f w act = some w') : InStep f first w' := by
  obtain ⟨i, r, m, rfl, hm, rfl⟩ | ⟨i, m, -, hm, rfl⟩ | ⟨i, -, rfl⟩ := step_cases hs
  · have hreplay := h m (List.mem_of_getElem? hm)
    intro q hq
    rcases hG m hm with hone | hsame
    · obtain ⟨n, hn⟩ := List.length_eq_one_iff.mp hone
      have hlt : i < w.copies.length := (List.getElem?_eq_some_iff.mp hm).1
      have hi : i = 0 := by omega
      subst hi
      rw [hn, List.set_cons_zero, List.mem_singleton] at hq
      rw [hq, hreplay]
      rfl
    · have hq' : q = m := by
        rcases List.mem_or_eq_of_mem_set hq with hin | heq
        · exact (h q hin).trans hreplay.symm
        · exact heq.trans hsame
      calc q = f r m := hq'.trans hsame.symm
        _ = f r (w.results.foldr f first) := congrArg (f r) hreplay
  · intro q hq
    rcases List.mem_append.mp hq with hin | heq
    · exact h q hin
    · rw [List.mem_singleton.mp heq]
      exact h m (List.mem_of_getElem? hm)
  · exact fun q hq => h q (List.mem_of_mem_eraseIdx hq)

/-- The other handles have not heard of the result: where they still read what the object
would read, the result has changed no reading. -/
theorem view_eq_of_inStep {β : Type*} (view : σ → β) {i : ℕ} {r : ρ} {m : σ}
    (h : InStep f first w) (hm : w.copies[i]? = some m)
    (h' : ∀ q ∈ w.copies.set i (f r m), view q = view ((r :: w.results).foldr f first)) :
    w.copies.length = 1 ∨ view (f r m) = view m := by
  by_cases hone : w.copies.length = 1
  · exact Or.inl hone
  · have hi : i < w.copies.length := (List.getElem?_eq_some_iff.mp hm).1
    obtain ⟨j, hj, hne⟩ : ∃ j, j < w.copies.length ∧ i ≠ j := by
      by_cases h0 : i = 0
      · exact ⟨1, by omega, by omega⟩
      · exact ⟨0, by omega, h0⟩
    have hother : w.copies[j] ∈ w.copies.set i (f r m) := by
      apply List.mem_of_getElem? (i := j)
      rw [List.getElem?_set_ne hne]
      exact List.getElem?_eq_getElem hj
    have hm' : m = w.results.foldr f first := h m (List.mem_of_getElem? hm)
    have hold : w.copies[j] = m := (h _ (List.getElem_mem hj)).trans hm'.symm
    refine Or.inr ?_
    calc view (f r m) = view ((r :: w.results).foldr f first) := by rw [hm', List.foldr_cons]
      _ = view w.copies[j] := (h' _ hother).symm
      _ = view m := by rw [hold]

theorem inStep_of_reaches {s : Family γ σ ρ} (h0 : InStep f first s)
    (h : Reaches (Family.step g f) (Harmless f) s w) : InStep f first w :=
  h.invariant h0 fun _ _ _ hi hG hs => hi.step hG hs

end Family

end Machine
