import Mathlib.Logic.Function.Basic
import Mathlib.Data.List.Basic

/-!
# Tokens in slots

Tokens are numbered as they are made, and a slot holds one of them at most. A token is made in an
empty slot, or moved from one slot to another, where it overwrites what lies there. A move may
note the token that it overwrites.

* `Apart.make`, `Apart.move`: no token lies in two slots.
* `kept_move_iff`: a move loses no token if and only if it notes the one that it overwrites.
-/

structure Slots (S : Type*) where
  content : S → Option ℕ
  made : ℕ
  noted : List ℕ

namespace Slots

variable {S : Type*} [DecidableEq S] {x : Slots S} {s t u : S} {j k : ℕ} {note : List ℕ}

def make (x : Slots S) (s : S) : Slots S :=
  ⟨Function.update x.content s (some x.made), x.made + 1, x.noted⟩

/-- Token `j` goes from `s` to `t`. -/
def move (x : Slots S) (s t : S) (j : ℕ) (note : List ℕ) : Slots S :=
  ⟨Function.update (Function.update x.content s none) t (some j), x.made, note ++ x.noted⟩

structure Apart (x : Slots S) : Prop where
  single : ∀ s t j, x.content s = some j → x.content t = some j → s = t
  bound : ∀ s j, x.content s = some j → j < x.made
  noted : ∀ j ∈ x.noted, j < x.made ∧ ∀ s, x.content s ≠ some j

/-- Every token lies in a slot, or is noted. -/
def Kept (x : Slots S) : Prop := ∀ j < x.made, (∃ s, x.content s = some j) ∨ j ∈ x.noted

theorem content_make (h : (x.make s).content u = some k) :
    u = s ∧ k = x.made ∨ x.content u = some k := by
  unfold make at h
  dsimp only at h
  by_cases hu : u = s
  · subst hu
    rw [Function.update_self] at h
    exact Or.inl ⟨rfl, (Option.some.inj h).symm⟩
  · rw [Function.update_of_ne hu] at h
    exact Or.inr h

theorem content_move (h : (x.move s t j note).content u = some k) :
    u = t ∧ k = j ∨ u ≠ s ∧ u ≠ t ∧ x.content u = some k := by
  unfold move at h
  dsimp only at h
  by_cases hu : u = t
  · subst hu
    rw [Function.update_self] at h
    exact Or.inl ⟨rfl, (Option.some.inj h).symm⟩
  · rw [Function.update_of_ne hu] at h
    by_cases hs : u = s
    · subst hs
      rw [Function.update_self] at h
      cases h
    · rw [Function.update_of_ne hs] at h
      exact Or.inr ⟨hs, hu, h⟩

theorem content_move_of_ne (hs : u ≠ s) (ht : u ≠ t) :
    (x.move s t j note).content u = x.content u := by
  unfold move
  dsimp only
  rw [Function.update_of_ne ht, Function.update_of_ne hs]

theorem Apart.make (h : x.Apart) : (x.make s).Apart where
  single u v k hu hv := by
    rcases content_make hu with ⟨hus, hk⟩ | hu' <;> rcases content_make hv with ⟨hvs, hk'⟩ | hv'
    · exact hus.trans hvs.symm
    · have := h.bound v k hv'
      omega
    · have := h.bound u k hu'
      omega
    · exact h.single u v k hu' hv'
  bound u k hu := by
    rcases content_make hu with ⟨-, rfl⟩ | hu
    · exact Nat.lt_succ_self _
    · exact Nat.lt_succ_of_lt (h.bound u k hu)
  noted k hk := by
    obtain ⟨hlt, hnone⟩ := h.noted k hk
    refine ⟨Nat.lt_succ_of_lt hlt, fun u hu => ?_⟩
    rcases content_make hu with ⟨-, rfl⟩ | hu
    · exact Nat.lt_irrefl _ hlt
    · exact hnone u hu

/-- What a move notes is what it overwrites. -/
theorem Apart.move (h : x.Apart) (hj : x.content s = some j) (hne : s ≠ t)
    (hnote : ∀ k ∈ note, x.content t = some k) : (x.move s t j note).Apart where
  single u v k hu hv := by
    rcases content_move hu with ⟨hut, hk⟩ | ⟨hus, -, hu'⟩ <;>
      rcases content_move hv with ⟨hvt, hk'⟩ | ⟨hvs, -, hv'⟩
    · exact hut.trans hvt.symm
    · exact absurd (h.single v s j (hk ▸ hv') hj) hvs
    · exact absurd (h.single u s j (hk' ▸ hu') hj) hus
    · exact h.single u v k hu' hv'
  bound u k hu := by
    rcases content_move hu with ⟨-, rfl⟩ | ⟨-, -, hu⟩
    · exact h.bound s k hj
    · exact h.bound u k hu
  noted k hk := by
    rcases List.mem_append.mp hk with hnew | hold
    · have hk' := hnote k hnew
      refine ⟨h.bound t k hk', fun u hu => ?_⟩
      rcases content_move hu with ⟨-, heq⟩ | ⟨-, hut, hu'⟩
      · exact hne (h.single s t j hj (heq ▸ hk'))
      · exact hut (h.single u t k hu' hk')
    · obtain ⟨hlt, hnone⟩ := h.noted k hold
      refine ⟨hlt, fun u hu => ?_⟩
      rcases content_move hu with ⟨-, heq⟩ | ⟨-, -, hu'⟩
      · exact hnone s (heq ▸ hj)
      · exact hnone u hu'

theorem Kept.make (h : x.Kept) (hs : x.content s = none) : (x.make s).Kept := by
  intro j hj
  rcases Nat.lt_succ_iff_lt_or_eq.mp hj with hlt | rfl
  · refine (h j hlt).imp_left fun ⟨u, hu⟩ => ⟨u, ?_⟩
    have hne : u ≠ s := by
      rintro rfl
      cases hs.symm.trans hu
    exact (Function.update_of_ne hne _ _).trans hu
  · exact Or.inl ⟨s, Function.update_self _ _ _⟩

/-- **A move** loses no token if and only if it notes the one that it overwrites. -/
theorem kept_move_iff (h : x.Apart) (hkept : x.Kept) (hj : x.content s = some j) (hne : s ≠ t) :
    (x.move s t j note).Kept ↔ ∀ k, x.content t = some k → k ∈ note := by
  constructor
  · intro hafter k hk
    rcases hafter k (h.bound t k hk) with ⟨u, hu⟩ | hnoted
    · rcases content_move hu with ⟨-, rfl⟩ | ⟨-, hut, hu⟩
      · exact absurd (h.single s t k hj hk) hne
      · exact absurd (h.single u t k hu hk) hut
    · rcases List.mem_append.mp hnoted with hin | hold
      · exact hin
      · exact absurd hk ((h.noted k hold).2 t)
  · intro hnote k hk
    rcases hkept k hk with ⟨u, hu⟩ | hnoted
    · by_cases hut : u = t
      · rw [hut] at hu
        exact Or.inr (List.mem_append_left _ (hnote k hu))
      · refine Or.inl ?_
        by_cases hus : u = s
        · rw [hus, hj] at hu
          cases hu
          exact ⟨t, Function.update_self _ _ _⟩
        · exact ⟨u, (content_move_of_ne hus hut).trans hu⟩
    · exact Or.inr (List.mem_append_right _ hnoted)

end Slots
