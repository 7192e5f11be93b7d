import Mathlib.Data.List.Basic
import Mathlib.Order.Lattice

/-!
# The first of the best

A stable sort puts the elements of a list in descending order of their rank, and keeps the order of
those of one rank. What it finds first is the best of the elements that are asked for, the earliest
one when several are best.

* `find?_descending`, `findSome?_descending`: what a search of the sorted list finds first.
* `FirstBest.of_filterMap`: the same for what is read from the elements of another list.
-/

namespace Store

variable {α β κ : Type*} [LinearOrder κ] {p : α → Bool} {rank : α → κ} {l : List α} {a b : α}

def descending (rank : α → κ) (l : List α) : List α :=
  l.mergeSort fun a b => decide (rank b ≤ rank a)

/-- `a` meets `p`; what meets `p` before it has a lower rank, and what meets `p` after it has no
higher one. -/
def FirstBest (p : α → Bool) (rank : α → κ) (l : List α) (a : α) : Prop :=
  ∃ before after, l = before ++ a :: after ∧ p a = true ∧
    (∀ b ∈ before, p b = true → rank b < rank a) ∧ ∀ b ∈ after, p b = true → rank b ≤ rank a

theorem FirstBest.cons (h : FirstBest p rank l a) (hb : p b = true → rank b < rank a) :
    FirstBest p rank (b :: l) a := by
  obtain ⟨before, after, rfl, hp, hbefore, hafter⟩ := h
  refine ⟨b :: before, after, rfl, hp, ?_, hafter⟩
  intro c hc
  rcases List.mem_cons.mp hc with rfl | hc
  · exact hb
  · exact hbefore c hc

@[simp] theorem mem_descending : a ∈ descending rank l ↔ a ∈ l := List.mem_mergeSort

theorem rank_trans (rank : α → κ) (a b c : α) (hab : decide (rank b ≤ rank a) = true)
    (hbc : decide (rank c ≤ rank b) = true) : decide (rank c ≤ rank a) = true :=
  decide_eq_true ((of_decide_eq_true hbc).trans (of_decide_eq_true hab))

theorem rank_total (rank : α → κ) (a b : α) : (decide (rank b ≤ rank a) || decide (rank a ≤ rank b)) = true := by
  rw [Bool.or_eq_true, decide_eq_true_iff, decide_eq_true_iff]
  exact le_total _ _

theorem pairwise_descending (rank : α → κ) (l : List α) :
    (descending rank l).Pairwise fun a b => rank b ≤ rank a := by
  have h := List.pairwise_mergeSort (rank_trans rank) (rank_total rank) l
  exact h.imp of_decide_eq_true

theorem descending_cons (rank : α → κ) (b : α) (l : List α) :
    ∃ l₁ l₂, descending rank (b :: l) = l₁ ++ b :: l₂ ∧ descending rank l = l₁ ++ l₂ ∧
      ∀ c ∈ l₁, rank b < rank c := by
  obtain ⟨l₁, l₂, hcons, htail, hfirst⟩ :=
    List.mergeSort_cons (rank_trans rank) (rank_total rank) b l
  refine ⟨l₁, l₂, hcons, htail, ?_⟩
  intro c hc
  have hnot : decide (rank c ≤ rank b) = false := by simpa using hfirst c hc
  exact not_le.mp (of_decide_eq_false hnot)

/-- What a search of the sorted list finds. -/
theorem find?_descending (h : (descending rank l).find? p = some a) : FirstBest p rank l a := by
  induction l generalizing a with
  | nil =>
    rw [descending, List.mergeSort_nil] at h
    cases h
  | cons b l ih =>
    obtain ⟨l₁, l₂, hcons, htail, hhigher⟩ := descending_cons rank b l
    rw [hcons, List.find?_append] at h
    rw [htail] at ih
    cases hfound : l₁.find? p with
    | some c =>
      rw [hfound, Option.some_or] at h
      cases h
      have hlater : (l₁ ++ l₂).find? p = some a := by
        rw [List.find?_append, hfound, Option.some_or]
      exact (ih hlater).cons fun _ => hhigher a (List.mem_of_find?_eq_some hfound)
    | none =>
      rw [hfound, Option.none_or] at h
      cases hp : p b with
      | false =>
        rw [List.find?_cons_of_neg (by rw [hp]; exact Bool.false_ne_true)] at h
        have hlater : (l₁ ++ l₂).find? p = some a := by
          rw [List.find?_append, hfound, Option.none_or, h]
        exact (ih hlater).cons fun hb => by rw [hp] at hb; cases hb
      | true =>
        rw [List.find?_cons_of_pos hp] at h
        cases h
        refine ⟨[], l, rfl, hp, List.forall_mem_nil _, ?_⟩
        intro c hc hpc
        have hmem : c ∈ l₁ ++ l₂ := htail ▸ mem_descending.mpr hc
        rcases List.mem_append.mp hmem with hc | hc
        · exact absurd hpc (List.find?_eq_none.mp hfound c hc)
        · have hsorted := pairwise_descending rank (b :: l)
          rw [hcons] at hsorted
          exact List.rel_of_pairwise_cons (List.pairwise_append.mp hsorted).2.1 hc

/-- The same for a search that reads something from what it finds. -/
theorem findSome?_descending {f : α → Option β} {b : β}
    (h : (descending rank l).findSome? f = some b) :
    ∃ a, f a = some b ∧ FirstBest (fun a => (f a).isSome) rank l a := by
  obtain ⟨l₁, a, l₂, hlist, ha, hnone⟩ := List.findSome?_eq_some_iff.mp h
  refine ⟨a, ha, find?_descending (List.find?_eq_some_iff_append.mpr ⟨?_, l₁, l₂, hlist, ?_⟩)⟩
  · rw [ha, Option.isSome_some]
  · intro c hc
    rw [hnone c hc, Option.isSome_none, Bool.not_false]

/-- The best of what is read from a list is read from one of its elements. -/
theorem FirstBest.of_filterMap {f : β → Option α} {entries : List β}
    (h : FirstBest p rank (entries.filterMap f) a) :
    ∃ before entry after, entries = before ++ entry :: after ∧ f entry = some a ∧ p a = true ∧
      (∀ e ∈ before, ∀ b ∈ f e, p b = true → rank b < rank a) ∧
      ∀ e ∈ after, ∀ b ∈ f e, p b = true → rank b ≤ rank a := by
  obtain ⟨before, after, hlist, hp, hbefore, hafter⟩ := h
  obtain ⟨front, back, rfl, rfl, hback⟩ := List.filterMap_eq_append_iff.mp hlist
  obtain ⟨skipped, entry, rest, rfl, hskipped, hentry, rfl⟩ := List.filterMap_eq_cons_iff.mp hback
  refine ⟨front ++ skipped, entry, rest, (List.append_assoc _ _ _).symm, hentry, hp, ?_, ?_⟩
  · intro e he b hb
    rcases List.mem_append.mp he with he | he
    · exact hbefore b (List.mem_filterMap.mpr ⟨e, he, hb⟩)
    · rw [hskipped e he] at hb
      cases hb
  · intro e he b hb
    exact hafter b (List.mem_filterMap.mpr ⟨e, he, hb⟩)

end Store
