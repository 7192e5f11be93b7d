import Mathlib.Data.List.Sort
import Mathlib.Order.Lattice

/-!
# Ranks and percentiles

The element of rank `k` of a list is the `k`-th one in increasing order, counted from 1. The
percentile of a fraction `num / den` by the nearest rank is the element whose rank is that
fraction of the length, rounded up.

* `ranked_eq_some_iff`: a rank is told by two counts.
* `percentile_eq_top_iff`: when a percentile is a bound of the list.
-/

namespace NearestRank

variable {α : Type*} [LinearOrder α] {l : List α} {a : α} {k : ℕ}

def ranked (l : List α) (k : ℕ) : Option α := (l.mergeSort (· ≤ ·))[k - 1]?

/-- The rank of the fraction `num / den` in a list of so many elements. -/
def nearestRank (num den length : ℕ) : ℕ := (num * length + (den - 1)) / den

def percentile (num den : ℕ) (l : List α) : Option α := ranked l (nearestRank num den l.length)

theorem pairwise_mergeSort (l : List α) : (l.mergeSort (· ≤ ·)).Pairwise (· ≤ ·) := by
  have h := @List.pairwise_mergeSort α (fun a b => decide (a ≤ b))
    (fun a b c hab hbc => by
      rw [decide_eq_true_eq] at hab hbc ⊢
      exact hab.trans hbc)
    (fun a b => by
      rw [Bool.or_eq_true, decide_eq_true_eq, decide_eq_true_eq]
      exact le_total a b) l
  exact h.imp fun hle => of_decide_eq_true hle

/-- In an increasing list the elements below `a` come first, then those equal to `a`. -/
theorem getElem?_eq_some_iff_of_pairwise (hs : l.Pairwise (· ≤ ·)) (i : ℕ) :
    l[i]? = some a ↔ l.countP (· < a) ≤ i ∧ i < l.countP (· ≤ a) := by
  induction l generalizing i with
  | nil => simp
  | cons x l ih =>
    obtain ⟨hx, hl⟩ := List.pairwise_cons.mp hs
    rcases lt_trichotomy x a with hlt | rfl | hgt
    · have hle := hlt.le
      cases i with
      | zero => simp [List.countP_cons, hlt, hlt.ne]
      | succ i => simp [hlt, hle, ih hl i]
    · have hzero : l.countP (· < x) = 0 := by
        rw [List.countP_eq_zero]
        intro y hy
        simpa using hx y hy
      cases i with
      | zero => simp [hzero]
      | succ i => simp [hzero, ih hl i]
    · have hnone : (x :: l).countP (· ≤ a) = 0 := by
        rw [List.countP_eq_zero]
        intro y hy
        have hxy : x ≤ y := by
          rcases List.mem_cons.mp hy with rfl | hy
          · exact le_refl y
          · exact hx y hy
        simpa using hgt.trans_le hxy
      rw [hnone]
      constructor
      · intro hi
        have hmem := List.mem_of_getElem? hi
        have hpos := List.countP_eq_zero.mp hnone a hmem
        exact absurd (decide_eq_true (le_refl a)) hpos
      · intro ⟨_, hlt⟩
        exact absurd hlt (Nat.not_lt_zero i)

/-- The element of rank `k` is `a` when fewer than `k` are below `a`, and `k` or more are not
above. -/
theorem ranked_eq_some_iff (hk : 0 < k) :
    ranked l k = some a ↔ l.countP (· < a) < k ∧ k ≤ l.countP (· ≤ a) := by
  have hperm := List.mergeSort_perm l (· ≤ ·)
  rw [ranked, getElem?_eq_some_iff_of_pairwise (pairwise_mergeSort l), hperm.countP_eq,
    hperm.countP_eq]
  omega

theorem nearestRank_pos {num den length : ℕ} (hden : 0 < den) (hnum : 0 < num)
    (hlength : 0 < length) : 0 < nearestRank num den length := by
  have hpos : 0 < num * length := Nat.mul_pos hnum hlength
  exact Nat.div_pos (by omega) hden

theorem nearestRank_le {num den length : ℕ} (hle : num ≤ den) :
    nearestRank num den length ≤ length := by
  rcases Nat.eq_zero_or_pos den with rfl | hden
  · rw [nearestRank, Nat.div_zero]
    exact Nat.zero_le _
  · have hmul : num * length ≤ den * length := Nat.mul_le_mul_right length hle
    have hlt : num * length + (den - 1) < den * (length + 1) := by
      rw [Nat.mul_succ]
      omega
    exact Nat.le_of_lt_succ (Nat.div_lt_of_lt_mul hlt)

/-- A bound of the list is its percentile when fewer elements than the rank are below it. -/
theorem percentile_eq_top_iff {num den : ℕ} (hnum : 0 < num) (hle : num ≤ den) (hl : l ≠ [])
    (htop : ∀ x ∈ l, x ≤ a) :
    percentile num den l = some a ↔ l.countP (· < a) < nearestRank num den l.length := by
  have hlength : 0 < l.length := List.length_pos_iff.mpr hl
  have hall : l.countP (· ≤ a) = l.length :=
    List.countP_eq_length.mpr fun x hx => decide_eq_true (htop x hx)
  rw [percentile, ranked_eq_some_iff (nearestRank_pos (by omega) hnum hlength), hall]
  exact and_iff_left (nearestRank_le hle)

end NearestRank
