import Mathlib.Algebra.Order.Ring.Nat
import Mathlib.Data.List.Basic

/-!
# Events on a time line

A log of events has an entry for each time at which some of them happened: the time, in whole
seconds, and their number.

* `between_add`: a stretch of time is the sum of its parts.
* `sum_inSecond`: so it is the sum of its seconds.
-/

namespace Timeline

/-- The events from `lo` on, and before `hi`. -/
def between (log : List (ℕ × ℕ)) (lo hi : ℕ) : ℕ :=
  ((log.filter fun e => lo ≤ e.1 ∧ e.1 < hi).map Prod.snd).sum

def inSecond (log : List (ℕ × ℕ)) (s : ℕ) : ℕ := between log s (s + 1)

variable {log : List (ℕ × ℕ)} {lo mid hi t n s : ℕ}

@[simp] theorem between_nil : between [] lo hi = 0 := rfl

theorem between_cons :
    between ((t, n) :: log) lo hi = (if lo ≤ t ∧ t < hi then n else 0) + between log lo hi := by
  unfold between
  split
  · rename_i hin
    rw [List.filter_cons_of_pos (by simpa using hin), List.map_cons, List.sum_cons]
  · rename_i hout
    rw [List.filter_cons_of_neg (by simpa using hout), Nat.zero_add]

theorem between_cons_of_lt (h : t < lo) : between ((t, n) :: log) lo hi = between log lo hi := by
  rw [between_cons, if_neg fun hin => Nat.not_le.mpr h hin.1, Nat.zero_add]

theorem between_cons_of_le (h : hi ≤ t) : between ((t, n) :: log) lo hi = between log lo hi := by
  rw [between_cons, if_neg fun hin => Nat.not_le.mpr hin.2 h, Nat.zero_add]

theorem between_add (hlo : lo ≤ mid) (hhi : mid ≤ hi) :
    between log lo mid + between log mid hi = between log lo hi := by
  induction log with
  | nil => rfl
  | cons e log ih =>
    obtain ⟨t, n⟩ := e
    rw [between_cons, between_cons, between_cons]
    split_ifs <;> omega

/-- Nothing has happened there. -/
theorem between_eq_zero (h : ∀ e ∈ log, e.1 < lo ∨ hi ≤ e.1) : between log lo hi = 0 := by
  induction log with
  | nil => rfl
  | cons e log ih =>
    obtain ⟨t, n⟩ := e
    have hrest := ih fun e he => h e (List.mem_cons_of_mem _ he)
    rcases h _ List.mem_cons_self with hlt | hle
    · rw [between_cons_of_lt hlt, hrest]
    · rw [between_cons_of_le hle, hrest]

/-- Two left ends that the events do not tell apart. -/
theorem between_congr_left {lo' : ℕ} (h : ∀ e ∈ log, lo ≤ e.1 ↔ lo' ≤ e.1) :
    between log lo hi = between log lo' hi := by
  unfold between
  rw [List.filter_congr fun e he => decide_eq_decide.mpr (and_congr_left' (h e he))]

theorem inSecond_eq_zero (h : ∀ e ∈ log, e.1 ≠ s) : inSecond log s = 0 :=
  between_eq_zero fun e he => by
    have hne := h e he
    omega

theorem inSecond_cons_self : inSecond ((s, n) :: log) s = n + inSecond log s := by
  rw [inSecond, between_cons, if_pos ⟨Nat.le_refl s, Nat.lt_succ_self s⟩]
  rfl

theorem inSecond_cons_ne (h : t ≠ s) : inSecond ((t, n) :: log) s = inSecond log s := by
  rcases Nat.lt_or_gt_of_ne h with hlt | hgt
  · exact between_cons_of_lt hlt
  · exact between_cons_of_le hgt

theorem sum_inSecond (lo n : ℕ) :
    ((List.range n).map fun i => inSecond log (lo + i)).sum = between log lo (lo + n) := by
  induction n with
  | zero =>
    rw [between_eq_zero fun e _ => by omega]
    rfl
  | succ n ih =>
    rw [List.range_succ, List.map_append, List.sum_append, ih]
    simp only [List.map_cons, List.map_nil, List.sum_cons, List.sum_nil, Nat.add_zero, inSecond]
    exact between_add (by omega) (by omega)

theorem inSecond_le_between (hlo : lo ≤ s) (hhi : s < hi) : inSecond log s ≤ between log lo hi := by
  have hleft : between log lo s + between log s (s + 1) = between log lo (s + 1) :=
    between_add hlo (Nat.le_succ s)
  have hright : between log lo (s + 1) + between log (s + 1) hi = between log lo hi :=
    between_add (Nat.le_succ_of_le hlo) hhi
  rw [inSecond]
  omega

/-- A bound for each second bounds a stretch of time. -/
theorem between_le_mul {c : ℕ} (h : ∀ s, inSecond log s ≤ c) (lo n : ℕ) :
    between log lo (lo + n) ≤ c * n := by
  induction n with
  | zero =>
    rw [between_eq_zero fun e _ => by omega]
    exact Nat.zero_le _
  | succ n ih =>
    have hsecond := h (lo + n)
    rw [inSecond] at hsecond
    rw [← between_add (Nat.le_add_right lo n) (by omega), Nat.mul_succ]
    exact Nat.add_le_add ih hsecond

end Timeline
