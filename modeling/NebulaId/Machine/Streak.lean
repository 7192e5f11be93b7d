import Mathlib.Data.List.Induction
import Mathlib.Logic.Basic

/-!
# Streaks

The streak of a predicate is how many of the last events of a log meet it, without a break.

* `streak_concat`: an event that meets the predicate makes it longer, any other ends it.
* `count_foldl`: a counter that is advanced modulo `m` by the events of the streak, and cleared by
  the others, holds the length of the streak modulo `m`.
-/

namespace Machine

variable {σ α : Type*} {p : α → Bool} {as : List α} {a : α}

def streak (p : α → Bool) (as : List α) : ℕ := (as.reverse.takeWhile p).length

@[simp] theorem streak_nil : streak p [] = 0 := rfl

theorem streak_concat : streak p (as ++ [a]) = if p a then streak p as + 1 else 0 := by
  unfold streak
  rw [List.reverse_append, List.reverse_singleton, List.singleton_append, List.takeWhile_cons]
  split
  · rw [List.length_cons]
  · rfl

@[simp] theorem streak_concat_of_pos (h : p a = true) : streak p (as ++ [a]) = streak p as + 1 := by
  rw [streak_concat, if_pos h]

@[simp] theorem streak_concat_of_neg (h : p a = false) : streak p (as ++ [a]) = 0 := by
  rw [streak_concat, h, if_neg Bool.false_ne_true]

theorem streak_replicate (h : p a = true) (n : ℕ) : streak p (List.replicate n a) = n := by
  induction n with
  | zero => rfl
  | succ n ih => rw [List.replicate_succ', streak_concat_of_pos h, ih]

/-- A counter of the streak modulo `m`. -/
theorem count_foldl (count : σ → ℕ) {next : σ → α → σ} {m : ℕ} {s : σ} (h0 : count s = 0)
    (hpos : ∀ s a, p a = true → count (next s a) = (count s + 1) % m)
    (hneg : ∀ s a, p a = false → count (next s a) = 0) (as : List α) :
    count (as.foldl next s) = streak p as % m := by
  induction as using List.reverseRecOn with
  | nil => rw [streak_nil, Nat.zero_mod, List.foldl_nil, h0]
  | append_singleton as a ih =>
    rw [List.foldl_append, List.foldl_cons, List.foldl_nil]
    cases ha : p a with
    | true => rw [hpos _ a ha, ih, streak_concat_of_pos ha, Nat.mod_add_mod]
    | false => rw [hneg _ a ha, streak_concat_of_neg ha, Nat.zero_mod]

end Machine
