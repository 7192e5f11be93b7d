import Mathlib.Data.Nat.Digits.Lemmas

/-!
# Numerals over an alphabet

An alphabet has a character for each digit of its base and tells the digits of two characters
apart. A numeral is a list of characters, the leading one first.

* `value_numeral`: the numeral of a number writes that number.
* `head?_numeral_ne`: it has no leading zero.
* `lt_of_length_lt`: a longer numeral writes a larger number.
-/

namespace Numerals

structure Alphabet (α : Type*) where
  base : ℕ
  digit : ℕ → α
  /-- The digit that a character stands for. -/
  place : α → ℕ
  one_lt : 1 < base
  place_digit : ∀ d < base, place (digit d) = d

variable {α : Type*} (A : Alphabet α) {n m : ℕ}

namespace Alphabet

/-- The number that a list of characters writes. -/
def value (text : List α) : ℕ := text.foldl (fun n c => n * A.base + A.place c) 0

/-- The digits of a number, the leading one first; zero has none. -/
def numeral (n : ℕ) : List α := ((Nat.digits A.base n).map A.digit).reverse

@[simp] theorem value_nil : A.value [] = 0 := rfl

theorem value_append (text : List α) (c : α) :
    A.value (text ++ [c]) = A.value text * A.base + A.place c := by
  rw [value, List.foldl_append]
  rfl

@[simp] theorem numeral_zero : A.numeral 0 = [] := by
  rw [numeral, Nat.digits_zero]
  rfl

/-- The last digit is the remainder, and the digits before it write the quotient. -/
theorem numeral_pos (hn : 0 < n) :
    A.numeral n = A.numeral (n / A.base) ++ [A.digit (n % A.base)] := by
  rw [numeral, Nat.digits_def' A.one_lt hn, List.map_cons, List.reverse_cons]
  rfl

theorem value_numeral (n : ℕ) : A.value (A.numeral n) = n := by
  induction n using Nat.strong_induction_on with
  | _ n ih =>
    rcases Nat.eq_zero_or_pos n with rfl | hn
    · rw [numeral_zero, value_nil]
    · have hmod : n % A.base < A.base := Nat.mod_lt _ (Nat.zero_lt_of_lt A.one_lt)
      rw [numeral_pos A hn, value_append, ih _ (Nat.div_lt_self hn A.one_lt),
        A.place_digit _ hmod]
      exact Nat.div_add_mod' n A.base

theorem mem_numeral {c : α} (h : c ∈ A.numeral n) : ∃ d < A.base, A.digit d = c := by
  obtain ⟨d, hd, rfl⟩ := List.mem_map.mp (List.mem_reverse.mp h)
  exact ⟨d, Nat.digits_lt_base A.one_lt hd, rfl⟩

theorem numeral_ne_nil (hn : n ≠ 0) : A.numeral n ≠ [] := by
  rw [numeral, ne_eq, List.reverse_eq_nil_iff, List.map_eq_nil_iff]
  exact Nat.digits_ne_nil_iff_ne_zero.mpr hn

theorem head?_numeral_ne (n : ℕ) : (A.numeral n).head? ≠ some (A.digit 0) := by
  intro h
  have hn : n ≠ 0 := by
    rintro rfl
    rw [numeral_zero] at h
    cases h
  have hne := Nat.digits_ne_nil_iff_ne_zero (b := A.base) |>.mpr hn
  rw [numeral, List.head?_reverse, List.getLast?_map, List.getLast?_eq_some_getLast hne] at h
  have hlt := Nat.digits_lt_base A.one_lt (List.getLast_mem hne)
  have hplace := congrArg A.place (Option.some.inj h)
  rw [A.place_digit _ hlt, A.place_digit _ (Nat.zero_lt_of_lt A.one_lt)] at hplace
  exact Nat.getLast_digit_ne_zero A.base hn hplace

theorem length_numeral_le (h : n ≤ m) : (A.numeral n).length ≤ (A.numeral m).length := by
  simp only [numeral, List.length_reverse, List.length_map]
  exact Nat.le_length_digits_le A.base n m h

theorem lt_of_length_lt (h : (A.numeral n).length < (A.numeral m).length) : n < m := by
  by_contra hle
  exact Nat.not_le.mpr h (length_numeral_le A (Nat.not_lt.mp hle))

end Alphabet

end Numerals
