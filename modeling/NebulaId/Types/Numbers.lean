import Mathlib.Algebra.Ring.Int.Defs
import Mathlib.Algebra.Ring.Nat
import Mathlib.Tactic.Common

/-!
# Numbers in texts

`str::parse` for integers. What `to_string` writes is read back (`parseUnsigned_toString`).
-/

namespace NebulaId

/-- `str::parse` of an unsigned integer: digits, after a plus or not. -/
def parseUnsigned (bound : ℕ) (s : String) : Option ℕ :=
  let digits := match s.toList with
    | '+' :: cs => cs
    | cs => cs
  if digits.isEmpty || !digits.all Char.isDigit then none
  else
    let n := digits.foldl (fun n c => n * 10 + (c.toNat - '0'.toNat)) 0
    if n < bound then some n else none

def parseU8 (s : String) : Option UInt8 := (parseUnsigned 256 s).map UInt8.ofNat

def parseU16 (s : String) : Option UInt16 := (parseUnsigned 65536 s).map UInt16.ofNat

example : parseU16 "+8080" = some 8080 ∧ parseU16 "65536" = none ∧ parseU16 "-1" = none := by decide

def parseU64 (s : String) : Option UInt64 := (parseUnsigned (2 ^ 64) s).map UInt64.ofNat

/-- `str::parse` of an `i64`. -/
def parseI64 (s : String) : Option Int64 :=
  let (negative, digits) := match s.toList with
    | '-' :: cs => (true, cs)
    | '+' :: cs => (false, cs)
    | cs => (false, cs)
  if digits.isEmpty || !digits.all Char.isDigit then none
  else
    let n : ℕ := digits.foldl (fun n c => n * 10 + (c.toNat - '0'.toNat)) 0
    let value : ℤ := if negative then -n else n
    if -2 ^ 63 ≤ value ∧ value < 2 ^ 63 then some (.ofInt value) else none

example : parseI64 "-12" = some (-12) ∧ parseI64 "-+1" = none ∧ parseI64 "" = none := by decide

/-- A letter is no part of a number. -/
theorem parseI64_of_letter {c : Char} {s : String} (hmem : c ∈ s.toList) (hdigit : c.isDigit = false)
    (hminus : c ≠ '-') (hplus : c ≠ '+') : parseI64 s = none := by
  have hnone : ∀ (negative : Bool) (digits : List Char), c ∈ digits →
      (if digits.isEmpty || !digits.all Char.isDigit then none
        else
          let n : ℕ := digits.foldl (fun n c => n * 10 + (c.toNat - '0'.toNat)) 0
          let value : ℤ := if negative then -n else n
          if -2 ^ 63 ≤ value ∧ value < 2 ^ 63 then some (Int64.ofInt value) else none) = none := by
    intro negative digits hc
    have hall : digits.all Char.isDigit = false := by
      rw [List.all_eq_false]
      exact ⟨c, hc, by rw [hdigit]; decide⟩
    simp [hall]
  unfold parseI64
  cases htext : s.toList with
  | nil =>
    rw [htext] at hmem
    cases hmem
  | cons d cs =>
    rw [htext] at hmem
    by_cases hd : d = '-'
    · subst hd
      exact hnone true cs (List.mem_of_ne_of_mem hminus hmem)
    · by_cases hd' : d = '+'
      · subst hd'
        exact hnone false cs (List.mem_of_ne_of_mem hplus hmem)
      · split
        · rename_i cs' heq
          split at heq
          · rename_i heq'
            exact absurd (List.cons.inj heq').1 hd
          · rename_i heq'
            exact absurd (List.cons.inj heq').1 hd'
          · cases heq
            exact hnone false _ hmem

theorem parseUnsigned_toString {bound n : ℕ} (h : n < bound) :
    parseUnsigned bound (toString n) = some n := by
  have htext : (toString n).toList = Nat.toDigits 10 n := Nat.toList_repr
  have hdigit : ∀ c ∈ Nat.toDigits 10 n, c.isDigit = true := fun c hc =>
    Nat.isDigit_of_mem_toDigits (by decide) (by decide) hc
  have hplus : (match Nat.toDigits 10 n with
      | '+' :: cs => cs
      | cs => cs) = Nat.toDigits 10 n := by
    split
    · rename_i cs hcs
      exact absurd (hdigit '+' (hcs ▸ List.mem_cons_self)) (by decide)
    · rfl
  have hvalue : (Nat.toDigits 10 n).foldl (fun n c => n * 10 + (c.toNat - '0'.toNat)) 0 = n := by
    simp only [Nat.mul_comm _ 10]
    exact Nat.ofDigitChars_eq_foldl.symm.trans Nat.ofDigitChars_ten_toDigits
  have hsome : ((Nat.toDigits 10 n).isEmpty || !(Nat.toDigits 10 n).all Char.isDigit) = false := by
    rw [List.isEmpty_eq_false_iff.mpr Nat.toDigits_ne_nil, List.all_eq_true.mpr hdigit]
    rfl
  simp only [parseUnsigned, htext, hplus, hvalue, hsome]
  exact if_pos h

theorem toString_nat_injective {n m : ℕ} (h : toString n = toString m) : n = m := by
  have hn : n < max n m + 1 := Nat.lt_succ_of_le (Nat.le_max_left n m)
  have hm : m < max n m + 1 := Nat.lt_succ_of_le (Nat.le_max_right n m)
  have hparsed := congrArg (parseUnsigned (max n m + 1)) h
  rw [parseUnsigned_toString hn, parseUnsigned_toString hm] at hparsed
  exact Option.some.inj hparsed

theorem parseU64_toString (n : UInt64) : parseU64 (toString n) = some n := by
  have htext : toString n = toString n.toNat := rfl
  rw [parseU64, htext, parseUnsigned_toString n.toNat_lt, Option.map_some, UInt64.ofNat_toNat]

end NebulaId
