import Mathlib.Data.String.Basic
import NebulaId.Arith.Numerals
import NebulaId.Types.Id

/-!
# The base-36 text of an id (`core/types/id.rs`)

`to_base36` divides by 36 until nothing is left, pushes the character of each remainder, and
turns the text round.

* `toBase36_eq`: what it returns is the numeral of the id; zero has a text of its own.
* `toBase36_canonical`: the text is well formed and determines the id.
-/

namespace NebulaId

namespace Id

open Numerals

/-- `CHARSET` -/
def charset : List Char := "0123456789ABCDEFGHIJKLMNOPQRSTUVWXYZ".toList

/-- The characters as an alphabet; it has no character for 36 and above. -/
def base36 : Alphabet Char where
  base := 36
  digit d := charset.getD d '?'
  place c := charset.idxOf c
  one_lt := by decide
  place_digit := by decide

/-- The loop of `to_base36`. -/
def base36Loop (num : BitVec 128) (result : String) : String :=
  if 0 < num then base36Loop (num / 36) (result.push (base36.digit (num % 36).toNat)) else result
termination_by num.toNat
decreasing_by
  rename_i hpos
  rw [BitVec.toNat_udiv]
  exact Nat.div_lt_self (BitVec.lt_def.mp hpos) (by decide)

def toBase36 (id : Id) : String :=
  if id.value = 0 then "0" else String.ofList (base36Loop id.value "").toList.reverse

/-- The loop appends the digits, the last one first. -/
theorem toList_base36Loop (num : BitVec 128) (result : String) :
    (base36Loop num result).toList = result.toList ++ (base36.numeral num.toNat).reverse := by
  fun_induction base36Loop num result with
  | case1 num result hpos ih =>
    have hnum : 0 < num.toNat := BitVec.lt_def.mp hpos
    rw [ih, String.toList_push, base36.numeral_pos hnum, List.reverse_append]
    rw [List.append_assoc, BitVec.toNat_udiv, BitVec.toNat_umod]
    rfl
  | case2 num result hzero =>
    have hnum : num.toNat = 0 := Nat.eq_zero_of_not_pos fun h => hzero (BitVec.lt_def.mpr h)
    rw [hnum, base36.numeral_zero, List.reverse_nil, List.append_nil]

theorem toList_toBase36 (id : Id) :
    id.toBase36.toList =
      if id.value = 0 then [base36.digit 0] else base36.numeral id.value.toNat := by
  unfold toBase36
  split
  · rfl
  · rw [String.toList_ofList, toList_base36Loop, List.reverse_append, List.reverse_reverse]
    exact List.append_nil _

theorem value_toBase36 (id : Id) : base36.value id.toBase36.toList = id.value.toNat := by
  rw [toList_toBase36]
  split
  · rename_i hzero
    rw [hzero]
    rfl
  · exact base36.value_numeral _

example : (fromU128 36).toBase36 = "10" := by
  rw [toBase36, if_neg (by decide), base36Loop, if_pos (by decide), base36Loop, if_pos (by decide),
    base36Loop, if_neg (by decide)]
  rfl

theorem mem_toBase36 {id : Id} {c : Char} (h : c ∈ id.toBase36.toList) : c ∈ charset := by
  have hdigit : ∃ d < base36.base, base36.digit d = c := by
    rw [toList_toBase36] at h
    split at h
    · exact ⟨0, by decide, (List.mem_singleton.mp h).symm⟩
    · exact base36.mem_numeral h
  obtain ⟨d, hd, rfl⟩ := hdigit
  have hin : ∀ d < 36, charset.getD d '?' ∈ charset := by decide
  exact hin d hd

theorem toBase36_ne_empty (id : Id) : id.toBase36 ≠ "" := by
  intro h
  have hlist := toList_toBase36 id
  rw [h] at hlist
  split at hlist
  · cases hlist
  · rename_i hne
    refine base36.numeral_ne_nil (fun hzero => hne ?_) hlist.symm
    exact BitVec.eq_of_toNat_eq hzero

/-- Only the text of zero begins with a zero. -/
theorem value_eq_zero_of_head? {id : Id} (h : id.toBase36.toList.head? = some '0') :
    id.value = 0 := by
  by_contra hne
  rw [toList_toBase36, if_neg hne] at h
  exact base36.head?_numeral_ne _ h

theorem toBase36_injective {id other : Id} (h : id.toBase36 = other.toBase36) : id = other := by
  have hvalue := value_toBase36 id
  rw [h, value_toBase36] at hvalue
  exact congrArg Id.mk (BitVec.eq_of_toNat_eq hvalue.symm)

theorem lt_of_length_toBase36 {id other : Id}
    (h : id.toBase36.toList.length < other.toBase36.toList.length) :
    id.value.toNat < other.value.toNat := by
  by_cases hother : other.value = 0
  · -- the text of zero is as short as a text can be
    rw [toList_toBase36 other, if_pos hother, List.length_singleton, Nat.lt_one_iff] at h
    rw [List.length_eq_zero_iff, String.toList_eq_nil_iff] at h
    exact absurd h (toBase36_ne_empty id)
  · by_cases hid : id.value = 0
    · rw [hid]
      exact Nat.pos_of_ne_zero fun hzero => hother (BitVec.eq_of_toNat_eq hzero)
    · rw [toList_toBase36, toList_toBase36, if_neg hid, if_neg hother] at h
      exact base36.lt_of_length_lt h

/-- The base-36 text of an id is canonical and faithful. -/
theorem toBase36_canonical (id : Id) :
    id.toBase36 ≠ "" ∧ (∀ c ∈ id.toBase36.toList, c ∈ charset) ∧
      (id.toBase36.toList.head? = some '0' ↔ id.value = 0) ∧ (id.value = 0 → id.toBase36 = "0") ∧
      base36.value id.toBase36.toList = id.value.toNat ∧
      (∀ other : Id, id.toBase36 = other.toBase36 → id = other) ∧
      ∀ other : Id, id.toBase36.length < other.toBase36.length → id.value < other.value := by
  have hzero : id.value = 0 → id.toBase36 = "0" := fun h => if_pos h
  refine ⟨toBase36_ne_empty id, fun c => mem_toBase36, ?_, hzero, value_toBase36 id,
    fun other => toBase36_injective, ?_⟩
  · refine ⟨value_eq_zero_of_head?, fun h => ?_⟩
    rw [hzero h]
    rfl
  · intro other h
    rw [← String.length_toList, ← String.length_toList] at h
    exact BitVec.lt_def.mpr (lt_of_length_toBase36 h)

end Id

end NebulaId
