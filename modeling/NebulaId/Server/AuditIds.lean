import Mathlib.Algebra.Order.Ring.Nat
import Mathlib.Data.List.Chain
import Mathlib.Order.Basic
import NebulaId.Arith.BitFrame

/-!
# The ids of audit events (`server/audit/logger.rs`)

An id is the millisecond of the clock with twenty bits of a counter below it. The counter begins
anew with the process, and it goes on from one millisecond to the next.

* `lt_iff_of_step`: two calls after one another, of which the second does not read an earlier clock.
* `ids_increasing_iff`: the ids grow unless the counter begins anew within a millisecond.
* `wrap_decreases`: so they do not grow when its twenty bits run over there.
-/

namespace NebulaId

/-- The id, and the counter afterwards. -/
def nextAuditEventId (unixMs : Int64) (counter : UInt64) : UInt64 × UInt64 :=
  let c := counter &&& 0xFFFFF
  ((unixMs.toUInt64 <<< 20) ||| c, counter + 1)

namespace AuditIds

/-- What a call reads: the clock and the counter. -/
structure Reading where
  unixMs : Int64
  counter : UInt64

def Reading.id (r : Reading) : UInt64 := (nextAuditEventId r.unixMs r.counter).1

/-- The calls of a process at the given times. -/
def readings : UInt64 → List Int64 → List Reading
  | _, [] => []
  | counter, ms :: rest => ⟨ms, counter⟩ :: readings (nextAuditEventId ms counter).2 rest

/-- 2000-01-01 -/
def year2000 : Int64 := 946684800000

/-- 2100-01-01 -/
def year2100 : Int64 := 4102444800000

/-- The times of the calls, one process after another. -/
structure History where
  processes : List (List Int64)
  forward : processes.flatten.Pairwise (· ≤ ·)
  dates : ∀ ms ∈ processes.flatten, year2000 ≤ ms ∧ ms ≤ year2100

namespace History

def calls (h : History) : List Reading := h.processes.flatMap (readings 0)

def ids (h : History) : List UInt64 := h.calls.map Reading.id

/-- Processes do not share a millisecond. -/
def Restarts (h : History) : Prop := h.processes.Pairwise fun p q => ∀ ms ∈ p, ms ∉ q

end History

/-! ## One call after another -/

def Dated (ms : Int64) : Prop := year2000 ≤ ms ∧ ms ≤ year2100

theorem toNat_of_dated {ms : Int64} (h : Dated ms) :
    (ms.toUInt64.toNat : ℤ) = ms.toInt ∧ ms.toUInt64.toNat < 2 ^ 44 := by
  obtain ⟨hfrom, hto⟩ := h
  rw [Int64.le_iff_toInt_le] at hfrom hto
  have hfrom : (946684800000 : ℤ) ≤ ms.toInt := hfrom
  have hto : ms.toInt ≤ 4102444800000 := hto
  have hpos : 0 ≤ ms := Int64.le_iff_toInt_le.mpr (by
    have hzero : (0 : Int64).toInt = 0 := rfl
    omega)
  have hnat : (ms.toUInt64.toNat : ℤ) = ms.toInt := by
    rw [Int64.toNat_toUInt64_of_le hpos, Int64.cast_toNatClampNeg ms hpos]
  refine ⟨hnat, ?_⟩
  omega

namespace Reading

variable {r r' : Reading}

/-- The twenty bits of the counter. -/
def low (r : Reading) : ℕ := r.counter.toNat % 2 ^ 20

theorem low_lt (r : Reading) : r.low < 2 ^ 20 := Nat.mod_lt _ (by decide)

theorem toNat_id (h : Dated r.unixMs) :
    r.id.toNat = BitFrame.word 20 r.unixMs.toUInt64.toNat 0 r.low := by
  obtain ⟨-, hlt⟩ := toNat_of_dated h
  have hmask : (0xFFFFF : UInt64).toNat = 2 ^ 20 - 1 := rfl
  have hplaces : (20 : UInt64).toNat % 64 = 20 := rfl
  have hfits : r.unixMs.toUInt64.toNat <<< 20 < 2 ^ 64 := by
    rw [Nat.shiftLeft_eq]
    omega
  rw [id, nextAuditEventId, UInt64.toNat_or, UInt64.toNat_shiftLeft, UInt64.toNat_and, hmask,
    hplaces, Nat.mod_eq_of_lt hfits, Nat.and_two_pow_sub_one_eq_mod, BitFrame.word, Nat.or_zero]
  rfl

/-- The id grows with the millisecond, and within it with the bits of the counter. -/
theorem id_lt_iff (h : Dated r.unixMs) (h' : Dated r'.unixMs) (hle : r.unixMs ≤ r'.unixMs) :
    r.id < r'.id ↔ (r.unixMs = r'.unixMs → r.low < r'.low) := by
  have hgrows : ∀ {high high' low low' : ℕ}, low < 2 ^ 20 → low' < 2 ^ 20 →
      high < high' ∨ high = high' ∧ low < low' →
      BitFrame.word 20 high 0 low < BitFrame.word 20 high' 0 low' :=
    BitFrame.word_lt_word (Nat.le_refl 20) fun i hi => by simp at hi
  rw [UInt64.lt_iff_toNat_lt, toNat_id h, toNat_id h']
  constructor
  · intro hlt hsame
    rw [hsame] at hlt
    by_contra hge
    rcases Nat.lt_or_eq_of_le (Nat.not_lt.mp hge) with hless | heq
    · exact Nat.lt_asymm hlt (hgrows r'.low_lt r.low_lt (Or.inr ⟨rfl, hless⟩))
    · rw [heq] at hlt
      exact Nat.lt_irrefl _ hlt
  · intro hlow
    refine hgrows r.low_lt r'.low_lt ?_
    by_cases hsame : r.unixMs = r'.unixMs
    · exact Or.inr ⟨by rw [hsame], hlow hsame⟩
    · refine Or.inl ?_
      have hlt : r.unixMs.toInt < r'.unixMs.toInt :=
        lt_of_le_of_ne (Int64.le_iff_toInt_le.mp hle) fun heq => hsame (Int64.toInt.inj heq)
      have hfirst := (toNat_of_dated h).1
      have hsecond := (toNat_of_dated h').1
      omega

/-- The next call of the process, or the first one of the next process. -/
def Step (r r' : Reading) : Prop := r'.counter = r.counter + 1 ∨ r'.counter = 0

theorem low_lt_iff_of_step (h : Step r r') : r.low < r'.low ↔ r'.low ≠ 0 := by
  rcases h with hnext | hfirst
  · have hsucc : r'.low = (r.low + 1) % 2 ^ 20 := by
      rw [low, hnext, low, UInt64.toNat_add, UInt64.toNat_one]
      omega
    have hlt := r.low_lt
    omega
  · have hzero : r'.low = 0 := by rw [low, hfirst]; rfl
    omega

theorem lt_iff_of_step (h : Dated r.unixMs) (h' : Dated r'.unixMs) (hle : r.unixMs ≤ r'.unixMs)
    (hstep : Step r r') : r.id < r'.id ↔ (r.unixMs = r'.unixMs → r'.low ≠ 0) := by
  rw [id_lt_iff h h' hle, low_lt_iff_of_step hstep]

end Reading

/-! ## All calls -/

theorem times_readings (counter : UInt64) (times : List Int64) :
    (readings counter times).map Reading.unixMs = times := by
  induction times generalizing counter with
  | nil => rfl
  | cons ms times ih => rw [readings, List.map_cons, ih]

theorem readings_append (counter : UInt64) (times more : List Int64) :
    readings counter (times ++ more) =
      readings counter times ++ readings (counter + .ofNat times.length) more := by
  induction times generalizing counter with
  | nil => simp [readings]
  | cons ms times ih =>
    have hnext : (nextAuditEventId ms counter).2 + .ofNat times.length =
        counter + .ofNat (ms :: times).length := by
      rw [nextAuditEventId, List.length_cons, UInt64.ofNat_add, UInt64.add_assoc,
        UInt64.add_comm (.ofNat times.length)]
      rfl
    rw [List.cons_append, readings, readings, ih, hnext, List.cons_append]

theorem isChain_readings (counter : UInt64) (times : List Int64) :
    (readings counter times).IsChain Reading.Step := by
  induction times generalizing counter with
  | nil => exact List.IsChain.nil
  | cons ms times ih =>
    cases times with
    | nil => exact List.IsChain.singleton _
    | cons ms' times => exact List.IsChain.cons_cons (Or.inl rfl) (ih _)

/-- The counter of whoever comes first in a process. -/
theorem counter_of_head {processes : List (List Int64)} {r : Reading}
    (hr : r ∈ (processes.flatMap (readings 0)).head?) : r.counter = 0 := by
  induction processes with
  | nil => cases hr
  | cons times processes ih =>
    cases times with
    | nil => exact ih hr
    | cons ms times =>
      cases hr
      rfl

theorem isChain_flatMap (processes : List (List Int64)) :
    (processes.flatMap (readings 0)).IsChain Reading.Step := by
  induction processes with
  | nil => exact List.IsChain.nil
  | cons times processes ih =>
    rw [List.flatMap_cons]
    exact (isChain_readings 0 times).append ih fun _ _ _ hr' => Or.inr (counter_of_head hr')

/-- The bits of the counter begin anew in the millisecond of the call before. -/
def Anew (r r' : Reading) : Prop := r.unixMs = r'.unixMs ∧ r'.low = 0

namespace History

variable (h : History)

theorem times_calls : h.calls.map Reading.unixMs = h.processes.flatten := by
  rw [calls, List.map_flatMap]
  simp only [times_readings]
  exact List.flatMap_id'

theorem dated_of_mem {r : Reading} (hr : r ∈ h.calls) : Dated r.unixMs :=
  h.dates _ (h.times_calls ▸ List.mem_map_of_mem hr)

theorem calls_forward : h.calls.Pairwise fun r r' => r.unixMs ≤ r'.unixMs := by
  rw [← List.pairwise_map, times_calls]
  exact h.forward

theorem ids_increasing : h.ids.Pairwise (· < ·) ↔ h.calls.IsChain fun r r' => ¬ Anew r r' := by
  rw [ids, ← List.isChain_iff_pairwise, List.isChain_map, List.isChain_iff_getElem,
    List.isChain_iff_getElem]
  refine forall₂_congr fun i hi => ?_
  have hstep := List.isChain_iff_getElem.mp (isChain_flatMap h.processes) i hi
  have hle := List.pairwise_iff_getElem.mp h.calls_forward i (i + 1) (by omega) hi (by omega)
  rw [Reading.lt_iff_of_step (h.dated_of_mem (List.getElem_mem _))
    (h.dated_of_mem (List.getElem_mem _)) hle hstep, Anew, not_and]

end History

/-- **The ids of the events grow** in the order of the calls if and only if the twenty bits of the
counter never begin anew within a millisecond. -/
theorem ids_increasing_iff (h : History) :
    h.ids.Pairwise (· < ·) ↔ h.calls.IsChain fun r r' => ¬ Anew r r' := h.ids_increasing

/-! ## The bits run over -/

/-- All but one of the ids of a millisecond, and two of the next one. -/
def busyTimes : List Int64 := List.replicate (2 ^ 20 - 1) 1700000000000 ++
  [1700000000001, 1700000000001]

def busy : History where
  processes := [busyTimes]
  forward := by
    rw [List.flatten_singleton, busyTimes, List.pairwise_append]
    refine ⟨List.pairwise_replicate.mpr (Or.inr (Int64.le_refl _)), by decide, fun ms hms ms' hms' => ?_⟩
    rw [List.eq_of_mem_replicate hms]
    rcases List.mem_pair.mp hms' with rfl | rfl <;> decide
  dates := by
    intro ms hms
    rw [List.flatten_singleton, busyTimes, List.mem_append] at hms
    rcases hms with hms | hms
    · rw [List.eq_of_mem_replicate hms]
      decide
    · rcases List.mem_pair.mp hms with rfl | rfl <;> decide

theorem count_busy (ms : Int64) : busyTimes.count ms ≤ 2 ^ 20 := by
  rw [busyTimes, List.count_append, List.count_replicate]
  have hpair : List.count ms [1700000000001, 1700000000001] ≤ 2 := List.count_le_length
  by_cases hfirst : (1700000000000 : Int64) == ms
  · have hnone : List.count ms [1700000000001, 1700000000001] = 0 := by
      rw [← beq_iff_eq.mp hfirst]
      decide
    rw [if_pos hfirst, hnone]
    omega
  · rw [if_neg hfirst]
    omega

theorem times_busy : busy.processes.flatten = busyTimes := by rw [busy, List.flatten_singleton]

/-- The second id of the next millisecond is less than the first. -/
theorem wrap_decreases : busy.Restarts ∧ (∀ ms, busy.processes.flatten.count ms ≤ 2 ^ 20) ∧
    ¬ busy.ids.Pairwise (· < ·) := by
  refine ⟨List.pairwise_singleton _ _, fun ms => ?_, fun hids => ?_⟩
  · rw [times_busy]
    exact count_busy ms
  · have hchain := busy.ids_increasing.mp hids
    have hcalls : busy.calls = readings 0 busyTimes := by
      rw [History.calls, busy, List.flatMap_singleton]
    rw [hcalls, busyTimes, readings_append, List.length_replicate] at hchain
    have hlast := hchain.right_of_append
    rw [readings, readings, List.isChain_cons_cons] at hlast
    exact hlast.1 ⟨rfl, by decide +kernel⟩

end AuditIds

end NebulaId
