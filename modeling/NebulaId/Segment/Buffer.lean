import Mathlib.Data.List.Nodup
import Mathlib.Data.List.Range
import Mathlib.Algebra.Order.Ring.Nat
import NebulaId.Types.Id

/-!
# Segments and the double buffer (`core/algorithm/segment.rs`)

An `AtomicSegment` hands out the ids from `currentId` up to `maxId`. `tryConsume` and
`needSwitch` hold its mutex from start to end. A `DoubleBuffer` points to the segment in use
and to the one loaded ahead.

`tryConsume` adds before it compares, and the sum wraps.
-/

namespace NebulaId

/-- `u64::saturating_sub` -/
def saturatingSub (a b : UInt64) : UInt64 := if a ≤ b then 0 else a - b

theorem toNat_saturatingSub (a b : UInt64) : (saturatingSub a b).toNat = a.toNat - b.toNat := by
  unfold saturatingSub
  split
  · rename_i hle
    exact (Nat.sub_eq_zero_of_le (UInt64.le_iff_toNat_le.mp hle)).symm
  · rename_i hlt
    exact UInt64.toNat_sub_of_le _ _ (UInt64.le_of_lt (UInt64.not_le.mp hlt))

/-- The numbers of the `u64` range `start..end`. -/
def u64Range (start stop : UInt64) : List UInt64 :=
  (List.range' start.toNat (stop.toNat - start.toNat)).map UInt64.ofNat

structure SegmentData where
  startId : UInt64
  maxId : UInt64
  step : UInt64
  version : UInt8
  deriving DecidableEq

structure Segment where
  startId : UInt64
  maxId : UInt64
  currentId : UInt64
  step : UInt64
  version : UInt8

def Segment.new (startId maxId step : UInt64) : Segment := ⟨startId, maxId, startId, step, 0⟩

namespace Segment

def remaining (s : Segment) : UInt64 := saturatingSub s.maxId s.currentId

/-- `AtomicSegment::try_consume` -/
def tryConsume (s : Segment) (count : UInt64) : Option (UInt64 × UInt64) × Segment :=
  if s.currentId + count > s.maxId then (none, s)
  else (some (s.currentId, s.currentId + count), { s with currentId := s.currentId + count })

/-- The part of `need_switch` under the mutex of the segment; `below remaining total` is the
comparison of the quotient with `switch_threshold`. -/
def needSwitch (below : UInt64 → UInt64 → Bool) (s : Segment) : Bool :=
  let total := s.maxId - s.startId
  if total = 0 then true else below s.remaining total

variable {s s' : Segment} {count start stop : UInt64}

/-- The sum does not wrap, or the segment refuses the sum that has wrapped. -/
def Fits (s : Segment) (count : UInt64) : Prop :=
  s.currentId.toNat + count.toNat < 2 ^ 64 ∨ s.maxId < s.currentId + count

instance (s : Segment) (count : UInt64) : Decidable (s.Fits count) :=
  inferInstanceAs (Decidable (_ ∨ _))

/-- A success moves the cursor by `count` inside the segment. -/
theorem tryConsume_eq_some (h : s.tryConsume count = (some (start, stop), s'))
    (hfits : s.Fits count) :
    start = s.currentId ∧ stop.toNat = s.currentId.toNat + count.toNat ∧
      stop.toNat ≤ s.maxId.toNat ∧ s' = { s with currentId := stop } := by
  unfold tryConsume at h
  split at h
  · cases h
  · rename_i hle
    have hwrap : s.currentId.toNat + count.toNat < 2 ^ 64 := hfits.resolve_right hle
    have hsum : (s.currentId + count).toNat = s.currentId.toNat + count.toNat := by
      rw [UInt64.toNat_add, Nat.mod_eq_of_lt hwrap]
    cases h
    refine ⟨rfl, hsum, ?_, rfl⟩
    exact UInt64.le_iff_toNat_le.mp (UInt64.not_lt.mp hle)

theorem tryConsume_range {r : Option (UInt64 × UInt64)} (h : s.tryConsume count = (r, s')) :
    s'.startId = s.startId ∧ s'.maxId = s.maxId := by
  unfold tryConsume at h
  split at h <;> cases h <;> exact ⟨rfl, rfl⟩

theorem tryConsume_cursor (h : s.tryConsume count = (some (start, stop), s')) :
    start = s.currentId ∧ stop = s.currentId + count ∧ s'.currentId = stop := by
  unfold tryConsume at h
  split at h
  · cases h
  · cases h
    exact ⟨rfl, rfl, rfl⟩

theorem tryConsume_refused (h : ¬ (s.tryConsume count).1.isSome) :
    s.tryConsume count = (none, s) := by
  unfold tryConsume at h ⊢
  split
  · rfl
  · rename_i hfit
    rw [if_neg hfit] at h
    exact absurd rfl h

theorem tryConsume_fitting (h : s.currentId.toNat + count.toNat ≤ s.maxId.toNat) :
    s.tryConsume count =
      (some (s.currentId, s.currentId + count), { s with currentId := s.currentId + count }) ∧
      (s.currentId + count).toNat = s.currentId.toNat + count.toNat := by
  have hsum : (s.currentId + count).toNat = s.currentId.toNat + count.toNat := by
    have := s.maxId.toNat_lt
    rw [UInt64.toNat_add, Nat.mod_eq_of_lt (by omega)]
  refine ⟨if_neg fun hlt => ?_, hsum⟩
  have := UInt64.lt_iff_toNat_lt.mp hlt
  omega

end Segment

theorem toNat_u64Range (start stop : UInt64) :
    (u64Range start stop).map UInt64.toNat =
      List.range' start.toNat (stop.toNat - start.toNat) := by
  rw [u64Range, List.map_map, List.map_congr_left, List.map_id]
  intro n hn
  obtain ⟨hle, hlt⟩ := List.mem_range'_1.mp hn
  have := stop.toNat_lt_size
  exact UInt64.toNat_ofNat_of_lt (by omega)

theorem length_u64Range (start stop : UInt64) :
    (u64Range start stop).length = stop.toNat - start.toNat := by
  rw [u64Range, List.length_map, List.length_range']

structure DoubleBuffer where
  current : ℕ
  next : Option ℕ
  loading : Bool

end NebulaId
