import NebulaId.Segment.Distinct
import NebulaId.Snowflake.Batch

/-!
# The implementations of an id algorithm (`core/algorithm/traits.rs`, `uuid_v7.rs`)

`UuidV7Impl` and `UuidV4Impl` take their UUIDs from the `uuid` crate; the list of them is those
that it is going to make. `AlgorithmCall` is a call of one of the four implementations, with
everything that it meets.

* `AlgorithmCall.complete_iff`: when the batch of a call is complete. Only Snowflake can fail.
-/

namespace NebulaId

open Machine

structure UuidMetrics where
  totalGenerated : UInt64
  totalFailed : UInt64

structure UuidImpl where
  metrics : UuidMetrics

namespace UuidImpl

def new : UuidImpl := ⟨⟨0, 0⟩⟩

def count (u : UuidImpl) (ids : ℕ) : UuidImpl :=
  ⟨{ u.metrics with totalGenerated := u.metrics.totalGenerated + UInt64.ofNat ids }⟩

/-- `from_uuid_v7` and `from_uuid_v4` -/
def fromUuid (uuid : BitVec 128) : Id := Id.fromU128 uuid

def generate (u : UuidImpl) : List (BitVec 128) → Option (Result Id × UuidImpl × List (BitVec 128))
  | [] => none
  | uuid :: uuids => some (.ok (fromUuid uuid), u.count 1, uuids)

/-- The body of both. -/
def batchOf (algorithm : AlgorithmType) (u : UuidImpl) (size : ℕ) (uuids : List (BitVec 128)) :
    Option (Result IdBatch × UuidImpl × List (BitVec 128)) :=
  if uuids.length < size then none
  else
    let ids := (uuids.take size).map fromUuid
    some (.ok ⟨ids, algorithm, ""⟩, u.count ids.length, uuids.drop size)

def batchGenerateV7 : UuidImpl → ℕ → List (BitVec 128) →
    Option (Result IdBatch × UuidImpl × List (BitVec 128)) := batchOf .uuidV7

def batchGenerateV4 : UuidImpl → ℕ → List (BitVec 128) →
    Option (Result IdBatch × UuidImpl × List (BitVec 128)) := batchOf .uuidV4

theorem fromUuid_injective : Function.Injective fromUuid := fun _ _ h => congrArg Id.value h

theorem batchOf_complete {algorithm : AlgorithmType} {u : UuidImpl} {size : ℕ}
    {uuids : List (BitVec 128)} {r : Result IdBatch} {s : UuidImpl × List (BitVec 128)}
    (hnodup : uuids.Nodup) (h : batchOf algorithm u size uuids = some (r, s)) : Complete size r := by
  unfold batchOf at h
  split at h
  · cases h
  · rename_i hlong
    cases h
    rintro _ ⟨⟩
    constructor
    · rw [List.length_map, List.length_take]
      omega
    · exact (hnodup.sublist (List.take_sublist size uuids)).map fromUuid_injective

end UuidImpl

/-! ## Batches of segment ids -/

variable {below : UInt64 → UInt64 → Bool} {m m' : SharedSegments} {p' : Task} {size : UInt64}

/-- A range that is not empty has not wrapped, so it is full. -/
theorem Segment.range_full {s s' : Segment} {start stop : UInt64}
    (h : s.tryConsume size = (some (start, stop), s')) (hne : u64Range start stop ≠ []) :
    (u64Range start stop).length = size.toNat := by
  obtain ⟨rfl, rfl, -⟩ := tryConsume_cursor h
  have hpos : 0 < (u64Range s.currentId (s.currentId + size)).length :=
    List.length_pos_of_ne_nil hne
  have hstart := s.currentId.toNat_lt
  have hsize := size.toNat_lt
  rw [length_u64Range, UInt64.toNat_add] at hpos ⊢
  omega

theorem nodup_u64Range (start stop : UInt64) : ((u64Range start stop).map Id.ofU64).Nodup := by
  refine List.Nodup.of_map (fun id : Id => id.asU128.toNat) ?_
  rw [map_toNat_u64Range]
  exact List.nodup_range'

/-- What a step of a call that asks for a batch answers. -/
theorem batchGenerateStep_complete {input : Input} {ctx : GenerateContext}
    {fits : CapacityFits size} {next : Next} {r : Result IdBatch}
    (h : batchGenerateStep below input m ctx size fits next = some (m', p'))
    (hr : m'.answers = (ctx.key, .batchGenerate r) :: m.answers) : Complete size.toNat r := by
  have hquiet : m'.answers = m.answers → Complete size.toNat r := by
    intro hkept
    exact absurd (hkept.symm.trans hr) (List.ne_cons_self)
  have herror : ∀ e : CoreError, m'.answers = (ctx.key, .batchGenerate (.error e)) :: m.answers →
      Complete size.toNat r := by
    intro e he
    obtain ⟨hhead, -⟩ := List.cons.inj (he.symm.trans hr)
    cases (Prod.mk.inj hhead).2
    exact nofun
  cases next with
  | tryConsume i =>
    obtain ⟨c, -, heq⟩ := Option.map_eq_some_iff.mp h
    dsimp only at heq
    split at heq
    · rename_i start stop s hs
      split at heq
      · cases heq
        exact hquiet rfl
      · rename_i hids
        cases heq
        obtain ⟨hhead, -⟩ := List.cons.inj hr
        cases (Prod.mk.inj hhead).2
        rintro _ ⟨⟩
        refine ⟨?_, nodup_u64Range start stop⟩
        rw [List.length_map]
        refine Segment.range_full hs fun hnil => hids ?_
        rw [hnil]
        rfl
    · cases heq
      exact hquiet rfl
  | loadSegment =>
    unfold batchGenerateStep at h
    dsimp only at h
    split at h
    · cases h
      exact hquiet rfl
    · cases h
      exact herror _ rfl
    · cases h
  | lockExhausted i =>
    obtain ⟨c, -, heq⟩ := Option.map_eq_some_iff.mp h
    cases heq
    exact herror _ rfl
  | insertBuffer =>
    cases h
    refine hquiet ?_
    split <;> rfl
  | findBuffer =>
    cases h
    exact hquiet rfl
  | swap =>
    obtain ⟨b, -, heq⟩ := Option.map_eq_some_iff.mp h
    split at heq <;> cases heq <;> exact hquiet rfl
  | tryStartLoading | finishLoading loaded | isLoading | getNextAgain => cases h
  | _ =>
    obtain ⟨b, -, heq⟩ := Option.map_eq_some_iff.mp h
    cases heq
    exact hquiet rfl

/-! ## A call with what it meets -/

/-- A call of an algorithm: the step at which a call of the segment algorithm answers, a Snowflake
generator with the readings of its clock, or the UUIDs that the crate makes. -/
inductive AlgorithmCall where
  | segment (below : UInt64 → UInt64 → Bool) (w : World SharedSegments Task) (act : ℕ × Input)
  | snowflake (a : SnowflakeAlgorithm) (clock : List UInt64)
  | uuidV7 (u : UuidImpl) (uuids : List (BitVec 128))
  | uuidV4 (u : UuidImpl) (uuids : List (BitVec 128))

namespace AlgorithmCall

def algorithm : AlgorithmCall → AlgorithmType
  | segment .. => .segment
  | snowflake .. => .snowflake
  | uuidV7 .. => .uuidV7
  | uuidV4 .. => .uuidV4

/-- What a call of `generate` returns. -/
def Generates (ctx : GenerateContext) : AlgorithmCall → Result Id → Prop
  | segment below w act, r => ∃ w' tries next, World.step (segmentStep below) w act = some w' ∧
      w.threads act.1 = .generate ctx tries next ∧
      w'.shared.answers = (ctx.key, .generate r) :: w.shared.answers
  | snowflake a clock, r => ∃ s, a.generateId clock = some (r, s)
  | uuidV7 u uuids, r | uuidV4 u uuids, r => ∃ s, u.generate uuids = some (r, s)

/-- What a call of `batch_generate` returns. -/
def BatchGenerates (ctx : GenerateContext) (size : ℕ) : AlgorithmCall → Result IdBatch → Prop
  | segment below w act, r => ∃ w' usize fits next,
      World.step (segmentStep below) w act = some w' ∧
      w.threads act.1 = .batchGenerate ctx usize fits next ∧ usize.toNat = size ∧
      w'.shared.answers = (ctx.key, .batchGenerate r) :: w.shared.answers
  | snowflake a clock, r => ∃ s, a.batchGenerate size clock = some (r, s)
  | uuidV7 u uuids, r => ∃ s, u.batchGenerateV7 size uuids = some (r, s)
  | uuidV4 u uuids, r => ∃ s, u.batchGenerateV4 size uuids = some (r, s)

/-- The crate repeats no UUID. -/
def NoRepeats : AlgorithmCall → Prop
  | uuidV7 _ uuids | uuidV4 _ uuids => uuids.Nodup
  | _ => True

/-- The call meets what it needs for a batch. -/
def Suffices (size : ℕ) : AlgorithmCall → Prop
  | snowflake a clock => a.Enough size clock
  | _ => True

/-- **One call.** -/
theorem complete_iff {c : AlgorithmCall} {ctx : GenerateContext} {size : ℕ} {r : Result IdBatch}
    (hrepeats : c.NoRepeats) (hsize : 0 < size) (h : c.BatchGenerates ctx size r) :
    Complete size r ↔ c.Suffices size := by
  cases c with
  | segment below w act =>
    obtain ⟨w', usize, fits, next, hstep, hp, rfl, hr⟩ := h
    refine iff_of_true ?_ trivial
    obtain ⟨i, input⟩ := act
    obtain ⟨m', p', hs, rfl⟩ := World.step_eq_some.mp hstep
    rw [hp] at hs
    exact batchGenerateStep_complete hs hr
  | snowflake a clock =>
    obtain ⟨s, hs⟩ := h
    exact SnowflakeAlgorithm.batchGenerate_complete_iff hsize hs
  | uuidV7 u uuids =>
    obtain ⟨s, hs⟩ := h
    exact iff_of_true (UuidImpl.batchOf_complete hrepeats hs) trivial
  | uuidV4 u uuids =>
    obtain ⟨s, hs⟩ := h
    exact iff_of_true (UuidImpl.batchOf_complete hrepeats hs) trivial

end AlgorithmCall

end NebulaId
