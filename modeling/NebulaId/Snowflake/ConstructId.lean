import NebulaId.Arith.BitFrame
import NebulaId.Config.AppConfig

/-!
# The Snowflake generator and the ids it builds (`core/algorithm/snowflake.rs`)

`SnowflakeAlgorithm` holds the fields of the source's struct; the atomics are the values
they hold. `constructId` ORs the four fields without masking any of them.

As a number the id is a framed word: the timestamp on top, the sequence at the bottom,
and between them `nodePart`, the datacenter and the worker id (`toNat_constructId`). An
algorithm is `NodeClear` when its node part stays inside the bits between the sequence and
the timestamp; ids that fit their masks do (`nodeClear_of_fits`). Then the id grows with
the pair (timestamp, sequence) and determines it.
-/

namespace NebulaId

open BitFrame

structure SnowflakeMetrics where
  totalGenerated : UInt64
  totalFailed : UInt64
  clockBackwards : UInt64
  sequenceOverflows : UInt64
  deriving DecidableEq

structure SnowflakeAlgorithm where
  config : SnowflakeAlgorithmConfig
  datacenterId : UInt8
  workerId : UInt8
  sequence : UInt64
  lastTimestamp : UInt64
  rotationCount : UInt8
  metrics : SnowflakeMetrics
  clockDriftMs : UInt64
  deriving DecidableEq

namespace SnowflakeAlgorithm

def new (datacenterId workerId : UInt8) : SnowflakeAlgorithm where
  config := .default
  datacenterId := datacenterId
  workerId := workerId
  sequence := 0
  lastTimestamp := 0
  rotationCount := 0
  metrics := ⟨0, 0, 0, 0⟩
  clockDriftMs := 0

def initializeFrom (a : SnowflakeAlgorithm) (config : Config) : SnowflakeAlgorithm :=
  { a with
    config := config.algorithm.snowflake
    datacenterId := config.app.dcId
    workerId := config.app.workerId }

/-- `SnowflakeFactory::build` -/
def build (config : Config) : SnowflakeAlgorithm :=
  (new config.app.dcId config.app.workerId).initializeFrom config

def constructId (a : SnowflakeAlgorithm) (timestamp sequence : UInt64) : Id :=
  let dcId := a.datacenterId.toUInt64
  let worker := a.workerId.toUInt64
  Id.ofU64
    ((timestamp <<<
        (a.config.datacenterIdBits + a.config.workerIdBits + a.config.sequenceBits).toUInt64)
      ||| (dcId <<< (a.config.workerIdBits + a.config.sequenceBits).toUInt64)
      ||| (worker <<< a.config.sequenceBits.toUInt64)
      ||| sequence)

/-- The datacenter and the worker id at their places in the word. -/
def nodePart (a : SnowflakeAlgorithm) : ℕ :=
  ((a.datacenterId.toUInt64 <<< (a.config.workerIdBits + a.config.sequenceBits).toUInt64) |||
    (a.workerId.toUInt64 <<< a.config.sequenceBits.toUInt64)).toNat

/-- The node part keeps to the bits between the sequence and the timestamp. -/
def NodeClear (a : SnowflakeAlgorithm) : Prop :=
  a.config.workerShift ≤ a.config.timestampShift ∧
    Within a.config.workerShift a.config.timestampShift a.nodePart

/-- The datacenter id and the worker id fit the widths configured for them. -/
def NodeFits (a : SnowflakeAlgorithm) : Prop :=
  a.datacenterId.toUInt64 ≤ a.config.datacenterIdMask ∧
    a.workerId.toUInt64 ≤ a.config.workerIdMask

/-- A timestamp offset and a sequence number within their fields. -/
def InRange (c : SnowflakeAlgorithmConfig) (timestamp sequence : UInt64) : Prop :=
  timestamp.toNat < 2 ^ c.timestampBits.toNat ∧ sequence ≤ c.sequenceMask

variable {a b : SnowflakeAlgorithm} {ts ts' seq seq' : UInt64}

/-! ## Ids as framed words -/

theorem nodePart_lt (a : SnowflakeAlgorithm) : a.nodePart < 2 ^ 64 := UInt64.toNat_lt _

theorem nodePart_eq (a : SnowflakeAlgorithm) : a.nodePart =
    (a.datacenterId.toNat <<< a.config.datacenterShift % 2 ^ 64) |||
      (a.workerId.toNat <<< a.config.workerShift % 2 ^ 64) := by
  simp only [nodePart, UInt64.toNat_or, UInt64.toNat_shiftLeft, UInt8.toNat_toUInt64,
    SnowflakeAlgorithmConfig.datacenterShift, SnowflakeAlgorithmConfig.workerShift]

theorem sequence_le_iff {c : SnowflakeAlgorithmConfig} :
    seq ≤ c.sequenceMask ↔ seq.toNat < 2 ^ c.workerShift := by
  rw [UInt64.le_iff_toNat_le]
  exact SnowflakeAlgorithmConfig.toNat_le_fieldMask

theorem InRange.fits {c : SnowflakeAlgorithmConfig} (hc : c.totalBits.toNat < 64)
    (h : InRange c ts seq) : Fits 64 c.timestampShift c.workerShift ts.toNat seq.toNat := by
  have hT : c.timestampShift = c.totalBits.toNat := Nat.mod_eq_of_lt hc
  refine ⟨?_, sequence_le_iff.mp h.2⟩
  rw [hT, ← SnowflakeAlgorithmConfig.toNat_timestampBits hc]
  exact h.1

/-- Every pair of numbers that fits the frame is a pair of field values. -/
theorem inRange_of_fits {c : SnowflakeAlgorithmConfig} (hc : c.totalBits.toNat < 64) {t q : ℕ}
    (h : Fits 64 c.timestampShift c.workerShift t q) :
    InRange c (.ofNat t) (.ofNat q) ∧ (UInt64.ofNat t).toNat = t ∧ (UInt64.ofNat q).toNat = q := by
  have hT : c.timestampShift = c.totalBits.toNat := Nat.mod_eq_of_lt hc
  have ht : t < 2 ^ 64 := h.1.trans_le (Nat.pow_le_pow_right (by omega) (by omega))
  have hq : q < 2 ^ 64 := h.2.trans_le
    (Nat.pow_le_pow_right (by omega) (Nat.mod_lt _ (by omega)).le)
  have ht' : (UInt64.ofNat t).toNat = t := UInt64.toNat_ofNat_of_lt' ht
  have hq' : (UInt64.ofNat q).toNat = q := UInt64.toNat_ofNat_of_lt' hq
  refine ⟨⟨?_, sequence_le_iff.mpr ?_⟩, ht', hq'⟩
  · rw [ht', SnowflakeAlgorithmConfig.toNat_timestampBits hc, ← hT]
    exact h.1
  · rw [hq']
    exact h.2

theorem toNat_constructId (hc : a.config.totalBits.toNat < 64) (h : InRange a.config ts seq) :
    (a.constructId ts seq).asU128.toNat =
      word a.config.timestampShift ts.toNat a.nodePart seq.toNat := by
  have hts : ts.toNat <<< a.config.timestampShift < 2 ^ 64 := by
    have hT : a.config.timestampShift ≤ 64 := (Nat.mod_lt _ (by omega)).le
    rw [Nat.shiftLeft_eq, show (2 : ℕ) ^ 64 =
      2 ^ (64 - a.config.timestampShift) * 2 ^ a.config.timestampShift by
        rw [← Nat.pow_add, Nat.sub_add_cancel hT]]
    exact Nat.mul_lt_mul_of_pos_right (h.fits hc).1 (Nat.two_pow_pos _)
  unfold constructId
  rw [Id.toNat_asU128_ofU64]
  simp only [UInt64.toNat_or, UInt64.toNat_shiftLeft, word, nodePart, UInt8.toNat_toUInt64]
  rw [show (a.config.datacenterIdBits + a.config.workerIdBits + a.config.sequenceBits).toNat % 64
      = a.config.timestampShift from rfl, Nat.mod_eq_of_lt hts]
  simp only [Nat.lor_assoc]

theorem constructId_eq_iff (hc : a.config.totalBits.toNat < 64)
    (hc' : b.config.totalBits.toNat < 64) (h : InRange a.config ts seq)
    (h' : InRange b.config ts' seq') :
    a.constructId ts seq = b.constructId ts' seq' ↔
      word a.config.timestampShift ts.toNat a.nodePart seq.toNat =
        word b.config.timestampShift ts'.toNat b.nodePart seq'.toNat := by
  rw [← toNat_constructId hc h, ← toNat_constructId hc' h']
  refine ⟨fun he => by rw [he], fun he => ?_⟩
  have hv := BitVec.eq_of_toNat_eq he
  cases hx : a.constructId ts seq
  cases hy : b.constructId ts' seq'
  rw [hx, hy] at hv
  exact congrArg Id.mk hv

/-! ## Nodes whose ids fit their widths -/

theorem nodeClear_of_fits (hc : a.config.datacenterIdBits.toNat + a.config.workerIdBits.toNat +
    a.config.sequenceBits.toNat < 64) (h : a.NodeFits) : a.NodeClear := by
  obtain ⟨hS, hW, hT, -⟩ := SnowflakeAlgorithmConfig.shifts_of_lt hc
  have hdc : a.datacenterId.toNat < 2 ^ a.config.datacenterIdBits.toNat := by
    have := SnowflakeAlgorithmConfig.toNat_le_fieldMask.mp (UInt64.le_iff_toNat_le.mp h.1)
    rwa [UInt8.toNat_toUInt64, Nat.mod_eq_of_lt (by omega)] at this
  have hwk : a.workerId.toNat < 2 ^ a.config.workerIdBits.toNat := by
    have := SnowflakeAlgorithmConfig.toNat_le_fieldMask.mp (UInt64.le_iff_toNat_le.mp h.2)
    rwa [UInt8.toNat_toUInt64, Nat.mod_eq_of_lt (by omega)] at this
  have hd : Within a.config.datacenterShift a.config.timestampShift
      (a.datacenterId.toNat <<< a.config.datacenterShift) := by
    have := within_shiftLeft (k := a.config.datacenterShift) hdc
    rwa [hW, ← hT, ← hW] at this
  have hw : Within a.config.workerShift a.config.datacenterShift
      (a.workerId.toNat <<< a.config.workerShift) := by
    have := within_shiftLeft (k := a.config.workerShift) hwk
    rwa [hS, ← hW, ← hS] at this
  have hlt : ∀ {lo n}, Within lo a.config.timestampShift n → n % 2 ^ 64 = n := fun hn =>
    Nat.mod_eq_of_lt (hn.lt_two_pow.trans_le (Nat.pow_le_pow_right (by omega) (by omega)))
  have hw' := hw.mono le_rfl (show _ ≤ a.config.timestampShift by omega)
  refine ⟨by omega, ?_⟩
  rw [nodePart_eq, hlt hd, hlt hw']
  exact (hd.mono (by omega) le_rfl).or hw'

/-- With a clear node part the id determines the timestamp and the sequence. -/
theorem NodeClear.constructId_injective (hn : a.NodeClear) (hc : a.config.totalBits.toNat < 64)
    (h : InRange a.config ts seq) (h' : InRange a.config ts' seq')
    (he : a.constructId ts seq = a.constructId ts' seq') : ts = ts' ∧ seq = seq' := by
  obtain ⟨h1, h2⟩ := word_injective hn.1 hn.2 (h.fits hc) (h'.fits hc)
    ((constructId_eq_iff hc hc h h').mp he)
  exact ⟨UInt64.toNat_inj.mp h1, UInt64.toNat_inj.mp h2⟩

/-- The order in which ids are issued: by timestamp, then by sequence. -/
def Earlier (p q : UInt64 × UInt64) : Prop := p.1 < q.1 ∨ p.1 = q.1 ∧ p.2 < q.2

/-- With a clear node part the id grows with the timestamp and the sequence. -/
theorem NodeClear.constructId_lt (hn : a.NodeClear) (hc : a.config.totalBits.toNat < 64)
    (h : InRange a.config ts seq) (h' : InRange a.config ts' seq')
    (hlt : Earlier (ts, seq) (ts', seq')) :
    (a.constructId ts seq).asU128 < (a.constructId ts' seq').asU128 := by
  rw [BitVec.lt_def, toNat_constructId hc h, toNat_constructId hc h']
  refine word_lt_word hn.1 hn.2 (sequence_le_iff.mp h.2) (sequence_le_iff.mp h'.2) ?_
  rcases hlt with hlt | ⟨heq, hlt⟩
  · exact Or.inl (UInt64.lt_iff_toNat_lt.mp hlt)
  · exact Or.inr ⟨congrArg UInt64.toNat heq, UInt64.lt_iff_toNat_lt.mp hlt⟩

theorem Earlier.trans {p q r : UInt64 × UInt64} (h : Earlier p q) (h' : Earlier q r) :
    Earlier p r := by
  unfold Earlier at *
  grind

end SnowflakeAlgorithm

end NebulaId
