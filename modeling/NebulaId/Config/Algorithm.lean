import Mathlib.Data.Rat.Defs
import Mathlib.Algebra.Order.Ring.Rat
import NebulaId.Types.Id

/-!
# Algorithm configuration (`core/config/algorithm.rs`)

The bit layout of Snowflake ids and the masks derived from it. Widths are `u8`, so their
sum and the shift amounts wrap modulo 256, and a shift of a `u64` uses its amount modulo
64.
-/

namespace NebulaId

/-- The values of an `f64` as far as comparisons tell them apart: a finite value is a
rational number. -/
inductive F64 where
  | nan
  | negInf
  | finite (q : ℚ)
  | posInf

namespace F64

/-- `<` of the source: a comparison with NaN is false. -/
def lt : F64 → F64 → Bool
  | finite p, finite q => decide (p < q)
  | negInf, finite _ => true
  | negInf, posInf => true
  | finite _, posInf => true
  | _, _ => false

end F64

structure SegmentAlgorithmConfig where
  baseStep : UInt64
  minStep : UInt64
  maxStep : UInt64
  switchThreshold : F64

namespace SegmentAlgorithmConfig

def default : SegmentAlgorithmConfig where
  baseStep := 1000
  minStep := 500
  maxStep := 100000
  switchThreshold := .finite (1 / 10)

end SegmentAlgorithmConfig

structure SnowflakeAlgorithmConfig where
  datacenterIdBits : UInt8
  workerIdBits : UInt8
  sequenceBits : UInt8
  clockDriftThresholdMs : UInt64
  deriving DecidableEq

namespace SnowflakeAlgorithmConfig

def default : SnowflakeAlgorithmConfig where
  datacenterIdBits := 3
  workerIdBits := 8
  sequenceBits := 10
  clockDriftThresholdMs := 1000

def fieldMask (bits : UInt8) : UInt64 := (1 <<< bits.toUInt64) - 1

def datacenterIdMask (c : SnowflakeAlgorithmConfig) : UInt64 := fieldMask c.datacenterIdBits

def workerIdMask (c : SnowflakeAlgorithmConfig) : UInt64 := fieldMask c.workerIdBits

def sequenceMask (c : SnowflakeAlgorithmConfig) : UInt64 := fieldMask c.sequenceBits

def timestampBits (c : SnowflakeAlgorithmConfig) : UInt8 :=
  64 - c.datacenterIdBits - c.workerIdBits - c.sequenceBits

/-- `datacenter_id_bits + worker_id_bits + sequence_bits`, in `u8`. -/
def totalBits (c : SnowflakeAlgorithmConfig) : UInt8 :=
  c.datacenterIdBits + c.workerIdBits + c.sequenceBits

def SameLayout (c c' : SnowflakeAlgorithmConfig) : Prop :=
  c.datacenterIdBits = c'.datacenterIdBits ∧ c.workerIdBits = c'.workerIdBits ∧
    c.sequenceBits = c'.sequenceBits

/-! ## Positions of the fields -/

/-- The bit at which the worker id starts, as the shift of a `u64` sees it; likewise the
two below. -/
def workerShift (c : SnowflakeAlgorithmConfig) : ℕ := c.sequenceBits.toNat % 64

def datacenterShift (c : SnowflakeAlgorithmConfig) : ℕ :=
  (c.workerIdBits + c.sequenceBits).toNat % 64

def timestampShift (c : SnowflakeAlgorithmConfig) : ℕ := c.totalBits.toNat % 64

theorem toNat_fieldMask (bits : UInt8) : (fieldMask bits).toNat = 2 ^ (bits.toNat % 64) - 1 := by
  have hlt : 2 ^ (bits.toNat % 64) < 2 ^ 64 :=
    Nat.pow_lt_pow_right (by omega) (Nat.mod_lt _ (by omega))
  have hsh : ((1 : UInt64) <<< bits.toUInt64).toNat = 2 ^ (bits.toNat % 64) := by
    rw [UInt64.toNat_shiftLeft, UInt8.toNat_toUInt64, show (1 : UInt64).toNat = 1 from rfl,
      Nat.one_shiftLeft, Nat.mod_eq_of_lt hlt]
  have hone : (1 : UInt64) ≤ (1 : UInt64) <<< bits.toUInt64 := by
    rw [UInt64.le_iff_toNat_le, hsh]
    exact Nat.one_le_two_pow
  rw [fieldMask, UInt64.toNat_sub_of_le _ _ hone, hsh]
  rfl

theorem toNat_le_fieldMask {n : ℕ} {bits : UInt8} :
    n ≤ (fieldMask bits).toNat ↔ n < 2 ^ (bits.toNat % 64) := by
  have := Nat.two_pow_pos (bits.toNat % 64)
  rw [toNat_fieldMask]
  omega

/-- The number of timestamp bits is what the other fields leave of the word. -/
theorem toNat_timestampBits {c : SnowflakeAlgorithmConfig} (h : c.totalBits.toNat < 64) :
    c.timestampBits.toNat = 64 - c.totalBits.toNat := by
  simp only [timestampBits, totalBits, UInt8.toNat_sub, UInt8.toNat_add,
    show (64 : UInt8).toNat = 64 from rfl] at h ⊢
  have h1 := c.datacenterIdBits.toNat_lt
  have h2 := c.workerIdBits.toNat_lt
  have h3 := c.sequenceBits.toNat_lt
  omega

theorem SameLayout.shifts {c c' : SnowflakeAlgorithmConfig} (h : SameLayout c c') :
    c.workerShift = c'.workerShift ∧ c.datacenterShift = c'.datacenterShift ∧
      c.timestampShift = c'.timestampShift ∧ c.totalBits = c'.totalBits := by
  obtain ⟨h1, h2, h3⟩ := h
  simp only [workerShift, datacenterShift, timestampShift, totalBits, h1, h2, h3, and_self]

/-- With widths that do not wrap the fields follow each other. -/
theorem shifts_of_lt {c : SnowflakeAlgorithmConfig}
    (h : c.datacenterIdBits.toNat + c.workerIdBits.toNat + c.sequenceBits.toNat < 64) :
    c.workerShift = c.sequenceBits.toNat ∧
      c.datacenterShift = c.sequenceBits.toNat + c.workerIdBits.toNat ∧
      c.timestampShift =
        c.sequenceBits.toNat + c.workerIdBits.toNat + c.datacenterIdBits.toNat ∧
      c.totalBits.toNat < 64 := by
  simp only [workerShift, datacenterShift, timestampShift, totalBits, UInt8.toNat_add]
  omega

end SnowflakeAlgorithmConfig

structure AlgorithmConfig where
  default : String
  segment : SegmentAlgorithmConfig
  snowflake : SnowflakeAlgorithmConfig

def AlgorithmConfig.getDefaultAlgorithm (c : AlgorithmConfig) : AlgorithmType :=
  match AlgorithmType.fromStr c.default with
  | .ok alg => alg
  | .error _ => .segment

end NebulaId
