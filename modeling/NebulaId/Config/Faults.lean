import NebulaId.Arith.Checked
import NebulaId.Snowflake.ConstructId

/-!
# Arithmetic faults (`core/config/app_config.rs`, `core/config/algorithm.rs`)

`Config::validate` multiplies a rate by ten and adds up three widths, in the types of the fields.
`validateChecked` is `validate` with operations that fault instead of wrapping; the masks, the
timestamp bits and `construct_id` have such readings too.

* `validateChecked_matches`: what validation returns where nothing faults.
* `derivedSafe_of_lt`: with a sum of widths below 64 nothing that is derived from the widths faults.
* `validation_rules_out_iff`: the configurations for which validation does its work.
-/

namespace NebulaId

open Checked

namespace SnowflakeAlgorithmConfig

def fieldMaskChecked (bits : UInt8) : Option UInt64 := do
  subU64 (← shlU64 1 bits) 1

def timestampBitsChecked (c : SnowflakeAlgorithmConfig) : Option UInt8 := do
  let rest ← subU8 64 c.datacenterIdBits
  let rest ← subU8 rest c.workerIdBits
  subU8 rest c.sequenceBits

def totalBitsChecked (c : SnowflakeAlgorithmConfig) : Option UInt8 := do
  addU8 (← addU8 c.datacenterIdBits c.workerIdBits) c.sequenceBits

/-- The sum of the widths as a number. -/
def widths (c : SnowflakeAlgorithmConfig) : ℕ :=
  c.datacenterIdBits.toNat + c.workerIdBits.toNat + c.sequenceBits.toNat

end SnowflakeAlgorithmConfig

def SnowflakeAlgorithm.constructIdChecked (a : SnowflakeAlgorithm) (timestamp sequence : UInt64) :
    Option Id := do
  let timestamp ← shlU64 timestamp (← a.config.totalBitsChecked)
  let dcId ← shlU64 a.datacenterId.toUInt64
    (← addU8 a.config.workerIdBits a.config.sequenceBits)
  let worker ← shlU64 a.workerId.toUInt64 a.config.sequenceBits
  some (Id.ofU64 (timestamp ||| dcId ||| worker ||| sequence))

/-! ## What is derived from the widths -/

namespace SnowflakeAlgorithmConfig

variable {c : SnowflakeAlgorithmConfig}

/-- The masks, the timestamp bits and the ids are computed without a fault. -/
structure DerivedSafe (c : SnowflakeAlgorithmConfig) : Prop where
  datacenterIdMask : fieldMaskChecked c.datacenterIdBits = some c.datacenterIdMask
  workerIdMask : fieldMaskChecked c.workerIdBits = some c.workerIdMask
  sequenceMask : fieldMaskChecked c.sequenceBits = some c.sequenceMask
  timestampBits : c.timestampBitsChecked = some c.timestampBits
  constructId : ∀ a : SnowflakeAlgorithm, a.config = c → ∀ timestamp sequence,
    a.constructIdChecked timestamp sequence = some (a.constructId timestamp sequence)

theorem fieldMaskChecked_of_lt {bits : UInt8} (h : bits.toNat < 64) :
    fieldMaskChecked bits = some (fieldMask bits) := by
  have hlt : bits < 64 := UInt8.lt_iff_toNat_lt.mpr h
  have hone : (1 : UInt64) ≤ (1 : UInt64) <<< bits.toUInt64 := by
    have hmask := toNat_fieldMask bits
    have hpow := Nat.two_pow_pos (bits.toNat % 64)
    have hbits : bits.toNat % 64 < 64 := Nat.mod_lt _ (by omega)
    rw [UInt64.le_iff_toNat_le, UInt64.toNat_shiftLeft, UInt8.toNat_toUInt64,
      show (1 : UInt64).toNat = 1 from rfl, Nat.one_shiftLeft,
      Nat.mod_eq_of_lt (Nat.pow_lt_pow_right (by omega) hbits)]
    exact hpow
  simp only [fieldMaskChecked, shlU64, subU64, keep_of hlt, Option.bind_eq_bind, Option.bind_some,
    keep_of hone, fieldMask]

theorem timestampBitsChecked_of_lt (h : c.widths < 64) :
    c.timestampBitsChecked = some c.timestampBits := by
  unfold widths at h
  have hfirst : c.datacenterIdBits ≤ 64 := by
    rw [UInt8.le_iff_toNat_le, show (64 : UInt8).toNat = 64 from rfl]
    omega
  have hrest : (64 - c.datacenterIdBits).toNat = 64 - c.datacenterIdBits.toNat :=
    UInt8.toNat_sub_of_le _ _ hfirst
  have hsecond : c.workerIdBits ≤ 64 - c.datacenterIdBits := by
    rw [UInt8.le_iff_toNat_le, hrest]
    omega
  have hthird : c.sequenceBits ≤ 64 - c.datacenterIdBits - c.workerIdBits := by
    rw [UInt8.le_iff_toNat_le, UInt8.toNat_sub_of_le _ _ hsecond, hrest]
    omega
  simp only [timestampBitsChecked, subU8, keep_of hfirst, keep_of hsecond, keep_of hthird,
    Option.bind_eq_bind, Option.bind_some, timestampBits]

theorem totalBitsChecked_eq (c : SnowflakeAlgorithmConfig) :
    c.totalBitsChecked = keep (c.widths < 2 ^ 8) c.totalBits := by
  unfold totalBitsChecked addU8 widths totalBits
  by_cases hfirst : c.datacenterIdBits.toNat + c.workerIdBits.toNat < 2 ^ 8
  · have hsum : (c.datacenterIdBits + c.workerIdBits).toNat =
        c.datacenterIdBits.toNat + c.workerIdBits.toNat := by
      rw [UInt8.toNat_add, Nat.mod_eq_of_lt hfirst]
    simp only [keep_of hfirst, Option.bind_eq_bind, Option.bind_some, hsum]
  · have hwide :
        ¬ c.datacenterIdBits.toNat + c.workerIdBits.toNat + c.sequenceBits.toNat < 2 ^ 8 := by
      omega
    rw [keep_eq_none.mpr hfirst, keep_eq_none.mpr hwide]
    rfl

theorem toNat_totalBits (h : c.widths < 2 ^ 8) : c.totalBits.toNat = c.widths := by
  unfold widths at h ⊢
  rw [totalBits, UInt8.toNat_add, UInt8.toNat_add]
  omega

theorem constructIdChecked_of_lt {a : SnowflakeAlgorithm} (h : a.config.widths < 64)
    (timestamp sequence : UInt64) :
    a.constructIdChecked timestamp sequence = some (a.constructId timestamp sequence) := by
  have htotal : a.config.totalBitsChecked = some a.config.totalBits := by
    rw [totalBitsChecked_eq]
    exact keep_of (by omega)
  have hwidth : a.config.totalBits < 64 := by
    rw [UInt8.lt_iff_toNat_lt, toNat_totalBits (by omega)]
    exact h
  unfold widths at h
  have hsum : a.config.workerIdBits.toNat + a.config.sequenceBits.toNat < 2 ^ 8 := by omega
  have hnode : a.config.workerIdBits + a.config.sequenceBits < 64 := by
    rw [UInt8.lt_iff_toNat_lt, UInt8.toNat_add, show (64 : UInt8).toNat = 64 from rfl]
    omega
  have hsequence : a.config.sequenceBits < 64 := by
    rw [UInt8.lt_iff_toNat_lt, show (64 : UInt8).toNat = 64 from rfl]
    omega
  simp only [SnowflakeAlgorithm.constructIdChecked, htotal, addU8, shlU64, keep_of hwidth,
    keep_of hsum, keep_of hnode, keep_of hsequence, Option.bind_eq_bind, Option.bind_some]
  rfl

theorem derivedSafe_of_lt (h : c.widths < 64) : c.DerivedSafe where
  datacenterIdMask := fieldMaskChecked_of_lt (by unfold widths at h; omega)
  workerIdMask := fieldMaskChecked_of_lt (by unfold widths at h; omega)
  sequenceMask := fieldMaskChecked_of_lt (by unfold widths at h; omega)
  timestampBits := timestampBitsChecked_of_lt h
  constructId := fun a ha => constructIdChecked_of_lt (by rw [ha]; exact h)

end SnowflakeAlgorithmConfig

/-! ## Validation -/

namespace Config

/-- `reject`, as a step of a program that may fault. -/
def rejectChecked (bad : Bool) (message : String) : ExceptT ConfigError Option Unit :=
  pureStep (reject bad message)

def validateRateLimitChecked (r : RateLimitConfig) : ExceptT ConfigError Option Unit :=
  if r.enabled then do
    rejectChecked (r.defaultRps == 0) "Rate limit default_rps must be greater than 0 when enabled"
    rejectChecked (r.burstSize == 0) "Rate limit burst_size must be greater than 0 when enabled"
    let limit ← op (mulU32 r.defaultRps 10)
    rejectChecked (decide (r.burstSize > limit))
      "Rate limit burst_size should not exceed 10x default_rps"
  else pureStep (.ok ())

def validateChecked (c : Config) : ExceptT ConfigError Option Unit := do
  rejectChecked (c.app.httpPort == 0) "HTTP port must be between 1 and 65535"
  rejectChecked (c.app.grpcPort == 0) "gRPC port must be between 1 and 65535"
  rejectChecked (decide (c.app.dcId > 31)) "Datacenter ID must be between 0 and 31"
  rejectChecked (c.database.maxConnections == 0) "Database max_connections must be greater than 0"
  rejectChecked (decide (c.database.minConnections > c.database.maxConnections))
    "Database min_connections cannot be greater than max_connections"
  rejectChecked (c.database.acquireTimeoutSeconds == 0)
    "Database acquire_timeout_seconds must be greater than 0"
  validateRateLimitChecked c.rateLimit
  rejectChecked (!(["segment", "snowflake", "uuid_v7", "uuid_v4"].contains c.algorithm.default))
    "Default algorithm must be one of: segment, snowflake, uuid_v7, uuid_v4"
  rejectChecked (decide (c.algorithm.segment.minStep > c.algorithm.segment.maxStep))
    "Segment min_step cannot be greater than max_step"
  rejectChecked (decide (c.algorithm.segment.baseStep < c.algorithm.segment.minStep) ||
      decide (c.algorithm.segment.baseStep > c.algorithm.segment.maxStep))
    "Segment base_step must be between min_step and max_step"
  rejectChecked (c.algorithm.segment.switchThreshold.lt (.finite 0) ||
      F64.lt (.finite 1) c.algorithm.segment.switchThreshold)
    "Segment switch_threshold must be between 0.0 and 1.0"
  let totalBits ← op c.algorithm.snowflake.totalBitsChecked
  rejectChecked (decide (totalBits ≥ 64))
    "Snowflake total bits (datacenter_id_bits + worker_id_bits + sequence_bits) must be less than 64"
  rejectChecked (c.algorithm.snowflake.clockDriftThresholdMs == 0)
    "Snowflake clock_drift_threshold_ms must be greater than 0"
  rejectChecked (c.batchGenerate.maxBatchSize == 0)
    "Batch generate max_batch_size must be greater than 0"
  rejectChecked (decide (c.batchGenerate.maxBatchSize > 10000))
    "Batch generate max_batch_size should not exceed 10000"

theorem matches_rejectChecked (bad : Bool) (message : String) :
    Matches (rejectChecked bad message) (reject bad message) := matches_pureStep _

theorem matches_validateRateLimitChecked (r : RateLimitConfig) :
    Matches (validateRateLimitChecked r) (validateRateLimit r) := by
  unfold validateRateLimitChecked validateRateLimit
  split
  · apply (matches_rejectChecked _ _).bind
    intro _
    apply (matches_rejectChecked _ _).bind
    intro _
    apply Matches.op_keep
    apply matches_rejectChecked
  · apply matches_pureStep

/-- Where it does not fault, validation with checked arithmetic is `validate`. -/
theorem validateChecked_matches (c : Config) : Matches c.validateChecked c.validate := by
  unfold validateChecked validate
  iterate 6
    apply (matches_rejectChecked _ _).bind
    intro _
  apply (matches_validateRateLimitChecked c.rateLimit).bind
  intro _
  iterate 4
    apply (matches_rejectChecked _ _).bind
    intro _
  rw [SnowflakeAlgorithmConfig.totalBitsChecked_eq]
  apply Matches.op_keep
  iterate 3
    apply (matches_rejectChecked _ _).bind
    intro _
  apply matches_rejectChecked

/-! ## Where validation faults -/

end Config

namespace RateLimitConfig

/-- The burst size is compared with ten times the rate. -/
def Compares (r : RateLimitConfig) : Prop := r.enabled = true ∧ r.defaultRps ≠ 0 ∧ r.burstSize ≠ 0

/-- Ten times the rate is a `u32`. -/
def Fits (r : RateLimitConfig) : Prop := r.defaultRps.toNat * 10 < 2 ^ 32

/-- The settings of the limiter make sense, as numbers. -/
def Sensible (r : RateLimitConfig) : Prop := r.enabled = true →
  r.defaultRps ≠ 0 ∧ r.burstSize ≠ 0 ∧ r.burstSize.toNat ≤ r.defaultRps.toNat * 10

end RateLimitConfig

namespace Config

/-- The checks before those of the limiter pass. -/
def ReachesLimiter (c : Config) : Prop :=
  c.app.httpPort ≠ 0 ∧ c.app.grpcPort ≠ 0 ∧ c.app.dcId ≤ 31 ∧ c.database.maxConnections ≠ 0 ∧
    c.database.minConnections ≤ c.database.maxConnections ∧ c.database.acquireTimeoutSeconds ≠ 0

/-- The checks before that of the widths pass. -/
def ReachesWidths (c : Config) : Prop :=
  c.ReachesLimiter ∧ c.rateLimit.Sensible ∧
    c.algorithm.default ∈ ["segment", "snowflake", "uuid_v7", "uuid_v4"] ∧
    c.algorithm.segment.minStep ≤ c.algorithm.segment.maxStep ∧
    (c.algorithm.segment.minStep ≤ c.algorithm.segment.baseStep ∧
      c.algorithm.segment.baseStep ≤ c.algorithm.segment.maxStep) ∧
    (c.algorithm.segment.switchThreshold.lt (.finite 0) = false ∧
      F64.lt (.finite 1) c.algorithm.segment.switchThreshold = false)

section Faults

variable {bad : Bool} {message : String} {f : Unit → ExceptT ConfigError Option Unit}
  {r : RateLimitConfig}

theorem faults_rejectChecked_bind :
    Faults (rejectChecked bad message >>= f) ↔ bad = false ∧ Faults (f ()) := by
  unfold rejectChecked
  rw [faults_pureStep_bind]
  constructor
  · rintro ⟨u, hok, hfaults⟩
    exact ⟨reject_eq_ok.mp hok, hfaults⟩
  · rintro ⟨hgood, hfaults⟩
    exact ⟨(), reject_eq_ok.mpr hgood, hfaults⟩

theorem not_faults_rejectChecked : ¬ Faults (rejectChecked bad message) := not_faults_pureStep

theorem toNat_mul_ten (h : r.Fits) : (r.defaultRps * 10).toNat = r.defaultRps.toNat * 10 := by
  rw [UInt32.toNat_mul, show (10 : UInt32).toNat = 10 from rfl, Nat.mod_eq_of_lt h]

theorem faults_validateRateLimitChecked :
    Faults (validateRateLimitChecked r) ↔ r.Compares ∧ ¬ r.Fits := by
  unfold validateRateLimitChecked
  by_cases henabled : r.enabled = true
  · rw [if_pos henabled, faults_rejectChecked_bind, faults_rejectChecked_bind, faults_op_bind]
    simp only [not_faults_rejectChecked, and_false, exists_false, or_false, mulU32, keep_eq_none,
      beq_eq_false_iff_ne, RateLimitConfig.Compares, RateLimitConfig.Fits, henabled, true_and,
      and_assoc, ne_eq, show (10 : UInt32).toNat = 10 from rfl]
  · rw [if_neg henabled]
    exact iff_of_false not_faults_pureStep fun h => henabled h.1.1

/-- Without a fault the settings pass exactly when they make sense. -/
theorem validateRateLimit_eq_ok_iff (hfits : r.Compares → r.Fits) :
    validateRateLimit r = .ok () ↔ r.Sensible := by
  unfold validateRateLimit RateLimitConfig.Sensible
  by_cases henabled : r.enabled = true
  · rw [if_pos henabled, bind_eq_ok, bind_eq_ok, reject_eq_ok, reject_eq_ok, reject_eq_ok,
      beq_eq_false_iff_ne, beq_eq_false_iff_ne, decide_eq_false_iff_not, gt_iff_lt, UInt32.not_lt,
      UInt32.le_iff_toNat_le]
    constructor
    · rintro ⟨hrps, hburst, hle⟩ -
      rw [toNat_mul_ten (hfits ⟨henabled, hrps, hburst⟩)] at hle
      exact ⟨hrps, hburst, hle⟩
    · intro h
      obtain ⟨hrps, hburst, hle⟩ := h henabled
      rw [toNat_mul_ten (hfits ⟨henabled, hrps, hburst⟩)]
      exact ⟨hrps, hburst, hle⟩
  · rw [if_neg henabled]
    exact iff_of_true rfl fun h => absurd h henabled

theorem run_validateRateLimitChecked :
    (validateRateLimitChecked r).run = some (.ok ()) ↔ (r.Compares → r.Fits) ∧ r.Sensible := by
  have hmatches := matches_validateRateLimitChecked r
  constructor
  · intro hrun
    have hfits : r.Compares → r.Fits := by
      intro hcompares
      by_contra hwide
      have hfaults := faults_validateRateLimitChecked.mpr ⟨hcompares, hwide⟩
      cases hfaults.symm.trans hrun
    exact ⟨hfits, (validateRateLimit_eq_ok_iff hfits).mp (hmatches _ hrun)⟩
  · rintro ⟨hfits, hsensible⟩
    cases hrun : (validateRateLimitChecked r).run with
    | none =>
      obtain ⟨hcompares, hwide⟩ := faults_validateRateLimitChecked.mp hrun
      exact absurd (hfits hcompares) hwide
    | some x => rw [← hmatches x hrun, (validateRateLimit_eq_ok_iff hfits).mpr hsensible]

/-- The two places where validation faults. -/
theorem faults_validateChecked_iff {c : Config} : Faults c.validateChecked ↔
    (c.ReachesLimiter ∧ c.rateLimit.Compares ∧ ¬ c.rateLimit.Fits) ∨
      (c.ReachesWidths ∧ (c.rateLimit.Compares → c.rateLimit.Fits) ∧
        ¬ c.algorithm.snowflake.widths < 2 ^ 8) := by
  have hunit : ∀ p : Unit → Prop, (∃ u, p u) ↔ p () := fun p => ⟨fun ⟨_, h⟩ => h, fun h => ⟨(), h⟩⟩
  unfold validateChecked
  iterate 6 rw [faults_rejectChecked_bind]
  rw [faults_bind_iff, faults_validateRateLimitChecked, hunit, run_validateRateLimitChecked]
  iterate 4 rw [faults_rejectChecked_bind]
  rw [faults_op_bind, SnowflakeAlgorithmConfig.totalBitsChecked_eq, keep_eq_none]
  simp only [faults_rejectChecked_bind, not_faults_rejectChecked, and_false, exists_false,
    or_false, beq_eq_false_iff_ne, ne_eq, decide_eq_false_iff_not, gt_iff_lt, UInt8.not_lt,
    UInt32.not_lt, UInt64.not_lt, Bool.not_eq_false', List.contains_iff_mem,
    Bool.or_eq_false_iff, ReachesLimiter, ReachesWidths]
  tauto

end Faults

/-- An accepted configuration passes every check before that of the widths. -/
theorem Accepted.reachesWidths {c : Config} (h : c.Accepted)
    (hfits : c.ReachesLimiter → c.rateLimit.Compares → c.rateLimit.Fits) : c.ReachesWidths := by
  obtain ⟨hhttp, hgrpc, hdc, hmax, hmin, hacquire, hlimit, hdefault, hsteps, hbase, hswitch, -⟩ :=
    accepted_iff.mp h
  have hreaches : c.ReachesLimiter := ⟨hhttp, hgrpc, hdc, hmax, hmin, hacquire⟩
  exact ⟨hreaches, (validateRateLimit_eq_ok_iff (hfits hreaches)).mp hlimit, hdefault, hsteps,
    hbase, hswitch⟩

/-- Validation computes without a fault and accepts only widths from which everything is derived
without one, exactly when the product of the rate, where it is reached, and the sum of the widths,
where it is reached, stay in their types. -/
theorem validation_rules_out_iff (c : Config) :
    (¬ Faults c.validateChecked ∧ (c.Accepted →
      c.algorithm.snowflake.widths < 64 ∧ c.algorithm.snowflake.DerivedSafe)) ↔
    (c.ReachesLimiter → c.rateLimit.Compares → c.rateLimit.Fits) ∧
      (c.ReachesWidths → c.algorithm.snowflake.widths < 2 ^ 8) := by
  rw [faults_validateChecked_iff, not_or]
  constructor
  · rintro ⟨⟨hproduct, hsum⟩, -⟩
    have hfits : c.ReachesLimiter → c.rateLimit.Compares → c.rateLimit.Fits := by
      intro hreaches hcompares
      by_contra hwide
      exact hproduct ⟨hreaches, hcompares, hwide⟩
    refine ⟨hfits, fun hreaches => ?_⟩
    by_contra hwide
    exact hsum ⟨hreaches, hfits hreaches.1, hwide⟩
  · rintro ⟨hfits, hnarrow⟩
    refine ⟨⟨?_, ?_⟩, fun haccepted => ?_⟩
    · rintro ⟨hreaches, hcompares, hwide⟩
      exact hwide (hfits hreaches hcompares)
    · rintro ⟨hreaches, -, hwide⟩
      exact hwide (hnarrow hreaches)
    · have hbits := totalBits_lt_of_validate haccepted
      rw [SnowflakeAlgorithmConfig.toNat_totalBits
        (hnarrow (haccepted.reachesWidths hfits))] at hbits
      exact ⟨hbits, SnowflakeAlgorithmConfig.derivedSafe_of_lt hbits⟩

/-- The widths 100, 100 and 100 add up to 44 in a `u8` and pass; the mask of a field of 100 bits
is a shift beyond the word. -/
theorem validation_wraps :
    let c : Config := { default with
      algorithm := { default.algorithm with snowflake := ⟨100, 100, 100, 1000⟩ } }
    c.Accepted ∧ c.algorithm.snowflake.widths = 300 ∧ Faults c.validateChecked ∧
      SnowflakeAlgorithmConfig.fieldMaskChecked c.algorithm.snowflake.datacenterIdBits = none := by
  refine ⟨by decide +kernel, rfl, ?_, rfl⟩
  exact show _ = none by decide +kernel

end Config

end NebulaId
