import NebulaId.Config.Algorithm

/-!
# The configuration and its validation (`core/config/app_config.rs`)

`Config` keeps the fields that `Config::validate` and the id algorithms read.
`Config.validate` makes the checks of the source in their order and returns the message
of the first one that fails.

What `Ok` says about the bit layout is in `totalBits_lt_of_validate` (the `u8` sum of the
three widths is below 64) and `dcId_le_of_validate` (the datacenter id is at most 31). No
check compares the datacenter id or the worker id with the configured widths.
-/

namespace NebulaId

structure AppConfig where
  httpPort : UInt16
  grpcPort : UInt16
  dcId : UInt8
  workerId : UInt8

structure DatabaseConfig where
  maxConnections : UInt32
  minConnections : UInt32
  acquireTimeoutSeconds : UInt64

structure RateLimitConfig where
  enabled : Bool
  defaultRps : UInt32
  burstSize : UInt32

structure BatchGenerateConfig where
  maxBatchSize : UInt32

structure Config where
  app : AppConfig
  database : DatabaseConfig
  algorithm : AlgorithmConfig
  rateLimit : RateLimitConfig
  batchGenerate : BatchGenerateConfig

inductive ConfigError where
  | missingRequired (value : String)
  | invalidValue (value : String)
  | fileError (value : String)
  deriving DecidableEq

namespace Config

/-- The defaults of the sections, with the database section of a set `DATABASE_URL`. -/
def default : Config where
  app := ⟨8080, 9091, 0, 0⟩
  database := ⟨100, 10, 30⟩
  algorithm := ⟨"segment", .default, .default⟩
  rateLimit := ⟨true, 10000, 100⟩
  batchGenerate := ⟨100⟩

/-- `if bad { return Err(InvalidValue(message)) }` -/
def reject (bad : Bool) (message : String) : Except ConfigError Unit :=
  if bad then .error (.invalidValue message) else .ok ()

def validateRateLimit (r : RateLimitConfig) : Except ConfigError Unit :=
  if r.enabled then do
    reject (r.defaultRps == 0) "Rate limit default_rps must be greater than 0 when enabled"
    reject (r.burstSize == 0) "Rate limit burst_size must be greater than 0 when enabled"
    reject (decide (r.burstSize > r.defaultRps * 10))
      "Rate limit burst_size should not exceed 10x default_rps"
  else .ok ()

def validate (c : Config) : Except ConfigError Unit := do
  reject (c.app.httpPort == 0) "HTTP port must be between 1 and 65535"
  reject (c.app.grpcPort == 0) "gRPC port must be between 1 and 65535"
  reject (decide (c.app.dcId > 31)) "Datacenter ID must be between 0 and 31"
  reject (c.database.maxConnections == 0) "Database max_connections must be greater than 0"
  reject (decide (c.database.minConnections > c.database.maxConnections))
    "Database min_connections cannot be greater than max_connections"
  reject (c.database.acquireTimeoutSeconds == 0)
    "Database acquire_timeout_seconds must be greater than 0"
  validateRateLimit c.rateLimit
  reject (!(["segment", "snowflake", "uuid_v7", "uuid_v4"].contains c.algorithm.default))
    "Default algorithm must be one of: segment, snowflake, uuid_v7, uuid_v4"
  reject (decide (c.algorithm.segment.minStep > c.algorithm.segment.maxStep))
    "Segment min_step cannot be greater than max_step"
  reject (decide (c.algorithm.segment.baseStep < c.algorithm.segment.minStep) ||
      decide (c.algorithm.segment.baseStep > c.algorithm.segment.maxStep))
    "Segment base_step must be between min_step and max_step"
  reject (c.algorithm.segment.switchThreshold.lt (.finite 0) ||
      F64.lt (.finite 1) c.algorithm.segment.switchThreshold)
    "Segment switch_threshold must be between 0.0 and 1.0"
  reject (decide (c.algorithm.snowflake.totalBits ≥ 64))
    "Snowflake total bits (datacenter_id_bits + worker_id_bits + sequence_bits) must be less than 64"
  reject (c.algorithm.snowflake.clockDriftThresholdMs == 0)
    "Snowflake clock_drift_threshold_ms must be greater than 0"
  reject (c.batchGenerate.maxBatchSize == 0)
    "Batch generate max_batch_size must be greater than 0"
  reject (decide (c.batchGenerate.maxBatchSize > 10000))
    "Batch generate max_batch_size should not exceed 10000"

/-- `Config::validate` returns `Ok`. -/
def Accepted (c : Config) : Prop := c.validate = .ok ()

instance (c : Config) : Decidable c.Accepted := inferInstanceAs (Decidable (_ = _))

/-! ## What an accepted configuration promises -/

theorem reject_eq_ok {bad : Bool} {message : String} :
    reject bad message = .ok () ↔ bad = false := by
  unfold reject
  cases bad <;> simp

theorem bind_eq_ok {x : Except ConfigError Unit} {f : Unit → Except ConfigError Unit} :
    (x >>= f) = .ok () ↔ x = .ok () ∧ f () = .ok () := by
  cases x with
  | error e => simp [bind, Except.bind]
  | ok u => simp [bind, Except.bind]

theorem accepted_iff {c : Config} : c.Accepted ↔
    c.app.httpPort ≠ 0 ∧ c.app.grpcPort ≠ 0 ∧ c.app.dcId ≤ 31 ∧
    c.database.maxConnections ≠ 0 ∧ c.database.minConnections ≤ c.database.maxConnections ∧
    c.database.acquireTimeoutSeconds ≠ 0 ∧ validateRateLimit c.rateLimit = .ok () ∧
    c.algorithm.default ∈ ["segment", "snowflake", "uuid_v7", "uuid_v4"] ∧
    c.algorithm.segment.minStep ≤ c.algorithm.segment.maxStep ∧
    (c.algorithm.segment.minStep ≤ c.algorithm.segment.baseStep ∧
      c.algorithm.segment.baseStep ≤ c.algorithm.segment.maxStep) ∧
    (c.algorithm.segment.switchThreshold.lt (.finite 0) = false ∧
      F64.lt (.finite 1) c.algorithm.segment.switchThreshold = false) ∧
    c.algorithm.snowflake.totalBits < 64 ∧ c.algorithm.snowflake.clockDriftThresholdMs ≠ 0 ∧
    c.batchGenerate.maxBatchSize ≠ 0 ∧ c.batchGenerate.maxBatchSize ≤ 10000 := by
  simp only [Accepted, validate, bind_eq_ok, reject_eq_ok, beq_eq_false_iff_ne, ne_eq,
    decide_eq_false_iff_not, gt_iff_lt, ge_iff_le, UInt8.not_lt, UInt8.not_le, UInt32.not_lt,
    UInt64.not_lt, Bool.not_eq_false', List.contains_iff_mem, Bool.or_eq_false_iff]

theorem totalBits_lt_of_validate {c : Config} (h : c.Accepted) :
    c.algorithm.snowflake.totalBits.toNat < 64 := by
  obtain ⟨_, _, _, _, _, _, _, _, _, _, _, hbits, _⟩ := accepted_iff.mp h
  exact UInt8.lt_iff_toNat_lt.mp hbits

theorem dcId_le_of_validate {c : Config} (h : c.Accepted) : c.app.dcId.toNat ≤ 31 := by
  obtain ⟨_, _, hdc, _⟩ := accepted_iff.mp h
  exact UInt8.le_iff_toNat_le.mp hdc

example : default.Accepted := by decide +kernel

end Config

end NebulaId
