import NebulaId.Config.Settings
import NebulaId.Types.Texts

/-!
# The adapter of a configuration provider (`infrastructure/config_adapter.rs`)

A provider has texts, numbers and switches under keys. The adapter makes sections of them, with a
default where nothing is under a key. An integer of a provider is an `i64`, which a cast cuts to the
width of its field.

* `asU8_eq`, `asU16_eq`, `asU32_eq`, `asU64_eq`: a cast keeps the residue.
* `field_narrows`: the field of a key is the integer under it, cut to its width.
* `config_congr`: no other integer is read.
* `kept_iff_fits`: so the field has the integer if and only if the integer fits.
-/

namespace NebulaId

structure ConfigProvider where
  getString : String → Option String
  getInt : String → Option Int64
  getBool : String → Option Bool
  getFloat : String → Option F64

def LogFormat.fromStr (s : String) : LogFormat :=
  match toLowercase s with
  | "json" => .json
  | "pretty" => .pretty
  | _ => .json

namespace ConfigAdapter

/-! ## Casts -/

def asU64 (v : Int64) : UInt64 := v.toUInt64

def asU32 (v : Int64) : UInt32 := v.toUInt64.toUInt32

def asU16 (v : Int64) : UInt16 := v.toUInt64.toUInt16

def asU8 (v : Int64) : UInt8 := v.toUInt64.toUInt8

/-! ## Sections -/

section Sections

-- a build with debug assertions, the environment, and `DatabaseConfig::default()`
variable (debug : Bool) (env : Env) (rest : DatabaseSection) (provider : ConfigProvider)

def getAppConfig : AppSection where
  name := (provider.getString "app.name").getD "nebula-id"
  host := (provider.getString "app.host").getD "0.0.0.0"
  httpPort := asU16 ((provider.getInt "app.http_port").getD 8080)
  grpcPort := asU16 ((provider.getInt "app.grpc_port").getD 9091)
  dcId := asU8 ((provider.getInt "app.dc_id").getD 0)
  workerId := asU8 ((provider.getInt "app.worker_id").getD 0)

def getSegmentConfig : SegmentAlgorithmConfig where
  baseStep := asU64 ((provider.getInt "algorithm.segment.base_step").getD 1000)
  minStep := asU64 ((provider.getInt "algorithm.segment.min_step").getD 500)
  maxStep := asU64 ((provider.getInt "algorithm.segment.max_step").getD 100000)
  switchThreshold := (provider.getFloat "algorithm.segment.switch_threshold").getD (.finite (1 / 10))

def getSnowflakeConfig : SnowflakeAlgorithmConfig where
  datacenterIdBits := asU8 ((provider.getInt "algorithm.snowflake.datacenter_id_bits").getD 3)
  workerIdBits := asU8 ((provider.getInt "algorithm.snowflake.worker_id_bits").getD 8)
  sequenceBits := asU8 ((provider.getInt "algorithm.snowflake.sequence_bits").getD 10)
  clockDriftThresholdMs :=
    asU64 ((provider.getInt "algorithm.snowflake.clock_drift_threshold_ms").getD 1000)

def getUuidV7Config : UuidV7Config where
  enabled := (provider.getBool "algorithm.uuid_v7.enabled").getD true

def getAlgorithmConfig : AlgorithmSection where
  default := (provider.getString "algorithm.default").getD "segment"
  segment := getSegmentConfig provider
  snowflake := getSnowflakeConfig provider
  uuidV7 := getUuidV7Config provider

def getAuthConfig : AuthConfig where
  enabled := (provider.getBool "auth.enabled").getD true
  cacheTtlSeconds := asU64 ((provider.getInt "auth.cache_ttl_seconds").getD 300)
  apiKeys := []
  apiKeySalt := ((provider.getString "auth.api_key_salt").or (env "NEBULA_API_KEY_SALT")).getD ""
  keyRotationGracePeriodSeconds :=
    ((provider.getInt "auth.key_rotation_grace_period_seconds").map asU64).getD (7 * 24 * 60 * 60)

/-- What a build with debug assertions falls back to; another one has nothing. -/
def fallback (text : String) : String := if debug then text else ""

def getDatabaseConfig : DatabaseSection :=
  { rest with
    url := (provider.getString "database.url").getD
      ((env "DATABASE_URL").getD (fallback debug "postgresql://localhost/nebula"))
    maxConnections := asU32 ((provider.getInt "database.max_connections").getD 100)
    minConnections := asU32 ((provider.getInt "database.min_connections").getD 10)
    acquireTimeoutSeconds := asU64 ((provider.getInt "database.acquire_timeout_seconds").getD 30)
    idleTimeoutSeconds := asU64 ((provider.getInt "database.idle_timeout_seconds").getD 300) }

def getEtcdConfig : EtcdConfig where
  endpoints :=
    let endpointsStr := (provider.getString "etcd.endpoints").getD
      ((env "ETCD_ENDPOINTS").getD (fallback debug "localhost:2379"))
    (((endpointsStr.toList.splitOn ',').map Text.trim).filter fun s => !s.isEmpty).map String.ofList
  connectTimeoutMs := asU64 ((provider.getInt "etcd.connect_timeout_ms").getD 5000)
  watchTimeoutMs := asU64 ((provider.getInt "etcd.watch_timeout_ms").getD 5000)

def getMonitoringConfig : MonitoringConfig where
  metricsEnabled := (provider.getBool "monitoring.metrics_enabled").getD true
  metricsPath := (provider.getString "monitoring.metrics_path").getD "/metrics"
  tracingEnabled := (provider.getBool "monitoring.tracing_enabled").getD false
  otlpEndpoint := (provider.getString "monitoring.otlp_endpoint").getD ""

def getLoggingConfig : LoggingConfig where
  level := .fromStr ((provider.getString "logging.level").getD "info")
  format := .fromStr ((provider.getString "logging.format").getD "json")
  includeLocation := (provider.getBool "logging.include_location").getD true

def getRateLimitConfig : RateLimitConfig where
  enabled := (provider.getBool "rate_limit.enabled").getD true
  defaultRps := asU32 ((provider.getInt "rate_limit.default_rps").getD 10000)
  burstSize := asU32 ((provider.getInt "rate_limit.burst_size").getD 100)

def getTlsConfig : TlsConfig :=
  { TlsConfig.default with
    enabled := (provider.getBool "tls.enabled").getD false
    certPath := (provider.getString "tls.cert_path").getD ""
    keyPath := (provider.getString "tls.key_path").getD ""
    caPath := provider.getString "tls.ca_path"
    httpEnabled := (provider.getBool "tls.http_enabled").getD false
    grpcEnabled := (provider.getBool "tls.grpc_enabled").getD false }

def getBatchGenerateConfig : BatchGenerateConfig where
  maxBatchSize := asU32 ((provider.getInt "batch_generate.max_batch_size").getD 100)

def getRedisConfig : RedisConfig where
  url := (provider.getString "redis.url").getD
    ((env "REDIS_URL").getD (fallback debug "redis://localhost:6379"))
  poolSize := asU32 ((provider.getInt "redis.pool_size").getD 16)
  keyPrefix := (provider.getString "redis.key_prefix").getD "nebula:id:"
  ttlSeconds := asU64 ((provider.getInt "redis.ttl_seconds").getD 600)

def getConfig : FullConfig where
  app := getAppConfig provider
  database := getDatabaseConfig debug env rest provider
  redis := getRedisConfig debug env provider
  etcd := getEtcdConfig debug env provider
  auth := getAuthConfig env provider
  algorithm := getAlgorithmConfig provider
  monitoring := getMonitoringConfig provider
  logging := getLoggingConfig provider
  rateLimit := getRateLimitConfig provider
  tls := getTlsConfig provider
  batchGenerate := getBatchGenerateConfig provider

end Sections

/-- A key of an integer, and the field that it goes to, with its width. -/
structure IntKey where
  key : String
  bits : ℕ
  field : FullConfig → ℕ

/-- The keys under which the getters read an integer. -/
def intKeys : List IntKey :=
  [⟨"app.http_port", 16, fun c => c.app.httpPort.toNat⟩,
    ⟨"app.grpc_port", 16, fun c => c.app.grpcPort.toNat⟩,
    ⟨"app.dc_id", 8, fun c => c.app.dcId.toNat⟩,
    ⟨"app.worker_id", 8, fun c => c.app.workerId.toNat⟩,
    ⟨"algorithm.segment.base_step", 64, fun c => c.algorithm.segment.baseStep.toNat⟩,
    ⟨"algorithm.segment.min_step", 64, fun c => c.algorithm.segment.minStep.toNat⟩,
    ⟨"algorithm.segment.max_step", 64, fun c => c.algorithm.segment.maxStep.toNat⟩,
    ⟨"algorithm.snowflake.datacenter_id_bits", 8,
      fun c => c.algorithm.snowflake.datacenterIdBits.toNat⟩,
    ⟨"algorithm.snowflake.worker_id_bits", 8, fun c => c.algorithm.snowflake.workerIdBits.toNat⟩,
    ⟨"algorithm.snowflake.sequence_bits", 8, fun c => c.algorithm.snowflake.sequenceBits.toNat⟩,
    ⟨"algorithm.snowflake.clock_drift_threshold_ms", 64,
      fun c => c.algorithm.snowflake.clockDriftThresholdMs.toNat⟩,
    ⟨"auth.cache_ttl_seconds", 64, fun c => c.auth.cacheTtlSeconds.toNat⟩,
    ⟨"auth.key_rotation_grace_period_seconds", 64,
      fun c => c.auth.keyRotationGracePeriodSeconds.toNat⟩,
    ⟨"database.max_connections", 32, fun c => c.database.maxConnections.toNat⟩,
    ⟨"database.min_connections", 32, fun c => c.database.minConnections.toNat⟩,
    ⟨"database.acquire_timeout_seconds", 64, fun c => c.database.acquireTimeoutSeconds.toNat⟩,
    ⟨"database.idle_timeout_seconds", 64, fun c => c.database.idleTimeoutSeconds.toNat⟩,
    ⟨"etcd.connect_timeout_ms", 64, fun c => c.etcd.connectTimeoutMs.toNat⟩,
    ⟨"etcd.watch_timeout_ms", 64, fun c => c.etcd.watchTimeoutMs.toNat⟩,
    ⟨"rate_limit.default_rps", 32, fun c => c.rateLimit.defaultRps.toNat⟩,
    ⟨"rate_limit.burst_size", 32, fun c => c.rateLimit.burstSize.toNat⟩,
    ⟨"batch_generate.max_batch_size", 32, fun c => c.batchGenerate.maxBatchSize.toNat⟩,
    ⟨"redis.pool_size", 32, fun c => c.redis.poolSize.toNat⟩,
    ⟨"redis.ttl_seconds", 64, fun c => c.redis.ttlSeconds.toNat⟩]

/-! ## A cast keeps the residue -/

section Casts

variable (v : Int64)

theorem asU64_eq : ((asU64 v).toNat : ℤ) = v.toInt % 2 ^ 64 := by
  have hbits : (asU64 v).toNat = v.toBitVec.toNat := rfl
  have hlt := v.toBitVec.isLt
  rw [hbits, ← Int64.toInt_toBitVec, BitVec.toInt_eq_toNat_cond]
  split <;> omega

theorem asU32_eq : ((asU32 v).toNat : ℤ) = v.toInt % 2 ^ 32 := by
  have hwide := asU64_eq v
  have hcut : (asU32 v).toNat = (asU64 v).toNat % 2 ^ 32 := UInt64.toNat_toUInt32 _
  omega

theorem asU16_eq : ((asU16 v).toNat : ℤ) = v.toInt % 2 ^ 16 := by
  have hwide := asU64_eq v
  have hcut : (asU16 v).toNat = (asU64 v).toNat % 2 ^ 16 := UInt64.toNat_toUInt16 _
  omega

theorem asU8_eq : ((asU8 v).toNat : ℤ) = v.toInt % 2 ^ 8 := by
  have hwide := asU64_eq v
  have hcut : (asU8 v).toNat = (asU64 v).toNat % 2 ^ 8 := UInt64.toNat_toUInt8 _
  omega

end Casts

/-- What is left of an integer is the integer when it fits, and never else. -/
theorem emod_eq_self_iff (v : ℤ) (bits : ℕ) : v % 2 ^ bits = v ↔ 0 ≤ v ∧ v < 2 ^ bits := by
  have hpos : (0 : ℤ) < 2 ^ bits := Int.pow_pos (by decide)
  constructor
  · intro h
    rw [← h]
    exact ⟨Int.emod_nonneg _ hpos.ne', Int.emod_lt_of_pos _ hpos⟩
  · exact fun h => Int.emod_eq_of_lt h.1 h.2

section Keys

variable {debug : Bool} {env : Env} {rest : DatabaseSection} {provider provider' : ConfigProvider}

theorem forall_intKeys {P : IntKey → Prop} (h : intKeys.Forall P) : ∀ s ∈ intKeys, P s :=
  List.forall_iff_forall_mem.mp h

/-- **The field of a key** is the integer under it, cut to the width of the field. -/
theorem field_narrows : ∀ s ∈ intKeys, ∀ v, provider.getInt s.key = some v →
    (s.field (getConfig debug env rest provider) : ℤ) = v.toInt % 2 ^ s.bits := by
  apply forall_intKeys
  simp only [intKeys, List.Forall]
  and_intros
  all_goals
    intro v hv
    simp only [getConfig, getAppConfig, getAlgorithmConfig, getSegmentConfig, getSnowflakeConfig,
      getAuthConfig, getDatabaseConfig, getEtcdConfig, getRateLimitConfig, getBatchGenerateConfig,
      getRedisConfig, hv, Option.getD_some, Option.map_some, asU64_eq, asU32_eq, asU16_eq, asU8_eq]

/-- Providers with the same texts, switches and fractions, and the same integers under these keys,
make the same configuration. -/
theorem config_congr (hint : ∀ s ∈ intKeys, provider.getInt s.key = provider'.getInt s.key)
    (hstring : provider.getString = provider'.getString)
    (hbool : provider.getBool = provider'.getBool)
    (hfloat : provider.getFloat = provider'.getFloat) :
    getConfig debug env rest provider = getConfig debug env rest provider' := by
  have hall := List.forall_iff_forall_mem.mpr hint
  simp only [intKeys, List.Forall] at hall
  simp only [getConfig, getAppConfig, getAlgorithmConfig, getSegmentConfig, getSnowflakeConfig,
    getUuidV7Config, getAuthConfig, getDatabaseConfig, getEtcdConfig, getMonitoringConfig,
    getLoggingConfig, getRateLimitConfig, getTlsConfig, getBatchGenerateConfig, getRedisConfig,
    hall, hstring, hbool, hfloat]

/-- The integer under the key is in the field. -/
def Kept (c : FullConfig) (provider : ConfigProvider) (s : IntKey) : Prop :=
  ∀ v, provider.getInt s.key = some v → (s.field c : ℤ) = v.toInt

/-- The integer under the key is in the range of the field. -/
def Fits (provider : ConfigProvider) (s : IntKey) : Prop :=
  ∀ v, provider.getInt s.key = some v → 0 ≤ v.toInt ∧ v.toInt < 2 ^ s.bits

theorem kept_iff {s : IntKey} (hs : s ∈ intKeys) :
    Kept (getConfig debug env rest provider) provider s ↔ Fits provider s := by
  refine forall₂_congr fun v hv => ?_
  rw [field_narrows s hs v hv]
  exact emod_eq_self_iff v.toInt s.bits

/-- **An integer of the provider is in the configuration** as it is, under each of the keys, if and
only if it is in the range of its field; and the getters read no other integers. -/
theorem kept_iff_fits (debug : Bool) (env : Env) (rest : DatabaseSection)
    (provider : ConfigProvider) :
    (∀ s ∈ intKeys, Kept (getConfig debug env rest provider) provider s ↔ Fits provider s) ∧
    ((∀ s ∈ intKeys, Kept (getConfig debug env rest provider) provider s) ↔
      ∀ s ∈ intKeys, Fits provider s) ∧
    ∀ getInt, (∀ s ∈ intKeys, provider.getInt s.key = getInt s.key) →
      getConfig debug env rest { provider with getInt := getInt } =
        getConfig debug env rest provider := by
  refine ⟨fun _ hs => kept_iff hs, forall₂_congr fun _ hs => kept_iff hs, fun getInt hint => ?_⟩
  symm
  apply config_congr
  · exact hint
  · rfl
  · rfl
  · rfl

/-- A port that is no port. -/
def farPort : ConfigProvider where
  getString := fun _ => none
  getInt := fun key => if key = "app.http_port" then some 73616 else none
  getBool := fun _ => none
  getFloat := fun _ => none

/-- The adapter makes the default port of it. -/
theorem far_port_lost :
    (getAppConfig farPort).httpPort = 8080 ∧
    ¬ ∀ debug env rest, ∀ s ∈ intKeys, Kept (getConfig debug env rest farPort) farPort s := by
  refine ⟨by decide, fun hkept => ?_⟩
  have hfirst := hkept true (fun _ => none) .inMemory _ List.mem_cons_self 73616 rfl
  exact absurd hfirst (by decide)

end Keys

end ConfigAdapter

end NebulaId
