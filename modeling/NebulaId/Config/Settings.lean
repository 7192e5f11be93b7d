import NebulaId.Config.AppConfig

/-!
# The whole configuration (`core/config`)

Every section with every field; the sections of `Config` are extended by the settings
that neither the validation nor the id algorithms read. The defaults read the environment:
without `DATABASE_URL` and outside of the test mode there is no default without the
database password, and the source panics.
-/

namespace NebulaId

/-- `std::env::var(name).ok()` -/
abbrev Env := String → Option String

inductive DatabaseEngine where
  | postgresql
  | postgres
  | mysql
  | sqlite
  deriving DecidableEq

inductive LogLevel where
  | trace
  | debug
  | info
  | warn
  | error
  deriving DecidableEq

def LogLevel.fromStr (s : String) : LogLevel :=
  match toLowercase s with
  | "trace" => .trace
  | "debug" => .debug
  | "info" => .info
  | "warn" => .warn
  | "error" => .error
  | _ => .info

inductive LogFormat where
  | json
  | pretty
  deriving DecidableEq

inductive TlsVersion where
  | tls12
  | tls13
  deriving DecidableEq

@[ext]
structure AppSection extends AppConfig where
  name : String
  host : String

@[ext]
structure DatabaseSection extends DatabaseConfig where
  engine : DatabaseEngine
  host : String
  port : UInt16
  username : String
  password : String
  database : String
  url : String
  idleTimeoutSeconds : UInt64

structure RedisConfig where
  url : String
  poolSize : UInt32
  keyPrefix : String
  ttlSeconds : UInt64

@[ext]
structure EtcdConfig where
  endpoints : List String
  connectTimeoutMs : UInt64
  watchTimeoutMs : UInt64

structure ApiKeyEntry where
  keyId : String
  keySecret : String
  workspace : String
  role : String
  rateLimit : UInt32
  name : String

@[ext]
structure AuthConfig where
  enabled : Bool
  cacheTtlSeconds : UInt64
  apiKeys : List ApiKeyEntry
  apiKeySalt : String
  keyRotationGracePeriodSeconds : UInt64

structure UuidV7Config where
  enabled : Bool

@[ext]
structure AlgorithmSection extends AlgorithmConfig where
  uuidV7 : UuidV7Config

@[ext]
structure MonitoringConfig where
  metricsEnabled : Bool
  metricsPath : String
  tracingEnabled : Bool
  otlpEndpoint : String

@[ext]
structure LoggingConfig where
  level : LogLevel
  format : LogFormat
  includeLocation : Bool

structure TlsConfig where
  enabled : Bool
  certPath : String
  keyPath : String
  caPath : Option String
  httpEnabled : Bool
  grpcEnabled : Bool
  minTlsVersion : TlsVersion
  alpnProtocols : List String

/-- `Config` of the source. -/
@[ext]
structure FullConfig where
  app : AppSection
  database : DatabaseSection
  redis : RedisConfig
  etcd : EtcdConfig
  auth : AuthConfig
  algorithm : AlgorithmSection
  monitoring : MonitoringConfig
  logging : LoggingConfig
  rateLimit : RateLimitConfig
  tls : TlsConfig
  batchGenerate : BatchGenerateConfig

/-- What `Config::validate` and the algorithms read. -/
def FullConfig.core (c : FullConfig) : Config where
  app := c.app.toAppConfig
  database := c.database.toDatabaseConfig
  algorithm := c.algorithm.toAlgorithmConfig
  rateLimit := c.rateLimit
  batchGenerate := c.batchGenerate

/-! ## Defaults -/

def AppSection.default : AppSection where
  name := "nebula-id"
  host := "0.0.0.0"
  httpPort := 8080
  grpcPort := 9091
  dcId := 0
  workerId := 0

def DatabaseSection.ofUrl (url : String) : DatabaseSection where
  engine := .postgresql
  url := url
  host := "localhost"
  port := 5432
  username := "idgen"
  password := ""
  database := "idgen"
  maxConnections := 100
  minConnections := 10
  acquireTimeoutSeconds := 30
  idleTimeoutSeconds := 300

def DatabaseSection.inMemory : DatabaseSection where
  engine := .sqlite
  url := "sqlite::memory:"
  host := ""
  port := 0
  username := ""
  password := ""
  database := ""
  maxConnections := 10
  minConnections := 1
  acquireTimeoutSeconds := 30
  idleTimeoutSeconds := 300

def DatabaseSection.ofPassword (password : String) : DatabaseSection where
  engine := .postgresql
  url := "postgresql://idgen:" ++ password ++ "@localhost:5432/idgen"
  host := "localhost"
  port := 5432
  username := "idgen"
  password := password
  database := "idgen"
  maxConnections := 100
  minConnections := 10
  acquireTimeoutSeconds := 30
  idleTimeoutSeconds := 300

/-- `none` is the panic of a missing password. -/
def DatabaseSection.default (env : Env) : Option DatabaseSection :=
  match env "DATABASE_URL" with
  | some url => some (.ofUrl url)
  | none =>
    if (env "NEBULA_TEST_MODE").isSome then some .inMemory
    else (env "NEBULA_DATABASE_PASSWORD").map .ofPassword

def RedisConfig.default (env : Env) : RedisConfig where
  url := (env "REDIS_URL").getD "redis://localhost:6379"
  poolSize := 16
  keyPrefix := "nebula:id:"
  ttlSeconds := 600

def EtcdConfig.default : EtcdConfig where
  endpoints := ["etcd:2379"]
  connectTimeoutMs := 5000
  watchTimeoutMs := 5000

def AuthConfig.default (env : Env) : AuthConfig where
  enabled := true
  cacheTtlSeconds := 300
  apiKeys := []
  apiKeySalt := (env "NEBULA_API_KEY_SALT").getD ""
  keyRotationGracePeriodSeconds := 7 * 24 * 60 * 60

def AlgorithmSection.defaults : AlgorithmSection where
  default := "segment"
  segment := .default
  snowflake := .default
  uuidV7 := ⟨true⟩

def MonitoringConfig.default : MonitoringConfig where
  metricsEnabled := true
  metricsPath := "/metrics"
  tracingEnabled := false
  otlpEndpoint := ""

def LoggingConfig.default : LoggingConfig where
  level := .info
  format := .json
  includeLocation := true

def TlsConfig.default : TlsConfig where
  enabled := false
  certPath := ""
  keyPath := ""
  caPath := none
  httpEnabled := false
  grpcEnabled := false
  minTlsVersion := .tls13
  alpnProtocols := ["h2", "http/1.1"]

/-- The defaults of the other sections. -/
def FullConfig.withDatabase (env : Env) (database : DatabaseSection) : FullConfig where
  app := .default
  database := database
  redis := .default env
  etcd := .default
  auth := .default env
  algorithm := .defaults
  monitoring := .default
  logging := .default
  rateLimit := ⟨true, 10000, 100⟩
  tls := .default
  batchGenerate := ⟨100⟩

def FullConfig.default (env : Env) : Option FullConfig :=
  (DatabaseSection.default env).map (.withDatabase env)

theorem FullConfig.core_default {env : Env} {c : FullConfig} (h : FullConfig.default env = some c) :
    c.core = Config.default ∨ c.core = { Config.default with database := ⟨10, 1, 30⟩ } := by
  obtain ⟨database, hdb, rfl⟩ := Option.map_eq_some_iff.mp h
  unfold DatabaseSection.default at hdb
  split at hdb
  · cases hdb
    exact Or.inl rfl
  · split at hdb
    · cases hdb
      exact Or.inr rfl
    · obtain ⟨password, -, rfl⟩ := Option.map_eq_some_iff.mp hdb
      exact Or.inl rfl

/-- Every default passes the validation. -/
theorem FullConfig.default_accepted {env : Env} {c : FullConfig} (h : FullConfig.default env = some c) :
    c.core.Accepted := by
  rcases core_default h with hcore | hcore
  · rw [hcore]
    decide +kernel
  · rw [hcore]
    decide +kernel

end NebulaId
