import NebulaId.Config.Settings
import NebulaId.Machine.FirstOk
import NebulaId.Types.Numbers

/-!
# Start-up: the file and the environment (`core/config/app_config.rs`, `main.rs`)

`load_from_env` sets what the environment gives on top of the defaults, and `merge` then takes what
differs from the defaults over into the configuration of the file: a setting counts as given
when it is not the default. The algorithm sections are taken over as they are, although
the environment gives none of them.

`withEnv` are the assignments of `load_from_env`, on any configuration; on that of the file they say
what the start-up is for: what the environment gives is set, and everything else stays.

* `startup_loses_layout`: a database URL alone in the environment resets the bit layout of the file.
* `startup_keeps_iff`: the start-up keeps every setting exactly when `KeepsSettings` holds.
* `startup_accepted_iff`: nobody validates the merged configuration; it is valid when `StartsValid`.
-/

namespace NebulaId

open Machine

/-! ## Reading the environment -/

theorem not_mem_ofList {c : Char} {cs : List Char} (h : c ∉ cs) : c ∉ (String.ofList cs).toList := by
  rwa [String.toList_ofList]

/-- `split(',')` -/
def splitComma (s : String) : List String := (s.toList.splitOn ',').map String.ofList

/-- `if let Ok(text) = std::env::var(name) { setting = parse(text)? }` -/
def fromEnv {α : Type} (parse : String → Option α) (env : Env) (name : String) (setting : α) :
    Except ConfigError α :=
  match (env name).map parse with
  | none => .ok setting
  | some (some value) => .ok value
  | some none => .error (.invalidValue name)

namespace FullConfig

/-- The assignments of `Config::load_from_env`. -/
def withEnv (env : Env) (c : FullConfig) : Except ConfigError FullConfig := do
  let host ← fromEnv some env "APP_HOST" c.app.host
  let httpPort ← fromEnv parseU16 env "APP_HTTP_PORT" c.app.httpPort
  let grpcPort ← fromEnv parseU16 env "APP_GRPC_PORT" c.app.grpcPort
  let dcId ← fromEnv parseU8 env "DC_ID" c.app.dcId
  let workerId ← fromEnv parseU8 env "WORKER_ID" c.app.workerId
  let url ← fromEnv some env "DATABASE_URL" c.database.url
  let endpoints ← fromEnv (some ∘ splitComma) env "ETCD_ENDPOINTS" c.etcd.endpoints
  let level ← fromEnv (some ∘ LogLevel.fromStr) env "RUST_LOG" c.logging.level
  return { c with
    app := { c.app with
      host := host, httpPort := httpPort, grpcPort := grpcPort, dcId := dcId, workerId := workerId }
    database := { c.database with url := url }
    etcd := { c.etcd with endpoints := endpoints }
    logging := { c.logging with level := level } }

/-- `none` is the panic of the defaults. -/
def loadFromEnv (env : Env) : Option (Except ConfigError FullConfig) :=
  (FullConfig.default env).map (withEnv env)

/-- `if other != default { self = other }` -/
def changed {α : Type} [DecidableEq α] (default other self : α) : α :=
  if other ≠ default then other else self

def merge (self other : FullConfig) : FullConfig :=
  { self with
    app := { self.app with
      host := changed "0.0.0.0" other.app.host self.app.host
      httpPort := changed 8080 other.app.httpPort self.app.httpPort
      grpcPort := changed 9091 other.app.grpcPort self.app.grpcPort
      dcId := changed 0 other.app.dcId self.app.dcId
      workerId := changed 0 other.app.workerId self.app.workerId }
    database := { self.database with
      url := if other.database.url ≠ "" ∧ other.database.url ≠ self.database.url then
        other.database.url else self.database.url
      maxConnections := changed 100 other.database.maxConnections self.database.maxConnections }
    etcd := { self.etcd with
      endpoints := changed [] other.etcd.endpoints self.etcd.endpoints }
    auth := { self.auth with
      apiKeys := if other.auth.apiKeys.isEmpty then self.auth.apiKeys else other.auth.apiKeys }
    algorithm := { self.algorithm with
      default := changed "segment" other.algorithm.default self.algorithm.default
      segment := other.algorithm.segment
      snowflake := other.algorithm.snowflake
      uuidV7 := other.algorithm.uuidV7 }
    monitoring := { self.monitoring with
      metricsPath := changed "/metrics" other.monitoring.metricsPath self.monitoring.metricsPath
      tracingEnabled := if other.monitoring.tracingEnabled then true else self.monitoring.tracingEnabled
      otlpEndpoint := changed "" other.monitoring.otlpEndpoint self.monitoring.otlpEndpoint }
    logging := { self.logging with
      level := changed .info other.logging.level self.logging.level } }

/-- `parsed` is what the text of the file parses to. -/
def loadFromFile (parsed : Except ConfigError FullConfig) : Except ConfigError FullConfig := do
  let config ← parsed
  config.core.validate
  return config

/-- `unwrap_or_default` -/
def unwrapOrDefault (env : Env) : Except ConfigError FullConfig → Option FullConfig
  | .ok c => some c
  | .error _ => FullConfig.default env

/-- The configuration that `main` starts the service with. -/
def startup (env : Env) (parsed : Except ConfigError FullConfig) : Option FullConfig := do
  let config ← unwrapOrDefault env (loadFromFile parsed)
  let loaded ← loadFromEnv env
  let other ← unwrapOrDefault env loaded
  return config.merge other

/-! ## When a setting survives -/

/-- The setting can be read, and a given value that looks like none is the file's, too. -/
structure Kept {α : Type} (parse : String → Option α) (env : Env) (name : String)
    (default setting : α) : Prop where
  readable : (env name).map parse ≠ some none
  distinct : (env name).map parse = some (some default) → setting = default

/-- The start-up keeps every setting of the file that the environment does not give, and
sets every one that it gives. -/
structure KeepsSettings (env : Env) (file : FullConfig) : Prop where
  host : Kept some env "APP_HOST" "0.0.0.0" file.app.host
  httpPort : Kept parseU16 env "APP_HTTP_PORT" 8080 file.app.httpPort
  grpcPort : Kept parseU16 env "APP_GRPC_PORT" 9091 file.app.grpcPort
  dcId : Kept parseU8 env "DC_ID" 0 file.app.dcId
  workerId : Kept parseU8 env "WORKER_ID" 0 file.app.workerId
  level : Kept (some ∘ LogLevel.fromStr) env "RUST_LOG" .info file.logging.level
  emptyUrl : env "DATABASE_URL" = some "" → file.database.url = ""
  noUrl : env "DATABASE_URL" = none →
    ∀ database, DatabaseSection.default env = some database → file.database.url = database.url
  testMode : env "DATABASE_URL" = none → (env "NEBULA_TEST_MODE").isSome →
    file.database.maxConnections = 10
  endpoints : env "ETCD_ENDPOINTS" = none → file.etcd.endpoints = ["etcd:2379"]
  segment : file.algorithm.segment = .default
  snowflake : file.algorithm.snowflake = .default
  uuidV7 : file.algorithm.uuidV7 = ⟨true⟩

/-! ## What the environment sets -/

section fromEnv

variable {α : Type} {parse : String → Option α} {env : Env} {name : String} {setting other : α}

theorem readable_of_fromEnv (h : fromEnv parse env name setting = .ok other) :
    (env name).map parse ≠ some none := by
  intro hbad
  rw [fromEnv, hbad] at h
  cases h

theorem fromEnv_of_readable (h : (env name).map parse ≠ some none) (setting : α) :
    ∃ other, fromEnv parse env name setting = .ok other := by
  unfold fromEnv
  split
  · exact ⟨_, rfl⟩
  · exact ⟨_, rfl⟩
  · rename_i hbad
    exact absurd hbad h

/-- What `merge` takes over is what the environment sets, unless it looks like the default. -/
theorem fromEnv_eq_changed_iff [DecidableEq α] {default : α}
    (h : fromEnv parse env name default = .ok other) (setting : α) :
    fromEnv parse env name setting = .ok (changed default other setting) ↔
      Kept parse env name default setting := by
  have hread := readable_of_fromEnv h
  unfold fromEnv at h ⊢
  cases hgiven : (env name).map parse with
  | none =>
    rw [hgiven] at h
    cases h
    exact ⟨fun _ => ⟨hread, fun h => by rw [hgiven] at h; cases h⟩, fun _ => by simp [changed]⟩
  | some value =>
    cases value with
    | none => exact absurd hgiven hread
    | some value =>
      rw [hgiven] at h
      obtain rfl : value = other := Except.ok.inj h
      rw [Except.ok.injEq, changed]
      constructor
      · intro hvalue
        refine ⟨hread, fun hsame => ?_⟩
        have hdefault : value = default :=
          Option.some.inj (Option.some.inj (hgiven.symm.trans hsame))
        rw [if_neg (not_not.mpr hdefault)] at hvalue
        exact hvalue.symm.trans hdefault
      · intro hkept
        by_cases hsame : value = default
        · rw [if_neg (not_not.mpr hsame), hkept.distinct (by rw [hgiven, hsame]), hsame]
        · rw [if_pos hsame]

end fromEnv

variable {env : Env} {c c' file other merged : FullConfig}

theorem withEnv_eq_ok : withEnv env c = .ok c' ↔
    fromEnv some env "APP_HOST" c.app.host = .ok c'.app.host ∧
    fromEnv parseU16 env "APP_HTTP_PORT" c.app.httpPort = .ok c'.app.httpPort ∧
    fromEnv parseU16 env "APP_GRPC_PORT" c.app.grpcPort = .ok c'.app.grpcPort ∧
    fromEnv parseU8 env "DC_ID" c.app.dcId = .ok c'.app.dcId ∧
    fromEnv parseU8 env "WORKER_ID" c.app.workerId = .ok c'.app.workerId ∧
    fromEnv some env "DATABASE_URL" c.database.url = .ok c'.database.url ∧
    fromEnv (some ∘ splitComma) env "ETCD_ENDPOINTS" c.etcd.endpoints = .ok c'.etcd.endpoints ∧
    fromEnv (some ∘ LogLevel.fromStr) env "RUST_LOG" c.logging.level = .ok c'.logging.level ∧
    c' = { c with
      app := { c.app with
        host := c'.app.host, httpPort := c'.app.httpPort, grpcPort := c'.app.grpcPort
        dcId := c'.app.dcId, workerId := c'.app.workerId }
      database := { c.database with url := c'.database.url }
      etcd := { c.etcd with endpoints := c'.etcd.endpoints }
      logging := { c.logging with level := c'.logging.level } } := by
  unfold withEnv
  simp only [except_bind_eq_ok]
  constructor
  · rintro ⟨host, hhost, httpPort, hhttp, grpcPort, hgrpc, dcId, hdc, workerId, hworker, url, hurl,
      endpoints, hendpoints, level, hlevel, h⟩
    cases h
    exact ⟨hhost, hhttp, hgrpc, hdc, hworker, hurl, hendpoints, hlevel, rfl⟩
  · intro ⟨hhost, hhttp, hgrpc, hdc, hworker, hurl, hendpoints, hlevel, h⟩
    exact ⟨_, hhost, _, hhttp, _, hgrpc, _, hdc, _, hworker, _, hurl, _, hendpoints, _, hlevel,
      congrArg Except.ok h.symm⟩

/-- The numbers that are given can be read. -/
def Readable (env : Env) : Prop :=
  (env "APP_HTTP_PORT").map parseU16 ≠ some none ∧ (env "APP_GRPC_PORT").map parseU16 ≠ some none ∧
    (env "DC_ID").map parseU8 ≠ some none ∧ (env "WORKER_ID").map parseU8 ≠ some none

theorem readable_some {α : Type} {env : Env} {name : String} {f : String → α} :
    (env name).map (some ∘ f) ≠ some none := by
  cases env name with
  | none => simp
  | some text => simp

theorem withEnv_of_readable (h : Readable env) (c : FullConfig) : ∃ c', withEnv env c = .ok c' := by
  obtain ⟨hhttp, hgrpc, hdc, hworker⟩ := h
  unfold withEnv
  simp only [except_bind_eq_ok]
  obtain ⟨host, hhost⟩ := fromEnv_of_readable (readable_some (f := id)) c.app.host
  obtain ⟨httpPort, hhttp⟩ := fromEnv_of_readable hhttp c.app.httpPort
  obtain ⟨grpcPort, hgrpc⟩ := fromEnv_of_readable hgrpc c.app.grpcPort
  obtain ⟨dcId, hdc⟩ := fromEnv_of_readable hdc c.app.dcId
  obtain ⟨workerId, hworker⟩ := fromEnv_of_readable hworker c.app.workerId
  obtain ⟨url, hurl⟩ := fromEnv_of_readable (readable_some (f := id)) c.database.url
  obtain ⟨endpoints, hendpoints⟩ := fromEnv_of_readable readable_some c.etcd.endpoints
  obtain ⟨level, hlevel⟩ := fromEnv_of_readable readable_some c.logging.level
  exact ⟨_, _, hhost, _, hhttp, _, hgrpc, _, hdc, _, hworker, _, hurl, _, hendpoints, _, hlevel, rfl⟩

theorem readable_of_withEnv (h : withEnv env c = .ok c') : Readable env := by
  obtain ⟨-, hhttp, hgrpc, hdc, hworker, -⟩ := withEnv_eq_ok.mp h
  exact ⟨readable_of_fromEnv hhttp, readable_of_fromEnv hgrpc, readable_of_fromEnv hdc,
    readable_of_fromEnv hworker⟩

/-! ## The start-up -/

/-- A start-up takes the environment's settings over, or the defaults when they cannot be read. -/
theorem startup_cases {parsed : Except ConfigError FullConfig}
    (hfile : unwrapOrDefault env (loadFromFile parsed) = some file)
    (h : startup env parsed = some merged) : ∃ d, FullConfig.default env = some d ∧
      ((∃ other, withEnv env d = .ok other ∧ merged = file.merge other) ∨
        ¬ Readable env ∧ merged = file.merge d) := by
  simp only [startup, hfile, loadFromEnv, Option.bind_eq_bind, Option.bind_some,
    Option.bind_eq_some_iff, Option.map_eq_some_iff] at h
  obtain ⟨loaded, ⟨d, hd, rfl⟩, other, hother, hmerged⟩ := h
  refine ⟨d, hd, ?_⟩
  cases hwith : withEnv env d with
  | ok other' =>
    rw [hwith] at hother
    exact Or.inl ⟨other, by rw [← Option.some.inj hother], (Option.some.inj hmerged).symm⟩
  | error e =>
    rw [hwith] at hother
    have hsame : d = other := Option.some.inj (hd.symm.trans hother)
    refine Or.inr ⟨fun hread => ?_, hsame ▸ (Option.some.inj hmerged).symm⟩
    obtain ⟨c', hok⟩ := withEnv_of_readable hread d
    rw [hwith] at hok
    cases hok

theorem startup_eq {parsed : Except ConfigError FullConfig} {d : FullConfig}
    (hfile : loadFromFile parsed = .ok file) (hd : FullConfig.default env = some d)
    (hother : withEnv env d = .ok other) : startup env parsed = some (file.merge other) := by
  simp only [startup, hfile, unwrapOrDefault, loadFromEnv, hd, Option.map_some, hother,
    Option.bind_eq_bind, Option.bind_some, Option.pure_def]

theorem defaultUrl_ne {database : DatabaseSection} (hurl : env "DATABASE_URL" = none)
    (h : DatabaseSection.default env = some database) : database.url ≠ "" := by
  rw [DatabaseSection.default, hurl] at h
  dsimp only at h
  split at h
  · cases h
    decide
  · obtain ⟨password, -, rfl⟩ := Option.map_eq_some_iff.mp h
    intro hempty
    have := congrArg String.length hempty
    simp [DatabaseSection.ofPassword, String.length_append] at this

theorem defaultMax_eq {database : DatabaseSection} (h : DatabaseSection.default env = some database) :
    database.maxConnections =
      if env "DATABASE_URL" = none ∧ (env "NEBULA_TEST_MODE").isSome then 10 else 100 := by
  unfold DatabaseSection.default at h
  split at h
  · rename_i hgiven
    cases h
    rw [if_neg (by simp [hgiven])]
    rfl
  · rename_i hgiven
    split at h
    · rename_i htest
      cases h
      rw [if_pos ⟨hgiven, htest⟩]
      rfl
    · rename_i htest
      obtain ⟨password, -, rfl⟩ := Option.map_eq_some_iff.mp h
      rw [if_neg fun h => htest h.2]
      rfl

theorem url_kept_iff {database : DatabaseSection} (hdb : DatabaseSection.default env = some database)
    {url : String} (h : fromEnv some env "DATABASE_URL" database.url = .ok url) (fileUrl : String) :
    fromEnv some env "DATABASE_URL" fileUrl =
        .ok (if url ≠ "" ∧ url ≠ fileUrl then url else fileUrl) ↔
      (env "DATABASE_URL" = some "" → fileUrl = "") ∧
        (env "DATABASE_URL" = none → fileUrl = database.url) := by
  unfold fromEnv at h ⊢
  cases hgiven : env "DATABASE_URL" with
  | none =>
    rw [hgiven] at h
    obtain rfl : database.url = url := Except.ok.inj h
    have hne := defaultUrl_ne hgiven hdb
    by_cases hsame : database.url = fileUrl
    · simp [hsame]
    · simp [hne, hsame]
  | some given =>
    rw [hgiven] at h
    obtain rfl : given = url := Except.ok.inj h
    by_cases hempty : given = ""
    · simp [hempty, eq_comm]
    · by_cases hsame : given = fileUrl <;> simp [hempty, hsame]

theorem endpoints_kept_iff {endpoints : List String}
    (h : fromEnv (some ∘ splitComma) env "ETCD_ENDPOINTS" ["etcd:2379"] = .ok endpoints)
    (fileEndpoints : List String) :
    fromEnv (some ∘ splitComma) env "ETCD_ENDPOINTS" fileEndpoints =
        .ok (changed [] endpoints fileEndpoints) ↔
      (env "ETCD_ENDPOINTS" = none → fileEndpoints = ["etcd:2379"]) := by
  unfold fromEnv at h ⊢
  cases hgiven : env "ETCD_ENDPOINTS" with
  | none =>
    rw [hgiven] at h
    obtain rfl : ["etcd:2379"] = endpoints := Except.ok.inj h
    simp [changed]
  | some text =>
    rw [hgiven] at h
    obtain rfl : splitComma text = endpoints := Except.ok.inj h
    have hne : splitComma text ≠ [] := by simp [splitComma, List.splitOn_ne_nil]
    simp [changed, hne]

/-- What `merge` does to the settings that the environment does not give. -/
theorem merge_others_iff (file : FullConfig) {database : DatabaseSection}
    (hmax : other.database.maxConnections = database.maxConnections)
    (hauth : other.auth = .default env) (halg : other.algorithm = .defaults)
    (hmon : other.monitoring = .default) :
    (file.merge other = { file with
      app := { file.app with
        host := (file.merge other).app.host, httpPort := (file.merge other).app.httpPort
        grpcPort := (file.merge other).app.grpcPort, dcId := (file.merge other).app.dcId
        workerId := (file.merge other).app.workerId }
      database := { file.database with url := (file.merge other).database.url }
      etcd := { file.etcd with endpoints := (file.merge other).etcd.endpoints }
      logging := { file.logging with level := (file.merge other).logging.level } }) ↔
    (database.maxConnections ≠ 100 → file.database.maxConnections = database.maxConnections) ∧
      file.algorithm.segment = .default ∧ file.algorithm.snowflake = .default ∧
      file.algorithm.uuidV7 = ⟨true⟩ := by
  have hmaxIff : changed 100 database.maxConnections file.database.maxConnections =
      file.database.maxConnections ↔
      (database.maxConnections ≠ 100 → file.database.maxConnections = database.maxConnections) := by
    unfold changed
    split <;> simp_all [eq_comm]
  rw [← hmaxIff, eq_comm (a := file.algorithm.segment), eq_comm (a := file.algorithm.snowflake),
    eq_comm (a := file.algorithm.uuidV7)]
  simp [FullConfig.ext_iff, DatabaseSection.ext_iff, AlgorithmSection.ext_iff, merge, hmax, hauth, halg, hmon, AuthConfig.default,
    AlgorithmSection.defaults, MonitoringConfig.default, changed]

theorem merge_keeps_iff {d : FullConfig} (hd : FullConfig.default env = some d)
    (hother : withEnv env d = .ok other) :
    withEnv env file = .ok (file.merge other) ↔ KeepsSettings env file := by
  obtain ⟨database, hdb, rfl⟩ := Option.map_eq_some_iff.mp hd
  obtain ⟨hhost, hhttp, hgrpc, hdc, hworker, hurl, hendpoints, hlevel, hrest⟩ :=
    withEnv_eq_ok.mp hother
  have hmax : other.database.maxConnections = database.maxConnections :=
    congrArg (fun c => c.database.maxConnections) hrest
  have hothers := merge_others_iff file hmax (congrArg FullConfig.auth hrest)
    (congrArg FullConfig.algorithm hrest) (congrArg FullConfig.monitoring hrest)
  have htest : (database.maxConnections ≠ 100 →
      file.database.maxConnections = database.maxConnections) ↔
      (env "DATABASE_URL" = none → (env "NEBULA_TEST_MODE").isSome →
        file.database.maxConnections = 10) := by
    rw [defaultMax_eq hdb]
    by_cases htest : env "DATABASE_URL" = none ∧ (env "NEBULA_TEST_MODE").isSome
    · rw [if_pos htest]
      exact ⟨fun h _ _ => h (by decide), fun h _ => h htest.1 htest.2⟩
    · rw [if_neg htest]
      exact ⟨fun _ hurl hmode => absurd ⟨hurl, hmode⟩ htest, fun _ h => absurd rfl h⟩
  have hno : (env "DATABASE_URL" = none → file.database.url = database.url) ↔
      (env "DATABASE_URL" = none → ∀ database', DatabaseSection.default env = some database' →
        file.database.url = database'.url) := by
    refine imp_congr_right fun _ => ⟨fun h database' hdb' => ?_, fun h => h database hdb⟩
    rw [h, Option.some.inj (hdb.symm.trans hdb')]
  rw [withEnv_eq_ok, hothers, htest]
  have hhost' := fromEnv_eq_changed_iff hhost file.app.host
  have hhttp' := fromEnv_eq_changed_iff hhttp file.app.httpPort
  have hgrpc' := fromEnv_eq_changed_iff hgrpc file.app.grpcPort
  have hdc' := fromEnv_eq_changed_iff hdc file.app.dcId
  have hworker' := fromEnv_eq_changed_iff hworker file.app.workerId
  have hlevel' := fromEnv_eq_changed_iff hlevel file.logging.level
  have hurl' := (url_kept_iff hdb hurl file.database.url).trans (and_congr_right fun _ => hno)
  have hendpoints' := endpoints_kept_iff hendpoints file.etcd.endpoints
  constructor
  · intro ⟨h1, h2, h3, h4, h5, h6, h7, h8, h9, h10, h11, h12⟩
    exact ⟨hhost'.mp h1, hhttp'.mp h2, hgrpc'.mp h3, hdc'.mp h4, hworker'.mp h5, hlevel'.mp h8,
      (hurl'.mp h6).1, (hurl'.mp h6).2, h9, hendpoints'.mp h7, h10, h11, h12⟩
  · intro h
    exact ⟨hhost'.mpr h.host, hhttp'.mpr h.httpPort, hgrpc'.mpr h.grpcPort, hdc'.mpr h.dcId,
      hworker'.mpr h.workerId, hurl'.mpr ⟨h.emptyUrl, h.noUrl⟩, hendpoints'.mpr h.endpoints,
      hlevel'.mpr h.level, h.testMode, h.segment, h.snowflake, h.uuidV7⟩

theorem KeepsSettings.readable (h : KeepsSettings env file) : Readable env :=
  ⟨h.httpPort.readable, h.grpcPort.readable, h.dcId.readable, h.workerId.readable⟩

/-- **The start-up keeps what was set**, in the file or in the environment, exactly when `KeepsSettings`
holds of the two. -/
theorem startup_keeps_iff {parsed : Except ConfigError FullConfig}
    (hfile : loadFromFile parsed = .ok file) (h : startup env parsed = some merged) :
    withEnv env file = .ok merged ↔ KeepsSettings env file := by
  have hconfig : unwrapOrDefault env (loadFromFile parsed) = some file := by rw [hfile]; rfl
  obtain ⟨d, hd, ⟨other, hother, rfl⟩ | ⟨hread, rfl⟩⟩ := startup_cases hconfig h
  · exact merge_keeps_iff hd hother
  · exact ⟨fun hset => absurd (readable_of_withEnv hset) hread, fun hkeeps => absurd hkeeps.readable hread⟩

/-- Nothing but a database and the port is set. -/
def sparseEnv : Env
  | "DATABASE_URL" => some "postgres://db"
  | "APP_HTTP_PORT" => some "9000"
  | _ => none

def plainFile : FullConfig :=
  { withDatabase sparseEnv (.ofUrl "postgres://other") with
    app := { AppSection.default with dcId := 3 }
    logging := { LoggingConfig.default with level := .debug } }

theorem load_sparseEnv : FullConfig.default sparseEnv =
      some (withDatabase sparseEnv (.ofUrl "postgres://db")) ∧
    withEnv sparseEnv (withDatabase sparseEnv (.ofUrl "postgres://db")) =
      .ok { withDatabase sparseEnv (.ofUrl "postgres://db") with
        app := { AppSection.default with httpPort := 9000 } } := ⟨rfl, rfl⟩

theorem kept_of_none {α : Type} {parse : String → Option α} {name : String} {default setting : α}
    (h : env name = none) : Kept parse env name default setting where
  readable := by simp [h]
  distinct := by simp [h]

theorem plainFile_keeps : KeepsSettings sparseEnv plainFile where
  host := kept_of_none rfl
  httpPort := ⟨by decide, by decide⟩
  grpcPort := kept_of_none rfl
  dcId := kept_of_none rfl
  workerId := kept_of_none rfl
  level := kept_of_none rfl
  emptyUrl := by decide
  noUrl h := by cases h
  testMode h := by cases h
  endpoints _ := rfl
  segment := rfl
  snowflake := rfl
  uuidV7 := rfl

theorem loadFromFile_accepted {file : FullConfig} (h : file.core.Accepted) :
    loadFromFile (.ok file) = .ok file := by
  rw [loadFromFile]
  exact except_bind_eq_ok.mpr ⟨file, rfl, except_bind_eq_ok.mpr ⟨(), h, rfl⟩⟩

/-- The configuration that the service starts with. -/
def plainMerged : FullConfig := plainFile.merge
  { withDatabase sparseEnv (.ofUrl "postgres://db") with
    app := { AppSection.default with httpPort := 9000 } }

theorem load_plain : loadFromFile (.ok plainFile) = .ok plainFile :=
  loadFromFile_accepted (show plainFile.core.Accepted by decide +kernel)

theorem startup_plain : startup sparseEnv (.ok plainFile) = some plainMerged :=
  startup_eq load_plain load_sparseEnv.1 load_sparseEnv.2

theorem startup_keeps_plain : withEnv sparseEnv plainFile = .ok plainMerged :=
  (startup_keeps_iff load_plain startup_plain).mpr plainFile_keeps

/-- The file asks for five bits for the datacenter, five for the worker and twelve for the sequence. -/
def layoutFile : FullConfig :=
  { plainFile with algorithm := { AlgorithmSection.defaults with snowflake := ⟨5, 5, 12, 1000⟩ } }

/-- The service starts with the default layout. -/
theorem startup_loses_layout : loadFromFile (.ok layoutFile) = .ok layoutFile ∧
    ∃ merged, startup sparseEnv (.ok layoutFile) = some merged ∧
      merged.algorithm.snowflake ≠ layoutFile.algorithm.snowflake ∧
      withEnv sparseEnv layoutFile ≠ .ok merged := by
  have hfile := loadFromFile_accepted (show layoutFile.core.Accepted by decide +kernel)
  have hstart := startup_eq hfile load_sparseEnv.1 load_sparseEnv.2
  have hlost : ((layoutFile.merge
      { withDatabase sparseEnv (.ofUrl "postgres://db") with
        app := { AppSection.default with httpPort := 9000 } }).algorithm.snowflake) ≠
      layoutFile.algorithm.snowflake := by decide
  refine ⟨hfile, _, hstart, hlost, fun hset => hlost ?_⟩
  obtain ⟨-, -, -, -, -, -, -, -, hrest⟩ := withEnv_eq_ok.mp hset
  exact congrArg (fun c => c.algorithm.snowflake) hrest

/-! ## When the service starts with a valid configuration -/

/-- No port and no datacenter from the environment is out of range, and the ten connections
of the test mode are enough for the file. -/
structure StartsValid (env : Env) (config : FullConfig) : Prop where
  httpPort : Readable env → ∀ v, (env "APP_HTTP_PORT").map parseU16 = some (some v) → v ≠ 0
  grpcPort : Readable env → ∀ v, (env "APP_GRPC_PORT").map parseU16 = some (some v) → v ≠ 0
  dcId : Readable env → ∀ v, (env "DC_ID").map parseU8 = some (some v) → v ≤ 31
  testMode : env "DATABASE_URL" = none → (env "NEBULA_TEST_MODE").isSome →
    config.database.minConnections ≤ 10

theorem fromEnv_forall {α : Type} {parse : String → Option α} {name : String} {default value : α}
    {P : α → Prop} (hP : P default) (h : fromEnv parse env name default = .ok value) :
    P value ↔ ∀ v, (env name).map parse = some (some v) → P v := by
  unfold fromEnv at h
  cases hgiven : (env name).map parse with
  | none =>
    rw [hgiven] at h
    obtain rfl : default = value := Except.ok.inj h
    exact ⟨fun _ v hv => (by cases hv), fun _ => hP⟩
  | some parsed =>
    cases parsed with
    | none => exact absurd hgiven (readable_of_fromEnv h)
    | some v =>
      rw [hgiven] at h
      obtain rfl : v = value := Except.ok.inj h
      exact ⟨fun hv v' hv' => Option.some.inj (Option.some.inj hv') ▸ hv, fun h => h v rfl⟩

theorem changed_iff {α : Type} [DecidableEq α] {default value setting : α} {P : α → Prop}
    (hP : P default) (hsetting : P setting) : P (changed default value setting) ↔ P value := by
  unfold changed
  split
  · exact Iff.rfl
  · rename_i hsame
    rw [not_not] at hsame
    exact ⟨fun _ => hsame ▸ hP, fun _ => hsetting⟩

theorem merge_accepted_iff {config : FullConfig} {database : DatabaseSection}
    (hdb : DatabaseSection.default env = some database) (hconfig : config.core.Accepted)
    (hmax : other.database.maxConnections = database.maxConnections)
    (halg : other.algorithm = .defaults) :
    (config.merge other).core.Accepted ↔
      other.app.httpPort ≠ 0 ∧ other.app.grpcPort ≠ 0 ∧ other.app.dcId ≤ 31 ∧
        (env "DATABASE_URL" = none → (env "NEBULA_TEST_MODE").isSome →
          config.database.minConnections ≤ 10) := by
  obtain ⟨hhttp, hgrpc, hdc, hpos, hmin, htimeout, hrate, halgorithm, -, -, -, -, -, hbatch⟩ :=
    Config.accepted_iff.mp hconfig
  have hhttp' : (config.merge other).core.app.httpPort ≠ 0 ↔ other.app.httpPort ≠ 0 :=
    changed_iff (P := (· ≠ 0)) (by decide) hhttp
  have hgrpc' : (config.merge other).core.app.grpcPort ≠ 0 ↔ other.app.grpcPort ≠ 0 :=
    changed_iff (P := (· ≠ 0)) (by decide) hgrpc
  have hdc' : (config.merge other).core.app.dcId ≤ 31 ↔ other.app.dcId ≤ 31 :=
    changed_iff (P := (· ≤ 31)) (by decide) hdc
  have hmax' : (config.merge other).core.database.maxConnections =
      if env "DATABASE_URL" = none ∧ (env "NEBULA_TEST_MODE").isSome then 10
      else config.database.maxConnections := by
    change changed 100 other.database.maxConnections config.database.maxConnections = _
    rw [hmax, defaultMax_eq hdb]
    split <;> rfl
  have halg' : (config.merge other).core.algorithm =
      { config.core.algorithm with segment := .default, snowflake := .default } := by
    change AlgorithmConfig.mk (changed "segment" other.algorithm.default config.algorithm.default)
      other.algorithm.segment other.algorithm.snowflake = _
    rw [halg]
    rfl
  rw [Config.accepted_iff, hhttp', hgrpc', hdc', hmax', halg']
  have hpool : ((if env "DATABASE_URL" = none ∧ (env "NEBULA_TEST_MODE").isSome then 10
        else config.database.maxConnections) ≠ 0 ∧
      config.database.minConnections ≤
        (if env "DATABASE_URL" = none ∧ (env "NEBULA_TEST_MODE").isSome then 10
          else config.database.maxConnections)) ↔
      (env "DATABASE_URL" = none → (env "NEBULA_TEST_MODE").isSome →
        config.database.minConnections ≤ 10) := by
    split
    · rename_i htest
      exact ⟨fun h _ _ => h.2, fun h => ⟨by decide, h htest.1 htest.2⟩⟩
    · rename_i htest
      exact ⟨fun _ hurl hmode => absurd ⟨hurl, hmode⟩ htest, fun _ => ⟨hpos, hmin⟩⟩
  constructor
  · intro ⟨h1, h2, h3, h4, h5, _⟩
    exact ⟨h1, h2, h3, hpool.mp ⟨h4, h5⟩⟩
  · intro ⟨h1, h2, h3, h4⟩
    have hdefault : Config.default.Accepted := by decide +kernel
    obtain ⟨-, -, -, -, -, -, -, -, hsteps, hbase, hthreshold, hbits, hdrift, -⟩ :=
      Config.accepted_iff.mp hdefault
    exact ⟨h1, h2, h3, (hpool.mpr h4).1, (hpool.mpr h4).2, htimeout, hrate, halgorithm, hsteps,
      hbase, hthreshold, hbits, hdrift, hbatch⟩

theorem startup_accepted_iff {parsed : Except ConfigError FullConfig} {config : FullConfig}
    (hconfig : unwrapOrDefault env (loadFromFile parsed) = some config)
    (h : startup env parsed = some merged) : merged.core.Accepted ↔ StartsValid env config := by
  have happ : AppSection.default.httpPort ≠ 0 ∧ AppSection.default.grpcPort ≠ 0 ∧
      AppSection.default.dcId ≤ 31 := by decide
  have hvalid : config.core.Accepted := by
    cases hload : loadFromFile parsed with
    | error e =>
      rw [hload] at hconfig
      exact default_accepted hconfig
    | ok c =>
      rw [hload] at hconfig
      obtain ⟨c', -, hc'⟩ := except_bind_eq_ok.mp hload
      obtain ⟨u, hvalidate, hsame⟩ := except_bind_eq_ok.mp hc'
      rw [← Option.some.inj hconfig, ← Except.ok.inj hsame]
      exact hvalidate
  obtain ⟨d, hd, hcases⟩ := startup_cases hconfig h
  obtain ⟨database, hdb, rfl⟩ := Option.map_eq_some_iff.mp hd
  obtain ⟨other, hother, rfl⟩ | ⟨hread, rfl⟩ := hcases
  · obtain ⟨-, hhttp, hgrpc, hdc, -, -, -, -, hrest⟩ := withEnv_eq_ok.mp hother
    have hread := readable_of_withEnv hother
    have hmax : other.database.maxConnections = database.maxConnections :=
      congrArg (fun c => c.database.maxConnections) hrest
    rw [merge_accepted_iff hdb hvalid hmax (congrArg FullConfig.algorithm hrest),
      fromEnv_forall (P := (· ≠ 0)) happ.1 hhttp,
      fromEnv_forall (P := (· ≠ 0)) happ.2.1 hgrpc,
      fromEnv_forall (P := (· ≤ 31)) happ.2.2 hdc]
    exact ⟨fun ⟨h1, h2, h3, h4⟩ => ⟨fun _ => h1, fun _ => h2, fun _ => h3, h4⟩,
      fun h => ⟨h.httpPort hread, h.grpcPort hread, h.dcId hread, h.testMode⟩⟩
  · rw [merge_accepted_iff hdb hvalid rfl rfl]
    exact ⟨fun h => ⟨fun hr => absurd hr hread, fun hr => absurd hr hread,
      fun hr => absurd hr hread, h.2.2.2⟩, fun h => ⟨happ.1, happ.2.1, happ.2.2, h.testMode⟩⟩

end FullConfig

end NebulaId
