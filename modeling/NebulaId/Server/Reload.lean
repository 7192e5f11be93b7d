import NebulaId.Server.HotReload

/-!
# Start-up against reload (`main.rs`, `core/config/app_config.rs`, `server/config/hot_reload.rs`)

`main` loads the file of its command line: it puts the environment in for the placeholders, parses
and validates, and merges the environment's settings in. A reload reads the default path, parses the
text as it is and installs the result. The parser is a parameter, with the name of its source as
its first argument.

* `expandChars_of_plain`: a text without placeholders stays as it is.
* `merge_eq_iff`: what the start-up makes of a file, setting by setting.
* `stays_iff`: a reload after the start-up changes nothing and reports the truth if and only if the
  source is `Settled`.
* `reload_loses_port`: a port from the environment is lost with the first reload.
-/

namespace NebulaId

open Machine

/-! ## Placeholders -/

/-- A match of the pattern with this name; without a name there is no match. -/
def placeholder (env : Env) (name : List Char) : List Char :=
  let written := '$' :: '{' :: (name ++ ['}'])
  if name.isEmpty then written
  else ((env (String.ofList name)).map String.toList).getD written

/-- Replaces the matches of a dollar sign and a name in braces. The first argument is the name read
so far, after an opening brace. -/
def expandChars (env : Env) : Option (List Char) → List Char → List Char
  | none, '$' :: '{' :: rest => expandChars env (some []) rest
  | none, c :: rest => c :: expandChars env none rest
  | none, [] => []
  | some name, c :: rest =>
    if c = '}' then placeholder env name ++ expandChars env none rest
    else expandChars env (some (name ++ [c])) rest
  | some name, [] => '$' :: '{' :: name

def expandEnvVars (env : Env) (content : String) : String :=
  String.ofList (expandChars env none content.toList)

theorem expandChars_of_plain (env : Env) {l : List Char} (h : '$' ∉ l) :
    expandChars env none l = l := by
  induction l with
  | nil => rfl
  | cons c l ih =>
    obtain ⟨hc, hl⟩ := not_or.mp (fun hin => h (List.mem_cons.mpr hin))
    rw [expandChars]
    · rw [ih hl]
    · rintro rest rfl
      exact absurd rfl hc

theorem expandEnvVars_of_plain (env : Env) {content : String} (h : '$' ∉ content.toList) :
    expandEnvVars env content = content := by
  rw [expandEnvVars, expandChars_of_plain env h, String.ofList_toList]

/-! ## The start-up and the reload -/

/-- What is at a path. -/
inductive File where
  | missing
  | unreadable (e : String)
  | text (content : String)

/-- What the configuration comes from. -/
structure ConfigSource where
  args : List String
  env : Env
  files : String → File
  parse : String → String → Except ConfigError FullConfig

namespace ConfigSource

def defaultConfigPath : String := "config/config.toml"

def configPath (s : ConfigSource) : String :=
  match s.args with
  | _ :: "--config" :: path :: _ => path
  | _ => defaultConfigPath

def readToString (s : ConfigSource) (path : String) : Except ConfigError String :=
  match s.files path with
  | .missing => .error (.fileError "No such file or directory (os error 2)")
  | .unreadable e => .error (.fileError e)
  | .text content => .ok content

/-- What the file of the command line parses to, with the placeholders replaced. -/
def parsed (s : ConfigSource) : Except ConfigError FullConfig := do
  let content ← s.readToString s.configPath
  s.parse "config" (expandEnvVars s.env content)

def startup (s : ConfigSource) : Option FullConfig := FullConfig.startup s.env s.parsed

/-- What a reload finds. -/
def reloaded (s : ConfigSource) : Except ConfigError FullConfig := do
  let content ← s.readToString defaultConfigPath
  s.parse "hot_reload" content

/-- `reload_config` of `HotReloadConfig`, for the configuration in force. -/
def reloadConfig (s : ConfigSource) (config : FullConfig) : Bool × FullConfig :=
  match s.reloaded with
  | .error _ => (false, config)
  | .ok newConfig => (true, newConfig)

/-- `reload_config` of the management API. -/
def manageReload (s : ConfigSource) (config : FullConfig) : UpdateConfigResponse × FullConfig :=
  let after := (s.reloadConfig config).2
  (⟨true, "Configuration reloaded from file successfully", some after⟩, after)

/-- The first tick of `watch`, with what its reload reports, if there is one. -/
def watchTick (s : ConfigSource) (config : FullConfig) : Option Bool × FullConfig :=
  match s.files defaultConfigPath with
  | .missing => (none, config)
  | .unreadable _ | .text _ => ((s.reloadConfig config).1, (s.reloadConfig config).2)

theorem manageReload_of_ok {s : ConfigSource} {config newConfig : FullConfig}
    (h : s.reloaded = .ok newConfig) : (s.manageReload config).2 = newConfig := by
  rw [manageReload, reloadConfig, h]

/-- The call of the management API, as a task of the service, leaves the same behind. -/
theorem reaches_manageReload (s : ConfigSource) (manager : ConfigManager)
    (m : ConfigManager.Memory) : ∃ m', Reaches manager.step Free ⟨m, []⟩
      ⟨m', [.finished (some (s.manageReload m.config).1)]⟩ ∧
        m'.config = (s.manageReload m.config).2 := by
  have hcalled : Reaches manager.step Free ⟨m, []⟩ ⟨m, [.called (.reloadConfig s.reloaded)]⟩ :=
    ConfigManager.reaches_called m _
  unfold manageReload reloadConfig
  cases hreloaded : s.reloaded with
  | error e =>
    rw [hreloaded] at hcalled
    have hreload : manager.advance m (.called (.reloadConfig (.error e))) = some (m, .auditing) := rfl
    exact ⟨m, hcalled.trans ((ConfigManager.reaches_advance hreload).trans
      (ConfigManager.reaches_advance rfl)), rfl⟩
  | ok config =>
    rw [hreloaded] at hcalled
    have hreload : manager.advance m (.called (.reloadConfig (.ok config))) =
        some (ConfigManager.install m config, .auditing) := rfl
    exact ⟨ConfigManager.install m config, hcalled.trans
      ((ConfigManager.reaches_advance hreload).trans (ConfigManager.reaches_advance rfl)), rfl⟩

/-- The file can be used, and the configuration is what the start-up makes of it. -/
def Describes (s : ConfigSource) (config : FullConfig) : Prop :=
  (∃ file, FullConfig.loadFromFile s.parsed = .ok file) ∧ s.startup = some config

/-- A reload leaves the configuration of the start-up in force, and reports a success exactly when
the configuration in force is the one described. -/
structure Stays (s : ConfigSource) (config : FullConfig) : Prop where
  managed : (s.manageReload config).2 = config
  response : (s.manageReload config).1.success = true ↔ s.Describes (s.manageReload config).2
  watched : (s.watchTick config).2 = config
  report : ∀ success, (s.watchTick config).1 = some success →
    (success = true ↔ s.Describes (s.watchTick config).2)

end ConfigSource

namespace FullConfig

variable {env : Env} {c file other merged : FullConfig}

instance : Decidable (Readable env) := inferInstanceAs (Decidable (_ ∧ _))

/-- The value that a variable gives; nothing is given unless all can be read. -/
def given {α : Type} (parse : String → Option α) (env : Env) (name : String) (default : α) : α :=
  if Readable env then ((env name).bind parse).getD default else default

def givenUrl (env : Env) : String := ((DatabaseSection.default env).map DatabaseSection.url).getD ""

/-- `c` has the settings of the file and, where it gives some, those of the environment. -/
structure Merges (env : Env) (file c : FullConfig) : Prop where
  host : c.app.host = changed "0.0.0.0" (given some env "APP_HOST" "0.0.0.0") file.app.host
  httpPort : c.app.httpPort = changed 8080 (given parseU16 env "APP_HTTP_PORT" 8080) file.app.httpPort
  grpcPort : c.app.grpcPort = changed 9091 (given parseU16 env "APP_GRPC_PORT" 9091) file.app.grpcPort
  dcId : c.app.dcId = changed 0 (given parseU8 env "DC_ID" 0) file.app.dcId
  workerId : c.app.workerId = changed 0 (given parseU8 env "WORKER_ID" 0) file.app.workerId
  url : c.database.url = changed "" (givenUrl env) file.database.url
  maxConnections : c.database.maxConnections =
    if env "DATABASE_URL" = none ∧ (env "NEBULA_TEST_MODE").isSome then 10
    else file.database.maxConnections
  endpoints : c.etcd.endpoints = given (some ∘ splitComma) env "ETCD_ENDPOINTS" ["etcd:2379"]
  level : c.logging.level =
    changed .info (given (some ∘ LogLevel.fromStr) env "RUST_LOG" .info) file.logging.level
  segment : c.algorithm.segment = .default
  snowflake : c.algorithm.snowflake = .default
  uuidV7 : c.algorithm.uuidV7 = ⟨true⟩
  others : c = { file with
    app := { file.app with
      host := c.app.host, httpPort := c.app.httpPort, grpcPort := c.app.grpcPort
      dcId := c.app.dcId, workerId := c.app.workerId }
    database := { file.database with
      url := c.database.url, maxConnections := c.database.maxConnections }
    etcd := { file.etcd with endpoints := c.etcd.endpoints }
    algorithm := { file.algorithm with
      segment := c.algorithm.segment, snowflake := c.algorithm.snowflake
      uuidV7 := c.algorithm.uuidV7 }
    logging := { file.logging with level := c.logging.level } }

theorem given_of_fromEnv {α : Type} {parse : String → Option α} {name : String} {default value : α}
    (hread : Readable env) (h : fromEnv parse env name default = .ok value) :
    given parse env name default = value := by
  rw [given, if_pos hread]
  unfold fromEnv at h
  cases hname : env name with
  | none =>
    rw [hname] at h
    exact Except.ok.inj h
  | some text =>
    rw [hname] at h
    cases hparse : parse text with
    | none =>
      simp only [Option.map_some, hparse] at h
      cases h
    | some given =>
      simp only [Option.map_some, hparse] at h
      simpa [hparse] using h

/-- What `merge` takes over from the environment, setting by setting. -/
structure Loaded (env : Env) (other : FullConfig) : Prop where
  host : given some env "APP_HOST" "0.0.0.0" = other.app.host
  httpPort : given parseU16 env "APP_HTTP_PORT" 8080 = other.app.httpPort
  grpcPort : given parseU16 env "APP_GRPC_PORT" 9091 = other.app.grpcPort
  dcId : given parseU8 env "DC_ID" 0 = other.app.dcId
  workerId : given parseU8 env "WORKER_ID" 0 = other.app.workerId
  url : givenUrl env = other.database.url
  maxConnections : other.database.maxConnections =
    if env "DATABASE_URL" = none ∧ (env "NEBULA_TEST_MODE").isSome then 10 else 100
  endpoints : given (some ∘ splitComma) env "ETCD_ENDPOINTS" ["etcd:2379"] = other.etcd.endpoints
  level : given (some ∘ LogLevel.fromStr) env "RUST_LOG" .info = other.logging.level
  auth : other.auth = .default env
  algorithm : other.algorithm = .defaults
  monitoring : other.monitoring = .default

theorem loaded_of_readable {d : FullConfig} (hd : FullConfig.default env = some d)
    (hother : withEnv env d = .ok other) : Loaded env other := by
  obtain ⟨database, hdb, rfl⟩ := Option.map_eq_some_iff.mp hd
  have hread := readable_of_withEnv hother
  obtain ⟨hhost, hhttp, hgrpc, hdc, hworker, hurl, hendpoints, hlevel, hrest⟩ :=
    withEnv_eq_ok.mp hother
  exact {
    host := given_of_fromEnv hread hhost
    httpPort := given_of_fromEnv hread hhttp
    grpcPort := given_of_fromEnv hread hgrpc
    dcId := given_of_fromEnv hread hdc
    workerId := given_of_fromEnv hread hworker
    url := by
      have hdefault : givenUrl env = database.url := by rw [givenUrl, hdb]; rfl
      rw [hdefault]
      unfold fromEnv at hurl
      cases hname : env "DATABASE_URL" with
      | none =>
        rw [hname] at hurl
        exact Except.ok.inj hurl
      | some url =>
        rw [hname] at hurl
        rw [DatabaseSection.default, hname] at hdb
        rw [← Option.some.inj hdb]
        exact Except.ok.inj hurl
    maxConnections :=
      (congrArg (fun c => c.database.maxConnections) hrest).trans (defaultMax_eq hdb)
    endpoints := given_of_fromEnv hread hendpoints
    level := given_of_fromEnv hread hlevel
    auth := congrArg FullConfig.auth hrest
    algorithm := congrArg FullConfig.algorithm hrest
    monitoring := congrArg FullConfig.monitoring hrest }

theorem loaded_of_not_readable {d : FullConfig} (hd : FullConfig.default env = some d)
    (hread : ¬ Readable env) : Loaded env d := by
  obtain ⟨database, hdb, rfl⟩ := Option.map_eq_some_iff.mp hd
  have hnone : ∀ {α : Type} (parse : String → Option α) (name : String) (default : α),
      given parse env name default = default := fun _ _ _ => if_neg hread
  exact {
    host := hnone _ _ _
    httpPort := hnone _ _ _
    grpcPort := hnone _ _ _
    dcId := hnone _ _ _
    workerId := hnone _ _ _
    url := by rw [givenUrl, hdb]; rfl
    maxConnections := defaultMax_eq hdb
    endpoints := hnone _ _ _
    level := hnone _ _ _
    auth := rfl
    algorithm := rfl
    monitoring := rfl }

theorem changed_empty_url (other self : String) :
    (if other ≠ "" ∧ other ≠ self then other else self) = changed "" other self := by
  unfold changed
  by_cases hempty : other = ""
  · simp [hempty]
  · by_cases hsame : other = self
    · simp [hsame]
    · simp [hempty, hsame]

theorem splitComma_ne_nil (s : String) : splitComma s ≠ [] := by
  simp [splitComma, List.splitOn_ne_nil]

theorem Loaded.endpoints_ne_nil (h : Loaded env other) : other.etcd.endpoints ≠ [] := by
  rw [← h.endpoints, given]
  split
  · cases env "ETCD_ENDPOINTS" with
    | none => exact List.cons_ne_nil _ _
    | some text => exact splitComma_ne_nil text
  · exact List.cons_ne_nil _ _

/-- **What the start-up makes of a file**, setting by setting. -/
theorem merge_eq_iff (h : Loaded env other) : c = file.merge other ↔ Merges env file c := by
  have hendpoints : changed [] other.etcd.endpoints file.etcd.endpoints = other.etcd.endpoints :=
    if_pos h.endpoints_ne_nil
  have hmax : changed 100 other.database.maxConnections file.database.maxConnections =
      if env "DATABASE_URL" = none ∧ (env "NEBULA_TEST_MODE").isSome then 10
      else file.database.maxConnections := by
    rw [h.maxConnections]
    split
    · rfl
    · rfl
  have hmerge : file.merge other = { file with
      app := { file.app with
        host := changed "0.0.0.0" other.app.host file.app.host
        httpPort := changed 8080 other.app.httpPort file.app.httpPort
        grpcPort := changed 9091 other.app.grpcPort file.app.grpcPort
        dcId := changed 0 other.app.dcId file.app.dcId
        workerId := changed 0 other.app.workerId file.app.workerId }
      database := { file.database with
        url := changed "" other.database.url file.database.url
        maxConnections := if env "DATABASE_URL" = none ∧ (env "NEBULA_TEST_MODE").isSome then 10
          else file.database.maxConnections }
      etcd := { file.etcd with endpoints := other.etcd.endpoints }
      algorithm := { file.algorithm with segment := .default, snowflake := .default, uuidV7 := ⟨true⟩ }
      logging := { file.logging with
        level := changed .info other.logging.level file.logging.level } } := by
    rw [merge, hendpoints, hmax, changed_empty_url, h.auth, h.algorithm, h.monitoring]
    rfl
  constructor
  · intro hc
    rw [hmerge] at hc
    subst hc
    exact {
      host := by rw [h.host], httpPort := by rw [h.httpPort], grpcPort := by rw [h.grpcPort]
      dcId := by rw [h.dcId], workerId := by rw [h.workerId], url := by rw [h.url]
      maxConnections := rfl, endpoints := h.endpoints.symm, level := by rw [h.level]
      segment := rfl, snowflake := rfl, uuidV7 := rfl, others := rfl }
  · intro hc
    rw [hmerge, ← h.host, ← h.httpPort, ← h.grpcPort, ← h.dcId, ← h.workerId, ← h.url, ← h.endpoints,
      ← h.level, ← hc.host, ← hc.httpPort, ← hc.grpcPort, ← hc.dcId, ← hc.workerId, ← hc.url,
      ← hc.maxConnections, ← hc.endpoints, ← hc.level, ← hc.segment, ← hc.snowflake, ← hc.uuidV7]
    exact hc.others

end FullConfig

namespace ConfigSource

variable {s : ConfigSource} {merged : FullConfig}

/-- The file of the command line can be used. If there is a file at the default path, its text as
it is parses; and what it parses to is what the start-up makes of the file. -/
def Settled (s : ConfigSource) : Prop :=
  ∃ file, FullConfig.loadFromFile s.parsed = .ok file ∧
    (s.files defaultConfigPath ≠ .missing → ∃ c, s.reloaded = .ok c) ∧
      ∀ c, s.reloaded = .ok c → FullConfig.Merges s.env file c

theorem startup_merge {file : FullConfig} (hfile : FullConfig.loadFromFile s.parsed = .ok file)
    (h : s.startup = some merged) :
    ∃ other, FullConfig.Loaded s.env other ∧ merged = file.merge other := by
  have hconfig : FullConfig.unwrapOrDefault s.env (FullConfig.loadFromFile s.parsed) = some file := by
    rw [hfile]
    rfl
  obtain ⟨d, hd, ⟨other, hother, hmerged⟩ | ⟨hread, hmerged⟩⟩ := FullConfig.startup_cases hconfig h
  · exact ⟨other, FullConfig.loaded_of_readable hd hother, hmerged⟩
  · exact ⟨d, FullConfig.loaded_of_not_readable hd hread, hmerged⟩

/-- The configuration in force after a reload. -/
theorem reloadConfig_stays_iff : (s.reloadConfig merged).2 = merged ↔
    ∀ c, s.reloaded = .ok c → c = merged := by
  unfold reloadConfig
  cases s.reloaded with
  | error e => exact iff_of_true rfl fun c hc => (by cases hc)
  | ok config => exact ⟨fun hsame c hc => (Except.ok.inj hc).symm.trans hsame, fun hall => hall config rfl⟩

theorem reloadConfig_fst_iff : (s.reloadConfig merged).1 = true ↔ ∃ c, s.reloaded = .ok c := by
  unfold reloadConfig
  cases s.reloaded with
  | error e => exact iff_of_false Bool.false_ne_true (by rintro ⟨c, ⟨⟩⟩)
  | ok config => exact iff_of_true rfl ⟨config, rfl⟩

/-- The tick reloads when there is a file. -/
theorem watchTick_of_file (hfile : s.files defaultConfigPath ≠ .missing) :
    s.watchTick merged = (some (s.reloadConfig merged).1, (s.reloadConfig merged).2) := by
  unfold watchTick
  split
  · exact absurd ‹_› hfile
  · rfl
  · rfl

/-- **Reloading an unchanged file changes nothing**, and is reported truly, exactly when the source
is settled. -/
theorem stays_iff (s : ConfigSource) {merged : FullConfig} (h : s.startup = some merged) :
    s.Stays merged ↔ s.Settled := by
  constructor
  · intro hstays
    have hsame : (s.reloadConfig merged).2 = merged := hstays.managed
    have hresponse := hstays.response.mp rfl
    rw [hstays.managed] at hresponse
    obtain ⟨⟨file, hfile⟩, -⟩ := hresponse
    obtain ⟨other, hloaded, hmerged⟩ := startup_merge hfile h
    refine ⟨file, hfile, fun hexists => ?_, fun c hc => ?_⟩
    · have hreport := hstays.report (s.reloadConfig merged).1
      rw [watchTick_of_file hexists, hsame] at hreport
      exact reloadConfig_fst_iff.mp ((hreport rfl).mpr ⟨⟨file, hfile⟩, h⟩)
    · exact (FullConfig.merge_eq_iff hloaded).mp
        ((reloadConfig_stays_iff.mp hsame c hc).trans hmerged)
  · rintro ⟨file, hfile, hexists, hmerges⟩
    obtain ⟨other, hloaded, hmerged⟩ := startup_merge hfile h
    have hsame : (s.reloadConfig merged).2 = merged := reloadConfig_stays_iff.mpr fun c hc =>
      ((FullConfig.merge_eq_iff hloaded).mpr (hmerges c hc)).trans hmerged.symm
    have hdescribes : s.Describes merged := ⟨⟨file, hfile⟩, h⟩
    have hresponse : s.Describes (s.manageReload merged).2 := by
      change s.Describes (s.reloadConfig merged).2
      rwa [hsame]
    by_cases hmissing : s.files defaultConfigPath = .missing
    · have htick : s.watchTick merged = (none, merged) := by
        unfold watchTick
        rw [hmissing]
      refine ⟨hsame, iff_of_true rfl hresponse, by rw [htick], fun success hsuccess => ?_⟩
      rw [htick] at hsuccess
      cases hsuccess
    · have htick := @watchTick_of_file s merged hmissing
      refine ⟨hsame, iff_of_true rfl hresponse, by rw [htick]; exact hsame, ?_⟩
      intro success hsuccess
      rw [htick] at hsuccess ⊢
      obtain rfl := Option.some.inj hsuccess
      exact iff_of_true (reloadConfig_fst_iff.mpr (hexists hmissing)) hresponse

/-! ## Two sources -/

/-- A file without placeholders. -/
def plainText : String := "[app]
name = 'nebula-id'
host = '0.0.0.0'
http_port = 8080
grpc_port = 9091
dc_id = 0
worker_id = 0
[database]
engine = 'postgresql'
host = 'localhost'
port = 5432
username = 'idgen'
password = ''
database = 'idgen'
url = 'postgres://db'
max_connections = 100
min_connections = 10
acquire_timeout_seconds = 30
idle_timeout_seconds = 300
[etcd]
endpoints = ['etcd:2379']
connect_timeout_ms = 5000
watch_timeout_ms = 5000
[auth]
enabled = true
cache_ttl_seconds = 300
[algorithm]
default = 'segment'
segment.base_step = 1000
segment.min_step = 500
segment.max_step = 100000
segment.switch_threshold = 0.1
snowflake.datacenter_id_bits = 3
snowflake.worker_id_bits = 8
snowflake.sequence_bits = 10
snowflake.clock_drift_threshold_ms = 1000
uuid_v7.enabled = true
[monitoring]
metrics_enabled = true
metrics_path = '/metrics'
tracing_enabled = false
otlp_endpoint = ''
[logging]
level = 'info'
format = 'json'
include_location = true
[rate_limit]
enabled = true
default_rps = 10000
burst_size = 100
[tls]
enabled = false
cert_path = ''
key_path = ''
http_enabled = false
grpc_enabled = false
[batch_generate]
max_batch_size = 100
"

/-- What the text parses to, when the environment gives no more than a database. -/
def plainConfig : FullConfig :=
  { FullConfig.withDatabase FullConfig.sparseEnv (.ofUrl "postgres://db") with
    tls := { TlsConfig.default with alpnProtocols := [] } }

/-- The text lies at the default path, and nothing else anywhere. -/
def plainSource (env : Env) : ConfigSource where
  args := ["nebula-id"]
  env := env
  files path := if path = defaultConfigPath then .text plainText else .missing
  parse _ content :=
    if content = plainText then .ok plainConfig else .error (.invalidValue "expected a table")

set_option maxRecDepth 8000 in
theorem plainText_plain : '$' ∉ plainText.toList := by
  unfold plainText
  exact not_mem_ofList (by decide +kernel)

theorem parse_plain (env : Env) (source : String) :
    (plainSource env).parse source plainText = .ok plainConfig := by
  simp only [plainSource, ↓reduceIte]

theorem loadFromFile_plain (env : Env) :
    FullConfig.loadFromFile (plainSource env).parsed = .ok plainConfig := by
  have hparsed : (plainSource env).parsed = .ok plainConfig := by
    refine except_bind_eq_ok.mpr ⟨plainText, rfl, ?_⟩
    rw [expandEnvVars_of_plain _ plainText_plain]
    exact parse_plain env "config"
  rw [hparsed]
  exact FullConfig.loadFromFile_accepted (show plainConfig.core.Accepted by decide +kernel)

theorem reloaded_plain (env : Env) : (plainSource env).reloaded = .ok plainConfig :=
  except_bind_eq_ok.mpr ⟨plainText, rfl, parse_plain env "hot_reload"⟩

/-- Nothing but the database is set. -/
def databaseEnv : Env
  | "DATABASE_URL" => some "postgres://db"
  | _ => none

theorem startup_database : (plainSource databaseEnv).startup =
    some (plainConfig.merge (FullConfig.withDatabase databaseEnv (.ofUrl "postgres://db"))) :=
  FullConfig.startup_eq (loadFromFile_plain databaseEnv) rfl rfl

theorem stays_plain : (plainSource databaseEnv).Stays
    (plainConfig.merge (FullConfig.withDatabase databaseEnv (.ofUrl "postgres://db"))) := by
  refine (stays_iff (plainSource databaseEnv) startup_database).mpr
    ⟨plainConfig, loadFromFile_plain databaseEnv, fun _ => ⟨_, reloaded_plain databaseEnv⟩, ?_⟩
  intro c hc
  obtain rfl := Except.ok.inj ((reloaded_plain databaseEnv).symm.trans hc)
  exact {
    host := rfl, httpPort := rfl, grpcPort := rfl, dcId := rfl, workerId := rfl, url := rfl
    maxConnections := rfl, endpoints := rfl, level := rfl, segment := rfl, snowflake := rfl
    uuidV7 := rfl, others := rfl }

/-- The service starts on the port 9000 of the environment, and a reload of the same file puts it on
8080. -/
theorem reload_loses_port : ∃ merged, (plainSource FullConfig.sparseEnv).startup = some merged ∧
    merged.app.httpPort = 9000 ∧
    ((plainSource FullConfig.sparseEnv).manageReload merged).2.app.httpPort = 8080 ∧
    ¬ (plainSource FullConfig.sparseEnv).Stays merged := by
  have hstart := FullConfig.startup_eq (loadFromFile_plain FullConfig.sparseEnv)
    FullConfig.load_sparseEnv.1 FullConfig.load_sparseEnv.2
  have hreload : ∀ merged, ((plainSource FullConfig.sparseEnv).manageReload merged).2 =
      plainConfig :=
    fun merged => manageReload_of_ok (reloaded_plain FullConfig.sparseEnv)
  refine ⟨_, hstart, rfl, by rw [hreload]; rfl, fun hstays => ?_⟩
  have hport := congrArg (fun c => c.app.httpPort) ((hreload _).symm.trans hstays.managed)
  exact absurd hport (by decide)

end ConfigSource

end NebulaId
