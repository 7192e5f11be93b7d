import NebulaId.Server.HotReload
import NebulaId.Server.AuditLogger
import NebulaId.Machine.Along

/-!
# The audit of the configuration (`server/config/hot_reload.rs`)

`HotReloadConfig` with a logger attached. A call that installs a configuration compares it with
the last one by hand, field after field, and has the logger record what has changed. A reload
waits for the logger; `update_config`, which is not asynchronous, does not, and nothing is recorded.

* `eq_iff_agree`: a configuration is determined by its fields.
* `names_reload_iff`: what the event of a reload names.
* `audited_iff`: along every run each change is audited if and only if no update changes anything
  and a reload changes nothing but the five fields that are compared.
* `unrecorded`: an update that is not recorded, and a reload that is recorded in part.
-/

namespace NebulaId

open Machine

/-- `Display` -/
def LogLevel.display : LogLevel → String
  | .trace => "trace"
  | .debug => "debug"
  | .info => "info"
  | .warn => "warn"
  | .error => "error"

/-! ## The fields -/

/-- A setting, with its path in the file. -/
structure ConfigField where
  path : String
  {Value : Type}
  get : FullConfig → Value

namespace ConfigField

def Agrees (f : ConfigField) (old new : FullConfig) : Prop := f.get old = f.get new

/-- What `detect_config_changes` compares. -/
def reported : List ConfigField :=
  [⟨"app.name", fun c => c.app.name⟩,
    ⟨"app.http_port", fun c => c.app.httpPort⟩,
    ⟨"rate_limit.default_rps", fun c => c.rateLimit.defaultRps⟩,
    ⟨"rate_limit.burst_size", fun c => c.rateLimit.burstSize⟩,
    ⟨"logging.level", fun c => c.logging.level⟩]

/-- Every other field. -/
def silent : List ConfigField :=
  [⟨"app.host", fun c => c.app.host⟩,
    ⟨"app.grpc_port", fun c => c.app.grpcPort⟩,
    ⟨"app.dc_id", fun c => c.app.dcId⟩,
    ⟨"app.worker_id", fun c => c.app.workerId⟩,
    ⟨"database.engine", fun c => c.database.engine⟩,
    ⟨"database.host", fun c => c.database.host⟩,
    ⟨"database.port", fun c => c.database.port⟩,
    ⟨"database.username", fun c => c.database.username⟩,
    ⟨"database.password", fun c => c.database.password⟩,
    ⟨"database.database", fun c => c.database.database⟩,
    ⟨"database.url", fun c => c.database.url⟩,
    ⟨"database.max_connections", fun c => c.database.maxConnections⟩,
    ⟨"database.min_connections", fun c => c.database.minConnections⟩,
    ⟨"database.acquire_timeout_seconds", fun c => c.database.acquireTimeoutSeconds⟩,
    ⟨"database.idle_timeout_seconds", fun c => c.database.idleTimeoutSeconds⟩,
    ⟨"redis.url", fun c => c.redis.url⟩,
    ⟨"redis.pool_size", fun c => c.redis.poolSize⟩,
    ⟨"redis.key_prefix", fun c => c.redis.keyPrefix⟩,
    ⟨"redis.ttl_seconds", fun c => c.redis.ttlSeconds⟩,
    ⟨"etcd.endpoints", fun c => c.etcd.endpoints⟩,
    ⟨"etcd.connect_timeout_ms", fun c => c.etcd.connectTimeoutMs⟩,
    ⟨"etcd.watch_timeout_ms", fun c => c.etcd.watchTimeoutMs⟩,
    ⟨"auth.enabled", fun c => c.auth.enabled⟩,
    ⟨"auth.cache_ttl_seconds", fun c => c.auth.cacheTtlSeconds⟩,
    ⟨"auth.api_keys", fun c => c.auth.apiKeys⟩,
    ⟨"auth.api_key_salt", fun c => c.auth.apiKeySalt⟩,
    ⟨"auth.key_rotation_grace_period_seconds", fun c => c.auth.keyRotationGracePeriodSeconds⟩,
    ⟨"algorithm.default", fun c => c.algorithm.default⟩,
    ⟨"algorithm.segment.base_step", fun c => c.algorithm.segment.baseStep⟩,
    ⟨"algorithm.segment.min_step", fun c => c.algorithm.segment.minStep⟩,
    ⟨"algorithm.segment.max_step", fun c => c.algorithm.segment.maxStep⟩,
    ⟨"algorithm.segment.switch_threshold", fun c => c.algorithm.segment.switchThreshold⟩,
    ⟨"algorithm.snowflake.datacenter_id_bits", fun c => c.algorithm.snowflake.datacenterIdBits⟩,
    ⟨"algorithm.snowflake.worker_id_bits", fun c => c.algorithm.snowflake.workerIdBits⟩,
    ⟨"algorithm.snowflake.sequence_bits", fun c => c.algorithm.snowflake.sequenceBits⟩,
    ⟨"algorithm.snowflake.clock_drift_threshold_ms",
      fun c => c.algorithm.snowflake.clockDriftThresholdMs⟩,
    ⟨"algorithm.uuid_v7.enabled", fun c => c.algorithm.uuidV7.enabled⟩,
    ⟨"monitoring.metrics_enabled", fun c => c.monitoring.metricsEnabled⟩,
    ⟨"monitoring.metrics_path", fun c => c.monitoring.metricsPath⟩,
    ⟨"monitoring.tracing_enabled", fun c => c.monitoring.tracingEnabled⟩,
    ⟨"monitoring.otlp_endpoint", fun c => c.monitoring.otlpEndpoint⟩,
    ⟨"logging.format", fun c => c.logging.format⟩,
    ⟨"logging.include_location", fun c => c.logging.includeLocation⟩,
    ⟨"rate_limit.enabled", fun c => c.rateLimit.enabled⟩,
    ⟨"tls.enabled", fun c => c.tls.enabled⟩,
    ⟨"tls.cert_path", fun c => c.tls.certPath⟩,
    ⟨"tls.key_path", fun c => c.tls.keyPath⟩,
    ⟨"tls.ca_path", fun c => c.tls.caPath⟩,
    ⟨"tls.http_enabled", fun c => c.tls.httpEnabled⟩,
    ⟨"tls.grpc_enabled", fun c => c.tls.grpcEnabled⟩,
    ⟨"tls.min_tls_version", fun c => c.tls.minTlsVersion⟩,
    ⟨"tls.alpn_protocols", fun c => c.tls.alpnProtocols⟩,
    ⟨"batch_generate.max_batch_size", fun c => c.batchGenerate.maxBatchSize⟩]

def all : List ConfigField := reported ++ silent

attribute [local ext] AppConfig DatabaseConfig RedisConfig AlgorithmConfig SegmentAlgorithmConfig
  SnowflakeAlgorithmConfig UuidV7Config RateLimitConfig TlsConfig BatchGenerateConfig

/-- A configuration is determined by its fields. -/
theorem eq_iff_agree {old new : FullConfig} : new = old ↔ ∀ f ∈ all, f.Agrees old new := by
  constructor
  · rintro rfl f -
    rfl
  · intro h
    simp only [all, reported, silent, List.cons_append, List.nil_append, List.forall_mem_cons,
      Agrees] at h
    ext <;> simp only [h]

end ConfigField

/-! ## The detector -/

/-- `format!("path: {} -> {}", old, new)` -/
def changeText (path old new : String) : String := path ++ ": " ++ old ++ " -> " ++ new

def pushIf (bad : Bool) (text : String) (changes : List String) : List String :=
  if bad then changes ++ [text] else changes

def detectConfigChanges (old new : FullConfig) : List String :=
  []
  |> pushIf (old.app.name != new.app.name) (changeText "app.name" old.app.name new.app.name)
  |> pushIf (old.app.httpPort != new.app.httpPort)
    (changeText "app.http_port" (toString old.app.httpPort) (toString new.app.httpPort))
  |> pushIf (old.rateLimit.defaultRps != new.rateLimit.defaultRps)
    (changeText "rate_limit.default_rps" (toString old.rateLimit.defaultRps)
      (toString new.rateLimit.defaultRps))
  |> pushIf (old.rateLimit.burstSize != new.rateLimit.burstSize)
    (changeText "rate_limit.burst_size" (toString old.rateLimit.burstSize)
      (toString new.rateLimit.burstSize))
  |> pushIf (old.logging.level != new.logging.level)
    (changeText "logging.level" old.logging.level.display new.logging.level.display)

theorem mem_pushIf {bad : Bool} {text s : String} {changes : List String} :
    s ∈ pushIf bad text changes ↔ s ∈ changes ∨ (bad = true ∧ s = text) := by
  unfold pushIf
  cases bad with
  | true => simp
  | false => simp

/-- A text of the detector is about a field that it compares. -/
theorem mem_detect {old new : FullConfig} {s : String} (h : s ∈ detectConfigChanges old new) :
    ∃ f ∈ ConfigField.reported, ¬ f.Agrees old new ∧ ∃ a b, s = changeText f.path a b := by
  simp only [detectConfigChanges, mem_pushIf, List.not_mem_nil, false_or, bne_iff_ne] at h
  simp only [ConfigField.reported, List.exists_mem_cons_iff, ConfigField.Agrees]
  rcases h with (((⟨hne, hs⟩ | ⟨hne, hs⟩) | ⟨hne, hs⟩) | ⟨hne, hs⟩) | ⟨hne, hs⟩
  · exact Or.inl ⟨hne, _, _, hs⟩
  · exact Or.inr (Or.inl ⟨hne, _, _, hs⟩)
  · exact Or.inr (Or.inr (Or.inl ⟨hne, _, _, hs⟩))
  · exact Or.inr (Or.inr (Or.inr (Or.inl ⟨hne, _, _, hs⟩)))
  · exact Or.inr (Or.inr (Or.inr (Or.inr (Or.inl ⟨hne, _, _, hs⟩))))

/-- And each of them has its text when it differs. -/
theorem detect_of_differs {old new : FullConfig} {f : ConfigField} (hf : f ∈ ConfigField.reported)
    (h : ¬ f.Agrees old new) : ∃ a b, changeText f.path a b ∈ detectConfigChanges old new := by
  simp only [detectConfigChanges, mem_pushIf, List.not_mem_nil, false_or, bne_iff_ne]
  simp only [ConfigField.reported, List.mem_cons, List.not_mem_nil, or_false] at hf
  rcases hf with rfl | rfl | rfl | rfl | rfl
  · exact ⟨_, _, Or.inl (Or.inl (Or.inl (Or.inl ⟨h, rfl⟩)))⟩
  · exact ⟨_, _, Or.inl (Or.inl (Or.inl (Or.inr ⟨h, rfl⟩)))⟩
  · exact ⟨_, _, Or.inl (Or.inl (Or.inr ⟨h, rfl⟩))⟩
  · exact ⟨_, _, Or.inl (Or.inr ⟨h, rfl⟩)⟩
  · exact ⟨_, _, Or.inr ⟨h, rfl⟩⟩

/-- No path has a colon of its own. -/
theorem colon_not_mem_path : ∀ f ∈ ConfigField.all, ':' ∉ f.path.toList := by
  simp only [ConfigField.all, ConfigField.reported, ConfigField.silent, List.cons_append,
    List.nil_append, List.forall_mem_cons]
  and_intros
  all_goals first
    | exact not_mem_ofList (by decide)
    | exact fun f hf => absurd hf List.not_mem_nil

/-- The text of a change says which field it is about. -/
theorem path_eq_of_changeText {f g : ConfigField} (hf : f ∈ ConfigField.all)
    (hg : g ∈ ConfigField.all) {a b c d : String}
    (h : changeText f.path a b = changeText g.path c d) : f.path = g.path := by
  have hcut : ∀ {e : ConfigField} (a b : String), e ∈ ConfigField.all →
      (changeText e.path a b).toList.takeWhile (· != ':') = e.path.toList := by
    intro e a b he
    simp only [changeText, String.toList_append, List.append_assoc]
    rw [List.takeWhile_append_of_pos fun c hc => ?_]
    · simp
    · have hne : c ≠ ':' := fun heq => colon_not_mem_path e he (heq ▸ hc)
      simpa using hne
  apply String.toList_injective
  rw [← hcut a b hf, ← hcut c d hg, h]

theorem not_reported_of_silent {f g : ConfigField} (hf : f ∈ ConfigField.silent)
    (hg : g ∈ ConfigField.reported) : f.path ≠ g.path := by
  have hpaths : ∀ path ∈ ConfigField.silent.map ConfigField.path,
      path ∉ ConfigField.reported.map ConfigField.path :=
    List.forall_iff_forall_mem.mp (by decide +kernel)
  intro heq
  exact hpaths f.path (List.mem_map_of_mem hf) (heq ▸ List.mem_map_of_mem hg)

/-! ## Calls -/

open SeaOrmRepository

/-- `HotReloadConfig` with its logger. -/
structure AuditedConfig where
  config : FullConfig
  logger : AuditLogger

/-- The event has a text about the field. -/
def AuditEvent.Names (event : AuditEvent) (path : String) : Prop :=
  ∃ fields changes a b, event.details = some (.object fields) ∧
    ("changes", Json.array changes) ∈ fields ∧ Json.string (changeText path a b) ∈ changes

namespace AuditedConfig

def updateDetails (changes : List String) : Json :=
  .object [("changes", .array (changes.map .string)), ("source", .string "api_update")]

def reloadDetails (configPath : String) (changes : List String) : Json :=
  .object [("changes", .array (changes.map .string)), ("config_path", .string configPath),
    ("source", .string "file_watch")]

def updateConfig (m : AuditedConfig) (stamp : AuditStamp) (new : FullConfig) : AuditedConfig where
  config := new
  logger :=
    let changes := detectConfigChanges m.config new
    if changes.isEmpty then m.logger
    else (AuditLogger.logConfigChange stamp none "api_update" "system"
      (updateDetails changes)).discard m.logger

def reloadConfig (m : AuditedConfig) (stamp : AuditStamp) (configPath : String)
    (new : FullConfig) : AuditedConfig where
  config := new
  logger :=
    let changes := detectConfigChanges m.config new
    if changes.isEmpty then m.logger
    else (AuditLogger.logConfigChange stamp none "hot_reload" "system"
      (reloadDetails configPath changes)).await m.logger

abbrev Act := ConfigManager.Call × AuditStamp

def step (configPath : String) (m : AuditedConfig) : Act → Option AuditedConfig
  | (.updateRateLimit req, stamp) =>
    some (if req.validate then m.updateConfig stamp (req.patch m.config) else m)
  | (.updateLogging req, stamp) =>
    some (if req.validate then m.updateConfig stamp (req.patch m.config) else m)
  | (.updateConfig config, stamp) => some (m.updateConfig stamp config)
  | (.reloadConfig (.ok config), stamp) => some (m.reloadConfig stamp configPath config)
  | (.reloadConfig (.error _), _) => some m

/-- A change is recorded once and with every field, and nothing else is recorded. -/
structure Audited (before after : AuditedConfig) : Prop where
  quiet : after.config = before.config → after.logger = before.logger
  recorded : after.config ≠ before.config → ∃ event, after.logger = before.logger.log event ∧
    event.eventType = .configChange ∧
    ∀ f ∈ ConfigField.all, ¬ f.Agrees before.config after.config → event.Names f.path

/-- An update changes nothing, and a reload only what is compared. -/
def ChangesReported (m : AuditedConfig) : Act → Prop
  | (.updateRateLimit req, _) => req.validate = true → req.patch m.config = m.config
  | (.updateLogging req, _) => req.validate = true → req.patch m.config = m.config
  | (.updateConfig config, _) => config = m.config
  | (.reloadConfig (.ok config), _) => ∀ f ∈ ConfigField.silent, f.Agrees m.config config
  | (.reloadConfig (.error _), _) => True

variable {m m' : AuditedConfig} {stamp : AuditStamp} {configPath : String} {new : FullConfig}
  {act : Act}

theorem audited_same (m : AuditedConfig) : Audited m m :=
  ⟨fun _ => rfl, fun hne => absurd rfl hne⟩

/-- **An update** that changes the configuration is not audited. -/
theorem audited_updateConfig_iff : Audited m (m.updateConfig stamp new) ↔ new = m.config := by
  have hlogger : (m.updateConfig stamp new).logger = m.logger := by
    dsimp only [updateConfig, AuditLogger.Call.discard]
    split
    · rfl
    · rfl
  constructor
  · intro haudited
    by_contra hne
    obtain ⟨event, hevent, -⟩ := haudited.recorded hne
    exact AuditLogger.log_ne (hevent.symm.trans hlogger)
  · intro heq
    exact ⟨fun _ => hlogger, fun hne => absurd heq hne⟩

/-- The event of a reload names the fields that are compared and differ. -/
theorem names_reload_iff {event : AuditEvent} {f : ConfigField} (hf : f ∈ ConfigField.all)
    (hdetails : event.details =
      some (reloadDetails configPath (detectConfigChanges m.config new))) :
    event.Names f.path ↔ ∃ g ∈ ConfigField.reported, g.path = f.path ∧ ¬ g.Agrees m.config new := by
  constructor
  · rintro ⟨fields, changes, a, b, hfields, hchanges, htext⟩
    cases hdetails.symm.trans hfields
    have hall : Json.array changes =
        .array ((detectConfigChanges m.config new).map Json.string) := by simpa using hchanges
    cases hall
    obtain ⟨text, hin, heq⟩ := List.mem_map.mp htext
    cases heq
    obtain ⟨g, hg, hdiffers, c, d, htext⟩ := mem_detect hin
    exact ⟨g, hg, (path_eq_of_changeText hf (List.mem_append_left _ hg) htext).symm, hdiffers⟩
  · rintro ⟨g, hg, hpath, hdiffers⟩
    obtain ⟨a, b, htext⟩ := detect_of_differs hg hdiffers
    rw [hpath] at htext
    exact ⟨_, _, a, b, hdetails, List.mem_cons_self, List.mem_map_of_mem htext⟩

/-- **A reload** is audited if and only if it changes nothing but what is compared. -/
theorem audited_reloadConfig_iff : Audited m (m.reloadConfig stamp configPath new) ↔
    ∀ f ∈ ConfigField.silent, f.Agrees m.config new := by
  have hall : ∀ {f}, f ∈ ConfigField.silent → f ∈ ConfigField.all := List.mem_append_right _
  by_cases hnone : detectConfigChanges m.config new = []
  · have hlogger : (m.reloadConfig stamp configPath new).logger = m.logger := by
      simp [reloadConfig, hnone]
    constructor
    · intro haudited f hf
      by_contra hdiffers
      obtain ⟨event, hevent, -⟩ := haudited.recorded fun heq =>
        hdiffers (ConfigField.eq_iff_agree.mp heq f (hall hf))
      exact AuditLogger.log_ne (hevent.symm.trans hlogger)
    · intro hsilent
      have hsame : new = m.config := by
        refine ConfigField.eq_iff_agree.mpr fun f hf => ?_
        rcases List.mem_append.mp hf with hreported | hf
        · by_contra hdiffers
          obtain ⟨a, b, htext⟩ := detect_of_differs hreported hdiffers
          rw [hnone] at htext
          exact List.not_mem_nil htext
        · exact hsilent f hf
      exact ⟨fun _ => hlogger, fun hne => absurd hsame hne⟩
  · obtain ⟨event, hlogger, htype, hdetails⟩ : ∃ event,
        (m.reloadConfig stamp configPath new).logger = m.logger.log event ∧
          event.eventType = .configChange ∧ event.details =
            some (reloadDetails configPath (detectConfigChanges m.config new)) := by
      have hlogger : (m.reloadConfig stamp configPath new).logger =
          AuditLogger.logConfigChange stamp none "hot_reload" "system"
            (reloadDetails configPath (detectConfigChanges m.config new)) m.logger := by
        dsimp only [reloadConfig]
        exact if_neg (by simpa using hnone)
      exact ⟨_, hlogger, rfl, rfl⟩
    constructor
    · intro haudited f hf
      by_contra hdiffers
      obtain ⟨event', hevent', -, hnames⟩ := haudited.recorded fun heq =>
        hdiffers (ConfigField.eq_iff_agree.mp heq f (hall hf))
      cases AuditLogger.log_inj.mp (hevent'.symm.trans hlogger)
      obtain ⟨g, hg, hpath, -⟩ := (names_reload_iff (hall hf) hdetails).mp
        (hnames f (hall hf) hdiffers)
      exact not_reported_of_silent hf hg hpath.symm
    · intro hsilent
      refine ⟨fun heq => ?_, fun _ => ⟨event, hlogger, htype, fun f hf hdiffers => ?_⟩⟩
      · obtain ⟨text, hin⟩ := List.exists_mem_of_ne_nil _ hnone
        obtain ⟨g, hg, hdiffers, -⟩ := mem_detect hin
        exact absurd (ConfigField.eq_iff_agree.mp heq g (List.mem_append_left _ hg)) hdiffers
      · refine (names_reload_iff hf hdetails).mpr ⟨f, ?_, rfl, hdiffers⟩
        rcases List.mem_append.mp hf with hreported | hf
        · exact hreported
        · exact absurd (hsilent f hf) hdiffers

theorem audited_step_iff (configPath : String) (hstep : step configPath m act = some m') :
    Audited m m' ↔ ChangesReported m act := by
  obtain ⟨call, stamp⟩ := act
  cases call with
  | updateRateLimit req =>
    cases hstep
    dsimp only [ChangesReported]
    split
    · rw [audited_updateConfig_iff]
      exact ⟨fun heq _ => heq, fun hreported => hreported ‹_›⟩
    · exact iff_of_true (audited_same m) fun hvalid => absurd hvalid ‹_›
  | updateLogging req =>
    cases hstep
    dsimp only [ChangesReported]
    split
    · rw [audited_updateConfig_iff]
      exact ⟨fun heq _ => heq, fun hreported => hreported ‹_›⟩
    · exact iff_of_true (audited_same m) fun hvalid => absurd hvalid ‹_›
  | updateConfig config =>
    cases hstep
    exact audited_updateConfig_iff
  | reloadConfig file =>
    cases file with
    | ok config =>
      cases hstep
      exact audited_reloadConfig_iff
    | error e =>
      cases hstep
      exact iff_of_true (audited_same _) trivial

/-! ## The calls as tasks -/

/-- A call by itself, as a task of the service, leaves the same configuration behind. -/
theorem exists_alone (manager : ConfigManager) (memory : ConfigManager.Memory)
    (hm : memory.config = m.config) (hstep : step configPath m act = some m') :
    ∃ memory' response, Reaches manager.step Free ⟨memory, []⟩ ⟨memory', [.finished response]⟩ ∧
      memory'.config = m'.config := by
  obtain ⟨call, stamp⟩ := act
  have hcalled : Reaches manager.step Free ⟨memory, []⟩ ⟨memory, [.called call]⟩ :=
    ConfigManager.reaches_called memory call
  cases call with
  | updateRateLimit req =>
    cases hstep
    by_cases hvalid : req.validate = true
    · obtain ⟨response, hrun, -⟩ := ConfigManager.reaches_updateRateLimit hvalid
      refine ⟨_, _, hrun, ?_⟩
      rw [if_pos hvalid, ← hm]
      rfl
    · obtain ⟨response, hrun, -⟩ := ConfigManager.reaches_refused hvalid
      refine ⟨_, _, hrun, ?_⟩
      rw [if_neg hvalid, hm]
  | updateLogging req =>
    cases hstep
    by_cases hvalid : req.validate = true
    · have hupdate : manager.advance memory (.called (.updateLogging req)) =
          some (ConfigManager.finishLogging memory req, _) := if_pos hvalid
      refine ⟨_, _, hcalled.trans (ConfigManager.reaches_advance hupdate), ?_⟩
      rw [if_pos hvalid, ← hm]
      rfl
    · have hrefuse : manager.advance memory (.called (.updateLogging req)) = some (memory, _) :=
        if_neg hvalid
      refine ⟨_, _, hcalled.trans (ConfigManager.reaches_advance hrefuse), ?_⟩
      rw [if_neg hvalid, hm]
  | updateConfig config =>
    cases hstep
    have hreplace : manager.advance memory (.called (.updateConfig config)) =
        some (ConfigManager.install memory config, .finished none) := rfl
    exact ⟨_, _, hcalled.trans (ConfigManager.reaches_advance hreplace), rfl⟩
  | reloadConfig file =>
    cases file with
    | ok config =>
      cases hstep
      have hinstall : manager.advance memory (.called (.reloadConfig (.ok config))) =
          some (ConfigManager.install memory config, .auditing) := rfl
      exact ⟨_, _, hcalled.trans ((ConfigManager.reaches_advance hinstall).trans
        (ConfigManager.reaches_advance rfl)), rfl⟩
    | error e =>
      cases hstep
      have hunreadable : manager.advance memory (.called (.reloadConfig (.error e))) =
          some (memory, .auditing) := rfl
      exact ⟨_, _, hcalled.trans ((ConfigManager.reaches_advance hunreadable).trans
        (ConfigManager.reaches_advance rfl)), hm⟩

/-! ## Runs -/

/-- **Along every run** each change is recorded with every field if and only if no update changes
anything and a reload changes only what is compared. -/
theorem audited_iff (configPath : String) (m : AuditedConfig) (run : List Act) :
    EachStep (step configPath) (fun m _ m' => Audited m m') m run ↔
      EachStep (step configPath) (fun m act _ => ChangesReported m act) m run :=
  eachStep_iff fun _ _ _ hstep => audited_step_iff configPath hstep

/-- A logger with room for a hundred events. -/
def emptyLogger : AuditLogger := ⟨[], 100, 0, 0, none⟩

def audited : AuditedConfig := ⟨FullConfig.plainMerged, emptyLogger⟩

/-- The log level is set by a request, and a reload changes the address the service listens on
besides its name. -/
theorem unrecorded :
    ¬ EachStep (step "config.toml") (fun m _ m' => Audited m m') audited
      [(.updateLogging ⟨some "warn"⟩, ⟨1, 0⟩)] ∧
    ¬ EachStep (step "config.toml") (fun m _ m' => Audited m m') audited
      [(.reloadConfig (.ok { FullConfig.plainMerged with
        app := { FullConfig.plainMerged.app with name := "renamed", host := "127.0.0.1" } }),
        ⟨1, 0⟩)] := by
  constructor
  · intro heach
    have hsame : audited.ChangesReported (.updateLogging ⟨some "warn"⟩, ⟨1, 0⟩) :=
      (audited_step_iff "config.toml" rfl).mp (heach _ rfl).1
    have hlevel : LogLevel.warn = FullConfig.plainMerged.logging.level :=
      congrArg (fun c => c.logging.level) (hsame rfl)
    exact absurd hlevel (by decide)
  · intro heach
    have hsilent := audited_reloadConfig_iff.mp (heach _ rfl).1
    have hhost := hsilent _ List.mem_cons_self
    exact absurd (show FullConfig.plainMerged.app.host = "127.0.0.1" from hhost) (by decide)

end AuditedConfig

end NebulaId
