import NebulaId.Config.Merge
import NebulaId.Machine.Crowd

/-!
# The configuration in force (`server/config/hot_reload.rs`, `management.rs`)

The service reads the configuration that `HotReloadConfig` holds. Four calls install a new one:
`update_rate_limit`, `update_logging`, `reload_config` (also called when the file changes) and
`update_config`. Each update changes a copy of the configuration and stores the whole copy;
`update_rate_limit` waits for a lock between the two. Without a wait a call is one step.

The log keeps what the calls have set, latest first. `promised` is the value that a setting
has been given by an update that nothing has replaced since.

* `valid_in_force`: the configuration in force is valid as long as the start-up and every call
  install a valid one (`InstallsValid`); no call but the start-up's reading of the file
  makes sure of it.
* `invalid_in_force`: an update and a reload that install an invalid one.
* `updates_kept`: what an update has set stays, as long as no copy is stored that has become
  stale (`NotStale`).
* `lost_update`: a run in which a new log level is lost.
-/

namespace NebulaId

open Machine

structure UpdateRateLimitRequest where
  defaultRps : Option UInt32
  burstSize : Option UInt32

namespace UpdateRateLimitRequest

/-- `range(min = 1, max = bound)` -/
def inRange (bound : UInt32) (value : Option UInt32) : Bool :=
  value.all fun v => decide (1 ≤ v) && decide (v ≤ bound)

def validate (req : UpdateRateLimitRequest) : Bool :=
  inRange 1000000 req.defaultRps && inRange 1000 req.burstSize

def patch (req : UpdateRateLimitRequest) (config : FullConfig) : FullConfig :=
  { config with rateLimit := { config.rateLimit with
      defaultRps := req.defaultRps.getD config.rateLimit.defaultRps
      burstSize := req.burstSize.getD config.rateLimit.burstSize } }

end UpdateRateLimitRequest

structure UpdateLoggingRequest where
  level : Option String

namespace UpdateLoggingRequest

/-- `length(min = 1, max = 20)` -/
def validate (req : UpdateLoggingRequest) : Bool :=
  req.level.all fun s => decide (1 ≤ s.length) && decide (s.length ≤ 20)

def newLevel (req : UpdateLoggingRequest) : Option LogLevel := req.level.map LogLevel.fromStr

def patch (req : UpdateLoggingRequest) (config : FullConfig) : FullConfig :=
  { config with logging := { config.logging with
      level := req.newLevel.getD config.logging.level } }

end UpdateLoggingRequest

/-- `config` is what the response is rendered from. -/
structure UpdateConfigResponse where
  success : Bool
  message : String
  config : Option FullConfig

/-- The texts of the validator are parameters. -/
structure ConfigManager where
  rateLimitErrors : UpdateRateLimitRequest → String
  loggingErrors : UpdateLoggingRequest → String

namespace ConfigManager

/-! ## Calls as tasks -/

/-- A reload comes with what it will find in the file: an error when it cannot be read or parsed. -/
inductive Call where
  | updateRateLimit (req : UpdateRateLimitRequest)
  | updateLogging (req : UpdateLoggingRequest)
  | reloadConfig (file : Except ConfigError FullConfig)
  | updateConfig (config : FullConfig)

inductive Task where
  | called (call : Call)
  /-- Waits for the lock of the rate limiter; `config` is the changed copy. -/
  | locking (req : UpdateRateLimitRequest) (config : FullConfig)
  /-- The reload is over, but for the audit log and the response. -/
  | auditing
  | finished (response : Option UpdateConfigResponse)

/-- The values that an update has set. -/
structure Update where
  level : Option LogLevel
  defaultRps : Option UInt32
  burstSize : Option UInt32

inductive Event where
  | updated (u : Update)
  | replaced

structure Memory where
  config : FullConfig
  rateLimiter : Option (UInt32 × UInt32)
  log : List Event

def finishRateLimit (m : Memory) (req : UpdateRateLimitRequest) (config : FullConfig) : Memory where
  config := config
  rateLimiter := some (config.rateLimit.defaultRps, config.rateLimit.burstSize)
  log := .updated ⟨none, req.defaultRps, req.burstSize⟩ :: m.log

def finishLogging (m : Memory) (req : UpdateLoggingRequest) : Memory :=
  { m with config := req.patch m.config, log := .updated ⟨req.newLevel, none, none⟩ :: m.log }

def install (m : Memory) (config : FullConfig) : Memory :=
  { m with config := config, log := .replaced :: m.log }

def advance (manager : ConfigManager) (m : Memory) : Task → Option (Memory × Task)
  | .called (.updateRateLimit req) =>
    if req.validate then some (m, .locking req (req.patch m.config))
    else some (m, .finished (some ⟨false, "Validation error: " ++ manager.rateLimitErrors req, none⟩))
  | .locking req config =>
    some (finishRateLimit m req config,
      .finished (some ⟨true, "Rate limit configuration updated successfully", some config⟩))
  | .called (.updateLogging req) =>
    if req.validate then
      some (finishLogging m req, .finished (some
        ⟨true, "Logging configuration updated successfully", some (req.patch m.config)⟩))
    else some (m, .finished (some ⟨false, "Validation error: " ++ manager.loggingErrors req, none⟩))
  | .called (.reloadConfig (.ok config)) => some (install m config, .auditing)
  | .called (.reloadConfig (.error _)) => some (m, .auditing)
  | .auditing =>
    some (m, .finished (some
      ⟨true, "Configuration reloaded from file successfully", some m.config⟩))
  | .called (.updateConfig config) => some (install m config, .finished none)
  | .finished _ => none

/-- Nothing happens around the calls. -/
def program (manager : ConfigManager) : Program Memory Task Call Unit Unit where
  start := .called
  step _ := manager.advance
  pass _ m := m

abbrev World := Crowd Memory Task

abbrev Act := CrowdAct Call Unit Unit

def step (manager : ConfigManager) : World → Act → Option World := Crowd.step manager.program

def start (config : FullConfig) : World := ⟨⟨config, none, []⟩, []⟩

/-! ## What a step stores -/

/-- What a step of a call does. -/
inductive Moved (m : Memory) : Task → Memory → Task → Prop
  | copy (req : UpdateRateLimitRequest) :
      Moved m (.called (.updateRateLimit req)) m (.locking req (req.patch m.config))
  | rateLimit (req : UpdateRateLimitRequest) (config : FullConfig)
      (response : Option UpdateConfigResponse) :
      Moved m (.locking req config) (finishRateLimit m req config) (.finished response)
  | logging (req : UpdateLoggingRequest) (response : Option UpdateConfigResponse) :
      Moved m (.called (.updateLogging req)) (finishLogging m req) (.finished response)
  | reload (config : FullConfig) :
      Moved m (.called (.reloadConfig (.ok config))) (install m config) .auditing
  | replace (config : FullConfig) :
      Moved m (.called (.updateConfig config)) (install m config) (.finished none)
  | refuse (call : Call) (response : Option UpdateConfigResponse)
      (h : (∃ req, call = .updateRateLimit req) ∨ ∃ req, call = .updateLogging req) :
      Moved m (.called call) m (.finished response)
  | unreadable (e : ConfigError) : Moved m (.called (.reloadConfig (.error e))) m .auditing
  | respond (response : Option UpdateConfigResponse) : Moved m .auditing m (.finished response)

variable {manager : ConfigManager} {w w' : World} {act : Act} {m m' : Memory} {p q : Task}
  {config : FullConfig}

theorem moved_of_advance (h : manager.advance m p = some (m', q)) : Moved m p m' q := by
  unfold advance at h
  split at h
  · split at h
    · cases h
      exact .copy _
    · cases h
      exact .refuse _ _ (Or.inl ⟨_, rfl⟩)
  · cases h
    exact .rateLimit _ _ _
  · split at h
    · cases h
      exact .logging _ _
    · cases h
      exact .refuse _ _ (Or.inr ⟨_, rfl⟩)
  · cases h
    exact .reload _
  · cases h
    exact .unreadable _
  · cases h
    exact .respond _
  · cases h
    exact .replace _
  · cases h

/-- A step lets a call begin, moves one, or changes nothing. -/
theorem step_cases (h : step manager w act = some w') :
    (∃ call, act = .spawn call ∧ w' = ⟨w.shared, w.tasks ++ [.called call]⟩) ∨
    (∃ i a p m' q, act = .move i a ∧ w.tasks[i]? = some p ∧ Moved w.shared p m' q ∧
      w' = ⟨m', w.tasks.set i q⟩) ∨
    act = .pass () ∧ w' = w := by
  rcases Crowd.step_cases h with ⟨call, hact, hw⟩ | ⟨i, a, p, m', q, hact, hp, hs, hw⟩ | ⟨e, hact, hw⟩
  · exact Or.inl ⟨call, hact, hw⟩
  · exact Or.inr (Or.inl ⟨i, a, p, m', q, hact, hp, moved_of_advance hs, hw⟩)
  · exact Or.inr (Or.inr ⟨hact, hw⟩)

/-! ## Calls by themselves -/

theorem reaches_called (m : Memory) (call : Call) :
    Reaches (step manager) Free ⟨m, []⟩ ⟨m, [.called call]⟩ :=
  Reaches.single (a := .spawn call) trivial rfl

theorem reaches_advance (h : manager.advance m p = some (m', q)) :
    Reaches (step manager) Free ⟨m, [p]⟩ ⟨m', [q]⟩ :=
  Reaches.single (a := .move 0 ()) trivial (Crowd.step_move.mpr ⟨p, m', q, rfl, h, rfl⟩)

/-- An update of the rate limit by itself. -/
theorem reaches_updateRateLimit {req : UpdateRateLimitRequest} (hvalid : req.validate = true) :
    ∃ response, Reaches (step manager) Free ⟨m, []⟩
      ⟨finishRateLimit m req (req.patch m.config), [.finished (some response)]⟩ ∧
        response.success = true := by
  have hcopy : manager.advance m (.called (.updateRateLimit req)) =
      some (m, .locking req (req.patch m.config)) := if_pos hvalid
  exact ⟨_, (reaches_called m _).trans ((reaches_advance hcopy).trans (reaches_advance rfl)), rfl⟩

theorem reaches_refused {req : UpdateRateLimitRequest} (hvalid : ¬ req.validate = true) :
    ∃ response, Reaches (step manager) Free ⟨m, []⟩ ⟨m, [.finished (some response)]⟩ ∧
      response.success = false := by
  have hrefuse : manager.advance m (.called (.updateRateLimit req)) = some (m, _) := if_neg hvalid
  exact ⟨_, (reaches_called m _).trans (reaches_advance hrefuse), rfl⟩

/-! ## Valid configurations -/

/-- What the call is about to install is valid. -/
def InstallsValid (_ : World) : Task → Prop
  | .locking _ config => Config.validateRateLimit config.rateLimit = .ok ()
  | .called (.reloadConfig (.ok config)) => config.core.Accepted
  | .called (.updateConfig config) => config.core.Accepted
  | _ => True

/-- But for the rate limit, a waiting copy is a valid configuration. -/
structure ValidInv (w : World) : Prop where
  inForce : w.shared.config.core.Accepted
  copies : ∀ req config, .locking req config ∈ w.tasks →
    ∃ c : Config, c.Accepted ∧ config.core = { c with rateLimit := config.rateLimit }

theorem accepted_withRateLimit {c : Config} (h : c.Accepted) (r : RateLimitConfig) :
    { c with rateLimit := r }.Accepted ↔ Config.validateRateLimit r = .ok () := by
  obtain ⟨h1, h2, h3, h4, h5, h6, -, hrest⟩ := Config.accepted_iff.mp h
  rw [Config.accepted_iff]
  exact ⟨fun ⟨_, _, _, _, _, _, h7, _⟩ => h7, fun h7 => ⟨h1, h2, h3, h4, h5, h6, h7, hrest⟩⟩

/-- A new waiting copy comes from the configuration in force. -/
theorem Moved.locking (h : Moved m p m' q) {req : UpdateRateLimitRequest}
    (hq : q = .locking req config) : config = req.patch m.config ∧ m' = m := by
  cases h with
  | copy req' =>
    cases hq
    exact ⟨rfl, rfl⟩
  | rateLimit | logging | reload | replace | refuse | unreadable | respond => cases hq

theorem locking_mem_set {tasks : List Task} {i : ℕ} {req : UpdateRateLimitRequest}
    (h : .locking req config ∈ tasks.set i q) :
    .locking req config ∈ tasks ∨ q = .locking req config := by
  rcases List.mem_or_eq_of_mem_set h with h | h
  · exact Or.inl h
  · exact Or.inr h.symm

theorem locking_mem_spawn {tasks : List Task} {call : Call} {req : UpdateRateLimitRequest}
    (h : .locking req config ∈ tasks ++ [.called call]) : .locking req config ∈ tasks := by
  rcases List.mem_append.mp h with h | h
  · exact h
  · cases List.mem_singleton.mp h

/-- What a step installs is valid exactly when the guard says so. -/
theorem ValidInv.accepted_move (h : ValidInv w) {i : ℕ} (hp : w.tasks[i]? = some p)
    (hmove : Moved w.shared p m' q) : m'.config.core.Accepted ↔ InstallsValid w p := by
  cases hmove with
  | copy | unreadable | respond => exact ⟨fun _ => trivial, fun _ => h.inForce⟩
  | refuse call response hcall =>
    refine ⟨fun _ => ?_, fun _ => h.inForce⟩
    obtain ⟨req, rfl⟩ | ⟨req, rfl⟩ := hcall
    · trivial
    · trivial
  | rateLimit req config response =>
    obtain ⟨c, hc, hcore⟩ := h.copies req config (List.mem_of_getElem? hp)
    change config.core.Accepted ↔ _
    rw [hcore]
    exact accepted_withRateLimit hc config.rateLimit
  | logging req response => exact ⟨fun _ => trivial, fun _ => h.inForce⟩
  | reload config => exact Iff.rfl
  | replace config => exact Iff.rfl

theorem validInv_step (h : ValidInv w) (hC : Crowd.Guard InstallsValid w act)
    (hs : step manager w act = some w') : ValidInv w' := by
  rcases step_cases hs with ⟨call, rfl, rfl⟩ | ⟨i, a, p, m', q, rfl, hp, hmove, rfl⟩ | ⟨-, rfl⟩
  · exact ⟨h.inForce, fun req config hin => h.copies req config (locking_mem_spawn hin)⟩
  · refine ⟨(h.accepted_move hp hmove).mpr (hC p hp), fun req config hin => ?_⟩
    rcases locking_mem_set hin with hin | hq
    · exact h.copies req config hin
    · obtain ⟨rfl, -⟩ := hmove.locking hq
      exact ⟨w.shared.config.core, h.inForce, rfl⟩
  · exact h

/-- **Only valid configurations are in force**, from a start-up that is valid, as long as every call
installs a valid one; and the first call that does not makes the configuration invalid. -/
theorem valid_in_force {env : Env} {parsed : Except ConfigError FullConfig} {merged : FullConfig}
    (hconfig : FullConfig.unwrapOrDefault env (FullConfig.loadFromFile parsed) = some config)
    (h : FullConfig.startup env parsed = some merged) :
    (merged.core.Accepted ↔ FullConfig.StartsValid env config) ∧
      (FullConfig.StartsValid env config → ∀ (manager : ConfigManager) w,
        Reaches (step manager) (Crowd.Guard InstallsValid) (start merged) w →
          w.shared.config.core.Accepted ∧ ∀ act w', step manager w act = some w' →
            (w'.shared.config.core.Accepted ↔ Crowd.Guard InstallsValid w act)) := by
  have hstart := FullConfig.startup_accepted_iff hconfig h
  refine ⟨hstart, fun hvalid manager w hw => ?_⟩
  have hinv : ValidInv w := hw.invariant
    ⟨hstart.mpr hvalid, fun req config hin => (by cases hin)⟩
    fun _ _ _ hi hC hs => validInv_step hi hC hs
  refine ⟨hinv.inForce, fun act w' hs => ?_⟩
  rcases step_cases hs with ⟨call, rfl, rfl⟩ | ⟨i, a, p, m', q, rfl, hp, hmove, rfl⟩ | ⟨rfl, rfl⟩
  · exact ⟨fun _ => trivial, fun _ => hinv.inForce⟩
  · rw [hinv.accepted_move hp hmove]
    refine ⟨fun hok p' hp' => ?_, fun hC => hC p hp⟩
    exact Option.some.inj (hp.symm.trans hp') ▸ hok
  · exact ⟨fun _ => trivial, fun _ => hinv.inForce⟩

/-- The validator has no text of its own. -/
def silent : ConfigManager := ⟨fun _ => "", fun _ => ""⟩

theorem plain_starts_valid : FullConfig.StartsValid FullConfig.sparseEnv FullConfig.plainFile where
  httpPort _ v hv := by
    have hport : some (some 9000) = some (some v) := hv
    cases hport
    decide
  grpcPort _ v hv := by cases hv
  dcId _ v hv := by cases hv
  testMode h := by cases h

theorem load_plain : FullConfig.unwrapOrDefault FullConfig.sparseEnv
    (FullConfig.loadFromFile (.ok FullConfig.plainFile)) = some FullConfig.plainFile := by
  rw [FullConfig.load_plain]
  rfl

/-- A valid start and a valid update. -/
theorem valid_in_force_plain : ∃ w, Reaches (step silent) (Crowd.Guard InstallsValid)
    (start FullConfig.plainMerged) w ∧ w.shared.config.rateLimit.defaultRps = 500 ∧
    w.shared.config.core.Accepted := by
  have hrate : Config.validateRateLimit ⟨true, 500, 100⟩ = .ok () := by decide
  have hrun : Reaches (step silent) (Crowd.Guard InstallsValid) (start FullConfig.plainMerged) _ :=
    Reaches.cons (a := .spawn (.updateRateLimit ⟨some 500, none⟩)) trivial rfl <|
    Reaches.cons (a := .move 0 ()) (fun p hp => by cases hp; trivial) rfl <|
    Reaches.single (a := .move 0 ()) (fun p hp => by cases hp; exact hrate) rfl
  exact ⟨_, hrun, rfl, ((valid_in_force load_plain FullConfig.startup_plain).2 plain_starts_valid
    silent _ hrun).1⟩

/-- A burst of a hundred is too much for one request per second; and the file may ask for
batches of size zero. -/
theorem invalid_in_force :
    (∃ w, Reaches (step silent) Free (start FullConfig.plainMerged) w ∧
      w.shared.config.rateLimit.defaultRps = 1 ∧ ¬ w.shared.config.core.Accepted) ∧
    ∃ w, Reaches (step silent) Free (start FullConfig.plainMerged) w ∧
      w.shared.config.batchGenerate.maxBatchSize = 0 ∧ ¬ w.shared.config.core.Accepted := by
  have hupdate : Reaches (step silent) Free (start FullConfig.plainMerged) _ :=
    Reaches.cons (a := .spawn (.updateRateLimit ⟨some 1, none⟩)) trivial rfl <|
    Reaches.cons (a := .move 0 ()) trivial rfl <|
    Reaches.single (a := .move 0 ()) trivial rfl
  have hreload : Reaches (step silent) Free (start FullConfig.plainMerged) _ :=
    Reaches.cons (a := .spawn (.reloadConfig
      (.ok { FullConfig.plainFile with batchGenerate := ⟨0⟩ }))) trivial rfl <|
    Reaches.single (a := .move 0 ()) trivial rfl
  exact ⟨⟨_, hupdate, rfl, by decide +kernel⟩, ⟨_, hreload, rfl, by decide +kernel⟩⟩

/-! ## Updates that stay -/

/-- The value given to a setting by an update that no later one and no replacement has changed. -/
def promised {α : Type} (f : Update → Option α) : List Event → Option α
  | [] => none
  | .replaced :: _ => none
  | .updated u :: es => (f u).or (promised f es)

/-- Every promised value is in force. -/
structure Kept (m : Memory) : Prop where
  level : ∀ v, promised Update.level m.log = some v → m.config.logging.level = v
  defaultRps : ∀ v, promised Update.defaultRps m.log = some v → m.config.rateLimit.defaultRps = v
  burstSize : ∀ v, promised Update.burstSize m.log = some v → m.config.rateLimit.burstSize = v

/-- The copy that is about to be stored has the promised values, but for those it replaces. -/
def NotStale (w : World) : Task → Prop
  | .locking req config =>
    (∀ v, promised Update.level w.shared.log = some v → config.logging.level = v) ∧
    (req.defaultRps = none → ∀ v, promised Update.defaultRps w.shared.log = some v →
      config.rateLimit.defaultRps = v) ∧
    (req.burstSize = none → ∀ v, promised Update.burstSize w.shared.log = some v →
      config.rateLimit.burstSize = v)
  | _ => True

/-- The promises are kept, and a waiting copy has the values of its request. -/
structure KeptInv (w : World) : Prop where
  kept : Kept w.shared
  copies : ∀ req config, .locking req config ∈ w.tasks →
    (∀ v, req.defaultRps = some v → config.rateLimit.defaultRps = v) ∧
    (∀ v, req.burstSize = some v → config.rateLimit.burstSize = v)

/-- An update of one setting keeps the promise exactly when it sets the setting or has the promised
value. -/
theorem promised_updated_iff {α : Type} {f : Update → Option α} {u : Update} {es : List Event}
    {value : α} (h : ∀ v, f u = some v → value = v) :
    (∀ v, promised f (.updated u :: es) = some v → value = v) ↔
      (f u = none → ∀ v, promised f es = some v → value = v) := by
  rw [promised]
  cases hu : f u with
  | none => simp
  | some v =>
    have hv := h v hu
    simp [hv]

theorem kept_install (m : Memory) (config : FullConfig) : Kept (install m config) where
  level v hv := by cases hv
  defaultRps v hv := by cases hv
  burstSize v hv := by cases hv

theorem Kept.finishLogging (h : Kept m) (req : UpdateLoggingRequest) : Kept (finishLogging m req) where
  level := by
    refine (promised_updated_iff (f := Update.level) fun v hv => ?_).mpr fun hnone v hv => ?_
    · have hlevel : req.newLevel = some v := hv
      simp [ConfigManager.finishLogging, UpdateLoggingRequest.patch, hlevel]
    · have hlevel : req.newLevel = none := hnone
      simp only [ConfigManager.finishLogging, UpdateLoggingRequest.patch, hlevel, Option.getD_none]
      exact h.level v hv
  defaultRps := (promised_updated_iff (f := Update.defaultRps) fun _ hv => (by cases hv)).mpr
    fun _ => h.defaultRps
  burstSize := (promised_updated_iff (f := Update.burstSize) fun _ hv => (by cases hv)).mpr
    fun _ => h.burstSize

/-- A stored copy keeps the promises that its request leaves alone, if it knows of them. -/
theorem kept_finishRateLimit_iff {req : UpdateRateLimitRequest}
    (hrps : ∀ v, req.defaultRps = some v → config.rateLimit.defaultRps = v)
    (hburst : ∀ v, req.burstSize = some v → config.rateLimit.burstSize = v) :
    Kept (finishRateLimit m req config) ↔
      (∀ v, promised Update.level m.log = some v → config.logging.level = v) ∧
      (req.defaultRps = none → ∀ v, promised Update.defaultRps m.log = some v →
        config.rateLimit.defaultRps = v) ∧
      (req.burstSize = none → ∀ v, promised Update.burstSize m.log = some v →
        config.rateLimit.burstSize = v) := by
  constructor
  · intro h
    exact ⟨(promised_updated_iff (f := Update.level) fun _ hv => (by cases hv)).mp h.level rfl,
      (promised_updated_iff (f := Update.defaultRps) hrps).mp h.defaultRps,
      (promised_updated_iff (f := Update.burstSize) hburst).mp h.burstSize⟩
  · intro ⟨hlevel, hrps', hburst'⟩
    exact ⟨(promised_updated_iff (f := Update.level) fun _ hv => (by cases hv)).mpr fun _ => hlevel,
      (promised_updated_iff (f := Update.defaultRps) hrps).mpr hrps',
      (promised_updated_iff (f := Update.burstSize) hburst).mpr hburst'⟩

theorem KeptInv.kept_move (h : KeptInv w) {i : ℕ} (hp : w.tasks[i]? = some p)
    (hmove : Moved w.shared p m' q) : Kept m' ↔ NotStale w p := by
  cases hmove with
  | copy | unreadable | respond => exact ⟨fun _ => trivial, fun _ => h.kept⟩
  | refuse call response => exact ⟨fun _ => trivial, fun _ => h.kept⟩
  | logging req response => exact ⟨fun _ => trivial, fun _ => h.kept.finishLogging req⟩
  | reload config => exact ⟨fun _ => trivial, fun _ => kept_install _ _⟩
  | replace config => exact ⟨fun _ => trivial, fun _ => kept_install _ _⟩
  | rateLimit req config response =>
    obtain ⟨hrps, hburst⟩ := h.copies req config (List.mem_of_getElem? hp)
    exact kept_finishRateLimit_iff hrps hburst

theorem keptInv_step (h : KeptInv w) (hC : Crowd.Guard NotStale w act)
    (hs : step manager w act = some w') : KeptInv w' := by
  rcases step_cases hs with ⟨call, rfl, rfl⟩ | ⟨i, a, p, m', q, rfl, hp, hmove, rfl⟩ | ⟨-, rfl⟩
  · exact ⟨h.kept, fun req config hin => h.copies req config (locking_mem_spawn hin)⟩
  · refine ⟨(h.kept_move hp hmove).mpr (hC p hp), fun req config hin => ?_⟩
    rcases locking_mem_set hin with hin | hq
    · exact h.copies req config hin
    · obtain ⟨rfl, -⟩ := hmove.locking hq
      exact ⟨fun v hv => by simp [UpdateRateLimitRequest.patch, hv],
        fun v hv => by simp [UpdateRateLimitRequest.patch, hv]⟩
  · exact h

/-- **No update is lost** as long as no stale copy is stored; and the first stale copy that is
stored loses one. -/
theorem updates_kept (h : Reaches (step manager) (Crowd.Guard NotStale) (start config) w) :
    Kept w.shared ∧ ∀ act w', step manager w act = some w' →
      (Kept w'.shared ↔ Crowd.Guard NotStale w act) := by
  have hinv : KeptInv w := h.invariant
    ⟨⟨fun _ hv => (by cases hv), fun _ hv => (by cases hv), fun _ hv => (by cases hv)⟩,
      fun _ _ hin => (by cases hin)⟩
    fun _ _ _ hi hC hs => keptInv_step hi hC hs
  refine ⟨hinv.kept, fun act w' hs => ?_⟩
  rcases step_cases hs with ⟨call, rfl, rfl⟩ | ⟨i, a, p, m', q, rfl, hp, hmove, rfl⟩ | ⟨rfl, rfl⟩
  · exact ⟨fun _ => trivial, fun _ => hinv.kept⟩
  · refine (hinv.kept_move hp hmove).trans ⟨fun hok p' hp' => ?_, fun hC => hC p hp⟩
    exact Option.some.inj (hp.symm.trans hp') ▸ hok
  · exact ⟨fun _ => trivial, fun _ => hinv.kept⟩

/-- One update after the other: both stay. -/
theorem updates_kept_two : ∃ w, Reaches (step silent) (Crowd.Guard NotStale)
    (start FullConfig.plainMerged) w ∧ promised Update.level w.shared.log = some .warn ∧
    promised Update.defaultRps w.shared.log = some 500 ∧ Kept w.shared := by
  have hrun : Reaches (step silent) (Crowd.Guard NotStale) (start FullConfig.plainMerged) _ :=
    Reaches.cons (a := .spawn (.updateLogging ⟨some "warn"⟩)) trivial rfl <|
    Reaches.cons (a := .move 0 ()) (fun p hp => by cases hp; trivial) rfl <|
    Reaches.cons (a := .spawn (.updateRateLimit ⟨some 500, none⟩)) trivial rfl <|
    Reaches.cons (a := .move 1 ()) (fun p hp => by cases hp; trivial) rfl <|
    Reaches.single (a := .move 1 ()) (fun p hp => by
      cases hp
      refine ⟨?_, ?_, ?_⟩
      · intro v hv
        exact Option.some.inj hv
      · intro hnone
        cases hnone
      · intro _ v hv
        cases hv) rfl
  exact ⟨_, hrun, rfl, rfl, (updates_kept hrun).1⟩

/-- An update of the rate limit copies the configuration, the log level is changed, and the copy
is stored. -/
theorem lost_update : ∃ w, Reaches (step silent) Free (start FullConfig.plainMerged) w ∧
    promised Update.level w.shared.log = some .warn ∧ w.shared.config.logging.level = .debug := by
  have hrun : Reaches (step silent) Free (start FullConfig.plainMerged) _ :=
    Reaches.cons (a := .spawn (.updateRateLimit ⟨some 500, none⟩)) trivial rfl <|
    Reaches.cons (a := .move 0 ()) trivial rfl <|
    Reaches.cons (a := .spawn (.updateLogging ⟨some "warn"⟩)) trivial rfl <|
    Reaches.cons (a := .move 1 ()) trivial rfl <|
    Reaches.single (a := .move 0 ()) trivial rfl
  exact ⟨_, hrun, rfl, rfl⟩

end ConfigManager

end NebulaId
