import NebulaId.Machine.Run
import NebulaId.Types.Id
import Mathlib.Logic.Function.Basic
import Mathlib.Data.List.Nodup

/-!
# The degradation manager (`core/algorithm/degradation_manager.rs`)

The manager keeps a health record for every algorithm, a primary algorithm, a fallback chain
and `current_state`, a cache of what `determine_effective_algorithm` found the last time it
was asked. `get_effective_algorithm` reads the cache. Time is in nanoseconds and passes
between the operations and between the turns of a health check.

* `healthTurn`: what one check of one algorithm does to its record.
* `stale_after_manual_degrade`: `manual_degrade` leaves the cache as it was.
* `Fits`: a cached state that is right for a primary, a chain and the healthy algorithms.
* `orderly_consistent`: the cache is right in every state that an orderly run reaches, and
  the next step keeps it so exactly when it is orderly.
-/

namespace NebulaId

open Machine

inductive HealthStatus where
  | healthy
  | degraded (reason : String)
  | unhealthy (reason : String)
  deriving DecidableEq

inductive CircuitBreakerState where
  | closed
  | opened
  | halfOpen
  deriving DecidableEq

inductive DegradationState where
  | normal
  | degraded (alg : AlgorithmType)
  | critical
  deriving DecidableEq

structure DegradationConfig where
  failureThreshold : UInt8
  recoveryThreshold : UInt8
  circuitBreakerTimeoutMs : UInt64
  halfOpenSuccessThreshold : UInt8
  enableCircuitBreaker : Bool

namespace DegradationConfig

/-- `DegradationConfig::default` -/
def default : DegradationConfig where
  failureThreshold := 5
  recoveryThreshold := 10
  circuitBreakerTimeoutMs := 60000
  halfOpenSuccessThreshold := 2
  enableCircuitBreaker := true

def timeoutNanos (c : DegradationConfig) : ℕ := c.circuitBreakerTimeoutMs.toNat * 1000000

end DegradationConfig

structure AlgorithmHealthState where
  consecutiveFailures : UInt8
  consecutiveSuccesses : UInt8
  currentState : Bool
  isDegraded : Bool
  circuitBreakerState : CircuitBreakerState
  circuitBreakerOpenedAt : Option ℕ
  flags : currentState = !isDegraded

namespace AlgorithmHealthState

def new : AlgorithmHealthState := ⟨0, 0, true, false, .closed, none, rfl⟩

def recordFailure (s : AlgorithmHealthState) : AlgorithmHealthState :=
  { s with consecutiveFailures := s.consecutiveFailures + 1, consecutiveSuccesses := 0 }

def recordSuccess (s : AlgorithmHealthState) : AlgorithmHealthState :=
  { s with consecutiveSuccesses := s.consecutiveSuccesses + 1, consecutiveFailures := 0 }

def shouldDegrade (s : AlgorithmHealthState) (threshold : UInt8) : Bool :=
  decide (threshold ≤ s.consecutiveFailures)

def shouldRecover (s : AlgorithmHealthState) (threshold : UInt8) : Bool :=
  decide (threshold ≤ s.consecutiveSuccesses)

def markDegraded (s : AlgorithmHealthState) : AlgorithmHealthState :=
  { s with isDegraded := true, currentState := false, flags := rfl }

def markRecovered (s : AlgorithmHealthState) : AlgorithmHealthState :=
  { s with isDegraded := false, currentState := true, flags := rfl }

def reset (_ : AlgorithmHealthState) : AlgorithmHealthState := new

def openCircuitBreaker (s : AlgorithmHealthState) (now : ℕ) : AlgorithmHealthState :=
  { s with circuitBreakerState := .opened, circuitBreakerOpenedAt := some now }

def halfOpenCircuitBreaker (s : AlgorithmHealthState) : AlgorithmHealthState :=
  { s with circuitBreakerState := .halfOpen }

def closeCircuitBreaker (s : AlgorithmHealthState) : AlgorithmHealthState :=
  { s with circuitBreakerState := .closed, circuitBreakerOpenedAt := none }

def isCircuitOpen (s : AlgorithmHealthState) (timeoutNanos now : ℕ) : Bool :=
  match s.circuitBreakerState, s.circuitBreakerOpenedAt with
  | .opened, some openedAt => decide (now - openedAt < timeoutNanos)
  | _, _ => false

end AlgorithmHealthState

/-- What a turn of `check_all_health` leaves to the manager: nothing, the mark that a flag
changed, or a degradation to be triggered. -/
inductive Turned where
  | quiet
  | changed
  | triggered
  deriving DecidableEq

open AlgorithmHealthState in
/-- The second half of a turn, for an algorithm that is not degraded. -/
def checkUndegraded (c : DegradationConfig) (now : ℕ) (health : HealthStatus)
    (s : AlgorithmHealthState) : AlgorithmHealthState × Turned :=
  if s.isDegraded then (s, .quiet)
  else match health with
    | .unhealthy _ =>
      let s := s.recordFailure
      if s.shouldDegrade c.failureThreshold then
        ((if c.enableCircuitBreaker then s.openCircuitBreaker now else s).markDegraded, .triggered)
      else (s, .quiet)
    | .degraded _ => (s, .quiet)
    | .healthy => (s.recordSuccess, .quiet)

/-- A turn of `check_all_health`. -/
def healthTurn (c : DegradationConfig) (now : ℕ) (health : HealthStatus)
    (s : AlgorithmHealthState) : AlgorithmHealthState × Turned :=
  if c.enableCircuitBreaker then
    match s.circuitBreakerState with
    | .opened =>
      if s.isCircuitOpen c.timeoutNanos now then (s, .quiet)
      else checkUndegraded c now health s.halfOpenCircuitBreaker
    | .halfOpen => match health with
      | .healthy =>
        if c.halfOpenSuccessThreshold ≤ s.consecutiveSuccesses then
          let s := s.closeCircuitBreaker
          if s.isDegraded then (s.markRecovered, .changed) else (s, .quiet)
        else (s.recordSuccess, .quiet)
      | .degraded _ | .unhealthy _ => (s.recordFailure.openCircuitBreaker now, .quiet)
    | .closed => checkUndegraded c now health s
  else checkUndegraded c now health s

structure DegradationManager where
  config : DegradationConfig
  algorithms : AlgorithmType → Bool
  healthStates : AlgorithmType → Option AlgorithmHealthState
  currentState : DegradationState
  primaryAlgorithm : AlgorithmType
  fallbackChain : List AlgorithmType
  now : ℕ

/-- One round of the loop of `check_all_health`: the algorithm, the time since the last
round, and the answer of its health check. -/
structure HealthTurn where
  alg : AlgorithmType
  delay : ℕ
  health : HealthStatus

inductive DegradationOp where
  | wait (nanos : ℕ)
  | registerAlgorithm (alg : AlgorithmType)
  | setPrimaryAlgorithm (alg : AlgorithmType)
  | setFallbackChain (chain : List AlgorithmType)
  | recordGenerationResult (alg : AlgorithmType) (success : Bool)
  | checkAllHealth (turns : List HealthTurn)
  | manualDegrade (alg : AlgorithmType)
  | manualRecover (alg : AlgorithmType)

def AlgorithmType.debugName : AlgorithmType → String
  | .segment => "Segment"
  | .snowflake => "Snowflake"
  | .uuidV7 => "UuidV7"
  | .uuidV4 => "UuidV4"

namespace DegradationManager

def new (config : DegradationConfig) : DegradationManager where
  config := config
  algorithms _ := false
  healthStates _ := none
  currentState := .normal
  primaryAlgorithm := .segment
  fallbackChain := []
  now := 0

/-- The algorithm has a health record, and the record is not degraded. -/
def healthy (m : DegradationManager) (alg : AlgorithmType) : Bool :=
  match m.healthStates alg with
  | some s => !s.isDegraded
  | none => false

def degraded (m : DegradationManager) (alg : AlgorithmType) : Bool :=
  match m.healthStates alg with
  | some s => s.isDegraded
  | none => false

def determineEffectiveAlgorithm (m : DegradationManager) : DegradationState :=
  if m.healthy m.primaryAlgorithm then .normal
  else match m.fallbackChain.find? m.healthy with
    | some fallback => .degraded fallback
    | none => .critical

/-- The algorithm that a state stands for. -/
def named (m : DegradationManager) : DegradationState → AlgorithmType
  | .normal => m.primaryAlgorithm
  | .degraded alg => alg
  | .critical =>
    (m.fallbackChain.find? fun alg => match m.healthStates alg with
      | some s => s.currentState
      | none => false).getD m.primaryAlgorithm

def getEffectiveAlgorithm (m : DegradationManager) : AlgorithmType := m.named m.currentState

def wait (m : DegradationManager) (nanos : ℕ) : DegradationManager := { m with now := m.now + nanos }

def setHealth (m : DegradationManager) (alg : AlgorithmType) (s : AlgorithmHealthState) :
    DegradationManager :=
  { m with healthStates := Function.update m.healthStates alg (some s) }

/-- `*self.current_state.write() = self.determine_effective_algorithm()` -/
def refresh (m : DegradationManager) : DegradationManager :=
  { m with currentState := m.determineEffectiveAlgorithm }

def registerAlgorithm (m : DegradationManager) (alg : AlgorithmType) : DegradationManager :=
  { m with algorithms := Function.update m.algorithms alg true }.setHealth alg .new

def triggerDegradation (m : DegradationManager) (alg : AlgorithmType) (s : AlgorithmHealthState) :
    DegradationManager := (m.setHealth alg s.markDegraded).refresh

def attemptRecovery (m : DegradationManager) (alg : AlgorithmType) (s : AlgorithmHealthState) :
    DegradationManager :=
  let m := m.setHealth alg s.markRecovered
  if alg = m.primaryAlgorithm then m.refresh else m

def recordGenerationResult (m : DegradationManager) (alg : AlgorithmType) (success : Bool) :
    DegradationManager :=
  match m.healthStates alg with
  | none => m
  | some s =>
    if success then
      let s := s.recordSuccess
      if s.isDegraded && s.shouldRecover m.config.recoveryThreshold then m.attemptRecovery alg s
      else m.setHealth alg s
    else
      let s := s.recordFailure
      if !s.isDegraded && s.shouldDegrade m.config.failureThreshold then m.triggerDegradation alg s
      else m.setHealth alg s

/-- The answer of the health check; an algorithm that is not there counts as unhealthy. -/
def healthCheck (m : DegradationManager) (t : HealthTurn) : HealthStatus :=
  if m.algorithms t.alg then t.health
  else .unhealthy ("Algorithm " ++ t.alg.debugName ++ " not found")

/-- One round of the loop of `check_all_health`, with its `state_changed`. -/
def checkOne (p : DegradationManager × Bool) (t : HealthTurn) : DegradationManager × Bool :=
  let m := p.1.wait t.delay
  match m.healthStates t.alg with
  | none => (m, p.2)
  | some s =>
    let r := healthTurn m.config m.now (m.healthCheck t) s
    let m := m.setHealth t.alg r.1
    match r.2 with
    | .quiet => (m, p.2)
    | .changed => (m, true)
    | .triggered => (m.refresh, true)

/-- The rounds visit every health record once, in some order. -/
def Visits (m : DegradationManager) (turns : List HealthTurn) : Prop :=
  (turns.map HealthTurn.alg).Nodup ∧
    ∀ alg ∈ [AlgorithmType.segment, .snowflake, .uuidV7, .uuidV4],
      alg ∈ turns.map HealthTurn.alg ↔ (m.healthStates alg).isSome

instance (m : DegradationManager) (turns : List HealthTurn) : Decidable (m.Visits turns) :=
  inferInstanceAs (Decidable (_ ∧ _))

def checkAllHealth (m : DegradationManager) (turns : List HealthTurn) : Option DegradationManager :=
  if m.Visits turns then
    let (m, stateChanged) := turns.foldl checkOne (m, false)
    some (if stateChanged then m.refresh else m)
  else none

def manualDegrade (m : DegradationManager) (alg : AlgorithmType) : DegradationManager :=
  match m.healthStates alg with
  | some s => m.setHealth alg s.markDegraded
  | none => m.setHealth alg AlgorithmHealthState.new.markDegraded

def manualRecover (m : DegradationManager) (alg : AlgorithmType) : DegradationManager :=
  match m.healthStates alg with
  | some s => m.setHealth alg s.reset
  | none => m

def step (m : DegradationManager) : DegradationOp → Option DegradationManager
  | .wait nanos => some (m.wait nanos)
  | .registerAlgorithm alg => some (m.registerAlgorithm alg)
  | .setPrimaryAlgorithm alg => some { m with primaryAlgorithm := alg }
  | .setFallbackChain chain => some { m with fallbackChain := chain }
  | .recordGenerationResult alg success => some (m.recordGenerationResult alg success)
  | .checkAllHealth turns => m.checkAllHealth turns
  | .manualDegrade alg => some (m.manualDegrade alg)
  | .manualRecover alg => some (m.manualRecover alg)

/-- No degraded algorithm is used while the primary or a member of the chain is healthy, and
the algorithm used is the one that `determine_effective_algorithm` finds. -/
structure Consistent (m : DegradationManager) : Prop where
  best : m.degraded m.getEffectiveAlgorithm = true →
    ∀ alg ∈ m.primaryAlgorithm :: m.fallbackChain, m.healthy alg = false
  determined : m.getEffectiveAlgorithm = m.named m.determineEffectiveAlgorithm

/-- The primary is degraded by hand: the cache still says `Normal`, and the fallback that is
there is not used. -/
theorem stale_after_manual_degrade : ∃ m, Reaches step Free (new .default) m ∧
    m.getEffectiveAlgorithm = .segment ∧ m.degraded .segment = true ∧
      m.healthy .snowflake = true ∧ ¬ Consistent m := by
  have hrun : ((run step (new .default)
      [.registerAlgorithm .segment, .registerAlgorithm .snowflake, .setFallbackChain [.snowflake],
        .manualDegrade .segment]).map fun m =>
      (m.getEffectiveAlgorithm, m.degraded .segment, m.healthy .snowflake, m.fallbackChain)) =
      some (.segment, true, true, [.snowflake]) := by
    decide
  obtain ⟨m, hm, hstate⟩ := Option.map_eq_some_iff.mp hrun
  simp only [Prod.mk.injEq] at hstate
  obtain ⟨heff, hdegraded, hhealthy, hchain⟩ := hstate
  refine ⟨m, reaches_of_run hm, heff, hdegraded, hhealthy, fun h => ?_⟩
  have hnone := h.best (heff ▸ hdegraded) .snowflake (by simp [hchain])
  rw [hhealthy] at hnone
  cases hnone

/-! ## When a cached state is right -/

/-- The cached state is right for this primary, this chain and these healthy algorithms.
`Normal`: the primary is healthy, or nobody in the chain is. `Degraded`: the algorithm is the
first healthy one, or the primary when there is none. `Critical`: if the primary is healthy,
nobody in the chain is, or the primary is the first of them. -/
def Fits (state : DegradationState) (primary : AlgorithmType) (chain : List AlgorithmType)
    (healthy : AlgorithmType → Bool) : Prop :=
  match state with
  | .normal => healthy primary = true ∨ ∀ alg ∈ chain, healthy alg = false
  | .degraded alg => ((primary :: chain).find? healthy).getD primary = alg
  | .critical => healthy primary = true → (chain.find? healthy).getD primary = primary

variable {m m' : DegradationManager} {alg : AlgorithmType}

theorem named_critical :
    m.named .critical = (m.fallbackChain.find? m.healthy).getD m.primaryAlgorithm := by
  have hflags : (fun alg => match m.healthStates alg with
      | some s => s.currentState
      | none => false) = m.healthy := by
    funext alg
    unfold healthy
    cases m.healthStates alg with
    | none => rfl
    | some s => exact s.flags
  unfold named
  rw [hflags]

/-- What `determine_effective_algorithm` finds is the first healthy algorithm of the primary
and the chain, and the primary when there is none. -/
theorem named_determine : m.named m.determineEffectiveAlgorithm =
    ((m.primaryAlgorithm :: m.fallbackChain).find? m.healthy).getD m.primaryAlgorithm := by
  unfold determineEffectiveAlgorithm
  cases hp : m.healthy m.primaryAlgorithm with
  | true => simp [hp, named]
  | false =>
    cases hc : m.fallbackChain.find? m.healthy with
    | none => simp [hp, hc, named_critical]
    | some fallback => simp [hp, hc, named]

/-- The first healthy algorithm is used whenever there is one. -/
theorem degraded_eq_false_of_find {alg' : AlgorithmType}
    (h : (m.primaryAlgorithm :: m.fallbackChain).find? m.healthy = some alg') :
    m.degraded alg' = false := by
  have hhealthy := List.find?_some h
  unfold healthy at hhealthy
  unfold degraded
  cases hs : m.healthStates alg' with
  | none => rfl
  | some s => simpa [hs] using hhealthy

theorem consistent_iff_determined :
    Consistent m ↔ m.getEffectiveAlgorithm = m.named m.determineEffectiveAlgorithm := by
  refine ⟨Consistent.determined, fun h => ⟨?_, h⟩⟩
  intro hdegraded alg halg
  rw [h, named_determine] at hdegraded
  cases hfind : (m.primaryAlgorithm :: m.fallbackChain).find? m.healthy with
  | none => simpa using List.find?_eq_none.mp hfind alg halg
  | some alg' =>
    rw [hfind, Option.getD_some, degraded_eq_false_of_find hfind] at hdegraded
    cases hdegraded

/-- **The cache is right** exactly when the cached state fits. -/
theorem consistent_iff_fits : Consistent m ↔
    Fits m.currentState m.primaryAlgorithm m.fallbackChain m.healthy := by
  rw [consistent_iff_determined, named_determine, getEffectiveAlgorithm]
  unfold Fits
  cases m.currentState with
  | normal =>
    cases hp : m.healthy m.primaryAlgorithm with
    | true => simp [named, hp]
    | false =>
      simp only [named, hp, List.find?_cons, Bool.false_eq_true, false_or]
      constructor
      · intro h alg halg
        by_contra hhealthy
        have hsome : (m.fallbackChain.find? m.healthy).isSome = true :=
          List.find?_isSome.mpr ⟨alg, halg, by simpa using hhealthy⟩
        obtain ⟨alg', halg'⟩ := Option.isSome_iff_exists.mp hsome
        rw [halg', Option.getD_some] at h
        have hfound := List.find?_some halg'
        rw [← h, hp] at hfound
        cases hfound
      · intro h
        rw [List.find?_eq_none.mpr fun alg halg => by simp [h alg halg]]
        rfl
  | degraded alg => exact eq_comm
  | critical =>
    rw [named_critical]
    cases hp : m.healthy m.primaryAlgorithm with
    | true => simp [hp]
    | false => simp [hp]

theorem consistent_new (config : DegradationConfig) : Consistent (new config) := by
  rw [consistent_iff_fits]
  exact Or.inr fun _ halg => (List.not_mem_nil halg).elim

/-- A refreshed cache is right. -/
theorem consistent_refresh : Consistent m.refresh :=
  consistent_iff_determined.mpr rfl

/-! ## What an operation does to the choice -/

/-- The choice of the algorithm stands as it was. -/
structure SameChoice (m m' : DegradationManager) : Prop where
  current : m'.currentState = m.currentState
  primary : m'.primaryAlgorithm = m.primaryAlgorithm
  chain : m'.fallbackChain = m.fallbackChain
  healthy : m'.healthy = m.healthy

theorem SameChoice.refl (m : DegradationManager) : SameChoice m m := ⟨rfl, rfl, rfl, rfl⟩

theorem SameChoice.trans {m'' : DegradationManager} (h : SameChoice m m')
    (h' : SameChoice m' m'') : SameChoice m m'' where
  current := h'.current.trans h.current
  primary := h'.primary.trans h.primary
  chain := h'.chain.trans h.chain
  healthy := h'.healthy.trans h.healthy

theorem SameChoice.consistent (h : SameChoice m m') (hm : Consistent m) : Consistent m' := by
  rw [consistent_iff_fits] at hm ⊢
  rw [h.current, h.primary, h.chain, h.healthy]
  exact hm

@[simp] theorem healthy_setHealth (m : DegradationManager) (alg : AlgorithmType)
    (s : AlgorithmHealthState) :
    (m.setHealth alg s).healthy = Function.update m.healthy alg (!s.isDegraded) := by
  funext alg'
  by_cases h : alg' = alg
  · subst h
    simp [healthy, setHealth]
  · simp [healthy, setHealth, Function.update_of_ne h]

/-- A record with the flag it had before. -/
theorem sameChoice_setHealth {s r : AlgorithmHealthState} (hs : m.healthStates alg = some s)
    (hflag : r.isDegraded = s.isDegraded) : SameChoice m (m.setHealth alg r) where
  current := rfl
  primary := rfl
  chain := rfl
  healthy := by
    have hsame : m.healthy alg = !r.isDegraded := by
      rw [hflag, healthy, hs]
    rw [healthy_setHealth, ← hsame, Function.update_eq_self]

theorem checkUndegraded_quiet {c : DegradationConfig} {now : ℕ} {health : HealthStatus}
    {s : AlgorithmHealthState} (h : (checkUndegraded c now health s).2 = .quiet) :
    (checkUndegraded c now health s).1.isDegraded = s.isDegraded := by
  unfold checkUndegraded at h ⊢
  split
  · rfl
  · rename_i hs
    rw [if_neg hs] at h
    cases health with
    | healthy => rfl
    | degraded reason => rfl
    | unhealthy reason =>
      dsimp only at h ⊢
      split
      · rename_i hdegrade
        rw [if_pos hdegrade] at h
        cases h
      · rfl

/-- A quiet turn leaves the flag alone. -/
theorem healthTurn_quiet {c : DegradationConfig} {now : ℕ} {health : HealthStatus}
    {s : AlgorithmHealthState} (h : (healthTurn c now health s).2 = .quiet) :
    (healthTurn c now health s).1.isDegraded = s.isDegraded := by
  unfold healthTurn at h ⊢
  by_cases hc : c.enableCircuitBreaker = true
  · rw [if_pos hc] at h ⊢
    cases hb : s.circuitBreakerState with
    | closed =>
      simp only [hb] at h ⊢
      exact checkUndegraded_quiet h
    | opened =>
      simp only [hb] at h ⊢
      split
      · rfl
      · rename_i hopen
        rw [if_neg hopen] at h
        exact checkUndegraded_quiet h
    | halfOpen =>
      cases health with
      | healthy =>
        simp only [hb] at h ⊢
        split
        · rename_i hle
          rw [if_pos hle] at h
          split
          · rename_i hdegraded
            rw [if_pos hdegraded] at h
            cases h
          · rfl
        · rfl
      | degraded reason => rfl
      | unhealthy reason => rfl
  · rw [if_neg hc] at h ⊢
    exact checkUndegraded_quiet h

/-- A round after which nothing is marked as changed leaves the choice alone. -/
theorem checkOne_unchanged {b : Bool} {t : HealthTurn} (h : (checkOne (m, b) t).2 = false) :
    b = false ∧ SameChoice m (checkOne (m, b) t).1 := by
  unfold checkOne at h ⊢
  dsimp only at h ⊢
  cases hs : (m.wait t.delay).healthStates t.alg with
  | none =>
    rw [hs] at h
    exact ⟨h, ⟨rfl, rfl, rfl, rfl⟩⟩
  | some s =>
    simp only [hs] at h ⊢
    split at h
    · rename_i hquiet
      refine ⟨h, ?_⟩
      have hwait : SameChoice m (m.wait t.delay) := ⟨rfl, rfl, rfl, rfl⟩
      exact hwait.trans (sameChoice_setHealth hs (healthTurn_quiet hquiet))
    · cases h
    · cases h

theorem foldl_checkOne_unchanged {b : Bool} {turns : List HealthTurn}
    (h : (turns.foldl checkOne (m, b)).2 = false) :
    b = false ∧ SameChoice m (turns.foldl checkOne (m, b)).1 := by
  induction turns generalizing m b with
  | nil => exact ⟨h, .refl m⟩
  | cons t turns ih =>
    rw [List.foldl_cons] at h ⊢
    obtain ⟨hb, hrest⟩ := ih h
    obtain ⟨hb', hfirst⟩ := checkOne_unchanged hb
    exact ⟨hb', hfirst.trans hrest⟩

/-- A health check ends with a right cache, or changes nothing of the choice. -/
theorem consistent_checkAllHealth {turns : List HealthTurn} (hm : Consistent m)
    (h : m.checkAllHealth turns = some m') : Consistent m' := by
  unfold checkAllHealth at h
  split at h
  · cases h
    split
    · exact consistent_refresh
    · rename_i hchanged
      exact (foldl_checkOne_unchanged (by simpa using hchanged)).2.consistent hm
  · cases h

/-! ## Orderly runs -/

/-- The operation makes the algorithm healthy without a refresh: a successful generation
that recovers an algorithm other than the primary. -/
def RecoversQuietly (m : DegradationManager) (alg : AlgorithmType) : Prop :=
  alg ≠ m.primaryAlgorithm ∧ ∃ s, m.healthStates alg = some s ∧ s.isDegraded = true ∧
    s.recordSuccess.shouldRecover m.config.recoveryThreshold = true

/-- An operation that writes a flag, the primary or the chain without a refresh leaves a
cached state that still fits. -/
def Orderly (m : DegradationManager) : DegradationOp → Prop
  | .registerAlgorithm alg => Fits m.currentState m.primaryAlgorithm m.fallbackChain
      (Function.update m.healthy alg true)
  | .setPrimaryAlgorithm alg => Fits m.currentState alg m.fallbackChain m.healthy
  | .setFallbackChain chain => Fits m.currentState m.primaryAlgorithm chain m.healthy
  | .manualDegrade alg => Fits m.currentState m.primaryAlgorithm m.fallbackChain
      (Function.update m.healthy alg false)
  | .manualRecover alg => (m.healthStates alg).isSome → Fits m.currentState m.primaryAlgorithm
      m.fallbackChain (Function.update m.healthy alg true)
  | .recordGenerationResult alg true => RecoversQuietly m alg → Fits m.currentState
      m.primaryAlgorithm m.fallbackChain (Function.update m.healthy alg true)
  | _ => True

theorem consistent_recordGenerationResult_false (hm : Consistent m) :
    Consistent (m.recordGenerationResult alg false) := by
  unfold recordGenerationResult
  cases hs : m.healthStates alg with
  | none => exact hm
  | some s =>
    dsimp only
    split
    · contradiction
    · split
      · exact consistent_refresh
      · exact (sameChoice_setHealth (r := s.recordFailure) hs rfl).consistent hm

theorem consistent_recordGenerationResult_true (hm : Consistent m) :
    Consistent (m.recordGenerationResult alg true) ↔
      Orderly m (.recordGenerationResult alg true) := by
  unfold Orderly RecoversQuietly recordGenerationResult
  cases hs : m.healthStates alg with
  | none => simp [hm, hs]
  | some s =>
    simp only [if_true, hs, Option.some.injEq, exists_eq_left']
    split
    · rename_i hrecover
      rw [Bool.and_eq_true] at hrecover
      unfold attemptRecovery
      dsimp only
      split
      · rename_i hprimary
        have hquiet : alg = m.primaryAlgorithm := hprimary
        simp [consistent_refresh, hquiet]
      · rename_i hprimary
        have hquiet : alg ≠ m.primaryAlgorithm := hprimary
        rw [consistent_iff_fits, healthy_setHealth]
        simp only [AlgorithmHealthState.markRecovered, Bool.not_false]
        exact ⟨fun h _ => h, fun h => h ⟨hquiet, hrecover⟩⟩
    · rename_i hrecover
      have hsame := (sameChoice_setHealth (r := s.recordSuccess) hs rfl).consistent hm
      refine ⟨fun _ h => absurd ?_ hrecover, fun _ => hsame⟩
      simpa [AlgorithmHealthState.recordSuccess] using h.2

/-- **One step** keeps the cache right exactly when it is orderly. -/
theorem consistent_step {op : DegradationOp} (hm : Consistent m) (hs : step m op = some m') :
    Consistent m' ↔ Orderly m op := by
  cases op with
  | wait nanos =>
    cases hs
    have hsame : SameChoice m (m.wait nanos) := ⟨rfl, rfl, rfl, rfl⟩
    exact iff_of_true (hsame.consistent hm) trivial
  | registerAlgorithm alg =>
    cases hs
    rw [consistent_iff_fits, registerAlgorithm, healthy_setHealth]
    rfl
  | setPrimaryAlgorithm alg =>
    cases hs
    exact consistent_iff_fits
  | setFallbackChain chain =>
    cases hs
    exact consistent_iff_fits
  | recordGenerationResult alg success =>
    cases hs
    cases success with
    | true => exact consistent_recordGenerationResult_true hm
    | false => exact iff_of_true (consistent_recordGenerationResult_false hm) trivial
  | checkAllHealth turns => exact iff_of_true (consistent_checkAllHealth hm hs) trivial
  | manualDegrade alg =>
    cases hs
    unfold manualDegrade Orderly
    cases m.healthStates alg with
    | none =>
      rw [consistent_iff_fits, healthy_setHealth]
      rfl
    | some s =>
      rw [consistent_iff_fits, healthy_setHealth]
      rfl
  | manualRecover alg =>
    cases hs
    unfold manualRecover Orderly
    cases hrecord : m.healthStates alg with
    | none => simp [hm, hrecord]
    | some s =>
      simp only [hrecord, Option.isSome_some, forall_const]
      rw [consistent_iff_fits, healthy_setHealth]
      rfl

/-- **Orderly runs.** The cache is right in every state that an orderly run reaches, and the
next operation keeps it so exactly when it is orderly. -/
theorem orderly_consistent {config : DegradationConfig}
    (h : Reaches step Orderly (new config) m) :
    Consistent m ∧ ∀ op m', step m op = some m' → (Consistent m' ↔ Orderly m op) := by
  have hm : Consistent m := h.invariant (consistent_new config)
    fun _ _ _ hi hord hs => (consistent_step hi hs).mpr hord
  exact ⟨hm, fun _ _ hs => consistent_step hm hs⟩

/-- Five failures of the primary bring the fallback in. -/
theorem orderly_consistent_failures : ∃ m, Reaches step Orderly (new .default) m ∧
    m.getEffectiveAlgorithm = .snowflake ∧ Consistent m := by
  have hreach : Reaches step Orderly (new .default) _ :=
    Reaches.cons (a := .registerAlgorithm .segment) (Or.inl rfl) rfl <|
    Reaches.cons (a := .registerAlgorithm .snowflake) (Or.inl rfl) rfl <|
    Reaches.cons (a := .setFallbackChain [.snowflake]) (Or.inl rfl) rfl <|
    Reaches.cons (a := .recordGenerationResult .segment false) trivial rfl <|
    Reaches.cons (a := .recordGenerationResult .segment false) trivial rfl <|
    Reaches.cons (a := .recordGenerationResult .segment false) trivial rfl <|
    Reaches.cons (a := .recordGenerationResult .segment false) trivial rfl <|
    Reaches.single (a := .recordGenerationResult .segment false) trivial rfl
  exact ⟨_, hreach, rfl, (orderly_consistent hreach).1⟩

end DegradationManager

end NebulaId
