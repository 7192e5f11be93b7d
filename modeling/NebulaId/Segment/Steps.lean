import Mathlib.Algebra.Order.Round
import Mathlib.Data.Rat.Floor
import Mathlib.Tactic.Positivity
import NebulaId.Config.AppConfig
import NebulaId.Database.Segments
import NebulaId.Machine.Script
import NebulaId.Segment.Buffer
import NebulaId.Segment.Datacenters

/-!
# The step of a segment (`core/algorithm/segment.rs`)

`StepCalculator::calculate` over exact rationals, and the requests that the two loaders send to the
repository, which takes the step as an `i32`.

* `Ordered.lowerBound_le_upperBound`: the bounds of the clamp are ordered for every accepted
  configuration.
* `calculate_bounds`, `calculate_mono`: the step stays between the bounds and grows with the number
  that is clamped.
* `dynamic_step`: bounds, monotonicity and the steps that the loaders request.
-/

namespace NebulaId

open Machine

/-- The CPU usage, from zero to one. -/
structure CpuMonitor where
  usage : ℚ
  nonneg : 0 ≤ usage
  le_one : usage ≤ 1

structure StepCalculator where
  velocityFactor : ℚ
  pressureFactor : ℚ
  cpuMonitor : Option CpuMonitor

/-- `f64::clamp`; it panics when the bounds are not ordered. -/
def clampBetween (x lo hi : ℚ) : Option ℚ :=
  if hi < lo then none else some (if x < lo then lo else if hi < x then hi else x)

/-- `f64::round`: halves go away from zero. -/
def roundHalfAway (x : ℚ) : ℤ := if x < 0 then ⌈x - 1 / 2⌉ else ⌊x + 1 / 2⌋

/-- The cast of a whole `f64` to `u64`, which saturates. -/
def saturateU64 (x : ℤ) : UInt64 := UInt64.ofNat (min x.toNat (2 ^ 64 - 1))

namespace SegmentAlgorithmConfig

/-- `min_step` of `calculate`; likewise the one below. -/
def lowerBound (config : SegmentAlgorithmConfig) : ℚ :=
  max (config.baseStep.toNat * (1 / 2)) config.minStep.toNat

def upperBound (config : SegmentAlgorithmConfig) : ℚ :=
  min (config.baseStep.toNat * 100) config.maxStep.toNat

end SegmentAlgorithmConfig

namespace StepCalculator

def default : StepCalculator := ⟨1 / 2, 3 / 10, none⟩

def withCpuMonitor (calculator : StepCalculator) (cpuMonitor : CpuMonitor) : StepCalculator :=
  { calculator with cpuMonitor := some cpuMonitor }

def getCpuUsage (calculator : StepCalculator) : ℚ :=
  match calculator.cpuMonitor with
  | some monitor => monitor.usage
  | none => 1 / 10

/-- The step before the bounds apply. With a base of zero the source divides by zero and gets NaN
here; both numbers become the step zero. -/
def nextStep (calculator : StepCalculator) (qps currentStep : UInt64)
    (config : SegmentAlgorithmConfig) : ℚ :=
  let step := if currentStep = 0 then config.baseStep else currentStep
  let velocity : ℚ := qps.toNat / step.toNat
  let pressure := calculator.getCpuUsage
  config.baseStep.toNat * (1 + calculator.velocityFactor * velocity) *
    (1 + calculator.pressureFactor * pressure)

/-- `none` stands for a panic. -/
def calculate (calculator : StepCalculator) (qps currentStep : UInt64)
    (config : SegmentAlgorithmConfig) : Option UInt64 :=
  (clampBetween (calculator.nextStep qps currentStep config) config.lowerBound
    config.upperBound).map fun x => saturateU64 (roundHalfAway x)

end StepCalculator

/-! ## The loaders -/

/-- `as i32` -/
def asI32 (n : UInt64) : Int32 := n.toUInt32.toInt32

inductive SegmentRequest where
  | allocateSegment (workspaceId bizTag : String) (step : Int32)
  | allocateSegmentWithDc (workspaceId bizTag : String) (step dcId : Int32)

def SegmentRequest.step : SegmentRequest → Int32
  | .allocateSegment _ _ step => step
  | .allocateSegmentWithDc _ _ step _ => step

/-- What a loader does: it sends requests, and ends with the results that it records in the detector
and what it returns. -/
abbrev SegmentScript : Type :=
  Script SegmentRequest (fun _ => Except String SegmentInfo) (List DcEvent × Result SegmentData)

def SegmentInfo.toData (segment : SegmentInfo) : SegmentData where
  startId := UInt64.ofInt segment.currentId
  maxId := UInt64.ofInt segment.maxId
  step := UInt64.ofInt segment.step
  version := 0

structure DatabaseSegmentLoader where
  dcFailureDetector : DcFailureDetector
  localDcId : UInt8
  stepCalculator : StepCalculator
  segmentConfig : SegmentAlgorithmConfig

namespace DatabaseSegmentLoader

def calculateStep (loader : DatabaseSegmentLoader) (qps : UInt64) : Option UInt64 :=
  loader.stepCalculator.calculate qps loader.segmentConfig.baseStep loader.segmentConfig

/-- `qps` is what the window counts. -/
def loadSegment (loader : DatabaseSegmentLoader) (order : loader.dcFailureDetector.KeyOrder)
    (qps : UInt64) (ctx : GenerateContext) : Option SegmentScript :=
  (loader.calculateStep qps).map fun step =>
    let dcId := loader.dcFailureDetector.selectBestDc order loader.localDcId
    match loader.dcFailureDetector.dcStates dcId with
    | some _ =>
      .call (.allocateSegmentWithDc ctx.workspaceId ctx.bizTag (asI32 step) (asI32 dcId.toUInt64))
        fun
        | .ok segment => .done ([.recordSuccess dcId], .ok segment.toData)
        | .error e => .done ([.recordFailure dcId], .error (.databaseError e))
    | none =>
      .call (.allocateSegment ctx.workspaceId ctx.bizTag (asI32 step)) fun
        | .ok segment => .done ([], .ok segment.toData)
        | .error e => .done ([], .error (.databaseError e))

end DatabaseSegmentLoader

structure RepositoryBackedLoader where
  config : SegmentAlgorithmConfig

def RepositoryBackedLoader.loadSegment (loader : RepositoryBackedLoader) (ctx : GenerateContext) :
    SegmentScript :=
  .call (.allocateSegment ctx.workspaceId ctx.bizTag (asI32 loader.config.baseStep)) fun
    | .ok segment => .done ([], .ok segment.toData)
    | .error e => .done ([], .error (.databaseError e))

/-! ## Clamping and rounding -/

section Rounding

variable {x y lo hi : ℚ}

theorem clampBetween_eq (h : lo ≤ hi) : clampBetween x lo hi = some (max lo (min x hi)) := by
  rw [clampBetween, if_neg (not_lt.mpr h)]
  congr 1
  split
  next hlo => rw [min_eq_left (hlo.le.trans h), max_eq_left hlo.le]
  next hlo =>
    have hlo' : lo ≤ x := not_lt.mp hlo
    split
    next hhi => rw [min_eq_right hhi.le, max_eq_right h]
    next hhi => rw [min_eq_left (not_lt.mp hhi), max_eq_right hlo']

theorem roundHalfAway_of_nonneg (h : 0 ≤ x) : roundHalfAway x = ⌊x + 1 / 2⌋ := if_neg (not_lt.mpr h)

theorem roundHalfAway_mono (h0 : 0 ≤ x) (h : x ≤ y) : roundHalfAway x ≤ roundHalfAway y := by
  rw [roundHalfAway_of_nonneg h0, roundHalfAway_of_nonneg (h0.trans h)]
  exact Int.floor_le_floor (by linarith)

/-- Rounding does not go below a multiple of one half. -/
theorem half_le_roundHalfAway {m : ℕ} (h : (m : ℚ) / 2 ≤ x) : (m : ℚ) / 2 ≤ roundHalfAway x := by
  have hm : (0 : ℚ) ≤ (m : ℚ) / 2 := by positivity
  rw [roundHalfAway_of_nonneg (hm.trans h)]
  have hfloor : x + 1 / 2 < ⌊x + 1 / 2⌋ + 1 := Int.lt_floor_add_one _
  have hlt : (m : ℤ) + 1 < 2 * ⌊x + 1 / 2⌋ + 2 := by
    have hq : (m : ℚ) + 1 < 2 * ⌊x + 1 / 2⌋ + 2 := by linarith
    exact_mod_cast hq
  have hle : (m : ℤ) ≤ 2 * ⌊x + 1 / 2⌋ := by omega
  have hq : (m : ℚ) ≤ 2 * ⌊x + 1 / 2⌋ := by exact_mod_cast hle
  linarith

/-- Rounding does not go above a whole number. -/
theorem roundHalfAway_le {n : ℕ} (h0 : 0 ≤ x) (h : x ≤ n) : roundHalfAway x ≤ n := by
  rw [roundHalfAway_of_nonneg h0]
  have hfloor : (⌊x + 1 / 2⌋ : ℚ) ≤ x + 1 / 2 := Int.floor_le _
  have hlt : (⌊x + 1 / 2⌋ : ℚ) < n + 1 := by linarith
  have hint : ⌊x + 1 / 2⌋ < (n : ℤ) + 1 := by exact_mod_cast hlt
  omega

end Rounding

theorem saturateU64_mono {m n : ℤ} (h : m ≤ n) : saturateU64 m ≤ saturateU64 n := by
  unfold saturateU64
  rw [UInt64.le_iff_toNat_le, UInt64.toNat_ofNat', UInt64.toNat_ofNat']
  omega

theorem toNat_saturateU64 {n : ℤ} (h0 : 0 ≤ n) (hlt : n < 2 ^ 64) :
    ((saturateU64 n).toNat : ℤ) = n := by
  unfold saturateU64
  rw [UInt64.toNat_ofNat']
  omega

/-- The cast keeps what fits. -/
theorem toInt_asI32 {n : UInt64} (h : n.toNat < 2 ^ 31) : (asI32 n).toInt = n.toNat := by
  have hcast : n.toUInt32.toNat = n.toNat := by
    rw [UInt64.toNat_toUInt32]
    exact Nat.mod_eq_of_lt (by omega)
  unfold asI32
  rw [← hcast, ← Int32.toInt_toBitVec, UInt32.toBitVec_toInt32, BitVec.toInt_eq_toNat_of_lt]
  · rfl
  · rw [UInt32.toNat_toBitVec]
    omega

/-! ## The calculated step -/

namespace SegmentAlgorithmConfig

variable {config : SegmentAlgorithmConfig}

/-- The checks of `validate` that the bounds rest on. -/
def Ordered (config : SegmentAlgorithmConfig) : Prop :=
  config.minStep ≤ config.baseStep ∧ config.baseStep ≤ config.maxStep

theorem Ordered.lowerBound_le (h : config.Ordered) : config.lowerBound ≤ config.baseStep.toNat := by
  have hmin : config.minStep.toNat ≤ config.baseStep.toNat := UInt64.le_iff_toNat_le.mp h.1
  apply max_le
  · have hbase : (0 : ℚ) ≤ config.baseStep.toNat := Nat.cast_nonneg _
    linarith
  · exact_mod_cast hmin

theorem Ordered.le_upperBound (h : config.Ordered) : config.baseStep.toNat ≤ config.upperBound := by
  have hmax : config.baseStep.toNat ≤ config.maxStep.toNat := UInt64.le_iff_toNat_le.mp h.2
  apply le_min
  · have hbase : (0 : ℚ) ≤ config.baseStep.toNat := Nat.cast_nonneg _
    linarith
  · exact_mod_cast hmax

theorem Ordered.lowerBound_le_upperBound (h : config.Ordered) :
    config.lowerBound ≤ config.upperBound := h.lowerBound_le.trans h.le_upperBound

theorem lowerBound_eq_half (config : SegmentAlgorithmConfig) :
    config.lowerBound = ((max config.baseStep.toNat (2 * config.minStep.toNat) : ℕ) : ℚ) / 2 := by
  unfold lowerBound
  rw [Nat.cast_max, ← max_div_div_right (by norm_num : (0 : ℚ) ≤ 2)]
  congr 1
  · ring
  · push_cast
    ring

theorem upperBound_eq_cast (config : SegmentAlgorithmConfig) :
    config.upperBound = ((min (config.baseStep.toNat * 100) config.maxStep.toNat : ℕ) : ℚ) := by
  unfold upperBound
  push_cast
  rfl

theorem lowerBound_nonneg (config : SegmentAlgorithmConfig) : 0 ≤ config.lowerBound := by
  rw [lowerBound_eq_half]
  positivity

end SegmentAlgorithmConfig

theorem Config.Accepted.ordered {c : Config} (h : c.Accepted) : c.algorithm.segment.Ordered := by
  obtain ⟨_, _, _, _, _, _, _, _, _, hbase, _⟩ := accepted_iff.mp h
  exact hbase

namespace StepCalculator

variable {calculator : StepCalculator} {config : SegmentAlgorithmConfig}
  {qps qps' currentStep : UInt64}

/-- The number that is rounded. -/
def clamped (calculator : StepCalculator) (qps currentStep : UInt64)
    (config : SegmentAlgorithmConfig) : ℚ :=
  max config.lowerBound (min (calculator.nextStep qps currentStep config) config.upperBound)

theorem clamped_nonneg : 0 ≤ calculator.clamped qps currentStep config :=
  config.lowerBound_nonneg.trans (le_max_left _ _)

theorem calculate_eq (h : config.Ordered) : calculator.calculate qps currentStep config =
    some (saturateU64 (roundHalfAway (calculator.clamped qps currentStep config))) := by
  rw [calculate, clampBetween_eq h.lowerBound_le_upperBound]
  rfl

/-- The step stays between the bounds. -/
theorem calculate_bounds (calculator : StepCalculator) (qps currentStep : UInt64)
    (h : config.Ordered) :
    ∃ step, calculator.calculate qps currentStep config = some step ∧
      config.lowerBound ≤ step.toNat ∧ step.toNat ≤ config.upperBound := by
  refine ⟨_, calculate_eq h, ?_⟩
  have hnonneg : 0 ≤ calculator.clamped qps currentStep config := clamped_nonneg
  have hlo : config.lowerBound ≤ calculator.clamped qps currentStep config := le_max_left _ _
  have hhi : calculator.clamped qps currentStep config ≤ config.upperBound :=
    max_le h.lowerBound_le_upperBound (min_le_right _ _)
  rw [config.lowerBound_eq_half] at hlo ⊢
  rw [config.upperBound_eq_cast] at hhi ⊢
  have hround := half_le_roundHalfAway hlo
  have hround' := roundHalfAway_le hnonneg hhi
  have h0 : (0 : ℤ) ≤ roundHalfAway (calculator.clamped qps currentStep config) := by
    have hq : (0 : ℚ) ≤ roundHalfAway (calculator.clamped qps currentStep config) :=
      le_trans (by positivity) hround
    exact_mod_cast hq
  have hmax := config.maxStep.toNat_lt
  have hcast := toNat_saturateU64 h0 (by omega)
  have hcast' : ((saturateU64 (roundHalfAway (calculator.clamped qps currentStep config))).toNat :
      ℚ) = roundHalfAway (calculator.clamped qps currentStep config) := by exact_mod_cast hcast
  rw [hcast']
  exact ⟨hround, by exact_mod_cast hround'⟩

/-- A larger number before the bounds apply gives no smaller step. -/
theorem calculate_mono {calculator' : StepCalculator} (h : config.Ordered)
    (hnext : calculator.nextStep qps currentStep config ≤
      calculator'.nextStep qps' currentStep config) :
    ∀ step ∈ calculator.calculate qps currentStep config,
      ∀ step' ∈ calculator'.calculate qps' currentStep config, step ≤ step' := by
  rw [calculate_eq h, calculate_eq h]
  rintro step ⟨⟩ step' ⟨⟩
  apply saturateU64_mono
  apply roundHalfAway_mono clamped_nonneg
  exact max_le_max_left _ (min_le_min_right _ hnext)

theorem getCpuUsage_nonneg (calculator : StepCalculator) : 0 ≤ calculator.getCpuUsage := by
  unfold getCpuUsage
  split
  · exact CpuMonitor.nonneg _
  · norm_num

theorem nextStep_mono_qps (hv : 0 ≤ calculator.velocityFactor)
    (hp : 0 ≤ calculator.pressureFactor) (h : qps ≤ qps') :
    calculator.nextStep qps currentStep config ≤ calculator.nextStep qps' currentStep config := by
  have hq : (qps.toNat : ℚ) ≤ qps'.toNat := by exact_mod_cast UInt64.le_iff_toNat_le.mp h
  have husage := calculator.getCpuUsage_nonneg
  unfold nextStep
  dsimp only
  gcongr

theorem nextStep_mono_pressure {low high : CpuMonitor} (hv : 0 ≤ calculator.velocityFactor)
    (hp : 0 ≤ calculator.pressureFactor) (h : low.usage ≤ high.usage) :
    (calculator.withCpuMonitor low).nextStep qps currentStep config ≤
      (calculator.withCpuMonitor high).nextStep qps currentStep config := by
  unfold nextStep withCpuMonitor getCpuUsage
  dsimp only
  gcongr

end StepCalculator

/-! ## What the loaders request -/

theorem DatabaseSegmentLoader.loadSegment_request {loader : DatabaseSegmentLoader}
    {qps step : UInt64} (order : loader.dcFailureDetector.KeyOrder) (ctx : GenerateContext)
    (h : loader.calculateStep qps = some step) :
    ∃ request next, loader.loadSegment order qps ctx = some (.call request next) ∧
      request.step = asI32 step := by
  rw [loadSegment, h, Option.map_some]
  dsimp only
  split
  · exact ⟨_, _, rfl, rfl⟩
  · exact ⟨_, _, rfl, rfl⟩

/-- The step that is requested is the number that is cast, and positive. -/
def SegmentRequest.Asks (request : SegmentRequest) (step : UInt64) : Prop :=
  0 < request.step.toInt ∧ request.step.toInt = step.toNat

theorem SegmentRequest.asks_of_fits {request : SegmentRequest} {step : UInt64}
    (h : request.step = asI32 step) (hpos : 0 < step.toNat) (hlt : step.toNat < 2 ^ 31) :
    request.Asks step := by
  rw [Asks, h, toInt_asI32 hlt]
  exact ⟨by omega, rfl⟩

/-- The bounds are ordered and the step stays between them and is monotone. The database loader
requests that step, the loader that is built from a repository requests the base step. -/
theorem dynamic_step {c : Config} (h : c.Accepted) (calculator : StepCalculator)
    (qps currentStep : UInt64) (ctx : GenerateContext) :
    let config := c.algorithm.segment
    config.lowerBound ≤ config.upperBound ∧
    (∃ step, calculator.calculate qps currentStep config = some step ∧
      config.lowerBound ≤ step.toNat ∧ step.toNat ≤ config.upperBound) ∧
    (0 ≤ calculator.velocityFactor → 0 ≤ calculator.pressureFactor →
      (∀ qps', qps ≤ qps' → ∀ step ∈ calculator.calculate qps currentStep config,
        ∀ step' ∈ calculator.calculate qps' currentStep config, step ≤ step') ∧
      ∀ low high : CpuMonitor, low.usage ≤ high.usage →
        ∀ step ∈ (calculator.withCpuMonitor low).calculate qps currentStep config,
          ∀ step' ∈ (calculator.withCpuMonitor high).calculate qps currentStep config,
            step ≤ step') ∧
    (∀ loader : DatabaseSegmentLoader, loader.segmentConfig = config → ∀ order,
      ∃ step request next, loader.calculateStep qps = some step ∧
        loader.loadSegment order qps ctx = some (.call request next) ∧
        (0 < config.baseStep → step.toNat < 2 ^ 31 → request.Asks step)) ∧
    ∃ request next, (RepositoryBackedLoader.mk config).loadSegment ctx = .call request next ∧
      (0 < config.baseStep → config.baseStep.toNat < 2 ^ 31 → request.Asks config.baseStep) := by
  intro config
  have hordered : config.Ordered := h.ordered
  refine ⟨hordered.lowerBound_le_upperBound, calculator.calculate_bounds qps currentStep hordered,
    ?_, ?_, ?_⟩
  · intro hv hp
    constructor
    · intro qps' hqps
      exact StepCalculator.calculate_mono hordered (StepCalculator.nextStep_mono_qps hv hp hqps)
    · intro low high husage
      exact StepCalculator.calculate_mono hordered
        (StepCalculator.nextStep_mono_pressure hv hp husage)
  · intro loader hloader order
    obtain ⟨step, hstep, hlo, -⟩ :=
      loader.stepCalculator.calculate_bounds qps config.baseStep hordered
    rw [← hloader] at hstep
    obtain ⟨request, next, hcall, hrequest⟩ := loader.loadSegment_request order ctx hstep
    refine ⟨step, request, next, hstep, hcall, fun hbase hlt => ?_⟩
    have hbase' : 0 < config.baseStep.toNat := UInt64.lt_iff_toNat_lt.mp hbase
    have hhalf : (config.baseStep.toNat : ℚ) * (1 / 2) ≤ step.toNat := (le_max_left _ _).trans hlo
    have hpos : (0 : ℚ) < step.toNat := lt_of_lt_of_le (by positivity) hhalf
    exact SegmentRequest.asks_of_fits hrequest (by exact_mod_cast hpos) hlt
  · refine ⟨_, _, rfl, fun hbase hlt => ?_⟩
    exact SegmentRequest.asks_of_fits rfl (UInt64.lt_iff_toNat_lt.mp hbase) hlt

/-- At 1000 requests per second and the default settings. -/
theorem dynamic_step_default :
    ∃ step,
      StepCalculator.default.calculate 1000 1000 Config.default.algorithm.segment = some step ∧
      (500 : ℚ) ≤ step.toNat ∧ step.toNat ≤ (100000 : ℚ) := by
  have h := (dynamic_step (c := Config.default) (by decide +kernel) StepCalculator.default 1000 1000
    ⟨"w", "g", "t"⟩).2.1
  have hlo : Config.default.algorithm.segment.lowerBound = 500 := by decide +kernel
  have hhi : Config.default.algorithm.segment.upperBound = 100000 := by decide +kernel
  rwa [hlo, hhi] at h

def Config.withSteps (baseStep minStep maxStep : UInt64) : Config :=
  { Config.default with
    algorithm := { Config.default.algorithm with
      segment := ⟨baseStep, minStep, maxStep, .finite (1 / 10)⟩ } }

/-- The loader that is built from a repository does not request the calculated step; and for two
other configurations that are accepted, it requests a negative step and the step zero. -/
theorem requested_step_differs :
    (Config.default.Accepted ∧
      StepCalculator.default.calculate 1000 1000 Config.default.algorithm.segment = some 1545 ∧
      ∀ ctx, ∃ request next,
        (RepositoryBackedLoader.mk Config.default.algorithm.segment).loadSegment ctx =
          .call request next ∧ request.step = 1000) ∧
    ((Config.withSteps (2 ^ 31) 1 (2 ^ 31)).Accepted ∧ ∀ ctx, ∃ request next,
      (RepositoryBackedLoader.mk
        (Config.withSteps (2 ^ 31) 1 (2 ^ 31)).algorithm.segment).loadSegment ctx =
          .call request next ∧ request.step.toInt = -2 ^ 31) ∧
    (Config.withSteps 0 0 1).Accepted ∧ ∀ ctx, ∃ request next,
      (RepositoryBackedLoader.mk (Config.withSteps 0 0 1).algorithm.segment).loadSegment ctx =
        .call request next ∧ request.step.toInt = 0 := by
  refine ⟨⟨by decide +kernel, by decide +kernel, ?_⟩, ⟨by decide +kernel, ?_⟩,
    by decide +kernel, ?_⟩
  · exact fun ctx => ⟨_, _, rfl, rfl⟩
  · exact fun ctx => ⟨_, _, rfl, rfl⟩
  · exact fun ctx => ⟨_, _, rfl, rfl⟩

end NebulaId
