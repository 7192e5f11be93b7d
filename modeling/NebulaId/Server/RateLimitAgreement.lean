import Mathlib.Data.Fintype.EquivFin
import Mathlib.Data.String.Basic
import NebulaId.Server.HotReload
import NebulaId.Server.RateLimit
import NebulaId.Machine.Along

/-!
# One rate limit in three places (`server/config/management.rs`, `server/rate_limit/limiter.rs`)

The rate limit is in the configuration in force, in the override of the configuration manager and
in the defaults of the limiter, with a copy in each bucket. An update writes the first two, a
reload the first one, and no call of the service the last two. The calls follow one another here.

* `applied_all_iff`: what a limiter applies to every key, in terms of its defaults and buckets.
* `takes_effect_iff`: along every run a change takes effect if and only if the limiter has applied
  the new limit before it, and a reload finds it in the override.
* `limit_without_effect`: an update and a reload that do not take effect.
-/

namespace NebulaId

open Machine

namespace RateLimiter

/-- The rate and the burst that a check without values of its own applies to the key. -/
def applied (m : Memory) (key : String) : UInt32 × UInt32 :=
  match m.limiters.lookup key with
  | some limiter => (limiter.rate, limiter.capacity)
  | none => m.defaults

/-- The defaults and every bucket have the limit. -/
structure AllAt (m : Memory) (limit : UInt32 × UInt32) : Prop where
  defaults : m.defaults = limit
  buckets : ∀ key limiter, m.limiters.lookup key = some limiter →
    (limiter.rate, limiter.capacity) = limit

/-- A call by itself, with the answers it gets; `none` when it cannot go on. -/
def finish (m : Memory) (call : Call) (inputs : List Input) : Option Memory :=
  (inputs.foldlM (fun (out : Memory × Task) input => advance input out.1 out.2)
    (m, Task.called call)).map Prod.fst

variable {m : Memory} {limit : UInt32 × UInt32} {key : String}

/-- The check asks the bucket with these values. -/
theorem holds_applied (m : Memory) (key : String) : ∃ limiter,
    advance .run m (.called (.checkRateLimit key none none)) =
      some (m, .resolved key m.defaults.1 m.defaults.2 m.defaults.2) ∧
    advance .run m (.resolved key m.defaults.1 m.defaults.2 m.defaults.2) =
      some ((getOrCreate m key m.defaults.1 m.defaults.2).1,
        .holding key limiter m.defaults.2) ∧
    (limiter.rate, limiter.capacity) = applied m key := by
  refine ⟨_, rfl, rfl, ?_⟩
  unfold getOrCreate applied
  cases m.limiters.lookup key with
  | some limiter => rfl
  | none => rfl

/-- There is always a key without a bucket. -/
theorem exists_lookup_eq_none (m : Memory) : ∃ key, m.limiters.lookup key = none := by
  obtain ⟨key, hkey⟩ := Infinite.exists_notMem_finset m.limiters.keys.toFinset
  refine ⟨key, AList.lookup_eq_none.mpr fun hin => hkey ?_⟩
  exact List.mem_toFinset.mpr (AList.mem_keys.mp hin)

theorem applied_all_iff : (∀ key, applied m key = limit) ↔ AllAt m limit := by
  constructor
  · intro hall
    constructor
    · obtain ⟨key, hnone⟩ := exists_lookup_eq_none m
      have hkey := hall key
      rwa [applied, hnone] at hkey
    · intro key limiter hlookup
      have hkey := hall key
      rwa [applied, hlookup] at hkey
  · intro hat key
    unfold applied
    split
    · exact hat.buckets key _ ‹_›
    · exact hat.defaults

end RateLimiter

def RateLimitConfig.limit (r : RateLimitConfig) : UInt32 × UInt32 := (r.defaultRps, r.burstSize)

/-- The configuration manager, which holds the override, and the limiter. -/
structure RateLimits where
  manager : ConfigManager.Memory
  limiter : RateLimiter.Memory

inductive RateLimitAct where
  | updateRateLimit (req : UpdateRateLimitRequest)
  | reloadConfig (file : Except ConfigError FullConfig)
  | limiter (call : RateLimiter.Call) (inputs : List RateLimiter.Input)
  | clock (elapsed : ℕ)

namespace RateLimits

def updateRateLimit (m : ConfigManager.Memory) (req : UpdateRateLimitRequest) :
    ConfigManager.Memory :=
  if req.validate then ConfigManager.finishRateLimit m req (req.patch m.config) else m

def reloadConfig (m : ConfigManager.Memory) : Except ConfigError FullConfig → ConfigManager.Memory
  | .ok config => ConfigManager.install m config
  | .error _ => m

def step (s : RateLimits) : RateLimitAct → Option RateLimits
  | .updateRateLimit req => some { s with manager := updateRateLimit s.manager req }
  | .reloadConfig file => some { s with manager := reloadConfig s.manager file }
  | .limiter call inputs => (RateLimiter.finish s.limiter call inputs).map fun m => { s with limiter := m }
  | .clock elapsed => some { s with limiter := RateLimiter.program.pass elapsed s.limiter }

/-- The override, the configuration in force and what is applied to every key. -/
def Agree (s : RateLimits) : Prop :=
  s.manager.rateLimiter = some s.manager.config.rateLimit.limit ∧
    ∀ key, RateLimiter.applied s.limiter key = s.manager.config.rateLimit.limit

/-- After an update that reports success, and after a reload that installs another rate limit. -/
def TakesEffect (before : RateLimits) : RateLimitAct → RateLimits → Prop
  | .updateRateLimit req, after => req.validate = true → after.Agree
  | .reloadConfig (.ok config), after =>
    config.rateLimit.limit ≠ before.manager.config.rateLimit.limit → after.Agree
  | _, _ => True

/-- What the change is about to install is already in place. -/
def InPlace (s : RateLimits) : RateLimitAct → Prop
  | .updateRateLimit req => req.validate = true →
      RateLimiter.AllAt s.limiter (req.patch s.manager.config).rateLimit.limit
  | .reloadConfig (.ok config) =>
    config.rateLimit.limit ≠ s.manager.config.rateLimit.limit →
      s.manager.rateLimiter = some config.rateLimit.limit ∧
        RateLimiter.AllAt s.limiter config.rateLimit.limit
  | _ => True

variable {s s' : RateLimits} {act : RateLimitAct}

/-- The update is the one of the service, and reports success when the request is valid. -/
theorem updateRateLimit_reaches (manager : ConfigManager) (m : ConfigManager.Memory)
    (req : UpdateRateLimitRequest) : ∃ response, Reaches manager.step Free ⟨m, []⟩
      ⟨updateRateLimit m req, [.finished (some response)]⟩ ∧ response.success = req.validate := by
  unfold updateRateLimit
  split
  · rename_i hvalid
    obtain ⟨response, hrun, hsuccess⟩ := ConfigManager.reaches_updateRateLimit hvalid
    exact ⟨response, hrun, hsuccess.trans hvalid.symm⟩
  · rename_i hvalid
    obtain ⟨response, hrun, hsuccess⟩ := ConfigManager.reaches_refused hvalid
    exact ⟨response, hrun, hsuccess.trans (Bool.eq_false_iff.mpr hvalid).symm⟩

theorem takesEffect_step_iff (hstep : s.step act = some s') :
    s.TakesEffect act s' ↔ s.InPlace act := by
  cases act with
  | updateRateLimit req =>
    cases hstep
    refine forall_congr' fun hvalid => ?_
    rw [Agree, updateRateLimit, if_pos hvalid, RateLimiter.applied_all_iff]
    exact and_iff_right rfl
  | reloadConfig file =>
    cases file with
    | ok config =>
      cases hstep
      refine forall_congr' fun hne => ?_
      rw [Agree, RateLimiter.applied_all_iff]
      exact Iff.rfl
    | error e => exact Iff.rfl
  | limiter call inputs => exact Iff.rfl
  | clock elapsed => exact Iff.rfl

/-- **A change takes effect**, along every run, if and only if it finds everything in place that it
does not write. -/
theorem takes_effect_iff (s : RateLimits) (run : List RateLimitAct) :
    EachStep step (fun s act s' => s.TakesEffect act s') s run ↔
      EachStep step (fun s act _ => s.InPlace act) s run :=
  eachStep_iff fun _ _ _ hstep => takesEffect_step_iff hstep

/-- The service starts with one rate limit. -/
def started : RateLimits :=
  ⟨⟨FullConfig.plainMerged, none, []⟩, (RateLimiter.start 0 10000 100).shared⟩

/-- The limiter goes on as before after an update, and the override after a reload. -/
theorem limit_without_effect :
    ¬ EachStep step (fun s act s' => s.TakesEffect act s') started
      [.updateRateLimit ⟨some 500, none⟩] ∧
    ¬ EachStep step (fun s act s' => s.TakesEffect act s') started
      [.reloadConfig (.ok { FullConfig.plainMerged with rateLimit := ⟨true, 500, 100⟩ })] := by
  constructor
  · intro heach
    have happlied := ((heach _ rfl).1 rfl).2 "203.0.113.9"
    exact absurd (congrArg Prod.fst happlied) (by decide)
  · intro heach
    have hoverride := ((heach _ rfl).1 (by decide)).1
    cases hoverride

end RateLimits

end NebulaId
