import NebulaId.Algorithm.Degradation
import NebulaId.Machine.Streak

/-!
# The counters of a health record (`core/algorithm/degradation_manager.rs`)

`record_failure` and `record_success` advance one counter and clear the other; the counters are
bytes, and `fetch_add` wraps.

* `toNat_failures`, `toNat_successes`: after every sequence of calls each counter holds the length
  of the last streak modulo 256.
* `health_counters_iff`: when `should_degrade` and `should_recover` say what the streaks say.
-/

namespace NebulaId

open Machine

/-- The calls that move the counters. -/
inductive HealthCall where
  | recordFailure
  | recordSuccess
  | reset
  deriving DecidableEq

namespace AlgorithmHealthState

def call (s : AlgorithmHealthState) : HealthCall → AlgorithmHealthState
  | .recordFailure => s.recordFailure
  | .recordSuccess => s.recordSuccess
  | .reset => s.reset

/-- A new record after the calls. -/
def after (calls : List HealthCall) : AlgorithmHealthState := calls.foldl call new

/-- The failures since the last success or reset. -/
def failuresSince (calls : List HealthCall) : ℕ := streak (· = .recordFailure) calls

/-- The successes since the last failure or reset. -/
def successesSince (calls : List HealthCall) : ℕ := streak (· = .recordSuccess) calls

variable {calls : List HealthCall} {threshold : UInt8}

theorem toNat_failures (calls : List HealthCall) :
    (after calls).consecutiveFailures.toNat = failuresSince calls % 256 := by
  refine count_foldl (fun s : AlgorithmHealthState => s.consecutiveFailures.toNat) rfl ?_ ?_ calls
  · intro s c hc
    rw [of_decide_eq_true hc]
    exact UInt8.toNat_add _ _
  · intro s c hc
    cases c with
    | recordFailure => cases hc
    | recordSuccess => rfl
    | reset => rfl

theorem toNat_successes (calls : List HealthCall) :
    (after calls).consecutiveSuccesses.toNat = successesSince calls % 256 := by
  refine count_foldl (fun s : AlgorithmHealthState => s.consecutiveSuccesses.toNat) rfl ?_ ?_ calls
  · intro s c hc
    rw [of_decide_eq_true hc]
    exact UInt8.toNat_add _ _
  · intro s c hc
    cases c with
    | recordFailure => rfl
    | recordSuccess => cases hc
    | reset => rfl

theorem shouldDegrade_after : (after calls).shouldDegrade threshold = true ↔
    threshold.toNat ≤ failuresSince calls % 256 := by
  rw [shouldDegrade, decide_eq_true_iff, UInt8.le_iff_toNat_le, toNat_failures]

theorem shouldRecover_after : (after calls).shouldRecover threshold = true ↔
    threshold.toNat ≤ successesSince calls % 256 := by
  rw [shouldRecover, decide_eq_true_iff, UInt8.le_iff_toNat_le, toNat_successes]

/-- A remainder meets a bound as the number itself does. -/
theorem le_mod_iff {t n m : ℕ} : ((t ≤ n % m) ↔ t ≤ n) ↔ n < t ∨ t ≤ n % m := by
  have hle : n % m ≤ n := Nat.mod_le n m
  omega

/-- Both answers are those of the streaks exactly when the threshold is longer than the streak,
or no longer than the streak modulo 256. -/
theorem health_counters_iff (calls : List HealthCall) (threshold : UInt8) :
    (((after calls).shouldDegrade threshold = true ↔ threshold.toNat ≤ failuresSince calls) ∧
      ((after calls).shouldRecover threshold = true ↔ threshold.toNat ≤ successesSince calls)) ↔
    (failuresSince calls < threshold.toNat ∨ threshold.toNat ≤ failuresSince calls % 256) ∧
      (successesSince calls < threshold.toNat ∨ threshold.toNat ≤ successesSince calls % 256) := by
  rw [shouldDegrade_after, shouldRecover_after]
  exact and_congr le_mod_iff le_mod_iff

/-- An algorithm that never succeeds looks healthy after 256 failures. -/
theorem failures_forgotten :
    failuresSince (List.replicate 256 .recordFailure) = 256 ∧
      (after (List.replicate 256 .recordFailure)).shouldDegrade 5 = false := by
  have hcount : failuresSince (List.replicate 256 .recordFailure) = 256 :=
    streak_replicate (by decide) 256
  refine ⟨hcount, ?_⟩
  rw [Bool.eq_false_iff, ne_eq, shouldDegrade_after, hcount]
  decide

end AlgorithmHealthState

end NebulaId
