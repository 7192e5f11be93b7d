import NebulaId.Algorithm.CircuitBreaker

/-!
# What a circuit breaker closes on (`core/algorithm/circuit_breaker.rs`)

`consecutive_successes` counts the successes of every state of the breaker, also those of
requests that were admitted long before. `freshSuccesses` counts, in the history, the
successes of requests of the current half open period, since it began and since the last
failure; `otherSuccesses` counts the others that the counter may hold.

* `late_successes_close`: successes that come late, while the breaker is open, close the next
  half open period.
* `fresh_runs_backed`: when every success that closes the breaker has counted fresh successes
  only, each closing has enough of them behind it.
-/

namespace NebulaId

open Machine

namespace CircuitBreaker

/-- The successes of requests admitted in the current half open period, since it began, with
no failure after them. The latest event comes first. -/
def freshSuccesses : List Event → ℕ
  | [] => 0
  | .succeeded admitted :: h =>
    (if admitted = some (period h) then 1 else 0) + freshSuccesses h
  | .cleared :: h => freshSuccesses h
  | .entered :: _ | .failed :: _ | .closed :: _ => 0

/-- The other successes since the counter was last set to zero. -/
def otherSuccesses : List Event → ℕ
  | [] => 0
  | .succeeded admitted :: h =>
    (if admitted = some (period h) then 0 else 1) + otherSuccesses h
  | .entered :: h | .closed :: h => freshSuccesses h + otherSuccesses h
  | .failed :: _ | .cleared :: _ => 0

/-- Every closing in the history has enough fresh successes behind it. -/
def Backed (threshold : UInt64) (history : List Event) : Prop :=
  ∀ later earlier, history = later ++ .closed :: earlier → threshold.toNat ≤ freshSuccesses earlier

/-- A success that closes the breaker: between its count and its swap nothing but successes
happened, and the successes it has counted are all fresh, or it is fresh itself and one is
enough. -/
def countsFresh (c : CircuitBreakerConfig) (d : Decision) (history : List Event) : Bool :=
  let since := history.take (history.length - d.mark.length)
  decide (history = since ++ d.mark) &&
    since.all (fun e => match e with
      | .succeeded _ | .cleared => true
      | _ => false) &&
    (decide (otherSuccesses d.mark = 0) ||
      decide (c.successThreshold ≤ 1) && decide (d.admitted = some (period d.mark)))

/-- A success closes the breaker only on fresh successes. -/
def ClosesFresh (c : CircuitBreakerConfig) (w : World CircuitBreaker Call)
    (act : ℕ × BreakerOp) : Prop :=
  (match act.2, w.threads act.1 with
    | .proceed, .toClosed d => w.shared.state != .halfOpen || countsFresh c d w.shared.history
    | _, _ => true) = true

instance (c : CircuitBreakerConfig) (w : World CircuitBreaker Call) (act : ℕ × BreakerOp) :
    Decidable (ClosesFresh c w act) := inferInstanceAs (Decidable (_ = true))

/-- Two requests of the closed breaker succeed after it has opened; then the first success of
the half open breaker closes it, where three are asked for. -/
theorem late_successes_close : ∃ w,
    Reaches (World.step (breakerStep .default)) Free (start 0) w ∧
      w.shared.history = [.cleared, .closed, .succeeded (some 1), .entered, .succeeded none,
        .succeeded none, .failed] ∧
      ¬ Backed CircuitBreakerConfig.default.successThreshold w.shared.history := by
  let proceed (i n : ℕ) : List (ℕ × BreakerOp) := List.replicate n (i, .proceed)
  let ops : List (List (ℕ × BreakerOp)) :=
    [[(1, .execute)], proceed 1 1, [(2, .execute)], proceed 2 1,
      [(0, .execute)], proceed 0 1, [(0, .finish false)], proceed 0 12,
      [(1, .finish true)], proceed 1 4, [(2, .finish true)], proceed 2 4,
      [(0, .tick 30000000000), (3, .execute)], proceed 3 4, [(3, .finish true)], proceed 3 8]
  have hrun : ((run (World.step (breakerStep .default)) (start 0) ops.flatten).map
      fun w => w.shared.history) = some [.cleared, .closed, .succeeded (some 1), .entered,
        .succeeded none, .succeeded none, .failed] := by
    decide +kernel
  obtain ⟨w, hw, hhistory⟩ := Option.map_eq_some_iff.mp hrun
  refine ⟨w, reaches_of_run hw, hhistory, fun h => ?_⟩
  rw [hhistory] at h
  exact absurd (h [.cleared] _ rfl) (by decide)

/-! ## Counting in the history -/

variable {history since mark : List Event} {e : Event} {threshold : UInt64} {admitted : Option ℕ}

theorem backed_cons (h : Backed threshold history)
    (hclosed : e = .closed → threshold.toNat ≤ freshSuccesses history) :
    Backed threshold (e :: history) := by
  intro later earlier he
  cases later with
  | nil =>
    obtain ⟨rfl, rfl⟩ := List.cons.inj he
    exact hclosed rfl
  | cons e' later => exact h later earlier (List.cons.inj he).2

/-- Every success is of one kind or the other. -/
theorem successes_succeeded :
    freshSuccesses (.succeeded admitted :: history) + otherSuccesses (.succeeded admitted :: history) =
      freshSuccesses history + otherSuccesses history + 1 := by
  rw [freshSuccesses, otherSuccesses]
  by_cases hown : admitted = some (period history)
  · rw [if_pos hown, if_pos hown]
    omega
  · rw [if_neg hown, if_neg hown]
    omega

/-- Further successes leave the fresh ones where they are. -/
theorem freshSuccesses_append (h : since.all (fun e => match e with
      | .succeeded _ | .cleared => true
      | _ => false) = true) : freshSuccesses mark ≤ freshSuccesses (since ++ mark) := by
  induction since with
  | nil => exact Nat.le_refl _
  | cons e since ih =>
    rw [List.all_cons, Bool.and_eq_true] at h
    cases e with
    | succeeded admitted => exact Nat.le_trans (ih h.2) (Nat.le_add_left _ _)
    | cleared => exact ih h.2
    | _ => exact absurd h.1 (by simp)

/-- What a success about to close the breaker knows. -/
structure DecisionInv (d : Decision) : Prop where
  counted : d.successes.toNat ≤ freshSuccesses d.mark + otherSuccesses d.mark
  own : ∃ earlier, d.mark = .succeeded d.admitted :: earlier

/-- **A closing on fresh successes** has enough of them behind it. -/
theorem DecisionInv.backed {c : CircuitBreakerConfig} {d : Decision} (h : DecisionInv d)
    (hreached : c.successThreshold ≤ d.successes) (hfresh : countsFresh c d history = true) :
    c.successThreshold.toNat ≤ freshSuccesses history := by
  unfold countsFresh at hfresh
  simp only [Bool.and_eq_true, Bool.or_eq_true, decide_eq_true_eq] at hfresh
  obtain ⟨⟨hhistory, hquiet⟩, hkind⟩ := hfresh
  rw [hhistory]
  refine Nat.le_trans ?_ (freshSuccesses_append hquiet)
  rw [UInt64.le_iff_toNat_le] at hreached
  rcases hkind with hnone | ⟨hone, hown⟩
  · have := h.counted
    omega
  · obtain ⟨earlier, hmark⟩ := h.own
    have hperiod : period d.mark = period earlier := by
      rw [hmark, period, period, List.count_cons_of_ne (by simp)]
    rw [UInt64.le_iff_toNat_le] at hone
    rw [hperiod] at hown
    rw [hmark, freshSuccesses, if_pos hown]
    exact Nat.le_trans hone (Nat.le_add_right _ _)

/-! ## Runs -/

/-- The counter holds no success that the history does not have, and every closing so far is
backed. -/
structure CounterInv (c : CircuitBreakerConfig) (m : CircuitBreaker) : Prop where
  counted : m.consecutiveSuccesses.toNat ≤ freshSuccesses m.history + otherSuccesses m.history
  backed : Backed c.successThreshold m.history

structure CallInv (c : CircuitBreakerConfig) (p : Call) : Prop where
  decision : ∀ d, p.decision = some d → DecisionInv d
  reached : ∀ d, p = .toClosed d → c.successThreshold ≤ d.successes

variable {c : CircuitBreakerConfig} {w w' : World CircuitBreaker Call} {act : ℕ × BreakerOp}
  {m : CircuitBreaker} {p : Call}

/-- The invariant of the breaker and of each of its calls. -/
abbrev EvidenceInv (c : CircuitBreakerConfig) : World CircuitBreaker Call → Prop :=
  World.Inv (CounterInv c) (fun _ _ p => CallInv c p) fun _ _ => True

theorem callInv_of_none (hdecision : p.decision = none) : CallInv c p where
  decision d hd := by
    rw [hdecision] at hd
    cases hd
  reached d hd := by
    subst hd
    cases hdecision

theorem evidenceInv_start (now : ℕ) : EvidenceInv c (start now) where
  memory := ⟨Nat.zero_le _, fun later earlier he => by simp [start] at he⟩
  thread _ := callInv_of_none rfl
  pair _ _ _ := trivial

theorem EvidenceInv.move {i : ℕ} (h : EvidenceInv c w) (hm : CounterInv c m) (hp : CallInv c p) :
    EvidenceInv c ⟨m, Function.update w.threads i p⟩ :=
  World.Inv.update h (fun _ _ _ => trivial) hm hp (fun _ _ hj => hj) fun _ _ _ => trivial

/-- A counter at zero holds nothing. -/
theorem counterInv_zero (h : CounterInv c m) (he : e ≠ .closed) :
    CounterInv c ({ m with consecutiveSuccesses := 0 }.log e) where
  counted := Nat.zero_le _
  backed := backed_cons h.backed fun hc => absurd hc he

/-- **One step.** -/
theorem evidenceInv_step (h : EvidenceInv c w) (hfresh : ClosesFresh c w act)
    (hstep : World.step (breakerStep c) w act = some w') : EvidenceInv c w' := by
  obtain ⟨i, op⟩ := act
  obtain ⟨m, p, hs, rfl⟩ := World.step_eq_some.mp hstep
  have hcounter := h.memory
  cases breakerStep_cases hs with
  | tick nanos => exact h.move ⟨hcounter.counted, hcounter.backed⟩ (h.thread i)
  | quiet m' p' hsame hp hp' hdated hdecision hclose =>
    refine h.move ⟨?_, ?_⟩ ⟨fun d hd => (h.thread i).decision d (hdecision d hd), hclose⟩
    · rw [hsame.consecutiveSuccesses, hsame.history]
      exact hcounter.counted
    · rw [hsame.history]
      exact hcounter.backed
  | enter hp hopen =>
    refine h.move ⟨?_, backed_cons hcounter.backed (by simp)⟩ (callInv_of_none rfl)
    have := hcounter.counted
    change w.shared.consecutiveSuccesses.toNat ≤
      0 + (freshSuccesses w.shared.history + otherSuccesses w.shared.history)
    omega
  | count admitted hp =>
    have hcount : (w.shared.consecutiveSuccesses + 1).toNat ≤
        freshSuccesses (.succeeded admitted :: w.shared.history) +
          otherSuccesses (.succeeded admitted :: w.shared.history) := by
      rw [successes_succeeded, UInt64.toNat_add]
      have := hcounter.counted
      exact Nat.le_trans (Nat.mod_le _ _) (Nat.add_le_add_right this 1)
    refine h.move ⟨hcount, backed_cons hcounter.backed (by simp)⟩ ⟨?_, by simp⟩
    rintro d hd
    cases hd
    exact ⟨hcount, _, rfl⟩
  | close d hp hhalf =>
    have hop : op = .proceed := by
      cases op with
      | proceed => rfl
      | tick nanos =>
        have hp' : w.threads i = .closedFailures := congrArg Prod.snd (Option.some.inj hs)
        rw [hp] at hp'
        cases hp'
      | _ =>
        rw [hp] at hs
        cases hs
    subst hop
    have hcounts : countsFresh c d w.shared.history = true := by
      unfold ClosesFresh at hfresh
      simpa [hp, hhalf] using hfresh
    have hdecision : DecisionInv d := (h.thread i).decision d (by rw [hp]; rfl)
    have hreached : c.successThreshold ≤ d.successes := (h.thread i).reached d hp
    refine h.move ⟨?_, backed_cons hcounter.backed fun _ => hdecision.backed hreached hcounts⟩
      (callInv_of_none rfl)
    have := hcounter.counted
    change w.shared.consecutiveSuccesses.toNat ≤
      0 + (freshSuccesses w.shared.history + otherSuccesses w.shared.history)
    omega
  | fail now failures hp =>
    exact h.move (counterInv_zero hcounter (by simp)) (callInv_of_none rfl)
  | clear p' hp =>
    refine h.move (counterInv_zero hcounter (by simp)) ?_
    rcases hp with ⟨-, rfl⟩ | ⟨-, rfl⟩
    · exact callInv_of_none rfl
    · exact callInv_of_none rfl
  | toOpen n hp => exact h.move ⟨hcounter.counted, hcounter.backed⟩ (callInv_of_none rfl)
  | store n hp => exact h.move ⟨hcounter.counted, hcounter.backed⟩ (callInv_of_none rfl)
  | zero hp => exact h.move ⟨hcounter.counted, hcounter.backed⟩ (callInv_of_none rfl)
  | reset hp => exact h.move ⟨hcounter.counted, hcounter.backed⟩ (callInv_of_none rfl)

/-- **Runs on fresh evidence.** When every success that closes the breaker counts fresh
successes only, every closing has the threshold of them behind it. -/
theorem fresh_runs_backed {now : ℕ}
    (h : Reaches (World.step (breakerStep c)) (ClosesFresh c) (start now) w) :
    Backed c.successThreshold w.shared.history := by
  have hinv : EvidenceInv c w := h.invariant (evidenceInv_start now)
    fun _ _ _ hi hf hs => evidenceInv_step hi hf hs
  exact hinv.memory.backed

/-- A failure, the timeout, and three successes of the half open period. -/
theorem fresh_runs_backed_three : ∃ w,
    Reaches (World.step (breakerStep .default)) (ClosesFresh .default) (start 0) w ∧
      w.shared.history = [.cleared, .closed, .succeeded (some 1), .succeeded (some 1),
        .succeeded (some 1), .entered, .failed] ∧
      Backed CircuitBreakerConfig.default.successThreshold w.shared.history := by
  let proceed (n : ℕ) : List (ℕ × BreakerOp) := List.replicate n (0, .proceed)
  let ops : List (List (ℕ × BreakerOp)) :=
    [[(0, .execute)], proceed 1, [(0, .finish false)], proceed 12,
      [(0, .tick 30000000000), (0, .execute)], proceed 4, [(0, .finish true)], proceed 4,
      [(0, .execute)], proceed 1, [(0, .finish true)], proceed 4,
      [(0, .execute)], proceed 1, [(0, .finish true)], proceed 8]
  have hrun : ((runWhile (World.step (breakerStep .default)) (ClosesFresh .default) (start 0)
      ops.flatten).map fun w => w.shared.history) = some [.cleared, .closed, .succeeded (some 1),
        .succeeded (some 1), .succeeded (some 1), .entered, .failed] := by
    decide +kernel
  obtain ⟨w, hw, hhistory⟩ := Option.map_eq_some_iff.mp hrun
  have hreach := reaches_of_runWhile hw
  exact ⟨w, hreach, hhistory, fresh_runs_backed hreach⟩

end CircuitBreaker

end NebulaId
