import NebulaId.Machine.Threads
import Mathlib.Data.List.Basic
import Mathlib.Algebra.Order.Ring.Nat

/-!
# The circuit breaker (`core/algorithm/circuit_breaker.rs`)

The state, the counters and the time of the next attempt are separate atomics. `breakerStep`
takes one `execute` or `reset` through one operation on one of them, or through one reading
of the clock; the operation that `execute` wraps ends with a success or a failure at any
time. Time is in nanoseconds since the global start. The breaker also keeps a history of
what happened to it.

* `breakerStep_cases`: every step is one of the moves of `BreakerMove`.
* `late_zero_sticks`: a success that closes the breaker takes the deadline of a failure that
  opens it again, and no request is ever admitted again.
* `orderly_deadline`: in a run whose steps keep the deadline of an open breaker, an open
  breaker at rest has a deadline and admits a request after it.
-/

namespace NebulaId

open Machine

structure CircuitBreakerConfig where
  failureThreshold : UInt64
  successThreshold : UInt64
  timeoutMs : UInt64
  windowSizeSeconds : UInt64
  minRequests : UInt64

/-- `CircuitBreakerConfig::default` -/
def CircuitBreakerConfig.default : CircuitBreakerConfig := ⟨5, 3, 30000, 60, 10⟩

namespace CircuitBreaker

inductive State where
  | closed
  | opened
  | halfOpen
  deriving DecidableEq

/-- The breaker goes half open; a request succeeds, with the number of the half open period
that admitted it; a request fails; a success closes the breaker; the successes are cleared. -/
inductive Event where
  | entered
  | succeeded (admitted : Option ℕ)
  | failed
  | closed
  | cleared
  deriving DecidableEq

/-- The number of half open periods so far. -/
def period (history : List Event) : ℕ := history.count .entered

end CircuitBreaker

open CircuitBreaker in
structure CircuitBreaker where
  state : State
  consecutiveFailures : UInt64
  consecutiveSuccesses : UInt64
  windowRequests : UInt64
  windowFailures : UInt64
  windowStart : UInt64
  nextAttemptAt : UInt64
  now : ℕ
  history : List Event

namespace CircuitBreaker

def instantToNanos (i : ℕ) : UInt64 := max (UInt64.ofNat i) 1

/-- The `f64` next to `n`, ties to even. -/
def roundF64 (n : ℕ) : ℕ :=
  let e := n.log2 - 52
  let q := n / 2 ^ e
  let r := n % 2 ^ e
  (if 2 ^ e < 2 * r ∨ 2 * r = 2 ^ e ∧ q % 2 = 1 then q + 1 else q) * 2 ^ e

/-- `window_failures as f64 / window_requests as f64 > 0.5`; a quotient up to half a unit in
the last place above one half is rounded to one half. -/
def aboveHalf (windowFailures windowRequests : UInt64) : Bool :=
  decide ((2 ^ 53 + 1) * roundF64 windowRequests.toNat < 2 ^ 54 * roundF64 windowFailures.toNat)

def shouldOpen (c : CircuitBreakerConfig) (consecutiveFailures windowRequests
    windowFailures : UInt64) : Bool :=
  decide (c.failureThreshold ≤ consecutiveFailures) ||
    decide (c.minRequests ≤ windowRequests) && aboveHalf windowFailures windowRequests

/-- `Instant::now() + Duration::from_millis(timeout_ms)`, as it is stored. -/
def nextAttempt (c : CircuitBreakerConfig) (now : ℕ) : UInt64 :=
  instantToNanos (now + c.timeoutMs.toNat * 1000000)

def windowExpired (c : CircuitBreakerConfig) (now : ℕ) (windowStart : UInt64) : Bool :=
  windowStart != 0 && decide (c.windowSizeSeconds.toNat * 1000000000 < now - windowStart.toNat)

/-- What a success has read from the counter, the period that admitted its request, and the
history up to its own entry. -/
structure Decision where
  successes : UInt64
  admitted : Option ℕ
  mark : List Event

/-- The next operation of a call. -/
inductive Call where
  | idle
  -- `should_allow_request`
  | loadState
  | loadNextAttempt
  | readClock (nextAttempt : UInt64)
  | toHalfOpen
  | running (admitted : Option ℕ)
  -- `on_success`
  | successRequest (admitted : Option ℕ)
  | addSuccess (admitted : Option ℕ)
  | zeroFailures (d : Decision)
  | loadStateSuccess (d : Decision)
  | toClosed (d : Decision)
  | closedFailures
  | closedSuccesses
  | closedNextAttempt
  -- `on_failure`
  | failureRequest
  | failureWindow
  | failureClock
  | addFailure (now : ℕ)
  | zeroSuccesses (now : ℕ) (failures : UInt64)
  | loadWindowStart (now : ℕ) (failures : UInt64)
  | expireRequests (now : ℕ) (failures : UInt64)
  | expireFailures (now : ℕ) (failures : UInt64)
  | expireStart (now : ℕ) (failures : UInt64)
  | loadWindowRequests (failures : UInt64)
  | loadWindowFailures (failures requests : UInt64)
  | loadStateFailure (shouldOpen : Bool)
  | openClock
  | toOpen (nextAttempt : UInt64)
  | storeNextAttempt (nextAttempt : UInt64)
  -- `reset`
  | resetState
  | resetFailures
  | resetSuccesses
  | resetWindowRequests
  | resetWindowFailures
  | resetNextAttempt

inductive BreakerOp where
  | execute
  | reset
  | finish (ok : Bool)
  | proceed
  | tick (nanos : ℕ)

def log (m : CircuitBreaker) (e : Event) : CircuitBreaker := { m with history := e :: m.history }

/-- The request is admitted; in a half open breaker it belongs to the current period. -/
def admission (m : CircuitBreaker) : Call :=
  .running (if m.state = .halfOpen then some (period m.history) else none)

/-- One operation of a call that goes on. -/
def proceed (c : CircuitBreakerConfig) (m : CircuitBreaker) : Call → Option (CircuitBreaker × Call)
  | .idle | .running _ => none
  | .loadState =>
    some (m, match m.state with
      | .closed | .halfOpen => m.admission
      | .opened => .loadNextAttempt)
  | .loadNextAttempt =>
    some (m, if m.nextAttemptAt = 0 then .idle else .readClock m.nextAttemptAt)
  | .readClock nextAttempt => some (m, if nextAttempt.toNat ≤ m.now then .toHalfOpen else .idle)
  | .toHalfOpen =>
    if m.state = .opened then
      let m := { m with state := .halfOpen }.log .entered
      some (m, m.admission)
    else some (m, m.admission)
  | .successRequest admitted =>
    some ({ m with windowRequests := m.windowRequests + 1 }, .addSuccess admitted)
  | .addSuccess admitted =>
    let successes := m.consecutiveSuccesses + 1
    let m := { m with consecutiveSuccesses := successes }.log (.succeeded admitted)
    some (m, .zeroFailures ⟨successes, admitted, m.history⟩)
  | .zeroFailures d => some ({ m with consecutiveFailures := 0 }, .loadStateSuccess d)
  | .loadStateSuccess d =>
    some (m, if m.state = .halfOpen ∧ c.successThreshold ≤ d.successes then .toClosed d else .idle)
  | .toClosed _ =>
    if m.state = .halfOpen then some ({ m with state := .closed }.log .closed, .closedFailures)
    else some (m, .idle)
  | .closedFailures => some ({ m with consecutiveFailures := 0 }, .closedSuccesses)
  | .closedSuccesses =>
    some ({ m with consecutiveSuccesses := 0 }.log .cleared, .closedNextAttempt)
  | .closedNextAttempt => some ({ m with nextAttemptAt := 0 }, .idle)
  | .failureRequest => some ({ m with windowRequests := m.windowRequests + 1 }, .failureWindow)
  | .failureWindow => some ({ m with windowFailures := m.windowFailures + 1 }, .failureClock)
  | .failureClock => some (m, .addFailure m.now)
  | .addFailure now =>
    let failures := m.consecutiveFailures + 1
    some ({ m with consecutiveFailures := failures }, .zeroSuccesses now failures)
  | .zeroSuccesses now failures =>
    some ({ m with consecutiveSuccesses := 0 }.log .failed, .loadWindowStart now failures)
  | .loadWindowStart now failures =>
    some (m, if windowExpired c now m.windowStart then .expireRequests now failures
      else .loadWindowRequests failures)
  | .expireRequests now failures =>
    some ({ m with windowRequests := 0 }, .expireFailures now failures)
  | .expireFailures now failures =>
    some ({ m with windowFailures := 0 }, .expireStart now failures)
  | .expireStart now failures =>
    some ({ m with windowStart := instantToNanos now }, .loadWindowRequests failures)
  | .loadWindowRequests failures => some (m, .loadWindowFailures failures m.windowRequests)
  | .loadWindowFailures failures requests =>
    some (m, .loadStateFailure (shouldOpen c failures requests m.windowFailures))
  | .loadStateFailure shouldOpen =>
    some (m, if shouldOpen || m.state != .halfOpen then .openClock else .idle)
  | .openClock => some (m, .toOpen (nextAttempt c m.now))
  | .toOpen nextAttempt => some ({ m with state := .opened }, .storeNextAttempt nextAttempt)
  | .storeNextAttempt nextAttempt => some ({ m with nextAttemptAt := nextAttempt }, .idle)
  | .resetState => some ({ m with state := .closed }, .resetFailures)
  | .resetFailures => some ({ m with consecutiveFailures := 0 }, .resetSuccesses)
  | .resetSuccesses =>
    some ({ m with consecutiveSuccesses := 0 }.log .cleared, .resetWindowRequests)
  | .resetWindowRequests => some ({ m with windowRequests := 0 }, .resetWindowFailures)
  | .resetWindowFailures => some ({ m with windowFailures := 0 }, .resetNextAttempt)
  | .resetNextAttempt => some ({ m with nextAttemptAt := 0 }, .idle)

/-- One step of one call, or of the clock. -/
def breakerStep (c : CircuitBreakerConfig) (_ : ℕ) (op : BreakerOp) (m : CircuitBreaker)
    (p : Call) : Option (CircuitBreaker × Call) :=
  match op, p with
  | .tick nanos, p => some ({ m with now := m.now + nanos }, p)
  | .execute, .idle => some (m, .loadState)
  | .reset, .idle => some (m, .resetState)
  | .finish ok, .running admitted =>
    some (m, if ok then .successRequest admitted else .failureRequest)
  | .proceed, p => proceed c m p
  | _, _ => none

/-- A new breaker, created at the given time. -/
def start (now : ℕ) : World CircuitBreaker Call :=
  ⟨⟨.closed, 0, 0, 0, 0, instantToNanos now, 0, now, []⟩, fun _ => .idle⟩

/-! ## What a step can do -/

/-- The decision that a success carries along. -/
def Call.decision : Call → Option Decision
  | .zeroFailures d | .loadStateSuccess d | .toClosed d => some d
  | _ => none

/-- The call has opened the breaker and goes on to store its deadline. -/
def Call.Opening (p : Call) : Prop := ∃ n, p = .storeNextAttempt n

/-- The deadline of a call about to open the breaker is not zero. -/
def Call.Dated (p : Call) : Prop := ∀ n, p = .toOpen n ∨ p = .storeNextAttempt n → n ≠ 0

/-- What all but a few operations leave alone. -/
structure SameCore (m m' : CircuitBreaker) : Prop where
  state : m'.state = m.state
  nextAttemptAt : m'.nextAttemptAt = m.nextAttemptAt
  consecutiveSuccesses : m'.consecutiveSuccesses = m.consecutiveSuccesses
  history : m'.history = m.history

/-- One step of one call: the new breaker and the new state of the call. -/
inductive BreakerMove (c : CircuitBreakerConfig) (m : CircuitBreaker) (p : Call) :
    CircuitBreaker → Call → Prop
  | tick (nanos : ℕ) : BreakerMove c m p { m with now := m.now + nanos } p
  | quiet (m' : CircuitBreaker) (p' : Call) (hsame : SameCore m m') (hp : ¬ p.Opening)
      (hp' : ¬ p'.Opening) (hdated : p'.Dated)
      (hdecision : ∀ d, p'.decision = some d → p.decision = some d)
      (hclose : ∀ d, p' = .toClosed d → c.successThreshold ≤ d.successes) : BreakerMove c m p m' p'
  | enter (hp : p = .toHalfOpen) (hopen : m.state = .opened) :
      BreakerMove c m p ({ m with state := .halfOpen }.log .entered)
        ({ m with state := .halfOpen }.log .entered).admission
  | count (admitted : Option ℕ) (hp : p = .addSuccess admitted) :
      BreakerMove c m p
        ({ m with consecutiveSuccesses := m.consecutiveSuccesses + 1 }.log (.succeeded admitted))
        (.zeroFailures
          ⟨m.consecutiveSuccesses + 1, admitted, .succeeded admitted :: m.history⟩)
  | close (d : Decision) (hp : p = .toClosed d) (hhalf : m.state = .halfOpen) :
      BreakerMove c m p ({ m with state := .closed }.log .closed) .closedFailures
  | fail (now : ℕ) (failures : UInt64) (hp : p = .zeroSuccesses now failures) :
      BreakerMove c m p ({ m with consecutiveSuccesses := 0 }.log .failed)
        (.loadWindowStart now failures)
  | clear (p' : Call) (hp : p = .closedSuccesses ∧ p' = .closedNextAttempt ∨
        p = .resetSuccesses ∧ p' = .resetWindowRequests) :
      BreakerMove c m p ({ m with consecutiveSuccesses := 0 }.log .cleared) p'
  | toOpen (n : UInt64) (hp : p = .toOpen n) :
      BreakerMove c m p { m with state := .opened } (.storeNextAttempt n)
  | store (n : UInt64) (hp : p = .storeNextAttempt n) :
      BreakerMove c m p { m with nextAttemptAt := n } .idle
  | zero (hp : p = .closedNextAttempt ∨ p = .resetNextAttempt) :
      BreakerMove c m p { m with nextAttemptAt := 0 } .idle
  | reset (hp : p = .resetState) : BreakerMove c m p { m with state := .closed } .resetFailures

variable {c : CircuitBreakerConfig} {m m' : CircuitBreaker} {p p' : Call} {i : ℕ} {op : BreakerOp}

theorem instantToNanos_ne_zero (now : ℕ) : instantToNanos now ≠ 0 := by
  change (if UInt64.ofNat now ≤ 1 then (1 : UInt64) else UInt64.ofNat now) ≠ 0
  split
  · decide
  · rename_i hlt
    intro h
    rw [h] at hlt
    exact hlt (by decide)

theorem SameCore.refl (m : CircuitBreaker) : SameCore m m := ⟨rfl, rfl, rfl, rfl⟩

theorem dated_of_ne (h : ∀ n, p ≠ .toOpen n) (h' : ¬ p.Opening) : p.Dated := by
  rintro n (rfl | rfl)
  · exact absurd rfl (h n)
  · exact absurd ⟨n, rfl⟩ h'

/-- A step that leaves the core alone and goes on to an operation without a deadline. -/
theorem BreakerMove.passive (hsame : SameCore m m') (hp : ∀ n, p ≠ .storeNextAttempt n)
    (hstore : ∀ n, p' ≠ .storeNextAttempt n) (hopen : ∀ n, p' ≠ .toOpen n)
    (hclosed : ∀ d, p' ≠ .toClosed d) (hdecision : ∀ d, p'.decision = some d →
      p.decision = some d) : BreakerMove c m p m' p' := by
  have hp' : ¬ p'.Opening := fun ⟨n, hn⟩ => hstore n hn
  exact .quiet m' p' hsame (fun ⟨n, hn⟩ => hp n hn) hp' (dated_of_ne hopen hp') hdecision
    fun d hd => absurd hd (hclosed d)

theorem proceed_cases (h : proceed c m p = some (m', p')) : BreakerMove c m p m' p' := by
  cases p with
  | idle => cases h
  | running admitted => cases h
  | loadState =>
    cases h
    cases m.state with
    | opened => exact .passive (.refl m) (by simp) (by simp) (by simp) (by simp) (by simp [Call.decision])
    | _ =>
      exact .passive (.refl m) (by simp) (by simp [admission]) (by simp [admission])
        (by simp [admission]) (by simp [admission, Call.decision])
  | loadNextAttempt =>
    cases h
    split
    · exact .passive (.refl m) (by simp) (by simp) (by simp) (by simp) (by simp [Call.decision])
    · exact .passive (.refl m) (by simp) (by simp) (by simp) (by simp) (by simp [Call.decision])
  | readClock n =>
    cases h
    split
    · exact .passive (.refl m) (by simp) (by simp) (by simp) (by simp) (by simp [Call.decision])
    · exact .passive (.refl m) (by simp) (by simp) (by simp) (by simp) (by simp [Call.decision])
  | toHalfOpen =>
    unfold proceed at h
    dsimp only at h
    split at h <;> cases h
    · exact .enter rfl ‹_›
    · apply BreakerMove.passive (.refl m) <;> simp [admission, Call.decision]
  | addSuccess admitted =>
    cases h
    exact .count admitted rfl
  | loadStateSuccess d =>
    cases h
    split
    · rename_i hreached
      refine .quiet _ _ (.refl m) (by simp [Call.Opening]) (by simp [Call.Opening])
        (dated_of_ne (by simp) (by simp [Call.Opening])) (fun _ hd => hd) ?_
      rintro d' hd'
      cases hd'
      exact hreached.2
    · exact .passive (.refl m) (by simp) (by simp) (by simp) (by simp) (by simp [Call.decision])
  | toClosed d =>
    unfold proceed at h
    dsimp only at h
    split at h <;> cases h
    · exact .close d rfl ‹_›
    · apply BreakerMove.passive (.refl m) <;> simp [Call.decision]
  | closedSuccesses =>
    cases h
    exact .clear _ (Or.inl ⟨rfl, rfl⟩)
  | closedNextAttempt =>
    cases h
    exact .zero (Or.inl rfl)
  | zeroSuccesses now failures =>
    cases h
    exact .fail now failures rfl
  | loadWindowStart now failures =>
    cases h
    split
    · exact .passive (.refl m) (by simp) (by simp) (by simp) (by simp) (by simp [Call.decision])
    · exact .passive (.refl m) (by simp) (by simp) (by simp) (by simp) (by simp [Call.decision])
  | loadStateFailure shouldOpen =>
    cases h
    split
    · exact .passive (.refl m) (by simp) (by simp) (by simp) (by simp) (by simp [Call.decision])
    · exact .passive (.refl m) (by simp) (by simp) (by simp) (by simp) (by simp [Call.decision])
  | openClock =>
    cases h
    refine .quiet _ _ (.refl m) (by simp [Call.Opening]) (by simp [Call.Opening]) ?_
      (by simp [Call.decision]) (by simp)
    rintro n (hn | hn) <;> cases hn
    exact instantToNanos_ne_zero _
  | toOpen n =>
    cases h
    exact .toOpen n rfl
  | storeNextAttempt n =>
    cases h
    exact .store n rfl
  | resetState =>
    cases h
    exact .reset rfl
  | resetSuccesses =>
    cases h
    exact .clear _ (Or.inr ⟨rfl, rfl⟩)
  | resetNextAttempt =>
    cases h
    exact .zero (Or.inr rfl)
  | _ =>
    cases h
    exact .passive ⟨rfl, rfl, rfl, rfl⟩ (by simp) (by simp) (by simp) (by simp) (by simp [Call.decision])

/-- **Every step** is one of the moves. -/
theorem breakerStep_cases (h : breakerStep c i op m p = some (m', p')) : BreakerMove c m p m' p' := by
  cases op with
  | tick nanos =>
    cases h
    exact .tick nanos
  | proceed => exact proceed_cases h
  | execute =>
    cases p <;> cases h
    apply BreakerMove.passive (.refl m) <;> simp [Call.decision]
  | reset =>
    cases p <;> cases h
    apply BreakerMove.passive (.refl m) <;> simp [Call.decision]
  | finish ok =>
    cases p <;> cases h
    apply BreakerMove.passive (.refl m) <;> cases ok <;> simp [Call.decision]

/-! ## The deadline of an open breaker -/

/-- The store that ends a closing or a reset finds the breaker not open, or a failure on its
way from opening it to storing the deadline. -/
def KeepsDeadline (w : World CircuitBreaker Call) (act : ℕ × BreakerOp) : Prop :=
  match act.2, w.threads act.1 with
  | .proceed, .closedNextAttempt | .proceed, .resetNextAttempt =>
      w.shared.state ≠ .opened ∨ ∃ j, (w.threads j).Opening
  | _, _ => True

/-- An open breaker has a deadline, or a failure is about to store one. -/
structure DeadlineInv (w : World CircuitBreaker Call) : Prop where
  dated : ∀ i, (w.threads i).Dated
  deadline : w.shared.state = .opened →
    w.shared.nextAttemptAt ≠ 0 ∨ ∃ j, (w.threads j).Opening

/-- `should_allow_request` of task `i` lets its request through when nothing comes between. -/
def Admits (c : CircuitBreakerConfig) (w : World CircuitBreaker Call) (i : ℕ) : Prop :=
  ∃ w' admitted, run (World.step (breakerStep c)) w
    ((i, .execute) :: List.replicate 4 (i, .proceed)) = some w' ∧ w'.threads i = .running admitted

variable {w w' : World CircuitBreaker Call} {act : ℕ × BreakerOp}

theorem deadlineInv_start (now : ℕ) : DeadlineInv (start now) where
  dated _ := dated_of_ne (by simp [start]) (by simp [start, Call.Opening])
  deadline h := by cases h

/-- A step of a call that is not opening, to a dated operation. -/
theorem DeadlineInv.move (h : DeadlineInv w) (hp : ¬ (w.threads i).Opening) (hdated : p.Dated)
    (hdeadline : m.state = .opened → (∃ j, (w.threads j).Opening) ∨ p.Opening ∨
      m.nextAttemptAt ≠ 0) : DeadlineInv ⟨m, Function.update w.threads i p⟩ := by
  constructor
  · exact World.threads_forall hdated h.dated
  · intro hopen
    rcases hdeadline hopen with ⟨j, hj⟩ | hopening | hne
    · refine Or.inr ⟨j, ?_⟩
      rw [World.threads_kept fun he => hp (he ▸ hj)]
      exact hj
    · exact Or.inr ⟨i, by simpa using hopening⟩
    · exact Or.inl hne

/-- **One step.** -/
theorem deadlineInv_step (h : DeadlineInv w) (hkeeps : KeepsDeadline w act)
    (hstep : World.step (breakerStep c) w act = some w') : DeadlineInv w' := by
  obtain ⟨i, op⟩ := act
  obtain ⟨m, p, hs, rfl⟩ := World.step_eq_some.mp hstep
  have hkept : w.shared.state = .opened → (∃ j, (w.threads j).Opening) ∨ p.Opening ∨
      w.shared.nextAttemptAt ≠ 0 := fun hopen =>
    (h.deadline hopen).elim (fun hne => Or.inr (Or.inr hne)) Or.inl
  cases breakerStep_cases hs with
  | tick nanos =>
    rw [Function.update_eq_self]
    exact ⟨h.dated, h.deadline⟩
  | quiet m' p' hsame hp hp' hdated hdecision hclose =>
    refine h.move hp hdated ?_
    rw [hsame.state, hsame.nextAttemptAt]
    exact hkept
  | enter hp hopen =>
    refine h.move (by simp [hp, Call.Opening]) ?_ (fun hstate => nomatch hstate)
    exact dated_of_ne (by simp [admission]) (by simp [admission, Call.Opening])
  | count admitted hp =>
    exact h.move (by simp [hp, Call.Opening])
      (dated_of_ne (by simp) (by simp [Call.Opening])) hkept
  | close d hp hhalf =>
    refine h.move (by simp [hp, Call.Opening]) ?_ (fun hstate => nomatch hstate)
    exact dated_of_ne (by simp) (by simp [Call.Opening])
  | fail now failures hp =>
    exact h.move (by simp [hp, Call.Opening])
      (dated_of_ne (by simp) (by simp [Call.Opening])) hkept
  | clear p' hp =>
    rcases hp with ⟨hp, rfl⟩ | ⟨hp, rfl⟩
    · exact h.move (by simp [hp, Call.Opening])
        (dated_of_ne (by simp) (by simp [Call.Opening])) hkept
    · exact h.move (by simp [hp, Call.Opening])
        (dated_of_ne (by simp) (by simp [Call.Opening])) hkept
  | toOpen n hp =>
    refine h.move (by simp [hp, Call.Opening]) ?_ (fun _ => Or.inr (Or.inl ⟨n, rfl⟩))
    rintro n' (hn | hn) <;> cases hn
    exact h.dated i n (Or.inl hp)
  | store n hp =>
    constructor
    · exact World.threads_forall (dated_of_ne (by simp) (by simp [Call.Opening])) h.dated
    · exact fun _ => Or.inl (h.dated i n (Or.inr hp))
  | zero hp =>
    have hop : op = .proceed := by
      cases op with
      | proceed => rfl
      | tick nanos =>
        have hp' : w.threads i = .idle := congrArg Prod.snd (Option.some.inj hs)
        rcases hp with hp | hp <;> rw [hp'] at hp <;> cases hp
      | _ => rcases hp with hp | hp <;> rw [hp] at hs <;> cases hs
    subst hop
    have hguard : w.shared.state ≠ .opened ∨ ∃ j, (w.threads j).Opening := by
      unfold KeepsDeadline at hkeeps
      rcases hp with hp | hp <;> simpa [hp] using hkeeps
    refine h.move ?_ (dated_of_ne (by simp) (by simp [Call.Opening])) ?_
    · rcases hp with hp | hp <;> simp [hp, Call.Opening]
    · exact fun hopen => Or.inl (hguard.resolve_left fun hne => hne hopen)
  | reset hp =>
    refine h.move (by simp [hp, Call.Opening]) ?_ (fun hstate => nomatch hstate)
    exact dated_of_ne (by simp) (by simp [Call.Opening])

/-- An open breaker with a deadline lets a request through once the clock has passed it. -/
theorem admits_of_deadline (hidle : w.threads i = .idle) (hopen : w.shared.state = .opened)
    (hne : w.shared.nextAttemptAt ≠ 0) (hpassed : w.shared.nextAttemptAt.toNat ≤ w.shared.now) :
    Admits c w i := by
  obtain ⟨m, threads⟩ := w
  dsimp only at hidle hopen hne hpassed
  have hw : threads = Function.update threads i .idle := by rw [← hidle, Function.update_eq_self]
  have hload : proceed c m .loadState = some (m, .loadNextAttempt) := by
    simp [proceed, hopen]
  have hdeadline : proceed c m .loadNextAttempt = some (m, .readClock m.nextAttemptAt) := by
    simp [proceed, hne]
  have hclock : proceed c m (.readClock m.nextAttemptAt) = some (m, .toHalfOpen) := by
    simp [proceed, hpassed]
  have hswap : proceed c m .toHalfOpen = some ({ m with state := .halfOpen }.log .entered,
      .running (some (period (.entered :: m.history)))) := by
    simp [proceed, hopen, admission, log]
  have hstart : breakerStep c i .execute m .idle = some (m, .loadState) := rfl
  refine ⟨⟨{ m with state := .halfOpen }.log .entered, Function.update threads i
    (.running (some (period (.entered :: m.history))))⟩, _, ?_, Function.update_self _ _ _⟩
  rw [hw]
  simp only [List.replicate, run_cons, run_nil]
  rw [World.step_update hstart, Option.bind_some, World.step_update hload, Option.bind_some,
    World.step_update hdeadline, Option.bind_some, World.step_update hclock, Option.bind_some,
    World.step_update hswap, Option.bind_some, Function.update_idem]

/-- **Orderly runs.** When no call is in progress an open breaker has a deadline, and any task
that asks after it is let through. -/
theorem orderly_deadline {now : ℕ}
    (h : Reaches (World.step (breakerStep c)) KeepsDeadline (start now) w)
    (hidle : ∀ i, w.threads i = .idle) (hopen : w.shared.state = .opened) :
    w.shared.nextAttemptAt ≠ 0 ∧ ∀ nanos i, w.shared.nextAttemptAt.toNat ≤ w.shared.now + nanos →
      Admits c { w with shared := { w.shared with now := w.shared.now + nanos } } i := by
  have hinv : DeadlineInv w := h.invariant (deadlineInv_start now)
    fun _ _ _ hi hk hs => deadlineInv_step hi hk hs
  have hne : w.shared.nextAttemptAt ≠ 0 := by
    refine (hinv.deadline hopen).resolve_right ?_
    rintro ⟨j, n, hn⟩
    rw [hidle j] at hn
    cases hn
  refine ⟨hne, fun nanos i hpassed => ?_⟩
  exact admits_of_deadline (hidle i) hopen hne hpassed

/-- The call does not stand before a store that takes a deadline away. -/
def Call.keeps : Call → Bool
  | .closedNextAttempt | .resetNextAttempt => false
  | _ => true

def Call.isIdle : Call → Bool
  | .idle => true
  | _ => false

theorem eq_idle_of_isIdle (h : p.isIdle = true) : p = .idle := by
  unfold Call.isIdle at h
  split at h
  · rfl
  · cases h

theorem keepsDeadline_of_keeps {a : BreakerOp} (h : (w.threads i).keeps = true) :
    KeepsDeadline w (i, a) := by
  unfold KeepsDeadline
  split
  · rename_i hp
    rw [hp] at h
    cases h
  · rename_i hp
    rw [hp] at h
    cases h
  · trivial

/-- A failure opens a new breaker, and the breaker lets a request through 30 seconds later. -/
theorem orderly_deadline_failure : ∃ w,
    Reaches (World.step (breakerStep .default)) KeepsDeadline (start 0) w ∧
      w.shared.state = .opened ∧
      Admits .default { w with shared := { w.shared with now := w.shared.now + 30000000000 } } 0 := by
  let ops : List BreakerOp := [.execute, .proceed, .finish false] ++ List.replicate 12 .proceed
  have hrun : ((World.runThread (breakerStep .default) (fun p => p.keeps = true) 0 (start 0).shared
      .idle ops).map fun r => (r.1.state, r.1.now, r.1.nextAttemptAt, r.2.isIdle)) =
      some (.opened, 0, 30000000000, true) := by
    decide
  obtain ⟨⟨m, p⟩, hm, hstate⟩ := Option.map_eq_some_iff.mp hrun
  simp only [Prod.mk.injEq] at hstate
  obtain ⟨hopen, hnow, hnext, hidle⟩ := hstate
  obtain rfl := eq_idle_of_isIdle hidle
  have hguard : ∀ (m : CircuitBreaker) (p : Call) (a : BreakerOp), p.keeps = true →
      KeepsDeadline ⟨m, Function.update (fun _ => .idle) 0 p⟩ (0, a) :=
    fun _ _ _ hp => keepsDeadline_of_keeps hp
  have hreach := World.reaches_runThread hguard hm
  rw [Function.update_eq_self] at hreach
  refine ⟨_, hreach, hopen, ?_⟩
  refine (orderly_deadline hreach (fun _ => rfl) hopen).2 30000000000 0 ?_
  rw [hnow, hnext]
  decide

/-! ## A breaker that is stuck -/

/-- The call asks an open breaker for a request. -/
def Call.Asking (p : Call) : Prop := p = .idle ∨ p = .loadState ∨ p = .loadNextAttempt

/-- Nobody resets the breaker by hand. -/
def NoReset (_ : World CircuitBreaker Call) (act : ℕ × BreakerOp) : Prop :=
  match act.2 with
  | .reset => False
  | _ => True

/-- An open breaker without a deadline, and only calls that ask it. -/
structure Stuck (w : World CircuitBreaker Call) : Prop where
  opened : w.shared.state = .opened
  zero : w.shared.nextAttemptAt = 0
  asking : ∀ i, (w.threads i).Asking

theorem stuck_step (h : Stuck w) (hreset : NoReset w act)
    (hstep : World.step (breakerStep c) w act = some w') : Stuck w' := by
  obtain ⟨i, op⟩ := act
  obtain ⟨m, p, hs, rfl⟩ := World.step_eq_some.mp hstep
  have hmove : m.state = w.shared.state ∧ m.nextAttemptAt = w.shared.nextAttemptAt ∧ p.Asking := by
    rcases h.asking i with hi | hi | hi
    · rw [hi] at hs
      cases op with
      | tick nanos =>
        cases hs
        exact ⟨rfl, rfl, Or.inl rfl⟩
      | execute =>
        cases hs
        exact ⟨rfl, rfl, Or.inr (Or.inl rfl)⟩
      | reset => exact hreset.elim
      | finish ok => cases hs
      | proceed => cases hs
    · rw [hi] at hs
      cases op with
      | tick nanos =>
        cases hs
        exact ⟨rfl, rfl, Or.inr (Or.inl rfl)⟩
      | proceed =>
        cases hs
        rw [h.opened]
        exact ⟨rfl, rfl, Or.inr (Or.inr rfl)⟩
      | _ => cases hs
    · rw [hi] at hs
      cases op with
      | tick nanos =>
        cases hs
        exact ⟨rfl, rfl, Or.inr (Or.inr rfl)⟩
      | proceed =>
        cases hs
        rw [if_pos h.zero]
        exact ⟨rfl, rfl, Or.inl rfl⟩
      | _ => cases hs
  obtain ⟨hstate, hnext, hasking⟩ := hmove
  exact ⟨hstate.trans h.opened, hnext.trans h.zero, World.threads_forall hasking h.asking⟩

/-- **Stuck for ever.** Without a reset no request is admitted again. -/
theorem stuck_never_admits (h : Stuck w) (hreach : Reaches (World.step (breakerStep c)) NoReset w w')
    (i : ℕ) (admitted : Option ℕ) : w'.threads i ≠ .running admitted := by
  have hstuck : Stuck w' := hreach.invariant h fun _ _ _ hi hr hs => stuck_step hi hr hs
  intro hrunning
  rcases hstuck.asking i with hi | hi | hi <;> rw [hrunning] at hi <;> cases hi

/-- The third success of a half open breaker closes it; before this call has cleared the
deadline another request of the half open period fails and opens the breaker again. -/
theorem late_zero_sticks : ∃ w,
    Reaches (World.step (breakerStep .default)) Free (start 0) w ∧ (∀ i, w.threads i = .idle) ∧
      w.shared.state = .opened ∧ w.shared.nextAttemptAt = 0 ∧
      ∀ w', Reaches (World.step (breakerStep .default)) NoReset w w' →
        ∀ i admitted, w'.threads i ≠ .running admitted := by
  let proceed (i n : ℕ) : List (ℕ × BreakerOp) := List.replicate n (i, .proceed)
  let ops : List (List (ℕ × BreakerOp)) :=
    [[(0, .execute)], proceed 0 1, [(0, .finish false)], proceed 0 12, [(0, .tick 30000000000)],
      [(1, .execute)], proceed 1 4, [(1, .finish true)], proceed 1 4,
      [(1, .execute)], proceed 1 1, [(1, .finish true)], proceed 1 4,
      [(2, .execute)], proceed 2 1,
      [(1, .execute)], proceed 1 1, [(1, .finish true)], proceed 1 5,
      [(2, .finish false)], proceed 2 12, proceed 1 3]
  have hrun : ((run (World.step (breakerStep .default)) (start 0) ops.flatten).map fun w =>
      (w.shared.state, w.shared.nextAttemptAt, (w.threads 0).isIdle, (w.threads 1).isIdle,
        (w.threads 2).isIdle)) = some (.opened, 0, true, true, true) := by
    decide +kernel
  obtain ⟨w, hw, hstate⟩ := Option.map_eq_some_iff.mp hrun
  simp only [Prod.mk.injEq] at hstate
  obtain ⟨hopen, hzero, h0, h1, h2⟩ := hstate
  have hidle : ∀ i, w.threads i = .idle := by
    intro i
    match i with
    | 0 => exact eq_idle_of_isIdle h0
    | 1 => exact eq_idle_of_isIdle h1
    | 2 => exact eq_idle_of_isIdle h2
    | i + 3 =>
      have hops : ∀ a ∈ ops.flatten, a.1 < 3 := by decide
      refine World.run_untouched hw fun a ha => ?_
      have := hops a ha
      omega
  have hstuck : Stuck w := ⟨hopen, hzero, fun i => Or.inl (hidle i)⟩
  exact ⟨w, reaches_of_run hw, hidle, hopen, hzero,
    fun w' hreach i admitted => stuck_never_admits hstuck hreach i admitted⟩

end CircuitBreaker

end NebulaId
