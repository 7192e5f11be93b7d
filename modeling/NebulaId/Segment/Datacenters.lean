import NebulaId.Machine.Run
import NebulaId.Machine.Streak
import Mathlib.Algebra.Order.Ring.Nat
import Mathlib.Logic.Function.Basic

/-!
# Failover between datacenters (`core/algorithm/segment.rs`)

A detector keeps a health record for each datacenter it was given. Time is in nanoseconds;
`failoverStep` takes one call of the detector or of a record, or lets time pass. Selecting a
datacenter changes nothing, so it is asked of the states.

* `Tracks`: what every record says about the results recorded so far.
* `FailedSince.step`: what a failed datacenter needs to be used again.
* `failover_honours_parameters`: for every run, when a datacenter is selected and when it is not.
-/

namespace NebulaId

open Machine

inductive DcStatus where
  | healthy
  | degraded
  | failed
  deriving DecidableEq

structure DcHealthState where
  status : DcStatus
  lastSuccess : ℕ
  failureCount : UInt64
  consecutiveFailures : UInt64
  deriving DecidableEq

namespace DcHealthState

def new (now : ℕ) : DcHealthState := ⟨.healthy, now, 0, 0⟩

def recordSuccess (now : ℕ) (s : DcHealthState) : DcHealthState :=
  { s with status := .healthy, lastSuccess := now, consecutiveFailures := 0 }

def recordFailure (s : DcHealthState) : DcHealthState :=
  let consecutive := s.consecutiveFailures + 1
  { s with
    status := if 5 ≤ consecutive then .failed else if 3 ≤ consecutive then .degraded else s.status
    failureCount := s.failureCount + 1
    consecutiveFailures := consecutive }

def shouldUseDc (s : DcHealthState) : Bool := s.status != .failed

/-- One turn of the loop of `check_recovery`. -/
def attemptRecovery (recoveryTimeout now : ℕ) (s : DcHealthState) : DcHealthState :=
  if s.status = .failed ∧ recoveryTimeout < now - s.lastSuccess then { s with status := .degraded }
  else s

end DcHealthState

structure DcFailureDetector where
  dcStates : UInt8 → Option DcHealthState
  failureThreshold : UInt64
  recoveryTimeout : ℕ

namespace DcFailureDetector

def new (failureThreshold : UInt64) (recoveryTimeout : ℕ) : DcFailureDetector :=
  ⟨fun _ => none, failureThreshold, recoveryTimeout⟩

/-- The keys of the map in the order of its iteration. -/
structure KeyOrder (detector : DcFailureDetector) where
  keys : List UInt8
  nodup : keys.Nodup
  mem_keys : ∀ dcId, dcId ∈ keys ↔ (detector.dcStates dcId).isSome

def setState (detector : DcFailureDetector) (dcId : UInt8) (s : DcHealthState) :
    DcFailureDetector :=
  { detector with dcStates := Function.update detector.dcStates dcId (some s) }

def addDc (detector : DcFailureDetector) (now : ℕ) (dcId : UInt8) : DcFailureDetector :=
  match detector.dcStates dcId with
  | some _ => detector
  | none => detector.setState dcId (DcHealthState.new now)

/-- The datacenter has a record, and `should_use_dc` is true of it. -/
def uses (detector : DcFailureDetector) (dcId : UInt8) : Bool :=
  (detector.dcStates dcId).any DcHealthState.shouldUseDc

def getHealthyDcs (detector : DcFailureDetector) (order : detector.KeyOrder) : List UInt8 :=
  order.keys.filter detector.uses

def selectBestDc (detector : DcFailureDetector) (order : detector.KeyOrder) (preferredDc : UInt8) :
    UInt8 :=
  if detector.uses preferredDc then preferredDc
  else (detector.getHealthyDcs order).headD preferredDc

def checkRecovery (detector : DcFailureDetector) (now : ℕ) : DcFailureDetector :=
  { detector with
    dcStates := fun dcId =>
      (detector.dcStates dcId).map (DcHealthState.attemptRecovery detector.recoveryTimeout now) }

end DcFailureDetector

/-- A detector and the clock. -/
structure Failover where
  detector : DcFailureDetector
  now : ℕ

inductive DcEvent where
  | addDc (dcId : UInt8)
  | recordSuccess (dcId : UInt8)
  | recordFailure (dcId : UInt8)
  | checkRecovery
  | wait (duration : ℕ)
  deriving DecidableEq

/-- A result can only be recorded where `get_dc_state` finds a record. -/
def failoverStep (s : Failover) : DcEvent → Option Failover
  | .addDc dcId => some { s with detector := s.detector.addDc s.now dcId }
  | .recordSuccess dcId => (s.detector.dcStates dcId).map fun state =>
    { s with detector := s.detector.setState dcId (state.recordSuccess s.now) }
  | .recordFailure dcId => (s.detector.dcStates dcId).map fun state =>
    { s with detector := s.detector.setState dcId state.recordFailure }
  | .checkRecovery => some { s with detector := s.detector.checkRecovery s.now }
  | .wait duration => some { s with now := s.now + duration }

def Failover.new (failureThreshold : UInt64) (recoveryTimeout : ℕ) : Failover :=
  ⟨.new failureThreshold recoveryTimeout, 0⟩

/-- The event is a result of the datacenter. -/
def DcEvent.isResultOf (dcId : UInt8) (e : DcEvent) : Bool :=
  e == .recordSuccess dcId || e == .recordFailure dcId

/-- The failures of the datacenter since its last success. -/
def failuresInARow (dcId : UInt8) (events : List DcEvent) : ℕ :=
  streak (· == .recordFailure dcId) (events.filter (DcEvent.isResultOf dcId))

/-- The datacenter is marked failed. -/
def Failover.Failed (s : Failover) (dcId : UInt8) : Prop :=
  ∃ state ∈ s.detector.dcStates dcId, state.status = .failed

/-- The datacenter is only selected when it is the preferred one and there is none to use. -/
def Failover.Excluded (s : Failover) (dcId : UInt8) : Prop :=
  ∀ order preferredDc, s.detector.selectBestDc order preferredDc = dcId →
    preferredDc = dcId ∧ ∀ dcId', s.detector.uses dcId' = false

variable {s s' : Failover} {e : DcEvent} {events : List DcEvent} {dcId : UInt8}
  {state : DcHealthState}

/-! ## One step -/

/-- What a step does to the record of one datacenter. -/
inductive DcMove (dcId : UInt8) (s s' : Failover) : DcEvent → Prop
  | added (h : s.detector.dcStates dcId = none)
      (h' : s'.detector.dcStates dcId = some (DcHealthState.new s.now)) :
      DcMove dcId s s' (.addDc dcId)
  | succeeded (state : DcHealthState) (h : s.detector.dcStates dcId = some state)
      (h' : s'.detector.dcStates dcId = some (state.recordSuccess s.now)) :
      DcMove dcId s s' (.recordSuccess dcId)
  | failed (state : DcHealthState) (h : s.detector.dcStates dcId = some state)
      (h' : s'.detector.dcStates dcId = some state.recordFailure) :
      DcMove dcId s s' (.recordFailure dcId)
  | checked (h : s'.detector.dcStates dcId = (s.detector.dcStates dcId).map
      (DcHealthState.attemptRecovery s.detector.recoveryTimeout s.now)) :
      DcMove dcId s s' .checkRecovery
  | untouched (e : DcEvent) (he : e.isResultOf dcId = false)
      (h : s'.detector.dcStates dcId = s.detector.dcStates dcId) : DcMove dcId s s' e

theorem DcFailureDetector.setState_self (detector : DcFailureDetector) :
    (detector.setState dcId state).dcStates dcId = some state :=
  Function.update_self _ _ _

theorem DcFailureDetector.setState_of_ne (detector : DcFailureDetector) {dcId' : UInt8}
    (h : dcId ≠ dcId') :
    (detector.setState dcId' state).dcStates dcId = detector.dcStates dcId :=
  Function.update_of_ne h _ _

theorem isResultOf_of_ne {dcId' : UInt8} (h : dcId ≠ dcId') :
    (DcEvent.recordSuccess dcId').isResultOf dcId = false ∧
      (DcEvent.recordFailure dcId').isResultOf dcId = false := by
  have hs : DcEvent.recordSuccess dcId' ≠ .recordSuccess dcId :=
    fun heq => h (DcEvent.recordSuccess.inj heq).symm
  have hf : DcEvent.recordFailure dcId' ≠ .recordFailure dcId :=
    fun heq => h (DcEvent.recordFailure.inj heq).symm
  constructor
  · rw [DcEvent.isResultOf, beq_false_of_ne hs]
    rfl
  · rw [DcEvent.isResultOf, beq_false_of_ne hf]
    rfl

theorem failoverStep_cases (h : failoverStep s e = some s') (dcId : UInt8) :
    DcMove dcId s s' e := by
  cases e with
  | addDc dcId' =>
    cases h
    cases hstate : s.detector.dcStates dcId' with
    | some state =>
      refine .untouched _ rfl ?_
      simp only [DcFailureDetector.addDc, hstate]
    | none =>
      by_cases hd : dcId = dcId'
      · subst hd
        refine .added hstate ?_
        simp only [DcFailureDetector.addDc, hstate, DcFailureDetector.setState_self]
      · refine .untouched _ rfl ?_
        simp only [DcFailureDetector.addDc, hstate, DcFailureDetector.setState_of_ne _ hd]
  | recordSuccess dcId' =>
    obtain ⟨state, hstate, rfl⟩ := Option.map_eq_some_iff.mp h
    by_cases hd : dcId = dcId'
    · subst hd
      exact .succeeded state hstate (DcFailureDetector.setState_self _)
    · exact .untouched _ (isResultOf_of_ne hd).1 (DcFailureDetector.setState_of_ne _ hd)
  | recordFailure dcId' =>
    obtain ⟨state, hstate, rfl⟩ := Option.map_eq_some_iff.mp h
    by_cases hd : dcId = dcId'
    · subst hd
      exact .failed state hstate (DcFailureDetector.setState_self _)
    · exact .untouched _ (isResultOf_of_ne hd).2 (DcFailureDetector.setState_of_ne _ hd)
  | checkRecovery =>
    cases h
    exact .checked rfl
  | wait duration =>
    cases h
    exact .untouched _ rfl rfl

/-! ## Failures in a row -/

theorem failuresInARow_of_other (h : e.isResultOf dcId = false) :
    failuresInARow dcId (events ++ [e]) = failuresInARow dcId events := by
  unfold failuresInARow
  rw [List.filter_append, List.filter_cons_of_neg (Bool.eq_false_iff.mp h), List.filter_nil,
    List.append_nil]

theorem failuresInARow_recordFailure :
    failuresInARow dcId (events ++ [.recordFailure dcId]) = failuresInARow dcId events + 1 := by
  have hresult : DcEvent.isResultOf dcId (.recordFailure dcId) = true := by
    rw [DcEvent.isResultOf, beq_self_eq_true, Bool.or_true]
  unfold failuresInARow
  rw [List.filter_append, List.filter_cons_of_pos hresult, List.filter_nil]
  exact streak_concat_of_pos (beq_self_eq_true _)

theorem failuresInARow_recordSuccess :
    failuresInARow dcId (events ++ [.recordSuccess dcId]) = 0 := by
  have hresult : DcEvent.isResultOf dcId (.recordSuccess dcId) = true := by
    rw [DcEvent.isResultOf, beq_self_eq_true, Bool.true_or]
  unfold failuresInARow
  rw [List.filter_append, List.filter_cons_of_pos hresult, List.filter_nil]
  exact streak_concat_of_neg rfl

/-- What the record of a datacenter says about the results so far. -/
structure Tracks (state : DcHealthState) (failures : ℕ) : Prop where
  counter : state.consecutiveFailures.toNat = failures % 2 ^ 64
  failed : state.status = .failed → 5 ≤ failures

namespace Tracks

variable {failures now recoveryTimeout : ℕ}

theorem new (now : ℕ) : Tracks (DcHealthState.new now) 0 where
  counter := rfl
  failed h := by cases h

theorem recordSuccess : Tracks (state.recordSuccess now) 0 where
  counter := rfl
  failed h := by cases h

theorem counter_recordFailure (h : Tracks state failures) :
    state.recordFailure.consecutiveFailures.toNat = (failures + 1) % 2 ^ 64 := by
  have hadd : (state.consecutiveFailures + 1).toNat =
      (state.consecutiveFailures.toNat + 1) % 2 ^ 64 := UInt64.toNat_add _ _
  rw [DcHealthState.recordFailure, hadd, h.counter, Nat.mod_add_mod]

theorem recordFailure (h : Tracks state failures) : Tracks state.recordFailure (failures + 1) where
  counter := h.counter_recordFailure
  failed := by
    intro hfailed
    have hcounter := h.counter_recordFailure
    simp only [DcHealthState.recordFailure] at hfailed hcounter
    split at hfailed
    · have h5 : 5 ≤ (state.consecutiveFailures + 1).toNat :=
        UInt64.le_iff_toNat_le.mp ‹5 ≤ state.consecutiveFailures + 1›
      have hle : (failures + 1) % 2 ^ 64 ≤ failures + 1 := Nat.mod_le _ _
      omega
    · split at hfailed
      · cases hfailed
      · exact Nat.le_succ_of_le (h.failed hfailed)

theorem attemptRecovery (h : Tracks state failures) :
    Tracks (state.attemptRecovery recoveryTimeout now) failures := by
  unfold DcHealthState.attemptRecovery
  split
  · exact ⟨h.counter, fun hfailed => by cases hfailed⟩
  · exact h

end Tracks

/-- A failure marks the datacenter failed, as long as the counter is not below five. -/
theorem status_recordFailure {failures : ℕ} (h : Tracks state failures)
    (h5 : 5 ≤ failures + 1) (hlt : failures + 1 < 2 ^ 64) :
    state.recordFailure.status = .failed := by
  have hcounter := h.counter_recordFailure
  rw [Nat.mod_eq_of_lt hlt] at hcounter
  have hle : 5 ≤ state.consecutiveFailures + 1 := by
    apply UInt64.le_iff_toNat_le.mpr
    exact hcounter ▸ h5
  simp only [DcHealthState.recordFailure, if_pos hle]

/-! ## Runs -/

/-- The record of the datacenter, if there is one, tracks the results so far. -/
def Logged (events : List DcEvent) (s : Failover) (dcId : UInt8) : Prop :=
  (s.detector.dcStates dcId = none → failuresInARow dcId events = 0) ∧
    ∀ state ∈ s.detector.dcStates dcId, Tracks state (failuresInARow dcId events)

theorem Logged.step (h : Logged events s dcId) (hstep : failoverStep s e = some s') :
    Logged (events ++ [e]) s' dcId := by
  obtain ⟨hnone, hsome⟩ := h
  cases failoverStep_cases hstep dcId with
  | added hold hnew =>
    rw [Logged, failuresInARow_of_other rfl, hnew, hnone hold]
    exact ⟨fun _ => rfl, fun state heq => by cases heq; exact Tracks.new _⟩
  | succeeded old hold hnew =>
    rw [Logged, failuresInARow_recordSuccess, hnew]
    exact ⟨fun _ => rfl, fun state heq => by cases heq; exact Tracks.recordSuccess⟩
  | failed old hold hnew =>
    rw [Logged, failuresInARow_recordFailure, hnew]
    refine ⟨fun heq => (Option.some_ne_none _ heq).elim, ?_⟩
    intro state heq
    cases heq
    exact (hsome old hold).recordFailure
  | checked hnew =>
    rw [Logged, failuresInARow_of_other rfl, hnew]
    refine ⟨fun heq => hnone (Option.map_eq_none_iff.mp heq), ?_⟩
    intro state heq
    obtain ⟨old, hold, rfl⟩ := Option.map_eq_some_iff.mp heq
    exact (hsome old hold).attemptRecovery
  | untouched _ he hnew =>
    rw [Logged, failuresInARow_of_other he, hnew]
    exact ⟨hnone, hsome⟩

theorem logged_of_run {failureThreshold : UInt64} {recoveryTimeout : ℕ} (dcId : UInt8)
    (h : run failoverStep (Failover.new failureThreshold recoveryTimeout) events = some s) :
    Logged events s dcId := by
  induction events using List.reverseRecOn generalizing s with
  | nil =>
    cases h
    exact ⟨fun _ => rfl, fun state heq => by cases heq⟩
  | append_singleton events e ih =>
    obtain ⟨t, ht, hstep⟩ := run_concat.mp h
    exact (ih ht).step hstep

theorem recoveryTimeout_step (h : failoverStep s e = some s') :
    s'.detector.recoveryTimeout = s.detector.recoveryTimeout := by
  cases e with
  | addDc dcId' =>
    cases h
    simp only [DcFailureDetector.addDc]
    split <;> rfl
  | recordSuccess dcId' =>
    obtain ⟨state, -, rfl⟩ := Option.map_eq_some_iff.mp h
    rfl
  | recordFailure dcId' =>
    obtain ⟨state, -, rfl⟩ := Option.map_eq_some_iff.mp h
    rfl
  | checkRecovery =>
    cases h
    rfl
  | wait duration =>
    cases h
    rfl

/-- The record of a failed datacenter, with the time of its last success. -/
def FailedSince (s : Failover) (dcId : UInt8) (lastSuccess : ℕ) : Prop :=
  ∃ state ∈ s.detector.dcStates dcId, state.status = .failed ∧ state.lastSuccess = lastSuccess

/-- What a failed datacenter needs to be used again: a success, or a check that comes later than
the recovery timeout after its last success. -/
theorem FailedSince.step {lastSuccess : ℕ} (h : FailedSince s dcId lastSuccess)
    (hlog : Logged events s dcId) (hstep : failoverStep s e = some s')
    (hsuccess : e ≠ .recordSuccess dcId)
    (hcheck : e = .checkRecovery → s.now ≤ lastSuccess + s.detector.recoveryTimeout)
    (hlt : failuresInARow dcId (events ++ [e]) < 2 ^ 64) : FailedSince s' dcId lastSuccess := by
  obtain ⟨state, hstate, hfailed, hlast⟩ := h
  have htracks : Tracks state (failuresInARow dcId events) := hlog.2 state hstate
  cases failoverStep_cases hstep dcId with
  | added hold hnew =>
    rw [hold] at hstate
    cases hstate
  | succeeded old hold hnew => exact (hsuccess rfl).elim
  | failed old hold hnew =>
    rw [hold] at hstate
    cases hstate
    rw [failuresInARow_recordFailure] at hlt
    have h5 : 5 ≤ failuresInARow dcId events + 1 := Nat.le_succ_of_le (htracks.failed hfailed)
    exact ⟨_, hnew, status_recordFailure htracks h5 hlt, hlast⟩
  | checked hnew =>
    have hlate : ¬ s.detector.recoveryTimeout < s.now - state.lastSuccess := by
      have htime := hcheck rfl
      omega
    refine ⟨state, ?_, hfailed, hlast⟩
    rw [hnew, hstate, Option.map_some, DcHealthState.attemptRecovery, if_neg (fun h => hlate h.2)]
    rfl
  | untouched _ _ hnew => exact ⟨state, hnew ▸ hstate, hfailed, hlast⟩

theorem now_le_of_step (h : failoverStep s e = some s') : s.now ≤ s'.now := by
  cases e with
  | addDc dcId' =>
    cases h
    exact Nat.le_refl _
  | recordSuccess dcId' =>
    obtain ⟨state, -, rfl⟩ := Option.map_eq_some_iff.mp h
    exact Nat.le_refl _
  | recordFailure dcId' =>
    obtain ⟨state, -, rfl⟩ := Option.map_eq_some_iff.mp h
    exact Nat.le_refl _
  | checkRecovery =>
    cases h
    exact Nat.le_refl _
  | wait duration =>
    cases h
    exact Nat.le_add_right _ _

theorem recoveryTimeout_of_run {start : Failover} (h : run failoverStep start events = some s) :
    s.detector.recoveryTimeout = start.detector.recoveryTimeout := by
  apply (reaches_of_run h).invariant (I := fun t =>
    t.detector.recoveryTimeout = start.detector.recoveryTimeout) rfl
  intro t e t' ht _ hstep
  rw [recoveryTimeout_step hstep, ht]

/-- An event that is no success of the datacenter does not shorten its failures. -/
theorem failuresInARow_le (he : e ≠ .recordSuccess dcId) :
    failuresInARow dcId events ≤ failuresInARow dcId (events ++ [e]) := by
  cases hresult : e.isResultOf dcId with
  | false => exact Nat.le_of_eq (failuresInARow_of_other hresult).symm
  | true =>
    rcases Bool.or_eq_true_iff.mp hresult with hs | hf
    · exact (he (eq_of_beq hs)).elim
    · rw [eq_of_beq hf, failuresInARow_recordFailure]
      exact Nat.le_succ _

theorem FailedSince.run {failureThreshold : UInt64} {recoveryTimeout lastSuccess : ℕ}
    {more : List DcEvent}
    (hrun : run failoverStep (Failover.new failureThreshold recoveryTimeout) events = some s)
    (h : FailedSince s dcId lastSuccess) (hmore : Machine.run failoverStep s more = some s')
    (hsuccess : .recordSuccess dcId ∉ more)
    (hcheck : .checkRecovery ∈ more → s'.now ≤ lastSuccess + recoveryTimeout)
    (hlt : failuresInARow dcId (events ++ more) < 2 ^ 64) : FailedSince s' dcId lastSuccess := by
  induction more using List.reverseRecOn generalizing s' with
  | nil =>
    cases hmore
    exact h
  | append_singleton more e ih =>
    obtain ⟨t, ht, hstep⟩ := run_concat.mp hmore
    have hall : Machine.run failoverStep (Failover.new failureThreshold recoveryTimeout)
        (events ++ more) = some t := by
      rw [run_append, hrun, Option.bind_some, ht]
    have hnow : t.now ≤ s'.now := now_le_of_step hstep
    have he : e ≠ .recordSuccess dcId := fun heq => hsuccess (by simp [heq])
    rw [← List.append_assoc] at hlt
    have hfailed : FailedSince t dcId lastSuccess := by
      apply ih ht
      · exact fun hmem => hsuccess (List.mem_append_left _ hmem)
      · exact fun hmem => hnow.trans (hcheck (List.mem_append_left _ hmem))
      · exact (failuresInARow_le he).trans_lt hlt
    refine hfailed.step (logged_of_run dcId hall) hstep he ?_ hlt
    intro heq
    rw [recoveryTimeout_of_run hall]
    exact hnow.trans (hcheck (by simp [heq]))

/-! ## Selection -/

theorem DcFailureDetector.selectBestDc_of_uses {detector : DcFailureDetector}
    (order : detector.KeyOrder) (h : detector.uses dcId = true) :
    detector.selectBestDc order dcId = dcId := if_pos h

theorem FailedSince.excluded {lastSuccess : ℕ} (h : FailedSince s dcId lastSuccess) :
    s.Excluded dcId := by
  obtain ⟨state, hstate, hfailed, -⟩ := h
  have hunused : s.detector.uses dcId = false := by
    rw [DcFailureDetector.uses, Option.mem_def.mp hstate, Option.any_some,
      DcHealthState.shouldUseDc, hfailed]
    rfl
  intro order preferredDc hselect
  unfold DcFailureDetector.selectBestDc at hselect
  split at hselect
  next huse => rw [hselect, hunused] at huse; cases huse
  next _ =>
    cases hhealthy : s.detector.getHealthyDcs order with
    | cons first rest =>
      rw [hhealthy, List.headD_cons] at hselect
      have hmem : first ∈ s.detector.getHealthyDcs order := hhealthy ▸ List.mem_cons_self
      have huse : s.detector.uses first = true := (List.mem_filter.mp hmem).2
      rw [hselect, hunused] at huse
      cases huse
    | nil =>
      rw [hhealthy, List.headD_nil] at hselect
      refine ⟨hselect, fun dcId' => ?_⟩
      by_contra huse
      rw [Bool.not_eq_false] at huse
      have hkey : dcId' ∈ order.keys := by
        apply (order.mem_keys dcId').mpr
        obtain ⟨state', hstate', -⟩ := (Option.any_eq_true _ _).mp huse
        exact Option.isSome_of_mem hstate'
      have hmem : dcId' ∈ s.detector.getHealthyDcs order := List.mem_filter.mpr ⟨hkey, huse⟩
      rw [hhealthy] at hmem
      cases hmem

/-- A datacenter with fewer failures in a row than the threshold is selected when it is preferred;
a failure that reaches the threshold marks it failed; and a failed datacenter is not selected
before a success of it, and not before a check later than the recovery timeout after its last
success. -/
theorem failover_honours_parameters (failureThreshold : UInt64) (recoveryTimeout : ℕ)
    (hrun : run failoverStep (Failover.new failureThreshold recoveryTimeout) events = some s)
    (hstate : s.detector.dcStates dcId = some state) :
    (failureThreshold ≤ 5 → failuresInARow dcId events < failureThreshold.toNat →
      ∀ order, s.detector.selectBestDc order dcId = dcId) ∧
    (events.getLast? = some (.recordFailure dcId) →
      max failureThreshold.toNat 5 ≤ failuresInARow dcId events →
      failuresInARow dcId events < 2 ^ 64 → state.status = .failed) ∧
    ∀ more s', state.status = .failed → run failoverStep s more = some s' →
      .recordSuccess dcId ∉ more →
      (.checkRecovery ∈ more → s'.now ≤ state.lastSuccess + recoveryTimeout) →
      failuresInARow dcId (events ++ more) < 2 ^ 64 → s'.Excluded dcId := by
  have htracks : Tracks state (failuresInARow dcId events) :=
    (logged_of_run dcId hrun).2 state hstate
  refine ⟨?_, ?_, ?_⟩
  · intro hle hlt order
    apply DcFailureDetector.selectBestDc_of_uses order
    have hused : state.status ≠ .failed := by
      intro hfailed
      have h5 := htracks.failed hfailed
      have hle5 : failureThreshold.toNat ≤ 5 := UInt64.le_iff_toNat_le.mp hle
      omega
    rw [DcFailureDetector.uses, hstate, Option.any_some, DcHealthState.shouldUseDc]
    exact bne_iff_ne.mpr hused
  · intro hlast hge hlt
    obtain ⟨before, rfl⟩ := List.getLast?_eq_some_iff.mp hlast
    obtain ⟨t, ht, hstep⟩ := run_concat.mp hrun
    rw [failuresInARow_recordFailure] at hge hlt
    cases failoverStep_cases hstep dcId with
    | failed old hold hnew =>
      rw [hstate] at hnew
      cases hnew
      have hold' : Tracks old (failuresInARow dcId before) := (logged_of_run dcId ht).2 old hold
      exact status_recordFailure hold' (le_of_max_le_right hge) hlt
    | untouched _ he _ => simp [DcEvent.isResultOf] at he
  · intro more s' hfailed hmore hsuccess hcheck hlt
    have hsince : FailedSince s dcId state.lastSuccess := ⟨state, hstate, hfailed, rfl⟩
    exact (hsince.run hrun hmore hsuccess hcheck hlt).excluded

/-- Two datacenters, and five failures of the first. -/
def fiveFailures : List DcEvent :=
  [.addDc 0, .addDc 1] ++ List.replicate 5 (.recordFailure 0)

/-- A datacenter that has failed five times in a row is excluded. -/
theorem failover_five_failures :
    ∃ s, run failoverStep (Failover.new 5 300) fiveFailures = some s ∧ s.Excluded 0 := by
  refine ⟨_, rfl, ?_⟩
  have h := @failover_honours_parameters _ fiveFailures 0 _ 5 300 rfl rfl
  exact h.2.2 [] _ (h.2.1 rfl (by decide) (by decide)) rfl (by simp) (by simp) (by decide)

/-- The one datacenter that there is gets selected after five failures; and where there is another
one, a success of a failed datacenter has it selected again at once. -/
theorem failed_datacenter_selected :
    (∃ s, run failoverStep (Failover.new 5 300) (.addDc 0 :: List.replicate 5 (.recordFailure 0)) =
        some s ∧ FailedSince s 0 0 ∧ ∃ order, s.detector.selectBestDc order 0 = 0) ∧
      ∃ s s', run failoverStep (Failover.new 5 300) fiveFailures = some s ∧ FailedSince s 0 0 ∧
        failoverStep s (.recordSuccess 0) = some s' ∧
        ∃ order, s'.detector.uses 1 = true ∧ s'.detector.selectBestDc order 0 = 0 := by
  constructor
  · refine ⟨_, rfl, ⟨_, rfl, rfl, rfl⟩, ⟨[0], by decide, fun dcId => ?_⟩, rfl⟩
    simp [Failover.new, DcFailureDetector.new, DcFailureDetector.addDc,
      DcFailureDetector.setState, Function.update_apply]
  · refine ⟨_, _, rfl, ⟨_, rfl, rfl, rfl⟩, rfl, ⟨[0, 1], by decide, fun dcId => ?_⟩, rfl, rfl⟩
    simp [Failover.new, DcFailureDetector.new, DcFailureDetector.addDc,
      DcFailureDetector.setState, Function.update_apply]
    split_ifs with h0 h1
    · simp [h0]
    · simp [h1]
    · simp [h0, h1]

end NebulaId
