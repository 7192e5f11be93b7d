import NebulaId.Machine.Handles

/-!
# The etcd health monitor (`core/coordinator/etcd.rs`)

The health check runs in a background task on a clone of the monitor. A clone shares
the time of the last success and copies the status, the two failure counters and the cache
switch. A run is any order of recordings, health checks and clones through any handle; a
recording is one step.

* `background_failures_unseen`: the health check records five failures and the monitor that
  started it still reads healthy.
* `last_success_shared`: the time of the last success is one for all handles.
* `status_shared`: as long as nothing is recorded through one of several handles, except a
  success in a healthy state, all of them read what the recorded results make of one monitor.
-/

namespace NebulaId

open Machine

inductive EtcdClusterStatus where
  | healthy
  | degraded
  | failed
  deriving DecidableEq

def EtcdClusterStatus.asU8 : EtcdClusterStatus → UInt8
  | healthy => 0
  | degraded => 1
  | failed => 2

/-- The outcome of a health check's timed request. -/
inductive Ping where
  | ok
  | err
  | timeout

inductive CheckResult where
  | success (now : ℕ)
  | failure

/-- What a handle has for itself. `injected` says that a client was given. -/
structure EtcdClusterHealthMonitor where
  endpoints : List String
  injected : Bool
  status : UInt8
  failureCount : UInt64
  consecutiveFailures : UInt64
  isUsingCache : Bool

namespace EtcdClusterHealthMonitor

def new (endpoints : List String) : EtcdClusterHealthMonitor :=
  ⟨endpoints, false, EtcdClusterStatus.healthy.asU8, 0, 0, false⟩

def newWithClient (endpoints : List String) : EtcdClusterHealthMonitor :=
  ⟨endpoints, true, EtcdClusterStatus.healthy.asU8, 0, 0, false⟩

def getStatus (m : EtcdClusterHealthMonitor) : EtcdClusterStatus :=
  if m.status = 0 then .healthy else if m.status = 1 then .degraded else .failed

def setStatus (m : EtcdClusterHealthMonitor) (status : EtcdClusterStatus) :
    EtcdClusterHealthMonitor := { m with status := status.asU8 }

/-- Without the time of the success, which goes to the shared part (`touch`). -/
def recordSuccess (m : EtcdClusterHealthMonitor) : EtcdClusterHealthMonitor :=
  let m := { m with consecutiveFailures := 0 }
  if m.getStatus ≠ .healthy then
    let m := m.setStatus .healthy
    if m.isUsingCache then { m with isUsingCache := false } else m
  else m

def recordFailure (m : EtcdClusterHealthMonitor) : EtcdClusterHealthMonitor :=
  let consecutive := m.consecutiveFailures + 1
  let m := { m with failureCount := m.failureCount + 1, consecutiveFailures := consecutive }
  if 5 ≤ consecutive then { m.setStatus .failed with isUsingCache := true }
  else if 3 ≤ consecutive then m.setStatus .degraded
  else m

def record : CheckResult → EtcdClusterHealthMonitor → EtcdClusterHealthMonitor
  | .success _, m => m.recordSuccess
  | .failure, m => m.recordFailure

/-- The shared time of the last success. -/
def touch : CheckResult → ℕ → ℕ
  | .success now, _ => now
  | .failure, lastSuccess => lastSuccess

/-- What a health check records; nothing when it has neither a client nor an endpoint. -/
def checkEtcdHealth (m : EtcdClusterHealthMonitor) (ping : Ping) (now : ℕ) :
    Option CheckResult :=
  if m.injected then
    match ping with
    | .ok => some (.success now)
    | .err => some .failure
    | .timeout => some .failure
  else if m.endpoints.isEmpty then none
  else
    match ping with
    | .ok => some (.success now)
    | .err => some .failure
    | .timeout => some .failure

abbrev Handles := Family ℕ EtcdClusterHealthMonitor CheckResult

inductive Act where
  | recordSuccess (i now : ℕ)
  | recordFailure (i : ℕ)
  | healthCheck (i : ℕ) (ping : Ping) (now : ℕ)
  | clone (i : ℕ)
  | startHealthCheck (i : ℕ)
  | startCachePersistence (i : ℕ)
  | drop (i : ℕ)

/-- Both background tasks work on a clone. -/
def handleAct (w : Handles) : Act → Option (HandleAct CheckResult)
  | .recordSuccess i now => some (.record i (.success now))
  | .recordFailure i => some (.record i .failure)
  | .healthCheck i ping now =>
    (w.copies[i]?.bind fun m => m.checkEtcdHealth ping now).map (.record i)
  | .clone i => some (.clone i)
  | .startHealthCheck i => some (.clone i)
  | .startCachePersistence i => some (.clone i)
  | .drop i => some (.drop i)

def step (w : Handles) (act : Act) : Option Handles :=
  match handleAct w act with
  | none => some w
  | some a => Family.step touch record w a

def start (m : EtcdClusterHealthMonitor) (now : ℕ) : Handles := ⟨now, [m], []⟩

/-- A result that a monitor does not notice: a success when it is healthy already. -/
def Unnoticed (m : EtcdClusterHealthMonitor) : CheckResult → Prop
  | .success _ => m.getStatus = .healthy ∧ m.consecutiveFailures = 0
  | .failure => False

/-- The step records through the only handle, or records what is not noticed. -/
def Harmless (w : Handles) (act : Act) : Prop :=
  ∀ i r m, handleAct w act = some (.record i r) → w.copies[i]? = some m →
    w.copies.length = 1 ∨ Unnoticed m r

def reads (m : EtcdClusterHealthMonitor) : EtcdClusterStatus × UInt64 × UInt64 :=
  (m.getStatus, m.failureCount, m.consecutiveFailures)

/-- Every handle reads what one monitor would read that has recorded all the results. -/
def Shared (first : EtcdClusterHealthMonitor) (w : Handles) : Prop :=
  ∀ m ∈ w.copies, m.reads = (w.results.foldr record first).reads

/-- The failures since the last success. -/
def failuresInARow : List CheckResult → ℕ
  | .failure :: results => failuresInARow results + 1
  | _ => 0

variable {m first : EtcdClusterHealthMonitor} {w w' : Handles} {r : CheckResult} {now : ℕ}

theorem recordSuccess_of_healthy (h : m.getStatus = .healthy) :
    m.recordSuccess = { m with consecutiveFailures := 0 } :=
  if_neg (not_not_intro h)

theorem getStatus_recordSuccess : m.recordSuccess.getStatus = .healthy := by
  by_cases h : m.getStatus = .healthy
  · rw [recordSuccess_of_healthy h]
    exact h
  · have hne : ({ m with consecutiveFailures := 0 } : EtcdClusterHealthMonitor).getStatus ≠
        .healthy := h
    simp only [recordSuccess, if_pos hne]
    split <;> rfl

theorem consecutiveFailures_recordSuccess : m.recordSuccess.consecutiveFailures = 0 := by
  unfold recordSuccess
  dsimp only
  split
  · split <;> rfl
  · rfl

theorem failureCount_recordFailure : m.recordFailure.failureCount = m.failureCount + 1 := by
  unfold recordFailure
  dsimp only
  split
  · rfl
  · split <;> rfl

theorem consecutiveFailures_recordFailure :
    m.recordFailure.consecutiveFailures = m.consecutiveFailures + 1 := by
  unfold recordFailure
  dsimp only
  split
  · rfl
  · split <;> rfl

/-- A failure moves a monitor on or leaves its status. -/
theorem getStatus_recordFailure : m.recordFailure.getStatus =
    if 5 ≤ m.consecutiveFailures + 1 then .failed
    else if 3 ≤ m.consecutiveFailures + 1 then .degraded
    else m.getStatus := by
  unfold recordFailure
  dsimp only
  split
  · rfl
  · split <;> rfl

theorem unnoticed_of_reads (h : (record r m).reads = m.reads) : Unnoticed m r := by
  cases r with
  | success now =>
    constructor
    · exact (congrArg Prod.fst h).symm.trans getStatus_recordSuccess
    · exact (congrArg (·.2.2) h).symm.trans consecutiveFailures_recordSuccess
  | failure =>
    have hcount : m.failureCount + 1 = m.failureCount :=
      failureCount_recordFailure.symm.trans (congrArg (·.2.1) h)
    simp at hcount

theorem record_of_unnoticed (h : Unnoticed m r) : record r m = m := by
  cases r with
  | success now =>
    calc m.recordSuccess = { m with consecutiveFailures := 0 } := recordSuccess_of_healthy h.1
      _ = m := by rw [← h.2]
  | failure => exact h.elim

theorem harmless_family {act : Act} {a : HandleAct CheckResult} (h : Harmless w act)
    (ha : handleAct w act = some a) : Family.Harmless record w a := by
  cases a with
  | record i r => exact fun m hm => (h i r m ha hm).imp_right record_of_unnoticed
  | clone i => trivial
  | drop i => trivial

/-- Between its clones and recordings a run does nothing to the handles. -/
theorem reaches_family {s : Handles} {C : Handles → Act → Prop}
    {D : Handles → HandleAct CheckResult → Prop}
    (hCD : ∀ w act a, C w act → handleAct w act = some a → D w a) (h : Reaches step C s w) :
    Reaches (Family.step touch record) D s w := by
  refine h.invariant (Reaches.refl s) fun w act w' hi hC hs => ?_
  unfold step at hs
  split at hs
  · cases hs
    exact hi
  · rename_i a ha
    exact hi.trans (Reaches.single (hCD w act a hC ha) hs)

theorem inStep_start : Family.InStep record first (start first now) := by
  intro m hm
  exact List.mem_singleton.mp hm

theorem inStep_of_reaches (h : Reaches step Harmless (start first now) w) :
    Family.InStep record first w :=
  Family.inStep_of_reaches inStep_start
    (reaches_family (fun _ _ _ hC ha => harmless_family hC ha) h)

theorem shared_of_inStep (h : Family.InStep record first w) : Shared first w :=
  fun m hm => congrArg reads (h m hm)

theorem shared_step_iff {act : Act} (h : Family.InStep record first w)
    (hs : step w act = some w') : Shared first w' ↔ Harmless w act := by
  unfold step at hs
  split at hs
  · rename_i hnone
    cases hs
    refine ⟨fun _ i r m ha => ?_, fun _ => shared_of_inStep h⟩
    rw [hnone] at ha
    cases ha
  · rename_i a ha
    constructor
    · intro hshared i r m ha' hm
      cases Option.some.inj (ha.symm.trans ha')
      obtain ⟨m', hm', rfl⟩ := Option.map_eq_some_iff.mp hs
      cases hm.symm.trans hm'
      exact (Family.view_eq_of_inStep reads h hm hshared).imp_right unnoticed_of_reads
    · exact fun hC => shared_of_inStep (h.step (harmless_family hC ha) hs)

/-! ### What the failures in a row say about the status -/

theorem consecutiveFailures_replay (h0 : first.consecutiveFailures = 0)
    (results : List CheckResult) :
    (results.foldr record first).consecutiveFailures = UInt64.ofNat (failuresInARow results) := by
  induction results with
  | nil => exact h0
  | cons r results ih =>
    cases r with
    | success now => exact consecutiveFailures_recordSuccess
    | failure =>
      rw [List.foldr_cons, record, consecutiveFailures_recordFailure, ih, failuresInARow,
        UInt64.ofNat_add]
      rfl

theorem unhealthy_replay (h0 : first.consecutiveFailures = 0) (results : List CheckResult)
    (h : 3 ≤ failuresInARow results) : (results.foldr record first).getStatus ≠ .healthy := by
  induction results with
  | nil => cases h
  | cons r results ih =>
    cases r with
    | success now => cases h
    | failure =>
      rw [List.foldr_cons, record, getStatus_recordFailure]
      rcases Nat.lt_or_ge (failuresInARow results) 3 with hlt | hge
      · have htwo : failuresInARow results = 2 := by
          rw [failuresInARow] at h
          omega
        rw [consecutiveFailures_replay h0, htwo, if_neg (by decide), if_pos (by decide)]
        decide
      · split
        · decide
        · split
          · decide
          · exact ih hge

/-! ### Runs -/

theorem last_success_shared (h : Reaches step Free (start first now) w) :
    w.shared = w.results.foldr touch now :=
  Family.shared_eq_replay rfl rfl
    (reaches_family (D := Free) (fun _ _ _ _ _ => trivial) h)

/-- **All handles read one status** while nothing that would be noticed is recorded through one of
several handles; and the first step that does so ends it. -/
theorem status_shared (endpoints : List String)
    (hfirst : first = new endpoints ∨ first = newWithClient endpoints)
    (h : Reaches step Harmless (start first now) w) :
    (Shared first w ∧
      (3 ≤ failuresInARow w.results → ∀ m ∈ w.copies, m.getStatus ≠ .healthy)) ∧
    ∀ act w', step w act = some w' → (Shared first w' ↔ Harmless w act) := by
  have hin : Family.InStep record first w := inStep_of_reaches h
  have h0 : first.consecutiveFailures = 0 := by
    rcases hfirst with rfl | rfl <;> rfl
  refine ⟨⟨shared_of_inStep hin, fun hthree m hm => ?_⟩, fun act w' hs => shared_step_iff hin hs⟩
  rw [hin m hm]
  exact unhealthy_replay h0 w.results hthree

/-- Failures and a recovery before the health check starts, and healthy pings after it. -/
theorem status_shared_quiet : ∃ w, Reaches step Harmless (start (newWithClient []) 0) w ∧
    w.copies.map reads = [(.healthy, 3, 0), (.healthy, 3, 0)] ∧
    Shared (newWithClient []) w := by
  have hrun : Reaches step Harmless (start (newWithClient []) 0) _ :=
    Reaches.cons (a := .recordFailure 0) (fun _ _ _ _ _ => Or.inl rfl) rfl <|
    Reaches.cons (a := .recordFailure 0) (fun _ _ _ _ _ => Or.inl rfl) rfl <|
    Reaches.cons (a := .recordFailure 0) (fun _ _ _ _ _ => Or.inl rfl) rfl <|
    Reaches.cons (a := .recordSuccess 0 5) (fun _ _ _ _ _ => Or.inl rfl) rfl <|
    Reaches.cons (a := .startHealthCheck 0) (fun _ _ _ ha => by cases ha) rfl <|
    Reaches.single (a := .healthCheck 1 .ok 9)
      (fun _ _ _ ha hm => by cases ha; cases hm; exact Or.inr ⟨rfl, rfl⟩) rfl
  exact ⟨_, hrun, rfl, (status_shared [] (Or.inr rfl) hrun).1.1⟩

/-- The background health check fails five times on its clone. -/
theorem background_failures_unseen : ∃ w,
    Reaches step Free (start (newWithClient []) 0) w ∧
    w.results = [.failure, .failure, .failure, .failure, .failure] ∧
    w.copies.map reads = [(.healthy, 0, 0), (.failed, 5, 5)] ∧
    ¬ Shared (newWithClient []) w := by
  have hrun : Reaches step Free (start (newWithClient []) 0) _ :=
    Reaches.cons (a := .startHealthCheck 0) trivial rfl <|
    Reaches.cons (a := .healthCheck 1 .timeout 1) trivial rfl <|
    Reaches.cons (a := .healthCheck 1 .err 2) trivial rfl <|
    Reaches.cons (a := .healthCheck 1 .err 3) trivial rfl <|
    Reaches.cons (a := .healthCheck 1 .err 4) trivial rfl <|
    Reaches.single (a := .healthCheck 1 .timeout 5) trivial rfl
  refine ⟨_, hrun, rfl, rfl, fun hshared => ?_⟩
  have hzero := congrArg (·.2.1) (hshared (newWithClient []) (by simp [start, newWithClient]))
  exact absurd hzero (by decide)

end EtcdClusterHealthMonitor

end NebulaId
