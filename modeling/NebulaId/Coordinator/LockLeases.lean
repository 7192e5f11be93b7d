import NebulaId.Coordinator.EtcdLock
import NebulaId.Machine.Script

/-!
# The leases of a failed acquisition (`core/coordinator/etcd.rs`)

`acquire` by itself, request by request, against any answers. Every attempt asks for a lease; the
log of the leases numbers those that the call was given and keeps those that it gave back.

* `run_tryAcquireLock`: what an attempt leaves in the log.
* `no_lease_leaks_iff`: a call that fails has given back every lease exactly when it does not end in
  a transaction that fails.
-/

namespace NebulaId

open Machine

namespace EtcdDistributedLock

inductive LeaseCall where
  | leaseGrant (ttl : ℕ)
  | txnCheckCreateRevAndPut (path value : String) (leaseId : ℕ)
  | leaseRevoke (leaseId : ℕ)

abbrev LeaseReply : LeaseCall → Type
  | .leaseGrant _ => Except String ℕ
  | .txnCheckCreateRevAndPut _ _ _ => Except String Bool
  | .leaseRevoke _ => Except String Unit

abbrev LockScript (α : Type) := Script LeaseCall LeaseReply (Except LockError α)

def tryAcquireLock (lock : EtcdDistributedLock) (key lockValue : String) (ttl : ℕ) :
    LockScript (Option ℕ) :=
  .call (.leaseGrant ttl) fun
    | .error e => .done (.error (.etcdError e))
    | .ok leaseId => .call (.txnCheckCreateRevAndPut (lock.lockPath key) lockValue leaseId) fun
      | .error e => .done (.error (.etcdError e))
      | .ok true => .done (.ok (some leaseId))
      | .ok false => .call (.leaseRevoke leaseId) fun _ => .done (.ok none)

/-- The attempts that are left; `value` is the text that an attempt puts under the key. -/
def acquireIn (lock : EtcdDistributedLock) (key : String) (value : ℕ → String) (ttl retries : ℕ) :
    ℕ → LockScript EtcdLockGuard
  | 0 =>
    let reason := "Lock acquisition failed after " ++ toString retries ++ " retries"
    .done (.error (.acquireFailed key reason))
  | left + 1 => (lock.tryAcquireLock key (value left) ttl).attempt fun
    | some leaseId => .done (.ok ⟨lock, key, leaseId, lock.lockPath key, false, rfl⟩)
    | none => acquireIn lock key value ttl retries left

/-- `acquire`, with so many retries. -/
def acquireWith (retries : ℕ) (lock : EtcdDistributedLock) (key : String) (value : ℕ → String)
    (ttlSeconds : UInt64) : LockScript EtcdLockGuard :=
  acquireIn lock key value (leaseTtl ttlSeconds) retries retries

def acquire : EtcdDistributedLock → String → (ℕ → String) → UInt64 → LockScript EtcdLockGuard :=
  acquireWith maxRetries

/-! ## Answers and leases -/

/-- What etcd answers to a request, if it is one for a lease and if it is a transaction. -/
structure EtcdAnswer where
  granted : Except String Unit
  put : Except String Bool

/-- How many leases the call was given, and those of them that it gave back. No two have the same
number. -/
structure LeaseLog where
  granted : ℕ
  revoked : List ℕ
  deriving DecidableEq

/-- Every lease that the call was given has been revoked. -/
def LeaseLog.NoLeak (log : LeaseLog) : Prop := ∀ l < log.granted, l ∈ log.revoked

instance (log : LeaseLog) : Decidable log.NoLeak := inferInstanceAs (Decidable (∀ l < _, _))

/-- A request for a lease gives the next number; to revoke a lease succeeds. -/
def serve : (c : LeaseCall) → EtcdAnswer → LeaseLog → LeaseReply c × LeaseLog
  | .leaseGrant _, a, log => match a.granted with
    | .ok _ => (.ok log.granted, { log with granted := log.granted + 1 })
    | .error e => (.error e, log)
  | .txnCheckCreateRevAndPut _ _ _, a, log => (a.put, log)
  | .leaseRevoke leaseId, _, log => (.ok (), { log with revoked := leaseId :: log.revoked })

variable {ins : ℕ → EtcdAnswer} {lock : EtcdDistributedLock} {key lockValue : String} {ttl n : ℕ}
  {log : LeaseLog}

/-- The attempt that begins with request `n` gets a lease and loses the race. -/
def LosesRace (ins : ℕ → EtcdAnswer) (n : ℕ) : Prop :=
  (ins n).granted = .ok () ∧ (ins (n + 1)).put = .ok false

/-- The attempt that begins with request `n` gets a lease, and its transaction fails. -/
def TxnFails (ins : ℕ → EtcdAnswer) (n : ℕ) : Prop :=
  (ins n).granted = .ok () ∧ ∃ e, (ins (n + 1)).put = .error e

/-- The ways out of an attempt. -/
theorem run_tryAcquireLock (ins : ℕ → EtcdAnswer) (lock : EtcdDistributedLock)
    (key lockValue : String) (ttl n : ℕ) (log : LeaseLog) :
    let ran := (lock.tryAcquireLock key lockValue ttl).exec serve ins n log
    ((∃ e, (ins n).granted = .error e) ∧ (∃ e, ran.value = .error e) ∧ ran.memory = log) ∨
    (TxnFails ins n ∧ (∃ e, ran.value = .error e) ∧
      ran.memory = { log with granted := log.granted + 1 }) ∨
    ((ins n).granted = .ok () ∧ (ins (n + 1)).put = .ok true ∧
      ∃ leaseId, ran.value = .ok (some leaseId)) ∨
    (LosesRace ins n ∧ ran = ⟨.ok none, n + 3, ⟨log.granted + 1, log.granted :: log.revoked⟩⟩) := by
  dsimp only
  unfold tryAcquireLock TxnFails LosesRace
  rw [Script.exec_call]
  cases hgrant : (ins n).granted with
  | error e =>
    refine .inl ⟨⟨e, rfl⟩, ⟨.etcdError e, ?_⟩, ?_⟩
    · simp only [serve, hgrant, Script.exec_done]
    · simp only [serve, hgrant, Script.exec_done]
  | ok u =>
    right
    simp only [serve, hgrant, Script.exec_call]
    cases hput : (ins (n + 1)).put with
    | error e => exact .inl ⟨⟨trivial, e, rfl⟩, ⟨_, rfl⟩, rfl⟩
    | ok put =>
      right
      cases put with
      | true => exact .inl ⟨trivial, rfl, _, rfl⟩
      | false => exact .inr ⟨⟨trivial, rfl⟩, rfl⟩

/-- A lease that is given back leaves no leak behind, and one that is not does. -/
theorem LeaseLog.NoLeak.revoke (h : log.NoLeak) :
    LeaseLog.NoLeak ⟨log.granted + 1, log.granted :: log.revoked⟩ := by
  intro l hl
  rcases Nat.lt_succ_iff_lt_or_eq.mp hl with hl | rfl
  · exact List.mem_cons_of_mem _ (h l hl)
  · exact List.mem_cons_self

/-- Only leases that the call was given are in its log. -/
def LeaseLog.Given (log : LeaseLog) : Prop := ∀ l ∈ log.revoked, l < log.granted

theorem LeaseLog.Given.not_noLeak (h : log.Given) :
    ¬ LeaseLog.NoLeak { log with granted := log.granted + 1 } := by
  intro hleak
  exact absurd (h log.granted (hleak log.granted (Nat.lt_succ_self _))) (Nat.lt_irrefl _)

theorem LeaseLog.Given.revoke (h : log.Given) :
    LeaseLog.Given ⟨log.granted + 1, log.granted :: log.revoked⟩ := by
  intro l hl
  rcases List.mem_cons.mp hl with rfl | hl
  · exact Nat.lt_succ_self _
  · exact Nat.lt_succ_of_lt (h l hl)

/-! ## A whole call -/

/-- One of the attempts that are left ends in a transaction that fails; those before it lose the
race. -/
def EndsInTxn (ins : ℕ → EtcdAnswer) (n left : ℕ) : Prop :=
  ∃ k < left, (∀ j < k, LosesRace ins (n + 3 * j)) ∧ TxnFails ins (n + 3 * k)

theorem endsInTxn_succ {left : ℕ} : EndsInTxn ins n (left + 1) ↔
    TxnFails ins n ∨ (LosesRace ins n ∧ EndsInTxn ins (n + 3) left) := by
  constructor
  · rintro ⟨k, hk, hlost, hfails⟩
    cases k with
    | zero => exact .inl hfails
    | succ k =>
      refine .inr ⟨hlost 0 (Nat.succ_pos k), k, Nat.lt_of_succ_lt_succ hk, fun j hj => ?_, ?_⟩
      · have := hlost (j + 1) (Nat.succ_lt_succ hj)
        rwa [show n + 3 * (j + 1) = n + 3 + 3 * j by omega] at this
      · rwa [show n + 3 * (k + 1) = n + 3 + 3 * k by omega] at hfails
  · rintro (hfails | ⟨hfirst, k, hk, hlost, hfails⟩)
    · exact ⟨0, Nat.succ_pos left, fun j hj => absurd hj (Nat.not_lt_zero j), hfails⟩
    · refine ⟨k + 1, Nat.succ_lt_succ hk, fun j hj => ?_, ?_⟩
      · cases j with
        | zero => exact hfirst
        | succ j =>
          have := hlost j (Nat.lt_of_succ_lt_succ hj)
          rwa [show n + 3 + 3 * j = n + 3 * (j + 1) by omega] at this
      · rwa [show n + 3 + 3 * k = n + 3 * (k + 1) by omega] at hfails

theorem TxnFails.not_losesRace (h : TxnFails ins n) : ¬ LosesRace ins n := by
  obtain ⟨-, e, hput⟩ := h
  rintro ⟨-, hlost⟩
  cases hput.symm.trans hlost

/-- The induction is on the attempts that are left: an attempt that loses the race gives its lease
back and goes on, any other one ends the call. -/
theorem run_acquireIn (value : ℕ → String) (retries left : ℕ) (hleak : log.NoLeak)
    (hgiven : log.Given) :
    let ran := (acquireIn lock key value ttl retries left).exec serve ins n log
    ((∃ e, ran.value = .error e) → ran.memory.NoLeak) ↔ ¬ EndsInTxn ins n left := by
  induction left generalizing n log with
  | zero =>
    refine iff_of_true (fun _ => hleak) ?_
    rintro ⟨k, hk, -⟩
    exact absurd hk (Nat.not_lt_zero k)
  | succ left ih =>
    dsimp only at ih ⊢
    rw [acquireIn, endsInTxn_succ]
    have hvalue := run_tryAcquireLock ins lock key (value left) ttl n log
    dsimp only at hvalue
    rcases hvalue with ⟨⟨e, hgrant⟩, ⟨err, herr⟩, hmemory⟩ | ⟨hfails, ⟨err, herr⟩, hmemory⟩ |
      ⟨hgrant, hput, leaseId, hok⟩ | ⟨hlost, hran⟩
    · rw [Script.exec_attempt_error herr]
      refine iff_of_true (fun _ => ?_) ?_
      · dsimp only
        rw [hmemory]
        exact hleak
      · rintro (⟨hok, -⟩ | ⟨⟨hok, -⟩, -⟩) <;> cases hgrant.symm.trans hok
    · rw [Script.exec_attempt_error herr]
      refine iff_of_false (fun h => ?_) (not_not.mpr (.inl hfails))
      have hmem := h ⟨err, rfl⟩
      dsimp only at hmem
      rw [hmemory] at hmem
      exact hgiven.not_noLeak hmem
    · rw [Script.exec_attempt_ok hok]
      refine iff_of_true ?_ ?_
      · rintro ⟨e, he⟩
        cases he
      · rintro (⟨-, e, he⟩ | ⟨⟨-, hlost⟩, -⟩)
        · cases hput.symm.trans he
        · cases hput.symm.trans hlost
    · rw [Script.exec_attempt_ok (by rw [hran]), hran, ih hleak.revoke hgiven.revoke]
      refine not_congr ⟨fun h => .inr ⟨hlost, h⟩, ?_⟩
      rintro (hfails | ⟨-, h⟩)
      · exact absurd hlost hfails.not_losesRace
      · exact h

/-- A call that fails has given back every lease it was given, unless one of its transactions
fails: then the lease of that attempt is left behind. -/
theorem no_lease_leaks_iff (retries : ℕ) (lock : EtcdDistributedLock) (key : String)
    (value : ℕ → String) (ttlSeconds : UInt64) (ins : ℕ → EtcdAnswer) :
    let ran := (acquireWith retries lock key value ttlSeconds).exec serve ins 0 ⟨0, []⟩
    ((∃ e, ran.value = .error e) → ran.memory.NoLeak) ↔ ¬ EndsInTxn ins 0 retries := by
  refine run_acquireIn value retries retries (fun l hl => absurd hl (Nat.not_lt_zero l)) ?_
  intro l hl
  cases hl

/-- etcd gives a lease and then refuses the transaction. -/
theorem lease_left_behind :
    let ran := (acquire ⟨"/locks/"⟩ "orders" (fun _ => "holder_pid=1,ts=0") 30).exec serve
      (fun _ => ⟨.ok (), .error "unavailable"⟩) 0 ⟨0, []⟩
    (∃ e, ran.value = .error e) ∧ ran.memory = ⟨1, []⟩ ∧ ¬ ran.memory.NoLeak := by
  exact ⟨⟨_, rfl⟩, rfl, fun h => List.not_mem_nil (h 0 Nat.one_pos)⟩

end EtcdDistributedLock

end NebulaId
