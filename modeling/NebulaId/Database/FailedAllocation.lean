import NebulaId.Coordinator.Local
import NebulaId.Database.Segments

/-!
# Allocations that fail, under the in-process lock (`core/database/repository.rs`)

One call of `allocate_segment` or `allocate_segment_with_dc` with `LocalDistributedLock` as
the lock provider. After the lock is taken the call begins a transaction, looks a row up,
writes it and commits; each of these may fail, and each failure is an early return. The
guard has no `Drop`, so only the last line of the call gives the lock back.

* `failed_call_releases_iff`: a call that returns an error leaves the held keys as they were
  exactly when its key was held before or no database operation failed.
* `left_lock_blocks`: after a failure no later call for the same lock ever succeeds.
-/

namespace NebulaId

open Machine

def LockError.message : LockError → String
  | .connectionFailed value => "Failed to connect to lock service: " ++ value
  | .timeout key => "Lock acquisition timeout for key '" ++ key ++ "'"
  | .acquireFailed key reason => "Failed to acquire lock for key '" ++ key ++ "': " ++ reason
  | .releaseFailed key reason => "Failed to release lock for key '" ++ key ++ "': " ++ reason
  | .etcdError value => "etcd error: " ++ value
  | .notConfigured => "Lock not configured"
  | .serviceUnavailable => "Lock service unavailable, degraded to local mode"

namespace LocalDistributedLock

/-- The keys of the map. -/
def heldKeys (m : LocalDistributedLock) : Set String := fun key => m.isLocked key = true

/-- Both critical sections of `acquire`. -/
def acquire (m : LocalDistributedLock) (key : String) : Except LockError LocalDistributedLock :=
  if m.isLocked key then .error (.acquireFailed key "Lock already held in local mode")
  else .ok (m.acquireLock key)

/-- `acquire` is what a task does that nobody disturbs. -/
theorem reaches_acquire {m m' : LocalDistributedLock} {key : String} (h : m.acquire key = .ok m')
    (threads : ℕ → Task) (i : ℕ) : Reaches (World.step lockStep) Free
      ⟨m, Function.update threads i .idle⟩ ⟨m', Function.update threads i .idle⟩ := by
  unfold acquire at h
  split at h <;> cases h
  rename_i hfree
  have hlook : lockStep i (.acquire key) m .idle = some (m, .inserting key) := if_neg hfree
  have hinsert : lockStep i .insert m (.inserting key) = some (m.acquireLock key, .idle) := rfl
  exact (World.reaches_step trivial hlook).trans (World.reaches_step trivial hinsert)

theorem heldKeys_acquireLock (m : LocalDistributedLock) (key : String) :
    (m.acquireLock key).heldKeys = insert key m.heldKeys := by
  ext key'
  change (m.acquireLock key).isLocked key' = true ↔ key' = key ∨ m.isLocked key' = true
  rw [isLocked_acquireLock, Bool.or_eq_true, decide_eq_true_eq]

/-- Taking a free key and giving it back. -/
theorem heldKeys_release_acquireLock {m : LocalDistributedLock} {key : String}
    (hfree : ¬ m.isLocked key = true) (guard : ℕ) :
    ((m.acquireLock key).releaseGuard guard ⟨key, false⟩).heldKeys = m.heldKeys := by
  ext key'
  change ((m.acquireLock key).releaseGuard guard ⟨key, false⟩).isLocked key' = true ↔
    m.isLocked key' = true
  rw [isLocked_releaseGuard, isLocked_acquireLock]
  by_cases hk : key' = key
  · subst hk
    simp [hfree]
  · simp [hk]

end LocalDistributedLock

/-- The database operations of a call that fail, with the texts of their errors. A commit
may fail though the database has carried it out. -/
structure DbFaults where
  beginTxn : Option String
  find : Option String
  write : Option String
  commit : Option (String × Bool)
  deriving DecidableEq

def DbFaults.none : DbFaults := ⟨.none, .none, .none, .none⟩

/-- The arguments of `allocate_segment`, or of `allocate_segment_with_dc` when there is a
datacenter. -/
structure SegmentCall where
  workspaceId : String
  bizTag : String
  step : ℤ
  dcId : Option ℤ

def SegmentCall.entry (c : SegmentCall) : Entry :=
  match c.dcId with
  | some dcId => allocateSegmentWithDc c.workspaceId c.bizTag dcId
  | none => allocateSegment c.workspaceId c.bizTag

structure SeaOrmRepository where
  segments : SegmentTable
  distributedLock : LocalDistributedLock

namespace SeaOrmRepository

def heldKeys (m : SeaOrmRepository) : Set String := m.distributedLock.heldKeys

/-- From the lookup to the commit; `m` holds the lock and `guard` is its guard. -/
def transaction (e : Entry) (step : ℤ) (pick : ℕ) (f : DbFaults) (guard : ℕ)
    (m : SeaOrmRepository) : Result SegmentInfo × SeaOrmRepository :=
  match f.beginTxn with
  | some msg => (.error (.databaseError msg), m)
  | none => match f.find with
    | some msg => (.error (.databaseError msg), m)
    | none =>
      let (segment, segments) := NebulaId.commit e step m.segments (m.segments.one e.selects pick)
      match f.write with
      | some msg => (.error (.databaseError msg), m)
      | none => match f.commit with
        | some (msg, done) =>
          (.error (.databaseError msg), { m with segments := if done then segments else m.segments })
        | none =>
          let lock := m.distributedLock.releaseGuard guard ⟨e.lockKey, false⟩
          (.ok segment, ⟨segments, lock⟩)

/-- `allocate_segment` and `allocate_segment_with_dc` -/
def allocate (c : SegmentCall) (pick : ℕ) (f : DbFaults) (m : SeaOrmRepository) :
    Result SegmentInfo × SeaOrmRepository :=
  match m.distributedLock.acquire c.entry.lockKey with
  | .error e =>
    (.error (.internalError
      ("Failed to acquire distributed lock for segment allocation: " ++ e.message)), m)
  | .ok lock =>
    transaction c.entry c.step pick f m.distributedLock.guards.length
      { m with distributedLock := lock }

variable {c : SegmentCall} {pick : ℕ} {f : DbFaults} {m m' : SeaOrmRepository}

/-! ## What a call does with the locks -/

theorem allocate_of_locked (h : m.distributedLock.isLocked c.entry.lockKey = true) :
    (∃ err, (allocate c pick f m).1 = .error err) ∧ (allocate c pick f m).2 = m := by
  unfold allocate LocalDistributedLock.acquire
  rw [if_pos h]
  exact ⟨⟨_, rfl⟩, rfl⟩

theorem allocate_of_free (h : ¬ m.distributedLock.isLocked c.entry.lockKey = true) :
    allocate c pick f m = transaction c.entry c.step pick f m.distributedLock.guards.length
      ⟨m.segments, m.distributedLock.acquireLock c.entry.lockKey⟩ := by
  unfold allocate LocalDistributedLock.acquire
  rw [if_neg h]

/-- A transaction without a failure. -/
theorem transaction_none (e : Entry) (step : ℤ) (guard : ℕ) :
    (∃ segment, (transaction e step pick .none guard m).1 = .ok segment) ∧
      (transaction e step pick .none guard m).2.distributedLock =
        m.distributedLock.releaseGuard guard ⟨e.lockKey, false⟩ :=
  ⟨⟨_, rfl⟩, rfl⟩

/-- A failure leaves the transaction early, with the lock as it is. -/
theorem transaction_failed (e : Entry) (step : ℤ) (guard : ℕ) (h : f ≠ .none) :
    (∃ err, (transaction e step pick f guard m).1 = .error err) ∧
      (transaction e step pick f guard m).2.distributedLock = m.distributedLock := by
  obtain ⟨beginTxn, find, write, commit⟩ := f
  cases beginTxn with
  | some msg => exact ⟨⟨_, rfl⟩, rfl⟩
  | none => cases find with
    | some msg => exact ⟨⟨_, rfl⟩, rfl⟩
    | none => cases write with
      | some msg => exact ⟨⟨_, rfl⟩, rfl⟩
      | none => cases commit with
        | some r => exact ⟨⟨_, rfl⟩, rfl⟩
        | none => exact absurd rfl h

/-- The held keys after a call. -/
theorem heldKeys_allocate :
    (allocate c pick f m).2.heldKeys =
      if m.distributedLock.isLocked c.entry.lockKey = true ∨ f = .none then m.heldKeys
      else insert c.entry.lockKey m.heldKeys := by
  by_cases hlocked : m.distributedLock.isLocked c.entry.lockKey = true
  · rw [if_pos (Or.inl hlocked), (allocate_of_locked hlocked).2]
  · rw [allocate_of_free hlocked]
    by_cases hf : f = .none
    · subst hf
      rw [if_pos (Or.inr rfl), heldKeys, (transaction_none _ _ _).2]
      exact LocalDistributedLock.heldKeys_release_acquireLock hlocked _
    · rw [if_neg (by simp [hlocked, hf]), heldKeys, (transaction_failed _ _ _ hf).2]
      exact LocalDistributedLock.heldKeys_acquireLock _ _

/-- **Exactly when a failed call gives its lock back**: when it did not get it, or when no
database operation fails. -/
theorem failed_call_releases_iff (c : SegmentCall) (pick : ℕ) (f : DbFaults)
    (m : SeaOrmRepository) :
    (∀ err, (allocate c pick f m).1 = .error err → (allocate c pick f m).2.heldKeys = m.heldKeys) ↔
      m.distributedLock.isLocked c.entry.lockKey = true ∨ f = .none := by
  constructor
  · intro h
    by_contra hcond
    have hfree : ¬ m.distributedLock.isLocked c.entry.lockKey = true := fun hl => hcond (Or.inl hl)
    have hfault : f ≠ .none := fun hf => hcond (Or.inr hf)
    obtain ⟨err, herr⟩ : ∃ err, (allocate c pick f m).1 = .error err := by
      rw [allocate_of_free hfree]
      exact (transaction_failed _ _ _ hfault).1
    have hsame := h err herr
    rw [heldKeys_allocate, if_neg hcond] at hsame
    have hmem : c.entry.lockKey ∈ m.heldKeys := hsame ▸ Set.mem_insert _ _
    exact hfree hmem
  · intro hcond err _
    rw [heldKeys_allocate, if_pos hcond]

def fresh : SeaOrmRepository := ⟨.empty, .new⟩

def firstCall : SegmentCall := ⟨"w", "t", 100, none⟩

/-- The connection is lost when the transaction begins: the call fails, its key stays held,
and the next call for the tag is refused. -/
theorem begin_failure_keeps_lock :
    let f : DbFaults := { DbFaults.none with beginTxn := some "connection closed" }
    let (result, m) := allocate firstCall 0 f fresh
    result = .error (.databaseError "connection closed") ∧ m.heldKeys ≠ fresh.heldKeys ∧
      (allocate firstCall 0 .none m).1 = .error (.internalError
        ("Failed to acquire distributed lock for segment allocation: " ++
          "Failed to acquire lock for key 'segment:w:t': Lock already held in local mode")) := by
  refine ⟨rfl, ?_, rfl⟩
  intro hsame
  have hmem : "segment:w:t" ∈ fresh.heldKeys := by
    rw [← hsame]
    rfl
  cases hmem

/-! ## Later calls -/

/-- A call, as a step. -/
def allocateStep (m : SeaOrmRepository) (a : SegmentCall × ℕ × DbFaults) :
    Option SeaOrmRepository := some (allocate a.1 a.2.1 a.2.2 m).2

/-- A call never releases a key that was held before. -/
theorem heldKeys_mono {key : String} (h : key ∈ m.heldKeys) :
    key ∈ (allocate c pick f m).2.heldKeys := by
  rw [heldKeys_allocate]
  split
  · exact h
  · exact Set.mem_insert_of_mem _ h

/-- **After a failure** every later call for the lock fails, in any run of calls. -/
theorem left_lock_blocks {c' : SegmentCall} {pick' : ℕ} {f' : DbFaults}
    (hfree : m.distributedLock.isLocked c.entry.lockKey = false) (hf : f ≠ .none)
    (hrun : Reaches allocateStep Free (allocate c pick f m).2 m')
    (hkey : c'.entry.lockKey = c.entry.lockKey) :
    ∃ err, (allocate c' pick' f' m').1 = .error err := by
  have hleft : c.entry.lockKey ∈ (allocate c pick f m).2.heldKeys := by
    rw [heldKeys_allocate, if_neg (by simp [hfree, hf])]
    exact Set.mem_insert _ _
  have hheld : c.entry.lockKey ∈ m'.heldKeys :=
    hrun.invariant (I := fun m => c.entry.lockKey ∈ m.heldKeys) hleft fun m a m'' hm _ hs => by
      cases hs
      exact heldKeys_mono hm
  refine (allocate_of_locked ?_).1
  rw [hkey]
  exact hheld

end SeaOrmRepository

end NebulaId
