import NebulaId.Coordinator.Worker
import NebulaId.Coordinator.Local

/-!
# Locks with leases in etcd (`core/coordinator/etcd.rs`)

`acquire` asks for a lease, puts the key of the lock with it unless the key is there, and
gives the lease back when it is; it tries three times. The guard keeps the lease, and
`release` or the task that `Drop` spawns revokes it. `lockStep` takes one call through one
etcd request, or lets time pass, or lets a lease run out. An etcd request may fail before
or after it took effect. A guard may be released and dropped any number of times.

* `lockStep_move`: what every step does with the leases and with the keys.
* `LeasesApart`: no lease is in two guards, in a guard and a call, or in two calls.
* `etcd_lock_exclusive`: at most one guard holds a key, and only the end of its own lease
  takes the key from it.
-/

namespace NebulaId

open Machine EtcdWorkerAllocator

structure EtcdDistributedLock where
  lockPathPrefix : String

namespace EtcdDistributedLock

def lockPath (lock : EtcdDistributedLock) (key : String) : String := lock.lockPathPrefix ++ key

def maxRetries : ℕ := 3

/-- `ttl_seconds.max(1) as i64`; etcd takes a lease of no length for a negative one. -/
def leaseTtl (ttlSeconds : UInt64) : ℕ := (max ttlSeconds 1).toInt64.toNatClampNeg

end EtcdDistributedLock

structure EtcdLockGuard where
  lock : EtcdDistributedLock
  key : String
  leaseId : ℕ
  lockPath : String
  released : Bool
  lockPath_eq : lockPath = lock.lockPath key

namespace EtcdDistributedLock

/-- The cluster, the guards handed out and the replies of the calls: the number of the
guard for `acquire`, `none` for `release`. -/
structure LockService where
  etcd : LeaseStore String
  guards : List EtcdLockGuard
  replies : List (Except LockError (Option ℕ))

/-- The arguments of `acquire` and the number of the attempt. -/
structure Attempt where
  lock : EtcdDistributedLock
  key : String
  ttlSeconds : UInt64
  attempt : ℕ

def Attempt.path (a : Attempt) : String := a.lock.lockPath a.key

/-- The guard that `acquire` makes. -/
def Attempt.guard (a : Attempt) (leaseId : ℕ) : EtcdLockGuard :=
  ⟨a.lock, a.key, leaseId, a.path, false, rfl⟩

/-- The next operation of a call, or of the task that `Drop` spawned. -/
inductive LockCall where
  | idle
  | granting (a : Attempt)
  | putting (a : Attempt) (leaseId : ℕ)
  | undoing (a : Attempt) (leaseId : ℕ)
  | releasing (guard : ℕ)
  | storing (guard : ℕ)
  | dropping (guard : ℕ)

inductive LockOp where
  | acquire (lock : EtcdDistributedLock) (key : String) (ttlSeconds : UInt64)
  | release (guard : ℕ)
  | drop (guard : ℕ) (runtime : Bool)
  | proceed (reply : EtcdReply)
  | tick
  | expire (lease : ℕ)

namespace LockService

def answer (m : LockService) (reply : Except LockError (Option ℕ)) : LockService :=
  { m with replies := reply :: m.replies }

def setEtcd (m : LockService) (etcd : LeaseStore String) : LockService := { m with etcd := etcd }

def addGuard (m : LockService) (g : EtcdLockGuard) : LockService :=
  { m with guards := m.guards ++ [g] }

/-- `released.store(true)` of a guard. -/
def markReleased (m : LockService) (guard : ℕ) : LockService :=
  { m with guards := m.guards.modify guard fun g => { g with released := true } }

/-- `lease_revoke`, when its reply is not looked at. -/
def afterRevoke (m : LockService) (reply : EtcdReply) (leaseId : ℕ) : LockService :=
  match reply with
  | .ok | .lost _ => m.setEtcd ((m.etcd.revoke leaseId).getD m.etcd)
  | .failed _ => m

end LockService

/-- The loop of `acquire` goes on with the next attempt. -/
def nextAttempt (m : LockService) (a : Attempt) : LockService × LockCall :=
  if a.attempt < maxRetries - 1 then (m, .granting { a with attempt := a.attempt + 1 })
  else
    let reason := "Lock acquisition failed after " ++ toString maxRetries ++ " retries"
    (m.answer (.error (.acquireFailed a.key reason)), .idle)

/-- The next operation of a call that has begun. -/
def proceed (reply : EtcdReply) (m : LockService) : LockCall → Option (LockService × LockCall)
  | .idle => none
  | .granting a =>
    let granted := m.setEtcd (m.etcd.grant (leaseTtl a.ttlSeconds))
    match reply with
    | .ok => some (granted, .putting a m.etcd.nextLease)
    | .failed e => some (m.answer (.error (.etcdError e)), .idle)
    | .lost e => some (granted.answer (.error (.etcdError e)), .idle)
  | .putting a leaseId =>
    match reply, m.etcd.putIfAbsent a.path leaseId with
    | .ok, some (true, etcd) =>
      some (((m.setEtcd etcd).addGuard (a.guard leaseId)).answer (.ok (some m.guards.length)),
        .idle)
    | .ok, some (false, etcd) => some (m.setEtcd etcd, .undoing a leaseId)
    -- etcd refuses a lease that has run out
    | .ok, none => none
    | .lost e, some (_, etcd) => some ((m.setEtcd etcd).answer (.error (.etcdError e)), .idle)
    | .lost e, none | .failed e, _ => some (m.answer (.error (.etcdError e)), .idle)
  | .undoing a leaseId => some (nextAttempt (m.afterRevoke reply leaseId) a)
  | .releasing guard => (m.guards[guard]?).bind fun g =>
    match reply, m.etcd.revoke g.leaseId with
    | .ok, some etcd => some (m.setEtcd etcd, .storing guard)
    | .ok, none => none
    | .failed e, _ => some (m.answer (.error (.releaseFailed g.key e)), .idle)
    | .lost e, _ =>
      some ((m.afterRevoke reply g.leaseId).answer (.error (.releaseFailed g.key e)), .idle)
  | .storing guard => some ((m.markReleased guard).answer (.ok none), .idle)
  | .dropping guard => (m.guards[guard]?).map fun g => (m.afterRevoke reply g.leaseId, .idle)

/-- One step of one call, or of the cluster. -/
def lockStep (_ : ℕ) (op : LockOp) (m : LockService) (p : LockCall) :
    Option (LockService × LockCall) :=
  match op with
  | .tick => some (m.setEtcd m.etcd.tick, p)
  | .expire lease => if m.etcd.due lease then some (m.setEtcd (m.etcd.expire lease), p) else none
  | .acquire lock key ttlSeconds => match p with
    | .idle => some (m, .granting ⟨lock, key, ttlSeconds, 0⟩)
    | _ => none
  | .release guard => match p with
    | .idle => (m.guards[guard]?).map fun _ => (m, .releasing guard)
    | _ => none
  | .drop guard runtime => match p with
    | .idle => (m.guards[guard]?).map fun g =>
      (m, if g.released then .idle else if runtime then .dropping guard else .idle)
    | _ => none
  | .proceed reply => proceed reply m p

def start : World LockService LockCall := ⟨⟨.empty, [], []⟩, fun _ => .idle⟩

/-- The lease of guard number `guard` is live, and the key at `path` is attached to it. -/
def Holds (m : LockService) (guard : ℕ) (path : String) : Prop :=
  ∃ g, m.guards[guard]? = some g ∧ g.lockPath = path ∧
    m.etcd.entries path = some g.leaseId ∧ (m.etcd.deadline g.leaseId).isSome

/-- The lease of guard number `guard` runs out, or a call or a task made for this guard
revokes it. -/
def EndsLease (w : World LockService LockCall) (act : ℕ × LockOp) (guard : ℕ) : Prop :=
  (∃ g, w.shared.guards[guard]? = some g ∧ act.2 = .expire g.leaseId) ∨
    ∃ reply, act.2 = .proceed reply ∧
      (w.threads act.1 = .releasing guard ∨ w.threads act.1 = .dropping guard)

/-! ## Leases -/

/-- The leases of the guards. -/
def guardLeases (m : LockService) : List ℕ := m.guards.map EtcdLockGuard.leaseId

/-- The lease that an `acquire` has not yet made a guard of. -/
def callLease : LockCall → Option ℕ
  | .putting _ leaseId | .undoing _ leaseId => some leaseId
  | _ => none

structure GuardsApart (m : LockService) : Prop where
  granted : ∀ l ∈ guardLeases m, l ≤ m.etcd.granted
  distinct : (guardLeases m).Nodup

def CallApart (m : LockService) (_ : ℕ) (p : LockCall) : Prop :=
  ∀ l, callLease p = some l → l ≤ m.etcd.granted ∧ l ∉ guardLeases m

/-- No lease is in two guards, in a guard and a call, or in two calls. -/
def LeasesApart : World LockService LockCall → Prop :=
  World.Inv GuardsApart CallApart fun p q => ∀ l, callLease p = some l → callLease q ≠ some l

/-- What a step does with the leases of the guards and of the call. -/
inductive LeaseMove (m : LockService) (p : LockCall) (m' : LockService) (p' : LockCall) : Prop where
  | keep (hguards : guardLeases m' = guardLeases m) (hgranted : m'.etcd.granted = m.etcd.granted)
      (hcall : ∀ l, callLease p' = some l → callLease p = some l)
  | grant (hguards : guardLeases m' = guardLeases m)
      (hgranted : m'.etcd.granted = m.etcd.granted + 1)
      (hcall : ∀ l, callLease p' = some l → l = m.etcd.granted + 1)
  | take (l : ℕ) (hold : callLease p = some l) (hguards : guardLeases m' = guardLeases m ++ [l])
      (hgranted : m'.etcd.granted = m.etcd.granted) (hcall : callLease p' = none)

/-! ## What a step does -/

/-- The call is about to revoke this lease. -/
def Revokes (m : LockService) (l : ℕ) : LockCall → Prop
  | .undoing _ leaseId => leaseId = l
  | .releasing guard | .dropping guard => ∃ g, m.guards[guard]? = some g ∧ g.leaseId = l
  | _ => False

/-- Every guard keeps its lease and its path, and the keys of lease `l` stay. -/
structure Keeps (m m' : LockService) (l : ℕ) : Prop where
  guard : ∀ (j : ℕ) (g : EtcdLockGuard), m.guards[j]? = some g →
    ∃ g' : EtcdLockGuard, m'.guards[j]? = some g' ∧ g'.leaseId = g.leaseId ∧
      g'.lockPath = g.lockPath
  key : ∀ k, m.etcd.entries k = some l → m'.etcd.entries k = some l

/-- The step lets this lease run out or revokes it. -/
def Ends (m : LockService) (p : LockCall) (op : LockOp) (l : ℕ) : Prop :=
  op = .expire l ∨ ∃ reply, op = .proceed reply ∧ Revokes m l p

/-- One step of a call: the leases move, and the keys of a lease survive every step but its
own end. -/
structure LockMove (m : LockService) (p : LockCall) (op : LockOp) (m' : LockService)
    (p' : LockCall) : Prop where
  leases : LeaseMove m p m' p'
  keeps : ∀ l, ¬ Ends m p op l → Keeps m m' l

variable {m m' : LockService} {p p' : LockCall} {i l : ℕ} {op : LockOp} {reply : EtcdReply}

theorem Keeps.of_guards (hguards : m'.guards = m.guards)
    (hkey : ∀ k, m.etcd.entries k = some l → m'.etcd.entries k = some l) : Keeps m m' l :=
  ⟨fun _ g hg => ⟨g, by rw [hguards]; exact hg, rfl, rfl⟩, hkey⟩

/-- A step that leaves the guards, the keys and the number of leases alone. -/
theorem LockMove.same (hguards : m'.guards = m.guards)
    (hentries : m'.etcd.entries = m.etcd.entries) (hgranted : m'.etcd.granted = m.etcd.granted)
    (hcall : ∀ l, callLease p' = some l → callLease p = some l) : LockMove m p op m' p' where
  leases := .keep (congrArg (List.map EtcdLockGuard.leaseId) hguards) hgranted hcall
  keeps l _ := .of_guards hguards fun k hk => by rw [hentries]; exact hk

@[simp] theorem afterRevoke_guards (leaseId : ℕ) :
    (m.afterRevoke reply leaseId).guards = m.guards := by
  cases reply <;> rfl

/-- `lease_revoke` ends the lease, or does nothing. -/
theorem afterRevoke_etcd (m : LockService) (reply : EtcdReply) (leaseId : ℕ) :
    (m.afterRevoke reply leaseId).etcd = m.etcd ∨
      (m.afterRevoke reply leaseId).etcd = m.etcd.expire leaseId := by
  have hrevoke : (m.etcd.revoke leaseId).getD m.etcd = m.etcd ∨
      (m.etcd.revoke leaseId).getD m.etcd = m.etcd.expire leaseId := by
    cases hr : m.etcd.revoke leaseId with
    | none => exact Or.inl rfl
    | some etcd => exact Or.inr (LeaseStore.revoke_eq_some hr)
  cases reply with
  | failed e => exact Or.inl rfl
  | ok => exact hrevoke
  | lost e => exact hrevoke

/-- A step that revokes a lease, or tries to. -/
theorem LockMove.revoke {leaseId : ℕ} (hrevokes : Revokes m leaseId p)
    (hguards : m'.guards = m.guards) (hetcd : m'.etcd = (m.afterRevoke reply leaseId).etcd)
    (hcall : callLease p' = none) : LockMove m p (.proceed reply) m' p' := by
  have hkept : ∀ l, callLease p' = some l → callLease p = some l := by
    intro l hl
    rw [hcall] at hl
    cases hl
  rcases afterRevoke_etcd m reply leaseId with hsame | hexpired
  · rw [hsame] at hetcd
    exact .same hguards (congrArg _ hetcd) (congrArg _ hetcd) hkept
  · rw [hexpired] at hetcd
    have hgranted : m'.etcd.granted = m.etcd.granted := by
      rw [hetcd]
      rfl
    refine ⟨.keep (congrArg (List.map EtcdLockGuard.leaseId) hguards) hgranted hkept, ?_⟩
    intro l hl
    refine .of_guards hguards fun k hk => ?_
    have hne : l ≠ leaseId := by
      rintro rfl
      exact hl (Or.inr ⟨reply, rfl, hrevokes⟩)
    rw [hetcd]
    exact LeaseStore.expire_entries hk hne

/-- The new guard stands behind the others. -/
theorem keeps_addGuard {g : EtcdLockGuard} {etcd : LeaseStore String}
    {answer : Except LockError (Option ℕ)}
    (hkey : ∀ k, m.etcd.entries k = some l → etcd.entries k = some l) :
    Keeps m (((m.setEtcd etcd).addGuard g).answer answer) l := by
  refine ⟨fun j g₁ hg₁ => ⟨g₁, ?_, rfl, rfl⟩, hkey⟩
  obtain ⟨hlt, -⟩ := List.getElem?_eq_some_iff.mp hg₁
  exact (List.getElem?_append_left hlt).trans hg₁

theorem guardLeases_markReleased (guard : ℕ) :
    guardLeases (m.markReleased guard) = guardLeases m := by
  unfold guardLeases LockService.markReleased
  apply List.ext_getElem?
  intro j
  rw [List.getElem?_map, List.getElem?_map, List.getElem?_modify]
  cases m.guards[j]? with
  | none => rfl
  | some g => by_cases hj : guard = j <;> simp [hj]

theorem keeps_markReleased (guard : ℕ) : Keeps m (m.markReleased guard) l := by
  refine ⟨fun j g hg => ?_, fun _ hk => hk⟩
  unfold LockService.markReleased
  simp only [List.getElem?_modify, hg]
  by_cases hj : guard = j
  · exact ⟨{ g with released := true }, by simp [hj], rfl, rfl⟩
  · exact ⟨g, by simp [hj], rfl, rfl⟩

/-- The loop of `acquire` changes nothing but the call and the replies. -/
theorem nextAttempt_same (a : Attempt) :
    (nextAttempt m a).1.guards = m.guards ∧ (nextAttempt m a).1.etcd = m.etcd ∧
      callLease (nextAttempt m a).2 = none := by
  unfold nextAttempt
  split
  · exact ⟨rfl, rfl, rfl⟩
  · exact ⟨rfl, rfl, rfl⟩

/-- **One request.** -/
theorem proceed_move (hs : proceed reply m p = some (m', p')) :
    LockMove m p (.proceed reply) m' p' := by
  cases p with
  | idle => cases hs
  | granting a =>
    cases reply with
    | ok =>
      cases hs
      refine ⟨.grant rfl rfl ?_, fun _ _ => .of_guards rfl fun _ hk => hk⟩
      intro l hl
      exact (Option.some.inj hl).symm
    | failed e =>
      cases hs
      exact .same rfl rfl rfl (by simp [callLease])
    | lost e =>
      cases hs
      exact ⟨.grant rfl rfl (by simp [callLease]), fun _ _ => .of_guards rfl fun _ hk => hk⟩
  | putting a leaseId =>
    unfold proceed at hs
    dsimp only at hs
    split at hs
    · rename_i hput
      cases hs
      refine ⟨.take leaseId rfl ?_ (LeaseStore.putIfAbsent_granted hput) rfl,
        fun _ _ => keeps_addGuard fun _ hk => (LeaseStore.putIfAbsent_entries hput hk).1⟩
      simp [guardLeases, LockService.addGuard, LockService.answer, LockService.setEtcd,
        Attempt.guard]
    · rename_i hput
      cases hs
      exact ⟨.keep rfl (LeaseStore.putIfAbsent_granted hput) fun _ hl => hl,
        fun _ _ => .of_guards rfl fun _ hk => (LeaseStore.putIfAbsent_entries hput hk).1⟩
    · cases hs
    · rename_i hput
      cases hs
      exact ⟨.keep rfl (LeaseStore.putIfAbsent_granted hput) (by simp [callLease]),
        fun _ _ => .of_guards rfl fun _ hk => (LeaseStore.putIfAbsent_entries hput hk).1⟩
    · cases hs
      exact .same rfl rfl rfl (by simp [callLease])
    · cases hs
      exact .same rfl rfl rfl (by simp [callLease])
  | undoing a leaseId =>
    obtain ⟨hguards, hetcd, hcall⟩ := nextAttempt_same (m := m.afterRevoke reply leaseId) a
    rw [Option.some.inj hs] at hguards hetcd hcall
    exact .revoke rfl (hguards.trans (afterRevoke_guards leaseId)) hetcd hcall
  | releasing guard =>
    obtain ⟨g, hg, hs⟩ := Option.bind_eq_some_iff.mp hs
    cases reply with
    | ok =>
      cases hrevoke : m.etcd.revoke g.leaseId with
      | none => simp [hrevoke] at hs
      | some etcd =>
        rw [hrevoke] at hs
        cases hs
        refine .revoke ⟨g, hg, rfl⟩ rfl ?_ rfl
        simp [LockService.afterRevoke, LockService.setEtcd, hrevoke]
    | failed e =>
      cases hs
      exact .same rfl rfl rfl (by simp [callLease])
    | lost e =>
      cases hs
      exact .revoke ⟨g, hg, rfl⟩ rfl rfl rfl
  | storing guard =>
    cases hs
    exact ⟨.keep (guardLeases_markReleased guard) rfl (by simp [callLease]),
      fun l _ => ⟨(keeps_markReleased (l := l) guard).guard, fun _ hk => hk⟩⟩
  | dropping guard =>
    obtain ⟨g, hg, hs⟩ := Option.map_eq_some_iff.mp hs
    cases hs
    exact .revoke ⟨g, hg, rfl⟩ (afterRevoke_guards g.leaseId) rfl rfl

/-- **Every step** of the lock service. -/
theorem lockStep_move (hs : lockStep i op m p = some (m', p')) : LockMove m p op m' p' := by
  cases op with
  | proceed reply => exact proceed_move hs
  | tick =>
    cases hs
    exact .same rfl rfl rfl fun _ hl => hl
  | expire lease =>
    unfold lockStep at hs
    dsimp only at hs
    split at hs
    · cases hs
      refine ⟨.keep rfl rfl fun _ hl => hl, fun l hl => .of_guards rfl fun k hk => ?_⟩
      refine LeaseStore.expire_entries hk ?_
      rintro rfl
      exact hl (Or.inl rfl)
    · cases hs
  | acquire lock key ttlSeconds =>
    cases p <;> cases hs
    exact .same rfl rfl rfl (by simp [callLease])
  | release guard =>
    cases p with
    | idle =>
      obtain ⟨g, -, hs⟩ := Option.map_eq_some_iff.mp hs
      cases hs
      exact .same rfl rfl rfl (by simp [callLease])
    | _ => cases hs
  | drop guard runtime =>
    cases p with
    | idle =>
      obtain ⟨g, -, hs⟩ := Option.map_eq_some_iff.mp hs
      cases hs
      refine .same rfl rfl rfl ?_
      split
      · simp [callLease]
      · split <;> simp [callLease]
    | _ => cases hs

/-! ## Runs -/

variable {w w' : World LockService LockCall} {act : ℕ × LockOp}

theorem leasesApart_start : LeasesApart start where
  memory := ⟨by simp [guardLeases, start], by simp [guardLeases, start]⟩
  thread _ _ hl := by cases hl
  pair _ _ _ _ hl := by cases hl

/-- **One step.** -/
theorem leasesApart_step (h : LeasesApart w) (hstep : World.step lockStep w act = some w') :
    LeasesApart w' := by
  obtain ⟨i, op⟩ := act
  obtain ⟨m, p, hs, rfl⟩ := World.step_eq_some.mp hstep
  have hsymm : ∀ p q : LockCall, (∀ l, callLease p = some l → callLease q ≠ some l) →
      ∀ l, callLease q = some l → callLease p ≠ some l := fun p q hpq l hq hp => hpq l hp hq
  cases (lockStep_move hs).leases with
  | keep hguards hgranted hcall =>
    apply World.Inv.update h hsymm
    · exact ⟨by rw [hguards, hgranted]; exact h.memory.granted,
        by rw [hguards]; exact h.memory.distinct⟩
    · intro l hl
      rw [hguards, hgranted]
      exact h.thread i l (hcall l hl)
    · intro j _ hj l hl
      rw [hguards, hgranted]
      exact hj l hl
    · intro j _ hij l hl
      exact hij l (hcall l hl)
  | grant hguards hgranted hcall =>
    have hnew : w.shared.etcd.granted + 1 ∉ guardLeases w.shared := by
      intro hmem
      have := h.memory.granted _ hmem
      omega
    apply World.Inv.update h hsymm
    · refine ⟨?_, by rw [hguards]; exact h.memory.distinct⟩
      intro l hl
      rw [hguards] at hl
      have := h.memory.granted l hl
      omega
    · intro l hl
      have hnext := hcall l hl
      subst hnext
      rw [hguards, hgranted]
      exact ⟨Nat.le_refl _, hnew⟩
    · intro j _ hj l hl
      obtain ⟨hle, hmem⟩ := hj l hl
      rw [hguards]
      exact ⟨by omega, hmem⟩
    · intro j _ _ l hl hl'
      have hle := (h.thread j l hl').1
      have := hcall l hl
      omega
  | take l hold hguards hgranted hcall =>
    obtain ⟨hle, hfresh⟩ := h.thread i l hold
    apply World.Inv.update h hsymm
    · constructor
      · intro l' hl'
        rw [hguards, List.mem_append, List.mem_singleton] at hl'
        rw [hgranted]
        rcases hl' with hl' | rfl
        · exact h.memory.granted l' hl'
        · exact hle
      · rw [hguards]
        simp [List.nodup_append, h.memory.distinct]
        exact fun l' hl' heq => hfresh (heq ▸ hl')
    · intro l' hl'
      rw [hcall] at hl'
      cases hl'
    · intro j hj hcallj l' hl'
      obtain ⟨hle', hmem⟩ := hcallj l' hl'
      rw [hguards, hgranted, List.mem_append, List.mem_singleton]
      refine ⟨hle', ?_⟩
      rintro (hmem' | rfl)
      · exact hmem hmem'
      · exact h.pair i j (Ne.symm hj) l' hold hl'
    · intro j _ _ l' hl'
      rw [hcall] at hl'
      cases hl'

theorem reaches_leasesApart (h : Reaches (World.step lockStep) Free start w) : LeasesApart w :=
  h.invariant leasesApart_start fun _ _ _ hi _ hs => leasesApart_step hi hs

/-- Two guards with one lease are one guard. -/
theorem GuardsApart.guard_eq (h : GuardsApart m) {i j : ℕ} {g g' : EtcdLockGuard}
    (hi : m.guards[i]? = some g) (hj : m.guards[j]? = some g') (hl : g.leaseId = g'.leaseId) :
    i = j := by
  have hlt : i < (guardLeases m).length := by
    obtain ⟨hlt, -⟩ := List.getElem?_eq_some_iff.mp hi
    simpa [guardLeases] using hlt
  refine (List.getElem?_inj hlt h.distinct).mp ?_
  simp [guardLeases, hi, hj, hl]

/-- A guard whose lease keeps its keys holds on. -/
theorem Keeps.holds {g : EtcdLockGuard} {j : ℕ} {path : String} (h : Keeps m m' g.leaseId)
    (hg : m.guards[j]? = some g) (hh : Holds m j path) : Holds m' j path := by
  obtain ⟨g₁, hg₁, hpath, hkey, -⟩ := hh
  rw [hg] at hg₁
  cases hg₁
  obtain ⟨g', hg', hlease, hpath'⟩ := h.guard j g hg
  have hkey' : m'.etcd.entries path = some g'.leaseId := by
    rw [hlease]
    exact h.key path hkey
  exact ⟨g', hg', hpath'.trans hpath, hkey', m'.etcd.attached path _ hkey'⟩

/-- A step that ends the lease of a guard is a step of that guard's own end. -/
theorem LeasesApart.endsLease {j : ℕ} {g : EtcdLockGuard} (h : LeasesApart w)
    (hg : w.shared.guards[j]? = some g) (hend : Ends w.shared (w.threads i) op g.leaseId) :
    EndsLease w (i, op) j := by
  rcases hend with rfl | ⟨reply, rfl, hrevokes⟩
  · exact Or.inl ⟨g, hg, rfl⟩
  · refine Or.inr ⟨reply, rfl, ?_⟩
    cases hp : w.threads i with
    | undoing a leaseId =>
      rw [hp] at hrevokes
      have hmem : g.leaseId ∈ guardLeases w.shared :=
        List.mem_map_of_mem (List.mem_of_getElem? hg)
      have hfresh := (h.thread i leaseId (by rw [hp]; rfl)).2
      exact absurd (hrevokes ▸ hmem) hfresh
    | releasing guard =>
      rw [hp] at hrevokes
      obtain ⟨g', hg', hlease⟩ := hrevokes
      exact Or.inl (congrArg _ (h.memory.guard_eq hg' hg hlease))
    | dropping guard =>
      rw [hp] at hrevokes
      obtain ⟨g', hg', hlease⟩ := hrevokes
      exact Or.inr (congrArg _ (h.memory.guard_eq hg' hg hlease))
    | _ =>
      rw [hp] at hrevokes
      exact hrevokes.elim

/-- The steps of a guard's own end aside, a step leaves the guard its key. -/
theorem LeasesApart.holds_step {j : ℕ} {path : String} (h : LeasesApart w)
    (hstep : World.step lockStep w act = some w') (hh : Holds w.shared j path)
    (hend : ¬ EndsLease w act j) : Holds w'.shared j path := by
  obtain ⟨i, op⟩ := act
  obtain ⟨m, p, hs, rfl⟩ := World.step_eq_some.mp hstep
  obtain ⟨g, hg, -⟩ := id hh
  exact ((lockStep_move hs).keeps g.leaseId fun he => hend (h.endsLease hg he)).holds hg hh

/-- **Mutual exclusion.** In every reachable state at most one guard holds a key, and a step
takes the key from a guard only by the end of this guard's own lease. -/
theorem etcd_lock_exclusive (h : Reaches (World.step lockStep) Free start w) :
    (∀ (i j : ℕ) (path : String), Holds w.shared i path → Holds w.shared j path → i = j) ∧
    ∀ (act : ℕ × LockOp) (w' : World LockService LockCall) (j : ℕ) (path : String),
      World.step lockStep w act = some w' → Holds w.shared j path → ¬ EndsLease w act j →
        Holds w'.shared j path := by
  have hinv := reaches_leasesApart h
  constructor
  · rintro i j path ⟨g, hi, -, hkey, -⟩ ⟨g', hj, -, hkey', -⟩
    rw [hkey] at hkey'
    exact hinv.memory.guard_eq hi hj (Option.some.inj hkey')
  · intro act w' j path hstep hh hend
    exact hinv.holds_step hstep hh hend

/-- Client 0 keeps its guard past the end of the lease and client 1 takes the lock; then the
late `release` of client 0 fails and leaves client 1 the only holder. -/
theorem late_release_exclusive : ∃ w, Reaches (World.step lockStep) Free start w ∧
    w.shared.replies = [.error (.releaseFailed "k" "lease not found"), .ok (some 1), .ok (some 0)] ∧
      Holds w.shared 1 "locks/k" ∧ ∀ i, Holds w.shared i "locks/k" → i = 1 := by
  let acquireOps (i : ℕ) : List (ℕ × LockOp) :=
    [(i, .acquire ⟨"locks/"⟩ "k" 1), (i, .proceed .ok), (i, .proceed .ok)]
  have hrun : ((run (World.step lockStep) start
      [acquireOps 0, [(0, .tick), (0, .expire 1)], acquireOps 1,
        [(0, .release 0), (0, .proceed (.failed "lease not found"))]].flatten).map fun w =>
      (w.shared.replies, w.shared.guards.map fun g => (g.lockPath, g.leaseId),
        w.shared.etcd.entries "locks/k", (w.shared.etcd.deadline 2).isSome)) =
      some ([.error (.releaseFailed "k" "lease not found"), .ok (some 1), .ok (some 0)],
        [("locks/k", 1), ("locks/k", 2)], some 2, true) := by
    decide +kernel
  obtain ⟨w, hw, hstate⟩ := Option.map_eq_some_iff.mp hrun
  simp only [Prod.mk.injEq] at hstate
  obtain ⟨hreplies, hguards, hkey, hlive⟩ := hstate
  have hreach := reaches_of_run hw
  have hg : (w.shared.guards[1]?).map (fun g => (g.lockPath, g.leaseId)) = some ("locks/k", 2) := by
    rw [← List.getElem?_map, hguards]
    rfl
  obtain ⟨g, hg, hdata⟩ := Option.map_eq_some_iff.mp hg
  obtain ⟨hpath, hlease⟩ := Prod.mk.inj hdata
  have hholds : Holds w.shared 1 "locks/k" := by
    refine ⟨g, hg, hpath, ?_, ?_⟩
    · rw [hkey, hlease]
    · rw [hlease, hlive]
  exact ⟨w, hreach, hreplies, hholds, fun i hi => (etcd_lock_exclusive hreach).1 i 1 _ hi hholds⟩

end EtcdDistributedLock

end NebulaId
