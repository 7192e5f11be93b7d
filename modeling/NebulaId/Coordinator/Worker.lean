import NebulaId.Machine.Threads
import NebulaId.Store.LeaseStore

/-!
# Worker ids from etcd (`core/coordinator/etcd.rs`)

The allocators of one datacenter share an etcd cluster. `workerStep` takes one call on one
allocator through one etcd request or one atomic store, or lets time pass, or lets a lease
run out. An etcd request may fail before or after it took effect. The cluster state also
keeps to which allocator each lease was granted, and the replies of the calls.

* `lease_expires_under_holder`: nothing renews a lease, so after 30 seconds a second
  allocator gets the id that the first one still holds.
* `orderly_worker_ids_exclusive`: in a run whose steps are `Orderly` no two allocators hold
  the same worker id.
-/

namespace NebulaId

open Machine

inductive WorkerAllocatorError where
  | connectionFailed (value : String)
  | noAvailableId
  | leaseRenewalFailed (value : String)
  | cancelled
  | etcdError (value : String)
  | notConfigured
  deriving DecidableEq

structure EtcdWorkerAllocator where
  allocatedId : UInt16
  leaseId : ℕ

namespace EtcdWorkerAllocator

def maxWorkerId : UInt16 := 255

def workerPathPrefix : String := "/idgen/workers"

def workerPath (datacenterId : UInt8) (workerId : UInt16) : String :=
  workerPathPrefix ++ "/" ++ toString datacenterId.toNat ++ "/" ++ toString workerId.toNat

def getAllocatedId (a : EtcdWorkerAllocator) : Option UInt16 :=
  if a.allocatedId = 0 then none else some a.allocatedId

structure Cluster where
  etcd : LeaseStore String
  allocators : ℕ → EtcdWorkerAllocator
  owner : ℕ → ℕ
  replies : List (Except WorkerAllocatorError (Option UInt16))

namespace Cluster

def answer (m : Cluster) (reply : Except WorkerAllocatorError (Option UInt16)) : Cluster :=
  { m with replies := reply :: m.replies }

def setAllocatedId (m : Cluster) (a : ℕ) (id : UInt16) : Cluster :=
  { m with allocators :=
      Function.update m.allocators a { m.allocators a with allocatedId := id } }

def setLeaseId (m : Cluster) (a : ℕ) (lease : ℕ) : Cluster :=
  { m with allocators :=
      Function.update m.allocators a { m.allocators a with leaseId := lease } }

/-- The lease that `lease_grant` gives to allocator `a`. -/
def grant (m : Cluster) (a : ℕ) (ttl : ℕ) : Cluster :=
  { m with
    etcd := m.etcd.grant ttl
    owner := Function.update m.owner m.etcd.nextLease a }

end Cluster

/-- The next operation of a call on allocator `a`. -/
inductive WorkerCall where
  | idle
  | granting (a : ℕ)
  | storeLease (a lease : ℕ)
  | getting (a lease : ℕ) (workerId : UInt16)
  | putting (a lease : ℕ) (workerId : UInt16)
  | storing (a : ℕ) (workerId : UInt16)
  | deleting (a : ℕ) (workerId : UInt16)
  | clearId (a : ℕ) (workerId : UInt16)
  | clearLease (a : ℕ)

/-- What becomes of an etcd request: done, failed without effect, or done with the reply
lost. -/
inductive EtcdReply where
  | ok
  | failed (e : String)
  | lost (e : String)

inductive WorkerOp where
  | allocate (a : ℕ)
  | release (a : ℕ) (workerId : UInt16)
  | proceed (reply : EtcdReply)
  | tick
  | expire (lease : ℕ)

/-- The loop of `do_allocate` goes on with the next id. -/
def nextId (m : Cluster) (a lease : ℕ) (workerId : UInt16) : Cluster × WorkerCall :=
  if workerId < maxWorkerId then (m, .getting a lease (workerId + 1))
  else (m.answer (.error .noAvailableId), .idle)

/-- The next operation of a call that has begun. -/
def proceed (dc : UInt8) (reply : EtcdReply) (m : Cluster) :
    WorkerCall → Option (Cluster × WorkerCall)
  | .idle => none
  | .granting a => match reply with
    | .ok => some (m.grant a 30, .storeLease a m.etcd.nextLease)
    | .failed e => some (m.answer (.error (.leaseRenewalFailed e)), .idle)
    | .lost e => some ((m.grant a 30).answer (.error (.leaseRenewalFailed e)), .idle)
  | .storeLease a lease => some (m.setLeaseId a lease, .getting a lease 1)
  | .getting a lease workerId => match reply with
    | .ok =>
      if (m.etcd.entries (workerPath dc workerId)).isSome then some (nextId m a lease workerId)
      else some (m, .putting a lease workerId)
    | .failed _ | .lost _ => some (nextId m a lease workerId)
  | .putting a lease workerId =>
    match reply, m.etcd.putIfAbsent (workerPath dc workerId) lease with
    | .ok, some (true, etcd) => some ({ m with etcd := etcd }, .storing a workerId)
    | .lost _, some (_, etcd) => some (nextId { m with etcd := etcd } a lease workerId)
    | _, _ => some (nextId m a lease workerId)
  | .storing a workerId =>
    some ((m.setAllocatedId a workerId).answer (.ok (some workerId)), .idle)
  | .deleting a workerId => match reply with
    | .ok =>
      some ({ m with etcd := m.etcd.delete (workerPath dc workerId) }, .clearId a workerId)
    | .failed e => some (m.answer (.error (.etcdError e)), .idle)
    | .lost e =>
      some ({ m with etcd := m.etcd.delete (workerPath dc workerId) }.answer
        (.error (.etcdError e)), .idle)
  | .clearId a _ => some (m.setAllocatedId a 0, .clearLease a)
  | .clearLease a => some ((m.setLeaseId a 0).answer (.ok none), .idle)

/-- One step of one call, or of the cluster. -/
def workerStep (dc : UInt8) (_ : ℕ) (op : WorkerOp) (m : Cluster) (p : WorkerCall) :
    Option (Cluster × WorkerCall) :=
  match op with
  | .tick => some ({ m with etcd := m.etcd.tick }, p)
  | .expire lease =>
    if m.etcd.due lease then some ({ m with etcd := m.etcd.expire lease }, p) else none
  | .allocate a => match p with
    | .idle => some (m, .granting a)
    | _ => none
  | .release a workerId => match p with
    | .idle => some (m, .deleting a workerId)
    | _ => none
  | .proceed reply => proceed dc reply m p

/-- A new cluster, with allocators that hold nothing. -/
def start : World Cluster WorkerCall :=
  ⟨⟨.empty, fun _ => ⟨0, 0⟩, fun _ => 0, []⟩, fun _ => .idle⟩

/-- Allocator `a` holds the id. -/
def Holds (m : Cluster) (a : ℕ) (workerId : UInt16) : Prop :=
  (m.allocators a).getAllocatedId = some workerId

instance (m : Cluster) (a : ℕ) (workerId : UInt16) : Decidable (Holds m a workerId) :=
  inferInstanceAs (Decidable (_ = _))

/-- A whole `allocate` of allocator `a` on thread `a`, when the first id is free. -/
def allocateOps (a : ℕ) : List (ℕ × WorkerOp) :=
  (a, .allocate a) :: List.replicate 5 (a, .proceed .ok)

/-- The lease runs out after 30 seconds, and its holder goes on. -/
theorem lease_expires_under_holder : ∃ w, Reaches (World.step (workerStep 0)) Free start w ∧
    Holds w.shared 0 1 ∧ Holds w.shared 1 1 := by
  have hrun : ((run (World.step (workerStep 0)) start
      (allocateOps 0 ++ List.replicate 30 (0, .tick) ++ [(0, .expire 1)] ++ allocateOps 1)).map
        fun w => decide (Holds w.shared 0 1 ∧ Holds w.shared 1 1)) = some true := by
    decide +kernel
  obtain ⟨w, hw, hholds⟩ := Option.map_eq_some_iff.mp hrun
  exact ⟨w, reaches_of_run hw, of_decide_eq_true hholds⟩

/-! ## Orderly runs -/

/-- What a step must meet for the ids to stay exclusive. -/
def Orderly (dc : UInt8) (w : World Cluster WorkerCall) (act : ℕ × WorkerOp) : Prop :=
  match act.2, w.threads act.1 with
  -- a lease runs out only when no id that is held or about to be held is attached to it
  | .expire lease, _ => ∀ a id, w.shared.etcd.entries (workerPath dc id) = some lease →
      ¬ Holds w.shared a id ∧ ∀ j, w.threads j ≠ .storing a id
  -- only an allocator that goes on to clear the id deletes the key of an id that is held
  | .proceed .ok, .deleting a id => ∀ b, (b ≠ a → ¬ Holds w.shared b id) ∧
      ∀ j, w.threads j ≠ .storing b id
  | .proceed (.lost _), .deleting _ id => ∀ b, ¬ Holds w.shared b id ∧
      ∀ j, w.threads j ≠ .storing b id
  -- nobody takes an id between its deletion and the store that gives it up
  | .proceed .ok, .putting a _ id => ∀ b, b ≠ a → Holds w.shared b id →
      ∀ j, w.threads j ≠ .clearId b id
  | _, _ => True

theorem toString_nat_injective {m n : ℕ} (h : toString m = toString n) : m = n := by
  have hdigits : Nat.toDigits 10 m = Nat.toDigits 10 n := by
    rw [← Nat.toList_repr, ← Nat.toList_repr]
    exact congrArg String.toList h
  rw [← Nat.ofDigitChars_ten_toDigits (n := m), hdigits, Nat.ofDigitChars_ten_toDigits]

/-- Different ids have different keys. -/
theorem workerPath_injective {dc : UInt8} {id id' : UInt16}
    (h : workerPath dc id = workerPath dc id') : id = id' := by
  unfold workerPath at h
  exact UInt16.toNat_inj.mp (toString_nat_injective ((String.append_right_inj _).mp h))

/-- The key of the id is attached to a lease of the allocator. -/
abbrev Owned (dc : UInt8) (m : Cluster) (a : ℕ) (id : UInt16) : Prop :=
  LeaseStore.OwnedBy m.owner m.etcd (workerPath dc id) a

/-- The call works with this lease of this allocator. -/
def WorksWith (a lease : ℕ) : WorkerCall → Prop
  | .storeLease b l | .getting b l _ | .putting b l _ => b = a ∧ l = lease
  | _ => False

/-- The invariant of orderly runs. -/
structure WorkerInv (dc : UInt8) (w : World Cluster WorkerCall) : Prop where
  /-- an id that is held has its key, or its holder is about to give it up -/
  backed : ∀ a id, Holds w.shared a id →
    Owned dc w.shared a id ∨ ∃ j, w.threads j = .clearId a id
  /-- an id about to be held has its key -/
  storing : ∀ j a id, w.threads j = .storing a id → Owned dc w.shared a id
  /-- a call works with a lease of its own allocator -/
  leased : ∀ j a lease, WorksWith a lease (w.threads j) →
    w.shared.owner lease = a ∧ lease ≤ w.shared.etcd.granted
  exclusive : ∀ a b id, Holds w.shared a id → Holds w.shared b id → a = b
  /-- nobody is about to hold an id that another allocator holds -/
  apart : ∀ a j b id, Holds w.shared a id → w.threads j = .storing b id → a = b

variable {dc : UInt8} {w w' : World Cluster WorkerCall}

theorem workerInv_start : WorkerInv dc start where
  backed _ _ h := by cases h
  storing _ _ _ h := by cases h
  leased _ _ _ h := h.elim
  exclusive _ _ _ h := by cases h
  apart _ _ _ _ h := by cases h

/-- A step after which nobody holds or is about to hold an id that it did not before. -/
theorem WorkerInv.frame (h : WorkerInv dc w)
    (hholds : ∀ a id, Holds w'.shared a id → Holds w.shared a id)
    (hstoring : ∀ j a id, w'.threads j = .storing a id →
      w.threads j = .storing a id ∧ (Owned dc w.shared a id → Owned dc w'.shared a id))
    (hbacked : ∀ a id, Holds w'.shared a id →
      (Owned dc w.shared a id ∨ ∃ j, w.threads j = .clearId a id) →
      Owned dc w'.shared a id ∨ ∃ j, w'.threads j = .clearId a id)
    (hleased : ∀ j a lease, WorksWith a lease (w'.threads j) →
      w'.shared.owner lease = a ∧ lease ≤ w'.shared.etcd.granted) : WorkerInv dc w' where
  backed a id hh := hbacked a id hh (h.backed a id (hholds a id hh))
  storing j a id hs := (hstoring j a id hs).2 (h.storing j a id (hstoring j a id hs).1)
  leased := hleased
  exclusive a b id ha hb := h.exclusive a b id (hholds a id ha) (hholds b id hb)
  apart a j b id ha hs := h.apart a j b id (hholds a id ha) (hstoring j b id hs).1

/-! ## What holds after each kind of step -/

section Moved

variable {i : ℕ} {m : Cluster} {p : WorkerCall}

/-- The leases that the calls work with, when a step keeps the owners of the leases. -/
theorem WorkerInv.leased_moved (h : WorkerInv dc w)
    (howner : ∀ lease, lease ≤ w.shared.etcd.granted → m.owner lease = w.shared.owner lease)
    (hgranted : w.shared.etcd.granted ≤ m.etcd.granted)
    (hleased : ∀ a lease, WorksWith a lease p → m.owner lease = a ∧ lease ≤ m.etcd.granted)
    (j : ℕ) : ∀ a lease,
      WorksWith a lease ((World.mk m (Function.update w.threads i p)).threads j) →
        m.owner lease = a ∧ lease ≤ m.etcd.granted := by
  refine World.threads_forall (P := fun q => ∀ a lease, WorksWith a lease q →
    m.owner lease = a ∧ lease ≤ m.etcd.granted) hleased ?_ j
  intro j a lease hw
  obtain ⟨ho, hle⟩ := h.leased j a lease hw
  exact ⟨(howner lease hle).trans ho, Nat.le_trans hle hgranted⟩

/-- A step of a call that does not give up the id leaves it backed as long as its key is kept. -/
theorem backed_moved {a : ℕ} {id : UInt16} (hclear : w.threads i ≠ .clearId a id)
    (hown : Owned dc w.shared a id → Owned dc m a id)
    (h : Owned dc w.shared a id ∨ ∃ j, w.threads j = .clearId a id) :
    Owned dc m a id ∨
      ∃ j, (World.mk m (Function.update w.threads i p)).threads j = .clearId a id := by
  rcases h with ho | ⟨j, hj⟩
  · exact Or.inl (hown ho)
  · have hne : w.threads j ≠ w.threads i := fun he => hclear (he.symm.trans hj)
    exact Or.inr ⟨j, (World.threads_kept hne).trans hj⟩

/-- A step of a call that changes neither the ids nor the keys' owners, and is not about to
hold an id afterwards. -/
theorem WorkerInv.quiet (h : WorkerInv dc w) (hp : ∀ a id, p ≠ .storing a id)
    (hclear : ∀ a id, Holds m a id → w.threads i ≠ .clearId a id)
    (hholds : ∀ a id, Holds m a id → Holds w.shared a id)
    (hown : ∀ a id, Owned dc w.shared a id → Owned dc m a id)
    (howner : ∀ lease, lease ≤ w.shared.etcd.granted → m.owner lease = w.shared.owner lease)
    (hgranted : w.shared.etcd.granted ≤ m.etcd.granted)
    (hleased : ∀ a lease, WorksWith a lease p → m.owner lease = a ∧ lease ≤ m.etcd.granted) :
    WorkerInv dc ⟨m, Function.update w.threads i p⟩ := by
  refine h.frame hholds ?_ ?_ ?_
  · intro j a id hs
    rcases World.threads_moved hs with ⟨-, hpq⟩ | ⟨-, hs⟩
    · exact absurd hpq (hp a id)
    · exact ⟨hs, hown a id⟩
  · intro a id hh hback
    exact backed_moved (hclear a id hh) (hown a id) hback
  · exact h.leased_moved howner hgranted hleased

/-- A call begins: it works with no lease yet, and the cluster stays as it is. -/
theorem WorkerInv.begins (h : WorkerInv dc w) (hidle : w.threads i = .idle)
    (hp : ∀ a id, p ≠ .storing a id) (hworks : ∀ a lease, ¬ WorksWith a lease p) :
    WorkerInv dc ⟨w.shared, Function.update w.threads i p⟩ := by
  refine h.quiet hp (fun a id _ => ?_) (fun _ _ hh => hh) (fun _ _ ho => ho) (fun _ _ => rfl)
    (Nat.le_refl _) fun a lease hw => absurd hw (hworks a lease)
  rw [hidle]
  exact nofun

/-- A call ends, and the cluster keeps its keys and the owners of the leases. -/
theorem WorkerInv.done (h : WorkerInv dc w) (hclear : ∀ a id, w.threads i ≠ .clearId a id)
    (hholds : ∀ a id, Holds m a id → Holds w.shared a id) (hetcd : m.etcd = w.shared.etcd)
    (howner : m.owner = w.shared.owner) :
    WorkerInv dc ⟨m, Function.update w.threads i .idle⟩ := by
  refine h.quiet (by simp) (fun a id _ => hclear a id) hholds ?_ (fun _ _ => by rw [howner]) ?_
    (fun _ _ hw => hw.elim)
  · intro a id ho
    unfold Owned
    rwa [hetcd, howner]
  · exact Nat.le_of_eq (by rw [hetcd])

/-- The loop goes on: nothing is held, and no key changes its owner. -/
theorem WorkerInv.next {a lease : ℕ} {etcd : LeaseStore String} {id : UInt16}
    (h : WorkerInv dc w) (hworks : WorksWith a lease (w.threads i))
    (hown : ∀ b id', Owned dc w.shared b id' →
      LeaseStore.OwnedBy w.shared.owner etcd (workerPath dc id') b)
    (hgranted : etcd.granted = w.shared.etcd.granted)
    (hs : nextId { w.shared with etcd := etcd } a lease id = (m, p)) :
    WorkerInv dc ⟨m, Function.update w.threads i p⟩ := by
  have hclear : ∀ b id', w.threads i ≠ .clearId b id' := by
    intro b id' hc
    rw [hc] at hworks
    exact hworks
  unfold nextId at hs
  split at hs <;> cases hs
  · refine h.quiet (by simp) (fun b id' _ => hclear b id') (fun _ _ hh => hh) hown
      (fun _ _ => rfl) (Nat.le_of_eq hgranted.symm) ?_
    rintro b l ⟨rfl, rfl⟩
    obtain ⟨ho, hle⟩ := h.leased i _ _ hworks
    exact ⟨ho, Nat.le_trans hle (Nat.le_of_eq hgranted.symm)⟩
  · exact h.quiet (by simp) (fun b id' _ => hclear b id') (fun _ _ hh => hh) hown
      (fun _ _ => rfl) (Nat.le_of_eq hgranted.symm) (fun _ _ hw => hw.elim)

/-- A successful put: the allocator owns the key before it holds the id. -/
theorem WorkerInv.put {a lease : ℕ} {id : UInt16} {etcd : LeaseStore String}
    (h : WorkerInv dc w) (hp : w.threads i = .putting a lease id)
    (hput : w.shared.etcd.putIfAbsent (workerPath dc id) lease = some (true, etcd))
    (hord : ∀ b, b ≠ a → Holds w.shared b id → ∀ j, w.threads j ≠ .clearId b id) :
    WorkerInv dc ⟨{ w.shared with etcd := etcd },
      Function.update w.threads i (.storing a id)⟩ := by
  obtain ⟨habsent, -, hgranted⟩ := LeaseStore.putIfAbsent_true hput
  have howner : w.shared.owner lease = a :=
    (h.leased i a lease (by rw [hp]; exact ⟨rfl, rfl⟩)).1
  constructor
  · intro b id' hh
    refine backed_moved ?_ (fun ho => ho.put hput) (h.backed b id' hh)
    rw [hp]
    exact nofun
  · intro j b id' hs
    rcases World.threads_moved hs with ⟨-, hq⟩ | ⟨-, hs⟩
    · cases hq
      exact LeaseStore.ownedBy_put hput howner
    · exact (h.storing j b id' hs).put hput
  · exact h.leased_moved (fun _ _ => rfl) (Nat.le_of_eq hgranted.symm) fun _ _ hw => hw.elim
  · exact h.exclusive
  · intro b j c id' hh hs
    rcases World.threads_moved hs with ⟨-, hq⟩ | ⟨-, hs⟩
    · cases hq
      by_contra hne
      rcases h.backed b id hh with ho | ⟨j', hj'⟩
      · exact ho.ne_none habsent
      · exact hord b hne hh j' hj'
    · exact h.apart b j c id' hh hs

theorem holds_setAllocatedId {m : Cluster} {a b : ℕ} {id id' : UInt16}
    (h : Holds (m.setAllocatedId a id) b id') : (b = a ∧ id' = id) ∨ (b ≠ a ∧ Holds m b id') := by
  by_cases hb : b = a
  · subst hb
    refine Or.inl ⟨rfl, ?_⟩
    unfold Holds Cluster.setAllocatedId getAllocatedId at h
    simp only [Function.update_self] at h
    split at h
    · cases h
    · cases h
      rfl
  · refine Or.inr ⟨hb, ?_⟩
    unfold Holds Cluster.setAllocatedId at h
    dsimp only at h
    rwa [Function.update_of_ne hb] at h

theorem holds_setLeaseId {m : Cluster} {a b lease : ℕ} {id : UInt16}
    (h : Holds (m.setLeaseId a lease) b id) : Holds m b id := by
  unfold Holds getAllocatedId Cluster.setLeaseId at *
  dsimp only at h
  by_cases hb : b = a
  · subst hb
    simpa only [Function.update_self] using h
  · simpa only [Function.update_of_ne hb] using h

/-- The store that makes the allocator hold the id. -/
theorem WorkerInv.store {a : ℕ} {id : UInt16} (h : WorkerInv dc w)
    (hp : w.threads i = .storing a id) :
    WorkerInv dc ⟨(w.shared.setAllocatedId a id).answer (.ok (some id)),
      Function.update w.threads i .idle⟩ := by
  have hown := h.storing i a id hp
  constructor
  · intro b id' hh
    rcases holds_setAllocatedId hh with ⟨rfl, rfl⟩ | ⟨-, hh⟩
    · exact Or.inl hown
    · refine backed_moved ?_ (fun ho => ho) (h.backed b id' hh)
      rw [hp]
      exact nofun
  · intro j b id' hs
    rcases World.threads_moved hs with ⟨-, hq⟩ | ⟨-, hs⟩
    · cases hq
    · exact h.storing j b id' hs
  · exact h.leased_moved (fun _ _ => rfl) (Nat.le_refl _) fun _ _ hw => hw.elim
  · intro b c id' hb hc
    rcases holds_setAllocatedId hb with ⟨rfl, rfl⟩ | ⟨hne, hb'⟩
    · rcases holds_setAllocatedId hc with ⟨rfl, -⟩ | ⟨hne, hc'⟩
      · rfl
      · exact absurd (h.apart c i b id' hc' hp) hne
    · rcases holds_setAllocatedId hc with ⟨rfl, rfl⟩ | ⟨-, hc'⟩
      · exact absurd (h.apart b i c id' hb' hp) hne
      · exact h.exclusive b c id' hb' hc'
  · intro b j c id' hh hs
    rcases World.threads_moved hs with ⟨-, hq⟩ | ⟨-, hs'⟩
    · cases hq
    · rcases holds_setAllocatedId hh with ⟨rfl, rfl⟩ | ⟨-, hh'⟩
      · exact hown.unique (h.storing j c id' hs')
      · exact h.apart b j c id' hh' hs'

/-- The store that gives the id up; the call is done with its key. -/
theorem WorkerInv.clear {a : ℕ} {id : UInt16} (h : WorkerInv dc w)
    (hp : w.threads i = .clearId a id) :
    WorkerInv dc ⟨w.shared.setAllocatedId a 0,
      Function.update w.threads i (.clearLease a)⟩ := by
  have hother : ∀ b id', Holds (w.shared.setAllocatedId a 0) b id' →
      b ≠ a ∧ Holds w.shared b id' := by
    intro b id' hh
    rcases holds_setAllocatedId hh with ⟨hb, -⟩ | hother
    · rw [hb] at hh
      unfold Holds getAllocatedId Cluster.setAllocatedId at hh
      simp at hh
    · exact hother
  refine h.quiet (by simp) ?_ (fun b id' hh => (hother b id' hh).2) (fun _ _ ho => ho)
    (fun _ _ => rfl) (Nat.le_refl _) (fun _ _ hw => hw.elim)
  intro b id' hh hc
  rw [hp] at hc
  cases hc
  exact (hother _ _ hh).1 rfl

/-- The delete of a release: only the id itself loses its key. -/
theorem WorkerInv.delete {a : ℕ} {id : UInt16} (h : WorkerInv dc w)
    (hdel : w.threads i = .deleting a id) (hp : ∀ b id', p ≠ .storing b id')
    (hworks : ∀ b l, ¬ WorksWith b l p)
    (hheld : ∀ b, Holds w.shared b id → p = .clearId b id)
    (hstoring : ∀ b j, w.threads j ≠ .storing b id)
    (hetcd : m.etcd = w.shared.etcd.delete (workerPath dc id))
    (hallocators : m.allocators = w.shared.allocators) (howner : m.owner = w.shared.owner) :
    WorkerInv dc ⟨m, Function.update w.threads i p⟩ := by
  have hholds : ∀ b id', Holds m b id' → Holds w.shared b id' := by
    intro b id' hh
    unfold Holds at hh ⊢
    rwa [hallocators] at hh
  have hown : ∀ b id', id' ≠ id → Owned dc w.shared b id' → Owned dc m b id' := by
    intro b id' hne ho
    unfold Owned
    rw [hetcd, howner]
    exact ho.delete fun hpath => hne (workerPath_injective hpath)
  refine h.frame hholds ?_ ?_ ?_
  · intro j b id' hs
    rcases World.threads_moved hs with ⟨-, hpq⟩ | ⟨-, hs⟩
    · exact absurd hpq (hp b id')
    · refine ⟨hs, hown b id' ?_⟩
      rintro rfl
      exact hstoring b j hs
  · rintro b id' hh hback
    by_cases hid : id' = id
    · subst hid
      refine Or.inr ⟨i, ?_⟩
      dsimp only
      rw [Function.update_self]
      exact hheld b (hholds b id' hh)
    · refine backed_moved ?_ (hown b id' hid) hback
      rw [hdel]
      exact nofun
  · refine h.leased_moved (fun _ _ => by rw [howner]) ?_ fun b l hw => absurd hw (hworks b l)
    rw [hetcd]
    exact Nat.le_refl _

/-- A lease is granted; a call that got it goes on to work with it. -/
theorem WorkerInv.grant {a ttl : ℕ} (h : WorkerInv dc w) (hg : w.threads i = .granting a)
    (hetcd : m.etcd = w.shared.etcd.grant ttl) (hallocators : m.allocators = w.shared.allocators)
    (howner : m.owner = Function.update w.shared.owner w.shared.etcd.nextLease a)
    (hp : p = .storeLease a w.shared.etcd.nextLease ∨ p = .idle) :
    WorkerInv dc ⟨m, Function.update w.threads i p⟩ := by
  refine h.quiet ?_ ?_ ?_ ?_ ?_ ?_ ?_
  · rintro b id rfl
    rcases hp with hp | hp <;> cases hp
  · intro b id _ hc
    rw [hg] at hc
    cases hc
  · intro b id hh
    unfold Holds at hh ⊢
    rwa [hallocators] at hh
  · intro b id ho
    unfold Owned
    rw [hetcd, howner]
    exact ho.grant ttl
  · intro l hl
    have hne : l ≠ w.shared.etcd.nextLease := Nat.ne_of_lt (Nat.lt_succ_of_le hl)
    rw [howner, Function.update_of_ne hne]
  · rw [hetcd]
    exact Nat.le_succ _
  · rintro b l hw
    rcases hp with rfl | rfl
    · obtain ⟨rfl, rfl⟩ := hw
      rw [howner, hetcd, Function.update_self]
      exact ⟨rfl, Nat.le_refl _⟩
    · exact hw.elim

/-- A lease that carries no held id runs out. -/
theorem WorkerInv.expire {lease : ℕ} (h : WorkerInv dc w)
    (hord : ∀ a id, w.shared.etcd.entries (workerPath dc id) = some lease →
      ¬ Holds w.shared a id ∧ ∀ j, w.threads j ≠ .storing a id) :
    WorkerInv dc ⟨{ w.shared with etcd := w.shared.etcd.expire lease }, w.threads⟩ := by
  refine h.frame (fun _ _ hh => hh) ?_ ?_ (fun j b l hw => h.leased j b l hw)
  · intro j b id hs
    exact ⟨hs, fun ho => ho.expire fun he => (hord b id he).2 j hs⟩
  · rintro b id hh (ho | hj)
    · exact Or.inl (ho.expire fun he => (hord b id he).1 hh)
    · exact Or.inr hj

end Moved

/-- **One request or store of a call.** -/
theorem workerInv_proceed {i : ℕ} {reply : EtcdReply} {m : Cluster} {p : WorkerCall}
    (h : WorkerInv dc w) (hord : Orderly dc w (i, .proceed reply))
    (hs : proceed dc reply w.shared (w.threads i) = some (m, p)) :
    WorkerInv dc ⟨m, Function.update w.threads i p⟩ := by
  unfold Orderly at hord
  dsimp only at hord
  cases hp : w.threads i with
  | idle =>
    rw [hp] at hs
    cases hs
  | granting a =>
    rw [hp] at hs
    cases reply with
    | ok =>
      cases hs
      exact h.grant hp rfl rfl rfl (Or.inl rfl)
    | failed e =>
      cases hs
      exact h.done (by simp [hp]) (fun _ _ hh => hh) rfl rfl
    | lost e =>
      cases hs
      exact h.grant hp rfl rfl rfl (Or.inr rfl)
  | storeLease a lease =>
    rw [hp] at hs
    cases hs
    refine h.quiet (by simp) (by simp [hp]) (fun _ _ => holds_setLeaseId) (fun _ _ ho => ho)
      (fun _ _ => rfl) (Nat.le_refl _) ?_
    rintro b l ⟨rfl, rfl⟩
    exact h.leased i _ _ (by rw [hp]; exact ⟨rfl, rfl⟩)
  | getting a lease id =>
    rw [hp] at hs
    have hworks : WorksWith a lease (w.threads i) := by rw [hp]; exact ⟨rfl, rfl⟩
    cases reply with
    | ok =>
      unfold proceed at hs
      dsimp only at hs
      split at hs
      · exact h.next hworks (fun _ _ ho => ho) rfl (Option.some.inj hs)
      · cases hs
        refine h.quiet (by simp) (by simp [hp]) (fun _ _ hh => hh) (fun _ _ ho => ho)
          (fun _ _ => rfl) (Nat.le_refl _) ?_
        rintro b l ⟨rfl, rfl⟩
        exact h.leased i _ _ hworks
    | failed e => exact h.next hworks (fun _ _ ho => ho) rfl (Option.some.inj hs)
    | lost e => exact h.next hworks (fun _ _ ho => ho) rfl (Option.some.inj hs)
  | putting a lease id =>
    rw [hp] at hs hord
    have hworks : WorksWith a lease (w.threads i) := by rw [hp]; exact ⟨rfl, rfl⟩
    unfold proceed at hs
    dsimp only at hs
    split at hs
    · rename_i hput
      cases hs
      exact h.put hp hput hord
    · rename_i hput
      exact h.next hworks (fun _ _ ho => ho.put hput) (LeaseStore.putIfAbsent_granted hput)
        (Option.some.inj hs)
    · exact h.next hworks (fun _ _ ho => ho) rfl (Option.some.inj hs)
  | storing a id =>
    rw [hp] at hs
    cases hs
    exact h.store hp
  | deleting a id =>
    rw [hp] at hs hord
    cases reply with
    | ok =>
      cases hs
      refine h.delete hp (by simp) (fun _ _ hw => hw) ?_ (fun b j => (hord b).2 j) rfl rfl rfl
      intro b hh
      by_contra hne
      refine (hord b).1 ?_ hh
      rintro rfl
      exact hne rfl
    | failed e =>
      cases hs
      exact h.done (by simp [hp]) (fun _ _ hh => hh) rfl rfl
    | lost e =>
      cases hs
      exact h.delete hp (by simp) (fun _ _ hw => hw) (fun b hh => absurd hh (hord b).1)
        (fun b j => (hord b).2 j) rfl rfl rfl
  | clearId a id =>
    rw [hp] at hs
    cases hs
    exact h.clear hp
  | clearLease a =>
    rw [hp] at hs
    cases hs
    exact h.done (by simp [hp]) (fun _ _ => holds_setLeaseId) rfl rfl

/-- **One step.** -/
theorem workerInv_step {act : ℕ × WorkerOp} (h : WorkerInv dc w) (hord : Orderly dc w act)
    (hstep : World.step (workerStep dc) w act = some w') : WorkerInv dc w' := by
  obtain ⟨i, op⟩ := act
  obtain ⟨m, p, hs, rfl⟩ := World.step_eq_some.mp hstep
  cases op with
  | proceed reply => exact workerInv_proceed h hord hs
  | tick =>
    cases hs
    rw [Function.update_eq_self]
    exact h.frame (fun _ _ hh => hh) (fun _ _ _ hc => ⟨hc, fun ho => ho⟩) (fun _ _ _ hb => hb)
      h.leased
  | expire lease =>
    unfold workerStep at hs
    dsimp only at hs
    split at hs
    · cases hs
      rw [Function.update_eq_self]
      exact h.expire hord
    · cases hs
  | allocate a =>
    unfold workerStep at hs
    dsimp only at hs
    split at hs
    · rename_i hp
      cases hs
      exact h.begins hp (by simp) fun _ _ hw => hw.elim
    · cases hs
  | release a id =>
    unfold workerStep at hs
    dsimp only at hs
    split at hs
    · rename_i hp
      cases hs
      exact h.begins hp (by simp) fun _ _ hw => hw.elim
    · cases hs

/-- **Orderly runs.** No two allocators hold one worker id in a state that an orderly run
reaches. -/
theorem orderly_worker_ids_exclusive
    (h : Reaches (World.step (workerStep dc)) (Orderly dc) start w) {a b : ℕ} {id : UInt16}
    (ha : Holds w.shared a id) (hb : Holds w.shared b id) : a = b := by
  have hinv : WorkerInv dc w := h.invariant workerInv_start
    fun _ _ _ hi hord hs => workerInv_step hi hord hs
  exact hinv.exclusive a b id ha hb

/-- An allocator that took the first id is the only one that holds it. -/
theorem orderly_allocate_exclusive : ∃ w,
    Reaches (World.step (workerStep 0)) (Orderly 0) start w ∧ Holds w.shared 0 1 ∧
      ∀ b, Holds w.shared b 1 → b = 0 := by
  have hfree : ∀ b, b ≠ 0 → ¬ Holds ((start.shared.grant 0 30).setLeaseId 0 1) b 1 :=
    fun b _ hh => nomatch holds_setLeaseId hh
  have hreach : Reaches (World.step (workerStep 0)) (Orderly 0) start _ :=
    Reaches.cons (a := (0, .allocate 0)) trivial rfl <|
    Reaches.cons (a := (0, .proceed .ok)) trivial rfl <|
    Reaches.cons (a := (0, .proceed .ok)) trivial rfl <|
    Reaches.cons (a := (0, .proceed .ok)) trivial rfl <|
    Reaches.cons (a := (0, .proceed .ok)) (fun b hb hh => absurd hh (hfree b hb)) rfl <|
    Reaches.single (a := (0, .proceed .ok)) trivial rfl
  exact ⟨_, hreach, rfl, fun b hb => orderly_worker_ids_exclusive hreach hb rfl⟩

end EtcdWorkerAllocator

end NebulaId
