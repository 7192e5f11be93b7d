import Mathlib
import NebulaId.Algorithm.Fallback
import NebulaId.Database.Concurrent
import NebulaId.Machine.Parts
import NebulaId.Segment.Distinct

/-!
# Servers that share a database (`core/algorithm/segment.rs`, `core/database/repository.rs`)

Any number of servers, each with a segment algorithm of its own, load their segments from the
table of one repository. A call of `generate` or `batch_generate` that waits for its loader has a
call of `allocate_segment` or `allocate_segment_with_dc` under way, and the segment that this call
returns is the reply of the loader. A server may stop for good at any point; its repository calls
then end with an error, or not at all.

* `reaches_server`, `reaches_database`: a run of the cluster is a run of each server and a run of
  the calls on each row of the table.
* `cluster_ids_distinct`: no two servers, and no two calls of one server, return the same id under a
  key.
-/

namespace NebulaId

open Machine

/-- The call that waits for the loader. -/
def Task.waiting : Task → Option GenerateContext
  | .generate ctx _ .loadSegment | .batchGenerate ctx _ _ .loadSegment => some ctx
  | _ => none

/-- `load_segment` after the call of the repository; `text` is `Display` of the error. -/
def loadedSegment (text : CoreError → String) : Result SegmentInfo → Result SegmentData
  | .ok segment => .ok segment.data
  | .error e => .error (.databaseError (text e))

/-- The result of the call that the step has ended, if it has ended one. -/
def Database.returned (m m' : Database) : Option (Result SegmentInfo) :=
  if m.results.length < m'.results.length then m'.results.head? else none

/-- The servers, and the rows of the table with the locks and calls on them, by workspace and tag.
-/
structure Cluster where
  servers : ℕ → World SharedSegments Task
  databases : String × String → World Database Allocation

/-- A step of the code of a call, a step of the repository call that it waits for, or the lock
service giving up a lock. -/
inductive ClusterAct where
  | call (server thread : ℕ) (input : Input)
  | repository (server thread : ℕ) (op : AllocateOp)
  | giveUp (workspaceId bizTag lockKey : String)

namespace Cluster

def new : Cluster := ⟨fun _ => noCalls, fun _ => emptyDatabase⟩

def setServer (c : Cluster) (server : ℕ) (w : World SharedSegments Task) : Cluster :=
  { c with servers := Function.update c.servers server w }

def setDatabase (c : Cluster) (row : String × String) (d : World Database Allocation) : Cluster :=
  { c with databases := Function.update c.databases row d }

def step (below : UInt64 → UInt64 → Bool) (text : CoreError → String) (c : Cluster) :
    ClusterAct → Option Cluster
  | .call _ _ (.reply _) => none
  | .call server thread input =>
    (World.step (segmentStep below) (c.servers server) (thread, input)).map (c.setServer server)
  | .repository server thread op => ((c.servers server).threads thread).waiting.bind fun ctx =>
    let row := (ctx.workspaceId, ctx.bizTag)
    let d := c.databases row
    (World.step (allocateStep row.1 row.2) d (Nat.pair server thread, op)).bind fun d' =>
      let c := c.setDatabase row d'
      match d.shared.returned d'.shared with
      | none => some c
      | some result => (World.step (segmentStep below) (c.servers server)
          (thread, .reply (loadedSegment text result))).map (c.setServer server)
  | .giveUp workspaceId bizTag lockKey =>
    let row := (workspaceId, bizTag)
    (World.step (allocateStep row.1 row.2) (c.databases row) (0, .giveUp lockKey)).map
      (c.setDatabase row)

end Cluster

/-- The operation ends a transaction, and not by rolling it back. -/
def AllocateOp.commits : AllocateOp → Bool
  | .proceed _ (.rolledBack _) => false
  | .proceed _ _ => true
  | .call _ | .giveUp _ => false

/-- A call that is about to write has room. -/
def Allocation.Roomy (workspaceId bizTag : String) (t : SegmentTable) : Allocation → Prop
  | .writing q existing => HasRoom (q.entry workspaceId bizTag) q.step t existing
  | _ => True

/-- A write that commits has room. -/
def RoomyWrite (workspaceId bizTag : String) (w : World Database Allocation)
    (act : ℕ × AllocateOp) : Prop :=
  act.2.commits = true → (w.threads act.1).Roomy workspaceId bizTag w.shared.table

/-- The requests of `RepositoryBackedLoader`, or those of `DatabaseSegmentLoader` in a datacenter
that its detector knows. -/
def entryPoint (withDc : Bool) : Set Request := { q | q.dcId.isSome = withDc }

/-- The calls of all servers go through one entry point and their writes have room, and no workspace
id has a colon. -/
def Sound (withDc : Bool) (c : Cluster) : ClusterAct → Prop
  | .call _ _ (.generate ctx) | .call _ _ (.batchGenerate ctx _) => ':' ∉ ctx.workspaceId.toList
  | .repository server thread op => ∀ ctx ∈ ((c.servers server).threads thread).waiting,
    Asks (entryPoint withDc) (c.databases (ctx.workspaceId, ctx.bizTag))
        (Nat.pair server thread, op) ∧
      RoomyWrite ctx.workspaceId ctx.bizTag (c.databases (ctx.workspaceId, ctx.bizTag))
        (Nat.pair server thread, op)
  | _ => True

/-! ## What a step can do -/

variable {below : UInt64 → UInt64 → Bool} {text : CoreError → String} {withDc : Bool}
  {c c' : Cluster} {act : ClusterAct} {m m' : SharedSegments} {p p' : Task} {input : Input}
  {ctx : GenerateContext}

inductive ClusterMove (below : UInt64 → UInt64 → Bool) (text : CoreError → String) (c : Cluster) :
    ClusterAct → Cluster → Prop
  | call (server thread : ℕ) (input : Input) (w : World SharedSegments Task)
      (hinput : ∀ result, input ≠ .reply result)
      (hstep : World.step (segmentStep below) (c.servers server) (thread, input) = some w) :
      ClusterMove below text c (.call server thread input) (c.setServer server w)
  | work (server thread : ℕ) (op : AllocateOp) (ctx : GenerateContext)
      (d : World Database Allocation)
      (hctx : ((c.servers server).threads thread).waiting = some ctx)
      (hstep : World.step (allocateStep ctx.workspaceId ctx.bizTag)
        (c.databases (ctx.workspaceId, ctx.bizTag)) (Nat.pair server thread, op) = some d)
      (hquiet : (c.databases (ctx.workspaceId, ctx.bizTag)).shared.returned d.shared = none) :
      ClusterMove below text c (.repository server thread op)
        (c.setDatabase (ctx.workspaceId, ctx.bizTag) d)
  | reply (server thread : ℕ) (op : AllocateOp) (ctx : GenerateContext)
      (d : World Database Allocation) (result : Result SegmentInfo) (w : World SharedSegments Task)
      (hctx : ((c.servers server).threads thread).waiting = some ctx)
      (hstep : World.step (allocateStep ctx.workspaceId ctx.bizTag)
        (c.databases (ctx.workspaceId, ctx.bizTag)) (Nat.pair server thread, op) = some d)
      (hresult : (c.databases (ctx.workspaceId, ctx.bizTag)).shared.returned d.shared = some result)
      (hreply : World.step (segmentStep below) (c.servers server)
        (thread, .reply (loadedSegment text result)) = some w) :
      ClusterMove below text c (.repository server thread op)
        ((c.setDatabase (ctx.workspaceId, ctx.bizTag) d).setServer server w)
  | giveUp (workspaceId bizTag lockKey : String) (d : World Database Allocation)
      (hstep : World.step (allocateStep workspaceId bizTag) (c.databases (workspaceId, bizTag))
        (0, .giveUp lockKey) = some d) :
      ClusterMove below text c (.giveUp workspaceId bizTag lockKey)
        (c.setDatabase (workspaceId, bizTag) d)

theorem Cluster.step_cases (h : c.step below text act = some c') :
    ClusterMove below text c act c' := by
  cases act with
  | call server thread input =>
    cases input with
    | reply result => cases h
    | _ =>
      obtain ⟨w, hw, rfl⟩ := Option.map_eq_some_iff.mp h
      exact .call server thread _ w (by simp) hw
  | repository server thread op =>
    obtain ⟨ctx, hctx, h⟩ := Option.bind_eq_some_iff.mp h
    obtain ⟨d, hd, h⟩ := Option.bind_eq_some_iff.mp h
    dsimp only at h
    split at h
    · rename_i hquiet
      cases h
      exact .work server thread op ctx d hctx hd hquiet
    · rename_i result hresult
      obtain ⟨w, hw, rfl⟩ := Option.map_eq_some_iff.mp h
      exact .reply server thread op ctx d result w hctx hd hresult hw
  | giveUp workspaceId bizTag lockKey =>
    obtain ⟨d, hd, rfl⟩ := Option.map_eq_some_iff.mp h
    exact .giveUp workspaceId bizTag lockKey d hd

namespace Cluster

variable {server s : ℕ} {row r : String × String} {w : World SharedSegments Task}
  {d : World Database Allocation}

@[simp] theorem setServer_databases : (c.setServer server w).databases = c.databases := rfl

@[simp] theorem setDatabase_servers : (c.setDatabase row d).servers = c.servers := rfl

@[simp] theorem setServer_self : (c.setServer server w).servers server = w :=
  Function.update_self _ _ _

theorem setServer_of_ne (h : s ≠ server) : (c.setServer server w).servers s = c.servers s :=
  Function.update_of_ne h _ _

@[simp] theorem setDatabase_self : (c.setDatabase row d).databases row = d :=
  Function.update_self _ _ _

theorem setDatabase_of_ne (h : r ≠ row) : (c.setDatabase row d).databases r = c.databases r :=
  Function.update_of_ne h _ _

end Cluster

/-! ## The runs of the parts -/

/-- A run of the cluster is a run of each server. -/
theorem reaches_server {C : Cluster → ClusterAct → Prop}
    (h : Reaches (Cluster.step below text) C .new c) (s : ℕ) :
    Reaches (World.step (segmentStep below)) Free noCalls (c.servers s) := by
  refine h.part (fun c => c.servers s) fun c act c' _ hs => ?_
  have hserver : ∀ server thread input w,
      World.step (segmentStep below) (c.servers server) (thread, input) = some w →
        (c.setServer server w).servers s = c.servers s ∨ ∃ a, Free (c.servers s) a ∧
          World.step (segmentStep below) (c.servers s) a =
            some ((c.setServer server w).servers s) := by
    intro server thread input w hw
    by_cases hne : s = server
    · subst hne
      rw [Cluster.setServer_self]
      exact Or.inr ⟨(thread, input), trivial, hw⟩
    · exact Or.inl (Cluster.setServer_of_ne hne)
  cases Cluster.step_cases hs with
  | call server thread input w hinput hstep => exact hserver server thread input w hstep
  | work server thread op ctx d hctx hstep hquiet => exact Or.inl rfl
  | reply server thread op ctx d result w hctx hstep hresult hreply =>
    exact hserver server thread _ w hreply
  | giveUp workspaceId bizTag lockKey d hstep => exact Or.inl rfl

/-- A run of the cluster is a run of the calls on each row. -/
theorem reaches_database (h : Reaches (Cluster.step below text) (Sound withDc) .new c)
    (row : String × String) :
    Reaches (World.step (allocateStep row.1 row.2))
      (fun w a => Asks (entryPoint withDc) w a ∧ RoomyWrite row.1 row.2 w a) emptyDatabase
      (c.databases row) := by
  refine h.part (fun c => c.databases row) fun c act c' hsound hs => ?_
  have hdatabase : ∀ workspaceId bizTag a d,
      Asks (entryPoint withDc) (c.databases (workspaceId, bizTag)) a ∧
      RoomyWrite workspaceId bizTag (c.databases (workspaceId, bizTag)) a →
      World.step (allocateStep workspaceId bizTag) (c.databases (workspaceId, bizTag)) a = some d →
        (c.setDatabase (workspaceId, bizTag) d).databases row = c.databases row ∨
          ∃ a, (Asks (entryPoint withDc) (c.databases row) a ∧
              RoomyWrite row.1 row.2 (c.databases row) a) ∧
            World.step (allocateStep row.1 row.2) (c.databases row) a =
              some ((c.setDatabase (workspaceId, bizTag) d).databases row) := by
    intro workspaceId bizTag a d hguard hd
    by_cases hne : row = (workspaceId, bizTag)
    · subst hne
      rw [Cluster.setDatabase_self]
      exact Or.inr ⟨a, hguard, hd⟩
    · exact Or.inl (Cluster.setDatabase_of_ne hne)
  cases Cluster.step_cases hs with
  | call server thread input w hinput hstep => exact Or.inl rfl
  | work server thread op ctx d hctx hstep hquiet =>
    exact hdatabase _ _ _ d (hsound ctx hctx) hstep
  | reply server thread op ctx d result w hctx hstep hresult hreply =>
    exact hdatabase _ _ _ d (hsound ctx hctx) hstep
  | giveUp workspaceId bizTag lockKey d hstep =>
    exact hdatabase _ _ (0, .giveUp lockKey) d ⟨trivial, fun h => nomatch h⟩ hstep

theorem apart_entryPoint (workspaceId bizTag : String) :
    Apart workspaceId bizTag (entryPoint withDc) := by
  cases withDc with
  | false =>
    refine fun q hq q' hq' => apart_allocateSegment q ?_ q' ?_
    · exact Option.isNone_iff_eq_none.mp (Option.isSome_eq_false_iff.mp hq)
    · exact Option.isNone_iff_eq_none.mp (Option.isSome_eq_false_iff.mp hq')
  | true =>
    exact fun q hq q' hq' => apart_allocateSegmentWithDc q (Option.isSome_iff_ne_none.mp hq) q'
      (Option.isSome_iff_ne_none.mp hq')

/-- Calls of one entry point with room for their writes make orderly runs. -/
theorem reaches_orderly {workspaceId bizTag : String} {d : World Database Allocation}
    (h : Reaches (World.step (allocateStep workspaceId bizTag))
      (fun w a => Asks (entryPoint withDc) w a ∧ RoomyWrite workspaceId bizTag w a)
      emptyDatabase d) :
    Reaches (World.step (allocateStep workspaceId bizTag)) (Orderly workspaceId bizTag)
      emptyDatabase d := by
  refine h.guarded (I := LocksInv workspaceId bizTag (entryPoint withDc)) locksInv_empty
    (fun _ _ _ hinv hguard hs => locksInv_step (apart_entryPoint _ _) hinv hguard.1 hs) ?_
  rintro w ⟨i, op⟩ hinv ⟨-, hroom⟩
  have hwriting : ∀ q existing, w.threads i = .writing q existing →
      Current (q.entry workspaceId bizTag) w.shared.table existing :=
    fun q existing hi => ((hinv.thread i).current q existing hi).1
  cases op with
  | call q => trivial
  | giveUp lockKey => trivial
  | proceed pick outcome =>
    cases hi : w.threads i with
    | writing q existing =>
      cases outcome with
      | rolledBack err => trivial
      | _ =>
        simp only [RoomyWrite, hi] at hroom
        simp only [Orderly, hi]
        exact ⟨hwriting q existing hi, hroom rfl⟩
    | _ => cases outcome <;> simp only [Orderly, hi]

/-! ## Results and ranges -/

section Results

variable {workspaceId bizTag : String} {w d : World Database Allocation} {a : ℕ × AllocateOp}
  {result : Result SegmentInfo} {segment : SegmentInfo}

theorem results_step (h : World.step (allocateStep workspaceId bizTag) w a = some d) :
    d.shared.results = w.shared.results ∨
      ∃ result, d.shared.results = result :: w.shared.results := by
  obtain ⟨i, op⟩ := a
  obtain ⟨m, p, hs, rfl⟩ := World.step_eq_some.mp h
  cases allocateStep_cases hs with
  | refuse q err hp => exact Or.inr ⟨_, rfl⟩
  | quit q err hp => exact Or.inr ⟨_, rfl⟩
  | unseen q existing pick err hp hop => exact Or.inr ⟨_, rfl⟩
  | release q segment s hp => exact Or.inr ⟨_, rfl⟩
  | _ => exact Or.inl rfl

/-- A step that ends a call adds its result. -/
theorem results_of_returned (h : World.step (allocateStep workspaceId bizTag) w a = some d)
    (hresult : w.shared.returned d.shared = some result) :
    d.shared.results = result :: w.shared.results := by
  rcases results_step h with heq | ⟨r, heq⟩
  · simp [Database.returned, heq] at hresult
  · simp [Database.returned, heq] at hresult
    rw [heq, hresult]

theorem allocationsInv_of_orderly
    (h : Reaches (World.step (allocateStep workspaceId bizTag)) (Orderly workspaceId bizTag)
      emptyDatabase w) : AllocationsInv workspaceId bizTag w :=
  h.invariant allocationsInv_empty fun _ _ _ hi hord hs => allocationsInv_step hi hord hs

/-- The ids of a segment are positive and below 2^63. -/
theorem AllocationsInv.range (h : AllocationsInv workspaceId bizTag w)
    (hs : segment ∈ okSegments w.shared.results) :
    0 ≤ segment.currentId ∧ segment.currentId < segment.maxId ∧ segment.maxId < 2 ^ 63 := by
  obtain ⟨hlt, r, hr, -, hstart, hend⟩ := h.memory.table.below segment (h.memory.results _ hs)
  obtain ⟨hadm, -, hmax⟩ := h.memory.table.bounded r hr
  rw [dcStart_eq hadm] at hstart
  have hpos := hadm.1
  unfold i64Max at hmax
  omega

theorem ids_data (h0 : 0 ≤ segment.currentId) (hlt : segment.currentId < segment.maxId)
    (hmax : segment.maxId < 2 ^ 63) :
    segment.data.startId.toNat = segment.currentId.toNat ∧
      segment.data.maxId.toNat = segment.maxId.toNat :=
  ⟨toNat_ofInt_of_nonneg h0 (by omega), toNat_ofInt_of_nonneg (by omega) (by omega)⟩

/-- Two segments of a row that are disjoint are so as the loader returns them. -/
theorem AllocationsInv.disjoint_data {segment' : SegmentInfo}
    (h : AllocationsInv workspaceId bizTag w) (hs : segment ∈ okSegments w.shared.results)
    (hs' : segment' ∈ okSegments w.shared.results) (hd : Disjoint segment.ids segment'.ids) :
    Disjoint segment.data.ids segment'.data.ids := by
  obtain ⟨h0, hlt, hmax⟩ := h.range hs
  obtain ⟨h0', hlt', hmax'⟩ := h.range hs'
  obtain ⟨hstart, hend⟩ := ids_data h0 hlt hmax
  obtain ⟨hstart', hend'⟩ := ids_data h0' hlt' hmax'
  refine Set.disjoint_left.mpr fun n hn hn' => ?_
  unfold SegmentData.ids at hn hn'
  rw [hstart, hend] at hn
  rw [hstart', hend'] at hn'
  obtain ⟨hle, hlt₁⟩ := hn
  obtain ⟨hle', hlt₂⟩ := hn'
  have hmem : (n : ℤ) ∈ segment.ids := ⟨by omega, by omega⟩
  exact Set.disjoint_left.mp hd hmem ⟨by omega, by omega⟩

end Results

/-! ## Contexts -/

/-- The context of a call. -/
def Task.context : Task → Option GenerateContext
  | .idle => none
  | .generate ctx _ _ | .batchGenerate ctx _ _ _ => some ctx

theorem Task.context_of_waiting (h : p.waiting = some ctx) : p.context = some ctx := by
  unfold Task.waiting at h
  split at h <;> cases h <;> rfl

theorem Task.loading_of_waiting (h : p.waiting = some ctx) : p.loading = some ctx.key := by
  unfold Task.waiting at h
  split at h <;> cases h <;> rfl

/-- The call ends or goes on with its context. -/
def KeepsCtx (ctx : GenerateContext) (p : Task) : Prop := ∀ ctx' ∈ p.context, ctx' = ctx

theorem keepsCtx_of_map {α : Type} {found : Option α} {next : α → SharedSegments × Task}
    (hnext : ∀ a, KeepsCtx ctx (next a).2) (h : found.map next = some (m', p')) :
    KeepsCtx ctx p' := by
  obtain ⟨a, -, ha⟩ := Option.map_eq_some_iff.mp h
  have hkept := hnext a
  rw [ha] at hkept
  exact hkept

theorem keepsCtx_idle : KeepsCtx ctx .idle := fun _ h => nomatch h

theorem keepsCtx_generate (tries : ℕ) (next : Next) : KeepsCtx ctx (.generate ctx tries next) :=
  fun _ h => (Option.some.inj h).symm

theorem keepsCtx_batchGenerate (size : UInt64) (fits : CapacityFits size) (next : Next) :
    KeepsCtx ctx (.batchGenerate ctx size fits next) := fun _ h => (Option.some.inj h).symm

theorem generateStep_ctx {tries : ℕ} {next : Next}
    (h : generateStep below input m ctx tries next = some (m', p')) : KeepsCtx ctx p' := by
  have hretry : KeepsCtx ctx (retry ctx tries) := keepsCtx_generate _ _
  cases next with
  | findBuffer => cases h; exact keepsCtx_generate _ _
  | insertBuffer => cases h; exact keepsCtx_generate _ _
  | loadSegment =>
    simp only [generateStep] at h
    split at h <;> cases h <;> exact keepsCtx_generate _ _
  | tryConsume i =>
    refine keepsCtx_of_map (fun c => ?_) h
    split
    · exact keepsCtx_idle
    · exact keepsCtx_generate _ _
  | needSwitchLock i =>
    refine keepsCtx_of_map (fun c => ?_) h
    dsimp only
    split
    · exact keepsCtx_generate _ _
    · exact hretry
  | swap =>
    refine keepsCtx_of_map (fun b => ?_) h
    split
    · exact keepsCtx_generate _ _
    · exact hretry
  | tryStartLoading =>
    refine keepsCtx_of_map (fun b => ?_) h
    split <;> exact keepsCtx_generate _ _
  | finishLoading loaded =>
    refine keepsCtx_of_map (fun b => ?_) h
    cases loaded with
    | ok i => exact keepsCtx_generate _ _
    | error e => exact keepsCtx_idle
  | getNextAgain =>
    refine keepsCtx_of_map (fun b => ?_) h
    dsimp only
    split
    · exact keepsCtx_generate _ _
    · exact hretry
  | storeCurrent i => exact keepsCtx_of_map (fun _ => hretry) h
  | lockExhausted i => exact keepsCtx_of_map (fun _ => keepsCtx_idle) h
  | getCurrent | needSwitch | getNext | setNext | isLoading | getExhausted =>
    exact keepsCtx_of_map (fun _ => keepsCtx_generate _ _) h

theorem batchGenerateStep_ctx {size : UInt64} {fits : CapacityFits size} {next : Next}
    (h : batchGenerateStep below input m ctx size fits next = some (m', p')) : KeepsCtx ctx p' := by
  cases next with
  | findBuffer => cases h; exact keepsCtx_batchGenerate _ _ _
  | insertBuffer => cases h; exact keepsCtx_batchGenerate _ _ _
  | loadSegment =>
    simp only [batchGenerateStep] at h
    split at h <;> cases h
    · exact keepsCtx_batchGenerate _ _ _
    · exact keepsCtx_idle
  | tryConsume i =>
    refine keepsCtx_of_map (fun c => ?_) h
    split
    · dsimp only
      split
      · exact keepsCtx_batchGenerate _ _ _
      · exact keepsCtx_idle
    · exact keepsCtx_batchGenerate _ _ _
  | swap =>
    refine keepsCtx_of_map (fun b => ?_) h
    split <;> exact keepsCtx_batchGenerate _ _ _
  | lockExhausted i => exact keepsCtx_of_map (fun _ => keepsCtx_idle) h
  | getCurrent | needSwitch | needSwitchLock | getNext | setNext | storeCurrent | getExhausted =>
    exact keepsCtx_of_map (fun _ => keepsCtx_batchGenerate _ _ _) h
  | tryStartLoading | finishLoading loaded | isLoading | getNextAgain => cases h

/-- The context after a step is the one before it, or that of a new call. -/
theorem segmentStep_ctx {i : ℕ} (h : segmentStep below i input m p = some (m', p'))
    (hctx : p'.context = some ctx) :
    p.context = some ctx ∨ input = .generate ctx ∨ ∃ size, input = .batchGenerate ctx size := by
  cases p with
  | idle =>
    cases input with
    | generate ctx' =>
      cases h
      cases hctx
      exact Or.inr (Or.inl rfl)
    | batchGenerate ctx' size =>
      simp only [segmentStep] at h
      split at h <;> cases h
      cases hctx
      exact Or.inr (Or.inr ⟨size, rfl⟩)
    | proceed => cases h
    | reply result => cases h
  | generate ctx' tries next =>
    rw [generateStep_ctx h ctx hctx]
    exact Or.inl rfl
  | batchGenerate ctx' size fits next =>
    rw [batchGenerateStep_ctx h ctx hctx]
    exact Or.inl rfl

theorem append_cons_cancel {α : Type*} {a : α} {l l' r r' : List α} (h : a ∉ l) (h' : a ∉ l')
    (heq : l ++ a :: r = l' ++ a :: r') : l = l' ∧ r = r' := by
  induction l generalizing l' with
  | nil =>
    cases l' with
    | nil => exact ⟨rfl, List.tail_eq_of_cons_eq heq⟩
    | cons b l' => exact absurd (List.head_eq_of_cons_eq heq ▸ List.mem_cons_self) h'
  | cons b l ih =>
    cases l' with
    | nil => exact absurd (List.head_eq_of_cons_eq heq ▸ List.mem_cons_self) h
    | cons b' l' =>
      obtain ⟨hl, hr⟩ := ih (fun hmem => h (List.mem_cons_of_mem _ hmem))
        (fun hmem => h' (List.mem_cons_of_mem _ hmem)) (List.tail_eq_of_cons_eq heq)
      exact ⟨congrArg₂ List.cons (List.head_eq_of_cons_eq heq) hl, hr⟩

/-- Without a colon in the workspace ids, the key names the workspace and the tag. -/
theorem row_of_key {ctx' : GenerateContext} (h : ':' ∉ ctx.workspaceId.toList)
    (h' : ':' ∉ ctx'.workspaceId.toList) (hkey : ctx.key = ctx'.key) :
    (ctx.workspaceId, ctx.bizTag) = (ctx'.workspaceId, ctx'.bizTag) := by
  have hchars := congrArg String.toList hkey
  unfold GenerateContext.key at hchars
  simp only [String.toList_append, List.append_assoc, show ":".toList = [':'] from rfl,
    List.singleton_append] at hchars
  obtain ⟨hworkspace, htag⟩ := append_cons_cancel h h' hchars
  rw [String.toList_injective hworkspace, String.toList_injective htag]

/-! ## Every range is loaded once -/

/-- What the servers have loaded is what the calls of the repository have returned, each segment
once; `own` is about two ranges of one server, `others` about those of two. -/
structure ClusterInv (c : Cluster) : Prop where
  contexts : ∀ s i, ∀ ctx ∈ ((c.servers s).threads i).context, ':' ∉ ctx.workspaceId.toList
  origin : ∀ s, ∀ x ∈ (c.servers s).shared.loaded, ∃ ctx : GenerateContext,
    ':' ∉ ctx.workspaceId.toList ∧ x.1 = ctx.key ∧
      ∃ segment ∈ okSegments (c.databases (ctx.workspaceId, ctx.bizTag)).shared.results,
        x.2 = segment.data
  own : ∀ s, LoadsDisjoint (c.servers s).shared.loaded
  others : ∀ s s', s ≠ s' → ∀ x ∈ (c.servers s).shared.loaded,
    ∀ y ∈ (c.servers s').shared.loaded, x.1 = y.1 → Disjoint x.2.ids y.2.ids

theorem clusterInv_new : ClusterInv .new where
  contexts _ _ _ h := nomatch h
  origin _ _ h := nomatch h
  own _ := List.Pairwise.nil
  others _ _ _ _ h := nomatch h

theorem Move.loaded_of_quiet {held : Option (String × ℕ)} (h : Move input m p m' held)
    (hinput : ∀ d, input ≠ .reply (.ok d)) : m'.loaded = m.loaded := by
  cases h with
  | load key d hp hd => exact absurd hd (hinput d)
  | _ => rfl

theorem loaded_of_quiet {w w' : World SharedSegments Task} {i : ℕ}
    (h : World.step (segmentStep below) w (i, input) = some w')
    (hinput : ∀ d, input ≠ .reply (.ok d)) : w'.shared.loaded = w.shared.loaded := by
  obtain ⟨m, p, hs, rfl⟩ := World.step_eq_some.mp h
  exact (segmentStep_cases hs).loaded_of_quiet hinput

/-- The context of a call of the server is that of a call before, or of a new one. -/
theorem contexts_step {w w' : World SharedSegments Task} {i j : ℕ}
    (h : World.step (segmentStep below) w (i, input) = some w')
    (hctx : (w'.threads j).context = some ctx) :
    (∃ k, (w.threads k).context = some ctx) ∨ input = .generate ctx ∨
      ∃ size, input = .batchGenerate ctx size := by
  obtain ⟨m, p, hs, rfl⟩ := World.step_eq_some.mp h
  by_cases hji : j = i
  · subst hji
    have hp : p.context = some ctx := by simpa using hctx
    exact (segmentStep_ctx hs hp).imp_left fun hold => ⟨j, hold⟩
  · exact Or.inl ⟨j, by simpa [Function.update_of_ne hji] using hctx⟩

/-- A step that loads nothing. -/
theorem ClusterInv.quiet (h : ClusterInv c)
    (hcontexts : ∀ s i, ∀ ctx ∈ ((c'.servers s).threads i).context, ':' ∉ ctx.workspaceId.toList)
    (hloaded : ∀ s, (c'.servers s).shared.loaded = (c.servers s).shared.loaded)
    (hresults : ∀ row, ∀ x ∈ okSegments (c.databases row).shared.results,
      x ∈ okSegments (c'.databases row).shared.results) : ClusterInv c' where
  contexts := hcontexts
  origin s x hx := by
    rw [hloaded] at hx
    obtain ⟨ctx, hcolon, hkey, segment, hmem, hdata⟩ := h.origin s x hx
    exact ⟨ctx, hcolon, hkey, segment, hresults _ segment hmem, hdata⟩
  own s := by
    rw [hloaded]
    exact h.own s
  others s s' hne x hx y hy := by
    rw [hloaded] at hx hy
    exact h.others s s' hne x hx y hy

/-- A step that loads the segment that the repository call of the server has just returned. -/
theorem ClusterInv.load (server : ℕ) (segment : SegmentInfo) (h : ClusterInv c)
    (hcontexts : ∀ s i, ∀ ctx ∈ ((c'.servers s).threads i).context, ':' ∉ ctx.workspaceId.toList)
    (hcolon : ':' ∉ ctx.workspaceId.toList)
    (hself : (c'.servers server).shared.loaded =
      (ctx.key, segment.data) :: (c.servers server).shared.loaded)
    (hloaded : ∀ s, s ≠ server → (c'.servers s).shared.loaded = (c.servers s).shared.loaded)
    (hresult : okSegments (c'.databases (ctx.workspaceId, ctx.bizTag)).shared.results =
      segment :: okSegments (c.databases (ctx.workspaceId, ctx.bizTag)).shared.results)
    (hresults : ∀ row, row ≠ (ctx.workspaceId, ctx.bizTag) → c'.databases row = c.databases row)
    (hinv : AllocationsInv ctx.workspaceId ctx.bizTag (c'.databases (ctx.workspaceId, ctx.bizTag)))
    (hdisjoint : (okSegments (c'.databases (ctx.workspaceId, ctx.bizTag)).shared.results).Pairwise
      fun s s' => Disjoint s.ids s'.ids) : ClusterInv c' := by
  -- the new segment is disjoint from every range of its key, whichever server has loaded it
  have hfresh : ∀ s, ∀ x ∈ (c.servers s).shared.loaded, x.1 = ctx.key →
      Disjoint segment.data.ids x.2.ids := by
    intro s x hx hkey
    obtain ⟨ctx', hcolon', hkey', old, hold, hdata⟩ := h.origin s x hx
    rw [row_of_key hcolon' hcolon (hkey'.symm.trans hkey)] at hold
    rw [hresult] at hdisjoint
    rw [hdata]
    refine hinv.disjoint_data ?_ ?_ ((List.pairwise_cons.mp hdisjoint).1 old hold)
    · rw [hresult]
      exact List.mem_cons_self
    · rw [hresult]
      exact List.mem_cons_of_mem _ hold
  have hcases : ∀ s, ∀ x ∈ (c'.servers s).shared.loaded,
      (s = server ∧ x = (ctx.key, segment.data)) ∨ x ∈ (c.servers s).shared.loaded := by
    intro s x hx
    by_cases hs : s = server
    · subst hs
      rw [hself] at hx
      exact (List.mem_cons.mp hx).imp_left fun hnew => ⟨rfl, hnew⟩
    · rw [hloaded s hs] at hx
      exact Or.inr hx
  refine ⟨hcontexts, fun s x hx => ?_, fun s => ?_, fun s s' hne x hx y hy hkey => ?_⟩
  · rcases hcases s x hx with ⟨-, rfl⟩ | hold
    · refine ⟨ctx, hcolon, rfl, segment, ?_, rfl⟩
      rw [hresult]
      exact List.mem_cons_self
    · obtain ⟨ctx', hcolon', hkey', old, hmem, hdata⟩ := h.origin s x hold
      refine ⟨ctx', hcolon', hkey', old, ?_, hdata⟩
      by_cases hrow : (ctx'.workspaceId, ctx'.bizTag) = (ctx.workspaceId, ctx.bizTag)
      · rw [hrow] at hmem ⊢
        rw [hresult]
        exact List.mem_cons_of_mem _ hmem
      · rw [hresults _ hrow]
        exact hmem
  · by_cases hs : s = server
    · subst hs
      rw [hself]
      exact List.pairwise_cons.mpr ⟨fun x hx hkey => hfresh s x hx hkey.symm, h.own s⟩
    · rw [hloaded s hs]
      exact h.own s
  · rcases hcases s x hx with ⟨hs, rfl⟩ | hx
    · rcases hcases s' y hy with ⟨hs', -⟩ | hy
      · exact absurd (hs.trans hs'.symm) hne
      · exact hfresh s' y hy hkey.symm
    · rcases hcases s' y hy with ⟨-, rfl⟩ | hy
      · exact (hfresh s x hx hkey).symm
      · exact h.others s s' hne x hx y hy hkey

/-- The contexts of a server after a step of its own. -/
theorem ClusterInv.contexts_server {server thread : ℕ} {w : World SharedSegments Task}
    (h : ClusterInv c)
    (hstep : World.step (segmentStep below) (c.servers server) (thread, input) = some w)
    (hinput : ∀ ctx, input = .generate ctx ∨ (∃ size, input = .batchGenerate ctx size) →
      ':' ∉ ctx.workspaceId.toList) (s i : ℕ) :
    ∀ ctx ∈ (((c.setServer server w).servers s).threads i).context,
      ':' ∉ ctx.workspaceId.toList := by
  intro ctx hctx
  by_cases hs : s = server
  · subst hs
    rw [Cluster.setServer_self] at hctx
    rcases contexts_step hstep hctx with ⟨k, hk⟩ | hnew
    · exact h.contexts s k ctx hk
    · exact hinput ctx hnew
  · rw [Cluster.setServer_of_ne hs] at hctx
    exact h.contexts s i ctx hctx

/-- **One step.** -/
theorem clusterInv_step (h : ClusterInv c) (hsound : Sound withDc c act)
    (hreach : Reaches (Cluster.step below text) (Sound withDc) .new c')
    (hs : c.step below text act = some c') : ClusterInv c' := by
  have hloaded : ∀ {server thread : ℕ} {input : Input} {w : World SharedSegments Task},
      World.step (segmentStep below) (c.servers server) (thread, input) = some w →
      (∀ d, input ≠ .reply (.ok d)) → ∀ s, ((c.setServer server w).servers s).shared.loaded =
        (c.servers s).shared.loaded := by
    intro server thread input w hw hinput s
    by_cases hne : s = server
    · subst hne
      rw [Cluster.setServer_self]
      exact loaded_of_quiet hw hinput
    · rw [Cluster.setServer_of_ne hne]
  have hresults : ∀ (row : String × String) {d : World Database Allocation} {a : ℕ × AllocateOp},
      World.step (allocateStep row.1 row.2) (c.databases row) a = some d → ∀ r,
        ∀ x ∈ okSegments (c.databases r).shared.results,
          x ∈ okSegments ((c.setDatabase row d).databases r).shared.results := by
    intro row d a hd r x hx
    by_cases hne : r = row
    · subst hne
      rw [Cluster.setDatabase_self]
      rcases results_step hd with heq | ⟨result, heq⟩
      · rw [heq]
        exact hx
      · rw [heq]
        exact (List.sublist_cons_self _ _).filterMap _ |>.subset hx
    · rw [Cluster.setDatabase_of_ne hne]
      exact hx
  cases Cluster.step_cases hs with
  | call server thread input w hinput hstep =>
    refine h.quiet (h.contexts_server hstep fun ctx hnew => ?_)
      (hloaded hstep fun d => hinput _) fun _ _ hx => hx
    rcases hnew with rfl | ⟨size, rfl⟩ <;> exact hsound
  | work server thread op ctx d hctx hstep hquiet =>
    exact h.quiet h.contexts (fun _ => rfl) (hresults (ctx.workspaceId, ctx.bizTag) hstep)
  | giveUp workspaceId bizTag lockKey d hstep =>
    exact h.quiet h.contexts (fun _ => rfl) (hresults (workspaceId, bizTag) hstep)
  | reply server thread op ctx d result w hctx hstep hresult hreply =>
    have hcontexts := h.contexts_server hreply fun _ hnew => by
      rcases hnew with h | ⟨_, h⟩ <;> cases h
    cases result with
    | error e =>
      refine h.quiet hcontexts (hloaded hreply (by simp [loadedSegment])) ?_
      exact hresults (ctx.workspaceId, ctx.bizTag) hstep
    | ok segment =>
      have hcolon := h.contexts server thread ctx (Task.context_of_waiting hctx)
      have horderly := reaches_orderly (reaches_database hreach (ctx.workspaceId, ctx.bizTag))
      refine h.load server segment hcontexts hcolon ?_ (fun s hne => ?_) ?_ (fun row hne => ?_)
        (allocationsInv_of_orderly horderly) (orderly_segments_disjoint horderly).1
      · rw [Cluster.setServer_self]
        obtain ⟨m, p, hm, rfl⟩ := World.step_eq_some.mp hreply
        exact loaded_of_reply hm (Task.loading_of_waiting hctx)
      · rw [Cluster.setServer_of_ne hne]
        rfl
      · rw [Cluster.setServer_databases, Cluster.setDatabase_self,
          results_of_returned hstep hresult]
        rfl
      · rw [Cluster.setServer_databases, Cluster.setDatabase_of_ne hne]

theorem clusterInv_of_reaches (h : Reaches (Cluster.step below text) (Sound withDc) .new c) :
    ClusterInv c := by
  induction h with
  | refl => exact clusterInv_new
  | tail hc hn ih =>
    obtain ⟨act, hsound, hs⟩ := hn
    exact clusterInv_step ih hsound (hc.trans (Reaches.single hsound hs)) hs

/-! ## Ids of a cluster -/

/-- What a server has loaded ends below 2^63. -/
theorem loadsLow_of_reaches (h : Reaches (Cluster.step below text) (Sound withDc) .new c) (s : ℕ) :
    LoadsLow (c.servers s).shared.loaded := by
  intro x hx
  obtain ⟨ctx, -, -, segment, hmem, hdata⟩ := (clusterInv_of_reaches h).origin s x hx
  have hinv := allocationsInv_of_orderly
    (reaches_orderly (reaches_database h (ctx.workspaceId, ctx.bizTag)))
  obtain ⟨h0, hlt, hmax⟩ := hinv.range hmem
  obtain ⟨hstart, hend⟩ := ids_data h0 hlt hmax
  rw [hdata, hstart, hend]
  omega

/-- **The cluster.** Under one key no server returns an id twice, and no two servers return the same
one. -/
theorem cluster_ids_distinct (h : Reaches (Cluster.step below text) (Sound withDc) .new c) :
    (∀ s, (c.servers s).shared.issued.Nodup) ∧
      ∀ s s', s ≠ s' → (c.servers s).shared.issued.Disjoint (c.servers s').shared.issued := by
  have hinv := clusterInv_of_reaches h
  have hserver : ∀ s, (c.servers s).shared.issued.Nodup ∧ ∀ x ∈ (c.servers s).shared.issued,
      ∃ d, (x.1, d) ∈ (c.servers s).shared.loaded ∧ x.2.asU128.toNat ∈ d.ids :=
    fun s => low_ids_distinct (reaches_server h s) (hinv.own s) (loadsLow_of_reaches h s)
  refine ⟨fun s => (hserver s).1, fun s s' hne x hx hx' => ?_⟩
  obtain ⟨d, hd, hid⟩ := (hserver s).2 x hx
  obtain ⟨d', hd', hid'⟩ := (hserver s').2 x hx'
  exact Set.disjoint_left.mp (hinv.others s s' hne _ hd _ hd' rfl) hid hid'

instance (e : Entry) (step : ℤ) (t : SegmentTable) (found : Option SegmentRow) :
    Decidable (HasRoom e step t found) :=
  match found with
  | some _ => inferInstanceAs (Decidable (_ ∧ _))
  | none => inferInstanceAs (Decidable (∀ r' ∈ t.rows, _))

instance (w : World Database Allocation) (a : ℕ × AllocateOp) :
    Decidable (Asks (entryPoint withDc) w a) :=
  match a with
  | (_, .call q) => inferInstanceAs (Decidable (q.dcId.isSome = withDc))
  | (_, .proceed _ _) | (_, .giveUp _) => .isTrue trivial

instance (workspaceId bizTag : String) (t : SegmentTable) (p : Allocation) :
    Decidable (p.Roomy workspaceId bizTag t) :=
  match p with
  | .writing q existing =>
    inferInstanceAs (Decidable (HasRoom (q.entry workspaceId bizTag) q.step t existing))
  | .idle | .acquiring _ | .reading _ | .releasing _ _ => .isTrue trivial

instance (workspaceId bizTag : String) (w : World Database Allocation) (a : ℕ × AllocateOp) :
    Decidable (RoomyWrite workspaceId bizTag w a) :=
  inferInstanceAs (Decidable (_ = true → _))

instance (c : Cluster) (act : ClusterAct) : Decidable (Sound withDc c act) :=
  match act with
  | .call _ _ (.generate ctx) | .call _ _ (.batchGenerate ctx _) =>
    inferInstanceAs (Decidable (':' ∉ ctx.workspaceId.toList))
  | .call _ _ .proceed | .call _ _ (.reply _) | .giveUp _ _ _ => .isTrue trivial
  | .repository server thread _ =>
    inferInstanceAs (Decidable (∀ ctx ∈ ((c.servers server).threads thread).waiting, _ ∧ _))

/-- Two servers load a segment of the same tag; the first has written its row before the second
reads the table. -/
theorem cluster_ids_distinct_two : ∃ c,
    Reaches (Cluster.step belowTenth (fun _ => "")) (Sound false) .new c ∧
      (c.servers 0).shared.issued = [("w:t", Id.ofU64 1)] ∧
      (c.servers 1).shared.issued = [("w:t", Id.ofU64 1001)] ∧
      (c.servers 0).shared.issued.Disjoint (c.servers 1).shared.issued := by
  let request : Request := ⟨none, 1000, (fun _ h => nomatch h), by decide, by decide⟩
  let start (s : ℕ) : List ClusterAct :=
    .call s 0 (.generate ⟨"w", "g", "t"⟩) :: List.replicate 8 (.call s 0 .proceed)
  let work (s : ℕ) := ClusterAct.repository s 0 (.proceed 0 .done)
  let acts : List (List ClusterAct) := [start 0, start 1,
    [.repository 0 0 (.call request), .repository 1 0 (.call request)], List.replicate 4 (work 0),
    List.replicate 4 (work 1), List.replicate 6 (.call 1 0 .proceed),
    List.replicate 6 (.call 0 0 .proceed)]
  have hrun : ((runWhile (Cluster.step belowTenth fun _ => "") (Sound false) .new acts.flatten).map
      fun c => ((c.servers 0).shared.issued, (c.servers 1).shared.issued)) =
      some ([("w:t", Id.ofU64 1)], [("w:t", Id.ofU64 1001)]) := by
    decide +kernel
  obtain ⟨c, hc, he⟩ := Option.map_eq_some_iff.mp hrun
  obtain ⟨h0, h1⟩ := Prod.mk.inj he
  have hreach := reaches_of_runWhile hc
  exact ⟨c, hreach, h0, h1, (cluster_ids_distinct hreach).2 0 1 (by decide)⟩

end NebulaId
