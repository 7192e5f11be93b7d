import NebulaId.Machine.Threads
import NebulaId.Database.Allocation

/-!
# Concurrent allocations

Calls from any number of nodes share the table and the named locks. `allocateStep` takes
one call through the acquisition of its lock, its read, its write with the commit, or the
release. Each may fail; a call that fails between acquisition and release returns early
and leaves its lock behind, until the lock service gives the lock up.

The two entry points take different locks for rows that both of them look at:

* `two_entry_points_overlap`: `allocate_segment` and `allocate_segment_with_dc` for
  datacenter 0 both find the table empty and hand out the same range.
* `allocateStep_cases`: every step is one of the moves of `AllocateMove`.
* `orderly_segments_disjoint`: when every write finds in the table what its call has read,
  and room, no ranges overlap and no row goes back.
* `allocate_alone`: a call that nobody disturbs does what `allocate` says.
* `apart_current`: calls that look at a common row only when they share a lock always find
  what they have read. So do the calls of either entry point alone.
-/

namespace NebulaId

open Machine

/-- A lock is free, held by a call, or left behind by a call that failed. -/
inductive LockState where
  | free
  | held
  | left
  deriving DecidableEq

/-- The table and the locks, the segments committed so far and the results returned. -/
structure Database where
  table : SegmentTable
  locks : String → LockState
  committed : List SegmentInfo
  results : List (Result SegmentInfo)

/-- The next operation of a call. -/
inductive Allocation where
  | idle
  | acquiring (q : Request)
  | reading (q : Request)
  | writing (q : Request) (existing : Option SegmentRow)
  | releasing (q : Request) (segment : SegmentInfo)

inductive AllocateOp where
  | call (q : Request)
  | proceed (pick : ℕ) (outcome : Outcome)
  | giveUp (lockKey : String)

namespace Database

def setLock (m : Database) (lockKey : String) (s : LockState) : Database :=
  { m with locks := Function.update m.locks lockKey s }

def fail (m : Database) (e : CoreError) : Database :=
  { m with results := .error e :: m.results }

/-- The write of a call reaches the table. -/
def write (m : Database) (r : SegmentInfo × SegmentTable) : Database :=
  { m with table := r.2, committed := r.1 :: m.committed }

end Database

/-- One operation of one call on the segments of a workspace and a business tag. -/
def allocateStep (workspaceId bizTag : String) (_ : ℕ) (op : AllocateOp) (m : Database)
    (p : Allocation) : Option (Database × Allocation) :=
  match op, p with
  | .giveUp lockKey, p =>
    if m.locks lockKey = .left then some (m.setLock lockKey .free, p) else none
  | .call q, .idle => some (m, .acquiring q)
  | .proceed _ outcome, .acquiring q =>
    let e := q.entry workspaceId bizTag
    match outcome with
    | .done =>
      if m.locks e.lockKey = .free then some (m.setLock e.lockKey .held, .reading q) else none
    | .rolledBack err | .unseen err => some (m.fail err, .idle)
  | .proceed pick outcome, .reading q =>
    let e := q.entry workspaceId bizTag
    match outcome with
    | .done => some (m, .writing q (m.table.one e.selects pick))
    | .rolledBack err | .unseen err => some ((m.setLock e.lockKey .left).fail err, .idle)
  | .proceed _ outcome, .writing q existing =>
    let e := q.entry workspaceId bizTag
    let r := commit e q.step m.table existing
    match outcome with
    | .done => some (m.write r, .releasing q r.1)
    | .rolledBack err => some ((m.setLock e.lockKey .left).fail err, .idle)
    | .unseen err => some (((m.write r).setLock e.lockKey .left).fail err, .idle)
  | .proceed _ outcome, .releasing q segment =>
    let e := q.entry workspaceId bizTag
    let m := { m with results := .ok segment :: m.results }
    match outcome with
    | .done => some (m.setLock e.lockKey .free, .idle)
    | .rolledBack _ | .unseen _ => some (m.setLock e.lockKey .left, .idle)
  | _, _ => none

def emptyDatabase : World Database Allocation :=
  ⟨⟨.empty, fun _ => .free, [], []⟩, fun _ => .idle⟩

/-- `allocate_segment` and `allocate_segment_with_dc` for datacenter 0 on an empty table. -/
theorem two_entry_points_overlap : ∃ w,
    Reaches (World.step (allocateStep "w" "t")) Free emptyDatabase w ∧
      ¬ (okSegments w.shared.results).Pairwise fun s s' => Disjoint s.ids s'.ids := by
  let plain : Request :=
    { dcId := none, step := 100, admitted := (fun _ hd => nomatch hd), positive := by decide
      fits := by decide }
  let withDc : Call := doneCall 0 100 (by decide)
  let ops := [(0, .call plain), (1, .call withDc.toRequest)] ++
    (List.replicate 4 [(0, AllocateOp.proceed 0 .done), (1, .proceed 0 .done)]).flatten
  have hrun : ((run (World.step (allocateStep "w" "t")) emptyDatabase ops).map
      fun w => okSegments w.shared.results) =
      some [⟨2, "w", "t", 1, 101, 100, 1⟩, ⟨1, "w", "t", 1, 101, 100, 1⟩] := by
    decide +kernel
  obtain ⟨w, hw, hsegments⟩ := Option.map_eq_some_iff.mp hrun
  refine ⟨w, reaches_of_run hw, fun hdisjoint => ?_⟩
  rw [hsegments] at hdisjoint
  have hids := (List.pairwise_cons.mp hdisjoint).1 _ (List.mem_singleton.mpr rfl)
  have hmem : (1 : ℤ) ∈ Set.Ico 1 101 := Set.mem_Ico.mpr (by omega)
  exact Set.disjoint_left.mp hids hmem hmem

/-! ## What a step can do -/

/-- The call a node is busy with. -/
def Allocation.request : Allocation → Option Request
  | .idle => none
  | .acquiring q | .reading q | .writing q _ | .releasing q _ => some q

/-- The call that holds its lock. -/
def Allocation.inside : Allocation → Option Request
  | .idle | .acquiring _ => none
  | .reading q | .writing q _ | .releasing q _ => some q

/-- One step of one call: the new database and the new state of the call. -/
inductive AllocateMove (workspaceId bizTag : String) (op : AllocateOp) (m : Database)
    (p : Allocation) : Database → Allocation → Prop
  | giveUp (lockKey : String) (hleft : m.locks lockKey = .left) :
      AllocateMove workspaceId bizTag op m p (m.setLock lockKey .free) p
  | call (q : Request) (hp : p = .idle) (hop : op = .call q) :
      AllocateMove workspaceId bizTag op m p m (.acquiring q)
  | acquire (q : Request) (hp : p = .acquiring q)
      (hfree : m.locks (q.entry workspaceId bizTag).lockKey = .free) :
      AllocateMove workspaceId bizTag op m p
        (m.setLock (q.entry workspaceId bizTag).lockKey .held) (.reading q)
  | refuse (q : Request) (err : CoreError) (hp : p = .acquiring q) :
      AllocateMove workspaceId bizTag op m p (m.fail err) .idle
  | read (q : Request) (pick : ℕ) (hp : p = .reading q) :
      AllocateMove workspaceId bizTag op m p m
        (.writing q (m.table.one (q.entry workspaceId bizTag).selects pick))
  | quit (q : Request) (err : CoreError) (hp : q ∈ p.inside) :
      AllocateMove workspaceId bizTag op m p
        ((m.setLock (q.entry workspaceId bizTag).lockKey .left).fail err) .idle
  | write (q : Request) (existing : Option SegmentRow) (pick : ℕ) (hp : p = .writing q existing)
      (hop : op = .proceed pick .done) :
      AllocateMove workspaceId bizTag op m p
        (m.write (commit (q.entry workspaceId bizTag) q.step m.table existing))
        (.releasing q (commit (q.entry workspaceId bizTag) q.step m.table existing).1)
  | unseen (q : Request) (existing : Option SegmentRow) (pick : ℕ) (err : CoreError)
      (hp : p = .writing q existing) (hop : op = .proceed pick (.unseen err)) :
      AllocateMove workspaceId bizTag op m p
        (((m.write (commit (q.entry workspaceId bizTag) q.step m.table existing)).setLock
          (q.entry workspaceId bizTag).lockKey .left).fail err) .idle
  | release (q : Request) (segment : SegmentInfo) (s : LockState) (hp : p = .releasing q segment) :
      AllocateMove workspaceId bizTag op m p
        ({ m with results := .ok segment :: m.results }.setLock
          (q.entry workspaceId bizTag).lockKey s) .idle

/-- **Every step** is one of the moves. -/
theorem allocateStep_cases {workspaceId bizTag : String} {i : ℕ} {op : AllocateOp}
    {m m' : Database} {p p' : Allocation}
    (h : allocateStep workspaceId bizTag i op m p = some (m', p')) :
    AllocateMove workspaceId bizTag op m p m' p' := by
  cases op with
  | giveUp lockKey =>
    unfold allocateStep at h
    dsimp only at h
    split at h <;> cases h
    exact .giveUp lockKey ‹_›
  | call q =>
    cases p with
    | idle =>
      cases h
      exact .call q rfl rfl
    | _ => cases h
  | proceed pick outcome =>
    cases p with
    | idle => cases h
    | acquiring q =>
      unfold allocateStep at h
      cases outcome with
      | done =>
        dsimp only at h
        split at h <;> cases h
        exact .acquire q rfl ‹_›
      | _ =>
        cases h
        exact .refuse q _ rfl
    | reading q =>
      cases outcome with
      | done =>
        cases h
        exact .read q pick rfl
      | _ =>
        cases h
        exact .quit q _ rfl
    | writing q existing =>
      cases outcome with
      | done =>
        cases h
        exact .write q existing pick rfl rfl
      | rolledBack err =>
        cases h
        exact .quit q err rfl
      | unseen err =>
        cases h
        exact .unseen q existing pick err rfl rfl
    | releasing q segment =>
      cases outcome with
      | _ =>
        cases h
        exact .release q segment _ rfl

/-! ## Orderly runs -/

/-- A write that commits finds in the table what its call has read, and room. -/
def Orderly (workspaceId bizTag : String) (w : World Database Allocation)
    (act : ℕ × AllocateOp) : Prop :=
  match act.2, w.threads act.1 with
  | .proceed _ (.rolledBack _), _ => True
  | .proceed _ _, .writing q existing =>
      Current (q.entry workspaceId bizTag) w.shared.table existing ∧
        HasRoom (q.entry workspaceId bizTag) q.step w.shared.table existing
  | _, _ => True

/-- Every result is a committed segment, and no two results are the same one. -/
structure DatabaseInv (workspaceId bizTag : String) (m : Database) : Prop where
  table : TableInv workspaceId bizTag m.table m.committed
  results : ∀ s ∈ okSegments m.results, s ∈ m.committed
  distinct : (okSegments m.results).Nodup

/-- A call about to return holds a committed segment that is not a result yet. -/
def AllocationInv (m : Database) (_ : ℕ) : Allocation → Prop
  | .releasing _ segment => segment ∈ m.committed ∧ segment ∉ okSegments m.results
  | _ => True

/-- Two calls never hold one segment. -/
def SegmentsDiffer (p p' : Allocation) : Prop :=
  ∀ q q' segment, p = .releasing q segment → p' ≠ .releasing q' segment

variable {workspaceId bizTag : String} {w w' : World Database Allocation} {i : ℕ}
  {m : Database} {p : Allocation}

abbrev AllocationsInv (workspaceId bizTag : String) : World Database Allocation → Prop :=
  World.Inv (DatabaseInv workspaceId bizTag) AllocationInv SegmentsDiffer

theorem segmentsDiffer_comm (p p' : Allocation) (h : SegmentsDiffer p p') :
    SegmentsDiffer p' p := fun q q' s hp hp' => h q' q s hp' hp

theorem segmentsDiffer_of_ne (hp : ∀ q s, p ≠ .releasing q s) (p' : Allocation) :
    SegmentsDiffer p p' := fun q _ s he => absurd he (hp q s)

theorem allocationsInv_empty : AllocationsInv workspaceId bizTag emptyDatabase where
  memory := ⟨tableInv_empty, fun _ hs => absurd hs List.not_mem_nil, List.nodup_nil⟩
  thread _ := trivial
  pair _ _ _ := segmentsDiffer_of_ne (by simp [emptyDatabase]) _

theorem AllocationInv.frame {j : ℕ} {q : Allocation} (h : AllocationInv w.shared j q)
    (hc : ∀ s ∈ w.shared.committed, s ∈ m.committed)
    (hr : okSegments m.results = okSegments w.shared.results) : AllocationInv m j q := by
  cases q with
  | releasing q s =>
    unfold AllocationInv at *
    rw [hr]
    exact ⟨hc s h.1, h.2⟩
  | _ => trivial

/-- Operations that commit nothing and return no segment. -/
theorem quiet_step (h : AllocationsInv workspaceId bizTag w) (hp : ∀ q s, p ≠ .releasing q s)
    (ht : m.table = w.shared.table) (hc : m.committed = w.shared.committed)
    (hr : okSegments m.results = okSegments w.shared.results) :
    AllocationsInv workspaceId bizTag ⟨m, Function.update w.threads i p⟩ := by
  obtain ⟨h1, h2, h3⟩ := h.memory
  refine h.update segmentsDiffer_comm ⟨?_, ?_, ?_⟩ ?_ ?_ fun _ _ _ => segmentsDiffer_of_ne hp _
  · rw [ht, hc]
    exact h1
  · rw [hr, hc]
    exact h2
  · rw [hr]
    exact h3
  · cases p with
    | releasing q s => exact absurd rfl (hp q s)
    | _ => trivial
  · exact fun j _ hj => hj.frame (fun s hs => hc ▸ hs) hr

/-- A segment committed just now was not committed before. -/
theorem TableInv.not_mem {t : SegmentTable} {s : SegmentInfo} {issued : List SegmentInfo}
    (h : TableInv workspaceId bizTag t (s :: issued)) : s ∉ issued := by
  intro hs
  have hdisjoint := (List.pairwise_cons.mp h.disjoint).1 s hs
  have hlt := (h.below s List.mem_cons_self).1
  exact Set.disjoint_left.mp hdisjoint ⟨le_rfl, hlt⟩ ⟨le_rfl, hlt⟩

/-- A write that commits. -/
theorem write_step {q : Request} {existing : Option SegmentRow} {r : SegmentInfo × SegmentTable}
    (h : AllocationsInv workspaceId bizTag w)
    (hr : r = commit (q.entry workspaceId bizTag) q.step w.shared.table existing)
    (hcurrent : Current (q.entry workspaceId bizTag) w.shared.table existing)
    (hroom : HasRoom (q.entry workspaceId bizTag) q.step w.shared.table existing)
    (ht : m.table = r.2) (hc : m.committed = r.1 :: w.shared.committed)
    (hres : okSegments m.results = okSegments w.shared.results)
    (hp : p = .releasing q r.1 ∨ p = .idle) :
    AllocationsInv workspaceId bizTag ⟨m, Function.update w.threads i p⟩ := by
  obtain ⟨h1, h2, h3⟩ := h.memory
  have htable : TableInv workspaceId bizTag r.2 (r.1 :: w.shared.committed) := by
    rw [hr]
    exact h1.commit hcurrent hroom
  have hnew := htable.not_mem
  refine h.update segmentsDiffer_comm ⟨?_, ?_, ?_⟩ ?_ ?_ ?_
  · rw [ht, hc]
    exact htable
  · rw [hres, hc]
    exact fun s hs => List.mem_cons_of_mem _ (h2 s hs)
  · rw [hres]
    exact h3
  · rcases hp with rfl | rfl
    · refine ⟨hc ▸ List.mem_cons_self, ?_⟩
      rw [hres]
      exact fun hs => hnew (h2 r.1 hs)
    · trivial
  · exact fun j _ hj => hj.frame (fun s hs => hc ▸ List.mem_cons_of_mem _ hs) hres
  · rintro j _ - q₁ q₂ s hs hs'
    rcases hp with rfl | rfl
    · cases hs
      have hj := h.thread j
      rw [hs'] at hj
      exact hnew hj.1
    · cases hs

/-- The call returns its segment. -/
theorem release_step {q : Request} {s : SegmentInfo} (h : AllocationsInv workspaceId bizTag w)
    (hp : w.threads i = .releasing q s) (ht : m.table = w.shared.table)
    (hc : m.committed = w.shared.committed)
    (hr : okSegments m.results = s :: okSegments w.shared.results) :
    AllocationsInv workspaceId bizTag ⟨m, Function.update w.threads i .idle⟩ := by
  obtain ⟨h1, h2, h3⟩ := h.memory
  have hcall := h.thread i
  rw [hp] at hcall
  obtain ⟨hmem, hout⟩ := hcall
  refine h.update segmentsDiffer_comm ⟨?_, ?_, ?_⟩ trivial ?_
    fun _ _ _ => segmentsDiffer_of_ne (by simp) _
  · rw [ht, hc]
    exact h1
  · rw [hr, hc]
    intro x hx
    rcases List.mem_cons.mp hx with rfl | hx
    · exact hmem
    · exact h2 x hx
  · rw [hr]
    exact List.nodup_cons.mpr ⟨hout, h3⟩
  · intro j hji hj
    cases hq : w.threads j with
    | releasing q' s' =>
      rw [hq] at hj
      unfold AllocationInv at *
      rw [hr, hc]
      refine ⟨hj.1, fun hs => ?_⟩
      rcases List.mem_cons.mp hs with rfl | hs
      · exact h.pair j i hji q' q s' hq hp
      · exact hj.2 hs
    | _ => trivial

/-- Only the locks change. -/
theorem locks_step (h : AllocationsInv workspaceId bizTag w) (locks : String → LockState) :
    AllocationsInv workspaceId bizTag ⟨{ w.shared with locks := locks }, w.threads⟩ where
  memory := ⟨h.memory.table, h.memory.results, h.memory.distinct⟩
  thread j := (h.thread j).frame (fun _ hs => hs) rfl
  pair := h.pair

/-- **One step.** -/
theorem allocationsInv_step {act : ℕ × AllocateOp} (h : AllocationsInv workspaceId bizTag w)
    (hord : Orderly workspaceId bizTag w act)
    (hstep : World.step (allocateStep workspaceId bizTag) w act = some w') :
    AllocationsInv workspaceId bizTag w' := by
  obtain ⟨i, op⟩ := act
  obtain ⟨m, p, hs, rfl⟩ := World.step_eq_some.mp hstep
  unfold Orderly at hord
  dsimp only at hord
  cases allocateStep_cases hs with
  | giveUp lockKey hleft =>
    rw [Function.update_eq_self]
    exact locks_step h _
  | call q hp hop => exact quiet_step h (by simp) rfl rfl rfl
  | acquire q hp hfree => exact quiet_step h (by simp) rfl rfl rfl
  | refuse q err hp => exact quiet_step h (by simp) rfl rfl rfl
  | read q pick hp => exact quiet_step h (by simp) rfl rfl rfl
  | quit q err hp => exact quiet_step h (by simp) rfl rfl rfl
  | write q existing pick hp hop =>
    rw [hp, hop] at hord
    exact write_step h rfl hord.1 hord.2 rfl rfl rfl (Or.inl rfl)
  | unseen q existing pick err hp hop =>
    rw [hp, hop] at hord
    exact write_step h rfl hord.1 hord.2 rfl rfl rfl (Or.inr rfl)
  | release q segment s hp => exact release_step h hp rfl rfl rfl

/-- **Orderly runs.** Committed segments of one row end later and later, and the segments
returned do not overlap. -/
theorem orderly_segments_disjoint
    (h : Reaches (World.step (allocateStep workspaceId bizTag)) (Orderly workspaceId bizTag)
      emptyDatabase w) :
    ((okSegments w.shared.results).Pairwise fun s s' => Disjoint s.ids s'.ids) ∧
      w.shared.committed.Pairwise fun s s' => s.id = s'.id → s'.maxId < s.maxId := by
  have hinv : AllocationsInv workspaceId bizTag w :=
    h.invariant allocationsInv_empty fun _ _ _ hi hord hs => allocationsInv_step hi hord hs
  obtain ⟨htable, hmem, hnodup⟩ := hinv.memory
  refine ⟨hnodup.pairwise_of_forall_ne fun s hs s' hs' hne => ?_, htable.grows⟩
  have : Std.Symm fun s s' : SegmentInfo => Disjoint s.ids s'.ids := ⟨fun _ _ hd => hd.symm⟩
  exact htable.disjoint.forall (hmem s hs) (hmem s' hs') hne

/-- `allocate_segment_with_dc` for two datacenters, one call while the other is under way. -/
theorem orderly_segments_disjoint_two : ∃ w,
    Reaches (World.step (allocateStep "w" "t")) (Orderly "w" "t") emptyDatabase w ∧
      (okSegments w.shared.results).map (fun s => (s.currentId, s.maxId)) =
        [(1000000000001, 1000000000101), (1, 1001)] ∧
      (okSegments w.shared.results).Pairwise fun s s' => Disjoint s.ids s'.ids := by
  let first := doneCall 0 1000 (by decide)
  let second := doneCall 1 100 (by decide)
  let before := newRow (allocateSegmentWithDc "w" "t" 0) 1000 1
  have hcurrent : ∀ r ∈ [before], (allocateSegmentWithDc "w" "t" 1).selects r = false := by
    intro r hr
    rw [List.mem_singleton.mp hr]
    rfl
  have hroom : ∀ r ∈ [before], r.dcId < 1 → r.currentId ≤ dcStart 1 := by
    intro r hr _
    rw [List.mem_singleton.mp hr]
    decide
  have hreach : Reaches (World.step (allocateStep "w" "t")) (Orderly "w" "t") emptyDatabase _ :=
    Reaches.cons (a := (0, .call first.toRequest)) trivial rfl <|
    Reaches.cons (a := (1, .call second.toRequest)) trivial rfl <|
    Reaches.cons (a := (0, .proceed 0 .done)) trivial rfl <|
    Reaches.cons (a := (1, .proceed 0 .done)) trivial rfl <|
    Reaches.cons (a := (0, .proceed 0 .done)) trivial rfl <|
    Reaches.cons (a := (1, .proceed 0 .done)) trivial rfl <|
    Reaches.cons (a := (0, .proceed 0 .done))
      ⟨fun _ hr => (List.not_mem_nil hr).elim, fun _ hr => (List.not_mem_nil hr).elim⟩ rfl <|
    Reaches.cons (a := (1, .proceed 0 .done)) ⟨hcurrent, hroom⟩ rfl <|
    Reaches.cons (a := (0, .proceed 0 .done)) trivial rfl <|
    Reaches.single (a := (1, .proceed 0 .done)) trivial rfl
  exact ⟨_, hreach, rfl, (orderly_segments_disjoint hreach).1⟩

/-! ## Locks that keep calls apart -/

/-- Calls with different locks look at different rows. -/
def Apart (workspaceId bizTag : String) (Q : Set Request) : Prop :=
  ∀ q ∈ Q, ∀ q' ∈ Q,
    (q.entry workspaceId bizTag).lockKey ≠ (q'.entry workspaceId bizTag).lockKey →
      ∀ r, (q.entry workspaceId bizTag).selects r = true →
        (q'.entry workspaceId bizTag).selects r = false

/-- Only calls of `Q` are made. -/
def Asks (Q : Set Request) (_ : World Database Allocation) (act : ℕ × AllocateOp) : Prop :=
  match act.2 with
  | .call q => q ∈ Q
  | _ => True

theorem apart_allocateSegment : Apart workspaceId bizTag { q | q.dcId = none } := by
  intro q hq q' hq' hne
  unfold Request.entry at hne
  rw [show q.dcId = none from hq, show q'.dcId = none from hq'] at hne
  exact absurd rfl hne

theorem apart_allocateSegmentWithDc : Apart workspaceId bizTag { q | q.dcId ≠ none } := by
  intro q hq q' hq' hne r hr
  obtain ⟨d, hd⟩ := Option.ne_none_iff_exists'.mp hq
  obtain ⟨d', hd'⟩ := Option.ne_none_iff_exists'.mp hq'
  unfold Request.entry at *
  rw [hd, hd'] at hne
  rw [hd] at hr
  rw [hd']
  have hdc : d ≠ d' := fun he => hne (by rw [he])
  simp [allocateSegmentWithDc] at hr ⊢
  intro _ _ he
  exact hdc (hr.2.symm.trans he)

/-- A call inside its lock has the lock, and what it has read is still there. -/
structure InsideInv (workspaceId bizTag : String) (Q : Set Request) (m : Database) (_ : ℕ)
    (p : Allocation) : Prop where
  asked : ∀ q ∈ p.request, q ∈ Q
  held : ∀ q ∈ p.inside, m.locks (q.entry workspaceId bizTag).lockKey = .held
  current : ∀ q existing, p = .writing q existing →
    Current (q.entry workspaceId bizTag) m.table existing ∧
      ∀ r ∈ existing, (q.entry workspaceId bizTag).selects r = true

/-- Two calls inside have different locks. -/
def LocksDiffer (workspaceId bizTag : String) (p p' : Allocation) : Prop :=
  ∀ q ∈ p.inside, ∀ q' ∈ p'.inside,
    (q.entry workspaceId bizTag).lockKey ≠ (q'.entry workspaceId bizTag).lockKey

abbrev LocksInv (workspaceId bizTag : String) (Q : Set Request) :
    World Database Allocation → Prop :=
  World.Inv (fun _ => True) (InsideInv workspaceId bizTag Q) (LocksDiffer workspaceId bizTag)

variable {Q : Set Request} {q : Request}

theorem locksDiffer_comm (p p' : Allocation) (h : LocksDiffer workspaceId bizTag p p') :
    LocksDiffer workspaceId bizTag p' p := fun q hq q' hq' => (h q' hq' q hq).symm

theorem inside_request (h : q ∈ p.inside) : q ∈ p.request := by
  cases p with
  | idle => cases h
  | acquiring _ => cases h
  | _ => exact h

theorem insideInv_idle : InsideInv workspaceId bizTag Q m i .idle where
  asked _ hq := absurd hq (Option.not_mem_none _)
  held _ hq := absurd hq (Option.not_mem_none _)
  current _ _ he := by cases he

/-- A row that another call has written is not one of the rows of a call apart from it. -/
theorem current_commit {t : SegmentTable} {q' : Request} {existing found : Option SegmentRow}
    (hne : ∀ r, (q.entry workspaceId bizTag).selects r = true →
      (q'.entry workspaceId bizTag).selects r = false)
    (hcurrent : Current (q.entry workspaceId bizTag) t existing)
    (hselects : ∀ r ∈ existing, (q.entry workspaceId bizTag).selects r = true)
    (hfound : Current (q'.entry workspaceId bizTag) t found)
    (hselects' : ∀ r ∈ found, (q'.entry workspaceId bizTag).selects r = true) :
    Current (q'.entry workspaceId bizTag)
      (commit (q.entry workspaceId bizTag) q.step t existing).2 found := by
  have hrow : ∀ r id value, (Request.entry q' workspaceId bizTag).selects
      (if r.id = id then { r with currentId := value } else r) =
        (q'.entry workspaceId bizTag).selects r := by
    intro r id value
    split
    · unfold Request.entry
      cases q'.dcId <;> rfl
    · rfl
  cases existing with
  | some r =>
    have hr := hselects r rfl
    cases found with
    | some x =>
      have hxr : x ≠ r := by
        rintro rfl
        have hx := hselects' x rfl
        rw [hne x hr] at hx
        cases hx
      exact SegmentTable.setCurrent_mem_of_ne hcurrent hfound hxr
    | none =>
      intro x hx
      obtain ⟨y, hy, rfl⟩ := List.mem_map.mp hx
      rw [hrow]
      exact hfound y hy
  | none =>
    cases found with
    | some x => exact List.mem_append_left _ hfound
    | none =>
      intro x hx
      rcases List.mem_append.mp hx with hx | hx
      · exact hfound x hx
      · rw [List.mem_singleton.mp hx]
        apply hne
        unfold Request.entry newRow
        cases q.dcId <;> simp [allocateSegment, allocateSegmentWithDc]

/-- The call stays inside or outside of its lock; it may have written. -/
theorem stay_step (h : LocksInv workspaceId bizTag Q w) (hp : InsideInv workspaceId bizTag Q m i p)
    (hinside : p.inside = (w.threads i).inside) (hl : m.locks = w.shared.locks)
    (ht : ∀ j, j ≠ i → ∀ q' found, w.threads j = .writing q' found →
      Current (q'.entry workspaceId bizTag) m.table found) :
    LocksInv workspaceId bizTag Q ⟨m, Function.update w.threads i p⟩ := by
  refine h.update locksDiffer_comm trivial hp ?_ ?_
  · intro j hji hj
    refine ⟨hj.asked, ?_, fun q' found he => ⟨ht j hji q' found he, (hj.current q' found he).2⟩⟩
    rw [hl]
    exact hj.held
  · intro j _ hj
    unfold LocksDiffer at *
    rw [hinside]
    exact hj

/-- The call leaves its lock, free or behind; it may have written before. -/
theorem leave_step {s : LockState} (h : LocksInv workspaceId bizTag Q w)
    (hq : q ∈ (w.threads i).inside)
    (hl : m.locks = Function.update w.shared.locks (q.entry workspaceId bizTag).lockKey s)
    (ht : ∀ j, j ≠ i → ∀ q' found, w.threads j = .writing q' found →
      Current (q'.entry workspaceId bizTag) m.table found) :
    LocksInv workspaceId bizTag Q ⟨m, Function.update w.threads i .idle⟩ := by
  refine h.update locksDiffer_comm trivial insideInv_idle ?_
    fun _ _ _ _ hq' => absurd hq' (Option.not_mem_none _)
  intro j hji hj
  refine ⟨hj.asked, fun q' hq' => ?_, fun q' found he => ⟨ht j hji q' found he, ?_⟩⟩
  · rw [hl, Function.update_of_ne (h.pair i j hji.symm q hq q' hq').symm]
    exact hj.held q' hq'
  · exact (hj.current q' found he).2

/-- What the others have read is still there after a write. -/
theorem others_current {existing : Option SegmentRow} (hQ : Apart workspaceId bizTag Q)
    (h : LocksInv workspaceId bizTag Q w) (hi : w.threads i = .writing q existing) :
    ∀ j, j ≠ i → ∀ q' found, w.threads j = .writing q' found →
      Current (q'.entry workspaceId bizTag)
        (commit (q.entry workspaceId bizTag) q.step w.shared.table existing).2 found := by
  intro j hji q' found hj
  obtain ⟨hcurrent, hselects⟩ := (h.thread i).current q existing hi
  obtain ⟨hfound, hselects'⟩ := (h.thread j).current q' found hj
  have hin : q ∈ (w.threads i).inside := by rw [hi]; rfl
  have hin' : q' ∈ (w.threads j).inside := by rw [hj]; rfl
  have hkeys := h.pair i j hji.symm q hin q' hin'
  have hasked := (h.thread i).asked q (inside_request hin)
  have hasked' := (h.thread j).asked q' (inside_request hin')
  exact current_commit (hQ q hasked q' hasked' hkeys) hcurrent hselects hfound hselects'

theorem locksInv_empty : LocksInv workspaceId bizTag Q emptyDatabase where
  memory := trivial
  thread _ := insideInv_idle
  pair _ _ _ _ hq := absurd hq (Option.not_mem_none _)

/-- The call takes its lock. -/
theorem enter_step (h : LocksInv workspaceId bizTag Q w) (hi : w.threads i = .acquiring q)
    (hfree : w.shared.locks (q.entry workspaceId bizTag).lockKey = .free) :
    LocksInv workspaceId bizTag Q
      ⟨w.shared.setLock (q.entry workspaceId bizTag).lockKey .held,
        Function.update w.threads i (.reading q)⟩ := by
  -- whoever is inside has another lock
  have hother : ∀ j, ∀ q' ∈ (w.threads j).inside,
      (q'.entry workspaceId bizTag).lockKey ≠ (q.entry workspaceId bizTag).lockKey := by
    intro j q' hq' he
    have hheld := (h.thread j).held q' hq'
    rw [he, hfree] at hheld
    cases hheld
  have hasked := (h.thread i).asked
  rw [hi] at hasked
  refine h.update locksDiffer_comm trivial ⟨hasked, ?_, ?_⟩ ?_ ?_
  · intro q' hq'
    cases hq'
    exact Function.update_self _ _ _
  · intro _ _ he
    cases he
  · intro j _ hj
    refine ⟨hj.asked, fun q' hq' => ?_, hj.current⟩
    exact (Function.update_of_ne (hother j q' hq') _ _).trans (hj.held q' hq')
  · intro j _ _ q₁ hq₁ q' hq'
    cases hq₁
    exact (hother j q' hq').symm

/-- A lock that was left behind is nobody's. -/
theorem giveUp_step {lockKey : String} (h : LocksInv workspaceId bizTag Q w)
    (hleft : w.shared.locks lockKey = .left) :
    LocksInv workspaceId bizTag Q ⟨w.shared.setLock lockKey .free, w.threads⟩ where
  memory := trivial
  thread j := by
    have hj := h.thread j
    refine ⟨hj.asked, fun q hq => ?_, hj.current⟩
    have hheld := hj.held q hq
    have hne : (q.entry workspaceId bizTag).lockKey ≠ lockKey := by
      rintro he
      rw [he, hleft] at hheld
      cases hheld
    exact (Function.update_of_ne hne _ _).trans hheld
  pair := h.pair

/-- **One step** of calls that are apart. -/
theorem locksInv_step {act : ℕ × AllocateOp} (hQ : Apart workspaceId bizTag Q)
    (h : LocksInv workspaceId bizTag Q w) (hasks : Asks Q w act)
    (hstep : World.step (allocateStep workspaceId bizTag) w act = some w') :
    LocksInv workspaceId bizTag Q w' := by
  obtain ⟨i, op⟩ := act
  obtain ⟨m, p, hs, rfl⟩ := World.step_eq_some.mp hstep
  have hcall := h.thread i
  have hread : ∀ j, j ≠ i → ∀ q found, w.threads j = .writing q found →
      Current (q.entry workspaceId bizTag) w.shared.table found :=
    fun j _ q found hj => ((h.thread j).current q found hj).1
  cases allocateStep_cases hs with
  | giveUp lockKey hleft =>
    rw [Function.update_eq_self]
    exact giveUp_step h hleft
  | call q hp hop =>
    subst hop
    refine stay_step h ⟨?_, by simp [Allocation.inside], by simp⟩ (by rw [hp]; rfl) rfl hread
    rintro _ ⟨⟩
    exact hasks
  | acquire q hp hfree => exact enter_step h hp hfree
  | refuse q err hp => exact stay_step h insideInv_idle (by rw [hp]; rfl) rfl hread
  | read q pick hp =>
    rw [hp] at hcall
    refine stay_step h ⟨hcall.asked, hcall.held, ?_⟩ (by rw [hp]; rfl) rfl hread
    rintro _ _ ⟨⟩
    exact ⟨current_one _ _ _, fun r hr => (SegmentTable.one_eq_some hr).2⟩
  | quit q err hp => exact leave_step h hp rfl hread
  | write q existing pick hp hop =>
    rw [hp] at hcall
    exact stay_step h ⟨hcall.asked, hcall.held, by simp⟩ (by rw [hp]; rfl) rfl
      (others_current hQ h hp)
  | unseen q existing pick err hp hop =>
    exact leave_step h (q := q) (by rw [hp]; rfl) rfl (others_current hQ h hp)
  | release q segment s hp => exact leave_step h (q := q) (by rw [hp]; rfl) rfl hread

/-- **Calls that are apart** find, when they write, what they have read. -/
theorem apart_current (hQ : Apart workspaceId bizTag Q)
    (h : Reaches (World.step (allocateStep workspaceId bizTag)) (Asks Q) emptyDatabase w)
    {existing : Option SegmentRow} (hi : w.threads i = .writing q existing) :
    Current (q.entry workspaceId bizTag) w.shared.table existing := by
  have hinv : LocksInv workspaceId bizTag Q w :=
    h.invariant locksInv_empty fun _ _ _ hinv hasks hs => locksInv_step hQ hinv hasks hs
  exact ((hinv.thread i).current q existing hi).1

/-! ## Calls that do not overlap -/

/-- A call that nobody disturbs does what `allocate` says, and is orderly if it finds room. -/
theorem allocate_alone {c : Call} {l : Ledger} {threads : ℕ → Allocation}
    (hfree : m.locks (c.entry workspaceId bizTag).lockKey = .free)
    (hroomy : Roomy workspaceId bizTag ⟨m.table, m.results⟩ c)
    (hs : allocate workspaceId bizTag ⟨m.table, m.results⟩ c = some l) :
    ∃ m', Reaches (World.step (allocateStep workspaceId bizTag)) (Orderly workspaceId bizTag)
      ⟨m, Function.update threads i .idle⟩ ⟨m', Function.update threads i .idle⟩ ∧
      m'.table = l.table ∧ m'.results = l.results := by
  have hcall : allocateStep workspaceId bizTag i (.call c.toRequest) m .idle =
      some (m, .acquiring c.toRequest) := rfl
  have hacquire : allocateStep workspaceId bizTag i (.proceed 0 .done) m
      (.acquiring c.toRequest) = some (m.setLock (c.entry workspaceId bizTag).lockKey .held,
        .reading c.toRequest) := if_pos hfree
  have hread : allocateStep workspaceId bizTag i (.proceed c.pick .done)
      (m.setLock (c.entry workspaceId bizTag).lockKey .held) (.reading c.toRequest) =
        some (m.setLock (c.entry workspaceId bizTag).lockKey .held, .writing c.toRequest
          (m.table.one (c.entry workspaceId bizTag).selects c.pick)) := rfl
  have hstart : Reaches (World.step (allocateStep workspaceId bizTag))
      (Orderly workspaceId bizTag) ⟨m, Function.update threads i .idle⟩
      ⟨m.setLock (c.entry workspaceId bizTag).lockKey .held, Function.update threads i
        (.writing c.toRequest (m.table.one (c.entry workspaceId bizTag).selects c.pick))⟩ :=
    ((World.reaches_step (by simp [Orderly]) hcall).trans
      (World.reaches_step (by simp [Orderly]) hacquire)).trans
      (World.reaches_step (by simp [Orderly]) hread)
  have hcurrent := current_one (c.entry workspaceId bizTag) m.table c.pick
  unfold allocate at hs
  unfold Roomy at hroomy
  cases hout : c.outcome with
  | done =>
    rw [hout] at hs hroomy
    cases hs
    refine ⟨_, (hstart.trans (World.reaches_step (a := .proceed 0 .done) ?_ rfl)).trans
      (World.reaches_step (a := .proceed 0 .done) ?_ rfl), rfl, rfl⟩
    · simpa [Orderly] using ⟨hcurrent, hroomy⟩
    · simp [Orderly]
  | rolledBack err =>
    rw [hout] at hs
    cases hs
    have hwrite : allocateStep workspaceId bizTag i (.proceed 0 (.rolledBack err))
        (m.setLock (c.entry workspaceId bizTag).lockKey .held) (.writing c.toRequest
          (m.table.one (c.entry workspaceId bizTag).selects c.pick)) =
        some (((m.setLock (c.entry workspaceId bizTag).lockKey .held).setLock
          (c.entry workspaceId bizTag).lockKey .left).fail err, .idle) := rfl
    exact ⟨_, hstart.trans (World.reaches_step (by simp [Orderly]) hwrite), rfl, rfl⟩
  | unseen err =>
    rw [hout] at hs hroomy
    cases hs
    refine ⟨_, hstart.trans (World.reaches_step (a := .proceed 0 (.unseen err)) ?_ rfl),
      rfl, rfl⟩
    simpa [Orderly] using ⟨hcurrent, hroomy⟩

end NebulaId
