import Mathlib
import NebulaId.Machine.Crowd
import NebulaId.Segment.Datacenters

/-!
# Loads from a datacenter that is down (`core/algorithm/segment.rs`)

A load of `DatabaseSegmentLoader` selects a datacenter, allocates its segment there and records the
result. Any number of loads and of looks of `check_recovery` are at work on one detector, and each
read or write of a field of a record is a step of its own.

* `Tally`: what counts about a datacenter that is down.
* `Tally.Ok.move`: the failures stay within a budget, to which every look that lets the datacenter
  back in adds.
* `failures_of_down_dc`: how many loads a datacenter that is down can fail.
* `slow_mark_lets_in`: a late write of `Degraded` lets it back in without a look.
-/

namespace NebulaId

namespace SegmentLoads

open Machine

/-- A load, or what `check_recovery` does about one datacenter. -/
inductive LoadRequest where
  | load (preferredDc : UInt8)
  | check (dcId : UInt8)

/-- How far a load or a check has come. -/
inductive LoadTask where
  | selecting (preferredDc : UInt8)
  | listing (preferredDc : UInt8)
  | finding (dcId : UInt8)
  | allocating (dcId : UInt8) (known : Bool)
  | counting (dcId : UInt8)
  | marking (dcId : UInt8) (failed : Bool)
  | stamping (dcId : UInt8)
  | resetting (dcId : UInt8)
  | reading (dcId : UInt8)
  | healing (dcId : UInt8)
  | checking (dcId : UInt8)
  | judging (dcId : UInt8) (now : ℕ)
  | aging (dcId : UInt8) (now : ℕ)
  | reopening (dcId : UInt8)
  | done
  deriving DecidableEq

/-- `listed` brings the keys of the map in the order of its iteration, `allocated` the answer of the
repository; a load may be dropped while it waits for it. -/
inductive LoadInput where
  | proceed
  | listed (keys : List UInt8)
  | allocated (ok : Bool)
  | dropped

inductive LoadPass where
  | advance (duration : ℕ)
  | addDc (dcId : UInt8)

/-- The detector and the clock. For each datacenter `failures` counts the failures that have been
recorded, `reopened` the times a check has let it back in, and `slips` the times a write of
`Degraded` by a failure has. -/
structure Loader where
  detector : DcFailureDetector
  now : ℕ
  failures : UInt8 → ℕ
  reopened : UInt8 → ℕ
  slips : UInt8 → ℕ

namespace Loader

def new (detector : DcFailureDetector) (now : ℕ) : Loader :=
  ⟨detector, now, fun _ => 0, fun _ => 0, fun _ => 0⟩

def put (s : Loader) (dcId : UInt8) (state : DcHealthState) : Loader :=
  { s with detector := s.detector.setState dcId state }

/-- `consecutive_failures.fetch_add` and what it decides. -/
def count (s : Loader) (dcId : UInt8) (state : DcHealthState) : Loader × LoadTask :=
  let consecutive := state.consecutiveFailures + 1
  let s := s.put dcId { state with
    failureCount := state.failureCount + 1, consecutiveFailures := consecutive }
  ({ s with failures := Function.update s.failures dcId (s.failures dcId + 1) },
    if 5 ≤ consecutive then .marking dcId true
    else if 3 ≤ consecutive then .marking dcId false else .done)

/-- `set_status` in `record_failure` -/
def mark (s : Loader) (dcId : UInt8) (state : DcHealthState) (failed : Bool) : Loader :=
  let slip := !failed && state.status == .failed
  let s := s.put dcId { state with status := if failed then .failed else .degraded }
  if slip then { s with slips := Function.update s.slips dcId (s.slips dcId + 1) } else s

/-- `set_status` in `check_recovery` -/
def reopen (s : Loader) (dcId : UInt8) (state : DcHealthState) : Loader :=
  let s := s.put dcId { state with status := .degraded }
  { s with reopened := Function.update s.reopened dcId (s.reopened dcId + 1) }

/-- One step of a load or of a check. -/
def move : LoadInput → Loader → LoadTask → Option (Loader × LoadTask)
  | .proceed, s, .selecting preferredDc =>
    some (s, if s.detector.uses preferredDc then .finding preferredDc else .listing preferredDc)
  | .listed keys, s, .listing preferredDc =>
    some (s, .finding ((keys.filter s.detector.uses).headD preferredDc))
  | .proceed, s, .finding dcId => some (s, .allocating dcId (s.detector.dcStates dcId).isSome)
  | .allocated ok, s, .allocating dcId known =>
    some (s, if known then if ok then .stamping dcId else .counting dcId else .done)
  | .dropped, s, .allocating _ _ => some (s, .done)
  | .proceed, s, .counting dcId => (s.detector.dcStates dcId).map (s.count dcId)
  | .proceed, s, .marking dcId failed => (s.detector.dcStates dcId).map fun state =>
    (s.mark dcId state failed, .done)
  | .proceed, s, .stamping dcId => (s.detector.dcStates dcId).map fun state =>
    (s.put dcId { state with lastSuccess := s.now }, .resetting dcId)
  | .proceed, s, .resetting dcId => (s.detector.dcStates dcId).map fun state =>
    (s.put dcId { state with consecutiveFailures := 0 }, .reading dcId)
  | .proceed, s, .reading dcId => (s.detector.dcStates dcId).map fun state =>
    (s, if state.status = .healthy then .done else .healing dcId)
  | .proceed, s, .healing dcId => (s.detector.dcStates dcId).map fun state =>
    (s.put dcId { state with status := .healthy }, .done)
  | .proceed, s, .checking dcId => some (s, .judging dcId s.now)
  | .proceed, s, .judging dcId now => (s.detector.dcStates dcId).map fun state =>
    (s, if state.status = .failed then .aging dcId now else .done)
  | .proceed, s, .aging dcId now => (s.detector.dcStates dcId).map fun state =>
    (s, if s.detector.recoveryTimeout < now - state.lastSuccess then .reopening dcId else .done)
  | .proceed, s, .reopening dcId => (s.detector.dcStates dcId).map fun state =>
    (s.reopen dcId state, .done)
  | _, _, _ => none

def pass : LoadPass → Loader → Loader
  | .advance duration, s => { s with now := s.now + duration }
  | .addDc dcId, s => { s with detector := s.detector.addDc s.now dcId }

end Loader

abbrev LoaderCrowd := Crowd Loader LoadTask

def program : Program Loader LoadTask LoadRequest LoadInput LoadPass where
  start
    | .load preferredDc => .selecting preferredDc
    | .check dcId => .checking dcId
  step := Loader.move
  pass := Loader.pass

namespace LoadTask

/-- A load that is not over. -/
def isLoad : LoadTask → Bool
  | .selecting _ | .listing _ | .finding _ | .allocating _ _ | .counting _ | .marking _ _
  | .stamping _ | .resetting _ | .reading _ | .healing _ => true
  | _ => false

/-- The load has selected the datacenter and no result is recorded. -/
def heads (p : UInt8) : LoadTask → Bool
  | .finding dcId | .allocating dcId _ | .counting dcId => dcId == p
  | _ => false

/-- The load is about to mark the datacenter failed, or may come to that. -/
def presses (p : UInt8) : LoadTask → Bool
  | .marking dcId failed => failed && dcId == p
  | t => t.heads p

/-- The load is about to mark the datacenter degraded. -/
def degrades (p : UInt8) : LoadTask → Bool
  | .marking dcId failed => !failed && dcId == p
  | _ => false

end LoadTask

/-- The repository never allocates for `p` and always does for `q`. -/
def Answers (p q : UInt8) : LoadTask → LoadInput → Prop
  | .allocating dcId _, .allocated ok => (dcId = p → ok = false) ∧ (dcId = q → ok = true)
  | _, _ => True

/-- The list has the keys of the map, each once. -/
def Lists (s : Loader) : LoadInput → Prop
  | .listed keys => keys.Nodup ∧ ∀ dcId, dcId ∈ keys ↔ (s.detector.dcStates dcId).isSome
  | _ => True

/-- The datacenter `p` is down, `q` is not, and at most `bound` loads are at work. -/
def Down (p q : UInt8) (bound : ℕ) (w : LoaderCrowd) :
    CrowdAct LoadRequest LoadInput LoadPass → Prop
  | .spawn (.load _) => w.tasks.countP LoadTask.isLoad < bound
  | .move i input => Lists w.shared input ∧ ∀ t, w.tasks[i]? = some t → Answers p q t input
  | _ => True

instance (p q : UInt8) : ∀ t input, Decidable (Answers p q t input)
  | .allocating dcId _, .allocated ok =>
    inferInstanceAs (Decidable ((dcId = p → ok = false) ∧ (dcId = q → ok = true)))
  | .allocating _ _, .proceed | .allocating _ _, .listed _ | .allocating _ _, .dropped
  | .selecting _, _ | .listing _, _ | .finding _, _ | .counting _, _ | .marking _ _, _
  | .stamping _, _ | .resetting _, _ | .reading _, _ | .healing _, _ | .checking _, _
  | .judging _ _, _ | .aging _ _, _ | .reopening _, _ | .done, _ => .isTrue trivial

theorem lists_iff (s : Loader) (keys : List UInt8) : Lists s (.listed keys) ↔
    keys.Nodup ∧ (∀ dcId ∈ keys, (s.detector.dcStates dcId).isSome) ∧
      ∀ n < 256, (s.detector.dcStates (.ofNat n)).isSome → .ofNat n ∈ keys := by
  refine and_congr_right fun _ => ⟨fun h => ⟨fun dcId => (h dcId).mp, fun n _ => (h _).mpr⟩,
    fun h dcId => ⟨h.1 dcId, fun hsome => ?_⟩⟩
  rw [← UInt8.ofNat_toNat (x := dcId)] at hsome ⊢
  exact h.2 _ dcId.toNat_lt hsome

instance (s : Loader) : ∀ input, Decidable (Lists s input)
  | .listed keys => decidable_of_iff _ (lists_iff s keys).symm
  | .proceed | .allocated _ | .dropped => .isTrue trivial

instance (p q : UInt8) (bound : ℕ) (w : LoaderCrowd) : ∀ act, Decidable (Down p q bound w act)
  | .spawn (.load _) => inferInstanceAs (Decidable (w.tasks.countP LoadTask.isLoad < bound))
  | .move i input => inferInstanceAs
    (Decidable (Lists w.shared input ∧ ∀ t ∈ w.tasks[i]?, Answers p q t input))
  | .spawn (.check _) | .pass _ => .isTrue trivial

/-! ## The budget -/

/-- What counts about a datacenter. -/
@[ext]
structure Tally where
  failed : Bool
  failures : ℕ
  reopened : ℕ
  slips : ℕ
  heading : ℕ
  pressing : ℕ
  degrading : ℕ

namespace Tally

/-- What one step can do. -/
inductive Move (T T' : Tally) : Prop
  | idle (h : T' = T)
  | selects (hopen : T.failed = false)
      (h : T' = { T with heading := T.heading + 1, pressing := T.pressing + 1 })
  | leaves (h : T = { T' with heading := T'.heading + 1, pressing := T'.pressing + 1 })
  | counts (failed degraded : ℕ) (hfailed : failed = if 4 ≤ T.failures then 1 else 0)
      (hdegraded : degraded = if 2 ≤ T.failures ∧ T.failures < 4 then 1 else 0)
      (hheading : T.heading = T'.heading + 1)
      (h : T' = { T with
        failures := T.failures + 1, heading := T'.heading, pressing := T'.pressing,
        degrading := T.degrading + degraded })
      (hpressing : T'.pressing + 1 = T.pressing + failed)
  | fails (hpressing : T.pressing = T'.pressing + 1)
      (h : T' = { T with failed := true, pressing := T'.pressing })
  | degrades (hdegrading : T.degrading = T'.degrading + 1)
      (h : T' = { T with
        failed := false, slips := T.slips + T.failed.toNat, degrading := T'.degrading })
  | reopens (h : T' = { T with failed := false, reopened := T.reopened + 1 })

/-- A load that heads for the datacenter can still press, and there are not too many of them. -/
structure Fits (bound : ℕ) (T : Tally) : Prop where
  heading : T.heading ≤ T.pressing
  pressing : T.pressing ≤ bound

/-- While the datacenter is shut, the loads that head for it are paid for; while it is open, those
that can still press are not. -/
structure Ok (bound : ℕ) (T : Tally) : Prop where
  shut : T.failed = true →
    T.failures + T.heading ≤ 4 + bound * (T.reopened + T.slips) + bound
  unshut : T.failed = false →
    T.failures + T.heading ≤ 4 + bound * (T.reopened + T.slips) + T.pressing
  slips : T.slips + T.degrading ≤ min T.failures 4 - 2

variable {T T' : Tally} {bound : ℕ}

theorem Ok.failures_le (h : T.Ok bound) (hfits : T.Fits bound) :
    T.failures + T.heading ≤ 4 + bound * (T.reopened + T.slips) + bound := by
  cases hfailed : T.failed with
  | true => exact h.shut hfailed
  | false =>
    have hopen := h.unshut hfailed
    have hpressing := hfits.pressing
    omega

/-- The datacenter has been let back in. -/
theorem Ok.opened (h : T.Ok bound) (hfits : T.Fits bound) (hfailed : T'.failed = false)
    (hfailures : T'.failures = T.failures) (hheading : T'.heading = T.heading)
    (hmore : T'.reopened + T'.slips = T.reopened + T.slips + 1)
    (hslips : T'.slips + T'.degrading ≤ T.slips + T.degrading) : T'.Ok bound := by
  have hbudget := h.failures_le hfits
  have hpaid := h.slips
  refine ⟨fun h => ?_, fun _ => ?_, ?_⟩
  · rw [hfailed] at h
    cases h
  · rw [hmore, Nat.mul_succ]
    omega
  · omega

/-- **One step** keeps within the budget. -/
theorem Ok.move (h : T.Ok bound) (hfits : T.Fits bound) (hmove : T.Move T')
    (hfits' : T'.Fits bound) : T'.Ok bound := by
  have hbudget := h.failures_le hfits
  have hshut := h.shut
  have hunshut := h.unshut
  have hslips := h.slips
  cases hmove with
  | idle h' => exact h' ▸ h
  | selects hopen h' =>
    subst h'
    have := hunshut hopen
    refine ⟨fun h => ?_, fun _ => ?_, hslips⟩
    · rw [hopen] at h
      cases h
    · dsimp only
      omega
  | leaves h' =>
    rw [h'] at hshut hunshut hslips
    dsimp only at hshut hunshut hslips
    refine ⟨fun h => ?_, fun h => ?_, hslips⟩
    · have := hshut h
      omega
    · have := hunshut h
      omega
  | counts failed degraded hfailed hdegraded hheading h' hpressing =>
    rw [h'] at hfits' ⊢
    have hfit := hfits'.heading
    dsimp only at hfit
    refine ⟨fun h => ?_, fun h => ?_, ?_⟩ <;> dsimp only
    · have := hshut h
      omega
    · have := hunshut h
      -- below five failures the four free ones still cover them
      split at hfailed <;> omega
    · split at hdegraded <;> omega
  | fails hpressing h' =>
    rw [h']
    exact ⟨fun _ => hbudget, fun h => (nomatch h), hslips⟩
  | degrades hdegrading h' =>
    rw [h']
    cases hfailed : T.failed with
    | true =>
      refine h.opened hfits rfl rfl rfl rfl ?_
      rw [Bool.toNat_true]
      dsimp only
      omega
    | false =>
      refine ⟨fun h => (nomatch h), fun _ => hunshut hfailed, ?_⟩
      rw [Bool.toNat_false]
      dsimp only
      omega
  | reopens h' =>
    subst h'
    exact h.opened hfits rfl rfl rfl (Nat.add_right_comm _ _ _) (Nat.le_refl _)

end Tally

/-! ## The tally of a datacenter -/

/-- The datacenter is marked failed. -/
def Loader.failedAt (s : Loader) (p : UInt8) : Bool :=
  (s.detector.dcStates p).any fun state => state.status == .failed

def tally (p : UInt8) (w : LoaderCrowd) : Tally where
  failed := w.shared.failedAt p
  failures := w.shared.failures p
  reopened := w.shared.reopened p
  slips := w.shared.slips p
  heading := w.tasks.countP (LoadTask.heads p)
  pressing := w.tasks.countP (LoadTask.presses p)
  degrading := w.tasks.countP (LoadTask.degrades p)

/-- What a task may be, when no load succeeds at `p` and none fails at `q`. -/
def LoadTask.Fine (p q : UInt8) : LoadTask → Prop
  | .stamping dcId | .resetting dcId | .reading dcId | .healing dcId => dcId ≠ p
  | .counting dcId | .marking dcId _ => dcId ≠ q
  | _ => True

/-- The record of `p` counts its failures. -/
def Loader.Counts (s : Loader) (p : UInt8) : Prop :=
  ∃ state ∈ s.detector.dcStates p, state.consecutiveFailures = .ofNat (s.failures p)

structure Kept (p q : UInt8) (bound : ℕ) (w : LoaderCrowd) : Prop where
  counts : w.shared.Counts p
  usable : w.shared.detector.uses q = true
  fine : ∀ t ∈ w.tasks, t.Fine p q
  room : w.tasks.countP LoadTask.isLoad ≤ bound

variable {w w' : LoaderCrowd} {p q : UInt8} {bound i : ℕ} {t t' : LoadTask} {s s' : Loader}
  {state : DcHealthState}

theorem presses_of_heads (h : t.heads p = true) : t.presses p = true := by
  cases t <;> first | exact h | cases h

theorem isLoad_of_presses (h : t.presses p = true) : t.isLoad = true := by
  cases t <;> first | rfl | cases h

theorem Kept.fits (h : Kept p q bound w) : (tally p w).Fits bound where
  heading := List.countP_mono_left fun _ _ => presses_of_heads
  pressing := (List.countP_mono_left fun _ _ => isLoad_of_presses).trans h.room

/-- A task moves, and the counts with it. -/
theorem tally_set (hp : w.tasks[i]? = some t) (s : Loader) (t' : LoadTask) :
    (tally p ⟨s, w.tasks.set i t'⟩).heading + (if t.heads p then 1 else 0) =
        (tally p w).heading + (if t'.heads p then 1 else 0) ∧
      (tally p ⟨s, w.tasks.set i t'⟩).pressing + (if t.presses p then 1 else 0) =
        (tally p w).pressing + (if t'.presses p then 1 else 0) ∧
      (tally p ⟨s, w.tasks.set i t'⟩).degrading + (if t.degrades p then 1 else 0) =
        (tally p w).degrading + (if t'.degrades p then 1 else 0) :=
  ⟨Crowd.countP_set_add _ hp, Crowd.countP_set_add _ hp, Crowd.countP_set_add _ hp⟩

/-! ## Steps -/

namespace Loader

theorem put_self : (s.put p state).detector.dcStates p = some state :=
  DcFailureDetector.setState_self _

theorem put_of_ne (h : p ≠ q) : (s.put q state).detector.dcStates p = s.detector.dcStates p :=
  DcFailureDetector.setState_of_ne _ h

theorem failedAt_of_some (h : s.detector.dcStates p = some state) :
    s.failedAt p = (state.status == .failed) := by
  rw [failedAt, h, Option.any_some]

theorem uses_of_some (h : s.detector.dcStates p = some state) :
    s.detector.uses p = (state.status != .failed) := by
  rw [DcFailureDetector.uses, h, Option.any_some, DcHealthState.shouldUseDc]

theorem failedAt_of_uses (h : s.detector.uses p = true) : s.failedAt p = false := by
  obtain ⟨state, hstate, huse⟩ := (Option.any_eq_true _ _).mp h
  rw [failedAt_of_some hstate]
  exact beq_false_of_ne (bne_iff_ne.mp huse)

/-- Nothing that counts about `p` has changed. -/
structure Same (p : UInt8) (s s' : Loader) : Prop where
  failed : s'.failedAt p = s.failedAt p
  failures : s'.failures p = s.failures p
  reopened : s'.reopened p = s.reopened p
  slips : s'.slips p = s.slips p
  counts : s.Counts p → s'.Counts p

theorem Same.refl (p : UInt8) (s : Loader) : Same p s s := ⟨rfl, rfl, rfl, rfl, id⟩

/-- A write to the record of another datacenter. -/
theorem Same.of_ne (hstates : s'.detector.dcStates p = s.detector.dcStates p)
    (hfailures : s'.failures p = s.failures p) (hreopened : s'.reopened p = s.reopened p)
    (hslips : s'.slips p = s.slips p) : Same p s s' where
  failed := by rw [failedAt, failedAt, hstates]
  failures := hfailures
  reopened := hreopened
  slips := hslips
  counts h := by rwa [Counts, hstates, hfailures]

end Loader

theorem tally_idle (hp : w.tasks[i]? = some t) (hsame : w.shared.Same p s)
    (hheads : t'.heads p = t.heads p) (hpresses : t'.presses p = t.presses p)
    (hdegrades : t'.degrades p = t.degrades p) :
    (tally p w).Move (tally p ⟨s, w.tasks.set i t'⟩) := by
  obtain ⟨hheading, hpressing, hdegrading⟩ := tally_set (p := p) hp s t'
  rw [hheads] at hheading
  rw [hpresses] at hpressing
  rw [hdegrades] at hdegrading
  exact .idle (Tally.ext hsame.failed hsame.failures hsame.reopened hsame.slips
    (Nat.add_right_cancel hheading) (Nat.add_right_cancel hpressing)
    (Nat.add_right_cancel hdegrading))

/-- A list of the keys has one that can be used, and the load takes such a one. -/
theorem uses_listed {keys : List UInt8} (hlists : Lists s (.listed keys))
    (huses : s.detector.uses q = true) (preferredDc : UInt8) :
    s.detector.uses ((keys.filter s.detector.uses).headD preferredDc) = true := by
  have hq : q ∈ keys.filter s.detector.uses := by
    refine List.mem_filter.mpr ⟨(hlists.2 q).mpr ?_, huses⟩
    obtain ⟨state, hstate, -⟩ := (Option.any_eq_true _ _).mp huses
    exact Option.isSome_of_mem hstate
  cases hkeys : keys.filter s.detector.uses with
  | nil =>
    rw [hkeys] at hq
    cases hq
  | cons first rest =>
    have hfirst : first ∈ keys.filter s.detector.uses := hkeys ▸ List.mem_cons_self
    exact (List.mem_filter.mp hfirst).2

/-- What a step leaves behind. -/
structure Stepped (p q : UInt8) (w : LoaderCrowd) (i : ℕ) (s : Loader) (t' : LoadTask) :
    Prop where
  move : (tally p w).Move (tally p ⟨s, w.tasks.set i t'⟩)
  counts : s.Counts p
  usable : s.detector.uses q = true
  fine : t'.Fine p q

/-- A step that only reads. -/
theorem Stepped.read (h : Kept p q bound w) (hp : w.tasks[i]? = some t)
    (hheads : t'.heads p = t.heads p) (hpresses : t'.presses p = t.presses p)
    (hdegrades : t'.degrades p = t.degrades p) (hfine : t'.Fine p q) :
    Stepped p q w i w.shared t' :=
  ⟨tally_idle hp (.refl p _) hheads hpresses hdegrades, h.counts, h.usable, hfine⟩

/-- A load takes a datacenter that can be used. -/
theorem Stepped.selects {dcId : UInt8} (h : Kept p q bound w) (hp : w.tasks[i]? = some t)
    (hheads : t.presses p = false) (hdegrades : t.degrades p = false)
    (huses : w.shared.detector.uses dcId = true) :
    Stepped p q w i w.shared (.finding dcId) := by
  have hheads' : t.heads p = false := by
    cases hhead : t.heads p with
    | false => rfl
    | true => rw [presses_of_heads hhead] at hheads; cases hheads
  by_cases hdc : dcId = p
  · subst hdc
    obtain ⟨hheading, hpressing, hdegrading⟩ := tally_set (p := dcId) hp w.shared (.finding dcId)
    refine ⟨.selects (Loader.failedAt_of_uses huses) ?_, h.counts, h.usable, trivial⟩
    rw [hheads'] at hheading
    rw [hheads] at hpressing
    rw [hdegrades] at hdegrading
    simp [LoadTask.heads, LoadTask.presses, LoadTask.degrades] at hheading hpressing hdegrading
    exact Tally.ext rfl rfl rfl rfl hheading hpressing hdegrading
  · have hne : (dcId == p) = false := beq_false_of_ne hdc
    exact .read h hp (by rw [hheads']; exact hne) (by rw [hheads]; exact hne)
      (by rw [hdegrades]; rfl) trivial

/-- A load gives up. -/
theorem Stepped.leaves {dcId : UInt8} {known : Bool} (h : Kept p q bound w)
    (hp : w.tasks[i]? = some (.allocating dcId known)) : Stepped p q w i w.shared .done := by
  by_cases hdc : dcId = p
  · subst hdc
    obtain ⟨hheading, hpressing, hdegrading⟩ := tally_set (p := dcId) hp w.shared .done
    refine ⟨.leaves ?_, h.counts, h.usable, trivial⟩
    simp [LoadTask.heads, LoadTask.presses, LoadTask.degrades] at hheading hpressing hdegrading
    exact Tally.ext rfl rfl rfl rfl hheading.symm hpressing.symm hdegrading.symm
  · have hne : (dcId == p) = false := beq_false_of_ne hdc
    exact .read h hp hne.symm hne.symm rfl trivial

/-- A write to a record other than that of `p`. -/
theorem Stepped.other {dcId : UInt8} {old new : DcHealthState} (h : Kept p q bound w)
    (hp : w.tasks[i]? = some t) (hdc : dcId ≠ p)
    (hold : w.shared.detector.dcStates dcId = some old)
    (hstates : s.detector.dcStates = (w.shared.put dcId new).detector.dcStates)
    (hsame : s.failures p = w.shared.failures p ∧ s.reopened p = w.shared.reopened p ∧
      s.slips p = w.shared.slips p)
    (hstatus : dcId = q → old.status ≠ .failed → new.status ≠ .failed)
    (hheads : t'.heads p = t.heads p) (hpresses : t'.presses p = t.presses p)
    (hdegrades : t'.degrades p = t.degrades p) (hfine : t'.Fine p q) :
    Stepped p q w i s t' := by
  have hkept : w.shared.Same p s := by
    refine .of_ne ?_ hsame.1 hsame.2.1 hsame.2.2
    rw [hstates, Loader.put_of_ne hdc.symm]
  refine ⟨tally_idle hp hkept hheads hpresses hdegrades, hkept.counts h.counts, ?_, hfine⟩
  have husable := h.usable
  rw [DcFailureDetector.uses, hstates]
  by_cases hq : q = dcId
  · subst hq
    rw [Loader.uses_of_some hold, bne_iff_ne] at husable
    rw [Loader.put_self, Option.any_some, DcHealthState.shouldUseDc, bne_iff_ne]
    exact hstatus rfl husable
  · rw [Loader.put_of_ne hq]
    exact husable

/-- A write to the record of `p` leaves that of `q` alone. -/
theorem uses_of_put (h : Kept p q bound w) (hpq : p ≠ q) {new : DcHealthState}
    (hstates : s.detector.dcStates = (w.shared.put p new).detector.dcStates) :
    s.detector.uses q = true := by
  rw [DcFailureDetector.uses, hstates, Loader.put_of_ne hpq.symm]
  exact h.usable

/-- The counter decides by the number of failures so far. -/
theorem count_next {state : DcHealthState} (dcId : UInt8)
    (hcounter : state.consecutiveFailures = .ofNat (s.failures p))
    (hlt : s.failures p + 1 < 2 ^ 64) :
    (s.count dcId state).2 = if 5 ≤ s.failures p + 1 then .marking dcId true
      else if 3 ≤ s.failures p + 1 then .marking dcId false else .done := by
  have hnext : (state.consecutiveFailures + 1).toNat = s.failures p + 1 := by
    rw [hcounter, show (1 : UInt64) = .ofNat 1 from rfl, ← UInt64.ofNat_add, UInt64.toNat_ofNat']
    exact Nat.mod_eq_of_lt hlt
  have hle : ∀ n : UInt64, n ≤ state.consecutiveFailures + 1 ↔ n.toNat ≤ s.failures p + 1 := by
    intro n
    rw [UInt64.le_iff_toNat_le, hnext]
  simp only [Loader.count, hle]
  rfl

/-- One more failure, as the tally sees it. -/
theorem tally_counts (hp : w.tasks[i]? = some (.counting p))
    (hfailed : s.failedAt p = w.shared.failedAt p)
    (hsucc : s.failures p = w.shared.failures p + 1)
    (hreopened : s.reopened p = w.shared.reopened p) (hslips : s.slips p = w.shared.slips p)
    (hnext : t' = if 5 ≤ w.shared.failures p + 1 then .marking p true
      else if 3 ≤ w.shared.failures p + 1 then .marking p false else .done) :
    (tally p w).Move (tally p ⟨s, w.tasks.set i t'⟩) := by
  obtain ⟨hheading, hpressing, hdegrading⟩ := tally_set (p := p) hp s t'
  have hmove (failed degraded : ℕ)
      (hfailed' : failed = if 4 ≤ w.shared.failures p then 1 else 0)
      (hdegraded : degraded = if 2 ≤ w.shared.failures p ∧ w.shared.failures p < 4 then 1 else 0)
      (hheading : (tally p ⟨s, w.tasks.set i t'⟩).heading + 1 = (tally p w).heading)
      (hpressing : (tally p ⟨s, w.tasks.set i t'⟩).pressing + 1 = (tally p w).pressing + failed)
      (hdegrading : (tally p ⟨s, w.tasks.set i t'⟩).degrading = (tally p w).degrading + degraded) :
      (tally p w).Move (tally p ⟨s, w.tasks.set i t'⟩) :=
    .counts failed degraded hfailed' hdegraded hheading.symm
      (Tally.ext hfailed hsucc hreopened hslips rfl rfl hdegrading) hpressing
  split at hnext
  · subst hnext
    simp [LoadTask.heads, LoadTask.presses, LoadTask.degrades] at hheading hpressing hdegrading
    exact hmove 1 0 (if_pos (by omega)).symm (if_neg (by omega)).symm hheading (by omega)
      hdegrading
  · split at hnext
    · subst hnext
      simp [LoadTask.heads, LoadTask.presses, LoadTask.degrades] at hheading hpressing hdegrading
      exact hmove 0 1 (if_neg (by omega)).symm (if_pos (by omega)).symm hheading hpressing
        hdegrading
    · subst hnext
      simp [LoadTask.heads, LoadTask.presses, LoadTask.degrades] at hheading hpressing hdegrading
      exact hmove 0 0 (if_neg (by omega)).symm (if_neg (by omega)).symm hheading hpressing
        hdegrading

/-- A load counts its failure. -/
theorem Stepped.counting {dcId : UInt8} (h : Kept p q bound w) (hpq : p ≠ q)
    (hp : w.tasks[i]? = some (.counting dcId))
    (hlt : w.shared.failures p + (tally p w).heading < 2 ^ 64)
    (hstate : w.shared.detector.dcStates dcId = some state) :
    Stepped p q w i (w.shared.count dcId state).1 (w.shared.count dcId state).2 := by
  have hdq : dcId ≠ q := h.fine _ (List.mem_of_getElem? hp)
  by_cases hdc : dcId = p
  · subst hdc
    obtain ⟨state', hstate', hcounter⟩ := h.counts
    cases hstate.symm.trans hstate'
    have hone : 1 ≤ (tally dcId w).heading :=
      List.countP_pos_iff.mpr ⟨_, List.mem_of_getElem? hp, beq_self_eq_true _⟩
    have hnext := count_next dcId hcounter (by omega)
    have hnew : (w.shared.count dcId state).1.detector.dcStates dcId = some
        { state with
          failureCount := state.failureCount + 1
          consecutiveFailures := state.consecutiveFailures + 1 } := Loader.put_self
    have hsucc : (w.shared.count dcId state).1.failures dcId = w.shared.failures dcId + 1 :=
      Function.update_self _ _ _
    refine ⟨tally_counts hp ?_ hsucc rfl rfl hnext, ?_, uses_of_put h hpq rfl, ?_⟩
    · rw [Loader.failedAt_of_some hstate, Loader.failedAt_of_some hnew]
    · refine ⟨_, hnew, ?_⟩
      rw [hsucc, UInt64.ofNat_add, ← hcounter]
      rfl
    · rw [hnext]
      split
      · exact hdq
      · split
        · exact hdq
        · trivial
  · have hcase : (w.shared.count dcId state).2 = .marking dcId true ∨
        (w.shared.count dcId state).2 = .marking dcId false ∨
          (w.shared.count dcId state).2 = .done := by
      dsimp only [Loader.count]
      split
      · exact Or.inl rfl
      · split
        · exact Or.inr (Or.inl rfl)
        · exact Or.inr (Or.inr rfl)
    refine .other h hp hdc hstate rfl ⟨Function.update_of_ne (Ne.symm hdc) _ _, rfl, rfl⟩
      (fun hq => absurd hq hdq) ?_ ?_ ?_ ?_ <;> rcases hcase with hcase | hcase | hcase <;>
      rw [hcase] <;> simp [LoadTask.heads, LoadTask.presses, LoadTask.degrades, hdc, hdq,
        LoadTask.Fine]

/-- A load marks the datacenter. -/
theorem Stepped.marking {dcId : UInt8} {failed : Bool} (h : Kept p q bound w) (hpq : p ≠ q)
    (hp : w.tasks[i]? = some (.marking dcId failed))
    (hstate : w.shared.detector.dcStates dcId = some state) :
    Stepped p q w i (w.shared.mark dcId state failed) .done := by
  have hdq : dcId ≠ q := h.fine _ (List.mem_of_getElem? hp)
  have hstates : (w.shared.mark dcId state failed).detector.dcStates = (w.shared.put dcId
      { state with status := if failed then .failed else .degraded }).detector.dcStates := by
    unfold Loader.mark
    dsimp only
    split <;> rfl
  by_cases hdc : dcId = p
  · subst hdc
    obtain ⟨hheading, hpressing, hdegrading⟩ :=
      tally_set (p := dcId) hp (w.shared.mark dcId state failed) .done
    have hnew := Eq.trans (congrFun hstates dcId) Loader.put_self
    have hkept : (w.shared.mark dcId state failed).failures = w.shared.failures ∧
        (w.shared.mark dcId state failed).reopened = w.shared.reopened := by
      unfold Loader.mark
      dsimp only
      split <;> exact ⟨rfl, rfl⟩
    have hslips : (w.shared.mark dcId state failed).slips dcId = w.shared.slips dcId +
        (!failed && w.shared.failedAt dcId).toNat := by
      rw [Loader.failedAt_of_some hstate]
      unfold Loader.mark
      dsimp only
      split
      · next hslip => rw [hslip]; exact Function.update_self _ _ _
      · next hslip => rw [Bool.eq_false_iff.mpr hslip]; rfl
    have hmark := Loader.failedAt_of_some hnew
    refine ⟨?_, ?_, uses_of_put h hpq hstates, trivial⟩
    · cases failed with
      | true =>
        simp [LoadTask.heads, LoadTask.presses, LoadTask.degrades]
          at hheading hpressing hdegrading
        exact .fails hpressing.symm (Tally.ext hmark (congrFun hkept.1 _) (congrFun hkept.2 _)
          hslips hheading rfl hdegrading)
      | false =>
        simp [LoadTask.heads, LoadTask.presses, LoadTask.degrades]
          at hheading hpressing hdegrading
        exact .degrades hdegrading.symm (Tally.ext hmark (congrFun hkept.1 _)
          (congrFun hkept.2 _) hslips hheading hpressing rfl)
    · obtain ⟨state', hstate', hcounter⟩ := h.counts
      cases hstate.symm.trans hstate'
      exact ⟨_, hnew, hkept.1 ▸ hcounter⟩
  · have hne : (dcId == p) = false := beq_false_of_ne hdc
    refine .other h hp hdc hstate hstates ?_ (fun hq => absurd hq hdq) ?_ ?_ ?_ trivial
    · unfold Loader.mark
      dsimp only
      split
      · exact ⟨rfl, rfl, Function.update_of_ne (Ne.symm hdc) _ _⟩
      · exact ⟨rfl, rfl, rfl⟩
    · rfl
    · simp [LoadTask.presses, LoadTask.heads, hdc]
    · simp [LoadTask.degrades, hdc]

/-- A check lets the datacenter back in. -/
theorem Stepped.reopening {dcId : UInt8} (h : Kept p q bound w) (hpq : p ≠ q)
    (hp : w.tasks[i]? = some (.reopening dcId))
    (hstate : w.shared.detector.dcStates dcId = some state) :
    Stepped p q w i (w.shared.reopen dcId state) .done := by
  by_cases hdc : dcId = p
  · subst hdc
    obtain ⟨hheading, hpressing, hdegrading⟩ :=
      tally_set (p := dcId) hp (w.shared.reopen dcId state) .done
    simp [LoadTask.heads, LoadTask.presses, LoadTask.degrades] at hheading hpressing hdegrading
    have hnew : (w.shared.reopen dcId state).detector.dcStates dcId =
        some { state with status := .degraded } := Loader.put_self
    refine ⟨.reopens (Tally.ext (Loader.failedAt_of_some hnew) rfl
      (Function.update_self _ _ _) rfl hheading hpressing hdegrading), ?_,
      uses_of_put h hpq rfl, trivial⟩
    obtain ⟨state', hstate', hcounter⟩ := h.counts
    cases hstate.symm.trans hstate'
    exact ⟨_, hnew, hcounter⟩
  · exact .other h hp hdc hstate rfl ⟨rfl, Function.update_of_ne (Ne.symm hdc) _ _, rfl⟩
      (fun _ _ => nofun) rfl rfl rfl trivial

/-- **One step of a task.** -/
theorem stepped {input : LoadInput} (h : Kept p q bound w) (hpq : p ≠ q)
    (hp : w.tasks[i]? = some t) (hlists : Lists w.shared input) (hanswers : Answers p q t input)
    (hlt : w.shared.failures p + (tally p w).heading < 2 ^ 64)
    (hm : Loader.move input w.shared t = some (s, t')) : Stepped p q w i s t' := by
  cases t with
  | selecting dcId =>
    cases input with
    | proceed =>
      cases hm
      split
      · next huses => exact .selects h hp rfl rfl huses
      · exact .read h hp rfl rfl rfl trivial
    | listed | allocated | dropped => cases hm
  | listing dcId =>
    cases input with
    | listed keys =>
      cases hm
      exact .selects h hp rfl rfl (uses_listed hlists h.usable dcId)
    | proceed | allocated | dropped => cases hm
  | finding dcId =>
    cases input with
    | proceed =>
      cases hm
      exact .read h hp rfl rfl rfl trivial
    | listed | allocated | dropped => cases hm
  | allocating dcId known =>
    cases input with
    | allocated ok =>
      cases hm
      cases known with
      | false => exact .leaves h hp
      | true =>
        cases ok with
        | true =>
          have hdc : dcId ≠ p := fun heq => nomatch hanswers.1 heq
          have hne : (dcId == p) = false := beq_false_of_ne hdc
          exact .read h hp hne.symm hne.symm rfl hdc
        | false => exact .read h hp rfl rfl rfl fun heq => nomatch hanswers.2 heq
    | dropped =>
      cases hm
      exact .leaves h hp
    | proceed | listed => cases hm
  | counting dcId =>
    cases input with
    | proceed =>
      obtain ⟨state, hstate, he⟩ := Option.map_eq_some_iff.mp hm
      cases he
      exact .counting h hpq hp hlt hstate
    | listed | allocated | dropped => cases hm
  | marking dcId failed =>
    cases input with
    | proceed =>
      obtain ⟨state, hstate, he⟩ := Option.map_eq_some_iff.mp hm
      cases he
      exact .marking h hpq hp hstate
    | listed | allocated | dropped => cases hm
  | stamping dcId =>
    cases input with
    | proceed =>
      have hdc : dcId ≠ p := h.fine _ (List.mem_of_getElem? hp)
      obtain ⟨state, hstate, he⟩ := Option.map_eq_some_iff.mp hm
      cases he
      exact .other h hp hdc hstate rfl ⟨rfl, rfl, rfl⟩ (fun _ => id) rfl rfl rfl hdc
    | listed | allocated | dropped => cases hm
  | resetting dcId =>
    cases input with
    | proceed =>
      have hdc : dcId ≠ p := h.fine _ (List.mem_of_getElem? hp)
      obtain ⟨state, hstate, he⟩ := Option.map_eq_some_iff.mp hm
      cases he
      exact .other h hp hdc hstate rfl ⟨rfl, rfl, rfl⟩ (fun _ => id) rfl rfl rfl hdc
    | listed | allocated | dropped => cases hm
  | reading dcId =>
    cases input with
    | proceed =>
      have hdc : dcId ≠ p := h.fine _ (List.mem_of_getElem? hp)
      obtain ⟨state, hstate, he⟩ := Option.map_eq_some_iff.mp hm
      cases he
      split
      · exact .read h hp rfl rfl rfl trivial
      · exact .read h hp rfl rfl rfl hdc
    | listed | allocated | dropped => cases hm
  | healing dcId =>
    cases input with
    | proceed =>
      have hdc : dcId ≠ p := h.fine _ (List.mem_of_getElem? hp)
      obtain ⟨state, hstate, he⟩ := Option.map_eq_some_iff.mp hm
      cases he
      exact .other h hp hdc hstate rfl ⟨rfl, rfl, rfl⟩ (fun _ _ => nofun) rfl rfl rfl trivial
    | listed | allocated | dropped => cases hm
  | checking dcId =>
    cases input with
    | proceed =>
      cases hm
      exact .read h hp rfl rfl rfl trivial
    | listed | allocated | dropped => cases hm
  | judging dcId now | aging dcId now =>
    cases input with
    | proceed =>
      obtain ⟨state, hstate, he⟩ := Option.map_eq_some_iff.mp hm
      cases he
      split <;> exact .read h hp rfl rfl rfl trivial
    | listed | allocated | dropped => cases hm
  | reopening dcId =>
    cases input with
    | proceed =>
      obtain ⟨state, hstate, he⟩ := Option.map_eq_some_iff.mp hm
      cases he
      exact .reopening h hpq hp hstate
    | listed | allocated | dropped => cases hm
  | done => cases input <;> cases hm

/-- A check does not turn into a load. -/
theorem isLoad_of_move {input : LoadInput} (hm : Loader.move input s t = some (s', t'))
    (ht : t'.isLoad = true) : t.isLoad = true := by
  cases t with
  | checking dcId =>
    cases input with
    | proceed =>
      cases hm
      cases ht
    | listed | allocated | dropped => cases hm
  | judging dcId now | aging dcId now =>
    cases input with
    | proceed =>
      obtain ⟨state, -, he⟩ := Option.map_eq_some_iff.mp hm
      cases he
      split at ht <;> cases ht
    | listed | allocated | dropped => cases hm
  | reopening dcId =>
    cases input with
    | proceed =>
      obtain ⟨state, -, he⟩ := Option.map_eq_some_iff.mp hm
      cases he
      cases ht
    | listed | allocated | dropped => cases hm
  | done => cases input <;> cases hm
  | _ => rfl

theorem room_of_move {input : LoadInput} (h : Kept p q bound w) (hp : w.tasks[i]? = some t)
    (hm : Loader.move input w.shared t = some (s, t')) :
    (w.tasks.set i t').countP LoadTask.isLoad ≤ bound := by
  have hcount := Crowd.countP_set_add (q := t') LoadTask.isLoad hp
  have hroom := h.room
  cases ht' : t'.isLoad with
  | false =>
    rw [ht', if_neg Bool.false_ne_true] at hcount
    omega
  | true =>
    rw [ht', isLoad_of_move hm ht', if_pos rfl] at hcount
    omega

/-- A new load or check counts for nothing yet. -/
theorem kept_spawn (h : Kept p q bound w) (r : LoadRequest)
    (hroom : Down p q bound w (.spawn r)) :
    Kept p q bound ⟨w.shared, w.tasks ++ [program.start r]⟩ ∧
      tally p ⟨w.shared, w.tasks ++ [program.start r]⟩ = tally p w := by
  have hroom' := h.room
  cases r with
  | load preferredDc =>
    refine ⟨⟨h.counts, h.usable, Crowd.forall_mem_snoc h.fine trivial, ?_⟩, ?_⟩
    · have hlt : w.tasks.countP LoadTask.isLoad < bound := hroom
      rw [List.countP_append]
      exact hlt
    · simp [tally, program, LoadTask.heads, LoadTask.presses, LoadTask.degrades]
  | check dcId =>
    refine ⟨⟨h.counts, h.usable, Crowd.forall_mem_snoc h.fine trivial, ?_⟩, ?_⟩
    · rw [List.countP_append]
      exact hroom'
    · simp [tally, program, LoadTask.heads, LoadTask.presses, LoadTask.degrades]

/-- Time passes, or a datacenter gets its record, which `p` and `q` have. -/
theorem kept_pass (h : Kept p q bound w) (e : LoadPass) :
    Kept p q bound ⟨program.pass e w.shared, w.tasks⟩ ∧
      tally p ⟨program.pass e w.shared, w.tasks⟩ = tally p w := by
  cases e with
  | advance duration => exact ⟨⟨h.counts, h.usable, h.fine, h.room⟩, rfl⟩
  | addDc dcId =>
    have hknown : ∀ dc state, w.shared.detector.dcStates dc = some state →
        (w.shared.detector.addDc w.shared.now dcId).dcStates dc = some state := by
      intro dc state hstate
      unfold DcFailureDetector.addDc
      split
      · exact hstate
      · next hnone =>
        rw [DcFailureDetector.setState_of_ne _ ?_]
        · exact hstate
        · rintro rfl
          cases hnone.symm.trans hstate
    obtain ⟨state, hstate, hcounter⟩ := h.counts
    obtain ⟨state', hstate', huse⟩ := (Option.any_eq_true _ _).mp h.usable
    have hp := hknown p state hstate
    have hq := hknown q state' hstate'
    refine ⟨⟨⟨state, hp, hcounter⟩, ?_, h.fine, h.room⟩, ?_⟩
    · exact (Option.any_eq_true _ _).mpr ⟨state', hq, huse⟩
    · refine Tally.ext ?_ rfl rfl rfl rfl rfl rfl
      exact (Loader.failedAt_of_some hp).trans (Loader.failedAt_of_some hstate).symm

/-- **One step.** -/
theorem kept_step {act : CrowdAct LoadRequest LoadInput LoadPass} (h : Kept p q bound w)
    (hpq : p ≠ q) (hdown : Down p q bound w act)
    (hlt : w.shared.failures p + (tally p w).heading < 2 ^ 64)
    (hs : Crowd.step program w act = some w') :
    Kept p q bound w' ∧ (tally p w).Move (tally p w') := by
  rcases Crowd.step_cases hs with ⟨r, rfl, rfl⟩ | ⟨i, input, t, s, t', rfl, hp, hm, rfl⟩ |
    ⟨e, rfl, rfl⟩
  · obtain ⟨hkept, htally⟩ := kept_spawn h r hdown
    exact ⟨hkept, .idle htally⟩
  · have hstep := stepped h hpq hp hdown.1 (hdown.2 t hp) hlt hm
    exact ⟨⟨hstep.counts, hstep.usable, Crowd.forall_mem_set h.fine hstep.fine,
      room_of_move h hp hm⟩, hstep.move⟩
  · obtain ⟨hkept, htally⟩ := kept_pass h e
    exact ⟨hkept, .idle htally⟩

/-! ## Every run -/

theorem reopened_move {input : LoadInput} (hm : Loader.move input s t = some (s', t')) :
    s'.reopened = s.reopened ∨ ∃ dcId state, s' = s.reopen dcId state := by
  cases t with
  | selecting dcId | listing dcId | finding dcId | allocating dcId known | checking dcId | done =>
    cases input <;> cases hm <;> exact Or.inl rfl
  | marking dcId failed =>
    cases input with
    | proceed =>
      obtain ⟨state, -, he⟩ := Option.map_eq_some_iff.mp hm
      cases he
      refine Or.inl ?_
      unfold Loader.mark
      dsimp only
      split <;> rfl
    | listed | allocated | dropped => cases hm
  | reopening dcId =>
    cases input with
    | proceed =>
      obtain ⟨state, -, he⟩ := Option.map_eq_some_iff.mp hm
      cases he
      exact Or.inr ⟨dcId, state, rfl⟩
    | listed | allocated | dropped => cases hm
  | _ =>
    cases input with
    | proceed =>
      obtain ⟨state, -, he⟩ := Option.map_eq_some_iff.mp hm
      cases he
      exact Or.inl rfl
    | listed | allocated | dropped => cases hm

theorem reopened_le {act : CrowdAct LoadRequest LoadInput LoadPass}
    (hs : Crowd.step program w act = some w') (p : UInt8) :
    w.shared.reopened p ≤ w'.shared.reopened p := by
  rcases Crowd.step_cases hs with ⟨r, rfl, rfl⟩ | ⟨i, input, t, s, t', rfl, hp, hm, rfl⟩ |
    ⟨e, rfl, rfl⟩
  · exact Nat.le_refl _
  · rcases reopened_move hm with heq | ⟨dcId, state, rfl⟩
    · exact heq ▸ Nat.le_refl _
    · change w.shared.reopened p ≤
        Function.update w.shared.reopened dcId (w.shared.reopened dcId + 1) p
      rw [Function.update_apply]
      split
      · next heq => exact heq ▸ Nat.le_succ _
      · exact Nat.le_refl _
  · cases e <;> exact Nat.le_refl _

/-- Four failures are free; then each time the datacenter is open costs at most as many failures as
there are loads at work. -/
theorem Tally.Ok.total {T : Tally} (h : T.Ok bound) (hfits : T.Fits bound) :
    T.failures + T.heading ≤ 4 + bound * (3 + T.reopened) := by
  have hbudget := h.failures_le hfits
  have hslips := h.slips
  have hmul : bound * (T.reopened + T.slips) + bound ≤ bound * (3 + T.reopened) := by
    rw [← Nat.mul_succ]
    exact Nat.mul_le_mul_left _ (by omega)
  omega

theorem kept_start {detector : DcFailureDetector} {now created : ℕ}
    (hp : detector.dcStates p = some (.new created)) (hq : detector.uses q = true) :
    Kept p q bound ⟨.new detector now, []⟩ ∧ (tally p ⟨.new detector now, []⟩).Ok bound := by
  refine ⟨⟨⟨_, hp, rfl⟩, hq, fun _ ht => (nomatch ht), Nat.zero_le _⟩, ?_⟩
  have hopen : (tally p ⟨.new detector now, []⟩).failed = false :=
    Loader.failedAt_of_some (s := .new detector now) hp
  refine ⟨fun h => ?_, fun _ => Nat.zero_le _, Nat.zero_le _⟩
  rw [hopen] at h
  cases h

theorem ok_of_reaches {detector : DcFailureDetector} {now created : ℕ} (hpq : p ≠ q)
    (hp : detector.dcStates p = some (.new created)) (hq : detector.uses q = true)
    (h : Reaches (Crowd.step program) (Down p q bound) ⟨.new detector now, []⟩ w) :
    4 + bound * (3 + w.shared.reopened p) < 2 ^ 64 →
      Kept p q bound w ∧ (tally p w).Ok bound := by
  refine h.invariant (I := fun w => 4 + bound * (3 + w.shared.reopened p) < 2 ^ 64 →
    Kept p q bound w ∧ (tally p w).Ok bound) (fun _ => kept_start hp hq) ?_
  intro w act w' ih hdown hs hlt
  -- the budget only grows, so it is small enough now if it is so later
  have hgrows := reopened_le hs p
  have hbefore : 4 + bound * (3 + w.shared.reopened p) < 2 ^ 64 := by
    have := Nat.mul_le_mul_left bound (Nat.add_le_add_left hgrows 3)
    omega
  obtain ⟨hkept, hok⟩ := ih hbefore
  obtain ⟨hkept', hmove⟩ :=
    kept_step hkept hpq hdown ((hok.total hkept.fits).trans_lt hbefore) hs
  exact ⟨hkept', hok.move hkept.fits hmove hkept'.fits⟩

/-- **A datacenter that is down.** However loads and checks interleave, the loads that have failed
there and those that still head for it stay within four and three times the loads that may be at
work at once, and as many again for each time a check has let the datacenter back in. -/
theorem failures_of_down_dc {detector : DcFailureDetector} {now created : ℕ} (hpq : p ≠ q)
    (hp : detector.dcStates p = some (.new created)) (hq : detector.uses q = true)
    (h : Reaches (Crowd.step program) (Down p q bound) ⟨.new detector now, []⟩ w)
    (hlt : 4 + bound * (3 + w.shared.reopened p) < 2 ^ 64) :
    ∃ state ∈ w.shared.detector.dcStates p,
      state.consecutiveFailures.toNat + w.tasks.countP (LoadTask.heads p) ≤
        4 + bound * (3 + w.shared.reopened p) := by
  obtain ⟨hkept, hok⟩ := ok_of_reaches hpq hp hq h hlt
  obtain ⟨state, hstate, hcounter⟩ := hkept.counts
  have htotal := hok.total hkept.fits
  refine ⟨state, hstate, htotal.trans' ?_⟩
  rw [hcounter, UInt64.toNat_ofNat']
  exact Nat.add_le_add_right (Nat.mod_le _ _) _

/-- A load that fails at the first datacenter, but for the step after it has been counted. -/
def failedLoad (i : ℕ) : List (CrowdAct LoadRequest LoadInput LoadPass) :=
  [.spawn (.load 0), .move i .proceed, .move i .proceed, .move i (.allocated false),
    .move i .proceed]

/-- The fourth load is slow: it writes `Degraded` after the fifth has written `Failed`, and the
datacenter is open again although no check has let it in. -/
theorem slow_mark_lets_in : ∃ w,
    Reaches (Crowd.step program) (Down 0 1 2)
      ⟨.new (((DcFailureDetector.new 5 300).addDc 0 0).addDc 0 1) 0, []⟩ w ∧
    w.shared.slips 0 = 1 ∧ w.shared.reopened 0 = 0 ∧ w.shared.detector.uses 0 = true ∧
    ∃ state ∈ w.shared.detector.dcStates 0,
      state.consecutiveFailures.toNat + w.tasks.countP (LoadTask.heads 0) ≤
        4 + 2 * (3 + w.shared.reopened 0) := by
  let acts := [failedLoad 0, failedLoad 1, failedLoad 2, [.move 2 .proceed], failedLoad 3,
    failedLoad 4, [.move 4 .proceed, .move 3 .proceed]]
  have hrun : ((runWhile (Crowd.step program) (Down 0 1 2)
      ⟨.new (((DcFailureDetector.new 5 300).addDc 0 0).addDc 0 1) 0, []⟩ acts.flatten).map
      fun w => (w.shared.slips 0, w.shared.reopened 0, w.shared.detector.uses 0)) =
      some (1, 0, true) := by
    decide +kernel
  obtain ⟨w, hw, he⟩ := Option.map_eq_some_iff.mp hrun
  obtain ⟨hslips, he⟩ := Prod.mk.inj he
  obtain ⟨hreopened, huses⟩ := Prod.mk.inj he
  have hreach := reaches_of_runWhile hw
  exact ⟨w, hreach, hslips, hreopened, huses, failures_of_down_dc (by decide)
    (show _ = some (DcHealthState.new 0) from rfl) rfl hreach (by rw [hreopened]; decide)⟩

end SegmentLoads

end NebulaId
