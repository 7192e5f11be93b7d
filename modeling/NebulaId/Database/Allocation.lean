import NebulaId.Machine.Run
import NebulaId.Database.Segments

/-!
# Allocations one after another

The calls of `allocate_segment` and `allocate_segment_with_dc` for one workspace and
business tag, in any mix. A call may also fail, before its transaction commits or after.

* `datacenter_overflows`: 466 calls for datacenter 0 run into the ids of datacenter 1.
* `roomy_segments_disjoint`: in a run whose commits find room the segments handed out are
  not empty and do not overlap.
-/

namespace NebulaId

open Machine

/-- How a call ends: as it should, with its transaction rolled back, or committed but with
an error to the caller. -/
inductive Outcome where
  | done
  | rolledBack (e : CoreError)
  | unseen (e : CoreError)

/-- A call, the choice of the database among the matching rows, and how it ends. -/
structure Call extends Request where
  pick : ℕ
  outcome : Outcome

structure Ledger where
  table : SegmentTable
  results : List (Result SegmentInfo)

/-- The segments of the calls that returned `Ok`. -/
def okSegments (results : List (Result SegmentInfo)) : List SegmentInfo :=
  results.filterMap fun r => r.toOption

/-- One call, from its lookup to its commit. -/
def allocate (workspaceId bizTag : String) (l : Ledger) (c : Call) : Option Ledger :=
  let e := c.entry workspaceId bizTag
  let (segment, table) := commit e c.step l.table (l.table.one e.selects c.pick)
  match c.outcome with
  | .done => some ⟨table, .ok segment :: l.results⟩
  | .rolledBack err => some ⟨l.table, .error err :: l.results⟩
  | .unseen err => some ⟨table, .error err :: l.results⟩

/-- A call that commits finds room for its step. -/
def Roomy (workspaceId bizTag : String) (l : Ledger) (c : Call) : Prop :=
  let e := c.entry workspaceId bizTag
  match c.outcome with
  | .rolledBack _ => True
  | _ => HasRoom e c.step l.table (l.table.one e.selects c.pick)

def emptyLedger : Ledger := ⟨.empty, []⟩

/-- A call with the given datacenter and step that ends as it should. -/
def doneCall (dcId step : ℤ) (h : Admitted dcId ∧ 0 < step ∧ step < 2 ^ 31) : Call where
  dcId := some dcId
  step := step
  admitted d hd := by
    cases hd
    exact h.1
  positive := h.2.1
  fits := h.2.2
  pick := 0
  outcome := .done

/-- Datacenter 0 with the largest step, until it passes the first id of datacenter 1. -/
theorem datacenter_overflows : ∃ l, Reaches (allocate "w" "t") Free emptyLedger l ∧
    ¬ (okSegments l.results).Pairwise fun s s' => Disjoint s.ids s'.ids := by
  let calls := List.replicate 466 (doneCall 0 2147483647 (by decide)) ++
    [doneCall 1 100 (by decide)]
  have hrun : ((run (allocate "w" "t") emptyLedger calls).map
      fun l => (okSegments l.results).take 2) =
      some [⟨2, "w", "t", 1000000000001, 1000000000101, 100, 1⟩,
        ⟨1, "w", "t", 998579895856, 1000727379503, 2147483647, 1⟩] := by
    decide +kernel
  obtain ⟨l, hl, htake⟩ := Option.map_eq_some_iff.mp hrun
  refine ⟨l, reaches_of_run hl, fun hdisjoint => ?_⟩
  have hpair := hdisjoint.sublist (List.take_sublist 2 _)
  rw [htake] at hpair
  have hids := (List.pairwise_cons.mp hpair).1 _ (List.mem_singleton.mpr rfl)
  have hboth : (1000000000001 : ℤ) ∈ Set.Ico 1000000000001 1000000000101 ∧
      (1000000000001 : ℤ) ∈ Set.Ico 998579895856 1000727379503 :=
    ⟨Set.mem_Ico.mpr (by omega), Set.mem_Ico.mpr (by omega)⟩
  exact Set.disjoint_left.mp hids hboth.1 hboth.2

variable {workspaceId bizTag : String} {l l' : Ledger} {c : Call}

/-- **One call.** -/
theorem tableInv_allocate (h : TableInv workspaceId bizTag l.table (okSegments l.results))
    (hroomy : Roomy workspaceId bizTag l c) (hs : allocate workspaceId bizTag l c = some l') :
    TableInv workspaceId bizTag l'.table (okSegments l'.results) := by
  have hcurrent := current_one (c.entry workspaceId bizTag) l.table c.pick
  unfold allocate at hs
  unfold Roomy at hroomy
  cases hout : c.outcome with
  | done =>
    rw [hout] at hs hroomy
    cases hs
    exact h.commit hcurrent hroomy
  | rolledBack err =>
    rw [hout] at hs
    cases hs
    exact h
  | unseen err =>
    rw [hout] at hs hroomy
    cases hs
    exact (h.commit hcurrent hroomy).forget

/-- **Runs with room.** The segments handed out are not empty and do not overlap. -/
theorem roomy_segments_disjoint
    (h : Reaches (allocate workspaceId bizTag) (Roomy workspaceId bizTag) emptyLedger l) :
    (∀ s ∈ okSegments l.results, s.currentId < s.maxId) ∧
      (okSegments l.results).Pairwise fun s s' => Disjoint s.ids s'.ids := by
  have hinv : TableInv workspaceId bizTag l.table (okSegments l.results) :=
    h.invariant (I := fun l => TableInv workspaceId bizTag l.table (okSegments l.results))
      tableInv_empty fun _ _ _ hi hroomy hs => tableInv_allocate hi hroomy hs
  exact ⟨fun s hs => (hinv.below s hs).1, hinv.disjoint⟩

/-- Two datacenters and a call for any of them. -/
theorem roomy_segments_disjoint_two : ∃ l,
    Reaches (allocate "w" "t") (Roomy "w" "t") emptyLedger l ∧
      (okSegments l.results).map (fun s => (s.currentId, s.maxId)) =
        [(1000000000001, 1000000000101), (1, 1001)] ∧
      (okSegments l.results).Pairwise fun s s' => Disjoint s.ids s'.ids := by
  have hroomy : ∀ r' : SegmentRow, r' ∈ [newRow (allocateSegmentWithDc "w" "t" 0) 1000 1] →
      r'.dcId < 1 → r'.currentId ≤ dcStart 1 := by
    intro r' hr' _
    rw [List.mem_singleton.mp hr']
    decide
  have hreach : Reaches (allocate "w" "t") (Roomy "w" "t") emptyLedger _ :=
    Reaches.cons (a := doneCall 0 1000 (by decide)) (fun _ hr => (List.not_mem_nil hr).elim)
      rfl <|
    Reaches.single (a := doneCall 1 100 (by decide)) hroomy rfl
  exact ⟨_, hreach, rfl, (roomy_segments_disjoint hreach).2⟩

end NebulaId
