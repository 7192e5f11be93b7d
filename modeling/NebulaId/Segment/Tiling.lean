import NebulaId.Machine.Mutex
import NebulaId.Segment.Buffer

/-!
# Consuming a segment tiles it (`core/algorithm/segment.rs`)

Any number of callers take ids from one segment. `try_consume` is a critical section under the
mutex of the segment: two loads, the comparison, the store and the answer.

* `performs_tryConsume`: nobody comes between these steps, so the section is `tryConsume` of
  `Segment/Buffer.lean`.
* `Served`: what a list of calls, one after another, leaves of a fresh segment.
* `tryConsume_tiles`: the granted ranges tile the segment up to its cursor.
-/

namespace NebulaId

open Machine

namespace Segment

/-- Where a call of `try_consume` stands once it has the mutex. -/
inductive ConsumePoint where
  | loadCurrent
  | loadMax (current : UInt64)
  | compare (current max : UInt64)
  | store (current : UInt64)
  | answer (startId : UInt64)

/-- `AtomicSegment::try_consume`, one operation at a time; the request is the count. -/
def consumeStep (count : UInt64) (s : Segment) :
    ConsumePoint → Segment × (ConsumePoint ⊕ Option (UInt64 × UInt64))
  | .loadCurrent => (s, .inl (.loadMax s.currentId))
  | .loadMax current => (s, .inl (.compare current s.maxId))
  | .compare current max =>
    if current + count > max then (s, .inr none) else (s, .inl (.store current))
  | .store current => ({ s with currentId := current + count }, .inl (.answer current))
  | .answer startId => (s, .inr (some (startId, startId + count)))

def consuming : CriticalSection Segment ConsumePoint UInt64 (Option (UInt64 × UInt64)) where
  enter _ := .loadCurrent
  step := consumeStep

/-- What the section has read and written when it stands at a point. -/
def ConsumesAt (count : UInt64) (s s' : Segment) : ConsumePoint → Prop
  | .loadCurrent => s' = s
  | .loadMax current => s' = s ∧ current = s.currentId
  | .compare current max => s' = s ∧ current = s.currentId ∧ max = s.maxId
  | .store current => s' = s ∧ current = s.currentId ∧ ¬ s.currentId + count > s.maxId
  | .answer startId => s' = { s with currentId := s.currentId + count } ∧ startId = s.currentId ∧
      ¬ s.currentId + count > s.maxId

/-- Under the mutex the section is `tryConsume`. -/
theorem performs_tryConsume :
    consuming.Performs (fun count s => s.tryConsume count) ConsumesAt where
  enter _ _ := rfl
  next := by
    intro count s s' s'' p q hat hstep
    cases p with
    | loadCurrent =>
      cases hat
      cases hstep
      exact ⟨rfl, rfl⟩
    | loadMax current =>
      obtain ⟨rfl, rfl⟩ := hat
      cases hstep
      exact ⟨rfl, rfl, rfl⟩
    | compare current max =>
      obtain ⟨rfl, rfl, rfl⟩ := hat
      simp only [consuming, consumeStep] at hstep
      split at hstep
      · cases hstep
      · rename_i hfits
        cases hstep
        exact ⟨rfl, rfl, hfits⟩
    | store current =>
      obtain ⟨rfl, rfl, hfits⟩ := hat
      cases hstep
      exact ⟨rfl, rfl, hfits⟩
    | answer startId => cases hstep
  leave := by
    intro count s s' s'' p b hat hstep
    cases p with
    | loadCurrent => cases hstep
    | loadMax current => cases hstep
    | compare current max =>
      obtain ⟨rfl, rfl, rfl⟩ := hat
      simp only [consuming, consumeStep] at hstep
      split at hstep
      · rename_i hover
        cases hstep
        exact if_pos hover
      · cases hstep
    | store current => cases hstep
    | answer startId =>
      obtain ⟨rfl, rfl, hfits⟩ := hat
      cases hstep
      exact if_neg hfits

/-- The value that the count is added to at a point. -/
def ConsumePoint.addend : ConsumePoint → Option UInt64
  | .compare current _ => some current
  | .store current => some current
  | .answer startId => some startId
  | _ => none

theorem addend_eq {count : UInt64} {s s' : Segment} {p : ConsumePoint} {base : UInt64}
    (h : ConsumesAt count s s' p) (hbase : p.addend = some base) : base = s.currentId := by
  cases p with
  | loadCurrent => cases hbase
  | loadMax current => cases hbase
  | compare current max => exact (Option.some.inj hbase).symm.trans h.2.1
  | store current => exact (Option.some.inj hbase).symm.trans h.2.1
  | answer startId => exact (Option.some.inj hbase).symm.trans h.2.1

/-! ## Ranges that follow one another -/

/-- Ranges, none of them empty, each from where the one before it ends. -/
def Tiles (start : UInt64) : List (UInt64 × UInt64) → UInt64 → Prop
  | [], stop => start = stop
  | r :: ranges, stop => r.1 = start ∧ r.1 < r.2 ∧ Tiles r.2 ranges stop

section Tiles

variable {start mid stop : UInt64} {ranges : List (UInt64 × UInt64)}

theorem Tiles.concat (h : Tiles start ranges mid) (hlt : mid < stop) :
    Tiles start (ranges ++ [(mid, stop)]) stop := by
  induction ranges generalizing start with
  | nil =>
    cases h
    exact ⟨rfl, hlt, rfl⟩
  | cons r ranges ih =>
    obtain ⟨hstart, hr, hrest⟩ := h
    exact ⟨hstart, hr, ih hrest⟩

theorem Tiles.le (h : Tiles start ranges stop) : start.toNat ≤ stop.toNat := by
  induction ranges generalizing start with
  | nil =>
    cases h
    exact Nat.le_refl _
  | cons r ranges ih =>
    obtain ⟨rfl, hr, hrest⟩ := h
    exact (UInt64.lt_iff_toNat_lt.mp hr).le.trans (ih hrest)

/-- The ids of the ranges, in their order, are those from `start` to `stop`. -/
theorem Tiles.ids (h : Tiles start ranges stop) :
    (ranges.flatMap fun r => (u64Range r.1 r.2).map UInt64.toNat) =
      List.range' start.toNat (stop.toNat - start.toNat) := by
  induction ranges generalizing start with
  | nil =>
    cases h
    rw [Nat.sub_self]
    rfl
  | cons r ranges ih =>
    obtain ⟨rfl, hr, hrest⟩ := h
    have hlt := UInt64.lt_iff_toNat_lt.mp hr
    have hle := hrest.le
    have hmid : r.2.toNat = r.1.toNat + (r.2.toNat - r.1.toNat) := by omega
    have hlen : stop.toNat - r.1.toNat = (r.2.toNat - r.1.toNat) + (stop.toNat - r.2.toNat) := by
      omega
    rw [List.flatMap_cons, ih hrest, toNat_u64Range, hlen, ← List.range'_append_1, ← hmid]

/-- The ids of the ranges together. -/
def total (ranges : List (UInt64 × UInt64)) : ℕ :=
  (ranges.map fun r => r.2.toNat - r.1.toNat).sum

theorem Tiles.total (h : Tiles start ranges stop) :
    start.toNat + total ranges = stop.toNat := by
  induction ranges generalizing start with
  | nil =>
    cases h
    rfl
  | cons r ranges ih =>
    obtain ⟨rfl, hr, hrest⟩ := h
    have hlt := UInt64.lt_iff_toNat_lt.mp hr
    have hsum := ih hrest
    rw [Segment.total] at hsum ⊢
    rw [List.map_cons, List.sum_cons]
    omega

end Tiles

/-! ## Calls one after another -/

/-- A caller asks for 1 to `2 ^ 32 - 1` ids. -/
def Counted (count : UInt64) : Prop := 1 ≤ count.toNat ∧ count.toNat ≤ 2 ^ 32 - 1

instance : DecidablePred Counted := fun _ => inferInstanceAs (Decidable (_ ∧ _))

abbrev Calls := List (UInt64 × Option (UInt64 × UInt64))

/-- The ranges that have been granted. -/
def granted (calls : Calls) : List (UInt64 × UInt64) := calls.filterMap Prod.snd

/-- Every call was refused exactly when fewer ids remained than it asked for. -/
def RefusesExactly (start max : UInt64) (calls : Calls) : Prop :=
  ∀ before count answer after, calls = before ++ (count, answer) :: after →
    (answer = none ↔ max.toNat - (start.toNat + total (granted before)) < count.toNat)

/-- What calls, one after another, leave of a fresh segment. -/
structure Served (start max : UInt64) (calls : Calls) (s : Segment) : Prop where
  startId : s.startId = start
  maxId : s.maxId = max
  within : s.currentId.toNat ≤ max.toNat
  tiles : Tiles start (granted calls) s.currentId
  refuses : RefusesExactly start max calls

section Served

variable {start max step count : UInt64} {calls : Calls} {s s' : Segment}

theorem refusesExactly_concat {answer : Option (UInt64 × UInt64)}
    (h : RefusesExactly start max calls)
    (hlast : answer = none ↔ max.toNat - (start.toNat + total (granted calls)) < count.toNat) :
    RefusesExactly start max (calls ++ [(count, answer)]) := by
  intro before c a after hcalls
  rcases List.eq_nil_or_concat after with rfl | ⟨after, e, rfl⟩
  · obtain ⟨rfl, heq⟩ := List.append_inj' hcalls rfl
    cases heq
    exact hlast
  · rw [List.concat_eq_append, ← List.cons_append, ← List.append_assoc] at hcalls
    obtain ⟨hinit, -⟩ := List.append_inj' hcalls rfl
    exact h before c a after hinit

theorem Served.new (hle : start ≤ max) : Served start max [] (Segment.new start max step) where
  startId := rfl
  maxId := rfl
  within := UInt64.le_iff_toNat_le.mp hle
  tiles := rfl
  refuses before c a after h := by
    rw [eq_comm, List.append_eq_nil_iff] at h
    cases h.2

/-- The cursor and a count stay far below the end of `u64`. -/
theorem Served.fits (h : Served start max calls s) (hmax : max.toNat ≤ 2 ^ 63 - 1)
    (hc : Counted count) : s.currentId.toNat + count.toNat < 2 ^ 64 := by
  have hwithin := h.within
  have hcount := hc.2
  omega

theorem Served.consume (h : Served start max calls s) (hmax : max.toNat ≤ 2 ^ 63 - 1)
    (hc : Counted count) {answer : Option (UInt64 × UInt64)}
    (hs : s.tryConsume count = (answer, s')) :
    Served start max (calls ++ [(count, answer)]) s' := by
  have hfits := h.fits hmax hc
  have hsum : (s.currentId + count).toNat = s.currentId.toNat + count.toNat := by
    rw [UInt64.toNat_add, Nat.mod_eq_of_lt hfits]
  have hcursor := h.tiles.total
  have hwithin := h.within
  obtain ⟨hpos, -⟩ := hc
  unfold tryConsume at hs
  split at hs
  · rename_i hover
    cases hs
    rw [h.maxId, gt_iff_lt, UInt64.lt_iff_toNat_lt, hsum] at hover
    have hgranted : granted (calls ++ [(count, none)]) = granted calls := by
      rw [granted, List.filterMap_append]
      exact List.append_nil _
    refine ⟨h.startId, h.maxId, h.within, hgranted ▸ h.tiles, refusesExactly_concat h.refuses ?_⟩
    refine ⟨fun _ => ?_, fun _ => rfl⟩
    omega
  · rename_i hroom
    cases hs
    rw [h.maxId, gt_iff_lt, UInt64.lt_iff_toNat_lt, hsum, Nat.not_lt] at hroom
    have hgranted : granted (calls ++ [(count, some (s.currentId, s.currentId + count))]) =
        granted calls ++ [(s.currentId, s.currentId + count)] := by
      rw [granted, List.filterMap_append]
      rfl
    have hgrows : s.currentId < s.currentId + count := by
      rw [UInt64.lt_iff_toNat_lt, hsum]
      omega
    refine ⟨h.startId, h.maxId, hsum.trans_le hroom, hgranted ▸ h.tiles.concat hgrows,
      refusesExactly_concat h.refuses ?_⟩
    constructor
    · intro hnone
      cases hnone
    · intro hfew
      omega

theorem Served.of_serial (hle : start ≤ max) (hmax : max.toNat ≤ 2 ^ 63 - 1)
    (h : Serial (fun count s => s.tryConsume count) (Segment.new start max step) calls s)
    (hcounted : ∀ e ∈ calls, Counted e.1) : Served start max calls s := by
  induction h with
  | nil => exact Served.new hle
  | snoc before last ih =>
    have hbefore := ih fun e he => hcounted e (List.mem_append_left _ he)
    exact hbefore.consume hmax (hcounted _ (List.mem_append_right _ (List.mem_singleton_self _)))
      last

/-- A call under way has left the segment as it was, or has moved the cursor inside it. -/
theorem Served.under_way (h : Served start max calls s) {p : ConsumePoint}
    (hat : ConsumesAt count s s' p) :
    s'.startId = start ∧ s'.maxId = max ∧ s'.currentId ≤ max := by
  have hsame : s' = s ∨ (s' = { s with currentId := s.currentId + count } ∧
      ¬ s.currentId + count > s.maxId) := by
    cases p with
    | loadCurrent => exact Or.inl hat
    | loadMax current => exact Or.inl hat.1
    | compare current max => exact Or.inl hat.1
    | store current => exact Or.inl hat.1
    | answer startId => exact Or.inr ⟨hat.1, hat.2.2⟩
  rcases hsame with rfl | ⟨rfl, hroom⟩
  · exact ⟨h.startId, h.maxId, UInt64.le_iff_toNat_le.mpr h.within⟩
  · rw [h.maxId] at hroom
    exact ⟨h.startId, h.maxId, UInt64.not_lt.mp hroom⟩

end Served

/-! ## Callers -/

/-- Any number of callers, each of whom asks for a number of ids that `Counted` allows, and all
interleavings of the operations of their calls. -/
abbrev Reached (start max step : UInt64)
    (w : Crowd (Guarded Segment UInt64 (Option (UInt64 × UInt64)))
      (MutexTask ConsumePoint UInt64 (Option (UInt64 × UInt64)))) : Prop :=
  Reaches (Crowd.step consuming.program) (SpawnsOnly Counted)
    ⟨Guarded.new (Segment.new start max step), []⟩ w

/-- In every state that the callers reach no addition overflows and the cursor is inside the
segment; when nobody holds the mutex the granted ranges tile the segment up to the cursor; and a
call was refused exactly when fewer ids remained than it asked for. -/
theorem tryConsume_tiles {start max step : UInt64} (hle : start ≤ max)
    (hmax : max.toNat ≤ 2 ^ 63 - 1)
    {w : Crowd (Guarded Segment UInt64 (Option (UInt64 × UInt64)))
      (MutexTask ConsumePoint UInt64 (Option (UInt64 × UInt64)))}
    (h : Reached start max step w) :
    (∀ count p base, .inside count p ∈ w.tasks → p.addend = some base →
        base.toNat + count.toNat < 2 ^ 64) ∧
      w.shared.resource.startId = start ∧ w.shared.resource.maxId = max ∧
      w.shared.resource.currentId ≤ max ∧
      (w.shared.locked = false →
        Tiles start (granted w.shared.history) w.shared.resource.currentId ∧
        ((granted w.shared.history).flatMap fun r => (u64Range r.1 r.2).map UInt64.toNat) =
          List.range' start.toNat (w.shared.resource.currentId.toNat - start.toNat)) ∧
      RefusesExactly start max w.shared.history := by
  have hserialised := Serialised.of_reaches performs_tryConsume h
  have hserved : ∀ s, Serial _ (Segment.new start max step) w.shared.history s →
      Served start max w.shared.history s :=
    fun s hserial => Served.of_serial hle hmax hserial hserialised.answered
  obtain ⟨s, hserial, hfree, hat⟩ := hserialised.order
  have hplace : w.shared.resource.startId = start ∧ w.shared.resource.maxId = max ∧
      w.shared.resource.currentId ≤ max := by
    obtain ⟨m, hm, hres | ⟨i, count, p, -, hin⟩⟩ := hserialised.resource_cases
    · rw [hres]
      have hdone := hserved m hm
      exact ⟨hdone.startId, hdone.maxId, UInt64.le_iff_toNat_le.mpr hdone.within⟩
    · exact (hserved m hm).under_way hin
  refine ⟨?_, hplace.1, hplace.2.1, hplace.2.2, ?_, (hserved s hserial).refuses⟩
  · intro count p base hin hbase
    obtain ⟨i, hi⟩ := List.getElem?_of_mem hin
    rw [addend_eq (hat hi) hbase]
    exact (hserved s hserial).fits hmax (hserialised.asked _ hin)
  · intro hopen
    rw [hfree hopen]
    have htiles := (hserved s hserial).tiles
    exact ⟨htiles, htiles.ids⟩

/-- Two callers ask a segment of five ids for four and for three; the second one waits at the
mutex while the first one is inside, and is refused. -/
theorem tryConsume_tiles_two_callers : ∃ w, Reached 10 15 5 w ∧
    w.shared.history = [(4, some (10, 14)), (3, none)] ∧ w.shared.resource.currentId ≤ 15 ∧
    Tiles 10 (granted w.shared.history) w.shared.resource.currentId ∧
    RefusesExactly 10 15 w.shared.history := by
  let acts : List (CrowdAct UInt64 Unit Empty) :=
    [.spawn 4, .move 0 (), .spawn 3, .move 0 (), .move 0 (), .move 0 (), .move 0 (), .move 0 (),
      .move 1 (), .move 1 (), .move 1 (), .move 1 ()]
  let last : Crowd (Guarded Segment UInt64 (Option (UInt64 × UInt64)))
      (MutexTask ConsumePoint UInt64 (Option (UInt64 × UInt64))) :=
    ⟨⟨⟨10, 15, 14, 5, 0⟩, false, [(4, some (10, 14)), (3, none)]⟩,
      [.done 4 (some (10, 14)), .done 3 none]⟩
  have hrun : runWhile (Crowd.step consuming.program) (SpawnsOnly Counted)
      ⟨Guarded.new (Segment.new 10 15 5), []⟩ acts = some last := rfl
  have hreached : Reached 10 15 5 last := reaches_of_runWhile hrun
  obtain ⟨-, -, -, hwithin, htiles, hrefuses⟩ := tryConsume_tiles (by decide) (by decide) hreached
  exact ⟨last, hreached, rfl, hwithin, (htiles rfl).1, hrefuses⟩

end Segment

end NebulaId
