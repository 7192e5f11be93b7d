import NebulaId.Machine.Alone
import NebulaId.Segment.Carried
import NebulaId.Segment.Frame
import NebulaId.Segment.LoadingFlag

/-!
# A call without others on its key (`core/algorithm/segment.rs`)

Between two operations of the call the calls of other keys may do anything. They leave the buffer
of the key and its segments alone, so the call sees the current and the next segment that it has
left there itself.

* `quiet_buffer`: when no call of a key is under way, its next slot is empty and its flag is clear.
* `Returns.exclusive`: a call has one end.
* `Returns.others`: the calls of other keys do not matter.
-/

namespace NebulaId

open Machine

/-- What the calls of other keys may do. -/
structure Elsewhere (key : String) (m m' : SharedSegments) : Prop where
  buffer : m'.buffers key = m.buffers key
  segments : ∀ (j : ℕ) s, m.heap[j]? = some (key, s) → m'.heap[j]? = some (key, s)

/-- A step of the call; `c.1` counts its loads, and `loads` are the replies of the loader. -/
def loneStep (below : UInt64 → UInt64 → Bool) (loads : ℕ → Result SegmentData) (m : SharedSegments)
    (c : ℕ × Task) : Option (SharedSegments × (ℕ × Task)) :=
  if c.2.loading.isSome then
    (segmentStep below 0 (.reply (loads c.1)) m c.2).map fun r => (r.1, (c.1 + 1, r.2))
  else (segmentStep below 0 .proceed m c.2).map fun r => (r.1, (c.1, r.2))

/-- The last call of the key has returned such an answer. -/
def Answered (key : String) (Q : Answer → Prop) (m : SharedSegments) : Prop :=
  ∃ a rest, m.answers = (key, a) :: rest ∧ Q a

/-- The call returns, and its answer meets `Q`. -/
def Returns (below : UInt64 → UInt64 → Bool) (loads : ℕ → Result SegmentData) (key : String)
    (Q : Answer → Prop) (m : SharedSegments) (k : ℕ) (p : Task) : Prop :=
  Ends (loneStep below loads) (Elsewhere key) (fun c => c.2 = .idle) (Answered key Q) m (k, p)

/-- The call comes to a place where `H` holds of the memory and its loads so far. -/
abbrev ComesTo (below : UInt64 → UInt64 → Bool) (loads : ℕ → Result SegmentData) (key : String)
    (H : SharedSegments → ℕ × Task → Prop) (m : SharedSegments) (k : ℕ) (p : Task) : Prop :=
  Passes (loneStep below loads) (Elsewhere key) (fun c => c.2 = .idle) H m (k, p)

/-- The buffer of the key and its segments. -/
structure Holds (m : SharedSegments) (key : String) (b : DoubleBuffer) (s : Segment)
    (next : Option Segment) : Prop where
  buffer : m.buffers key = some b
  current : m.heap[b.current]? = some (key, s)
  ahead : ∀ j, b.next = some j → ∃ x, next = some x ∧ m.heap[j]? = some (key, x)
  empty : b.next = none → next = none

namespace SharedSegments

/-- The segment in use; a key without a buffer gets one with an empty segment. -/
def currentSegment (m : SharedSegments) (key : String) : Segment :=
  (((m.buffers key).bind fun b => m.heap[b.current]?).map Prod.snd).getD (Segment.new 0 0 0)

def nextSegment (m : SharedSegments) (key : String) : Option Segment :=
  (((m.buffers key).bind DoubleBuffer.next).bind fun j => m.heap[j]?).map Prod.snd

end SharedSegments

variable {below : UInt64 → UInt64 → Bool} {loads : ℕ → Result SegmentData} {key : String}
  {m m' m'' : SharedSegments} {b : DoubleBuffer} {s x : Segment} {next : Option Segment} {k : ℕ}
  {p p' : Task} {Q P : Answer → Prop} {H : SharedSegments → ℕ × Task → Prop}

theorem Elsewhere.refl (m : SharedSegments) : Elsewhere key m m := ⟨rfl, fun _ _ h => h⟩

theorem Elsewhere.trans (h : Elsewhere key m m') (h' : Elsewhere key m' m'') :
    Elsewhere key m m'' :=
  ⟨h'.buffer.trans h.buffer, fun j s hj => h'.segments j s (h.segments j s hj)⟩

theorem Holds.elsewhere (h : Holds m key b s next) (hE : Elsewhere key m m') :
    Holds m' key b s next where
  buffer := hE.buffer.trans h.buffer
  current := hE.segments _ s h.current
  ahead j hj := by
    obtain ⟨x, hx, hheap⟩ := h.ahead j hj
    exact ⟨x, hx, hE.segments j x hheap⟩
  empty := h.empty

/-- The flag does not matter to the segments. -/
theorem Holds.flag (h : Holds m key b s next) (loading : Bool) :
    Holds (m.setBuffer key { b with loading := loading }) key { b with loading := loading } s next :=
  ⟨Function.update_self .., h.current, h.ahead, h.empty⟩

/-- The segment in use is still there after a load, beside the new one. -/
theorem Holds.load (h : Holds m key b s next) (d : SegmentData) :
    (m.load key d).heap[b.current]? = some (key, s) ∧
      (m.load key d).heap[m.heap.length]? =
        some (key, Segment.new d.startId d.maxId d.step) :=
  ⟨(List.getElem?_append_left (List.getElem?_eq_some_iff.mp h.current).1).trans h.current,
    List.getElem?_concat_length⟩

theorem holds_setNext {j : ℕ} (hs : m.heap[b.current]? = some (key, s))
    (hx : m.heap[j]? = some (key, x)) :
    Holds (m.setBuffer key { b with next := some j }) key { b with next := some j } s (some x) := by
  refine ⟨Function.update_self .., hs, fun j' hj => ?_, nofun⟩
  cases hj
  exact ⟨x, rfl, hx⟩

/-- One answer: a call has one end. -/
theorem Returns.exclusive (hP : Returns below loads key P m k p)
    (hQ : Returns below loads key Q m k p) : ∃ a, P a ∧ Q a := by
  obtain ⟨m, ⟨a, rest, ha, hPa⟩, ⟨a', rest', ha', hQa⟩⟩ := Ends.exclusive Elsewhere.refl hP hQ
  obtain ⟨heq, -⟩ := List.cons.inj (ha.symm.trans ha')
  obtain ⟨-, rfl⟩ := Prod.mk.inj heq
  exact ⟨a, hPa, hQa⟩

/-- **Other keys do not matter**: their calls leave a call that returns one that returns. -/
theorem Returns.others {w w' : World SharedSegments Task} {i : ℕ} {input : Input}
    (hw : SegmentsInv w) (hkey : (w.threads i).key ≠ some key)
    (hstep : World.step (segmentStep below) w (i, input) = some w')
    (h : Returns below loads key Q w.shared k p) : Returns below loads key Q w'.shared k p := by
  obtain ⟨m, p', hs, rfl⟩ := World.step_eq_some.mp hstep
  obtain ⟨hbuffer, hsegments⟩ := segmentStep_frame (hw.thread i) hkey hs
  exact Ends.interfere (fun _ _ _ => Elsewhere.trans) ⟨hbuffer, hsegments⟩ h

/-! ## One step -/

theorem loneStep_proceed (hload : p.loading = none)
    (h : segmentStep below 0 .proceed m p = some (m', p')) :
    loneStep below loads m (k, p) = some (m', (k, p')) := by
  unfold loneStep
  dsimp only
  rw [hload, h]
  rfl

theorem loneStep_load (hload : p.loading = some key)
    (h : segmentStep below 0 (.reply (loads k)) m p = some (m', p')) :
    loneStep below loads m (k, p) = some (m', (k + 1, p')) := by
  unfold loneStep
  dsimp only
  rw [hload, h]
  rfl

theorem ComesTo.proceed (hload : p.loading = none)
    (h : ∀ m', Elsewhere key m m' → ∃ m'' p', segmentStep below 0 .proceed m' p = some (m'', p') ∧
      p' ≠ .idle ∧ (H m'' (k, p') ∨ ComesTo below loads key H m'' k p')) :
    ComesTo below loads key H m k p := by
  refine Passes.next_step fun m' hE => ?_
  obtain ⟨m'', p', hstep, hidle, hon⟩ := h m' hE
  exact ⟨m'', (k, p'), loneStep_proceed hload hstep, hidle, hon⟩

theorem ComesTo.load (hload : p.loading = some key)
    (h : ∀ m', Elsewhere key m m' → ∃ m'' p',
      segmentStep below 0 (.reply (loads k)) m' p = some (m'', p') ∧
      p' ≠ .idle ∧ (H m'' (k + 1, p') ∨ ComesTo below loads key H m'' (k + 1) p')) :
    ComesTo below loads key H m k p := by
  refine Passes.next_step fun m' hE => ?_
  obtain ⟨m'', p', hstep, hidle, hon⟩ := h m' hE
  exact ⟨m'', (k + 1, p'), loneStep_load hload hstep, hidle, hon⟩

theorem Returns.answer (hload : p.loading = none) (h : ∀ m', Elsewhere key m m' →
    ∃ (m'' : SharedSegments) (a : Answer),
    segmentStep below 0 .proceed m' p = some (m''.answer key a, .idle) ∧ Q a) :
    Returns below loads key Q m k p := by
  refine Ends.last_step fun m' hE => ?_
  obtain ⟨m'', a, hstep, hQ⟩ := h m' hE
  exact ⟨m''.answer key a, (k, .idle), loneStep_proceed hload hstep, rfl, a, _, rfl, hQ⟩

theorem Returns.loadAnswer (hload : p.loading = some key) (h : ∀ m', Elsewhere key m m' →
    ∃ (m'' : SharedSegments) (a : Answer),
    segmentStep below 0 (.reply (loads k)) m' p = some (m''.answer key a, .idle) ∧ Q a) :
    Returns below loads key Q m k p := by
  refine Ends.last_step fun m' hE => ?_
  obtain ⟨m'', a, hstep, hQ⟩ := h m' hE
  exact ⟨m''.answer key a, (k + 1, .idle), loneStep_load hload hstep, rfl, a, _, rfl, hQ⟩

/-! ## When no call is under way -/

/-- The key of a call that is about to swap. -/
def Task.swapping : Task → Option String
  | .generate ctx _ .swap | .batchGenerate ctx _ _ .swap => some ctx.key
  | _ => none

/-- No call of the key is under way. -/
def Quiet (w : World SharedSegments Task) (key : String) : Prop :=
  ∀ i, (w.threads i).key ≠ some key

theorem swap_empties {i : ℕ} {input : Input} (h : segmentStep below i input m p = some (m', p'))
    (hp : p.swapping = some key) : (m'.pointers key).2 = none := by
  unfold Task.swapping at hp
  split at hp <;> cases hp
  all_goals
    obtain ⟨b, hb, he⟩ := Option.map_eq_some_iff.mp h
    split at he <;> cases he
    · rw [SharedSegments.pointers_setBuffer, Function.update_self]
    · rw [SharedSegments.pointers_of_buffer hb]
      assumption

/-- A call swaps right after it has filled the next slot. -/
theorem swapping_of_setNext {i : ℕ} {input : Input}
    (h : segmentStep below i input m p = some (m', p')) (hp : p.target = some (.next key)) :
    p'.swapping = some key := by
  cases p with
  | idle => cases hp
  | generate ctx tries next | batchGenerate ctx size fits next =>
    cases next with
    | setNext j =>
      cases hp
      obtain ⟨b, hb, he⟩ := Option.map_eq_some_iff.mp h
      cases he
      rfl
    | _ => cases hp

/-- Whoever fills the next slot is about to empty it. -/
def FilledBySwapper (w : World SharedSegments Task) : Prop :=
  ∀ key j, (w.shared.pointers key).2 = some j → ∃ i, (w.threads i).swapping = some key

theorem FilledBySwapper.step {w w' : World SharedSegments Task} {act : ℕ × Input}
    (h : FilledBySwapper w) (hstep : World.step (segmentStep below) w act = some w') :
    FilledBySwapper w' := by
  obtain ⟨i, input⟩ := act
  obtain ⟨m, p, hs, rfl⟩ := World.step_eq_some.mp hstep
  intro key j hj
  have hnot : (w.threads i).swapping ≠ some key := by
    intro hp
    cases hj.symm.trans (swap_empties hs hp)
  -- the slot was filled before, and by another call
  have hother : (w.shared.pointers key).2 = some j →
      ∃ i', ((World.mk m (Function.update w.threads i p)).threads i').swapping = some key := by
    intro hold
    obtain ⟨i', hi'⟩ := h key j hold
    refine ⟨i', ?_⟩
    dsimp only
    rw [Function.update_of_ne]
    · exact hi'
    · rintro rfl
      exact hnot hi'
  dsimp only at hj
  cases segmentStep_slots hs with
  | keep hm _ _ _ | load _ hm _ _ _ _ =>
    rw [hm] at hj
    exact hother hj
  | create key' hfree hm _ _ _ =>
    rw [hm] at hj
    by_cases hk : key = key'
    · rw [hk, Function.update_self] at hj
      cases hj
    · rw [Function.update_of_ne hk] at hj
      exact hother hj
  | takeNext key' b j' hb hj' hm _ _ _ _ =>
    rw [hm] at hj
    by_cases hk : key = key'
    · rw [hk, Function.update_self] at hj
      cases hj
    · rw [Function.update_of_ne hk] at hj
      exact hother hj
  | setNext key' b j' hb hm _ _ _ ht =>
    rw [hm] at hj
    by_cases hk : key = key'
    · refine ⟨i, ?_⟩
      dsimp only
      rw [Function.update_self, hk]
      exact swapping_of_setNext hs ht
    · rw [Function.update_of_ne hk] at hj
      exact hother hj
  | storeCurrent key' b j' hb hm _ _ _ _ =>
    rw [hm] at hj
    by_cases hk : key = key'
    · rw [hk, Function.update_self] at hj
      rw [← hk] at hb
      exact hother ((congrArg Prod.snd (SharedSegments.pointers_of_buffer hb)).trans hj)
    · rw [Function.update_of_ne hk] at hj
      exact hother hj

theorem Task.key_of_swapping (h : p.swapping = some key) : p.key = some key := by
  unfold Task.swapping at h
  split at h <;> cases h <;> rfl

theorem Task.key_of_flag (h : p.flag = some key) : p.key = some key := by
  unfold Task.flag at h
  split at h <;> cases h <;> rfl

/-- **At rest** the next slot is empty and nobody loads. -/
theorem quiet_buffer {w : World SharedSegments Task}
    (h : Reaches (World.step (segmentStep below)) Free noCalls w) (hquiet : Quiet w key)
    (hb : w.shared.buffers key = some b) : b.next = none ∧ b.loading = false := by
  have hstart : FilledBySwapper noCalls := fun key j hj => by cases hj
  have hfilled : FilledBySwapper w := h.invariant (I := FilledBySwapper) hstart
    fun _ _ _ hw _ hstep => hw.step hstep
  constructor
  · by_contra hne
    obtain ⟨j, hj⟩ := Option.ne_none_iff_exists'.mp hne
    obtain ⟨i, hi⟩ :=
      hfilled key j ((congrArg Prod.snd (SharedSegments.pointers_of_buffer hb)).trans hj)
    exact hquiet i (Task.key_of_swapping hi)
  · rw [← Bool.not_eq_true, ← SharedSegments.flagged_of_buffer hb]
    intro hset
    obtain ⟨i, hi⟩ := (held_of_reaches h).2 key hset
    exact hquiet i (Task.key_of_flag hi)

/-- A run of one call after the other leaves the other calls where they were. -/
theorem quiet_of_run {w : World SharedSegments Task} {acts : List (ℕ × Input)}
    (hall : ∀ a ∈ acts, a.1 = 0) (hrun : run (World.step (segmentStep below)) noCalls acts = some w)
    (hkey : (w.threads 0).key = none) : Quiet w key := by
  intro i hi
  by_cases hi0 : i = 0
  · rw [hi0, hkey] at hi
    cases hi
  · have hidle : w.threads i = noCalls.threads i := by
      refine World.run_untouched hrun fun a ha => ?_
      rw [hall a ha]
      exact Ne.symm hi0
    rw [hidle] at hi
    cases hi

/-! ## What a call finds -/

/-- The buffers point to segments of their keys. -/
def PointsToSegments (m : SharedSegments) (key : String) : Prop :=
  ∀ b, m.buffers key = some b → Owns m key b.current ∧ ∀ j ∈ b.next, Owns m key j

theorem holds_of_buffer (hm : PointsToSegments m key) (hb : m.buffers key = some b) :
    Holds m key b (m.currentSegment key) (m.nextSegment key) := by
  obtain ⟨⟨s, hs⟩, hnext⟩ := hm b hb
  have hcurrent : m.currentSegment key = s := by
    unfold SharedSegments.currentSegment
    rw [hb, Option.bind_some, hs]
    rfl
  refine ⟨hb, hcurrent ▸ hs, fun j hj => ?_, fun hnone => ?_⟩
  · obtain ⟨x, hx⟩ := hnext j hj
    refine ⟨x, ?_, hx⟩
    unfold SharedSegments.nextSegment
    rw [hb, Option.bind_some, hj, Option.bind_some, hx]
    rfl
  · unfold SharedSegments.nextSegment
    rw [hb, Option.bind_some, hnone]
    rfl

theorem segments_of_none (hb : m.buffers key = none) :
    m.currentSegment key = Segment.new 0 0 0 ∧ m.nextSegment key = none := by
  unfold SharedSegments.currentSegment SharedSegments.nextSegment
  rw [hb]
  exact ⟨rfl, rfl⟩

theorem holds_create (key : String) :
    Holds (m.create key) key ⟨m.heap.length, none, false⟩ (Segment.new 0 0 0) none where
  buffer := Function.update_self ..
  current := List.getElem?_concat_length
  ahead _ hj := by cases hj
  empty _ := rfl

section Reached

variable {w : World SharedSegments Task}
  (hw : Reaches (World.step (segmentStep below)) Free noCalls w)

include hw

theorem pointsToSegments_of_reaches (key : String) : PointsToSegments w.shared key := by
  have hinv : SegmentsInv w := hw.invariant (I := SegmentsInv) segmentsInv_noCalls
    fun _ _ _ h _ hstep => segmentsInv_step h hstep
  exact hinv.memory.pointers key

theorem nextSegment_of_quiet (hquiet : Quiet w key) : w.shared.nextSegment key = none := by
  cases hb : w.shared.buffers key with
  | none => exact (segments_of_none hb).2
  | some b =>
    have hholds := holds_of_buffer (pointsToSegments_of_reaches hw key) hb
    exact hholds.empty (quiet_buffer hw hquiet hb).1

end Reached

end NebulaId
