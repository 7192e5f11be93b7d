import NebulaId.Segment.Distinct

/-!
# Where segments are (`core/algorithm/segment.rs`)

A segment that the loader has returned is carried by its call to the next slot, and from there by a
swap to the current one.

* `segmentStep_slots`: how a step moves the segments between the slots and the calls.
-/

namespace NebulaId

open Machine

/-- Where a segment may be: in use, loaded ahead, or with a call that will store it. -/
inductive Slot where
  | current (key : String)
  | next (key : String)
  | carried (i : ℕ)
  deriving DecidableEq

def Next.carried : Next → Option ℕ
  | .finishLoading (.ok j) | .setNext j | .storeCurrent j => some j
  | _ => none

/-- The slot that the next operation overwrites. -/
def Next.target (key : String) : Next → Option Slot
  | .setNext _ => some (.next key)
  | .storeCurrent _ => some (.current key)
  | _ => none

namespace Task

def carried : Task → Option (String × ℕ)
  | .idle => none
  | .generate ctx _ next | .batchGenerate ctx _ _ next => next.carried.map fun j => (ctx.key, j)

def target : Task → Option Slot
  | .idle => none
  | .generate ctx _ next | .batchGenerate ctx _ _ next => next.target ctx.key

theorem target_ne_carried (p : Task) (i : ℕ) : p.target ≠ some (.carried i) := by
  intro h
  cases p with
  | idle => cases h
  | generate ctx tries next => cases next <;> cases h
  | batchGenerate ctx size fits next => cases next <;> cases h

/-- How many ids the call asks of a segment. -/
def need : Task → UInt64
  | .idle => 0
  | .generate _ _ _ => 1
  | .batchGenerate _ size _ _ => size

end Task

namespace SharedSegments

/-- The current and the next segment of the key. -/
def pointers (m : SharedSegments) (key : String) : Option ℕ × Option ℕ :=
  ((m.buffers key).map DoubleBuffer.current, (m.buffers key).bind DoubleBuffer.next)

/-- The segment has fewer ids left than the request needs. -/
def Short (m : SharedSegments) (j : ℕ) (need : UInt64) : Prop :=
  ∃ c ∈ m.heap[j]?, c.2.maxId.toNat - c.2.currentId.toNat < need.toNat

instance (m : SharedSegments) (j : ℕ) (need : UInt64) : Decidable (m.Short j need) :=
  inferInstanceAs (Decidable (∃ c ∈ m.heap[j]?, _))

variable {m : SharedSegments} {key : String} {b b' : DoubleBuffer}

theorem pointers_of_buffer (hb : m.buffers key = some b) :
    m.pointers key = (some b.current, b.next) := by
  unfold pointers
  rw [hb]
  rfl

theorem pointers_setBuffer (m : SharedSegments) (key : String) (b : DoubleBuffer) :
    (m.setBuffer key b).pointers = Function.update m.pointers key (some b.current, b.next) := by
  funext k
  by_cases hk : k = key
  · subst hk
    rw [Function.update_self]
    exact pointers_of_buffer (Function.update_self _ _ _)
  · rw [Function.update_of_ne hk]
    unfold pointers setBuffer
    dsimp only
    rw [Function.update_of_ne hk]

/-- The flag may change, and the pointers stay. -/
theorem pointers_setBuffer_keep (hb : m.buffers key = some b) (loading : Bool) :
    (m.setBuffer key { b with loading := loading }).pointers = m.pointers := by
  rw [pointers_setBuffer]
  dsimp only
  rw [← pointers_of_buffer hb]
  exact Function.update_eq_self key m.pointers

end SharedSegments

/-- What a step does to the pointers and to the segment that the call carries. -/
inductive SlotMove (m : SharedSegments) (p : Task) (m' : SharedSegments) (p' : Task) : Prop
  | keep (hm : m'.pointers = m.pointers) (hlen : m'.heap.length = m.heap.length)
      (hp : p'.carried = p.carried) (ht : p.target = none)
  | create (key : String) (hfree : m.pointers key = (none, none))
      (hm : m'.pointers = Function.update m.pointers key (some m.heap.length, none))
      (hlen : m'.heap.length = m.heap.length + 1) (hp : p'.carried = p.carried)
      (ht : p.target = none)
  | load (key : String) (hm : m'.pointers = m.pointers) (hlen : m'.heap.length = m.heap.length + 1)
      (hp : p.carried = none) (hp' : p'.carried = some (key, m.heap.length)) (ht : p.target = none)
  | takeNext (key : String) (b : DoubleBuffer) (j : ℕ) (hb : m.buffers key = some b)
      (hj : b.next = some j)
      (hm : m'.pointers = Function.update m.pointers key (some b.current, none))
      (hlen : m'.heap.length = m.heap.length) (hp : p.carried = none)
      (hp' : p'.carried = some (key, j)) (ht : p.target = none)
  | setNext (key : String) (b : DoubleBuffer) (j : ℕ) (hb : m.buffers key = some b)
      (hm : m'.pointers = Function.update m.pointers key (some b.current, some j))
      (hlen : m'.heap.length = m.heap.length) (hp : p.carried = some (key, j))
      (hp' : p'.carried = none) (ht : p.target = some (.next key))
  | storeCurrent (key : String) (b : DoubleBuffer) (j : ℕ) (hb : m.buffers key = some b)
      (hm : m'.pointers = Function.update m.pointers key (some j, b.next))
      (hlen : m'.heap.length = m.heap.length) (hp : p.carried = some (key, j))
      (hp' : p'.carried = none) (ht : p.target = some (.current key))

variable {below : UInt64 → UInt64 → Bool} {input : Input} {m m' : SharedSegments} {p p' : Task}

theorem carried_retry (ctx : GenerateContext) (tries : ℕ) : (retry ctx tries).carried = none := by
  unfold retry
  split <;> rfl

theorem carried_loopHead (ctx : GenerateContext) (size : UInt64) (fits : CapacityFits size) :
    (Task.batchGenerate ctx size fits (loopHead size)).carried = none := by
  unfold loopHead
  split <;> rfl

theorem slotMove_create {key : String} (hb : m.buffers key = none) (hp : p'.carried = p.carried)
    (ht : p.target = none) : SlotMove m p (m.create key) p' := by
  refine .create key ?_ ?_ ?_ hp ht
  · unfold SharedSegments.pointers
    rw [hb]
    rfl
  · exact SharedSegments.pointers_setBuffer m key _
  · exact List.length_append

theorem generateStep_slots {ctx : GenerateContext} {tries : ℕ} {next : Next}
    (h : generateStep below input m ctx tries next = some (m', p')) :
    SlotMove m (.generate ctx tries next) m' p' := by
  cases next with
  | findBuffer =>
    cases h
    exact .keep rfl rfl (by split <;> rfl) rfl
  | insertBuffer =>
    cases h
    split
    · exact .keep rfl rfl rfl rfl
    · exact slotMove_create (by simpa using ‹¬ (m.buffers ctx.key).isSome›) rfl rfl
  | getCurrent | needSwitch | getExhausted =>
    obtain ⟨b, hb, he⟩ := Option.map_eq_some_iff.mp h
    cases he
    exact .keep rfl rfl rfl rfl
  | tryConsume i =>
    obtain ⟨c, hc, he⟩ := Option.map_eq_some_iff.mp h
    split at he <;> cases he
    · exact .keep rfl List.length_set rfl rfl
    · exact .keep rfl rfl rfl rfl
  | needSwitchLock i =>
    obtain ⟨c, hc, he⟩ := Option.map_eq_some_iff.mp h
    cases he
    refine .keep rfl rfl ?_ rfl
    split
    · rfl
    · exact carried_retry ctx tries
  | getNext | isLoading =>
    obtain ⟨b, hb, he⟩ := Option.map_eq_some_iff.mp h
    cases he
    exact .keep rfl rfl (by split <;> rfl) rfl
  | swap =>
    obtain ⟨b, hb, he⟩ := Option.map_eq_some_iff.mp h
    split at he <;> cases he
    · rename_i j hj
      exact .takeNext ctx.key b j hb hj (SharedSegments.pointers_setBuffer ..) rfl rfl rfl rfl
    · exact .keep rfl rfl (carried_retry ctx tries) rfl
  | storeCurrent j =>
    obtain ⟨b, hb, he⟩ := Option.map_eq_some_iff.mp h
    cases he
    exact .storeCurrent ctx.key b j hb (SharedSegments.pointers_setBuffer ..) rfl rfl
      (carried_retry ctx tries) rfl
  | tryStartLoading =>
    obtain ⟨b, hb, he⟩ := Option.map_eq_some_iff.mp h
    split at he <;> cases he
    · exact .keep rfl rfl rfl rfl
    · exact .keep (SharedSegments.pointers_setBuffer_keep hb true) rfl rfl rfl
  | loadSegment =>
    unfold generateStep at h
    dsimp only at h
    split at h <;> cases h
    · exact .load ctx.key rfl List.length_append rfl rfl rfl
    · exact .keep rfl rfl rfl rfl
  | finishLoading loaded =>
    obtain ⟨b, hb, he⟩ := Option.map_eq_some_iff.mp h
    dsimp only at he
    split at he <;> cases he
    · exact .keep (SharedSegments.pointers_setBuffer_keep hb false) rfl rfl rfl
    · exact .keep (SharedSegments.pointers_setBuffer_keep hb false) rfl rfl rfl
  | setNext j =>
    obtain ⟨b, hb, he⟩ := Option.map_eq_some_iff.mp h
    cases he
    exact .setNext ctx.key b j hb (SharedSegments.pointers_setBuffer ..) rfl rfl rfl rfl
  | getNextAgain =>
    obtain ⟨b, hb, he⟩ := Option.map_eq_some_iff.mp h
    cases he
    refine .keep rfl rfl ?_ rfl
    split
    · rfl
    · exact carried_retry ctx tries
  | lockExhausted i =>
    obtain ⟨c, hc, he⟩ := Option.map_eq_some_iff.mp h
    cases he
    exact .keep rfl rfl rfl rfl

theorem batchGenerateStep_slots {ctx : GenerateContext} {size : UInt64} {fits : CapacityFits size}
    {next : Next} (h : batchGenerateStep below input m ctx size fits next = some (m', p')) :
    SlotMove m (.batchGenerate ctx size fits next) m' p' := by
  cases next with
  | findBuffer =>
    cases h
    refine .keep rfl rfl ?_ rfl
    split
    · exact carried_loopHead ctx size fits
    · rfl
  | insertBuffer =>
    cases h
    split
    · exact .keep rfl rfl (carried_loopHead ctx size fits) rfl
    · exact slotMove_create (by simpa using ‹¬ (m.buffers ctx.key).isSome›)
        (carried_loopHead ctx size fits) rfl
  | getCurrent | needSwitch | getExhausted =>
    obtain ⟨b, hb, he⟩ := Option.map_eq_some_iff.mp h
    cases he
    exact .keep rfl rfl rfl rfl
  | tryConsume i =>
    obtain ⟨c, hc, he⟩ := Option.map_eq_some_iff.mp h
    dsimp only at he
    split at he
    · split at he <;> cases he <;> exact .keep rfl List.length_set rfl rfl
    · cases he
      exact .keep rfl rfl rfl rfl
  | needSwitchLock i =>
    obtain ⟨c, hc, he⟩ := Option.map_eq_some_iff.mp h
    cases he
    exact .keep rfl rfl (by split <;> rfl) rfl
  | getNext =>
    obtain ⟨b, hb, he⟩ := Option.map_eq_some_iff.mp h
    cases he
    exact .keep rfl rfl (by split <;> rfl) rfl
  | loadSegment =>
    unfold batchGenerateStep at h
    dsimp only at h
    split at h <;> cases h
    · exact .load ctx.key rfl List.length_append rfl rfl rfl
    · exact .keep rfl rfl rfl rfl
  | setNext j =>
    obtain ⟨b, hb, he⟩ := Option.map_eq_some_iff.mp h
    cases he
    exact .setNext ctx.key b j hb (SharedSegments.pointers_setBuffer ..) rfl rfl rfl rfl
  | swap =>
    obtain ⟨b, hb, he⟩ := Option.map_eq_some_iff.mp h
    split at he <;> cases he
    · rename_i j hj
      exact .takeNext ctx.key b j hb hj (SharedSegments.pointers_setBuffer ..) rfl rfl rfl rfl
    · exact .keep rfl rfl (carried_loopHead ctx size fits) rfl
  | storeCurrent j =>
    obtain ⟨b, hb, he⟩ := Option.map_eq_some_iff.mp h
    cases he
    exact .storeCurrent ctx.key b j hb (SharedSegments.pointers_setBuffer ..) rfl rfl
      (carried_loopHead ctx size fits) rfl
  | lockExhausted i =>
    obtain ⟨c, hc, he⟩ := Option.map_eq_some_iff.mp h
    cases he
    exact .keep rfl rfl rfl rfl
  | tryStartLoading | finishLoading loaded | isLoading | getNextAgain => cases h

/-- **Every step** is one of the moves. -/
theorem segmentStep_slots {i : ℕ} (h : segmentStep below i input m p = some (m', p')) :
    SlotMove m p m' p' := by
  cases p with
  | idle =>
    cases input with
    | generate ctx =>
      cases h
      exact .keep rfl rfl rfl rfl
    | batchGenerate ctx size =>
      obtain ⟨fits, h⟩ := Option.dite_none_right_eq_some.mp h
      cases h
      exact .keep rfl rfl rfl rfl
    | proceed => cases h
    | reply result => cases h
  | generate ctx tries next => exact generateStep_slots h
  | batchGenerate ctx size fits next => exact batchGenerateStep_slots h

end NebulaId
