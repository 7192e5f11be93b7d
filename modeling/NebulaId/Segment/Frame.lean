import NebulaId.Segment.Distinct

/-!
# What a call of `SegmentAlgorithm` leaves alone

A call formats one key from its context and uses the buffer under it. Under every
interleaving its steps touch no other buffer, and no segment that was made for another key.

* `segmentStep_frame`: the frame of one step.
-/

namespace NebulaId

open Machine

/-- The key of the buffer that a call uses. -/
def Task.key : Task → Option String
  | .idle => none
  | .generate ctx _ _ | .batchGenerate ctx _ _ _ => some ctx.key

variable {m m' : SharedSegments} {key : String} {p p' : Task} {input : Input}
  {below : UInt64 → UInt64 → Bool}

namespace SharedSegments

theorem setBuffer_of_ne {k : String} {b : DoubleBuffer} (h : key ≠ k) :
    (m.setBuffer k b).buffers key = m.buffers key := Function.update_of_ne h _ _

theorem create_of_ne {k : String} (h : key ≠ k) : (m.create k).buffers key = m.buffers key :=
  setBuffer_of_ne h

end SharedSegments

/-- An operation that reads a buffer or a segment and goes on with what it found. -/
theorem buffers_of_map {α : Type} {found : Option α} {next : α → SharedSegments × Task}
    (hnext : ∀ a, (next a).1.buffers key = m.buffers key)
    (h : found.map next = some (m', p')) : m'.buffers key = m.buffers key := by
  obtain ⟨a, -, ha⟩ := Option.map_eq_some_iff.mp h
  have hkept := hnext a
  rw [ha] at hkept
  exact hkept

theorem generateStep_buffers {ctx : GenerateContext} {tries : ℕ} {next : Next}
    (hkey : key ≠ ctx.key) (h : generateStep below input m ctx tries next = some (m', p')) :
    m'.buffers key = m.buffers key := by
  have hset : ∀ b, (m.setBuffer ctx.key b).buffers key = m.buffers key :=
    fun b => SharedSegments.setBuffer_of_ne hkey
  cases next with
  | findBuffer =>
    cases h
    rfl
  | insertBuffer =>
    cases h
    split
    · rfl
    · exact SharedSegments.create_of_ne hkey
  | loadSegment =>
    simp only [generateStep] at h
    split at h <;> cases h <;> rfl
  | tryConsume i =>
    refine buffers_of_map (fun c => ?_) h
    split <;> rfl
  | swap =>
    refine buffers_of_map (fun b => ?_) h
    split
    · exact hset _
    · rfl
  | tryStartLoading =>
    refine buffers_of_map (fun b => ?_) h
    split
    · rfl
    · exact hset _
  | finishLoading loaded =>
    refine buffers_of_map (fun b => ?_) h
    cases loaded with
    | ok i => exact hset _
    | error e => exact hset _
  | storeCurrent i | setNext i => exact buffers_of_map (fun b => hset _) h
  | needSwitchLock i | lockExhausted i | getCurrent | needSwitch | getNext | isLoading
  | getNextAgain | getExhausted => exact buffers_of_map (fun _ => rfl) h

theorem batchGenerateStep_buffers {ctx : GenerateContext} {size : UInt64}
    {fits : CapacityFits size} {next : Next} (hkey : key ≠ ctx.key)
    (h : batchGenerateStep below input m ctx size fits next = some (m', p')) :
    m'.buffers key = m.buffers key := by
  have hset : ∀ b, (m.setBuffer ctx.key b).buffers key = m.buffers key :=
    fun b => SharedSegments.setBuffer_of_ne hkey
  cases next with
  | findBuffer =>
    cases h
    rfl
  | insertBuffer =>
    cases h
    split
    · rfl
    · exact SharedSegments.create_of_ne hkey
  | loadSegment =>
    simp only [batchGenerateStep] at h
    split at h <;> cases h <;> rfl
  | tryConsume i =>
    refine buffers_of_map (fun c => ?_) h
    split
    · dsimp only
      split <;> rfl
    · rfl
  | swap =>
    refine buffers_of_map (fun b => ?_) h
    split
    · exact hset _
    · rfl
  | storeCurrent i | setNext i => exact buffers_of_map (fun b => hset _) h
  | needSwitchLock i | lockExhausted i | getCurrent | needSwitch | getNext | getExhausted =>
    exact buffers_of_map (fun _ => rfl) h
  | tryStartLoading | finishLoading loaded | isLoading | getNextAgain => cases h

theorem Task.key_of_held {k : String} {i : ℕ} (h : p.held = some (k, i)) : p.key = some k := by
  cases p with
  | idle => cases h
  | generate ctx tries next =>
    obtain ⟨j, -, he⟩ := Option.map_eq_some_iff.mp h
    cases he
    rfl
  | batchGenerate ctx size fits next =>
    obtain ⟨j, -, he⟩ := Option.map_eq_some_iff.mp h
    cases he
    rfl

/-- A segment of another key is not written: the call takes ids from a segment of its own. -/
theorem Move.segments {held : Option (String × ℕ)} {j : ℕ} {s : Segment}
    (h : Move input m p m' held) (hp : HoldsOwn m 0 p) (hkey : p.key ≠ some key)
    (hj : m.heap[j]? = some (key, s)) : m'.heap[j]? = some (key, s) := by
  have happend : ∀ c, (m.heap ++ [c])[j]? = some (key, s) := by
    intro c
    rw [List.getElem?_append_left (List.getElem?_eq_some_iff.mp hj).1, hj]
  have hset : ∀ k i c, p.held = some (k, i) → (m.heap.set i c)[j]? = some (key, s) := by
    intro k i c hi
    have hne : i ≠ j := by
      rintro rfl
      obtain ⟨t, ht⟩ := hp k i hi
      cases ht.symm.trans hj
      exact hkey (Task.key_of_held hi)
    rw [List.getElem?_set_ne hne, hj]
  cases h with
  | create key' hb => exact happend _
  | load key' d hloading hd => exact happend _
  | consume key' i count start stop c t a hi hcount hc hs ha => exact hset key' i _ hi
  | waste key' i count start stop c t hi hcount hc hs hempty => exact hset key' i _ hi
  | _ => exact hj

/-- **The frame of one step**: a call of another key leaves the buffer and the segments as
they are. -/
theorem segmentStep_frame {i : ℕ} (hp : HoldsOwn m i p) (hkey : p.key ≠ some key)
    (h : segmentStep below i input m p = some (m', p')) :
    m'.buffers key = m.buffers key ∧
      ∀ (j : ℕ) s, m.heap[j]? = some (key, s) → m'.heap[j]? = some (key, s) := by
  refine ⟨?_, fun j s hj => (segmentStep_cases h).segments hp hkey hj⟩
  cases p with
  | idle =>
    cases input with
    | generate ctx =>
      cases h
      rfl
    | batchGenerate ctx size =>
      simp only [segmentStep] at h
      split at h <;> cases h
      rfl
    | proceed => cases h
    | reply result => cases h
  | generate ctx tries next =>
    exact generateStep_buffers (fun hk => hkey (congrArg some hk.symm)) h
  | batchGenerate ctx size fits next =>
    exact batchGenerateStep_buffers (fun hk => hkey (congrArg some hk.symm)) h

end NebulaId
