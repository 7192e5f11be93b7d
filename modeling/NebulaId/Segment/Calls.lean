import NebulaId.Machine.Threads
import NebulaId.Segment.Buffer

/-!
# Concurrent calls of `generate` and `batch_generate` (`core/algorithm/segment.rs`)

Any number of calls share the buffers of one `SegmentAlgorithm`. `segmentStep` takes one call
through one operation on a lock, an atomic or an `ArcSwap`, or through one reply of the
loader. Segments live on a heap, so that a call may hold one that has been swapped out.

* `Move`: what a step does to the buffers, the heap and the segment that the call holds.
* `segmentStep_cases`: every step of both functions is a `Move`.
-/

namespace NebulaId

open Machine

/-- The key of the buffer. -/
def GenerateContext.key (ctx : GenerateContext) : String := ctx.workspaceId ++ ":" ++ ctx.bizTag

/-- What a call returns. -/
inductive Answer where
  | generate (result : Result Id)
  | batchGenerate (result : Result IdBatch)

def Answer.ids : Answer → List Id
  | .generate (.ok id) => [id]
  | .batchGenerate (.ok batch) => batch.ids
  | _ => []

/-- The buffers, and every segment made so far with the key it was made for. `loaded` and
`answers` are the history. -/
structure SharedSegments where
  buffers : String → Option DoubleBuffer
  heap : List (String × Segment)
  loaded : List (String × SegmentData)
  answers : List (String × Answer)

namespace SharedSegments

def new : SharedSegments := ⟨fun _ => none, [], [], []⟩

def setBuffer (m : SharedSegments) (key : String) (b : DoubleBuffer) : SharedSegments :=
  { m with buffers := Function.update m.buffers key (some b) }

def setSegment (m : SharedSegments) (i : ℕ) (c : String × Segment) : SharedSegments :=
  { m with heap := m.heap.set i c }

def answer (m : SharedSegments) (key : String) (a : Answer) : SharedSegments :=
  { m with answers := (key, a) :: m.answers }

/-- The map has no buffer under the key: a new one points to an empty segment. -/
def create (m : SharedSegments) (key : String) : SharedSegments :=
  { m.setBuffer key ⟨m.heap.length, none, false⟩ with
    heap := m.heap ++ [(key, Segment.new 0 0 0)] }

/-- The loader has returned a range; its segment is the new last one of the heap. -/
def load (m : SharedSegments) (key : String) (d : SegmentData) : SharedSegments :=
  { m with
    heap := m.heap ++ [(key, Segment.new d.startId d.maxId d.step)]
    loaded := (key, d) :: m.loaded }

end SharedSegments

/-- The next operation of a call. -/
inductive Next where
  | findBuffer
  | insertBuffer
  | getCurrent
  | tryConsume (segment : ℕ)
  | needSwitch
  | needSwitchLock (segment : ℕ)
  | getNext
  | swap
  | storeCurrent (segment : ℕ)
  | tryStartLoading
  | loadSegment
  | finishLoading (loaded : Result ℕ)
  | setNext (segment : ℕ)
  | isLoading
  | getNextAgain
  | getExhausted
  | lockExhausted (segment : ℕ)

/-- `Vec::with_capacity` of so many ids, of 16 bytes each, does not overflow. -/
def CapacityFits (size : UInt64) : Prop := size.toNat * 16 < 2 ^ 63

instance (size : UInt64) : Decidable (CapacityFits size) := inferInstanceAs (Decidable (_ < _))

/-- A call with its local variables; `tries` is the loop counter of `generate`. -/
inductive Task where
  | idle
  | generate (ctx : GenerateContext) (tries : ℕ) (next : Next)
  | batchGenerate (ctx : GenerateContext) (size : UInt64) (fits : CapacityFits size) (next : Next)

/-- A new call, or the reply of the loader to a call that waits for it; for the other
operations there is nothing to choose. -/
inductive Input where
  | generate (ctx : GenerateContext)
  | batchGenerate (ctx : GenerateContext) (size : UInt64)
  | proceed
  | reply (result : Result SegmentData)

/-- The head of the loop after a pass. -/
def retry (ctx : GenerateContext) (tries : ℕ) : Task :=
  .generate ctx (tries + 1) (if tries + 1 < 3 then .getCurrent else .getExhausted)

/-- `generate` -/
def generateStep (below : UInt64 → UInt64 → Bool) (input : Input) (m : SharedSegments)
    (ctx : GenerateContext) (tries : ℕ) : Next → Option (SharedSegments × Task)
  | .findBuffer => some (m, .generate ctx tries
      (if (m.buffers ctx.key).isSome then .getCurrent else .insertBuffer))
  | .insertBuffer => some (if (m.buffers ctx.key).isSome then m else m.create ctx.key,
      .generate ctx tries .getCurrent)
  | .getCurrent => (m.buffers ctx.key).map fun b => (m, .generate ctx tries (.tryConsume b.current))
  | .tryConsume i => m.heap[i]?.map fun c =>
    match c.2.tryConsume 1 with
    | (some (start, _), s) => ((m.setSegment i (c.1, s)).answer ctx.key
        (.generate (.ok (Id.ofU64 start))), .idle)
    | (none, _) => (m, .generate ctx tries .needSwitch)
  | .needSwitch => (m.buffers ctx.key).map fun b =>
    (m, .generate ctx tries (.needSwitchLock b.current))
  | .needSwitchLock i => m.heap[i]?.map fun c =>
    (m, if c.2.needSwitch below then .generate ctx tries .getNext else retry ctx tries)
  | .getNext => (m.buffers ctx.key).map fun b =>
    (m, .generate ctx tries (if b.next.isSome then .swap else .tryStartLoading))
  | .swap => (m.buffers ctx.key).map fun b =>
    match b.next with
    | some i => (m.setBuffer ctx.key { b with next := none },
        .generate ctx tries (.storeCurrent i))
    | none => (m, retry ctx tries)
  | .storeCurrent i => (m.buffers ctx.key).map fun b =>
    (m.setBuffer ctx.key { b with current := i }, retry ctx tries)
  | .tryStartLoading => (m.buffers ctx.key).map fun b =>
    if b.loading then (m, .generate ctx tries .isLoading)
    else (m.setBuffer ctx.key { b with loading := true }, .generate ctx tries .loadSegment)
  | .loadSegment =>
    match input with
    | .reply (.ok d) => some (m.load ctx.key d,
        .generate ctx tries (.finishLoading (.ok m.heap.length)))
    | .reply (.error e) => some (m, .generate ctx tries (.finishLoading (.error e)))
    | _ => none
  | .finishLoading loaded => (m.buffers ctx.key).map fun b =>
    let m := m.setBuffer ctx.key { b with loading := false }
    match loaded with
    | .ok i => (m, .generate ctx tries (.setNext i))
    | .error e => (m.answer ctx.key (.generate (.error e)), .idle)
  | .setNext i => (m.buffers ctx.key).map fun b =>
    (m.setBuffer ctx.key { b with next := some i }, .generate ctx tries .swap)
  | .isLoading => (m.buffers ctx.key).map fun b =>
    (m, .generate ctx tries (if b.loading then .isLoading else .getNextAgain))
  | .getNextAgain => (m.buffers ctx.key).map fun b =>
    (m, if b.next.isSome then .generate ctx tries .swap else retry ctx tries)
  | .getExhausted => (m.buffers ctx.key).map fun b =>
    (m, .generate ctx tries (.lockExhausted b.current))
  | .lockExhausted i => m.heap[i]?.map fun c =>
    (m.answer ctx.key (.generate (.error (.segmentExhausted c.2.maxId))), .idle)

/-- The head of the loop; `ids` is empty there. -/
def loopHead (size : UInt64) : Next := if 0 < size then .getCurrent else .getExhausted

/-- `batch_generate` -/
def batchGenerateStep (below : UInt64 → UInt64 → Bool) (input : Input) (m : SharedSegments)
    (ctx : GenerateContext) (size : UInt64) (fits : CapacityFits size) :
    Next → Option (SharedSegments × Task)
  | .findBuffer => some (m, .batchGenerate ctx size fits
      (if (m.buffers ctx.key).isSome then loopHead size else .insertBuffer))
  | .insertBuffer => some (if (m.buffers ctx.key).isSome then m else m.create ctx.key,
      .batchGenerate ctx size fits (loopHead size))
  | .getCurrent => (m.buffers ctx.key).map fun b =>
    (m, .batchGenerate ctx size fits (.tryConsume b.current))
  | .tryConsume i => m.heap[i]?.map fun c =>
    match c.2.tryConsume size with
    | (some (start, stop), s) =>
      let ids := (u64Range start stop).map Id.ofU64
      if ids.isEmpty then
        (m.setSegment i (c.1, s), .batchGenerate ctx size fits .getExhausted)
      else ((m.setSegment i (c.1, s)).answer ctx.key
        (.batchGenerate (.ok ⟨ids, .segment, ctx.bizTag⟩)), .idle)
    | (none, _) => (m, .batchGenerate ctx size fits .needSwitch)
  | .needSwitch => (m.buffers ctx.key).map fun b =>
    (m, .batchGenerate ctx size fits (.needSwitchLock b.current))
  | .needSwitchLock i => m.heap[i]?.map fun c =>
    (m, .batchGenerate ctx size fits (if c.2.needSwitch below then .getNext else .getExhausted))
  | .getNext => (m.buffers ctx.key).map fun b =>
    (m, .batchGenerate ctx size fits (if b.next.isSome then .swap else .loadSegment))
  | .loadSegment =>
    match input with
    | .reply (.ok d) => some (m.load ctx.key d, .batchGenerate ctx size fits (.setNext m.heap.length))
    | .reply (.error e) => some (m.answer ctx.key (.batchGenerate (.error e)), .idle)
    | _ => none
  | .setNext i => (m.buffers ctx.key).map fun b =>
    (m.setBuffer ctx.key { b with next := some i }, .batchGenerate ctx size fits .swap)
  | .swap => (m.buffers ctx.key).map fun b =>
    match b.next with
    | some i => (m.setBuffer ctx.key { b with next := none },
        .batchGenerate ctx size fits (.storeCurrent i))
    | none => (m, .batchGenerate ctx size fits (loopHead size))
  | .storeCurrent i => (m.buffers ctx.key).map fun b =>
    (m.setBuffer ctx.key { b with current := i }, .batchGenerate ctx size fits (loopHead size))
  | .getExhausted => (m.buffers ctx.key).map fun b =>
    (m, .batchGenerate ctx size fits (.lockExhausted b.current))
  | .lockExhausted i => m.heap[i]?.map fun c =>
    (m.answer ctx.key (.batchGenerate (.error (.segmentExhausted c.2.maxId))), .idle)
  | .tryStartLoading | .finishLoading _ | .isLoading | .getNextAgain => none

/-- One operation of one call. -/
def segmentStep (below : UInt64 → UInt64 → Bool) (_ : ℕ) (input : Input) (m : SharedSegments) :
    Task → Option (SharedSegments × Task)
  | .idle =>
    match input with
    | .generate ctx => some (m, .generate ctx 0 .findBuffer)
    | .batchGenerate ctx size =>
      if fits : CapacityFits size then some (m, .batchGenerate ctx size fits .findBuffer) else none
    | _ => none
  | .generate ctx tries next => generateStep below input m ctx tries next
  | .batchGenerate ctx size fits next => batchGenerateStep below input m ctx size fits next

def noCalls : World SharedSegments Task := ⟨.new, fun _ => .idle⟩

/-! ## What a step can do -/

/-- The segment that the next operation is about. -/
def Next.held : Next → Option ℕ
  | .tryConsume i | .needSwitchLock i | .storeCurrent i | .finishLoading (.ok i) | .setNext i
  | .lockExhausted i => some i
  | _ => none

namespace Task

/-- The segment a call holds, with the key of the call. -/
def held : Task → Option (String × ℕ)
  | .idle => none
  | .generate ctx _ next | .batchGenerate ctx _ _ next => next.held.map fun i => (ctx.key, i)

/-- The segment that a call is about to take ids from, and how many. -/
def consuming : Task → Option (ℕ × UInt64)
  | .generate _ _ (.tryConsume i) => some (i, 1)
  | .batchGenerate _ size _ (.tryConsume i) => some (i, size)
  | _ => none

/-- The key that a call waits for the loader with. -/
def loading : Task → Option String
  | .generate ctx _ .loadSegment | .batchGenerate ctx _ _ .loadSegment => some ctx.key
  | _ => none

end Task

/-- The changes of one step: the new memory and the segment held afterwards. -/
inductive Move (input : Input) (m : SharedSegments) (p : Task) :
    SharedSegments → Option (String × ℕ) → Prop
  | quiet : Move input m p m none
  | fail (key : String) (a : Answer) (ha : a.ids = []) : Move input m p (m.answer key a) none
  | read (key : String) (b : DoubleBuffer) (hb : m.buffers key = some b) :
      Move input m p m (some (key, b.current))
  | flag (key : String) (b : DoubleBuffer) (loading : Bool) (held : Option (String × ℕ))
      (hb : m.buffers key = some b) (hheld : held = none ∨ held = p.held) :
      Move input m p (m.setBuffer key { b with loading := loading }) held
  | abandon (key : String) (b : DoubleBuffer) (a : Answer) (hb : m.buffers key = some b)
      (ha : a.ids = []) :
      Move input m p ((m.setBuffer key { b with loading := false }).answer key a) none
  | takeNext (key : String) (b : DoubleBuffer) (i : ℕ) (hb : m.buffers key = some b)
      (hi : b.next = some i) :
      Move input m p (m.setBuffer key { b with next := none }) (some (key, i))
  | storeCurrent (key : String) (b : DoubleBuffer) (i : ℕ) (hb : m.buffers key = some b)
      (hi : p.held = some (key, i)) : Move input m p (m.setBuffer key { b with current := i }) none
  | setNext (key : String) (b : DoubleBuffer) (i : ℕ) (hb : m.buffers key = some b)
      (hi : p.held = some (key, i)) :
      Move input m p (m.setBuffer key { b with next := some i }) none
  | create (key : String) (hb : m.buffers key = none) : Move input m p (m.create key) none
  | load (key : String) (d : SegmentData) (hp : p.loading = some key)
      (hd : input = .reply (.ok d)) : Move input m p (m.load key d) (some (key, m.heap.length))
  | consume (key : String) (i : ℕ) (count start stop : UInt64) (c : String × Segment)
      (s : Segment) (a : Answer) (hi : p.held = some (key, i))
      (hcount : p.consuming = some (i, count)) (hc : m.heap[i]? = some c)
      (hs : c.2.tryConsume count = (some (start, stop), s))
      (ha : a.ids = (u64Range start stop).map Id.ofU64 ∨ a.ids = [Id.ofU64 start] ∧ count = 1) :
      Move input m p ((m.setSegment i (c.1, s)).answer key a) none
  | waste (key : String) (i : ℕ) (count start stop : UInt64) (c : String × Segment)
      (s : Segment) (hi : p.held = some (key, i)) (hcount : p.consuming = some (i, count))
      (hc : m.heap[i]? = some c) (hs : c.2.tryConsume count = (some (start, stop), s))
      (hempty : u64Range start stop = []) : Move input m p (m.setSegment i (c.1, s)) none

variable {below : UInt64 → UInt64 → Bool} {input : Input} {m m' : SharedSegments} {p' : Task}

theorem held_retry (ctx : GenerateContext) (tries : ℕ) : (retry ctx tries).held = none := by
  unfold retry
  split <;> rfl

theorem held_loopHead (ctx : GenerateContext) (size : UInt64) (fits : CapacityFits size) :
    (Task.batchGenerate ctx size fits (loopHead size)).held = none := by
  unfold loopHead
  split <;> rfl

theorem generateStep_cases {ctx : GenerateContext} {tries : ℕ} {next : Next}
    (h : generateStep below input m ctx tries next = some (m', p')) :
    Move input m (.generate ctx tries next) m' p'.held := by
  cases next with
  | findBuffer =>
    cases h
    rw [show Task.held _ = none by split <;> rfl]
    exact .quiet
  | insertBuffer =>
    cases h
    split
    · exact .quiet
    · exact .create ctx.key (by simpa using ‹¬ (m.buffers ctx.key).isSome›)
  | getCurrent =>
    obtain ⟨b, hb, he⟩ := Option.map_eq_some_iff.mp h
    cases he
    exact .read ctx.key b hb
  | tryConsume i =>
    obtain ⟨c, hc, he⟩ := Option.map_eq_some_iff.mp h
    split at he
    · rename_i start stop s hs
      cases he
      exact .consume ctx.key i 1 start stop c s _ rfl rfl hc hs (Or.inr ⟨rfl, rfl⟩)
    · cases he
      exact .quiet
  | needSwitch =>
    obtain ⟨b, hb, he⟩ := Option.map_eq_some_iff.mp h
    cases he
    exact .read ctx.key b hb
  | needSwitchLock i =>
    obtain ⟨c, hc, he⟩ := Option.map_eq_some_iff.mp h
    cases he
    rw [show Task.held _ = none by split; exacts [rfl, held_retry ctx tries]]
    exact .quiet
  | getNext =>
    obtain ⟨b, hb, he⟩ := Option.map_eq_some_iff.mp h
    cases he
    rw [show Task.held _ = none by split <;> rfl]
    exact .quiet
  | swap =>
    obtain ⟨b, hb, he⟩ := Option.map_eq_some_iff.mp h
    split at he
    · rename_i i hi
      cases he
      exact .takeNext ctx.key b i hb hi
    · cases he
      rw [held_retry]
      exact .quiet
  | storeCurrent i =>
    obtain ⟨b, hb, he⟩ := Option.map_eq_some_iff.mp h
    cases he
    rw [held_retry]
    exact .storeCurrent ctx.key b i hb rfl
  | tryStartLoading =>
    obtain ⟨b, hb, he⟩ := Option.map_eq_some_iff.mp h
    split at he <;> cases he
    · exact .quiet
    · exact .flag ctx.key b true none hb (Or.inl rfl)
  | loadSegment =>
    unfold generateStep at h
    dsimp only at h
    split at h
    · rename_i d
      cases h
      exact .load ctx.key d rfl rfl
    · cases h
      exact .quiet
    · cases h
  | finishLoading loaded =>
    obtain ⟨b, hb, he⟩ := Option.map_eq_some_iff.mp h
    dsimp only at he
    split at he <;> cases he
    · exact .flag ctx.key b false _ hb (Or.inr rfl)
    · exact .abandon ctx.key b _ hb rfl
  | setNext i =>
    obtain ⟨b, hb, he⟩ := Option.map_eq_some_iff.mp h
    cases he
    exact .setNext ctx.key b i hb rfl
  | isLoading =>
    obtain ⟨b, hb, he⟩ := Option.map_eq_some_iff.mp h
    cases he
    rw [show Task.held _ = none by split <;> rfl]
    exact .quiet
  | getNextAgain =>
    obtain ⟨b, hb, he⟩ := Option.map_eq_some_iff.mp h
    cases he
    rw [show Task.held _ = none by split; exacts [rfl, held_retry ctx tries]]
    exact .quiet
  | getExhausted =>
    obtain ⟨b, hb, he⟩ := Option.map_eq_some_iff.mp h
    cases he
    exact .read ctx.key b hb
  | lockExhausted i =>
    obtain ⟨c, hc, he⟩ := Option.map_eq_some_iff.mp h
    cases he
    exact .fail ctx.key _ rfl

theorem batchGenerateStep_cases {ctx : GenerateContext} {size : UInt64}
    {fits : CapacityFits size} {next : Next}
    (h : batchGenerateStep below input m ctx size fits next = some (m', p')) :
    Move input m (.batchGenerate ctx size fits next) m' p'.held := by
  cases next with
  | findBuffer =>
    cases h
    rw [show Task.held _ = none by split; exacts [held_loopHead ctx size fits, rfl]]
    exact .quiet
  | insertBuffer =>
    cases h
    rw [held_loopHead]
    split
    · exact .quiet
    · exact .create ctx.key (by simpa using ‹¬ (m.buffers ctx.key).isSome›)
  | getCurrent =>
    obtain ⟨b, hb, he⟩ := Option.map_eq_some_iff.mp h
    cases he
    exact .read ctx.key b hb
  | tryConsume i =>
    obtain ⟨c, hc, he⟩ := Option.map_eq_some_iff.mp h
    dsimp only at he
    split at he
    · rename_i start stop s hs
      split at he <;> cases he
      · rename_i hempty
        refine .waste ctx.key i size start stop c s rfl rfl hc hs ?_
        simpa using hempty
      · exact .consume ctx.key i size start stop c s _ rfl rfl hc hs (Or.inl rfl)
    · cases he
      exact .quiet
  | needSwitch =>
    obtain ⟨b, hb, he⟩ := Option.map_eq_some_iff.mp h
    cases he
    exact .read ctx.key b hb
  | needSwitchLock i =>
    obtain ⟨c, hc, he⟩ := Option.map_eq_some_iff.mp h
    cases he
    rw [show Task.held _ = none by split <;> rfl]
    exact .quiet
  | getNext =>
    obtain ⟨b, hb, he⟩ := Option.map_eq_some_iff.mp h
    cases he
    rw [show Task.held _ = none by split <;> rfl]
    exact .quiet
  | loadSegment =>
    unfold batchGenerateStep at h
    dsimp only at h
    split at h
    · rename_i d
      cases h
      exact .load ctx.key d rfl rfl
    · cases h
      exact .fail ctx.key _ rfl
    · cases h
  | setNext i =>
    obtain ⟨b, hb, he⟩ := Option.map_eq_some_iff.mp h
    cases he
    exact .setNext ctx.key b i hb rfl
  | swap =>
    obtain ⟨b, hb, he⟩ := Option.map_eq_some_iff.mp h
    split at he
    · rename_i i hi
      cases he
      exact .takeNext ctx.key b i hb hi
    · cases he
      rw [held_loopHead]
      exact .quiet
  | storeCurrent i =>
    obtain ⟨b, hb, he⟩ := Option.map_eq_some_iff.mp h
    cases he
    rw [held_loopHead]
    exact .storeCurrent ctx.key b i hb rfl
  | getExhausted =>
    obtain ⟨b, hb, he⟩ := Option.map_eq_some_iff.mp h
    cases he
    exact .read ctx.key b hb
  | lockExhausted i =>
    obtain ⟨c, hc, he⟩ := Option.map_eq_some_iff.mp h
    cases he
    exact .fail ctx.key _ rfl
  | tryStartLoading => cases h
  | finishLoading loaded => cases h
  | isLoading => cases h
  | getNextAgain => cases h

/-- **Every step** is one of the moves. -/
theorem segmentStep_cases {i : ℕ} {p : Task}
    (h : segmentStep below i input m p = some (m', p')) : Move input m p m' p'.held := by
  cases p with
  | idle =>
    cases input with
    | generate ctx =>
      cases h
      exact .quiet
    | batchGenerate ctx size =>
      unfold segmentStep at h
      dsimp only at h
      split at h <;> cases h
      exact .quiet
    | proceed => cases h
    | reply result => cases h
  | generate ctx tries next => exact generateStep_cases h
  | batchGenerate ctx size fits next => exact batchGenerateStep_cases h

end NebulaId
