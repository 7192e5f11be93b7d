import NebulaId.Segment.LoneGenerate

/-!
# A batch without other calls on its key (`core/algorithm/segment.rs`)

Each pass of the loop of `batch_generate` ends the call, or puts the next segment in use, or one
that the loader returns. Nothing bounds the passes, and whether there is another one depends on how
much of the segment is left, not on whether the batch fits into it.

* `batch_terminates_iff`: the call returns if and only if a segment or a reply of the loader
  settles it.
* `batch_served_iff`: with a loader whose segments are large enough the call returns the batch if
  and only if it fits into the segment in use, or that segment is to be switched.
* `batch_never_returns`, `batch_not_served`: empty segments for ever, and two ids left of ten.
-/

namespace NebulaId

open Machine

variable {below : UInt64 → UInt64 → Bool} {loads : ℕ → Result SegmentData} {m : SharedSegments}
  {b : DoubleBuffer} {s x : Segment} {next : Option Segment} {k : ℕ} {Q : Answer → Prop}
  {ctx : GenerateContext} {size : UInt64} {fits : CapacityFits size}

/-! ## A pass of the loop -/

/-- The call is at an operation, and the segments of its key are these. -/
def BatchAt (ctx : GenerateContext) (size : UInt64) (fits : CapacityFits size) (op : Next) (k : ℕ)
    (s : Segment) (next : Option Segment) (m : SharedSegments) (c : ℕ × Task) : Prop :=
  c = (k, .batchGenerate ctx size fits op) ∧ ∃ b, Holds m ctx.key b s next

/-- The segment has too few ids: the call looks whether to switch. -/
theorem batch_refuses (h : Holds m ctx.key b s next) (hs : s.tryConsume size = (none, s)) :
    ComesTo below loads ctx.key
      (BatchAt ctx size fits (if s.needSwitch below then .getNext else .getExhausted) k s next) m k
      (.batchGenerate ctx size fits .getCurrent) := by
  refine .proceed rfl fun m₁ h₁ => ?_
  replace h := h.elsewhere h₁
  refine ⟨m₁, _, Option.map_eq_some_iff.mpr ⟨b, h.buffer, rfl⟩, nofun, Or.inr ?_⟩
  refine .proceed rfl fun m₂ h₂ => ?_
  replace h := h.elsewhere h₂
  refine ⟨m₂, .batchGenerate ctx size fits .needSwitch,
    Option.map_eq_some_iff.mpr ⟨_, h.current, ?_⟩, nofun, Or.inr ?_⟩
  · dsimp only
    rw [hs]
  refine .proceed rfl fun m₃ h₃ => ?_
  replace h := h.elsewhere h₃
  refine ⟨m₃, _, Option.map_eq_some_iff.mpr ⟨b, h.buffer, rfl⟩, nofun, Or.inr ?_⟩
  refine .proceed rfl fun m₄ h₄ => ?_
  replace h := h.elsewhere h₄
  exact ⟨m₄, _, Option.map_eq_some_iff.mpr ⟨_, h.current, rfl⟩, nofun, Or.inl ⟨rfl, b, h⟩⟩

/-- A swap puts the next segment in use. -/
theorem batch_swap (hsize : 0 < size) (h : Holds m ctx.key b s (some x)) :
    ComesTo below loads ctx.key (BatchAt ctx size fits .getCurrent k x none) m k
      (.batchGenerate ctx size fits .swap) := by
  refine .proceed rfl fun m₁ h₁ => ?_
  replace h := h.elsewhere h₁
  obtain ⟨j, hj⟩ := Option.ne_none_iff_exists'.mp fun hnone => nomatch h.empty hnone
  refine ⟨m₁.setBuffer ctx.key { b with next := none },
    .batchGenerate ctx size fits (.storeCurrent j),
    Option.map_eq_some_iff.mpr ⟨b, h.buffer, ?_⟩, nofun, Or.inr ?_⟩
  · rw [hj]
  obtain ⟨x', hx, hheap⟩ := h.ahead j hj
  obtain rfl := Option.some.inj hx
  refine .proceed rfl fun m₂ h₂ => ?_
  have hbuffer : m₂.buffers ctx.key = some { b with next := none } :=
    h₂.buffer.trans (Function.update_self ..)
  refine ⟨m₂.setBuffer ctx.key ⟨j, none, b.loading⟩, .batchGenerate ctx size fits .getCurrent,
    Option.map_eq_some_iff.mpr ⟨_, hbuffer, ?_⟩, nofun, Or.inl ⟨rfl, ⟨j, none, b.loading⟩, ?_⟩⟩
  · unfold loopHead
    rw [if_pos hsize]
  · exact ⟨Function.update_self .., h₂.segments j x hheap, nofun, fun _ => rfl⟩

theorem batch_switches (hsize : 0 < size) (h : Holds m ctx.key b s (some x)) :
    ComesTo below loads ctx.key (BatchAt ctx size fits .getCurrent k x none) m k
      (.batchGenerate ctx size fits .getNext) := by
  refine .proceed rfl fun m₁ h₁ => ?_
  replace h := h.elsewhere h₁
  refine ⟨m₁, .batchGenerate ctx size fits .swap,
    Option.map_eq_some_iff.mpr ⟨b, h.buffer, ?_⟩, nofun, Or.inr (batch_swap hsize h)⟩
  rw [if_pos]
  exact Option.isSome_iff_ne_none.mpr fun hnone => nomatch h.empty hnone

theorem batch_asks (h : Holds m ctx.key b s none) :
    ComesTo below loads ctx.key (BatchAt ctx size fits .loadSegment k s none) m k
      (.batchGenerate ctx size fits .getNext) := by
  refine .proceed rfl fun m₁ h₁ => ?_
  replace h := h.elsewhere h₁
  refine ⟨m₁, .batchGenerate ctx size fits .loadSegment,
    Option.map_eq_some_iff.mpr ⟨b, h.buffer, ?_⟩, nofun, Or.inl ⟨rfl, b, h⟩⟩
  rw [if_neg]
  intro hsome
  obtain ⟨j, hj⟩ := Option.isSome_iff_exists.mp hsome
  obtain ⟨_, hx, -⟩ := h.ahead j hj
  cases hx

/-- The loader returns a range, and the next pass finds its segment in use. -/
theorem batch_loads {d : SegmentData} (hsize : 0 < size) (hload : loads k = .ok d)
    (h : Holds m ctx.key b s none) :
    ComesTo below loads ctx.key
      (BatchAt ctx size fits .getCurrent (k + 1) (Segment.new d.startId d.maxId d.step) none) m k
      (.batchGenerate ctx size fits .loadSegment) := by
  refine .load rfl fun m₁ h₁ => ?_
  replace h := h.elsewhere h₁
  refine ⟨m₁.load ctx.key d, .batchGenerate ctx size fits (.setNext m₁.heap.length), ?_, nofun,
    Or.inr ?_⟩
  · rw [hload]
    rfl
  obtain ⟨hcurrent, hlast⟩ := h.load d
  refine .proceed rfl fun m₂ h₂ => ?_
  have hbuffer : m₂.buffers ctx.key = some b := h₂.buffer.trans h.buffer
  have hnext := holds_setNext (h₂.segments _ s hcurrent) (h₂.segments _ _ hlast)
  exact ⟨_, _, Option.map_eq_some_iff.mpr ⟨b, hbuffer, rfl⟩, nofun, Or.inr (batch_swap hsize hnext)⟩

theorem batch_load_fails {e : CoreError} (hload : loads k = .error e)
    (hQ : Q (.batchGenerate (.error e))) :
    Returns below loads ctx.key Q m k (.batchGenerate ctx size fits .loadSegment) := by
  refine .loadAnswer rfl fun m₁ _ => ⟨m₁, .batchGenerate (.error e), ?_, hQ⟩
  rw [hload]
  rfl

theorem batch_exhausted (hb : m.buffers ctx.key = some b)
    (hs : m.heap[b.current]? = some (ctx.key, s))
    (hQ : Q (.batchGenerate (.error (.segmentExhausted s.maxId)))) :
    Returns below loads ctx.key Q m k (.batchGenerate ctx size fits .getExhausted) := by
  have hread : ComesTo below loads ctx.key (fun m c =>
      c = (k, .batchGenerate ctx size fits (.lockExhausted b.current)) ∧
        m.heap[b.current]? = some (ctx.key, s)) m k
      (.batchGenerate ctx size fits .getExhausted) := by
    refine .proceed rfl fun m₁ h₁ => ?_
    have hb₁ : m₁.buffers ctx.key = some b := h₁.buffer.trans hb
    exact ⟨m₁, _, Option.map_eq_some_iff.mpr ⟨b, hb₁, rfl⟩, nofun,
      Or.inl ⟨rfl, h₁.segments _ s hs⟩⟩
  refine hread.ends ?_
  rintro m₁ _ ⟨rfl, hs₁⟩
  refine Returns.answer rfl fun m₂ h₂ => ⟨m₂, _, ?_, hQ⟩
  exact Option.map_eq_some_iff.mpr ⟨_, h₂.segments _ s hs₁, rfl⟩

theorem batch_reads (hb : m.buffers ctx.key = some b)
    (hs : m.heap[b.current]? = some (ctx.key, s)) :
    ComesTo below loads ctx.key (fun m c =>
      c = (k, .batchGenerate ctx size fits (.tryConsume b.current)) ∧
        m.buffers ctx.key = some b ∧ m.heap[b.current]? = some (ctx.key, s)) m k
      (.batchGenerate ctx size fits .getCurrent) := by
  refine .proceed rfl fun m₁ h₁ => ?_
  have hb₁ : m₁.buffers ctx.key = some b := h₁.buffer.trans hb
  exact ⟨m₁, _, Option.map_eq_some_iff.mpr ⟨b, hb₁, rfl⟩, nofun,
    Or.inl ⟨rfl, hb₁, h₁.segments _ s hs⟩⟩

/-- The call takes its ids. -/
theorem batch_consumes {start stop : UInt64} {s' : Segment} (h : Holds m ctx.key b s next)
    (hs : s.tryConsume size = (some (start, stop), s')) (hids : u64Range start stop ≠ [])
    (hQ : Q (.batchGenerate (.ok ⟨(u64Range start stop).map Id.ofU64, .segment, ctx.bizTag⟩))) :
    Returns below loads ctx.key Q m k (.batchGenerate ctx size fits .getCurrent) := by
  refine (batch_reads h.buffer h.current).ends ?_
  rintro m₁ _ ⟨rfl, -, hs₁⟩
  refine Returns.answer rfl fun m₂ h₂ => ⟨m₂.setSegment b.current (ctx.key, s'), _, ?_, hQ⟩
  refine Option.map_eq_some_iff.mpr ⟨_, h₂.segments _ s hs₁, ?_⟩
  dsimp only
  rw [hs]
  dsimp only
  rw [if_neg]
  rw [List.isEmpty_iff, List.map_eq_nil_iff]
  exact hids

/-- The sum has wrapped, and what the call takes is no id at all. -/
theorem batch_wastes {start stop : UInt64} {s' : Segment} (h : Holds m ctx.key b s next)
    (hs : s.tryConsume size = (some (start, stop), s')) (hids : u64Range start stop = [])
    (hQ : Q (.batchGenerate (.error (.segmentExhausted s.maxId)))) :
    Returns below loads ctx.key Q m k (.batchGenerate ctx size fits .getCurrent) := by
  have hempty : ComesTo below loads ctx.key (fun m c =>
      c = (k, .batchGenerate ctx size fits .getExhausted) ∧
        m.buffers ctx.key = some b ∧ m.heap[b.current]? = some (ctx.key, s')) m k
      (.batchGenerate ctx size fits .getCurrent) := by
    refine (batch_reads h.buffer h.current).trans ?_
    rintro m₁ _ ⟨rfl, hb₁, hs₁⟩
    refine ComesTo.proceed rfl fun m₂ h₂ => ?_
    have hc := h₂.segments _ s hs₁
    refine ⟨m₂.setSegment b.current (ctx.key, s'), .batchGenerate ctx size fits .getExhausted,
      Option.map_eq_some_iff.mpr ⟨_, hc, ?_⟩, nofun, Or.inl ⟨rfl, h₂.buffer.trans hb₁, ?_⟩⟩
    · dsimp only
      rw [hs]
      dsimp only
      rw [if_pos]
      rw [hids]
      rfl
    · exact List.getElem?_set_self (List.getElem?_eq_some_iff.mp hc).1
  refine hempty.ends ?_
  rintro m₁ _ ⟨rfl, hb₁, hs₁⟩
  have hmax : s'.maxId = s.maxId := (Segment.tryConsume_range hs).2
  rw [← hmax] at hQ
  exact batch_exhausted hb₁ hs₁ hQ

/-! ## The loop -/

/-- The first two operations come to the head of the loop. -/
theorem batch_begins (hm : PointsToSegments m ctx.key) :
    ComesTo below loads ctx.key
      (BatchAt ctx size fits (loopHead size) k (m.currentSegment ctx.key) (m.nextSegment ctx.key)) m k
      (.batchGenerate ctx size fits .findBuffer) := by
  cases hb : m.buffers ctx.key with
  | some b =>
    have hholds := holds_of_buffer hm hb
    refine .proceed rfl fun m₁ h₁ => ⟨m₁, .batchGenerate ctx size fits (loopHead size), ?_, nofun,
      Or.inl ⟨rfl, b, hholds.elsewhere h₁⟩⟩
    have hsome : (m₁.buffers ctx.key).isSome = true := by
      rw [h₁.buffer, hb]
      rfl
    exact congrArg (fun op => some (m₁, Task.batchGenerate ctx size fits op)) (if_pos hsome)
  | none =>
    obtain ⟨hcurrent, hnext⟩ := segments_of_none hb
    rw [hcurrent, hnext]
    have hnone : ∀ m₁, Elsewhere ctx.key m m₁ → ¬ (m₁.buffers ctx.key).isSome = true := by
      intro m₁ h₁
      rw [h₁.buffer, hb]
      exact Bool.false_ne_true
    refine .proceed rfl fun m₁ h₁ => ⟨m₁, .batchGenerate ctx size fits .insertBuffer, ?_, nofun,
      Or.inr ?_⟩
    · exact congrArg (fun op => some (m₁, Task.batchGenerate ctx size fits op))
        (if_neg (hnone m₁ h₁))
    refine .proceed rfl fun m₂ h₂ => ⟨m₂.create ctx.key,
      .batchGenerate ctx size fits (loopHead size), ?_, nofun,
      Or.inl ⟨rfl, _, holds_create ctx.key⟩⟩
    exact congrArg (fun m => some (m, Task.batchGenerate ctx size fits (loopHead size)))
      (if_neg (hnone m₂ (h₁.trans h₂)))

/-- The pass with this segment in use is the last one. -/
def Settles (below : UInt64 → UInt64 → Bool) (s : Segment) (size : UInt64) : Prop :=
  (s.tryConsume size).1.isSome ∨ s.needSwitch below = false

instance (s : Segment) (size : UInt64) : Decidable (Settles below s size) :=
  inferInstanceAs (Decidable (_ ∨ _))

/-- The loader fails, or its segment settles the call. -/
def LoadSettles (below : UInt64 → UInt64 → Bool) (size : UInt64) (r : Result SegmentData) : Prop :=
  ∀ d, r = .ok d → Settles below (Segment.new d.startId d.maxId d.step) size

theorem batch_settled (h : Holds m ctx.key b s next) (hs : Settles below s size) :
    Returns below loads ctx.key (fun _ => True) m k
      (.batchGenerate ctx size fits .getCurrent) := by
  cases hc : s.tryConsume size with
  | mk r s' =>
    cases r with
    | some range =>
      obtain ⟨start, stop⟩ := range
      by_cases hids : u64Range start stop = []
      · exact batch_wastes h hc hids trivial
      · exact batch_consumes h hc hids trivial
    | none =>
      have hnone : (s.tryConsume size).1 = none := congrArg Prod.fst hc
      have hstay : s.needSwitch below = false := by
        refine hs.resolve_left fun hsome => ?_
        rw [hnone] at hsome
        cases hsome
      have hrefused : s.tryConsume size = (none, s) := by
        refine Segment.tryConsume_refused ?_
        rw [hnone]
        exact Bool.false_ne_true
      refine (batch_refuses h hrefused).ends ?_
      rintro m₁ _ ⟨rfl, b₁, h₁⟩
      rw [hstay]
      exact batch_exhausted h₁.buffer h₁.current trivial

/-- A segment that does not settle the call makes room for the next one. -/
theorem batch_unsettled (h : Holds m ctx.key b s next) (hs : ¬ Settles below s size) :
    ComesTo below loads ctx.key (BatchAt ctx size fits .getNext k s next) m k
      (.batchGenerate ctx size fits .getCurrent) := by
  obtain ⟨hconsume, hswitch⟩ := not_or.mp hs
  have hop : (if s.needSwitch below then Next.getNext else .getExhausted) = .getNext :=
    if_pos (Bool.eq_true_of_not_eq_false hswitch)
  rw [← hop]
  exact batch_refuses h (Segment.tryConsume_refused hconsume)

/-- From an unsettled segment, with nothing loaded ahead, the loader is asked. -/
theorem batch_reloads {d : SegmentData} (hsize : 0 < size) (h : Holds m ctx.key b s none)
    (hs : ¬ Settles below s size) (hload : loads k = .ok d) :
    ComesTo below loads ctx.key
      (BatchAt ctx size fits .getCurrent (k + 1) (Segment.new d.startId d.maxId d.step) none) m k
      (.batchGenerate ctx size fits .getCurrent) := by
  refine (batch_unsettled h hs).trans ?_
  rintro m₁ _ ⟨rfl, b₁, h₁⟩
  refine (batch_asks h₁).trans ?_
  rintro m₂ _ ⟨rfl, b₂, h₂⟩
  exact batch_loads hsize hload h₂

theorem batch_fails {e : CoreError} (h : Holds m ctx.key b s none) (hs : ¬ Settles below s size)
    (hload : loads k = .error e) (hQ : Q (.batchGenerate (.error e))) :
    Returns below loads ctx.key Q m k (.batchGenerate ctx size fits .getCurrent) := by
  refine (batch_unsettled h hs).ends ?_
  rintro m₁ _ ⟨rfl, b₁, h₁⟩
  refine (batch_asks h₁).ends ?_
  rintro m₂ _ ⟨rfl, -⟩
  exact batch_load_fails hload hQ

/-- By induction on the loads up to the one that settles the call. -/
theorem batch_returns_of_load (hsize : 0 < size) (n : ℕ) {k : ℕ} {m : SharedSegments}
    {b : DoubleBuffer} {s : Segment} (h : Holds m ctx.key b s none)
    (hn : LoadSettles below size (loads (k + n))) :
    Returns below loads ctx.key (fun _ => True) m k
      (.batchGenerate ctx size fits .getCurrent) := by
  induction n generalizing k m b s with
  | zero =>
    by_cases hs : Settles below s size
    · exact batch_settled h hs
    · cases hload : loads k with
      | error e => exact batch_fails h hs hload trivial
      | ok d =>
        refine (batch_reloads hsize h hs hload).ends ?_
        rintro m₁ _ ⟨rfl, b₁, h₁⟩
        exact batch_settled h₁ (hn d hload)
  | succ n ih =>
    by_cases hs : Settles below s size
    · exact batch_settled h hs
    · cases hload : loads k with
      | error e => exact batch_fails h hs hload trivial
      | ok d =>
        refine (batch_reloads hsize h hs hload).ends ?_
        rintro m₁ _ ⟨rfl, b₁, h₁⟩
        have hidx : k + 1 + n = k + (n + 1) := by omega
        exact ih h₁ (hidx ▸ hn)

/-- Neither the segment in use nor any of the loader settles the call. -/
def Unsettled (below : UInt64 → UInt64 → Bool) (ctx : GenerateContext) (size : UInt64)
    (fits : CapacityFits size) (m : SharedSegments) (c : ℕ × Task) : Prop :=
  ∃ k s, BatchAt ctx size fits .getCurrent k s none m c ∧ ¬ Settles below s size

theorem batch_endless (hsize : 0 < size) (hloads : ∀ k, ¬ LoadSettles below size (loads k))
    {c : ℕ × Task} (h : Unsettled below ctx size fits m c) :
    Passes (loneStep below loads) (Elsewhere ctx.key) (fun c => c.2 = .idle)
      (Unsettled below ctx size fits) m c := by
  obtain ⟨k, s, ⟨rfl, b, hb⟩, hs⟩ := h
  obtain ⟨d, hload, hd⟩ : ∃ d, loads k = .ok d ∧
      ¬ Settles below (Segment.new d.startId d.maxId d.step) size := by
    have hk := hloads k
    unfold LoadSettles at hk
    push Not at hk
    exact hk
  refine (batch_reloads hsize hb hs hload).mono ?_
  rintro m₁ c₁ hat
  exact ⟨k + 1, _, hat, hd⟩

/-- **Termination.** A batch call returns if and only if it asks for no id, or a segment that it
finds or a reply of the loader settles it. -/
theorem batch_terminates_iff (below : UInt64 → UInt64 → Bool) (loads : ℕ → Result SegmentData)
    (m : SharedSegments) (ctx : GenerateContext) (size : UInt64) (fits : CapacityFits size)
    (hm : PointsToSegments m ctx.key) :
    Returns below loads ctx.key (fun _ => True) m 0 (.batchGenerate ctx size fits .findBuffer) ↔
      size = 0 ∨ Settles below (m.currentSegment ctx.key) size ∨
        (∃ x, m.nextSegment ctx.key = some x ∧ Settles below x size) ∨
        ∃ k, LoadSettles below size (loads k) := by
  have hbegins : ComesTo below loads ctx.key (BatchAt ctx size fits (loopHead size) 0
      (m.currentSegment ctx.key) (m.nextSegment ctx.key)) m 0
      (.batchGenerate ctx size fits .findBuffer) := batch_begins hm
  by_cases hsize : 0 < size
  · rw [show loopHead size = .getCurrent from if_pos hsize] at hbegins
    constructor
    · intro hreturns
      by_contra hnever
      obtain ⟨-, hnever⟩ := not_or.mp hnever
      obtain ⟨hcurrent, hnever⟩ := not_or.mp hnever
      obtain ⟨hnext, hloads⟩ := not_or.mp hnever
      rw [not_exists] at hloads
      -- after the next segment, if there is one, the call goes round with the loader
      have hloop : ComesTo below loads ctx.key (Unsettled below ctx size fits) m 0
          (.batchGenerate ctx size fits .findBuffer) := by
        cases hx : m.nextSegment ctx.key with
        | none =>
          rw [hx] at hbegins
          exact hbegins.mono fun m₁ c₁ hat => ⟨0, _, hat, hcurrent⟩
        | some x =>
          rw [hx] at hbegins
          refine hbegins.trans ?_
          rintro m₁ _ ⟨rfl, b₁, h₁⟩
          refine (batch_unsettled h₁ hcurrent).trans ?_
          rintro m₂ _ ⟨rfl, b₂, h₂⟩
          refine (batch_switches hsize h₂).mono fun m₃ c₃ hat => ⟨0, x, hat, fun hs => ?_⟩
          exact hnext ⟨x, hx, hs⟩
      exact not_ends_of_loop Elsewhere.refl (fun _ _ => batch_endless hsize hloads) hloop hreturns
    · intro hsettled
      refine hbegins.ends ?_
      rintro m₁ _ ⟨rfl, b₁, h₁⟩
      by_cases hcurrent : Settles below (m.currentSegment ctx.key) size
      · exact batch_settled h₁ hcurrent
      have hrest := (hsettled.resolve_left (UInt64.pos_iff_ne_zero.mp hsize)).resolve_left hcurrent
      cases hx : m.nextSegment ctx.key with
      | none =>
        rw [hx] at h₁
        obtain ⟨k, hk⟩ := hrest.resolve_left fun ⟨x, hx', _⟩ => nomatch hx.symm.trans hx'
        exact batch_returns_of_load hsize k h₁ ((Nat.zero_add k).symm ▸ hk)
      | some x =>
        rw [hx] at h₁
        refine (batch_unsettled h₁ hcurrent).ends ?_
        rintro m₂ _ ⟨rfl, b₂, h₂⟩
        refine (batch_switches hsize h₂).ends ?_
        rintro m₃ _ ⟨rfl, b₃, h₃⟩
        by_cases hs : Settles below x size
        · exact batch_settled h₃ hs
        · obtain ⟨k, hk⟩ := hrest.resolve_left fun ⟨x', hx', hs'⟩ =>
            hs (Option.some.inj (hx.symm.trans hx') ▸ hs')
          exact batch_returns_of_load hsize k h₃ ((Nat.zero_add k).symm ▸ hk)
  · have hzero : size = 0 := by
      by_contra hne
      exact hsize (UInt64.pos_iff_ne_zero.mpr hne)
    rw [show loopHead size = .getExhausted from if_neg hsize] at hbegins
    refine iff_of_true (hbegins.ends ?_) (Or.inl hzero)
    rintro m₁ _ ⟨rfl, b₁, h₁⟩
    exact batch_exhausted h₁.buffer h₁.current trivial

/-- With an accepted threshold it takes an empty segment not to settle a call. The quotient of a
number and itself is 1. -/
theorem settles_of_nonempty {quotient : UInt64 → UInt64 → F64} {c : Config} {d : SegmentData}
    (hone : ∀ total, total ≠ 0 → quotient total total = .finite 1) (hc : c.Accepted)
    (hd : d.startId < d.maxId) :
    Settles (belowThreshold quotient c.algorithm.segment.switchThreshold)
      (Segment.new d.startId d.maxId d.step) size := by
  obtain ⟨_, _, _, _, _, _, _, _, _, _, ⟨_, hhigh⟩, _⟩ := Config.accepted_iff.mp hc
  have htotal : d.maxId - d.startId ≠ 0 := by
    intro heq
    rw [UInt64.sub_eq_iff_eq_add, UInt64.zero_add] at heq
    rw [heq] at hd
    exact absurd hd (UInt64.lt_irrefl _)
  have hremaining : (Segment.new d.startId d.maxId d.step).remaining = d.maxId - d.startId :=
    if_neg (UInt64.not_le.mpr hd)
  refine Or.inr ?_
  unfold Segment.needSwitch
  dsimp only
  rw [hremaining]
  unfold Segment.new
  dsimp only
  rw [if_neg htotal]
  unfold belowThreshold
  rw [hone _ htotal]
  exact hhigh

/-- The loader has nothing but empty segments. -/
theorem batch_never_returns : ¬ Returns belowTenth (fun _ => .ok ⟨5, 5, 1, 0⟩) "w:t" (fun _ => True)
    .new 0 (.batchGenerate ⟨"w", "g", "t"⟩ 1 (by decide) .findBuffer) := by
  intro hreturns
  have hm : PointsToSegments .new "w:t" := fun b hb => by cases hb
  rcases (batch_terminates_iff belowTenth _ .new ⟨"w", "g", "t"⟩ 1 (by decide) hm).mp hreturns with
    hzero | hcurrent | ⟨x, hx, -⟩ | ⟨k, hk⟩
  · exact absurd hzero (by decide)
  · exact absurd hcurrent (by decide)
  · cases hx
  · exact absurd (hk _ rfl) (by decide)

/-- The loader fails at its third reply. -/
theorem batch_returns_third : Returns belowTenth
    (fun k => if k = 2 then .error .timeoutError else .ok ⟨5, 5, 1, 0⟩) "w:t" (fun _ => True)
    .new 0 (.batchGenerate ⟨"w", "g", "t"⟩ 1 (by decide) .findBuffer) :=
  (batch_terminates_iff belowTenth _ .new ⟨"w", "g", "t"⟩ 1 (by decide) fun b hb => by
    cases hb).mpr (Or.inr (Or.inr (Or.inr ⟨2, fun d hd => by cases hd⟩)))

/-! ## The batch that is returned -/

/-- So many ids, no two of them the same. -/
def FullBatch (ctx : GenerateContext) (size : UInt64) (a : Answer) : Prop :=
  ∃ ids, a = .batchGenerate (.ok ⟨ids, .segment, ctx.bizTag⟩) ∧ ids.length = size.toNat ∧ ids.Nodup

def Failed (a : Answer) : Prop := ∃ e, a = .batchGenerate (.error e)

/-- The batch fits into the segment, or the segment is to be switched. -/
def Serves (below : UInt64 → UInt64 → Bool) (s : Segment) (size : UInt64) : Prop :=
  s.currentId.toNat + size.toNat ≤ s.maxId.toNat ∨
    s.maxId < s.currentId + size ∧ s.needSwitch below = true

instance (s : Segment) (size : UInt64) : Decidable (Serves below s size) :=
  inferInstanceAs (Decidable (_ ∨ _))

theorem batch_fitting (hsize : 0 < size) (h : Holds m ctx.key b s next)
    (hs : s.currentId.toNat + size.toNat ≤ s.maxId.toNat) :
    Returns below loads ctx.key (FullBatch ctx size) m k
      (.batchGenerate ctx size fits .getCurrent) := by
  obtain ⟨hconsume, hsum⟩ := Segment.tryConsume_fitting hs
  have hlength : (u64Range s.currentId (s.currentId + size)).length = size.toNat := by
    rw [length_u64Range, hsum]
    omega
  refine batch_consumes h hconsume (fun hnil => ?_) ⟨_, rfl, ?_, ?_⟩
  · rw [hnil, List.length_nil] at hlength
    have := UInt64.lt_iff_toNat_lt.mp hsize
    rw [← hlength] at this
    exact Nat.lt_irrefl 0 this
  · rw [List.length_map]
    exact hlength
  · refine List.Nodup.of_map (fun id : Id => id.asU128.toNat) ?_
    rw [map_toNat_u64Range]
    exact List.nodup_range'

/-- Neither fits the batch nor is the segment switched. -/
theorem batch_unserved (h : Holds m ctx.key b s next) (hs : ¬ Serves below s size) :
    Returns below loads ctx.key Failed m k (.batchGenerate ctx size fits .getCurrent) := by
  obtain ⟨hroom, hswitch⟩ := not_or.mp hs
  by_cases hlt : s.maxId < s.currentId + size
  · have hrefused : s.tryConsume size = (none, s) := if_pos hlt
    refine (batch_refuses h hrefused).ends ?_
    rintro m₁ _ ⟨rfl, b₁, h₁⟩
    rw [if_neg fun hneed => hswitch ⟨hlt, hneed⟩]
    exact batch_exhausted h₁.buffer h₁.current ⟨_, rfl⟩
  · -- the sum has wrapped
    have hwraps : (s.currentId + size).toNat ≤ s.currentId.toNat := by
      rw [UInt64.lt_iff_toNat_lt, UInt64.toNat_add] at hlt
      rw [UInt64.toNat_add]
      have := s.currentId.toNat_lt
      have := size.toNat_lt
      omega
    have hnil : u64Range s.currentId (s.currentId + size) = [] := by
      rw [← List.length_eq_zero_iff, length_u64Range]
      omega
    exact batch_wastes h (if_neg hlt) hnil ⟨_, rfl⟩

/-- **Batches are served.** With a loader whose segments have room for the batch, a call that finds
its key at rest returns the batch if and only if it asks for an id at all, and the segment in use
has room for the batch or is to be switched. -/
theorem batch_served_iff (below : UInt64 → UInt64 → Bool) (loads : ℕ → Result SegmentData)
    {w : World SharedSegments Task} (ctx : GenerateContext) (size : UInt64)
    (fits : CapacityFits size) (hw : Reaches (World.step (segmentStep below)) Free noCalls w)
    (hquiet : Quiet w ctx.key)
    (hloads : ∀ k, ∃ d, loads k = .ok d ∧ d.startId.toNat + size.toNat ≤ d.maxId.toNat) :
    Returns below loads ctx.key (FullBatch ctx size) w.shared 0
      (.batchGenerate ctx size fits .findBuffer) ↔
      0 < size ∧ Serves below (w.shared.currentSegment ctx.key) size := by
  have hbegins : ComesTo below loads ctx.key (BatchAt ctx size fits (loopHead size) 0
      (w.shared.currentSegment ctx.key) (w.shared.nextSegment ctx.key)) w.shared 0
      (.batchGenerate ctx size fits .findBuffer) := batch_begins (pointsToSegments_of_reaches hw _)
  rw [nextSegment_of_quiet hw hquiet] at hbegins
  have hone : ¬ (Returns below loads ctx.key (FullBatch ctx size) w.shared 0
      (.batchGenerate ctx size fits .findBuffer) ∧ Returns below loads ctx.key Failed w.shared 0
      (.batchGenerate ctx size fits .findBuffer)) := by
    rintro ⟨hfull, hfailed⟩
    obtain ⟨a, ⟨ids, rfl, -⟩, ⟨e, he⟩⟩ := hfull.exclusive hfailed
    cases he
  by_cases hsize : 0 < size
  · rw [show loopHead size = .getCurrent from if_pos hsize] at hbegins
    constructor
    · intro hfull
      refine ⟨hsize, ?_⟩
      by_contra hs
      refine hone ⟨hfull, hbegins.ends ?_⟩
      rintro m₁ _ ⟨rfl, b₁, h₁⟩
      exact batch_unserved h₁ hs
    · rintro ⟨-, hs⟩
      refine hbegins.ends ?_
      rintro m₁ _ ⟨rfl, b₁, h₁⟩
      rcases hs with hroom | ⟨hlt, hneed⟩
      · exact batch_fitting hsize h₁ hroom
      · obtain ⟨d, hd, hroom⟩ := hloads 0
        have hunsettled : ¬ Settles below (w.shared.currentSegment ctx.key) size := by
          rintro (hsome | hstay)
          · rw [show Segment.tryConsume _ size = (none, _) from if_pos hlt] at hsome
            cases hsome
          · rw [hneed] at hstay
            cases hstay
        refine (batch_reloads hsize h₁ hunsettled hd).ends ?_
        rintro m₂ _ ⟨rfl, b₂, h₂⟩
        exact batch_fitting hsize h₂ hroom
  · rw [show loopHead size = .getExhausted from if_neg hsize] at hbegins
    refine iff_of_false (fun hfull => hone ⟨hfull, hbegins.ends ?_⟩) fun h => hsize h.1
    rintro m₁ _ ⟨rfl, b₁, h₁⟩
    exact batch_exhausted h₁.buffer h₁.current ⟨_, rfl⟩

/-- The first three ids of a key. -/
theorem first_batch_served : Returns belowTenth (fun _ => .ok ⟨1, 11, 1, 0⟩) "w:t"
    (FullBatch ⟨"w", "g", "t"⟩ 3) noCalls.shared 0
    (.batchGenerate ⟨"w", "g", "t"⟩ 3 (by decide) .findBuffer) :=
  (batch_served_iff belowTenth _ ⟨"w", "g", "t"⟩ 3 (by decide) (Reaches.refl noCalls)
    (fun i h => by cases h) fun _ => ⟨_, rfl, by decide⟩).mpr (by decide)

/-- A batch of eight has left two ids of ten, and the next batch asks for three. -/
theorem batch_not_served : ∃ w, Reaches (World.step (segmentStep belowTenth)) Free noCalls w ∧
    Quiet w "w:t" ∧ ¬ Returns belowTenth (fun _ => .ok ⟨11, 21, 1, 0⟩) "w:t"
      (FullBatch ⟨"w", "g", "t"⟩ 3) w.shared 0
      (.batchGenerate ⟨"w", "g", "t"⟩ 3 (by decide) .findBuffer) := by
  let acts : List (ℕ × Input) := (0, .batchGenerate ⟨"w", "g", "t"⟩ 8) ::
    List.replicate 7 (0, .proceed) ++ (0, .reply (.ok ⟨1, 11, 1, 0⟩)) ::
    List.replicate 5 (0, .proceed)
  have hrun : ((run (World.step (segmentStep belowTenth)) noCalls acts).map fun w =>
      ((w.threads 0).key, decide (Serves belowTenth (w.shared.currentSegment "w:t") 3))) =
      some (none, false) := by
    decide +kernel
  obtain ⟨w, hw, heq⟩ := Option.map_eq_some_iff.mp hrun
  obtain ⟨hkey, hserves⟩ := Prod.mk.inj heq
  have hreach := reaches_of_run hw
  have hquiet : Quiet w "w:t" := quiet_of_run (by decide) hw hkey
  refine ⟨w, hreach, hquiet, fun hfull => ?_⟩
  obtain ⟨-, hs⟩ := (batch_served_iff belowTenth _ ⟨"w", "g", "t"⟩ 3 (by decide) hreach hquiet
    fun _ => ⟨_, rfl, by decide⟩).mp hfull
  exact of_decide_eq_false hserves hs

end NebulaId
