import NebulaId.Segment.Calls
import NebulaId.Store.RangePool

/-!
# Ids of a segment algorithm are distinct

The heap of segments is a pool of ranges with a cursor, and every step of the two functions
adds a range to the pool, takes ids from one, or leaves it (`pool_step`). So what the pool
says about any run holds for the ids returned.

* `cursor_wraps`: with a range that ends at the last `u64` number, `generate` returns an id
  that the loader never gave.
* `fitting_ids_distinct`: when no sum of `try_consume` wraps into a range, the ids returned
  under a key are distinct and come from the ranges loaded for it.
* `low_ids_distinct`: while the ranges leave room for the largest batch, no sum wraps.
-/

namespace NebulaId

open Machine RangePool

/-- The ids of a loaded range. -/
def SegmentData.ids (d : SegmentData) : Set ℕ := Set.Ico d.startId.toNat d.maxId.toNat

/-- The ids returned so far, with the keys of their calls. -/
def SharedSegments.issued (m : SharedSegments) : List (String × Id) :=
  m.answers.flatMap fun a => a.2.ids.map fun id => (a.1, id)

/-- The ranges returned for a key are disjoint. -/
def LoadsDisjoint (loaded : List (String × SegmentData)) : Prop :=
  loaded.Pairwise fun x y => x.1 = y.1 → Disjoint x.2.ids y.2.ids

/-- No sum of `try_consume` that has wrapped is taken for one that fits. -/
def Fitting (w : World SharedSegments Task) (act : ℕ × Input) : Prop :=
  ∀ x ∈ (w.threads act.1).consuming, ∀ c ∈ w.shared.heap[x.1]?, c.2.Fits x.2

instance (w : World SharedSegments Task) (act : ℕ × Input) : Decidable (Fitting w act) :=
  inferInstanceAs (Decidable (∀ x ∈ (w.threads act.1).consuming, _))

/-- The default threshold, in integers. -/
def belowTenth (remaining total : UInt64) : Bool := remaining.toNat * 10 < total.toNat

/-- The calls `generate` and `generate`, on the last segment there is. -/
theorem cursor_wraps : ∃ w,
    Reaches (World.step (segmentStep belowTenth)) Free noCalls w ∧
      LoadsDisjoint w.shared.loaded ∧
      ¬ ∀ x ∈ w.shared.issued, ∃ d, (x.1, d) ∈ w.shared.loaded ∧ x.2.asU128.toNat ∈ d.ids := by
  let last : SegmentData := ⟨2 ^ 64 - 2, 2 ^ 64 - 1, 1, 0⟩
  let ops : List (List (ℕ × Input)) := [[(0, .generate ⟨"w", "g", "t"⟩)],
    List.replicate 8 (0, .proceed), [(0, .reply (.ok last))], List.replicate 6 (0, .proceed),
    [(0, .generate ⟨"w", "g", "t"⟩)], List.replicate 3 (0, .proceed)]
  have hrun : ((run (World.step (segmentStep belowTenth)) noCalls ops.flatten).map
      fun w => (w.shared.loaded, w.shared.issued)) =
      some ([("w:t", last)], [("w:t", Id.ofU64 (2 ^ 64 - 1)), ("w:t", Id.ofU64 (2 ^ 64 - 2))]) := by
    decide +kernel
  obtain ⟨w, hw, he⟩ := Option.map_eq_some_iff.mp hrun
  obtain ⟨hloaded, hissued⟩ := Prod.mk.inj he
  refine ⟨w, reaches_of_run hw, ?_, fun hinside => ?_⟩
  · rw [hloaded]
    exact List.pairwise_singleton _ _
  · rw [hissued, hloaded] at hinside
    obtain ⟨d, hd, -, hlt⟩ := hinside _ List.mem_cons_self
    obtain ⟨-, rfl⟩ := Prod.mk.inj (List.mem_singleton.mp hd)
    rw [Id.toNat_asU128_ofU64] at hlt
    exact Nat.lt_irrefl _ hlt

/-! ## The invariant -/

/-- The segment is one of the key. -/
def Owns (m : SharedSegments) (key : String) (i : ℕ) : Prop :=
  ∃ s, m.heap[i]? = some (key, s)

/-- Buffers point to segments of their key, and a segment holds a range that was loaded for
its key, or none. -/
structure BuffersInv (m : SharedSegments) : Prop where
  pointers : ∀ key b, m.buffers key = some b →
    Owns m key b.current ∧ ∀ i ∈ b.next, Owns m key i
  origin : ∀ c ∈ m.heap, (c.2.startId = 0 ∧ c.2.maxId = 0) ∨
    ∃ d, (c.1, d) ∈ m.loaded ∧ d.startId = c.2.startId ∧ d.maxId = c.2.maxId

/-- A call holds a segment of its key. -/
def HoldsOwn (m : SharedSegments) (_ : ℕ) (p : Task) : Prop :=
  ∀ key i, p.held = some (key, i) → Owns m key i

abbrev SegmentsInv : World SharedSegments Task → Prop :=
  World.Inv BuffersInv HoldsOwn fun _ _ => True

variable {m m' : SharedSegments} {key : String} {b : DoubleBuffer} {i : ℕ} {p : Task}
  {input : Input} {held : Option (String × ℕ)}

theorem segmentsInv_noCalls : SegmentsInv noCalls where
  memory := ⟨(fun _ _ h => nomatch h), fun _ h => (List.not_mem_nil h).elim⟩
  thread _ _ _ h := by cases h
  pair _ _ _ := trivial

theorem BuffersInv.answer (h : BuffersInv m) (a : Answer) : BuffersInv (m.answer key a) :=
  ⟨h.pointers, h.origin⟩

theorem BuffersInv.setBuffer (h : BuffersInv m) (hcurrent : Owns m key b.current)
    (hnext : ∀ i ∈ b.next, Owns m key i) : BuffersInv (m.setBuffer key b) := by
  refine ⟨fun key' b' hb' => ?_, h.origin⟩
  unfold SharedSegments.setBuffer at hb'
  by_cases hkey : key' = key
  · subst hkey
    simp only [Function.update_self, Option.some.injEq] at hb'
    subst hb'
    exact ⟨hcurrent, hnext⟩
  · simp only [Function.update_of_ne hkey] at hb'
    exact h.pointers key' b' hb'

theorem Owns.append {c : String × Segment} (h : Owns m key i) (hm : m'.heap = m.heap ++ [c]) :
    Owns m' key i := by
  obtain ⟨s, hs⟩ := h
  have hil := (List.getElem?_eq_some_iff.mp hs).1
  exact ⟨s, by rw [hm, List.getElem?_append_left hil, hs]⟩

theorem Owns.setSegment {j : ℕ} {k : String} {s t : Segment} (h : Owns m key i)
    (hc : m.heap[j]? = some (k, s)) : Owns (m.setSegment j (k, t)) key i := by
  obtain ⟨u, hu⟩ := h
  have hil := (List.getElem?_eq_some_iff.mp hu).1
  unfold Owns SharedSegments.setSegment
  by_cases hij : j = i
  · subst hij
    obtain ⟨rfl, rfl⟩ := Prod.mk.inj (Option.some.inj (hc.symm.trans hu))
    exact ⟨t, List.getElem?_set_self hil⟩
  · exact ⟨u, (List.getElem?_set_ne hij).trans hu⟩

/-- No segment ever goes over to another key. -/
theorem Move.owns (h : Move input m p m' held) (ho : Owns m key i) : Owns m' key i := by
  cases h with
  | create key' hb => exact ho.append rfl
  | load key' d hp hd => exact ho.append rfl
  | consume key' j count start stop c s a hi hcount hc hs ha => exact ho.setSegment hc
  | waste key' j count start stop c s hi hcount hc hs hempty => exact ho.setSegment hc
  | _ => exact ho

/-- The call still holds a segment of its key. -/
theorem Move.holds (h : Move input m p m' held) (hm : BuffersInv m) (hp : HoldsOwn m 0 p)
    (hh : held = some (key, i)) : Owns m' key i := by
  cases h with
  | read _ b hb =>
    cases hh
    exact (hm.pointers key b hb).1
  | flag key' b loading _ hb hheld =>
    rcases hheld with rfl | rfl
    · cases hh
    · exact hp key i hh
  | takeNext _ b _ hb hi =>
    cases hh
    exact (hm.pointers key b hb).2 i hi
  | load key' d _ hd =>
    cases hh
    exact ⟨_, List.getElem?_concat_length⟩
  | _ => cases hh

/-- The history of loads only grows. -/
theorem Move.loaded (h : Move input m p m' held) : m.loaded.Sublist m'.loaded := by
  cases h with
  | load key d hp hd => exact List.sublist_cons_self _ _
  | _ => exact List.Sublist.refl _

theorem BuffersInv.origin_set {c : String × Segment} {s : Segment} {count : UInt64}
    {r : Option (UInt64 × UInt64)} (hm : BuffersInv m) (hc : m.heap[i]? = some c)
    (hs : c.2.tryConsume count = (r, s)) :
    ∀ x ∈ m.heap.set i (c.1, s), (x.2.startId = 0 ∧ x.2.maxId = 0) ∨
      ∃ d, (x.1, d) ∈ m.loaded ∧ d.startId = x.2.startId ∧ d.maxId = x.2.maxId := by
  intro x hx
  rcases List.mem_or_eq_of_mem_set hx with hx | rfl
  · exact hm.origin x hx
  · obtain ⟨hstart, hmax⟩ := Segment.tryConsume_range hs
    rw [hstart, hmax]
    exact hm.origin c (List.mem_of_getElem? hc)

theorem BuffersInv.move (hm : BuffersInv m) (hp : HoldsOwn m 0 p) (h : Move input m p m' held) :
    BuffersInv m' := by
  have howns : ∀ key b, m.buffers key = some b →
      Owns m' key b.current ∧ ∀ i ∈ b.next, Owns m' key i := by
    intro key b hb
    obtain ⟨hcurrent, hnext⟩ := hm.pointers key b hb
    exact ⟨h.owns hcurrent, fun i hi => h.owns (hnext i hi)⟩
  cases h with
  | quiet => exact hm
  | fail key a ha => exact hm.answer a
  | read key b hb => exact hm
  | flag key b loading _ hb hheld =>
    exact hm.setBuffer (howns key b hb).1 (howns key b hb).2
  | abandon key b a hb ha =>
    have hflag : BuffersInv (m.setBuffer key { b with loading := false }) :=
      hm.setBuffer (howns key b hb).1 (howns key b hb).2
    exact hflag.answer a
  | takeNext key b i hb hi =>
    exact hm.setBuffer (howns key b hb).1 fun j hj => absurd hj (Option.not_mem_none j)
  | storeCurrent key b i hb hi => exact hm.setBuffer (hp key i hi) (howns key b hb).2
  | setNext key b i hb hi =>
    refine hm.setBuffer (howns key b hb).1 fun j hj => ?_
    cases hj
    exact hp key i hi
  | create key hb =>
    have hempty : BuffersInv { m with heap := m.heap ++ [(key, Segment.new 0 0 0)] } := by
      refine ⟨fun key' b hb' => ?_, ?_⟩
      · obtain ⟨hcurrent, hnext⟩ := hm.pointers key' b hb'
        exact ⟨hcurrent.append rfl, fun i hi => (hnext i hi).append rfl⟩
      · intro c hc
        rcases List.mem_append.mp hc with hc | hc
        · exact hm.origin c hc
        · rw [List.mem_singleton.mp hc]
          exact Or.inl ⟨rfl, rfl⟩
    exact hempty.setBuffer ⟨_, List.getElem?_concat_length⟩
      fun i hi => absurd hi (Option.not_mem_none i)
  | load key d _ hd =>
    refine ⟨howns, fun c hc => ?_⟩
    rcases List.mem_append.mp hc with hc | hc
    · refine (hm.origin c hc).imp_right fun ⟨d', hd', hrange⟩ => ?_
      exact ⟨d', List.mem_cons_of_mem _ hd', hrange⟩
    · rw [List.mem_singleton.mp hc]
      exact Or.inr ⟨d, List.mem_cons_self, rfl, rfl⟩
  | consume key i count start stop c s a hi hcount hc hs ha =>
    exact ⟨howns, hm.origin_set hc hs⟩
  | waste key i count start stop c s hi hcount hc hs hempty =>
    exact ⟨howns, hm.origin_set hc hs⟩

/-! ## Segments as ranges with a cursor -/

def asRange (c : String × Segment) : Range String where
  key := c.1
  first := c.2.startId.toNat
  last := c.2.maxId.toNat
  cursor := c.2.currentId.toNat

def SharedSegments.pool (m : SharedSegments) : Pool String where
  ranges := m.heap.map asRange
  issued := m.issued.map fun x => (x.1, x.2.asU128.toNat)

theorem map_toNat_u64Range (start stop : UInt64) :
    ((u64Range start stop).map Id.ofU64).map (fun id => id.asU128.toNat) =
      List.range' start.toNat (stop.toNat - start.toNat) := by
  rw [List.map_map, ← toNat_u64Range]
  apply List.map_congr_left
  intro n _
  exact Id.toNat_asU128_ofU64 n

/-- The numbers of the ids that an answer has taken from a segment. -/
theorem map_toNat_ids {c s : Segment} {count start stop : UInt64} {a : Answer}
    (hs : c.tryConsume count = (some (start, stop), s)) (hfits : c.Fits count)
    (ha : a.ids = (u64Range start stop).map Id.ofU64 ∨ a.ids = [Id.ofU64 start] ∧ count = 1) :
    a.ids.map (fun id => id.asU128.toNat) = List.range' c.currentId.toNat count.toNat := by
  obtain ⟨rfl, hstop, -, -⟩ := Segment.tryConsume_eq_some hs hfits
  rcases ha with ha | ⟨ha, rfl⟩
  · rw [ha, map_toNat_u64Range, hstop, Nat.add_sub_cancel_left]
  · rw [ha, List.map_singleton, Id.toNat_asU128_ofU64]
    rfl

theorem issued_answer (m : SharedSegments) (key : String) (a : Answer) :
    (m.answer key a).pool.issued =
      (a.ids.map fun id => id.asU128.toNat).map (fun id => (key, id)) ++ m.pool.issued := by
  unfold SharedSegments.pool SharedSegments.issued SharedSegments.answer
  simp only [List.flatMap_cons, List.map_append, List.map_map, Function.comp_def]

theorem pool_answer_of_nil {a : Answer} (ha : a.ids = []) : (m.answer key a).pool = m.pool := by
  apply Pool.ext
  · rfl
  · rw [issued_answer, ha]
    rfl

/-- A new segment is a new range. -/
theorem pool_append {startId maxId step : UInt64}
    (hheap : m'.heap = m.heap ++ [(key, Segment.new startId maxId step)])
    (hanswers : m'.answers = m.answers) :
    m'.pool = m.pool.add key startId.toNat maxId.toNat := by
  apply Pool.ext
  · unfold SharedSegments.pool
    rw [hheap, List.map_append]
    rfl
  · unfold SharedSegments.pool SharedSegments.issued
    rw [hanswers]
    rfl

/-- A success of `try_consume` finds room in the range of its segment. -/
theorem take_step {c : String × Segment} {s : Segment} {count start stop : UInt64}
    (hc : m.heap[i]? = some c) (hs : c.2.tryConsume count = (some (start, stop), s))
    (hfits : c.2.Fits count) : Step m.pool (m.pool.take i (asRange c) count.toNat) := by
  obtain ⟨-, hstop, hle, -⟩ := Segment.tryConsume_eq_some hs hfits
  refine .take i _ _ ?_ ?_
  · exact (List.getElem?_map ..).trans (congrArg (Option.map asRange) hc)
  · dsimp only [asRange]
    omega

/-- A success of `try_consume` takes numbers from the range of its segment. -/
theorem ranges_setSegment {c : String × Segment} {s : Segment} {count start stop : UInt64}
    (hs : c.2.tryConsume count = (some (start, stop), s)) (hfits : c.2.Fits count) :
    (m.heap.set i (c.1, s)).map asRange =
      (m.heap.map asRange).set i ((asRange c).advance count.toNat) := by
  obtain ⟨-, hstop, -, rfl⟩ := Segment.tryConsume_eq_some hs hfits
  rw [List.map_set]
  unfold asRange Range.advance
  rw [hstop]

theorem pool_consume {c : String × Segment} {s : Segment} {count start stop : UInt64} {a : Answer}
    (hs : c.2.tryConsume count = (some (start, stop), s)) (hfits : c.2.Fits count)
    (ha : a.ids = (u64Range start stop).map Id.ofU64 ∨ a.ids = [Id.ofU64 start] ∧ count = 1) :
    ((m.setSegment i (c.1, s)).answer c.1 a).pool = m.pool.take i (asRange c) count.toNat := by
  apply Pool.ext
  · exact ranges_setSegment hs hfits
  · rw [issued_answer, map_toNat_ids hs hfits ha]
    rfl

/-- A batch of no ids takes none. -/
theorem pool_waste {c : String × Segment} {s : Segment} {count start stop : UInt64}
    (hs : c.2.tryConsume count = (some (start, stop), s)) (hfits : c.2.Fits count)
    (hempty : u64Range start stop = []) :
    (m.setSegment i (c.1, s)).pool = m.pool.take i (asRange c) count.toNat := by
  have hnil : (Answer.batchGenerate (.ok ⟨[], .segment, ""⟩)).ids =
      (u64Range start stop).map Id.ofU64 := by
    rw [hempty]
    rfl
  rw [← pool_consume hs hfits (Or.inl hnil)]
  exact (pool_answer_of_nil rfl).symm

/-- **One move** adds a range to the pool, takes numbers from one, or leaves it. -/
theorem Move.pool_step (hm : BuffersInv m) (hp : HoldsOwn m 0 p)
    (hfresh : ∀ key ∈ p.loading, ∀ d, input = .reply (.ok d) →
      ∀ d', (key, d') ∈ m.loaded → Disjoint d'.ids d.ids)
    (hfits : ∀ x ∈ p.consuming, ∀ c ∈ m.heap[x.1]?, c.2.Fits x.2)
    (h : Move input m p m' held) : m'.pool = m.pool ∨ Step m.pool m'.pool := by
  cases h with
  | fail key a ha => exact Or.inl (pool_answer_of_nil ha)
  | abandon key b a hb ha => exact Or.inl (pool_answer_of_nil ha)
  | create key hb =>
    have hpool : (m.create key).pool = m.pool.add key _ _ := pool_append rfl rfl
    rw [hpool]
    refine Or.inr (.add key _ _ fun r _ _ => ?_)
    rw [Set.Ico_self]
    exact disjoint_bot_right
  | load key d hload hd =>
    have hpool : (m.load key d).pool = m.pool.add key _ _ := pool_append rfl rfl
    rw [hpool]
    refine Or.inr (.add key _ _ fun r hr hkey => ?_)
    obtain ⟨c, hc, rfl⟩ := List.mem_map.mp hr
    rcases hm.origin c hc with ⟨hstart, hmax⟩ | ⟨d', hd', hstart, hmax⟩
    · unfold Range.ids asRange
      rw [hstart, hmax, Set.Ico_self]
      exact disjoint_bot_left
    · have hdisjoint := hfresh key hload d hd d' (hkey ▸ hd')
      unfold Range.ids asRange
      rw [← hstart, ← hmax]
      exact hdisjoint
  | consume key i count start stop c s a hi hcount hc hs ha =>
    have hfit := hfits (i, count) hcount c hc
    obtain ⟨t, ht⟩ := hp key i hi
    obtain rfl := Option.some.inj (hc.symm.trans ht)
    rw [pool_consume hs hfit ha]
    exact Or.inr (take_step hc hs hfit)
  | waste key i count start stop c s hi hcount hc hs hempty =>
    have hfit := hfits (i, count) hcount c hc
    rw [pool_waste hs hfit hempty]
    exact Or.inr (take_step hc hs hfit)
  | _ => exact Or.inl rfl

variable {below : UInt64 → UInt64 → Bool} {w w' : World SharedSegments Task}

/-- **One step.** -/
theorem segmentsInv_step {act : ℕ × Input} (h : SegmentsInv w)
    (hstep : World.step (segmentStep below) w act = some w') : SegmentsInv w' := by
  obtain ⟨i, input⟩ := act
  obtain ⟨m, p, hs, rfl⟩ := World.step_eq_some.mp hstep
  have hmove := segmentStep_cases hs
  have hown : ∀ j, HoldsOwn w.shared j (w.threads j) := h.thread
  refine h.update (fun _ _ _ => trivial) (h.memory.move (hown i) hmove) ?_ ?_
    fun _ _ _ => trivial
  · intro key j hj
    exact hmove.holds h.memory (hown i) hj
  · intro j _ hj key k hk
    exact hmove.owns (hj key k hk)

/-- What the loader returns is disjoint from what it has returned for the key before. -/
def FreshLoads (w : World SharedSegments Task) (act : ℕ × Input) : Prop :=
  ∀ key ∈ (w.threads act.1).loading, ∀ d, act.2 = .reply (.ok d) →
    ∀ d', (key, d') ∈ w.shared.loaded → Disjoint d'.ids d.ids

theorem loaded_of_reply {d : SegmentData} {p' : Task}
    (h : segmentStep below i (.reply (.ok d)) m p = some (m', p')) (hp : p.loading = some key) :
    m'.loaded = (key, d) :: m.loaded := by
  unfold Task.loading at hp
  split at hp <;> cases hp <;> cases h <;> rfl

/-- Disjoint at the end of a run, the ranges were fresh when they were loaded. -/
theorem reaches_fresh {C : World SharedSegments Task → ℕ × Input → Prop}
    (h : Reaches (World.step (segmentStep below)) C noCalls w)
    (hd : LoadsDisjoint w.shared.loaded) :
    Reaches (World.step (segmentStep below)) (fun w a => FreshLoads w a ∧ C w a) noCalls w := by
  induction h with
  | refl => exact Reaches.refl _
  | tail _ hn ih =>
    obtain ⟨⟨i, input⟩, hC, hstep⟩ := hn
    obtain ⟨m, p, hs, rfl⟩ := World.step_eq_some.mp hstep
    have hold := (segmentStep_cases hs).loaded
    refine (ih (hd.sublist hold)).trans (Reaches.single ⟨?_, hC⟩ hstep)
    rintro key hkey d rfl d' hd'
    unfold LoadsDisjoint at hd
    rw [loaded_of_reply hs hkey] at hd
    exact ((List.pairwise_cons.mp hd).1 _ hd' rfl).symm

/-- **Refinement.** The pool of every state of a run can be reached in the pool's own steps. -/
theorem pool_reaches
    (h : Reaches (World.step (segmentStep below)) (fun w a => FreshLoads w a ∧ Fitting w a)
      noCalls w) : SegmentsInv w ∧ RangePool.Reaches .empty w.shared.pool := by
  refine h.invariant (I := fun w => SegmentsInv w ∧ RangePool.Reaches .empty w.shared.pool)
    ⟨segmentsInv_noCalls, Relation.ReflTransGen.refl⟩ ?_
  rintro w ⟨i, input⟩ w' ⟨hinv, hpool⟩ ⟨hfresh, hfits⟩ hstep
  refine ⟨segmentsInv_step hinv hstep, ?_⟩
  obtain ⟨m, p, hs, rfl⟩ := World.step_eq_some.mp hstep
  rcases (segmentStep_cases hs).pool_step hinv.memory (hinv.thread i) hfresh hfits with heq | hone
  · rw [heq]
    exact hpool
  · exact hpool.tail hone

/-- What the pool says about the ids of a state. -/
theorem issued_of_pool (hm : BuffersInv m) (hpool : RangePool.Inv m.pool) :
    m.issued.Nodup ∧ ∀ x ∈ m.issued, ∃ d, (x.1, d) ∈ m.loaded ∧ x.2.asU128.toNat ∈ d.ids := by
  refine ⟨hpool.distinct.of_map _, fun x hx => ?_⟩
  obtain ⟨i, r, hr, hkey, hmem, -⟩ := hpool.taken _ (List.mem_map_of_mem hx)
  obtain ⟨c, hc, rfl⟩ := List.mem_map.mp (List.mem_of_getElem? hr)
  rcases hm.origin c hc with ⟨hstart, hmax⟩ | ⟨d, hd, hstart, hmax⟩
  · have hlt := hmem.2
    simp [asRange, hmax] at hlt
  · refine ⟨d, hkey ▸ hd, ?_⟩
    unfold SegmentData.ids
    rw [hstart, hmax]
    exact hmem

/-! ## Ranges far from the end of the numbers -/

/-- The ranges leave room for the largest batch that a vector can hold. -/
def LoadsLow (loaded : List (String × SegmentData)) : Prop :=
  ∀ x ∈ loaded, x.2.startId.toNat + 2 ^ 59 ≤ 2 ^ 64 ∧ x.2.maxId.toNat + 2 ^ 59 ≤ 2 ^ 64

theorem consuming_lt {x : ℕ × UInt64} (hx : x ∈ p.consuming) : x.2.toNat < 2 ^ 59 := by
  cases p with
  | idle => cases hx
  | generate ctx tries next =>
    cases next with
    | tryConsume i =>
      cases hx
      exact Nat.one_lt_two_pow (by decide)
    | _ => cases hx
  | batchGenerate ctx size fits next =>
    cases next with
    | tryConsume i =>
      cases hx
      unfold CapacityFits at fits
      dsimp only
      omega
    | _ => cases hx

theorem fits_of_low (hm : BuffersInv m) (hpool : RangePool.Inv m.pool) (hlow : LoadsLow m.loaded)
    {x : ℕ × UInt64} (hx : x ∈ p.consuming) {c : String × Segment} (hc : c ∈ m.heap) :
    c.2.Fits x.2 := by
  have hcount := consuming_lt hx
  have hcursor : c.2.currentId.toNat ≤ max c.2.startId.toNat c.2.maxId.toNat :=
    (hpool.cursors _ (List.mem_map_of_mem hc)).2
  left
  rcases hm.origin c hc with ⟨hstart, hmax⟩ | ⟨d, hd, hstart, hmax⟩
  · rw [hstart, hmax, UInt64.toNat_zero] at hcursor
    omega
  · have hroom := hlow _ hd
    rw [hstart, hmax] at hroom
    omega

/-- A run whose ranges leave room is a fitting one. -/
theorem reaches_fitting (h : Reaches (World.step (segmentStep below)) FreshLoads noCalls w)
    (hlow : LoadsLow w.shared.loaded) :
    Reaches (World.step (segmentStep below)) (fun w a => FreshLoads w a ∧ Fitting w a)
      noCalls w := by
  induction h with
  | refl => exact Reaches.refl _
  | tail _ hn ih =>
    obtain ⟨⟨i, input⟩, hfresh, hstep⟩ := hn
    obtain ⟨m, p, hs, rfl⟩ := World.step_eq_some.mp hstep
    have hold := (segmentStep_cases hs).loaded
    have hlow' : LoadsLow _ := fun x hx => hlow x (hold.subset hx)
    have hreach := ih hlow'
    obtain ⟨hinv, hpool⟩ := pool_reaches hreach
    refine hreach.trans (Reaches.single ⟨hfresh, fun x hx c hc => ?_⟩ hstep)
    exact fits_of_low hinv.memory (Inv.of_reaches hpool) hlow' hx (List.mem_of_getElem? hc)

/-- When the ranges also leave room, any run will do. -/
theorem low_ids_distinct (h : Reaches (World.step (segmentStep below)) Free noCalls w)
    (hd : LoadsDisjoint w.shared.loaded) (hlow : LoadsLow w.shared.loaded) :
    w.shared.issued.Nodup ∧
      ∀ x ∈ w.shared.issued, ∃ d, (x.1, d) ∈ w.shared.loaded ∧ x.2.asU128.toNat ∈ d.ids := by
  have hfresh := (reaches_fresh h hd).mono fun _ _ hC => hC.1
  obtain ⟨hinv, hreach⟩ := pool_reaches (reaches_fitting hfresh hlow)
  exact issued_of_pool hinv.memory (Inv.of_reaches hreach)

/-! ## Fitting runs -/

/-- **Fitting runs.** When the ranges loaded for a key are disjoint, the ids returned for a
key are distinct, and each lies in a range that was loaded for the key. -/
theorem fitting_ids_distinct (h : Reaches (World.step (segmentStep below)) Fitting noCalls w)
    (hd : LoadsDisjoint w.shared.loaded) :
    w.shared.issued.Nodup ∧
      ∀ x ∈ w.shared.issued, ∃ d, (x.1, d) ∈ w.shared.loaded ∧ x.2.asU128.toNat ∈ d.ids := by
  obtain ⟨hinv, hreach⟩ := pool_reaches (reaches_fresh h hd)
  exact issued_of_pool hinv.memory (Inv.of_reaches hreach)

/-- A batch loads a segment while `generate` waits for the loader; both go on. -/
theorem fitting_ids_distinct_two : ∃ w,
    Reaches (World.step (segmentStep belowTenth)) Fitting noCalls w ∧
      w.shared.issued.map (fun x => x.2.asU128.toNat) = [200, 100, 101, 102] ∧
      w.shared.issued.Nodup := by
  let first : SegmentData := ⟨100, 103, 3, 0⟩
  let second : SegmentData := ⟨200, 203, 3, 0⟩
  let ops : List (List (ℕ × Input)) :=
    [[(0, .generate ⟨"w", "g", "t"⟩), (1, .batchGenerate ⟨"w", "g", "t"⟩ 3)],
      List.replicate 7 (0, .proceed), List.replicate 6 (1, .proceed),
      [(1, .reply (.ok first)), (0, .proceed), (0, .reply (.ok second))],
      List.replicate 5 (1, .proceed), List.replicate 6 (0, .proceed)]
  have hrun : ((runWhile (World.step (segmentStep belowTenth)) Fitting noCalls ops.flatten).map
      fun w => (w.shared.loaded, w.shared.issued.map fun x => x.2.asU128.toNat)) =
      some ([("w:t", second), ("w:t", first)], [200, 100, 101, 102]) := by
    decide +kernel
  obtain ⟨w, hw, he⟩ := Option.map_eq_some_iff.mp hrun
  obtain ⟨hloaded, hissued⟩ := Prod.mk.inj he
  have hd : LoadsDisjoint w.shared.loaded := by
    rw [hloaded]
    refine List.pairwise_pair.mpr fun _ => ?_
    exact Set.Ico_disjoint_Ico.mpr (by decide)
  have hreach := reaches_of_runWhile hw
  exact ⟨w, hreach, hissued, (fitting_ids_distinct hreach hd).1⟩

end NebulaId
