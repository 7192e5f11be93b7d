import NebulaId.Machine.Threads
import NebulaId.Snowflake.Generate

/-!
# Concurrent calls of `generate_id` (`core/algorithm/snowflake.rs`)

Any number of calls share one generator. `generateStep` takes one call through one clock
reading or one atomic load, store or `fetch_add`; `Call` names the operation that comes
next, with the local variables still needed. The memory also keeps the history of a run:
the pairs drawn from the sequence counter and the results returned.

* `generateId_alone`: a call that nobody disturbs does what `generateId` says.
* `two_callers_same_id`: two calls that start in the same new millisecond return the same
  id.
* `orderly_ids_distinct`: the ids are distinct in every run whose steps are `Orderly`. A
  number is drawn only while the cursor shows the millisecond of the call, no other reset
  is half done and the counter has not passed the wrap point; a reset starts only before
  any number of its millisecond is drawn; and the last timestamp never steps back.
-/

namespace NebulaId

open Machine

namespace SnowflakeAlgorithm

/-- The generator, with the history of the run. -/
structure SharedGenerator where
  generator : SnowflakeAlgorithm
  drawn : List (UInt64 × UInt64)
  returned : List (Result Id)

/-- The next operation of a call. -/
inductive Call where
  | idle
  | loadLast (timestamp : UInt64)
  | storeDrift (drift lastTs : UInt64)
  | countBackward (drift lastTs : UInt64)
  | waiting (lastTs : UInt64)
  | fetchSame (timestamp : UInt64)
  | countRotation (timestamp : UInt64)
  | resetSequence (timestamp : UInt64)
  | resetLast (timestamp : UInt64)
  | fetchNew (timestamp : UInt64)
  | storeLast (timestamp : UInt64)
  | storeSequence (timestamp : UInt64)
  | fetchWaited (timestamp : UInt64)
  | countOverflow (timestamp : UInt64)
  | issue (timestamp sequence : UInt64)

namespace SharedGenerator

def setLast (m : SharedGenerator) (timestamp : UInt64) : SharedGenerator :=
  { m with generator := { m.generator with lastTimestamp := timestamp } }

def setSequence (m : SharedGenerator) (sequence : UInt64) : SharedGenerator :=
  { m with generator := { m.generator with sequence := sequence } }

def count (m : SharedGenerator) (f : SnowflakeMetrics → SnowflakeMetrics) : SharedGenerator :=
  { m with generator := { m.generator with metrics := f m.generator.metrics } }

def draw (m : SharedGenerator) (timestamp sequence : UInt64) : SharedGenerator :=
  { m.setSequence (m.generator.sequence + 1) with drawn := (timestamp, sequence) :: m.drawn }

def finish (m : SharedGenerator) (result : Result Id) : SharedGenerator :=
  { m with returned := result :: m.returned }

end SharedGenerator

/-- One operation of one call; `reading` is what the clock shows if the operation asks. -/
def generateStep (_ : ℕ) (reading : UInt64) (m : SharedGenerator) :
    Call → Option (SharedGenerator × Call)
  | .idle => some (m, .loadLast reading)
  | .loadLast timestamp =>
    let lastTs := m.generator.lastTimestamp
    if timestamp < lastTs then some (m, .storeDrift (lastTs - timestamp) lastTs)
    else if timestamp = lastTs then some (m, .fetchSame timestamp)
    else some (m, .resetSequence timestamp)
  | .storeDrift drift lastTs =>
    some ({ m with generator := { m.generator with clockDriftMs := drift } },
      .countBackward drift lastTs)
  | .countBackward drift lastTs =>
    let m := m.count fun x => { x with clockBackwards := x.clockBackwards + 1 }
    if drift > m.generator.config.clockDriftThresholdMs then
      some (m.finish (.error (.clockMovedBackward lastTs)), .idle)
    else some (m, .waiting lastTs)
  | .waiting lastTs =>
    if reading > lastTs then some (m, .storeLast reading) else some (m, .waiting lastTs)
  | .fetchSame timestamp =>
    let seq := m.generator.sequence
    if exhausted seq m.generator.config.sequenceMask then
      some (m.setSequence (seq + 1), .countRotation timestamp)
    else
      let seq := seq &&& m.generator.config.sequenceMask
      some (m.draw timestamp seq, .issue timestamp seq)
  | .countRotation timestamp =>
    some ({ m with
      generator := { m.generator with rotationCount := m.generator.rotationCount + 1 } },
      .waiting timestamp)
  | .resetSequence timestamp => some (m.setSequence 0, .resetLast timestamp)
  | .resetLast timestamp => some (m.setLast timestamp, .fetchNew timestamp)
  | .fetchNew timestamp =>
    let seq := m.generator.sequence &&& m.generator.config.sequenceMask
    some (m.draw timestamp seq, .issue timestamp seq)
  | .storeLast timestamp => some (m.setLast timestamp, .storeSequence timestamp)
  | .storeSequence timestamp => some (m.setSequence 0, .fetchWaited timestamp)
  | .fetchWaited timestamp =>
    let seq := m.generator.sequence
    if exhausted seq m.generator.config.sequenceMask then
      some (m.setSequence (seq + 1), .countOverflow timestamp)
    else
      let seq := seq &&& m.generator.config.sequenceMask
      some (m.draw timestamp seq, .issue timestamp seq)
  | .countOverflow timestamp =>
    let m := m.count fun x => { x with sequenceOverflows := x.sequenceOverflows + 1 }
    some (m.finish (.error (.sequenceOverflow timestamp)), .idle)
  | .issue timestamp sequence =>
    let m := m.count fun x => { x with totalGenerated := x.totalGenerated + 1 }
    some (m.finish (.ok (m.generator.constructId timestamp sequence)), .idle)

/-- A generator that nobody calls yet. -/
def start (a : SnowflakeAlgorithm) : World SharedGenerator Call := ⟨⟨a, [], []⟩, fun _ => .idle⟩

/-- Two calls read the same new millisecond before either resets the sequence. -/
theorem two_callers_same_id : ∃ w,
    Reaches (World.step generateStep) Free (start (build .default)) w ∧
      ¬ (okIds w.shared.returned).Nodup := by
  have hrun : ((run (World.step generateStep) (start (build .default))
      [(0, 1), (0, 1), (1, 1), (1, 1), (0, 1), (0, 1), (0, 1), (1, 1), (1, 1), (1, 1), (0, 1),
        (1, 1)]).map fun w => okIds w.shared.returned) =
      some [(build .default).constructId 1 0, (build .default).constructId 1 0] := rfl
  obtain ⟨w, hw, hids⟩ := Option.map_eq_some_iff.mp hrun
  refine ⟨w, reaches_of_run hw, ?_⟩
  rw [hids]
  decide

/-! ## Orderly runs -/

/-- One of the two stores of a reset is still to come, and it matters for the counter. -/
def HalfReset (lastTs : UInt64) : Call → Prop
  | .resetLast timestamp => timestamp ≠ lastTs
  | .storeSequence _ => True
  | _ => False

/-- The counter belongs to the millisecond of the call. -/
def CanDraw (w : World SharedGenerator Call) (timestamp : UInt64) : Prop :=
  timestamp.toNat < 2 ^ w.shared.generator.config.timestampBits.toNat ∧
    w.shared.generator.lastTimestamp = timestamp ∧
    ∀ j, ¬ HalfReset w.shared.generator.lastTimestamp (w.threads j)

/-- No number has been drawn for this millisecond or a later one. -/
def CanReset (m : SharedGenerator) (timestamp : UInt64) : Prop :=
  ∀ p ∈ m.drawn, p.1 < timestamp

/-- What a step must meet for the ids to stay distinct. -/
def Orderly (w : World SharedGenerator Call) (act : ℕ × UInt64) : Prop :=
  match w.threads act.1 with
  | .fetchSame timestamp => CanDraw w timestamp ∧
      w.shared.generator.sequence.toNat ≤ 2 ^ w.shared.generator.config.workerShift
  | .fetchWaited timestamp => CanDraw w timestamp ∧
      w.shared.generator.sequence.toNat ≤ 2 ^ w.shared.generator.config.workerShift
  | .fetchNew timestamp => CanDraw w timestamp ∧
      w.shared.generator.sequence ≤ w.shared.generator.config.sequenceMask
  | .resetSequence timestamp => CanReset w.shared timestamp
  | .resetLast timestamp => w.shared.generator.lastTimestamp ≤ timestamp
  | .storeLast timestamp =>
      w.shared.generator.lastTimestamp ≤ timestamp ∧ CanReset w.shared timestamp
  | _ => True

/-! ## The invariant -/

structure MemoryInv (a : SnowflakeAlgorithm) (m : SharedGenerator) : Prop where
  node : SameNode a m.generator
  drawn : ∀ p ∈ m.drawn, InRange a.config p.1 p.2 ∧ p.1 ≤ m.generator.lastTimestamp
  returned : ∀ id ∈ okIds m.returned, ∃ p ∈ m.drawn, id = a.constructId p.1 p.2
  distinct : (okIds m.returned).Nodup

/-- A call about to reset the counter finds nothing drawn; one about to return holds a
drawn pair whose id is not out yet. -/
def CallInv (a : SnowflakeAlgorithm) (m : SharedGenerator) (_ : ℕ) : Call → Prop
  | .storeSequence timestamp => timestamp ≤ m.generator.lastTimestamp ∧ CanReset m timestamp
  | .issue timestamp sequence =>
      (timestamp, sequence) ∈ m.drawn ∧ a.constructId timestamp sequence ∉ okIds m.returned
  | _ => True

/-- Two calls never hold one pair. -/
def PairInv (p q : Call) : Prop :=
  ∀ timestamp sequence, p = .issue timestamp sequence → q ≠ .issue timestamp sequence

/-- Unless a reset is half done, the counter is past the numbers of the last timestamp. -/
def Cursor (w : World SharedGenerator Call) : Prop :=
  (∃ j timestamp, w.threads j = .resetLast timestamp ∧
      timestamp ≠ w.shared.generator.lastTimestamp) ∨
    ∀ p ∈ w.shared.drawn, p.1 = w.shared.generator.lastTimestamp →
      p.2.toNat < w.shared.generator.sequence.toNat

/-- The invariant of orderly runs. -/
structure GeneratorInv (a : SnowflakeAlgorithm) (w : World SharedGenerator Call) : Prop where
  world : World.Inv (MemoryInv a) (CallInv a) PairInv w
  cursor : Cursor w

variable {a : SnowflakeAlgorithm} {w w' : World SharedGenerator Call} {i : ℕ}
  {m' : SharedGenerator} {p' : Call}

theorem pairInv_comm (p q : Call) (h : PairInv p q) : PairInv q p :=
  fun ts seq hq hp => h ts seq hp hq

theorem generatorInv_start (a : SnowflakeAlgorithm) : GeneratorInv a (start a) where
  world :=
    { memory :=
        { node := ⟨rfl, rfl, rfl⟩
          drawn := fun _ hp => absurd hp List.not_mem_nil
          returned := fun _ hid => absurd hid List.not_mem_nil
          distinct := List.nodup_nil }
      thread := fun _ => trivial
      pair := fun _ _ _ _ _ hp => by cases hp }
  cursor := Or.inr fun _ hp => absurd hp List.not_mem_nil

/-! ## What each kind of operation preserves -/

/-- The states of a call that no invariant speaks about. -/
def Quiet : Call → Prop
  | .resetLast _ | .storeSequence _ | .issue _ _ => False
  | _ => True

theorem Quiet.callInv {m : SharedGenerator} {p : Call} (h : Quiet p) (i : ℕ) :
    CallInv a m i p := by
  cases p <;> trivial

theorem pairInv_of_ne {p : Call} (h : ∀ ts seq, p ≠ .issue ts seq) (q : Call) : PairInv p q :=
  fun ts seq hp => absurd hp (h ts seq)

/-- A call keeps its invariant while the last timestamp grows and nothing is drawn. -/
theorem CallInv.frame {m : SharedGenerator} {j : ℕ} {q : Call} (h : CallInv a m j q)
    (hlast : m.generator.lastTimestamp ≤ m'.generator.lastTimestamp)
    (hdrawn : m'.drawn = m.drawn) (hids : okIds m'.returned = okIds m.returned) :
    CallInv a m' j q := by
  cases q with
  | storeSequence ts =>
    unfold CallInv CanReset at *
    rw [hdrawn]
    exact ⟨UInt64.le_trans h.1 hlast, h.2⟩
  | issue ts seq =>
    unfold CallInv at *
    rwa [hids, hdrawn]
  | _ => trivial

theorem MemoryInv.frame {m : SharedGenerator} (h : MemoryInv a m)
    (hnode : SameNode m.generator m'.generator)
    (hlast : m.generator.lastTimestamp ≤ m'.generator.lastTimestamp)
    (hdrawn : m'.drawn = m.drawn) (hids : okIds m'.returned = okIds m.returned) :
    MemoryInv a m' where
  node := ⟨h.node.1.trans hnode.1, h.node.2.1.trans hnode.2.1, h.node.2.2.trans hnode.2.2⟩
  drawn p hp := by
    rw [hdrawn] at hp
    exact ⟨(h.drawn p hp).1, UInt64.le_trans (h.drawn p hp).2 hlast⟩
  returned := by
    rw [hids, hdrawn]
    exact h.returned
  distinct := by
    rw [hids]
    exact h.distinct

/-- Operations that draw no number and return no id. -/
theorem GeneratorInv.worldFrame (h : GeneratorInv a w)
    (hnode : SameNode w.shared.generator m'.generator)
    (hlast : w.shared.generator.lastTimestamp ≤ m'.generator.lastTimestamp)
    (hdrawn : m'.drawn = w.shared.drawn) (hids : okIds m'.returned = okIds w.shared.returned)
    (hp' : CallInv a m' i p') (hne : ∀ ts seq, p' ≠ .issue ts seq) :
    World.Inv (MemoryInv a) (CallInv a) PairInv ⟨m', Function.update w.threads i p'⟩ :=
  h.world.update pairInv_comm (h.world.memory.frame hnode hlast hdrawn hids) hp'
    (fun _ _ hj => hj.frame hlast hdrawn hids) (fun _ _ _ => pairInv_of_ne hne _)

/-- Operations that leave the cursor alone. -/
theorem GeneratorInv.quiet (h : GeneratorInv a w) (hp : Quiet (w.threads i)) (hp' : Quiet p')
    (hnode : SameNode w.shared.generator m'.generator)
    (hlast : m'.generator.lastTimestamp = w.shared.generator.lastTimestamp)
    (hseq : m'.generator.sequence = w.shared.generator.sequence)
    (hdrawn : m'.drawn = w.shared.drawn) (hids : okIds m'.returned = okIds w.shared.returned) :
    GeneratorInv a ⟨m', Function.update w.threads i p'⟩ := by
  refine ⟨h.worldFrame hnode (hlast ▸ UInt64.le_refl _) hdrawn hids (hp'.callInv i) ?_, ?_⟩
  · rintro ts seq rfl
    exact hp'
  · rcases h.cursor with ⟨j, ts, hj, hne⟩ | hall
    · have hji : w.threads j ≠ w.threads i := by
        intro he
        rw [← he, hj] at hp
        exact hp
      exact Or.inl ⟨j, ts, (World.threads_kept hji).trans hj, by rw [hlast]; exact hne⟩
    · refine Or.inr ?_
      dsimp only
      rw [hlast, hseq, hdrawn]
      exact hall

/-- The first store of a reset after waiting: nothing is drawn yet for its millisecond. -/
theorem GeneratorInv.storeLast {ts : UInt64} (h : GeneratorInv a w)
    (hle : w.shared.generator.lastTimestamp ≤ ts) (hfresh : CanReset w.shared ts) :
    GeneratorInv a ⟨w.shared.setLast ts, Function.update w.threads i (.storeSequence ts)⟩ := by
  refine ⟨h.worldFrame ⟨rfl, rfl, rfl⟩ hle rfl rfl ⟨UInt64.le_refl _, hfresh⟩ (by simp), ?_⟩
  refine Or.inr fun p hp heq => ?_
  have hlt := hfresh p hp
  rw [heq] at hlt
  exact absurd hlt (UInt64.lt_irrefl _)

/-- The second store of a reset after waiting. -/
theorem GeneratorInv.storeSequence {ts : UInt64} (h : GeneratorInv a w)
    (hp : w.threads i = .storeSequence ts) :
    GeneratorInv a ⟨w.shared.setSequence 0, Function.update w.threads i (.fetchWaited ts)⟩ := by
  refine ⟨h.worldFrame ⟨rfl, rfl, rfl⟩ (UInt64.le_refl _) rfl rfl trivial (by simp), ?_⟩
  have hcall := h.world.thread i
  rw [hp] at hcall
  refine Or.inr fun p hp heq => ?_
  have hlt := UInt64.lt_of_lt_of_le (hcall.2 p hp) hcall.1
  rw [heq] at hlt
  exact absurd hlt (UInt64.lt_irrefl _)

/-- The first store of a reset in a new millisecond. -/
theorem GeneratorInv.resetSequence {ts : UInt64} (h : GeneratorInv a w)
    (hfresh : CanReset w.shared ts) :
    GeneratorInv a ⟨w.shared.setSequence 0, Function.update w.threads i (.resetLast ts)⟩ := by
  refine ⟨h.worldFrame ⟨rfl, rfl, rfl⟩ (UInt64.le_refl _) rfl rfl trivial (by simp), ?_⟩
  by_cases heq : ts = w.shared.generator.lastTimestamp
  · refine Or.inr fun p hp hpeq => ?_
    have hlt := hfresh p hp
    rw [hpeq, heq] at hlt
    exact absurd hlt (UInt64.lt_irrefl _)
  · exact Or.inl ⟨i, ts, by simp, heq⟩

/-- The second store of a reset in a new millisecond. -/
theorem GeneratorInv.resetLast {ts : UInt64} (h : GeneratorInv a w)
    (hp : w.threads i = .resetLast ts) (hle : w.shared.generator.lastTimestamp ≤ ts) :
    GeneratorInv a ⟨w.shared.setLast ts, Function.update w.threads i (.fetchNew ts)⟩ := by
  refine ⟨h.worldFrame ⟨rfl, rfl, rfl⟩ hle rfl rfl trivial (by simp), ?_⟩
  by_cases heq : w.shared.generator.lastTimestamp = ts
  · -- the timestamp was there already: another half done reset stays half done
    rcases h.cursor with ⟨j, ts', hj, hne⟩ | hall
    · have hji : w.threads j ≠ w.threads i := by
        rw [hj, hp]
        rintro ⟨⟩
        exact hne heq.symm
      exact Or.inl ⟨j, ts', (World.threads_kept hji).trans hj, heq ▸ hne⟩
    · exact Or.inr (heq ▸ hall)
  · refine Or.inr fun p hp hpeq => ?_
    have hlt : w.shared.generator.lastTimestamp < ts := UInt64.lt_of_le_of_ne hle heq
    have hple := (h.world.memory.drawn p hp).2
    rw [show p.1 = ts from hpeq] at hple
    exact absurd (UInt64.lt_of_lt_of_le hlt hple) (UInt64.lt_irrefl _)

/-! ## Drawing a number and returning an id -/

/-- Where a number may be drawn, everything drawn lies behind the cursor. -/
theorem Cursor.behind {ts : UInt64} (h : Cursor w) (hdraw : CanDraw w ts) :
    ∀ p ∈ w.shared.drawn, p.1 = w.shared.generator.lastTimestamp →
      p.2.toNat < w.shared.generator.sequence.toNat := by
  rcases h with ⟨j, ts', hj, hne⟩ | hall
  · have hhalf := hdraw.2.2 j
    rw [hj] at hhalf
    exact absurd hne hhalf
  · exact hall

theorem Cursor.not_mem_drawn {ts : UInt64} (h : Cursor w) (hdraw : CanDraw w ts) :
    (ts, w.shared.generator.sequence) ∉ w.shared.drawn := fun hmem =>
  absurd (h.behind hdraw _ hmem hdraw.2.1.symm) (lt_irrefl _)

/-- A drawn number that is masked off to nothing: the counter still moves. -/
theorem GeneratorInv.exhaust {ts : UInt64} (h : GeneratorInv a w) (hdraw : CanDraw w ts)
    (hseq : w.shared.generator.sequence.toNat ≤ 2 ^ w.shared.generator.config.workerShift)
    (hp' : Quiet p') : GeneratorInv a
      ⟨w.shared.setSequence (w.shared.generator.sequence + 1),
        Function.update w.threads i p'⟩ := by
  refine ⟨h.worldFrame ⟨rfl, rfl, rfl⟩ (UInt64.le_refl _) rfl rfl (hp'.callInv i) ?_, ?_⟩
  · rintro ts seq rfl
    exact hp'
  · have hlt : 2 ^ w.shared.generator.config.workerShift ≤ 2 ^ 63 :=
      Nat.pow_le_pow_right (by omega) (Nat.le_of_lt_succ (Nat.mod_lt _ (by omega)))
    refine Or.inr fun p hp heq => ?_
    have hbehind := h.cursor.behind hdraw p hp heq
    change p.2.toNat < (w.shared.generator.sequence + 1).toNat
    rw [UInt64.toNat_add, show (1 : UInt64).toNat = 1 from rfl, Nat.mod_eq_of_lt (by omega)]
    omega

section Distinct

variable (hn : a.NodeClear) (hc : a.config.totalBits.toNat < 64)

include hn hc

/-- A drawn pair that is not out yet does not show among the ids returned. -/
theorem MemoryInv.constructId_inj {m : SharedGenerator} (h : MemoryInv a m)
    {p q : UInt64 × UInt64} (hp : InRange a.config p.1 p.2) (hq : q ∈ m.drawn)
    (he : a.constructId p.1 p.2 = a.constructId q.1 q.2) : p = q := by
  obtain ⟨h1, h2⟩ := hn.constructId_injective hc hp (h.drawn q hq).1 he
  exact Prod.ext h1 h2

theorem GeneratorInv.draw {ts : UInt64} (h : GeneratorInv a w) (hdraw : CanDraw w ts)
    (hseq : w.shared.generator.sequence ≤ w.shared.generator.config.sequenceMask) :
    GeneratorInv a ⟨w.shared.draw ts w.shared.generator.sequence,
      Function.update w.threads i (.issue ts w.shared.generator.sequence)⟩ := by
  have hnew := h.cursor.not_mem_drawn hdraw
  have hcfg := h.world.memory.node.1
  have hrange : InRange a.config ts w.shared.generator.sequence := by
    rw [hcfg]
    exact ⟨hdraw.1, hseq⟩
  have hsucc := toNat_succ_of_le hseq
  constructor
  · refine h.world.update pairInv_comm ?_ ?_ ?_ ?_
    · obtain ⟨h1, h2, h3, h4⟩ := h.world.memory
      refine ⟨h1, ?_, ?_, h4⟩
      · intro p hp
        rcases List.mem_cons.mp hp with rfl | hp
        · exact ⟨hrange, hdraw.2.1 ▸ UInt64.le_refl _⟩
        · exact h2 p hp
      · intro id hid
        obtain ⟨p, hp, he⟩ := h3 id hid
        exact ⟨p, List.mem_cons_of_mem _ hp, he⟩
    · refine ⟨List.mem_cons_self, fun hid => ?_⟩
      obtain ⟨p, hp, he⟩ := h.world.memory.returned _ hid
      have hpair := h.world.memory.constructId_inj hn hc (p := (ts, _)) hrange hp he
      exact hnew (hpair ▸ hp)
    · intro j _ hj
      cases hq : w.threads j with
      | storeSequence ts' =>
        have hhalf := hdraw.2.2 j
        rw [hq] at hhalf
        exact absurd trivial hhalf
      | issue ts' seq' =>
        rw [hq] at hj
        exact ⟨List.mem_cons_of_mem _ hj.1, hj.2⟩
      | _ => trivial
    · intro j _ _ ts' seq' hp hq
      cases hp
      have hj := h.world.thread j
      rw [hq] at hj
      exact hnew hj.1
  · refine Or.inr fun p hp heq => ?_
    change p.2.toNat < (w.shared.generator.sequence + 1).toNat
    rw [hsucc]
    rcases List.mem_cons.mp hp with rfl | hp
    · exact Nat.lt_succ_self _
    · exact Nat.lt_succ_of_lt (h.cursor.behind hdraw p hp heq)

theorem GeneratorInv.issue {ts seq : UInt64} (h : GeneratorInv a w)
    (hp : w.threads i = .issue ts seq) (hnode : SameNode w.shared.generator m'.generator)
    (hlast : m'.generator.lastTimestamp = w.shared.generator.lastTimestamp)
    (hsame : m'.generator.sequence = w.shared.generator.sequence)
    (hdrawn : m'.drawn = w.shared.drawn)
    (hids : okIds m'.returned = a.constructId ts seq :: okIds w.shared.returned) :
    GeneratorInv a ⟨m', Function.update w.threads i .idle⟩ := by
  have hcall := h.world.thread i
  rw [hp] at hcall
  obtain ⟨hmem, hout⟩ := hcall
  have hrange := (h.world.memory.drawn _ hmem).1
  constructor
  · refine h.world.update pairInv_comm ?_ trivial ?_ (fun j _ _ => pairInv_of_ne (by simp) _)
    · obtain ⟨⟨n1, n2, n3⟩, h2, h3, h4⟩ := h.world.memory
      refine ⟨⟨n1.trans hnode.1, n2.trans hnode.2.1, n3.trans hnode.2.2⟩, ?_, ?_, ?_⟩
      · rw [hdrawn, hlast]
        exact h2
      · rw [hids, hdrawn]
        intro id hid
        rcases List.mem_cons.mp hid with rfl | hid
        · exact ⟨_, hmem, rfl⟩
        · exact h3 id hid
      · rw [hids]
        exact List.nodup_cons.mpr ⟨hout, h4⟩
    · intro j hji hj
      cases hq : w.threads j with
      | storeSequence ts' =>
        rw [hq] at hj
        unfold CallInv CanReset at *
        rwa [hlast, hdrawn]
      | issue ts' seq' =>
        rw [hq] at hj
        unfold CallInv at *
        rw [hdrawn, hids]
        refine ⟨hj.1, fun hid => ?_⟩
        rcases List.mem_cons.mp hid with he | hid
        · have hpair := h.world.memory.constructId_inj hn hc (p := (ts', seq'))
            (h.world.memory.drawn _ hj.1).1 hmem he
          cases hpair
          exact h.world.pair j i hji _ _ hq hp
        · exact hj.2 hid
      | _ => trivial
  · rcases h.cursor with ⟨j, ts', hj, hne⟩ | hall
    · have hji : w.threads j ≠ w.threads i := by
        rw [hj, hp]
        exact nofun
      exact Or.inl ⟨j, ts', (World.threads_kept hji).trans hj, by rw [hlast]; exact hne⟩
    · refine Or.inr ?_
      dsimp only
      rw [hlast, hsame, hdrawn]
      exact hall

/-- What `fetch_add` and the exhaustion check do to an orderly run. -/
theorem GeneratorInv.fetch {ts : UInt64} (p' : Call) (h : GeneratorInv a w) (hdraw : CanDraw w ts)
    (hseq : w.shared.generator.sequence.toNat ≤ 2 ^ w.shared.generator.config.workerShift)
    (hfull : Quiet p') {r : SharedGenerator × Call}
    (hs : (if exhausted w.shared.generator.sequence w.shared.generator.config.sequenceMask then
        some (w.shared.setSequence (w.shared.generator.sequence + 1), p')
      else some (w.shared.draw ts
          (w.shared.generator.sequence &&& w.shared.generator.config.sequenceMask),
        .issue ts (w.shared.generator.sequence &&& w.shared.generator.config.sequenceMask))) =
      some r) : GeneratorInv a ⟨r.1, Function.update w.threads i r.2⟩ := by
  split at hs
  · cases hs
    exact h.exhaust hdraw hseq hfull
  · rename_i hex
    have hle := le_sequenceMask_of_not_exhausted hseq (by simpa using hex)
    rw [and_sequenceMask_of_le hle] at hs
    cases hs
    exact h.draw hn hc hdraw hle

/-- **One step.** -/
theorem generatorInv_step {act : ℕ × UInt64} (h : GeneratorInv a w) (hord : Orderly w act)
    (hstep : World.step generateStep w act = some w') : GeneratorInv a w' := by
  obtain ⟨i, reading⟩ := act
  obtain ⟨sh, p, hs, rfl⟩ := World.step_eq_some.mp hstep
  unfold Orderly at hord
  dsimp only at hord
  cases hp : w.threads i with
  | idle =>
    rw [hp] at hs
    cases hs
    exact h.quiet (hp ▸ trivial) trivial ⟨rfl, rfl, rfl⟩ rfl rfl rfl rfl
  | loadLast ts =>
    rw [hp] at hs
    have hq : Quiet p ∧ sh = w.shared := by
      unfold generateStep at hs
      dsimp only at hs
      split at hs
      · cases hs; exact ⟨trivial, rfl⟩
      · split at hs <;> cases hs <;> exact ⟨trivial, rfl⟩
    obtain ⟨hq, rfl⟩ := hq
    exact h.quiet (hp ▸ trivial) hq ⟨rfl, rfl, rfl⟩ rfl rfl rfl rfl
  | storeDrift drift lastTs =>
    rw [hp] at hs
    cases hs
    exact h.quiet (hp ▸ trivial) trivial ⟨rfl, rfl, rfl⟩ rfl rfl rfl rfl
  | countBackward drift lastTs =>
    rw [hp] at hs
    unfold generateStep at hs
    dsimp only at hs
    split at hs <;> cases hs
    · exact h.quiet (hp ▸ trivial) trivial ⟨rfl, rfl, rfl⟩ rfl rfl rfl rfl
    · exact h.quiet (hp ▸ trivial) trivial ⟨rfl, rfl, rfl⟩ rfl rfl rfl rfl
  | waiting lastTs =>
    rw [hp] at hs
    unfold generateStep at hs
    dsimp only at hs
    split at hs <;> cases hs
    · exact h.quiet (hp ▸ trivial) trivial ⟨rfl, rfl, rfl⟩ rfl rfl rfl rfl
    · exact h.quiet (hp ▸ trivial) trivial ⟨rfl, rfl, rfl⟩ rfl rfl rfl rfl
  | fetchSame ts =>
    rw [hp] at hs hord
    exact h.fetch hn hc (.countRotation ts) hord.1 hord.2 trivial hs
  | countRotation ts =>
    rw [hp] at hs
    cases hs
    exact h.quiet (hp ▸ trivial) trivial ⟨rfl, rfl, rfl⟩ rfl rfl rfl rfl
  | resetSequence ts =>
    rw [hp] at hs hord
    cases hs
    exact h.resetSequence hord
  | resetLast ts =>
    rw [hp] at hs hord
    cases hs
    exact h.resetLast hp hord
  | fetchNew ts =>
    rw [hp] at hs hord
    unfold generateStep at hs
    dsimp only at hs
    rw [and_sequenceMask_of_le hord.2] at hs
    cases hs
    exact h.draw hn hc hord.1 hord.2
  | storeLast ts =>
    rw [hp] at hs hord
    cases hs
    exact h.storeLast hord.1 hord.2
  | storeSequence ts =>
    rw [hp] at hs
    cases hs
    exact h.storeSequence hp
  | fetchWaited ts =>
    rw [hp] at hs hord
    exact h.fetch hn hc (.countOverflow ts) hord.1 hord.2 trivial hs
  | countOverflow ts =>
    rw [hp] at hs
    cases hs
    exact h.quiet (hp ▸ trivial) trivial ⟨rfl, rfl, rfl⟩ rfl rfl rfl rfl
  | issue ts seq =>
    rw [hp] at hs
    cases hs
    refine h.issue hn hc hp ⟨rfl, rfl, rfl⟩ rfl rfl rfl ?_
    rw [h.world.memory.node.constructId]
    rfl

end Distinct

/-! ## Calls that do not overlap -/

/-- Nothing drawn lies at the cursor or past it. -/
def Settled (m : SharedGenerator) : Prop :=
  m.generator.sequence.toNat ≤ 2 ^ m.generator.config.workerShift ∧
    ∀ p ∈ m.drawn, p.1 < m.generator.lastTimestamp ∨
      p.1 = m.generator.lastTimestamp ∧ p.2.toNat < m.generator.sequence.toNat

variable {threads : ℕ → Call} {m : SharedGenerator} {clock rest : List UInt64} {r : Result Id}
  {a' : SnowflakeAlgorithm}

/-- A call runs from one of its states to another while the other threads stand still. -/
def Alone (i : ℕ) (threads : ℕ → Call) (m : SharedGenerator) (p : Call) (m' : SharedGenerator)
    (p' : Call) : Prop :=
  Reaches (World.step generateStep) Orderly ⟨m, Function.update threads i p⟩
    ⟨m', Function.update threads i p'⟩

theorem Settled.drawn_le (h : Settled m) :
    ∀ p ∈ m.drawn, p.1 ≤ m.generator.lastTimestamp := by
  intro p hp
  rcases h.2 p hp with hold | ⟨heq, -⟩
  · exact UInt64.le_of_lt hold
  · exact heq ▸ UInt64.le_refl _

theorem Alone.step {p p' : Call} (reading : UInt64)
    (hord : Orderly ⟨m, Function.update threads i p⟩ (i, reading))
    (hs : generateStep i reading m p = some (m', p')) : Alone i threads m p m' p' :=
  World.reaches_step hord hs

theorem Alone.trans {m'' : SharedGenerator} {p p' p'' : Call} (h : Alone i threads m p m' p')
    (h' : Alone i threads m' p' m'' p'') : Alone i threads m p m'' p'' := Reaches.trans h h'

theorem canDraw_alone {ts : UInt64} {p : Call} (hq : ∀ j, Quiet (threads j)) (hp : Quiet p)
    (hfits : ts.toNat < 2 ^ m.generator.config.timestampBits.toNat)
    (hlast : m.generator.lastTimestamp = ts) : CanDraw ⟨m, Function.update threads i p⟩ ts := by
  refine ⟨hfits, hlast, fun j hhalf => ?_⟩
  have hj : Quiet (Function.update threads i p j) := by
    by_cases hji : j = i
    · subst hji
      simpa using hp
    · simpa [Function.update_of_ne hji] using hq j
  dsimp only at hhalf
  cases hc : Function.update threads i p j <;> rw [hc] at hhalf hj <;>
    first | exact hhalf | exact hj

theorem alone_waiting {lastTs ts : UInt64} (h : waitForNextMs lastTs clock = some (ts, rest)) :
    Alone i threads m (.waiting lastTs) m (.storeLast ts) := by
  induction clock with
  | nil => cases h
  | cons current clock ih =>
    unfold waitForNextMs at h
    split at h
    · rename_i hgt
      cases h
      exact Alone.step ts (by simp [Orderly]) (by simp [generateStep, hgt])
    · rename_i hle
      refine Alone.trans (Alone.step current (by simp [Orderly]) ?_) (ih h)
      simp [generateStep, hle]

/-- Drawing and returning, once the counter belongs to the call. -/
theorem alone_issue (i : ℕ) (threads : ℕ → Call) (m : SharedGenerator) (ts seq : UInt64) :
    Alone i threads m (.issue ts seq)
      { m with generator := (m.generator.issue ts seq).2,
               returned := (m.generator.issue ts seq).1 :: m.returned } .idle :=
  Alone.step 0 (by simp [Orderly]) rfl

theorem alone_afterWait {ts : UInt64} (hq : ∀ j, Quiet (threads j))
    (hdrawn : ∀ p ∈ m.drawn, p.1 ≤ m.generator.lastTimestamp)
    (hfits : ts.toNat < 2 ^ m.generator.config.timestampBits.toNat)
    (hlt : m.generator.lastTimestamp < ts) :
    Alone i threads m (.storeLast ts)
      { generator := (m.generator.generateIdWithTimestamp ts m.generator.config.sequenceMask).2
        drawn := (ts, 0) :: m.drawn
        returned :=
          (m.generator.generateIdWithTimestamp ts m.generator.config.sequenceMask).1 ::
            m.returned } .idle := by
  have hstore : Alone i threads m (.storeLast ts) (m.setLast ts) (.storeSequence ts) := by
    refine Alone.step 0 ?_ rfl
    simp only [Orderly, Function.update_self]
    exact ⟨UInt64.le_of_lt hlt, fun p hp => UInt64.lt_of_le_of_lt (hdrawn p hp) hlt⟩
  have hreset : Alone i threads (m.setLast ts) (.storeSequence ts)
      ((m.setLast ts).setSequence 0) (.fetchWaited ts) :=
    Alone.step 0 (by simp [Orderly]) rfl
  have hdraw : Alone i threads ((m.setLast ts).setSequence 0) (.fetchWaited ts)
      (((m.setLast ts).setSequence 0).draw ts 0) (.issue ts 0) := by
    refine Alone.step 0 ?_ ?_
    · simp only [Orderly, Function.update_self]
      exact ⟨canDraw_alone hq trivial hfits rfl, Nat.zero_le _⟩
    · simp [generateStep, SharedGenerator.setSequence]
  refine hstore.trans (hreset.trans (hdraw.trans ?_))
  have hissue := alone_issue i threads (((m.setLast ts).setSequence 0).draw ts 0) ts 0
  simpa [generateIdWithTimestamp, SharedGenerator.setLast, SharedGenerator.setSequence,
    SharedGenerator.draw] using hissue

/-- The rest of a call that waits, for a generator with the same history. -/
theorem alone_wait {g : SnowflakeAlgorithm} {lastTs : UInt64}
    (hafter : g.generateAfterWait lastTs g.config.sequenceMask clock = some (r, a', rest))
    (hq : ∀ j, Quiet (threads j))
    (hclock : ∀ reading ∈ clock, reading.toNat < 2 ^ g.config.timestampBits.toNat)
    (hlast : g.lastTimestamp = lastTs) (hdrawn : ∀ p ∈ m.drawn, p.1 ≤ lastTs) :
    ∃ drawn, Alone i threads ⟨g, m.drawn, m.returned⟩ (.waiting lastTs)
      ⟨a', drawn, r :: m.returned⟩ .idle := by
  subst hlast
  obtain ⟨⟨ts, rest'⟩, hw, he⟩ := Option.map_eq_some_iff.mp hafter
  obtain ⟨hlt, hmem, -⟩ := waitForNextMs_spec hw
  have hrun := alone_afterWait (i := i) (m := ⟨g, m.drawn, m.returned⟩) hq hdrawn
    (hclock ts hmem) hlt
  cases he
  exact ⟨_, (alone_waiting hw).trans hrun⟩

/-- A call whose reading is later than the last timestamp. -/
theorem alone_newMillisecond {timestamp : UInt64} (hq : ∀ j, Quiet (threads j)) (hm : Settled m)
    (hfits : timestamp.toNat < 2 ^ m.generator.config.timestampBits.toNat)
    (hgt : m.generator.lastTimestamp < timestamp) :
    let g := { m.generator with lastTimestamp := timestamp, sequence := 0 + 1 }
    let issued := g.issue timestamp (0 &&& g.config.sequenceMask)
    ∃ drawn, Alone i threads m (.resetSequence timestamp)
      ⟨issued.2, drawn, issued.1 :: m.returned⟩ .idle := by
  have hseq : Alone i threads m (.resetSequence timestamp) (m.setSequence 0)
      (.resetLast timestamp) := by
    refine Alone.step 0 ?_ rfl
    simp only [Orderly, Function.update_self]
    exact fun p hp => UInt64.lt_of_le_of_lt (hm.drawn_le p hp) hgt
  have hlast : Alone i threads (m.setSequence 0) (.resetLast timestamp)
      ((m.setSequence 0).setLast timestamp) (.fetchNew timestamp) := by
    refine Alone.step 0 ?_ rfl
    simp only [Orderly, Function.update_self]
    exact UInt64.le_of_lt hgt
  have hord : Orderly ⟨(m.setSequence 0).setLast timestamp,
      Function.update threads i (.fetchNew timestamp)⟩ (i, 0) := by
    simp only [Orderly, Function.update_self]
    exact ⟨canDraw_alone hq trivial hfits rfl, UInt64.zero_le⟩
  have hfetch := Alone.step 0 hord rfl
  exact ⟨_, hseq.trans (hlast.trans (hfetch.trans (alone_issue i threads _ _ _)))⟩

/-- **A call that nobody disturbs** is an orderly run and does what `generateId` says. -/
theorem generateId_alone (i : ℕ) (threads : ℕ → Call) (hq : ∀ j, Quiet (threads j))
    (hm : Settled m)
    (hclock : ∀ reading ∈ clock, reading.toNat < 2 ^ m.generator.config.timestampBits.toNat)
    (h : m.generator.generateId clock = some (r, a', rest)) :
    ∃ drawn, Alone i threads m .idle ⟨a', drawn, r :: m.returned⟩ .idle := by
  cases clock with
  | nil => cases h
  | cons timestamp clock =>
    have hfits := hclock timestamp List.mem_cons_self
    have hstart : Alone i threads m .idle m (.loadLast timestamp) :=
      Alone.step timestamp (by simp [Orderly]) rfl
    have hclock' : ∀ reading ∈ clock,
        reading.toNat < 2 ^ m.generator.config.timestampBits.toNat :=
      fun reading hmem => hclock reading (List.mem_cons_of_mem _ hmem)
    unfold generateId at h
    dsimp only at h
    split at h
    · -- the clock reads less than the last timestamp
      rename_i hlt
      have hload : Alone i threads m (.loadLast timestamp) m
          (.storeDrift (m.generator.lastTimestamp - timestamp) m.generator.lastTimestamp) :=
        Alone.step 0 (by simp [Orderly]) (by simp [generateStep, hlt])
      have hdrift : Alone i threads m
          (.storeDrift (m.generator.lastTimestamp - timestamp) m.generator.lastTimestamp)
          { m with generator := { m.generator with
              clockDriftMs := m.generator.lastTimestamp - timestamp } }
          (.countBackward (m.generator.lastTimestamp - timestamp) m.generator.lastTimestamp) :=
        Alone.step 0 (by simp [Orderly]) rfl
      split at h
      · rename_i hdr
        cases h
        exact ⟨_, hstart.trans (hload.trans (hdrift.trans
          (Alone.step 0 (by simp [Orderly]) (if_pos hdr))))⟩
      · rename_i hdr
        obtain ⟨drawn, hrest⟩ := alone_wait (m := m) h hq hclock' rfl hm.drawn_le
        have hcount : Alone i threads
            { m with generator := { m.generator with
              clockDriftMs := m.generator.lastTimestamp - timestamp } }
            (.countBackward (m.generator.lastTimestamp - timestamp) m.generator.lastTimestamp)
            _ (.waiting m.generator.lastTimestamp) :=
          Alone.step 0 (by simp [Orderly]) (if_neg hdr)
        exact ⟨drawn, hstart.trans (hload.trans (hdrift.trans (hcount.trans hrest)))⟩
    · rename_i hge
      split at h
      · -- the same millisecond
        rename_i heq
        have hload : Alone i threads m (.loadLast timestamp) m (.fetchSame timestamp) :=
          Alone.step 0 (by simp [Orderly]) (by simp [generateStep, heq])
        have hord : Orderly ⟨m, Function.update threads i (.fetchSame timestamp)⟩ (i, 0) := by
          simp only [Orderly, Function.update_self]
          exact ⟨canDraw_alone hq trivial hfits heq.symm, hm.1⟩
        split at h
        · rename_i hex
          have hfetch := Alone.step 0 hord (if_pos hex)
          obtain ⟨drawn, hrest⟩ := alone_wait (m := m) h hq hclock' heq.symm (heq ▸ hm.drawn_le)
          exact ⟨drawn, hstart.trans (hload.trans (hfetch.trans
            ((Alone.step 0 (by simp [Orderly]) rfl).trans hrest)))⟩
        · rename_i hex
          have hfetch := Alone.step 0 hord (if_neg hex)
          cases h
          exact ⟨_, hstart.trans (hload.trans (hfetch.trans (alone_issue i threads _ _ _)))⟩
      · -- a new millisecond
        rename_i hne
        have hgt : m.generator.lastTimestamp < timestamp :=
          UInt64.lt_of_le_of_ne (UInt64.not_lt.mp hge) (Ne.symm hne)
        have hload : Alone i threads m (.loadLast timestamp) m (.resetSequence timestamp) :=
          Alone.step 0 (by simp [Orderly]) (by simp [generateStep, hge, hne])
        obtain ⟨drawn, hrest⟩ := alone_newMillisecond (i := i) hq hm hfits hgt
        cases h
        exact ⟨drawn, hstart.trans (hload.trans hrest)⟩

theorem GeneratorInv.settled (h : GeneratorInv a ⟨m, fun _ => .idle⟩)
    (hseq : m.generator.sequence.toNat ≤ 2 ^ m.generator.config.workerShift) : Settled m := by
  refine ⟨hseq, fun p hp => ?_⟩
  rcases h.cursor with ⟨j, ts, hj, -⟩ | hall
  · cases hj
  · by_cases heq : p.1 = m.generator.lastTimestamp
    · exact Or.inr ⟨heq, hall p hp heq⟩
    · exact Or.inl (UInt64.lt_of_le_of_ne (h.world.memory.drawn p hp).2 heq)

/-- **One call after another** is an orderly run. -/
theorem generateIds_alone {n : ℕ} {results : List (Result Id)} (hn : a.NodeClear)
    (hc : a.config.totalBits.toNat < 64) (hinv : GeneratorInv a ⟨m, fun _ => .idle⟩)
    (hseq : m.generator.sequence.toNat ≤ 2 ^ m.generator.config.workerShift)
    (hclock : ∀ reading ∈ clock, reading.toNat < 2 ^ m.generator.config.timestampBits.toNat)
    (h : generateIds n m.generator clock = some (results, a', rest)) :
    ∃ drawn, Reaches (World.step generateStep) Orderly ⟨m, fun _ => .idle⟩
      ⟨⟨a', drawn, results.reverse ++ m.returned⟩, fun _ => .idle⟩ := by
  induction n generalizing m clock results with
  | zero =>
    cases h
    exact ⟨m.drawn, Reaches.refl _⟩
  | succ n ih =>
    obtain ⟨⟨r, b, clock'⟩, hcall, h⟩ := Option.bind_eq_some_iff.mp h
    obtain ⟨⟨results', b', rest'⟩, hrun, h⟩ := Option.bind_eq_some_iff.mp h
    cases h
    obtain ⟨drawn, halone⟩ := generateId_alone 0 (fun _ => .idle) (fun _ => trivial)
      (hinv.settled hseq) hclock hcall
    unfold Alone at halone
    rw [Function.update_eq_self_iff.mpr rfl] at halone
    have hinv' := halone.invariant hinv
      fun _ _ _ hi hord hs => generatorInv_step hn hc hi hord hs
    obtain ⟨hnode, hsub, hcase⟩ := generateId_spec hseq hcall
    have hseq' : b.sequence.toNat ≤ 2 ^ b.config.workerShift := by
      rw [← hnode.1]
      rcases hcase with ⟨e, -, -, hb⟩ | ⟨ts, q, -, ⟨-, hq, -, hb⟩, -⟩
      · rw [hb]
        exact hseq
      · rw [hb, toNat_succ_of_le hq]
        exact sequence_le_iff.mp hq
    obtain ⟨drawn', hrest⟩ := ih hinv' hseq'
      (fun reading hr => hnode.1 ▸ hclock reading (hsub hr)) hrun
    refine ⟨drawn', halone.trans ?_⟩
    simpa using hrest

/-- **Orderly runs.** No two calls of an orderly run return the same id. -/
theorem orderly_ids_distinct (hn : a.NodeClear) (hc : a.config.totalBits.toNat < 64)
    (h : Reaches (World.step generateStep) Orderly (start a) w) :
    (okIds w.shared.returned).Nodup := by
  have hinv : GeneratorInv a w := h.invariant (generatorInv_start a)
    fun _ _ _ hi hord hs => generatorInv_step hn hc hi hord hs
  exact hinv.world.memory.distinct

/-- Three calls of a fresh generator, one after another. -/
theorem orderly_ids_distinct_default : ∃ w,
    Reaches (World.step generateStep) Orderly (start (build .default)) w ∧
      w.shared.returned.length = 3 ∧ (okIds w.shared.returned).Nodup := by
  have hn : (build .default).NodeClear := nodeClear_of_fits (by decide) ⟨by decide, by decide⟩
  have hc : (build .default).config.totalBits.toNat < 64 := by decide
  have hlength : (generateIds 3 (build .default) [1, 1, 2]).map (fun x => x.1.length) =
      some 3 := rfl
  obtain ⟨⟨results, a, rest⟩, hrun, hlen⟩ := Option.map_eq_some_iff.mp hlength
  have hclock : ∀ reading ∈ ([1, 1, 2] : List UInt64),
      reading.toNat < 2 ^ (build .default).config.timestampBits.toNat := by
    simp only [List.forall_mem_cons, List.not_mem_nil, false_imp_iff, implies_true, and_true]
    decide
  obtain ⟨drawn, hreach⟩ := generateIds_alone hn hc (generatorInv_start _) (Nat.zero_le _)
    hclock hrun
  exact ⟨_, hreach, by simpa using hlen, orderly_ids_distinct hn hc hreach⟩

end SnowflakeAlgorithm

end NebulaId
