import NebulaId.Algorithm.Implementations
import NebulaId.Algorithm.Router
import NebulaId.Database.Allocation
import NebulaId.Segment.Frame

/-!
# Ids of several algorithms (`core/algorithm/router.rs`)

After a failure the router asks another algorithm, so the ids of a tag come from several. Their
numbers keep apart segment ids, Snowflake ids and UUIDs: nothing else does.

* `fallback_ids_distinct`: with 13 bits or more below the timestamp, and clocks within its field,
  they do keep them apart.
* `layout_clears_iff`: with fewer they do not.
* `fallback_repeats`: Snowflake repeats a segment id under a layout of 4 bits, and under the default
  layout when the clock has left the timestamp field.
-/

namespace NebulaId

open Machine

/-! ## Segment ids are low -/

/-- The range of a segment ends below 2^47, and the cursor has not passed its end. -/
def Tame (s : Segment) : Prop := s.currentId ≤ s.maxId ∧ s.maxId.toNat < 2 ^ 47

/-- The ranges loaded for a key end below 2^47, none before it starts. -/
def LowLoads (key : String) (loaded : List (String × SegmentData)) : Prop :=
  ∀ d, (key, d) ∈ loaded → d.startId ≤ d.maxId ∧ d.maxId.toNat < 2 ^ 47

def TameHeap (key : String) (m : SharedSegments) : Prop := ∀ c ∈ m.heap, c.1 = key → Tame c.2

variable {below : UInt64 → UInt64 → Bool} {input : Input} {m m' : SharedSegments} {p : Task}
  {held : Option (String × ℕ)} {key : String} {w w' : World SharedSegments Task}

theorem Tame.consume {s s' : Segment} {count start stop : UInt64} (h : Tame s)
    (hs : s.tryConsume count = (some (start, stop), s')) : Tame s' ∧ stop ≤ s.maxId := by
  obtain ⟨-, hstop, hcursor⟩ := Segment.tryConsume_cursor hs
  obtain ⟨-, hmax⟩ := Segment.tryConsume_range hs
  have hle : stop ≤ s.maxId := by
    unfold Segment.tryConsume at hs
    split at hs
    · cases hs
    · rename_i hle
      rw [hstop]
      exact UInt64.not_lt.mp hle
  unfold Tame
  rw [hcursor, hmax]
  exact ⟨⟨hle, h.2⟩, hle⟩

theorem TameHeap.setSegment {i : ℕ} {c : String × Segment} {s : Segment}
    {count start stop : UInt64} (h : TameHeap key m) (hc : m.heap[i]? = some c)
    (hs : c.2.tryConsume count = (some (start, stop), s)) :
    TameHeap key (m.setSegment i (c.1, s)) := by
  intro c' hc' hkey
  rcases List.mem_or_eq_of_mem_set hc' with hold | rfl
  · exact h c' hold hkey
  · exact ((h c (List.mem_of_getElem? hc) hkey).consume hs).1

/-- **One step.** -/
theorem Move.tame (h : Move input m p m' held) (hlow : LowLoads key m'.loaded)
    (hm : TameHeap key m) : TameHeap key m' := by
  cases h with
  | create key' hb =>
    intro c hc hkey
    rcases List.mem_append.mp hc with hold | hnew
    · exact hm c hold hkey
    · rw [List.mem_singleton.mp hnew]
      exact ⟨UInt64.le_refl _, show (0 : UInt64).toNat < 2 ^ 47 by decide⟩
  | load key' d hp hd =>
    intro c hc hkey
    rcases List.mem_append.mp hc with hold | hnew
    · exact hm c hold hkey
    · obtain rfl := List.mem_singleton.mp hnew
      exact hlow d (List.mem_cons.mpr (Or.inl (congrArg (·, d) hkey.symm)))
  | consume key' j count start stop c s a hi hcount hc hs ha => exact hm.setSegment hc hs
  | waste key' j count start stop c s hi hcount hc hs hempty => exact hm.setSegment hc hs
  | _ => exact hm

/-- **A run.** -/
theorem tameHeap_of_reaches (h : Reaches (World.step (segmentStep below)) Free noCalls w)
    (hlow : LowLoads key w.shared.loaded) : TameHeap key w.shared := by
  induction h with
  | refl => exact fun c hc => (List.not_mem_nil hc).elim
  | tail _ hn ih =>
    obtain ⟨⟨i, input⟩, -, hstep⟩ := hn
    obtain ⟨m, p, hs, rfl⟩ := World.step_eq_some.mp hstep
    have hmove := segmentStep_cases hs
    refine hmove.tame hlow (ih fun d hd => hlow d ?_)
    exact hmove.loaded.subset hd

/-- The ids of an answer lie below the end of the segment. -/
theorem Move.answer_low {a : Answer} (h : Move input m p m' held) (hm : TameHeap key m)
    (howns : HoldsOwn m 0 p) (hp : p.key = some key)
    (ha : m'.answers = (key, a) :: m.answers) : ∀ id ∈ a.ids, id.asU128.toNat < 2 ^ 47 := by
  have hquiet : m'.answers = m.answers → ∀ id ∈ a.ids, id.asU128.toNat < 2 ^ 47 := by
    intro hkept
    exact absurd (hkept.symm.trans ha) List.ne_cons_self
  have hempty : ∀ k (b : Answer), b.ids = [] → m'.answers = (k, b) :: m.answers →
      ∀ id ∈ a.ids, id.asU128.toNat < 2 ^ 47 := by
    intro k b hb hanswers
    cases (Prod.mk.inj (List.cons.inj (hanswers.symm.trans ha)).1).2
    rw [hb]
    exact nofun
  cases h with
  | fail k b hb => exact hempty k b hb rfl
  | abandon k _ b _ hb => exact hempty k b hb rfl
  | consume k i count start stop c s b hi hcount hc hs hb =>
    cases (Prod.mk.inj (List.cons.inj ha).1).2
    obtain ⟨t, ht⟩ := howns k i hi
    cases hc.symm.trans ht
    have hkey : k = key := Option.some.inj ((Task.key_of_held hi).symm.trans hp)
    have htame := hm (k, t) (List.mem_of_getElem? hc) hkey
    have hstop := (htame.consume hs).2
    obtain ⟨hcursor, hlow⟩ := htame
    obtain ⟨hstart, -, -⟩ := Segment.tryConsume_cursor hs
    rcases hb with hb | ⟨hb, -⟩
    · intro id hid
      rw [hb] at hid
      have hmem := List.mem_map_of_mem (f := fun id : Id => id.asU128.toNat) hid
      rw [map_toNat_u64Range, List.mem_range'_1] at hmem
      have hle := UInt64.le_iff_toNat_le.mp hstop
      dsimp only at hmem hlow hle
      omega
    · intro id hid
      rw [hb, List.mem_singleton] at hid
      rw [hid, Id.toNat_asU128_ofU64, hstart]
      have hle := UInt64.le_iff_toNat_le.mp hcursor
      dsimp only at hlow hle ⊢
      omega
  | _ => exact hquiet rfl

/-! ## Runs of requests -/

/-- `generate` and `batch_generate`, or their variants that name an algorithm. -/
inductive IdRequest where
  | one (group : String) (algorithm : Option AlgorithmType)
  | batch (group : String) (algorithm : Option AlgorithmType) (size : ℕ)

namespace AlgorithmRouter

/-- The ids of the answer to a request, none if it fails. -/
def serve (workspace bizTag : String) (r : AlgorithmRouter) : IdRequest → List Id × AlgorithmRouter
  | .one group algorithm =>
    let ctx : GenerateContext := ⟨workspace, group, bizTag⟩
    let (result, r) := r.generateWithAlgorithmInternal (algorithm.getD (r.getAlgorithm ctx)) ctx
    (result.toOption.toList, r)
  | .batch group algorithm size =>
    let ctx : GenerateContext := ⟨workspace, group, bizTag⟩
    let (result, r) :=
      r.batchGenerateWithAlgorithmInternal (algorithm.getD (r.getAlgorithm ctx)) ctx size
    ((result.toOption.map IdBatch.ids).getD [], r)

/-- The answers to a run of requests; the algorithm called last has made the ids. -/
def answers (workspace bizTag : String) :
    AlgorithmRouter → List IdRequest → List (Option AlgorithmType × List Id)
  | _, [] => []
  | r, q :: requests =>
    let (ids, r) := r.serve workspace bizTag q
    (r.calls.getLast?, ids) :: answers workspace bizTag r requests

end AlgorithmRouter

/-- The range of a row, as `load_segment` returns it. -/
def SegmentInfo.data (s : SegmentInfo) : SegmentData :=
  ⟨UInt64.ofInt s.currentId, UInt64.ofInt s.maxId, UInt64.ofInt s.step, 0⟩

/-- A row of `allocate_segment` or `allocate_segment_with_dc` that ends below 2^47. -/
def LowRow (workspace bizTag : String) (d : SegmentData) : Prop :=
  ∃ l, Reaches (allocate workspace bizTag) Free emptyLedger l ∧
    ∃ s ∈ okSegments l.results, s.maxId < 2 ^ 47 ∧ d = s.data

/-- The call runs in the system: its segments are rows, its generator is that of the configuration
and its clock reads as it may, its UUIDs are of their version. -/
def AlgorithmCall.Runs (config : Config) (mayRead : UInt64 → Prop) (workspace bizTag : String) :
    AlgorithmCall → Prop
  | .segment below w _ => Reaches (World.step (segmentStep below)) Free noCalls w ∧
      ∀ d, (workspace ++ ":" ++ bizTag, d) ∈ w.shared.loaded → LowRow workspace bizTag d
  | .snowflake a clock => (SnowflakeAlgorithm.build config).SameNode a ∧
      ∀ reading ∈ clock, mayRead reading
  | .uuidV7 _ uuids => ∀ uuid ∈ uuids, (uuid >>> 76) &&& 0xF = 7
  | .uuidV4 _ uuids => ∀ uuid ∈ uuids, (uuid >>> 76) &&& 0xF = 4

/-- What an algorithm of the table returns, a call of its implementation returns. -/
structure Implemented (config : Config) (mayRead : UInt64 → Prop) (workspace bizTag : String)
    (r : AlgorithmRouter) : Prop where
  one : ∀ algType alg, r.algorithms algType = some alg → ∀ turn group id,
    alg.generate turn ⟨workspace, group, bizTag⟩ = .ok id →
      ∃ c : AlgorithmCall, c.algorithm = algType ∧ c.Runs config mayRead workspace bizTag ∧
        c.Generates ⟨workspace, group, bizTag⟩ (.ok id)
  batch : ∀ algType alg, r.algorithms algType = some alg → ∀ turn group size ids,
    alg.batchGenerate turn ⟨workspace, group, bizTag⟩ size = .ok ids →
      ∃ c : AlgorithmCall, c.algorithm = algType ∧ c.Runs config mayRead workspace bizTag ∧
        c.BatchGenerates ⟨workspace, group, bizTag⟩ size (.ok ids)

theorem Implemented.of_algorithms {config : Config} {mayRead : UInt64 → Prop}
    {workspace bizTag : String} {r r' : AlgorithmRouter}
    (h : Implemented config mayRead workspace bizTag r) (hkept : r'.algorithms = r.algorithms) :
    Implemented config mayRead workspace bizTag r' := by
  refine ⟨?_, ?_⟩
  · rw [hkept]
    exact h.one
  · rw [hkept]
    exact h.batch

/-- If the ids of each algorithm are distinct, so are all ids of every run. -/
def UniqueRuns (config : Config) (mayRead : UInt64 → Prop) : Prop :=
  ∀ (workspace bizTag : String) (r : AlgorithmRouter) (requests : List IdRequest),
    Implemented config mayRead workspace bizTag r →
      (∀ algType, (((r.answers workspace bizTag requests).filter
        fun p => p.1 = some algType).flatMap Prod.snd).Nodup) →
      ((r.answers workspace bizTag requests).flatMap Prod.snd).Nodup

/-! ## The maker of an id -/

/-- The algorithm that the number of an id belongs to. -/
def maker (id : Id) : AlgorithmType :=
  if id.asU128.toNat < 2 ^ 47 then .segment
  else if id.asU128.toNat < 2 ^ 64 then .snowflake
  else if (id.asU128 >>> 76) &&& 0xF = 7 then .uuidV7
  else .uuidV4

theorem shiftRight_of_small {v : BitVec 128} (h : v.toNat < 2 ^ 64) : v >>> 76 = 0 := by
  apply BitVec.eq_of_toNat_eq
  rw [BitVec.toNat_ushiftRight, Nat.shiftRight_eq_div_pow]
  exact Nat.div_eq_of_lt (h.trans (by decide))

/-- A UUID with a version is long. -/
theorem maker_of_version {id : Id} {version : BitVec 128} (hne : version ≠ 0)
    (h : (id.asU128 >>> 76) &&& 0xF = version) :
    maker id = if version = 7 then .uuidV7 else .uuidV4 := by
  have hlong : ¬ id.asU128.toNat < 2 ^ 64 := by
    intro hsmall
    rw [shiftRight_of_small hsmall] at h
    exact hne (h.symm.trans (by decide))
  have hlong' : ¬ id.asU128.toNat < 2 ^ 47 := fun hsmall => hlong (hsmall.trans (by decide))
  unfold maker
  rw [if_neg hlong', if_neg hlong, h]

theorem maker_of_low {id : Id} (h : id.asU128.toNat < 2 ^ 47) : maker id = .segment := if_pos h

theorem maker_of_word {id : Id} (hlow : 2 ^ 47 ≤ id.asU128.toNat)
    (hword : id.asU128.toNat < 2 ^ 64) : maker id = .snowflake := by
  unfold maker
  rw [if_neg (Nat.not_lt.mpr hlow), if_pos hword]

/-! ## Segments -/

theorem toNat_ofInt_of_nonneg {x : ℤ} (h0 : 0 ≤ x) (h : x < 2 ^ 64) :
    (UInt64.ofInt x).toNat = x.toNat := by
  unfold UInt64.ofInt
  rw [Int.emod_eq_of_lt h0 h, UInt64.toNat_ofNat_of_lt']
  have := Int.toNat_of_nonneg h0
  change x.toNat < 2 ^ 64
  omega

/-- Rows and segments start at 1 or later, and no segment ends before it starts. -/
structure RowsPositive (t : SegmentTable) (issued : List SegmentInfo) : Prop where
  rows : ∀ r ∈ t.rows, 1 ≤ r.currentId ∧ r.currentId ≤ i64Max
  segments : ∀ s ∈ issued, 1 ≤ s.currentId ∧ s.currentId ≤ s.maxId

theorem entry_startId (q : Request) (workspaceId bizTag : String) :
    1 ≤ (q.entry workspaceId bizTag).startId ∧ (q.entry workspaceId bizTag).startId ≤ i64Max := by
  unfold Request.entry
  split
  · rename_i dcId hdc
    obtain ⟨h0, h31⟩ := q.admitted dcId hdc
    change 1 ≤ dcStart dcId ∧ dcStart dcId ≤ i64Max
    rw [dcStart_eq ⟨h0, h31⟩, i64Max]
    omega
  · change 1 ≤ (1 : ℤ) ∧ (1 : ℤ) ≤ i64Max
    decide

/-- The commit of a call. -/
theorem RowsPositive.commit {e : Entry} {step : ℤ} {t : SegmentTable} {issued : List SegmentInfo}
    {existing : Option SegmentRow} (h : RowsPositive t issued)
    (hstart : 1 ≤ e.startId ∧ e.startId ≤ i64Max) (hstep : 0 < step)
    (hread : ∀ r ∈ existing, r ∈ t.rows) :
    RowsPositive (commit e step t existing).2 ((commit e step t existing).1 :: issued) := by
  have hadd : ∀ x : ℤ, 1 ≤ x → x ≤ i64Max → x ≤ saturatingAdd x step ∧
      saturatingAdd x step ≤ i64Max := by
    intro x h1 hmax
    rw [saturatingAdd_eq (by omega) hstep.le]
    omega
  cases existing with
  | some model =>
    obtain ⟨h1, hmax⟩ := h.rows model (hread model rfl)
    obtain ⟨hle, hend⟩ := hadd _ h1 hmax
    constructor
    · intro r hr
      rcases SegmentTable.mem_setCurrent (hread model rfl) hr with rfl | ⟨hold, -⟩
      · exact ⟨h1.trans hle, hend⟩
      · exact h.rows r hold
    · intro s hs
      rcases List.mem_cons.mp hs with rfl | hold
      · exact ⟨h1, hle⟩
      · exact h.segments s hold
  | none =>
    obtain ⟨hle, hend⟩ := hadd _ hstart.1 hstart.2
    constructor
    · intro r hr
      rcases List.mem_append.mp hr with hold | hnew
      · exact h.rows r hold
      · rw [List.mem_singleton.mp hnew]
        exact ⟨hstart.1.trans hle, hend⟩
    · intro s hs
      rcases List.mem_cons.mp hs with rfl | hold
      · exact ⟨hstart.1, hle⟩
      · exact h.segments s hold

/-- **A run of allocations**, whatever room it finds. -/
theorem rowsPositive_of_reaches {workspace bizTag : String} {l : Ledger}
    (h : Reaches (allocate workspace bizTag) Free emptyLedger l) :
    RowsPositive l.table (okSegments l.results) := by
  refine h.invariant (I := fun l => RowsPositive l.table (okSegments l.results)) ?_ ?_
  · exact ⟨fun r hr => (List.not_mem_nil hr).elim, fun s hs => (List.not_mem_nil hs).elim⟩
  · intro l c l' hinv _ hs
    have hread : ∀ r ∈ l.table.one (c.entry workspace bizTag).selects c.pick, r ∈ l.table.rows :=
      fun r hr => (SegmentTable.one_eq_some hr).1
    have hcommit := hinv.commit (entry_startId c.toRequest workspace bizTag) c.positive hread
    unfold allocate at hs
    cases hout : c.outcome with
    | done =>
      rw [hout] at hs
      cases hs
      exact hcommit
    | rolledBack err =>
      rw [hout] at hs
      cases hs
      exact hinv
    | unseen err =>
      rw [hout] at hs
      cases hs
      exact ⟨hcommit.rows, fun s hs => hinv.segments s hs⟩

theorem LowRow.range {workspace bizTag : String} {d : SegmentData} (h : LowRow workspace bizTag d) :
    d.startId ≤ d.maxId ∧ d.maxId.toNat < 2 ^ 47 := by
  obtain ⟨l, hl, s, hs, hlow, rfl⟩ := h
  obtain ⟨h1, hle⟩ := (rowsPositive_of_reaches hl).segments s hs
  have hstart : s.data.startId.toNat = s.currentId.toNat :=
    toNat_ofInt_of_nonneg (by omega) (by omega)
  have hend : s.data.maxId.toNat = s.maxId.toNat := toNat_ofInt_of_nonneg (by omega) (by omega)
  rw [UInt64.le_iff_toNat_le, hstart, hend]
  omega

/-- The ids of an answer of the segment algorithm are low. -/
theorem segment_answer_low {act : ℕ × Input} {a : Answer}
    (hreach : Reaches (World.step (segmentStep below)) Free noCalls w)
    (hlow : LowLoads key w.shared.loaded) (hstep : World.step (segmentStep below) w act = some w')
    (hkey : (w.threads act.1).key = some key)
    (ha : w'.shared.answers = (key, a) :: w.shared.answers) :
    ∀ id ∈ a.ids, maker id = .segment := by
  have hinv : SegmentsInv w :=
    hreach.invariant segmentsInv_noCalls fun _ _ _ hi _ hs => segmentsInv_step hi hs
  obtain ⟨i, input⟩ := act
  obtain ⟨m', p', hs, rfl⟩ := World.step_eq_some.mp hstep
  have hids := (segmentStep_cases hs).answer_low (tameHeap_of_reaches hreach hlow)
    (hinv.thread i) hkey ha
  exact fun id hid => maker_of_low (hids id hid)

/-! ## Snowflake words -/

namespace SnowflakeAlgorithm

/-- The timestamp of a reading at its place in the word. -/
def placed (config : Config) (reading : UInt64) : ℕ :=
  (reading <<< config.algorithm.snowflake.totalBits.toUInt64).toNat

theorem maker_constructId {config : Config} {a : SnowflakeAlgorithm} {ts seq : UInt64}
    (hnode : (build config).SameNode a) (hclear : 2 ^ 47 ≤ placed config ts) :
    maker (a.constructId ts seq) = .snowflake := by
  rw [← hnode.constructId]
  have hword := Id.toNat_asU128_ofU64 (((ts <<< config.algorithm.snowflake.totalBits.toUInt64) |||
    ((build config).datacenterId.toUInt64 <<< (config.algorithm.snowflake.workerIdBits +
      config.algorithm.snowflake.sequenceBits).toUInt64) |||
    ((build config).workerId.toUInt64 <<< config.algorithm.snowflake.sequenceBits.toUInt64)) ||| seq)
  refine maker_of_word ?_ ?_
  · refine hclear.trans ?_
    refine le_of_le_of_eq ?_ hword.symm
    rw [UInt64.toNat_or, UInt64.toNat_or, UInt64.toNat_or, Nat.or_assoc, Nat.or_assoc]
    exact Nat.left_le_or
  · exact lt_of_eq_of_lt hword (UInt64.toNat_lt _)

/-- One year in milliseconds. -/
def year : ℕ := 365 * 24 * 60 * 60 * 1000

/-- A reading at least a year after the epoch and within the timestamp field. -/
def InField (config : Config) (reading : UInt64) : Prop :=
  year ≤ reading.toNat ∧ reading.toNat < 2 ^ (64 - config.algorithm.snowflake.totalBits.toNat)

theorem placed_eq {config : Config} {reading : UInt64} (haccepted : config.Accepted)
    (h : reading.toNat < 2 ^ (64 - config.algorithm.snowflake.totalBits.toNat)) :
    placed config reading = reading.toNat * 2 ^ config.algorithm.snowflake.totalBits.toNat := by
  have htotal := Config.totalBits_lt_of_validate haccepted
  unfold placed
  rw [UInt64.toNat_shiftLeft, UInt8.toNat_toUInt64, Nat.mod_eq_of_lt htotal, Nat.shiftLeft_eq]
  refine Nat.mod_eq_of_lt ?_
  calc reading.toNat * 2 ^ config.algorithm.snowflake.totalBits.toNat
      < 2 ^ (64 - config.algorithm.snowflake.totalBits.toNat) *
          2 ^ config.algorithm.snowflake.totalBits.toNat :=
        Nat.mul_lt_mul_of_pos_right h (Nat.two_pow_pos _)
    _ = 2 ^ 64 := by rw [← Nat.pow_add, Nat.sub_add_cancel htotal.le]

/-- **Layouts.** The readings of the field are placed past the numbers of the segments exactly when
at least 13 bits lie below them. -/
theorem layout_clears_iff {config : Config} (haccepted : config.Accepted) :
    (∀ reading, InField config reading → 2 ^ 47 ≤ placed config reading) ↔
      13 ≤ config.algorithm.snowflake.totalBits.toNat := by
  constructor
  · intro hclear
    by_contra hnarrow
    have hle : config.algorithm.snowflake.totalBits.toNat ≤ 12 := by omega
    have hyear : (UInt64.ofNat year).toNat = year := by decide
    have hfield : year < 2 ^ (64 - config.algorithm.snowflake.totalBits.toNat) :=
      lt_of_lt_of_le (show year < 2 ^ 52 by decide) (Nat.pow_le_pow_right (by omega) (by omega))
    rw [← hyear] at hfield
    have hword := hclear (UInt64.ofNat year) ⟨hyear.ge, hfield⟩
    rw [placed_eq haccepted hfield, hyear] at hword
    have hsmall : year * 2 ^ config.algorithm.snowflake.totalBits.toNat ≤ year * 2 ^ 12 :=
      Nat.mul_le_mul_left _ (Nat.pow_le_pow_right (by omega) hle)
    exact absurd (hword.trans hsmall) (by decide)
  · rintro hwide reading ⟨hyear, hfield⟩
    rw [placed_eq haccepted hfield]
    calc 2 ^ 47 ≤ year * 2 ^ 13 := by decide
      _ ≤ reading.toNat * 2 ^ config.algorithm.snowflake.totalBits.toNat :=
        Nat.mul_le_mul hyear (Nat.pow_le_pow_right (by omega) hwide)

end SnowflakeAlgorithm

/-! ## Calls -/

variable {config : Config} {mayRead : UInt64 → Prop} {workspace bizTag : String}
  {c : AlgorithmCall} {ctx : GenerateContext}

theorem lowLoads_of_rows {loaded : List (String × SegmentData)}
    (h : ∀ d, (workspace ++ ":" ++ bizTag, d) ∈ loaded → LowRow workspace bizTag d) :
    LowLoads (workspace ++ ":" ++ bizTag) loaded := fun d hd => (h d hd).range

/-- An id is made by the algorithm that its number belongs to. -/
theorem AlgorithmCall.Runs.maker_one {group : String} {id : Id}
    (h : c.Runs config mayRead workspace bizTag)
    (hclear : ∀ reading, mayRead reading → 2 ^ 47 ≤ SnowflakeAlgorithm.placed config reading)
    (hid : c.Generates ⟨workspace, group, bizTag⟩ (.ok id)) : maker id = c.algorithm := by
  cases c with
  | segment below w act =>
    obtain ⟨w', tries, next, hstep, hp, ha⟩ := hid
    obtain ⟨hreach, hrows⟩ := h
    refine segment_answer_low hreach (lowLoads_of_rows hrows) hstep ?_ ha id List.mem_cons_self
    rw [hp]
    rfl
  | snowflake a clock =>
    obtain ⟨⟨a', rest⟩, hcall⟩ := hid
    obtain ⟨hnode, hreadings⟩ := h
    obtain ⟨-, -, hlast⟩ := SnowflakeAlgorithm.generateId_last hcall
    obtain ⟨hmem, rfl⟩ := hlast id rfl
    exact SnowflakeAlgorithm.maker_constructId hnode (hclear _ (hreadings _ hmem))
  | uuidV7 u uuids =>
    obtain ⟨s, hs⟩ := hid
    cases uuids with
    | nil => cases hs
    | cons uuid rest =>
      cases hs
      exact maker_of_version (by decide) (h uuid List.mem_cons_self)
  | uuidV4 u uuids =>
    obtain ⟨s, hs⟩ := hid
    cases uuids with
    | nil => cases hs
    | cons uuid rest =>
      cases hs
      exact maker_of_version (by decide) (h uuid List.mem_cons_self)

theorem maker_of_batchOf {algorithm : AlgorithmType} {u : UuidImpl} {size : ℕ}
    {uuids : List (BitVec 128)} {s : UuidImpl × List (BitVec 128)} {batch : IdBatch}
    {version : BitVec 128} (hne : version ≠ 0)
    (hversion : ∀ uuid ∈ uuids, (uuid >>> 76) &&& 0xF = version)
    (h : UuidImpl.batchOf algorithm u size uuids = some (.ok batch, s)) :
    ∀ id ∈ batch.ids, maker id = if version = 7 then .uuidV7 else .uuidV4 := by
  unfold UuidImpl.batchOf at h
  split at h
  · cases h
  · cases h
    intro id hid
    obtain ⟨uuid, hmem, rfl⟩ := List.mem_map.mp hid
    exact maker_of_version hne (hversion uuid (List.mem_of_mem_take hmem))

theorem SnowflakeAlgorithm.maker_of_batch {a : SnowflakeAlgorithm} {clock : List UInt64} {size : ℕ}
    {batch : IdBatch} {s : Clocked} (hnode : (build config).SameNode a)
    (hclear : ∀ reading ∈ clock, 2 ^ 47 ≤ placed config reading)
    (h : a.batchGenerate size clock = some (.ok batch, s)) :
    ∀ id ∈ batch.ids, maker id = .snowflake := by
  unfold batchGenerate at h
  split at h
  · cases h
    exact nofun
  · obtain ⟨⟨ids, t⟩, hids, heq⟩ := Option.map_eq_some_iff.mp h
    dsimp only at heq
    split at heq
    · cases heq
    · cases heq
      intro id hid
      rw [collect_eq hids] at hid
      obtain ⟨p, hp, rfl⟩ := List.mem_map.mp hid
      obtain ⟨hmem, hp'⟩ := successes_last _ a clock p (List.mem_of_mem_take hp)
      rw [hp']
      exact maker_constructId hnode (hclear _ hmem)

theorem AlgorithmCall.Runs.maker_batch {group : String} {size : ℕ} {batch : IdBatch}
    (h : c.Runs config mayRead workspace bizTag)
    (hclear : ∀ reading, mayRead reading → 2 ^ 47 ≤ SnowflakeAlgorithm.placed config reading)
    (hbatch : c.BatchGenerates ⟨workspace, group, bizTag⟩ size (.ok batch)) :
    ∀ id ∈ batch.ids, maker id = c.algorithm := by
  cases c with
  | segment below w act =>
    obtain ⟨w', usize, fits, next, hstep, hp, -, ha⟩ := hbatch
    obtain ⟨hreach, hrows⟩ := h
    refine segment_answer_low hreach (lowLoads_of_rows hrows) hstep ?_ ha
    rw [hp]
    rfl
  | snowflake a clock =>
    obtain ⟨s, hs⟩ := hbatch
    obtain ⟨hnode, hreadings⟩ := h
    exact SnowflakeAlgorithm.maker_of_batch hnode
      (fun reading hmem => hclear reading (hreadings reading hmem)) hs
  | uuidV7 u uuids =>
    obtain ⟨s, hs⟩ := hbatch
    exact maker_of_batchOf (by decide) h hs
  | uuidV4 u uuids =>
    obtain ⟨s, hs⟩ := hbatch
    exact maker_of_batchOf (by decide) h hs

/-! ## Runs -/

namespace AlgorithmRouter

variable {α : Type} {ask : IdAlgorithm → ℕ → Result α} {r : AlgorithmRouter}
  {algorithm : AlgorithmType}

theorem withAlgorithm_algorithms : (r.withAlgorithm ask algorithm).2.algorithms = r.algorithms := by
  rw [withAlgorithm_eq]
  rfl

/-- The answer comes from the algorithm called last. -/
theorem withAlgorithm_made {x : α} (h : (r.withAlgorithm ask algorithm).1 = .ok x) :
    ∃ algType alg turn, r.algorithms algType = some alg ∧ ask alg turn = .ok x ∧
      (r.withAlgorithm ask algorithm).2.calls.getLast? = some algType := by
  obtain ⟨algType, hfirst, hlast⟩ := withAlgorithm_ok h
  obtain ⟨failed, later, hsplit, -⟩ := firstOk_eq_some_iff.mp hfirst
  obtain ⟨alg, halg, hx⟩ := outcomes_split hsplit
  exact ⟨algType, alg, _, halg, hx, hlast⟩

theorem serve_algorithms (q : IdRequest) :
    (r.serve workspace bizTag q).2.algorithms = r.algorithms := by
  cases q with
  | one group asked => exact withAlgorithm_algorithms
  | batch group asked size => exact withAlgorithm_algorithms

theorem eq_ok_of_mem {x : Result Id} {id : Id} (h : id ∈ x.toOption.toList) : x = .ok id := by
  cases x with
  | error e => exact (List.not_mem_nil h).elim
  | ok j => rw [List.mem_singleton.mp h]

theorem exists_ok_of_mem {x : Result IdBatch} {id : Id}
    (h : id ∈ (x.toOption.map IdBatch.ids).getD []) : ∃ batch, x = .ok batch ∧ id ∈ batch.ids := by
  cases x with
  | error e => exact (List.not_mem_nil h).elim
  | ok batch => exact ⟨batch, rfl, h⟩

/-- **One request.** -/
theorem serve_maker (h : Implemented config mayRead workspace bizTag r)
    (hclear : ∀ reading, mayRead reading → 2 ^ 47 ≤ SnowflakeAlgorithm.placed config reading)
    (q : IdRequest) : ∀ id ∈ (r.serve workspace bizTag q).1,
      (r.serve workspace bizTag q).2.calls.getLast? = some (maker id) := by
  cases q with
  | one group asked =>
    intro id hid
    obtain ⟨algType, alg, turn, halg, hx, hlast⟩ := withAlgorithm_made (eq_ok_of_mem hid)
    obtain ⟨c, rfl, hruns, hcall⟩ := h.one algType alg halg turn group id hx
    rw [hruns.maker_one hclear hcall]
    exact hlast
  | batch group asked size =>
    intro id hid
    obtain ⟨batch, hok, hmem⟩ := exists_ok_of_mem hid
    obtain ⟨algType, alg, turn, halg, hx, hlast⟩ := withAlgorithm_made hok
    obtain ⟨c, rfl, hruns, hcall⟩ := h.batch algType alg halg turn group size batch hx
    rw [hruns.maker_batch hclear hcall id hmem]
    exact hlast

/-- **A run.** -/
theorem answers_maker (h : Implemented config mayRead workspace bizTag r)
    (hclear : ∀ reading, mayRead reading → 2 ^ 47 ≤ SnowflakeAlgorithm.placed config reading)
    (requests : List IdRequest) :
    ∀ p ∈ r.answers workspace bizTag requests, ∀ id ∈ p.2, p.1 = some (maker id) := by
  induction requests generalizing r with
  | nil => exact fun p hp => (List.not_mem_nil hp).elim
  | cons q requests ih =>
    intro p hp
    rcases List.mem_cons.mp hp with rfl | hp
    · exact serve_maker h hclear q
    · exact ih (h.of_algorithms (serve_algorithms q)) p hp

end AlgorithmRouter

/-- A list of parts under keys, of which those of one key hold no element twice and those of
different keys have none in common. -/
theorem nodup_flatMap_of_keys {κ α : Type} [DecidableEq κ] {l : List (κ × List α)}
    (hsame : ∀ k, ((l.filter fun p => p.1 = k).flatMap Prod.snd).Nodup)
    (hother : ∀ p ∈ l, ∀ q ∈ l, p.1 ≠ q.1 → List.Disjoint p.2 q.2) :
    (l.flatMap Prod.snd).Nodup := by
  induction l with
  | nil => exact List.nodup_nil
  | cons p l ih =>
    have hfirst := hsame p.1
    rw [List.filter_cons_of_pos (by simp), List.flatMap_cons, List.nodup_append'] at hfirst
    obtain ⟨hnodup, -, hapart⟩ := hfirst
    rw [List.flatMap_cons, List.nodup_append']
    refine ⟨hnodup, ih ?_ ?_, ?_⟩
    · intro k
      refine (hsame k).sublist ?_
      exact ((List.sublist_cons_self p l).filter _).flatMap _
    · exact fun q hq q' hq' => hother q (List.mem_cons_of_mem _ hq) q' (List.mem_cons_of_mem _ hq')
    · intro x hx hrest
      obtain ⟨q, hq, hxq⟩ := List.mem_flatMap.mp hrest
      by_cases hkey : q.1 = p.1
      · refine hapart hx (List.mem_flatMap.mpr ⟨q, List.mem_filter.mpr ⟨hq, ?_⟩, hxq⟩)
        exact decide_eq_true hkey
      · exact hother p List.mem_cons_self q (List.mem_cons_of_mem _ hq) (Ne.symm hkey) hx hxq

/-- Readings that are placed past the numbers of the segments keep all ids apart. -/
theorem uniqueRuns_of_clear
    (hclear : ∀ reading, mayRead reading → 2 ^ 47 ≤ SnowflakeAlgorithm.placed config reading) :
    UniqueRuns config mayRead := by
  intro workspace bizTag r requests himplemented hsame
  have hmaker := AlgorithmRouter.answers_maker himplemented hclear requests
  refine nodup_flatMap_of_keys ?_ ?_
  · intro k
    cases k with
    | some algType => exact hsame algType
    | none =>
      have hempty : ((r.answers workspace bizTag requests).filter
          fun p => p.1 = none).flatMap Prod.snd = [] := by
        refine List.flatMap_eq_nil_iff.mpr fun p hp => ?_
        obtain ⟨hp, hnone⟩ := List.mem_filter.mp hp
        refine List.eq_nil_iff_forall_not_mem.mpr fun id hid => ?_
        cases (of_decide_eq_true hnone).symm.trans (hmaker p hp id hid)
      rw [hempty]
      exact List.nodup_nil
  · intro p hp q hq hne id hid hid'
    exact hne ((hmaker p hp id hid).trans (hmaker q hq id hid').symm)

/-- **Fallback.** With at least 13 bits below the timestamp and clocks within its field, at least a
year after the epoch, the ids of a run are distinct if those of each algorithm are. -/
theorem fallback_ids_distinct (config : Config) (haccepted : config.Accepted)
    (hwide : 13 ≤ config.algorithm.snowflake.totalBits.toNat) :
    UniqueRuns config (SnowflakeAlgorithm.InField config) :=
  uniqueRuns_of_clear ((SnowflakeAlgorithm.layout_clears_iff haccepted).mpr hwide)

/-! ## Repeated ids -/

/-- A router with the segment algorithm, which serves the first call that it gets, and Snowflake. -/
def segmentOnce (config : Config) (first : Id) (word : ℕ → Result Id) : AlgorithmRouter :=
  ((AlgorithmRouter.new config).register .segment
    ⟨fun turn _ => if turn = 0 then .ok first else .error .timeoutError,
      fun _ _ _ => .error .timeoutError⟩).register .snowflake
    ⟨fun turn _ => word turn, fun _ _ _ => .error .timeoutError⟩

theorem segmentOnce_implemented {first : Id} {word : ℕ → Result Id}
    (hfirst : ∀ group, ∃ c : AlgorithmCall, c.algorithm = .segment ∧
      c.Runs config mayRead "w" "t" ∧ c.Generates ⟨"w", group, "t"⟩ (.ok first))
    (hword : ∀ turn group id, word turn = .ok id → ∃ c : AlgorithmCall, c.algorithm = .snowflake ∧
      c.Runs config mayRead "w" "t" ∧ c.Generates ⟨"w", group, "t"⟩ (.ok id)) :
    Implemented config mayRead "w" "t" (segmentOnce config first word) := by
  constructor
  · intro algType alg halg turn group id hid
    cases algType with
    | segment =>
      cases halg
      by_cases hturn : turn = 0
      · subst hturn
        cases hid
        exact hfirst group
      · dsimp only at hid
        rw [if_neg hturn] at hid
        cases hid
    | snowflake =>
      cases halg
      exact hword turn group id hid
    | uuidV7 => cases halg
    | uuidV4 => cases halg
  · intro algType alg halg turn group size ids hids
    cases algType with
    | segment =>
      cases halg
      cases hids
    | snowflake =>
      cases halg
      cases hids
    | uuidV7 => cases halg
    | uuidV4 => cases halg

/-- A call of `generate` up to its first segment. -/
def firstSteps (group : String) (d : SegmentData) : List (ℕ × Input) :=
  (0, .generate ⟨"w", group, "t"⟩) :: List.replicate 8 (0, .proceed) ++
    (0, .reply (.ok d)) :: List.replicate 5 (0, .proceed)

/-- The first row of datacenter 0 and that of datacenter 1. -/
def firstRow : SegmentData := ⟨1, 1001, 1000, 0⟩

def secondRow : SegmentData := ⟨1000000000001, 1000000001001, 1000, 0⟩

theorem lowRow_first : LowRow "w" "t" firstRow := by
  have hrun : ((run (allocate "w" "t") emptyLedger [doneCall 0 1000 (by decide)]).map
      fun l => okSegments l.results) = some [⟨1, "w", "t", 1, 1001, 1000, 1⟩] := by
    decide +kernel
  obtain ⟨l, hl, hok⟩ := Option.map_eq_some_iff.mp hrun
  refine ⟨l, reaches_of_run hl, ⟨1, "w", "t", 1, 1001, 1000, 1⟩, ?_, by decide, by decide⟩
  rw [hok]
  exact List.mem_singleton_self _

theorem lowRow_second : LowRow "w" "t" secondRow := by
  have hrun : ((run (allocate "w" "t") emptyLedger [doneCall 1 1000 (by decide)]).map
      fun l => okSegments l.results) =
      some [⟨1, "w", "t", 1000000000001, 1000000001001, 1000, 1⟩] := by
    decide +kernel
  obtain ⟨l, hl, hok⟩ := Option.map_eq_some_iff.mp hrun
  refine ⟨l, reaches_of_run hl, ⟨1, "w", "t", 1000000000001, 1000000001001, 1000, 1⟩, ?_,
    by decide, by decide⟩
  rw [hok]
  exact List.mem_singleton_self _

/-- The first id of either row. -/
theorem first_of_row {d : SegmentData} (hd : d = firstRow ∨ d = secondRow) (group : String) :
    ∃ c : AlgorithmCall, c.algorithm = .segment ∧ c.Runs config mayRead "w" "t" ∧
      c.Generates ⟨"w", group, "t"⟩ (.ok (Id.ofU64 d.startId)) := by
  have hlow : LowRow "w" "t" d := by
    rcases hd with rfl | rfl
    · exact lowRow_first
    · exact lowRow_second
  have hrun : ((run (World.step (segmentStep belowTenth)) noCalls (firstSteps group d)).bind
      fun w => (World.step (segmentStep belowTenth) w (0, .proceed)).map fun w' =>
        (w.threads 0, w.shared.loaded, w.shared.answers, w'.shared.answers)) =
      some (.generate ⟨"w", group, "t"⟩ 1 (.tryConsume 1), [("w:t", d)], [],
        [("w:t", .generate (.ok (Id.ofU64 d.startId)))]) := by
    rcases hd with rfl | rfl
    · with_unfolding_all rfl
    · with_unfolding_all rfl
  obtain ⟨w, hw, hlast⟩ := Option.bind_eq_some_iff.mp hrun
  obtain ⟨w', hstep, heq⟩ := Option.map_eq_some_iff.mp hlast
  obtain ⟨hthread, heq⟩ := Prod.mk.inj heq
  obtain ⟨hloaded, heq⟩ := Prod.mk.inj heq
  obtain ⟨hbefore, hafter⟩ := Prod.mk.inj heq
  refine ⟨.segment belowTenth w (0, .proceed), rfl, ⟨reaches_of_run hw, ?_⟩, w', _, _, hstep,
    hthread, ?_⟩
  · intro d' hd'
    rw [hloaded] at hd'
    obtain ⟨-, rfl⟩ := Prod.mk.inj (List.mem_singleton.mp hd')
    exact hlow
  · rw [hafter, hbefore]
    rfl

/-- Snowflake answers the second and the third request. -/
def twoWords (first second : Result Id) (turn : ℕ) : Result Id :=
  if turn = 2 then first else if turn = 4 then second else .error .timeoutError

theorem twoWords_eq_ok {first second : Result Id} {turn : ℕ} {id : Id}
    (h : twoWords first second turn = .ok id) : first = .ok id ∨ second = .ok id := by
  unfold twoWords at h
  split at h
  · exact Or.inl h
  · split at h
    · exact Or.inr h
    · cases h

/-- Snowflake makes the id with one reading of the clock. -/
def WordRuns (config : Config) (mayRead : UInt64 → Prop) (id : Id) : Prop :=
  ∃ a reading, (SnowflakeAlgorithm.build config).SameNode a ∧ mayRead reading ∧
    ∃ s, a.generateId [reading] = some (.ok id, s)

theorem twoWords_implemented {d : SegmentData} {first second : Result Id}
    (hd : d = firstRow ∨ d = secondRow) (hfirst : ∀ id, first = .ok id → WordRuns config mayRead id)
    (hsecond : ∀ id, second = .ok id → WordRuns config mayRead id) :
    Implemented config mayRead "w" "t"
      (segmentOnce config (Id.ofU64 d.startId) (twoWords first second)) := by
  refine segmentOnce_implemented (first_of_row hd) fun turn group id hid => ?_
  obtain ⟨a, reading, hnode, hread, hcall⟩ : WordRuns config mayRead id :=
    (twoWords_eq_ok hid).elim (hfirst id) (hsecond id)
  refine ⟨.snowflake a [reading], rfl, ⟨hnode, ?_⟩, hcall⟩
  intro reading' hmem
  rw [List.mem_singleton.mp hmem]
  exact hread

theorem WordRuns.of_ok {i : Id} (h : WordRuns config mayRead i) :
    ∀ id, (.ok i : Result Id) = .ok id → WordRuns config mayRead id := by
  intro id hid
  cases hid
  exact h

/-- Three requests, the last two of which fall back from the segment algorithm to Snowflake. -/
theorem fallback_ids_distinct_three : ∃ r : AlgorithmRouter,
    Implemented .default (SnowflakeAlgorithm.InField .default) "w" "t" r ∧
      ((r.answers "w" "t" (List.replicate 3 (.one "g" none))).map Prod.fst) =
        [some .segment, some .snowflake, some .snowflake] ∧
      ((r.answers "w" "t" (List.replicate 3 (.one "g" none))).flatMap Prod.snd).Nodup := by
  have hfield : SnowflakeAlgorithm.InField .default 100000000000 := ⟨by decide, by decide⟩
  have hfirst : WordRuns .default (SnowflakeAlgorithm.InField .default)
      (Id.ofU64 209715200000000000) := ⟨_, _, ⟨rfl, rfl, rfl⟩, hfield, _, rfl⟩
  have hcalls : ∃ a, (SnowflakeAlgorithm.build .default).generateId [100000000000] =
        some (.ok (Id.ofU64 209715200000000000), a, []) ∧
      (SnowflakeAlgorithm.build .default).SameNode a ∧
      ∃ s, a.generateId [100000000000] = some (.ok (Id.ofU64 209715200000000001), s) :=
    ⟨_, rfl, ⟨rfl, rfl, rfl⟩, _, rfl⟩
  obtain ⟨a, -, hnode, hcall⟩ := hcalls
  have hsecond : WordRuns .default (SnowflakeAlgorithm.InField .default)
      (Id.ofU64 209715200000000001) := ⟨a, _, hnode, hfield, hcall⟩
  have himplemented := twoWords_implemented (Or.inl rfl) hfirst.of_ok hsecond.of_ok
  refine ⟨_, himplemented, rfl, ?_⟩
  refine fallback_ids_distinct .default (by decide +kernel) (by decide) "w" "t" _ _ himplemented ?_
  intro algType
  cases algType <;> decide

/-- Datacenter 1 in a layout of 4 bits. -/
def narrow : Config := { Config.default with
  app := { Config.default.app with dcId := 1 }
  algorithm := { Config.default.algorithm with snowflake := ⟨4, 0, 0, 1000⟩ } }

/-- Two years after the epoch Snowflake comes to the first id of datacenter 1. -/
theorem narrow_repeats : ¬ UniqueRuns narrow (SnowflakeAlgorithm.InField narrow) := by
  intro h
  have hword : WordRuns narrow (SnowflakeAlgorithm.InField narrow) (Id.ofU64 1000000000001) :=
    ⟨_, 62500000000, ⟨rfl, rfl, rfl⟩, ⟨by decide, by decide⟩, _, rfl⟩
  have himplemented := twoWords_implemented (Or.inr rfl) hword.of_ok
    (nofun : ∀ id, (.error .timeoutError : Result Id) = .ok id → _)
  have hall := h "w" "t" _ (List.replicate 2 (.one "g" none)) himplemented
  refine absurd (hall fun algType => ?_) (by decide)
  cases algType <;> decide

/-- When the clock has left the field Snowflake starts again at 0. -/
theorem late_repeats :
    ¬ UniqueRuns .default fun reading => SnowflakeAlgorithm.year ≤ reading.toNat := by
  intro h
  have hlate : SnowflakeAlgorithm.year ≤ (8796093022208 : UInt64).toNat := by decide
  have hfirst : WordRuns .default (fun reading => SnowflakeAlgorithm.year ≤ reading.toNat)
      (Id.ofU64 0) := ⟨_, _, ⟨rfl, rfl, rfl⟩, hlate, _, rfl⟩
  have hcalls : ∃ a, (SnowflakeAlgorithm.build .default).generateId [8796093022208] =
        some (.ok (Id.ofU64 0), a, []) ∧
      (SnowflakeAlgorithm.build .default).SameNode a ∧
      ∃ s, a.generateId [8796093022208] = some (.ok (Id.ofU64 1), s) :=
    ⟨_, rfl, ⟨rfl, rfl, rfl⟩, _, rfl⟩
  obtain ⟨a, -, hnode, hcall⟩ := hcalls
  have hsecond : WordRuns .default (fun reading => SnowflakeAlgorithm.year ≤ reading.toNat)
      (Id.ofU64 1) := ⟨a, _, hnode, hlate, hcall⟩
  have himplemented := twoWords_implemented (Or.inl rfl) hfirst.of_ok hsecond.of_ok
  have hall := h "w" "t" _ (List.replicate 3 (.one "g" none)) himplemented
  refine absurd (hall fun algType => ?_) (by decide)
  cases algType <;> decide

/-- Neither the width of the layout nor the end of the timestamp field can be left out. -/
theorem fallback_repeats :
    (¬ ∀ config : Config, config.Accepted →
      UniqueRuns config fun reading => SnowflakeAlgorithm.year ≤ reading.toNat) ∧
    (¬ ∀ config : Config, config.Accepted →
      UniqueRuns config (SnowflakeAlgorithm.InField config)) ∧
    ¬ ∀ config : Config, config.Accepted → 13 ≤ config.algorithm.snowflake.totalBits.toNat →
      UniqueRuns config fun reading => SnowflakeAlgorithm.year ≤ reading.toNat := by
  have hdefault : Config.default.Accepted := by decide +kernel
  have hnarrow : narrow.Accepted := by decide +kernel
  refine ⟨fun h => late_repeats (h _ hdefault), fun h => narrow_repeats (h _ hnarrow), ?_⟩
  exact fun h => late_repeats (h _ hdefault (by decide))

end NebulaId
