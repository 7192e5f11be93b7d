import NebulaId.Snowflake.ConstructId

/-!
# One call of `generate_id` after another (`core/algorithm/snowflake.rs`)

A call reads the clock once, and again and again while it waits, so the clock is the list
of the readings still to come, as offsets from the epoch. `generateId` is `none` when the
list ends while the call still waits: a call that has not returned.

The pair (`lastTimestamp`, `sequence`) works as a cursor. `generateId_spec` says all that
a call can do to it: an error leaves it where it was, and an id is built from a pair at or
after the cursor, which then stands just behind that pair. Hence the pairs of a run of
calls are issued in increasing order (`generateIds_pairs`), and so are the ids
(`generateIds_increasing`), whatever the clock does.
-/

namespace NebulaId

namespace SnowflakeAlgorithm

/-- The first reading past `lastTs`, and the readings after it. -/
def waitForNextMs (lastTs : UInt64) : List UInt64 → Option (UInt64 × List UInt64)
  | [] => none
  | current :: clock => if current > lastTs then some (current, clock)
      else waitForNextMs lastTs clock

/-- `seq > 0 && seq & sequence_mask == 0` -/
def exhausted (seq sequenceMask : UInt64) : Bool :=
  decide (seq > 0) && (seq &&& sequenceMask == 0)

/-- Build the id and count it. -/
def issue (a : SnowflakeAlgorithm) (timestamp sequence : UInt64) :
    Result Id × SnowflakeAlgorithm :=
  (.ok (a.constructId timestamp sequence),
    { a with metrics := { a.metrics with totalGenerated := a.metrics.totalGenerated + 1 } })

def generateIdWithTimestamp (a : SnowflakeAlgorithm) (timestamp sequenceMask : UInt64) :
    Result Id × SnowflakeAlgorithm :=
  let a := { a with lastTimestamp := timestamp }
  let a := { a with sequence := 0 }
  let seq := a.sequence
  let a := { a with sequence := seq + 1 }
  if exhausted seq sequenceMask then
    (.error (.sequenceOverflow timestamp),
      { a with
        metrics := { a.metrics with sequenceOverflows := a.metrics.sequenceOverflows + 1 } })
  else a.issue timestamp (seq &&& sequenceMask)

/-- Wait for the clock to pass `lastTs`, then generate with the reading that did. -/
def generateAfterWait (a : SnowflakeAlgorithm) (lastTs sequenceMask : UInt64)
    (clock : List UInt64) : Option (Result Id × SnowflakeAlgorithm × List UInt64) :=
  (waitForNextMs lastTs clock).map fun (waitTs, clock) =>
    let (result, a) := a.generateIdWithTimestamp waitTs sequenceMask
    (result, a, clock)

def generateId (a : SnowflakeAlgorithm) :
    List UInt64 → Option (Result Id × SnowflakeAlgorithm × List UInt64)
  | [] => none
  | timestamp :: clock =>
    let lastTs := a.lastTimestamp
    let sequenceMask := a.config.sequenceMask
    if timestamp < lastTs then
      let drift := lastTs - timestamp
      let a := { a with
        clockDriftMs := drift
        metrics := { a.metrics with clockBackwards := a.metrics.clockBackwards + 1 } }
      if drift > a.config.clockDriftThresholdMs then
        some (.error (.clockMovedBackward lastTs), a, clock)
      else a.generateAfterWait lastTs sequenceMask clock
    else if timestamp = lastTs then
      let seq := a.sequence
      let a := { a with sequence := seq + 1 }
      if exhausted seq sequenceMask then
        let a := { a with rotationCount := a.rotationCount + 1 }
        a.generateAfterWait timestamp sequenceMask clock
      else
        let (result, a) := a.issue timestamp (seq &&& sequenceMask)
        some (result, a, clock)
    else
      let a := { a with sequence := 0 }
      let a := { a with lastTimestamp := timestamp }
      let seq := a.sequence
      let a := { a with sequence := seq + 1 }
      let (result, a) := a.issue timestamp (seq &&& sequenceMask)
      some (result, a, clock)

/-- `n` calls, each started after the one before it has returned. -/
def generateIds : ℕ → SnowflakeAlgorithm → List UInt64 →
    Option (List (Result Id) × SnowflakeAlgorithm × List UInt64)
  | 0, a, clock => some ([], a, clock)
  | n + 1, a, clock => do
    let (result, a, clock) ← a.generateId clock
    let (results, a, clock) ← generateIds n a clock
    some (result :: results, a, clock)

/-- The ids of the calls that returned `Ok`. -/
def okIds (results : List (Result Id)) : List Id := results.filterMap fun r => r.toOption

variable {a a' : SnowflakeAlgorithm} {clock rest : List UInt64} {r : Result Id}

/-! ## The sequence counter and its mask -/

theorem toNat_and_sequenceMask (c : SnowflakeAlgorithmConfig) (seq : UInt64) :
    (seq &&& c.sequenceMask).toNat = seq.toNat % 2 ^ c.workerShift := by
  rw [UInt64.toNat_and, SnowflakeAlgorithmConfig.sequenceMask,
    SnowflakeAlgorithmConfig.toNat_fieldMask, Nat.and_two_pow_sub_one_eq_mod]
  rfl

theorem exhausted_iff {c : SnowflakeAlgorithmConfig} {seq : UInt64} :
    exhausted seq c.sequenceMask = true ↔
      0 < seq.toNat ∧ seq.toNat % 2 ^ c.workerShift = 0 := by
  simp only [exhausted, Bool.and_eq_true, decide_eq_true_eq, beq_iff_eq, gt_iff_lt,
    UInt64.lt_iff_toNat_lt, ← UInt64.toNat_inj, toNat_and_sequenceMask]
  rfl

@[simp] theorem exhausted_zero (sequenceMask : UInt64) : exhausted 0 sequenceMask = false := rfl

@[simp] theorem zero_and_mask (sequenceMask : UInt64) : 0 &&& sequenceMask = 0 :=
  UInt64.zero_and

/-- Below the wrap point the mask changes nothing. -/
theorem and_sequenceMask_of_le {c : SnowflakeAlgorithmConfig} {seq : UInt64}
    (h : seq ≤ c.sequenceMask) : seq &&& c.sequenceMask = seq := by
  apply UInt64.toNat_inj.mp
  rw [toNat_and_sequenceMask, Nat.mod_eq_of_lt (sequence_le_iff.mp h)]

/-- A counter that has not passed the wrap point is exhausted exactly there. -/
theorem le_sequenceMask_of_not_exhausted {c : SnowflakeAlgorithmConfig} {seq : UInt64}
    (hle : seq.toNat ≤ 2 ^ c.workerShift) (h : exhausted seq c.sequenceMask = false) :
    seq ≤ c.sequenceMask := by
  rw [sequence_le_iff]
  by_contra hge
  have heq : seq.toNat = 2 ^ c.workerShift := by omega
  have : exhausted seq c.sequenceMask = true :=
    exhausted_iff.mpr ⟨by have := Nat.two_pow_pos c.workerShift; omega, by rw [heq, Nat.mod_self]⟩
  rw [h] at this
  exact Bool.false_ne_true this

theorem toNat_succ_of_le {c : SnowflakeAlgorithmConfig} {seq : UInt64}
    (h : seq ≤ c.sequenceMask) : (seq + 1).toNat = seq.toNat + 1 := by
  have h1 := sequence_le_iff.mp h
  have h2 : 2 ^ c.workerShift ≤ 2 ^ 63 :=
    Nat.pow_le_pow_right (by omega) (Nat.le_of_lt_succ (Nat.mod_lt _ (by omega)))
  rw [UInt64.toNat_add, show (1 : UInt64).toNat = 1 from rfl]
  exact Nat.mod_eq_of_lt (by omega)

/-! ## What one call can do -/

/-- Two states of one generator: the configuration and the ids do not change. -/
def SameNode (a b : SnowflakeAlgorithm) : Prop :=
  a.config = b.config ∧ a.datacenterId = b.datacenterId ∧ a.workerId = b.workerId

theorem SameNode.constructId {b : SnowflakeAlgorithm} (h : SameNode a b) :
    a.constructId = b.constructId := by
  obtain ⟨h1, h2, h3⟩ := h
  funext ts seq
  simp only [SnowflakeAlgorithm.constructId, h1, h2, h3]

/-- `r` is an id built from the pair `p`, and the cursor stands just behind `p`. -/
def IssuedAt (a a' : SnowflakeAlgorithm) (r : Result Id) (p : UInt64 × UInt64) : Prop :=
  r = .ok (a.constructId p.1 p.2) ∧ p.2 ≤ a.config.sequenceMask ∧
    a'.lastTimestamp = p.1 ∧ a'.sequence = p.2 + 1

theorem waitForNextMs_spec {lastTs ts : UInt64}
    (h : waitForNextMs lastTs clock = some (ts, rest)) :
    lastTs < ts ∧ ts ∈ clock ∧ rest ⊆ clock := by
  induction clock with
  | nil => cases h
  | cons current clock ih =>
    unfold waitForNextMs at h
    split at h
    · rename_i hlt
      cases h
      exact ⟨hlt, List.mem_cons_self, fun _ hx => List.mem_cons_of_mem _ hx⟩
    · obtain ⟨h1, h2, h3⟩ := ih h
      exact ⟨h1, List.mem_cons_of_mem _ h2, fun _ hx => List.mem_cons_of_mem _ (h3 hx)⟩

theorem generateIdWithTimestamp_spec (a : SnowflakeAlgorithm) (ts : UInt64) :
    SameNode a (a.generateIdWithTimestamp ts a.config.sequenceMask).2 ∧
      IssuedAt a (a.generateIdWithTimestamp ts a.config.sequenceMask).2
        (a.generateIdWithTimestamp ts a.config.sequenceMask).1 (ts, 0) := by
  refine ⟨⟨rfl, rfl, rfl⟩, ?_, sequence_le_iff.mpr (Nat.two_pow_pos _), rfl, rfl⟩
  simp only [generateIdWithTimestamp, exhausted_zero, Bool.false_eq_true, if_false, issue,
    zero_and_mask]
  rfl

theorem generateAfterWait_spec {lastTs : UInt64}
    (h : a.generateAfterWait lastTs a.config.sequenceMask clock = some (r, a', rest)) :
    SameNode a a' ∧ rest ⊆ clock ∧
      ∃ ts, lastTs < ts ∧ ts ∈ clock ∧ IssuedAt a a' r (ts, 0) := by
  obtain ⟨⟨ts, rest'⟩, hw, he⟩ := Option.map_eq_some_iff.mp h
  obtain ⟨hlt, hmem, hsub⟩ := waitForNextMs_spec hw
  obtain ⟨hn, hi⟩ := generateIdWithTimestamp_spec a ts
  cases he
  exact ⟨hn, hsub, ts, hlt, hmem, hi⟩

/-- **One call.** An error leaves the cursor alone; an id comes from a fresh millisecond
with sequence 0 or from the pair the cursor points at. -/
theorem generateId_spec (hseq : a.sequence.toNat ≤ 2 ^ a.config.workerShift)
    (h : a.generateId clock = some (r, a', rest)) :
    SameNode a a' ∧ rest ⊆ clock ∧
      ((∃ e, r = .error e ∧ a'.lastTimestamp = a.lastTimestamp ∧ a'.sequence = a.sequence) ∨
        ∃ ts q, ts ∈ clock ∧ IssuedAt a a' r (ts, q) ∧
          (a.lastTimestamp < ts ∨ a.lastTimestamp = ts ∧ q = a.sequence)) := by
  cases clock with
  | nil => cases h
  | cons timestamp clock =>
    have hsub : clock ⊆ timestamp :: clock := fun _ hx => List.mem_cons_of_mem _ hx
    unfold generateId at h
    dsimp only at h
    split at h
    · -- the clock reads less than the last timestamp
      split at h
      · cases h
        exact ⟨⟨rfl, rfl, rfl⟩, hsub, Or.inl ⟨_, rfl, rfl, rfl⟩⟩
      · obtain ⟨hn, hr, ts, hlt, hmem, hi⟩ := generateAfterWait_spec h
        exact ⟨hn, fun _ hx => hsub (hr hx), Or.inr ⟨ts, 0, hsub hmem, hi, Or.inl hlt⟩⟩
    · rename_i hge
      split at h
      · -- the same millisecond
        rename_i heq
        split at h
        · obtain ⟨hn, hr, ts, hlt, hmem, hi⟩ := generateAfterWait_spec h
          exact ⟨hn, fun _ hx => hsub (hr hx), Or.inr ⟨ts, 0, hsub hmem, hi, Or.inl (heq ▸ hlt)⟩⟩
        · rename_i hex
          have hle := le_sequenceMask_of_not_exhausted hseq (by simpa using hex)
          cases h
          rw [and_sequenceMask_of_le hle]
          exact ⟨⟨rfl, rfl, rfl⟩, hsub, Or.inr ⟨timestamp, a.sequence, List.mem_cons_self,
            ⟨rfl, hle, heq.symm, rfl⟩, Or.inr ⟨heq.symm, rfl⟩⟩⟩
      · -- a new millisecond
        rename_i hne
        cases h
        refine ⟨⟨rfl, rfl, rfl⟩, hsub, Or.inr ⟨timestamp, 0, List.mem_cons_self,
          ⟨?_, sequence_le_iff.mpr (Nat.two_pow_pos _), rfl, rfl⟩, Or.inl ?_⟩⟩
        · rw [zero_and_mask]
          rfl
        · exact UInt64.lt_of_le_of_ne (UInt64.not_lt.mp hge) (Ne.symm hne)

/-! ## Runs of calls -/

/-- **The pairs of a run.** The ids of a run of calls are built from increasing pairs, none
of them before the cursor the run started from. -/
theorem generateIds_pairs {n : ℕ} {results : List (Result Id)}
    (hseq : a.sequence.toNat ≤ 2 ^ a.config.workerShift)
    (h : generateIds n a clock = some (results, a', rest)) :
    ∃ pairs : List (UInt64 × UInt64),
      okIds results = pairs.map (fun p => a.constructId p.1 p.2) ∧
      pairs.Pairwise Earlier ∧
      ∀ p ∈ pairs, p.1 ∈ clock ∧ p.2 ≤ a.config.sequenceMask ∧
        (a.lastTimestamp < p.1 ∨ a.lastTimestamp = p.1 ∧ a.sequence ≤ p.2) := by
  induction n generalizing a clock results with
  | zero =>
    cases h
    exact ⟨[], rfl, List.Pairwise.nil, by simp⟩
  | succ n ih =>
    obtain ⟨⟨r, b, clock'⟩, hcall, h⟩ := Option.bind_eq_some_iff.mp h
    obtain ⟨⟨results', b', rest'⟩, hrun, h⟩ := Option.bind_eq_some_iff.mp h
    cases h
    obtain ⟨hn, hsub, hcase⟩ := generateId_spec hseq hcall
    rcases hcase with ⟨e, rfl, hlast, hb⟩ | ⟨ts, q, hmem, ⟨rfl, hq, hlast, hb⟩, hcur⟩
    · obtain ⟨pairs, hids, hpw, hall⟩ := ih (by rw [hb, ← hn.1]; exact hseq) hrun
      rw [← hn.constructId] at hids
      rw [← hn.1, hlast, hb] at hall
      exact ⟨pairs, hids, hpw, fun p hp => ⟨hsub (hall p hp).1, (hall p hp).2⟩⟩
    · have hsucc := toNat_succ_of_le hq
      dsimp only at hq hlast hb hsucc
      obtain ⟨pairs, hids, hpw, hall⟩ := ih
        (by rw [hb, ← hn.1, hsucc]; exact sequence_le_iff.mp hq) hrun
      rw [← hn.constructId] at hids
      rw [← hn.1, hlast, hb] at hall
      refine ⟨(ts, q) :: pairs, ?_, List.pairwise_cons.mpr ⟨?_, hpw⟩, ?_⟩
      · change a.constructId ts q :: okIds results' = _
        rw [hids]
        rfl
      · intro p hp
        rcases (hall p hp).2.2 with hlt | ⟨heq, hle⟩
        · exact Or.inl hlt
        · refine Or.inr ⟨heq, ?_⟩
          rw [UInt64.le_iff_toNat_le, hsucc] at hle
          exact UInt64.lt_iff_toNat_lt.mpr hle
      · intro p hp
        rcases List.mem_cons.mp hp with rfl | hp
        · refine ⟨hmem, hq, hcur.imp_right fun ⟨h1, h2⟩ => ⟨h1, ?_⟩⟩
          rw [h2]
          exact UInt64.le_refl _
        · obtain ⟨h1, h2, h3⟩ := hall p hp
          refine ⟨hsub h1, h2, ?_⟩
          rcases hcur with hcur | ⟨hcur, rfl⟩
          · rcases h3 with h3 | ⟨h3, -⟩
            · exact Or.inl (UInt64.lt_trans hcur h3)
            · exact Or.inl (h3 ▸ hcur)
          · rw [hcur]
            refine h3.imp_right fun ⟨heq, hle⟩ => ⟨heq, ?_⟩
            rw [UInt64.le_iff_toNat_le] at hle ⊢
            omega

/-- **Increasing ids.** The ids that a generator with fitting ids hands out, one call after
another from the state it was built in, increase strictly under any clock that stays in
the timestamp field. -/
theorem generateIds_increasing {config : Config} {n : ℕ} {results : List (Result Id)}
    (hbits : config.algorithm.snowflake.datacenterIdBits.toNat +
      config.algorithm.snowflake.workerIdBits.toNat +
      config.algorithm.snowflake.sequenceBits.toNat < 64)
    (hfits : (build config).NodeFits)
    (hclock : ∀ reading ∈ clock,
      reading.toNat < 2 ^ config.algorithm.snowflake.timestampBits.toNat)
    (hrun : generateIds n (build config) clock = some (results, a', rest)) :
    (okIds results).Pairwise fun i j => i.asU128 < j.asU128 := by
  have hclear : (build config).NodeClear := nodeClear_of_fits hbits hfits
  have htotal : (build config).config.totalBits.toNat < 64 :=
    (SnowflakeAlgorithmConfig.shifts_of_lt hbits).2.2.2
  obtain ⟨pairs, hids, hpw, hall⟩ := generateIds_pairs (Nat.zero_le _) hrun
  have hrange : ∀ p ∈ pairs, InRange (build config).config p.1 p.2 := fun p hp =>
    ⟨hclock p.1 (hall p hp).1, (hall p hp).2.1⟩
  rw [hids, List.pairwise_map]
  refine hpw.imp_of_mem fun hp hq hlt => ?_
  exact hclear.constructId_lt htotal (hrange _ hp) (hrange _ hq) hlt

/-- Four calls under a clock that stands still, steps back and recovers. -/
theorem build_default_increasing :
    ∃ results a rest, generateIds 4 (build .default) [1, 1, 0, 0, 2, 2] = some (results, a, rest) ∧
      (okIds results).Pairwise fun i j => i.asU128 < j.asU128 := by
  have hsome : (generateIds 4 (build .default) [1, 1, 0, 0, 2, 2]).isSome = true := rfl
  obtain ⟨⟨results, a, rest⟩, hrun⟩ := Option.isSome_iff_exists.mp hsome
  have hbits : (build .default).NodeFits := ⟨by decide, by decide⟩
  have hclock : ∀ reading ∈ ([1, 1, 0, 0, 2, 2] : List UInt64),
      reading.toNat < 2 ^ (Config.default.algorithm.snowflake.timestampBits).toNat := by
    simp only [List.forall_mem_cons, List.not_mem_nil, false_imp_iff, implies_true, and_true]
    decide
  exact ⟨results, a, rest, hrun, generateIds_increasing (by decide) hbits hclock hrun⟩

end SnowflakeAlgorithm

end NebulaId
