import NebulaId.Machine.Retry
import NebulaId.Snowflake.Generate

/-!
# Batches of Snowflake ids (`core/algorithm/snowflake.rs`)

`batch_generate` calls `generate_id` until it has as many ids as it was asked for, and gives up
after a hundred failures. It returns what it has got so far, unless that is nothing.

* `generateId_fails_iff`: the failing calls are those whose first reading is too far behind.
* `batchGenerate_complete_iff`: when a batch has the ids it should have.
* `batchGenerate_complete_of_clear`: when the ids of the node fit, only the failures count.
* `batchGenerate_cut`: two ids are asked for, and one comes.
-/

namespace NebulaId

open Machine

/-- A batch of so many ids, no two alike, if there is a batch. -/
def Complete (size : ℕ) (r : Result IdBatch) : Prop :=
  ∀ batch, r = .ok batch → batch.ids.length = size ∧ batch.ids.Nodup

namespace SnowflakeAlgorithm

/-- A generator with the clock that it is going to read. -/
abbrev Clocked := SnowflakeAlgorithm × List UInt64

def call (s : Clocked) : Option (Result Id × Clocked) := s.1.generateId s.2

/-- `MAX_RETRIES` is 100; the loop counts the missing ids and the retries left. -/
def batchGenerate (a : SnowflakeAlgorithm) (size : ℕ) (clock : List UInt64) :
    Option (Result IdBatch × Clocked) :=
  if size = 0 then some (.ok ⟨[], .snowflake, ""⟩, a, clock)
  else (collect call size 100 (a, clock)).map fun (ids, s) =>
    if ids.isEmpty then
      (.error (.internalError "Failed to generate IDs after max retries"), s)
    else (.ok ⟨ids, .snowflake, ""⟩, s)

/-- The first reading of a call is behind the last timestamp by more than the threshold. -/
def Refuses (a : SnowflakeAlgorithm) (reading : UInt64) : Prop :=
  reading < a.lastTimestamp ∧ a.lastTimestamp - reading > a.config.clockDriftThresholdMs

instance (a : SnowflakeAlgorithm) (reading : UInt64) : Decidable (a.Refuses reading) :=
  inferInstanceAs (Decidable (_ ∧ _))

/-- How many of the first calls read the clock too far behind. -/
def refusals : ℕ → SnowflakeAlgorithm → List UInt64 → ℕ
  | 0, _, _ => 0
  | calls + 1, a, clock =>
    match a.generateId clock with
    | none => 0
    | some (_, a', rest) =>
      refusals calls a' rest + if ∃ reading ∈ clock.head?, a.Refuses reading then 1 else 0

/-- The hundredth refused call comes right after so many that are not. -/
def CutAt (done : ℕ) (a : SnowflakeAlgorithm) (clock : List UInt64) : Prop :=
  refusals (done + 99) a clock = 99 ∧ refusals (done + 100) a clock = 100

/-- The pair that the cursor has just passed. -/
def lastPair (a : SnowflakeAlgorithm) : UInt64 × UInt64 :=
  (a.lastTimestamp, (a.sequence - 1) &&& a.config.sequenceMask)

/-- The pairs for the first ids. -/
def firstPairs (a : SnowflakeAlgorithm) (size : ℕ) (clock : List UInt64) : List (UInt64 × UInt64) :=
  ((successes call (size + 100) (a, clock)).take size).map fun p => p.2.1.lastPair

/-- The datacenter and the worker id at their places. -/
def nodeBits (a : SnowflakeAlgorithm) : UInt64 :=
  (a.datacenterId.toUInt64 <<< (a.config.workerIdBits + a.config.sequenceBits).toUInt64) |||
    (a.workerId.toUInt64 <<< a.config.sequenceBits.toUInt64)

/-- What an id shows of its pair: the bits of the node cover the rest. -/
def shown (a : SnowflakeAlgorithm) (p : UInt64 × UInt64) : UInt64 :=
  ((p.1 <<< (a.config.datacenterIdBits + a.config.workerIdBits +
    a.config.sequenceBits).toUInt64) ||| p.2) &&& ~~~ a.nodeBits

/-- No call is let in before the hundredth refusal; or enough are, and with pairs that the ids show
to be different. -/
def Enough (a : SnowflakeAlgorithm) (size : ℕ) (clock : List UInt64) : Prop :=
  CutAt 0 a clock ∨
    (∀ done < size, ¬ CutAt done a clock) ∧ ((a.firstPairs size clock).map a.shown).Nodup

variable {a a' : SnowflakeAlgorithm} {clock rest : List UInt64} {r : Result Id}

/-! ## The failing calls -/

theorem generateAfterWait_ok {lastTs : UInt64}
    (h : a.generateAfterWait lastTs a.config.sequenceMask clock = some (r, a', rest)) :
    ∃ id, r = .ok id := by
  obtain ⟨-, -, ts, -, -, hr, -⟩ := generateAfterWait_spec h
  exact ⟨_, hr⟩

theorem generateId_fails_iff (h : a.generateId clock = some (r, a', rest)) :
    (∃ e, r = .error e) ↔ ∃ reading ∈ clock.head?, a.Refuses reading := by
  cases clock with
  | nil => cases h
  | cons timestamp clock =>
    have hhead : (∃ reading ∈ (timestamp :: clock).head?, a.Refuses reading) ↔
        a.Refuses timestamp := by
      constructor
      · rintro ⟨_, ⟨⟩, hrefuses⟩
        exact hrefuses
      · exact fun hrefuses => ⟨timestamp, rfl, hrefuses⟩
    have hok : (∃ id, r = .ok id) → ¬ ∃ e, r = .error e := by
      rintro ⟨id, rfl⟩ ⟨e, he⟩
      cases he
    rw [hhead]
    unfold generateId at h
    dsimp only at h
    split at h
    · rename_i hlt
      split at h
      · rename_i hfar
        cases h
        exact iff_of_true ⟨_, rfl⟩ ⟨hlt, hfar⟩
      · rename_i hnear
        exact iff_of_false (hok (generateAfterWait_ok h)) fun hrefuses => hnear hrefuses.2
    · rename_i hge
      refine iff_of_false (hok ?_) fun hrefuses => hge hrefuses.1
      split at h
      · split at h
        · exact generateAfterWait_ok h
        · cases h
          exact ⟨_, rfl⟩
      · cases h
        exact ⟨_, rfl⟩

theorem failures_call (calls : ℕ) (a : SnowflakeAlgorithm) (clock : List UInt64) :
    failures call calls (a, clock) = refusals calls a clock := by
  induction calls generalizing a clock with
  | zero => rfl
  | succ calls ih =>
    rcases call_cases call (a, clock) with h | ⟨id, ⟨a', rest⟩, h⟩ | ⟨e, ⟨a', rest⟩, h⟩
    · rw [failures, h]
      unfold call at h
      rw [refusals, h]
    · have hnot : ¬ ∃ reading ∈ clock.head?, a.Refuses reading := by
        rw [← generateId_fails_iff h]
        rintro ⟨e, he⟩
        cases he
      rw [failures_ok h, ih]
      unfold call at h
      rw [refusals, h]
      dsimp only
      rw [if_neg hnot]
      rfl
    · have hrefuses := (generateId_fails_iff h).mp ⟨e, rfl⟩
      rw [failures_error h, ih]
      unfold call at h
      rw [refusals, h]
      dsimp only
      rw [if_pos hrefuses]

theorem spent_iff_cutAt (done : ℕ) (a : SnowflakeAlgorithm) (clock : List UInt64) :
    Spent call 100 done (a, clock) ↔ CutAt done a clock := by
  rw [spent_succ, failures_call, failures_call]
  rfl

/-! ## The pairs and the ids -/

theorem SameNode.refl (a : SnowflakeAlgorithm) : SameNode a a := ⟨rfl, rfl, rfl⟩

theorem SameNode.trans {b c : SnowflakeAlgorithm} (h : SameNode a b) (h' : SameNode b c) :
    SameNode a c :=
  ⟨h.1.trans h'.1, h.2.1.trans h'.2.1, h.2.2.trans h'.2.2⟩

/-- The id of a call is built from the pair that the cursor has then just passed, and from one of
the readings. -/
def IssuedLast (a a' : SnowflakeAlgorithm) (clock : List UInt64) (r : Result Id) : Prop :=
  ∀ id, r = .ok id → a'.lastPair.1 ∈ clock ∧ id = a.constructId a'.lastPair.1 a'.lastPair.2

theorem IssuedAt.last {ts : UInt64} (hts : ts ∈ clock) (h : IssuedAt a a' r (ts, 0)) :
    IssuedLast a a' clock r := by
  obtain ⟨hr, -, hlast, hseq⟩ := h
  rintro id rfl
  have hpair : a'.lastPair = (ts, 0) := by
    have hfirst : (0 : UInt64) + 1 - 1 = 0 := rfl
    unfold lastPair
    rw [hlast, hseq, hfirst, zero_and_mask]
  rw [hpair]
  exact ⟨hts, Except.ok.inj hr⟩

theorem issue_last {ts seq : UInt64} (hnode : SameNode a a') (hlast : a'.lastTimestamp = ts)
    (hseq : a'.sequence = seq + 1) :
    IssuedLast a a' (ts :: clock) (.ok (a.constructId ts (seq &&& a.config.sequenceMask))) := by
  rintro _ ⟨⟩
  unfold lastPair
  rw [hlast, hseq, ← hnode.1, UInt64.add_sub_cancel]
  exact ⟨List.mem_cons_self, rfl⟩

theorem generateId_last (h : a.generateId clock = some (r, a', rest)) :
    SameNode a a' ∧ rest ⊆ clock ∧ IssuedLast a a' clock r := by
  cases clock with
  | nil => cases h
  | cons timestamp clock =>
    have hsub : clock ⊆ timestamp :: clock := List.subset_cons_self _ _
    have hwaited : ∀ {b : SnowflakeAlgorithm} {lastTs : UInt64}, SameNode a b →
        b.generateAfterWait lastTs a.config.sequenceMask clock = some (r, a', rest) →
          SameNode a a' ∧ rest ⊆ timestamp :: clock ∧ IssuedLast a a' (timestamp :: clock) r := by
      intro b lastTs hb hcall
      rw [hb.1] at hcall
      obtain ⟨hnode, hrest, ts, -, hmem, hissued⟩ := generateAfterWait_spec hcall
      refine ⟨hb.trans hnode, fun _ hx => hsub (hrest hx), ?_⟩
      unfold IssuedLast
      rw [hb.constructId]
      exact hissued.last (hsub hmem)
    unfold generateId at h
    dsimp only at h
    split at h
    · split at h
      · cases h
        exact ⟨⟨rfl, rfl, rfl⟩, hsub, fun id hid => by cases hid⟩
      · refine hwaited ?_ h
        exact ⟨rfl, rfl, rfl⟩
    · split at h
      · rename_i heq
        split at h
        · refine hwaited ?_ h
          exact ⟨rfl, rfl, rfl⟩
        · cases h
          exact ⟨⟨rfl, rfl, rfl⟩, hsub, issue_last ⟨rfl, rfl, rfl⟩ heq.symm rfl⟩
      · cases h
        exact ⟨⟨rfl, rfl, rfl⟩, hsub, issue_last ⟨rfl, rfl, rfl⟩ rfl rfl⟩

theorem successes_last (calls : ℕ) (a : SnowflakeAlgorithm) (clock : List UInt64) :
    ∀ p ∈ successes call calls (a, clock), p.2.1.lastPair.1 ∈ clock ∧
      p.1 = a.constructId p.2.1.lastPair.1 p.2.1.lastPair.2 := by
  induction calls generalizing a clock with
  | zero => exact fun p hp => (List.not_mem_nil hp).elim
  | succ calls ih =>
    rcases call_cases call (a, clock) with h | ⟨id, ⟨a', rest⟩, h⟩ | ⟨e, ⟨a', rest⟩, h⟩
    · rw [successes, h]
      exact fun p hp => (List.not_mem_nil hp).elim
    · obtain ⟨hnode, hrest, hlast⟩ := generateId_last h
      rw [successes_ok h]
      intro p hp
      rcases List.mem_cons.mp hp with rfl | hp
      · exact hlast id rfl
      · obtain ⟨hmem, hid⟩ := ih a' rest p hp
        rw [hnode.constructId]
        exact ⟨hrest hmem, hid⟩
    · obtain ⟨hnode, hrest, -⟩ := generateId_last h
      rw [successes_error h]
      intro p hp
      obtain ⟨hmem, hid⟩ := ih a' rest p hp
      rw [hnode.constructId]
      exact ⟨hrest hmem, hid⟩

/-- Two words with the bits of the node set are equal if and only if their other bits are. -/
theorem or_eq_or_iff (x y n : UInt64) : x ||| n = y ||| n ↔ x &&& ~~~ n = y &&& ~~~ n := by
  rw [← UInt64.toBitVec_inj, ← UInt64.toBitVec_inj]
  simp only [UInt64.toBitVec_or, UInt64.toBitVec_and, UInt64.toBitVec_not, BitVec.eq_of_getLsbD_eq_iff,
    BitVec.getLsbD_or, BitVec.getLsbD_and, BitVec.getLsbD_not]
  refine forall_congr' fun i => forall_congr' fun hi => ?_
  cases n.toBitVec.getLsbD i <;> simp [hi]

theorem constructId_eq_iff_shown (p q : UInt64 × UInt64) :
    a.constructId p.1 p.2 = a.constructId q.1 q.2 ↔ a.shown p = a.shown q := by
  unfold shown
  rw [← or_eq_or_iff]
  have hword : ∀ t : UInt64 × UInt64, a.constructId t.1 t.2 = Id.ofU64
      (((t.1 <<< (a.config.datacenterIdBits + a.config.workerIdBits +
        a.config.sequenceBits).toUInt64) ||| t.2) ||| a.nodeBits) := by
    intro t
    unfold constructId nodeBits
    refine congrArg Id.ofU64 ?_
    ac_rfl
  rw [hword, hword]
  constructor
  · intro h
    have hvalue := congrArg (fun id => (Id.asU128 id).toNat) h
    rw [Id.toNat_asU128_ofU64, Id.toNat_asU128_ofU64] at hvalue
    exact UInt64.toNat_inj.mp hvalue
  · exact congrArg Id.ofU64

/-- The ids of a batch are distinct if they show their pairs to be. -/
theorem collected_nodup_iff {size : ℕ} {ids : List Id} {s : Clocked}
    (h : collect call size 100 (a, clock) = some (ids, s)) (hlength : ids.length = size) :
    ids.Nodup ↔ ((a.firstPairs size clock).map a.shown).Nodup := by
  have hids := collect_eq h
  rw [hlength] at hids
  unfold firstPairs
  rw [hids, List.map_map, List.Nodup, List.Nodup, List.pairwise_map, List.pairwise_map]
  refine List.Pairwise.iff_of_mem fun hp hq => not_congr ?_
  rw [(successes_last _ a clock _ (List.mem_of_mem_take hp)).2,
    (successes_last _ a clock _ (List.mem_of_mem_take hq)).2]
  exact constructId_eq_iff_shown _ _

/-- **A batch of Snowflake ids** is complete exactly when its calls get enough, and the ids show
enough. -/
theorem batchGenerate_complete_iff {size : ℕ} {answer : Result IdBatch} {s : Clocked}
    (hsize : 0 < size) (h : a.batchGenerate size clock = some (answer, s)) :
    Complete size answer ↔ a.Enough size clock := by
  unfold batchGenerate at h
  rw [if_neg (Nat.ne_of_gt hsize)] at h
  obtain ⟨⟨ids, t⟩, hids, heq⟩ := Option.map_eq_some_iff.mp h
  have hcut : ∀ done < size, CutAt done a clock ↔ ids.length = done := by
    intro done hdone
    rw [← spent_iff_cutAt]
    exact spent_iff hids hdone
  have hle := collect_length_le hids
  unfold Enough
  rw [hcut 0 hsize]
  dsimp only at heq
  cases ids with
  | nil =>
    cases heq
    exact iff_of_true nofun (Or.inl rfl)
  | cons id rest =>
    cases heq
    have hfull : (∀ done < size, ¬ CutAt done a clock) ↔ (id :: rest).length = size := by
      constructor
      · intro hnever
        by_contra hne
        have hlt : (id :: rest).length < size := by omega
        exact hnever _ hlt ((hcut _ hlt).mpr rfl)
      · intro hlength done hdone hat
        have hshort := (hcut done hdone).mp hat
        omega
    have hsome : (id :: rest).length ≠ 0 := Nat.succ_ne_zero _
    rw [hfull, or_iff_right hsome]
    constructor
    · intro hcomplete
      obtain ⟨hlength, hnodup⟩ := hcomplete _ rfl
      exact ⟨hlength, (collected_nodup_iff hids hlength).mp hnodup⟩
    · rintro ⟨hlength, hnodup⟩ _ ⟨⟩
      exact ⟨hlength, (collected_nodup_iff hids hlength).mpr hnodup⟩

/-! ## Generators whose ids fit -/

theorem generateIds_cons {n : ℕ} {results : List (Result Id)} {s : Clocked}
    (h : a.generateId clock = some (r, a', rest))
    (hrun : generateIds n a' rest = some (results, s)) :
    generateIds (n + 1) a clock = some (r :: results, s) := by
  simp only [generateIds, h, hrun, Option.bind_eq_bind, Option.bind_some]

/-- The successes are those of a run of calls. -/
theorem successes_run (calls : ℕ) (a : SnowflakeAlgorithm) (clock : List UInt64) :
    ∃ n results s, generateIds n a clock = some (results, s) ∧
      (successes call calls (a, clock)).map Prod.fst = okIds results := by
  induction calls generalizing a clock with
  | zero => exact ⟨0, [], (a, clock), rfl, rfl⟩
  | succ calls ih =>
    rcases call_cases call (a, clock) with h | ⟨id, ⟨a', rest⟩, h⟩ | ⟨e, ⟨a', rest⟩, h⟩
    · refine ⟨0, [], (a, clock), rfl, ?_⟩
      rw [successes, h]
      rfl
    · obtain ⟨n, results, s, hrun, hids⟩ := ih a' rest
      refine ⟨n + 1, .ok id :: results, s, generateIds_cons h hrun, ?_⟩
      rw [successes_ok h, List.map_cons, hids]
      rfl
    · obtain ⟨n, results, s, hrun, hids⟩ := ih a' rest
      refine ⟨n + 1, .error e :: results, s, generateIds_cons h hrun, ?_⟩
      rw [successes_error h, hids]
      rfl

/-- With a clear node and a clock within the timestamp field the ids of a run are distinct. -/
theorem okIds_nodup {n : ℕ} {results : List (Result Id)} {s : Clocked} (hclear : a.NodeClear)
    (htotal : a.config.totalBits.toNat < 64) (hseq : a.sequence.toNat ≤ 2 ^ a.config.workerShift)
    (hclock : ∀ reading ∈ clock, reading.toNat < 2 ^ a.config.timestampBits.toNat)
    (hrun : generateIds n a clock = some (results, s)) : (okIds results).Nodup := by
  obtain ⟨pairs, hids, hpw, hall⟩ := generateIds_pairs hseq hrun
  have hrange : ∀ p ∈ pairs, InRange a.config p.1 p.2 := fun p hp =>
    ⟨hclock p.1 (hall p hp).1, (hall p hp).2.1⟩
  rw [hids, List.Nodup, List.pairwise_map]
  refine hpw.imp_of_mem fun hp hq hlt heq => ?_
  have hless := hclear.constructId_lt htotal (hrange _ hp) (hrange _ hq) hlt
  rw [heq] at hless
  exact BitVec.lt_irrefl _ hless

/-- Then only the failures count. -/
theorem batchGenerate_complete_of_clear {size : ℕ} {answer : Result IdBatch} {s : Clocked}
    (hclear : a.NodeClear) (htotal : a.config.totalBits.toNat < 64)
    (hseq : a.sequence.toNat ≤ 2 ^ a.config.workerShift)
    (hclock : ∀ reading ∈ clock, reading.toNat < 2 ^ a.config.timestampBits.toNat)
    (hsize : 0 < size) (h : a.batchGenerate size clock = some (answer, s)) :
    Complete size answer ↔ CutAt 0 a clock ∨ ∀ done < size, ¬ CutAt done a clock := by
  rw [batchGenerate_complete_iff hsize h]
  refine or_congr Iff.rfl (and_iff_left ?_)
  obtain ⟨n, results, t, hrun, hids⟩ := successes_run (size + 100) a clock
  have hnodup := okIds_nodup hclear htotal hseq hclock hrun
  rw [← hids] at hnodup
  unfold firstPairs
  rw [List.map_map, List.Nodup, List.pairwise_map]
  rw [List.Nodup, List.pairwise_map] at hnodup
  refine (hnodup.sublist (List.take_sublist size _)).imp_of_mem fun hp hq hne heq => hne ?_
  rw [(successes_last _ a clock _ (List.mem_of_mem_take hp)).2,
    (successes_last _ a clock _ (List.mem_of_mem_take hq)).2]
  exact (constructId_eq_iff_shown _ _).mpr heq

/-! ## A clock that steps back -/

theorem generateId_refused {reading : UInt64} (h : a.Refuses reading) (clock : List UInt64) :
    ∃ e a', call (a, reading :: clock) = some (.error e, a', clock) ∧ a'.Refuses reading := by
  refine ⟨.clockMovedBackward a.lastTimestamp, { a with
    clockDriftMs := a.lastTimestamp - reading
    metrics := { a.metrics with clockBackwards := a.metrics.clockBackwards + 1 } }, ?_, h⟩
  unfold call generateId
  dsimp only
  rw [if_pos h.1, if_pos h.2]

/-- A clock that stays too far behind uses up the retries. -/
theorem collect_refused {reading : UInt64} (h : a.Refuses reading) (missing left : ℕ)
    (clock : List UInt64) : ∃ s,
    collect call (missing + 1) left (a, List.replicate left reading ++ clock) = some ([], s) := by
  induction left generalizing a with
  | zero =>
    refine ⟨(a, clock), ?_⟩
    rw [collect]
    rfl
  | succ left ih =>
    obtain ⟨e, a', hcall, h'⟩ := generateId_refused h (List.replicate left reading ++ clock)
    obtain ⟨s, hs⟩ := ih h'
    refine ⟨s, ?_⟩
    rw [List.replicate_succ, List.cons_append, collect_error hcall]
    exact hs

/-- One id, and then a clock ten seconds behind. -/
theorem batchGenerate_cut : ∃ id s,
    (build .default).batchGenerate 2 (10000 :: List.replicate 100 0) =
      some (.ok ⟨[id], .snowflake, ""⟩, s) := by
  have hfirst : ∃ id a', call (build .default, 10000 :: List.replicate 100 0) =
      some (.ok id, a', List.replicate 100 0) ∧ a'.Refuses 0 := ⟨_, _, rfl, by decide⟩
  obtain ⟨id, a', hcall, hrefuses⟩ := hfirst
  obtain ⟨s, hs⟩ := collect_refused hrefuses 0 100 []
  rw [List.append_nil] at hs
  refine ⟨id, s, ?_⟩
  unfold batchGenerate
  rw [if_neg (by decide), collect_ok hcall, hs]
  rfl

end SnowflakeAlgorithm

end NebulaId
