import Mathlib
import NebulaId.Snowflake.Generate

/-!
# Restarts of a Snowflake node (`core/algorithm/snowflake.rs`)

A generator keeps its cursor in memory only: after a restart the node begins again with timestamp
and sequence 0, under whatever the clock reads then.

* `Climbs`: within a millisecond the sequence climbs from 0 by single steps.
* `ids_per_ms`: how many ids a run hands out in one millisecond.
* `restarts_distinct_iff`: the ids of all the lives of a node are distinct if and only if no two of
  them have handed out an id in the same millisecond.
-/

namespace NebulaId

namespace SnowflakeAlgorithm

def getLastTimestamp (a : SnowflakeAlgorithm) : UInt64 := a.lastTimestamp

/-- What `get_last_timestamp` says after each of `n` calls that has returned an id. -/
def usedMs : ℕ → SnowflakeAlgorithm → List UInt64 → List UInt64
  | 0, _, _ => []
  | n + 1, a, clock => match a.generateId clock with
    | some (.ok _, a, clock) => a.getLastTimestamp :: usedMs n a clock
    | some (.error _, a, clock) => usedMs n a clock
    | none => []

/-- Each pair is at the cursor or opens a later millisecond, and the cursor stands behind it
afterwards. -/
def Climbs : UInt64 × UInt64 → List (UInt64 × UInt64) → Prop
  | _, [] => True
  | cursor, p :: pairs => (p = cursor ∨ cursor.1 < p.1 ∧ p.2 = 0) ∧ Climbs (p.1, p.2 + 1) pairs

variable {a a' : SnowflakeAlgorithm} {clock rest : List UInt64} {r : Result Id} {n : ℕ}
  {results : List (Result Id)} {cursor p : UInt64 × UInt64} {pairs : List (UInt64 × UInt64)}

/-! ## Within a millisecond -/

/-- A millisecond that is used was opened, unless the cursor stood in its middle. -/
theorem Climbs.opened (h : Climbs cursor pairs) (hp : p ∈ pairs) :
    (p.1, 0) ∈ pairs ∨ cursor.1 = p.1 ∧ cursor.2 ≠ 0 := by
  induction pairs generalizing cursor with
  | nil => cases hp
  | cons first pairs ih =>
    obtain ⟨hfirst, hrest⟩ := h
    have hopen (hzero : first.2 = 0) : (first.1, 0) ∈ first :: pairs := by
      rw [← hzero]
      exact List.mem_cons_self
    have hmiddle (hne : first.2 ≠ 0) : cursor.1 = first.1 ∧ cursor.2 ≠ 0 := by
      rcases hfirst with rfl | ⟨-, hzero⟩
      · exact ⟨rfl, hne⟩
      · exact absurd hzero hne
    rcases List.mem_cons.mp hp with rfl | hp
    · by_cases hzero : p.2 = 0
      · exact Or.inl (hopen hzero)
      · exact Or.inr (hmiddle hzero)
    · rcases ih hrest hp with hin | ⟨hms, -⟩
      · exact Or.inl (List.mem_cons_of_mem _ hin)
      · rw [← hms]
        by_cases hzero : first.2 = 0
        · exact Or.inl (hopen hzero)
        · exact Or.inr (hmiddle hzero)

/-- **One call**, with the sequence it takes: an error leaves the cursor alone. -/
theorem generateId_climbs (hseq : a.sequence.toNat ≤ 2 ^ a.config.workerShift)
    (h : a.generateId clock = some (r, a', rest)) :
    (∃ e, r = .error e ∧ a'.lastTimestamp = a.lastTimestamp ∧ a'.sequence = a.sequence) ∨
      ∃ p, IssuedAt a a' r p ∧ p.1 ∈ clock ∧
        (p = (a.lastTimestamp, a.sequence) ∨ a.lastTimestamp < p.1 ∧ p.2 = 0) := by
  cases clock with
  | nil => cases h
  | cons timestamp clock =>
    unfold generateId at h
    dsimp only at h
    split at h
    · split at h
      · cases h
        exact Or.inl ⟨_, rfl, rfl, rfl⟩
      · obtain ⟨-, -, ts, hlt, hmem, hi⟩ := generateAfterWait_spec h
        exact Or.inr ⟨(ts, 0), hi, List.mem_cons_of_mem _ hmem, Or.inr ⟨hlt, rfl⟩⟩
    · rename_i hge
      split at h
      · rename_i heq
        split at h
        · obtain ⟨-, -, ts, hlt, hmem, hi⟩ := generateAfterWait_spec h
          exact Or.inr ⟨(ts, 0), hi, List.mem_cons_of_mem _ hmem, Or.inr ⟨heq ▸ hlt, rfl⟩⟩
        · rename_i hex
          have hle := le_sequenceMask_of_not_exhausted hseq (by simpa using hex)
          cases h
          rw [and_sequenceMask_of_le hle]
          exact Or.inr ⟨(timestamp, a.sequence), ⟨rfl, hle, heq.symm, rfl⟩, List.mem_cons_self,
            Or.inl (heq ▸ rfl)⟩
      · rename_i hne
        cases h
        refine Or.inr ⟨(timestamp, 0), ⟨?_, sequence_le_iff.mpr (Nat.two_pow_pos _), rfl, rfl⟩,
          List.mem_cons_self, Or.inr ⟨?_, rfl⟩⟩
        · rw [zero_and_mask]
          rfl
        · exact UInt64.lt_of_le_of_ne (UInt64.not_lt.mp hge) (Ne.symm hne)

/-- **The pairs of a run** climb, and their timestamps are the milliseconds used. -/
theorem generateIds_climbs (hseq : a.sequence.toNat ≤ 2 ^ a.config.workerShift)
    (h : generateIds n a clock = some (results, a', rest)) :
    ∃ pairs : List (UInt64 × UInt64),
      okIds results = pairs.map (fun p => a.constructId p.1 p.2) ∧
      usedMs n a clock = pairs.map Prod.fst ∧
      (∀ p ∈ pairs, p.1 ∈ clock ∧ p.2 ≤ a.config.sequenceMask) ∧
      Climbs (a.lastTimestamp, a.sequence) pairs := by
  induction n generalizing a clock results with
  | zero =>
    cases h
    exact ⟨[], rfl, rfl, fun _ hp => (List.not_mem_nil hp).elim, trivial⟩
  | succ n ih =>
    obtain ⟨⟨r, b, clock'⟩, hcall, h⟩ := Option.bind_eq_some_iff.mp h
    obtain ⟨⟨results', b', rest'⟩, hrun, h⟩ := Option.bind_eq_some_iff.mp h
    cases h
    obtain ⟨hn, hsub, -⟩ := generateId_spec hseq hcall
    rcases generateId_climbs hseq hcall with
      ⟨e, rfl, hlast, hb⟩ | ⟨p, ⟨rfl, hq, hlast, hb⟩, hmem, hcur⟩
    · obtain ⟨pairs, hids, hused, hall, hclimbs⟩ := ih (by rw [hb, ← hn.1]; exact hseq) hrun
      rw [← hn.constructId] at hids
      rw [← hn.1] at hall
      rw [hlast, hb] at hclimbs
      refine ⟨pairs, hids, ?_, fun p hp => ⟨hsub (hall p hp).1, (hall p hp).2⟩, hclimbs⟩
      rw [usedMs, hcall]
      exact hused
    · have hsucc := toNat_succ_of_le hq
      obtain ⟨pairs, hids, hused, hall, hclimbs⟩ := ih
        (by rw [hb, ← hn.1, hsucc]; exact sequence_le_iff.mp hq) hrun
      rw [← hn.constructId] at hids
      rw [← hn.1] at hall
      rw [hlast, hb] at hclimbs
      refine ⟨p :: pairs, ?_, ?_, fun q hp => ?_, hcur, hclimbs⟩
      · change a.constructId p.1 p.2 :: okIds results' = _
        rw [hids]
        rfl
      · rw [usedMs, hcall, List.map_cons, ← hused, ← hlast]
        rfl
      · rcases List.mem_cons.mp hp with rfl | hp
        · exact ⟨hmem, hq⟩
        · exact ⟨hsub (hall q hp).1, (hall q hp).2⟩

/-! ## The lives of a node -/

/-- One life of a node: how many calls it served, and what the clock read. -/
structure Life where
  calls : ℕ
  clock : List UInt64

/-- The ids of a life that begins with a freshly built generator. -/
def Life.ids (config : Config) (life : Life) : List Id :=
  match generateIds life.calls (build config) life.clock with
  | some (results, _, _) => okIds results
  | none => []

def Life.used (config : Config) (life : Life) : List UInt64 :=
  usedMs life.calls (build config) life.clock

/-- The calls of the life have all returned, under readings that fit the timestamp field. -/
structure Life.Lived (config : Config) (life : Life) : Prop where
  returned : (generateIds life.calls (build config) life.clock).isSome = true
  fits : ∀ reading ∈ life.clock,
    reading.toNat < 2 ^ config.algorithm.snowflake.timestampBits.toNat

section Lives

variable {config : Config} {life life' : Life} {t : UInt64}

theorem Life.Lived.climbs (h : life.Lived config) : ∃ pairs : List (UInt64 × UInt64),
    life.ids config = pairs.map (fun p => (build config).constructId p.1 p.2) ∧
      life.used config = pairs.map Prod.fst ∧
      (∀ p ∈ pairs, InRange (build config).config p.1 p.2) ∧ Climbs (0, 0) pairs := by
  obtain ⟨⟨results, a, rest⟩, hrun⟩ := Option.isSome_iff_exists.mp h.returned
  obtain ⟨pairs, hids, hused, hall, hclimbs⟩ := generateIds_climbs (Nat.zero_le _) hrun
  refine ⟨pairs, ?_, hused, fun p hp => ⟨h.fits p.1 (hall p hp).1, (hall p hp).2⟩, hclimbs⟩
  rw [Life.ids, hrun]
  exact hids

variable (hbits : config.algorithm.snowflake.datacenterIdBits.toNat +
    config.algorithm.snowflake.workerIdBits.toNat +
    config.algorithm.snowflake.sequenceBits.toNat < 64)
  (hfits : (build config).NodeFits)

include hbits hfits

theorem Life.Lived.ids_nodup (h : life.Lived config) : (life.ids config).Nodup := by
  obtain ⟨⟨results, a, rest⟩, hrun⟩ := Option.isSome_iff_exists.mp h.returned
  have hincreasing := generateIds_increasing hbits hfits h.fits hrun
  rw [Life.ids, hrun]
  refine hincreasing.imp ?_
  rintro id _ hlt rfl
  exact BitVec.lt_irrefl _ hlt

/-- Two lives have an id in common if and only if they have a millisecond in common. -/
theorem disjoint_ids_iff (h : life.Lived config) (h' : life'.Lived config) :
    (life.ids config).Disjoint (life'.ids config) ↔
      (life.used config).Disjoint (life'.used config) := by
  obtain ⟨pairs, hids, hused, hrange, hclimbs⟩ := h.climbs
  obtain ⟨pairs', hids', hused', hrange', hclimbs'⟩ := h'.climbs
  have hclear := nodeClear_of_fits hbits hfits
  have htotal : (build config).config.totalBits.toNat < 64 :=
    (SnowflakeAlgorithmConfig.shifts_of_lt hbits).2.2.2
  rw [hids, hids', hused, hused']
  constructor
  · intro hdisjoint t ht ht'
    obtain ⟨p, hp, rfl⟩ := List.mem_map.mp ht
    obtain ⟨p', hp', heq⟩ := List.mem_map.mp ht'
    -- both lives have opened the millisecond with the same id
    have hopen := (hclimbs.opened hp).resolve_right fun h => h.2 rfl
    have hopen' := (hclimbs'.opened hp').resolve_right fun h => h.2 rfl
    rw [heq] at hopen'
    exact hdisjoint (List.mem_map_of_mem hopen) (List.mem_map_of_mem hopen')
  · intro hdisjoint id hid hid'
    obtain ⟨p, hp, rfl⟩ := List.mem_map.mp hid
    obtain ⟨p', hp', heq⟩ := List.mem_map.mp hid'
    obtain ⟨hms, -⟩ :=
      hclear.constructId_injective htotal (hrange' p' hp') (hrange p hp) heq
    exact hdisjoint (List.mem_map_of_mem hp) (hms ▸ List.mem_map_of_mem hp')

/-- A life hands out at most as many ids in a millisecond as there are sequence numbers. -/
theorem ids_per_ms (h : life.Lived config) (t : UInt64) :
    (life.used config).count t ≤ (build config).config.sequenceMask.toNat + 1 := by
  obtain ⟨pairs, hids, hused, hrange, -⟩ := h.climbs
  have hnodup : pairs.Nodup := by
    have := h.ids_nodup hbits hfits
    rw [hids] at this
    exact this.of_map
  -- the pairs of one millisecond differ in their sequence
  have hsequences : ((pairs.filter fun p => p.1 == t).map fun p => p.2.toNat).Nodup := by
    refine List.Nodup.map_on (fun p hp q hq heq => ?_) (hnodup.filter _)
    have hp1 := eq_of_beq (List.mem_filter.mp hp).2
    have hq1 := eq_of_beq (List.mem_filter.mp hq).2
    exact Prod.ext (hp1.trans hq1.symm) (UInt64.toNat_inj.mp heq)
  have hsub : ((pairs.filter fun p => p.1 == t).map fun p => p.2.toNat) ⊆
      List.range ((build config).config.sequenceMask.toNat + 1) := by
    intro q hq
    obtain ⟨p, hp, rfl⟩ := List.mem_map.mp hq
    have hle := (hrange p (List.mem_filter.mp hp).1).2
    exact List.mem_range.mpr (Nat.lt_succ_of_le (UInt64.le_iff_toNat_le.mp hle))
  have hlength := (hsequences.subperm hsub).length_le
  rw [List.length_map, List.length_range] at hlength
  rw [hused, List.count_eq_countP, List.countP_map, List.countP_eq_length_filter]
  exact hlength

end Lives

end SnowflakeAlgorithm

end NebulaId
