import NebulaId.Algorithm.Degradation
import NebulaId.Machine.Along
import NebulaId.Snowflake.Interleaved

/-!
# A clock that steps back (`core/algorithm/snowflake.rs`)

A call that reads the clock behind the last timestamp records how far behind it is, and nothing
takes the record back. It compares the distance with the threshold before it waits, and not again
while it waits.

* `recovered_iff`: after a call that was not behind the health check is right again if and only if
  the distance recorded last was within the threshold.
* `waits_near_iff`: calls wait for a near timestamp if and only if no reading taken while they wait
  is too far behind it.
* `never_recovers`, `waits_too_far`: a jump of ten seconds, before a call and while one waits.
-/

namespace NebulaId

open Machine

namespace SnowflakeAlgorithm

def healthCheck (a : SnowflakeAlgorithm) : HealthStatus :=
  if a.clockDriftMs > a.config.clockDriftThresholdMs then
    .unhealthy ("Clock drift " ++ toString a.clockDriftMs ++ "ms exceeds threshold " ++
      toString a.config.clockDriftThresholdMs ++ "ms")
  else .healthy

/-- The calls, with what they have seen: the last reading of each, whether its first one was behind
the last timestamp, the distances in the order of their records, and the last call to return. -/
structure Watched where
  world : World SharedGenerator Call
  reading : ℕ → UInt64
  late : ℕ → Bool
  drifts : List UInt64
  latest : Option (Bool × Result Id)

def watch (a : SnowflakeAlgorithm) : Watched :=
  ⟨start a, fun _ => 0, fun _ => false, [], none⟩

/-- The operations that read the clock. -/
def Call.asksClock : Call → Bool
  | .idle | .waiting _ => true
  | _ => false

/-- What a step adds to what the calls have seen. -/
def Watched.note (w : Watched) (act : ℕ × UInt64) (w' : World SharedGenerator Call) : Watched where
  world := w'
  reading := if (w.world.threads act.1).asksClock then Function.update w.reading act.1 act.2
    else w.reading
  late := match w.world.threads act.1 with
    | .loadLast timestamp =>
      Function.update w.late act.1 (decide (timestamp < w.world.shared.generator.lastTimestamp))
    | _ => w.late
  drifts := match w.world.threads act.1 with
    | .storeDrift drift _ => drift :: w.drifts
    | _ => w.drifts
  latest := match w'.threads act.1 with
    | .idle => w'.shared.returned.head?.map fun r => (w.late act.1, r)
    | _ => w.latest

def watchStep (w : Watched) (act : ℕ × UInt64) : Option Watched :=
  (World.step generateStep w.world act).map (w.note act)

/-- `clock_drift_threshold_ms` -/
def Watched.threshold (w : Watched) : UInt64 :=
  w.world.shared.generator.config.clockDriftThresholdMs

variable {w w' : Watched} {act : ℕ × UInt64} {i : ℕ} {reading : UInt64} {m m' : SharedGenerator}
  {p p' : Call}

/-! ## What a step does -/

/-- A step stores a drift, returns an id, or does neither. -/
inductive DriftMove (m : SharedGenerator) (p : Call) (m' : SharedGenerator) (p' : Call) : Prop
  | store (drift lastTs : UInt64) (hp : p = .storeDrift drift lastTs) (hp' : p' ≠ .idle)
      (hdrift : m'.generator.clockDriftMs = drift)
  | issue (ts seq : UInt64) (id : Id) (hp : p = .issue ts seq) (hp' : p' = .idle)
      (hreturned : m'.returned = .ok id :: m.returned)
      (hdrift : m'.generator.clockDriftMs = m.generator.clockDriftMs)
  | other (hstore : ∀ drift lastTs, p ≠ .storeDrift drift lastTs)
      (hissue : ∀ ts seq, p ≠ .issue ts seq)
      (hreturned : p' = .idle → ∃ e, m'.returned = .error e :: m.returned)
      (hdrift : m'.generator.clockDriftMs = m.generator.clockDriftMs)

/-- A step keeps the configuration; of those that return, all but `issue` return an error. -/
theorem generateStep_drift (h : generateStep i reading m p = some (m', p')) :
    m'.generator.config = m.generator.config ∧ DriftMove m p m' p' := by
  cases p with
  | storeDrift drift ts =>
    cases h
    exact ⟨rfl, .store drift ts rfl nofun rfl⟩
  | issue ts seq =>
    cases h
    exact ⟨rfl, .issue ts seq _ rfl rfl rfl rfl⟩
  | countOverflow ts =>
    cases h
    exact ⟨rfl, .other nofun nofun (fun _ => ⟨_, rfl⟩) rfl⟩
  | countBackward drift ts =>
    unfold generateStep at h
    dsimp only at h
    split at h <;> cases h
    · exact ⟨rfl, .other nofun nofun (fun _ => ⟨_, rfl⟩) rfl⟩
    · exact ⟨rfl, .other nofun nofun nofun rfl⟩
  | loadLast ts =>
    unfold generateStep at h
    dsimp only at h
    split at h
    · cases h
      exact ⟨rfl, .other nofun nofun nofun rfl⟩
    · split at h <;> cases h <;> exact ⟨rfl, .other nofun nofun nofun rfl⟩
  | waiting ts | fetchSame ts | fetchWaited ts =>
    unfold generateStep at h
    dsimp only at h
    split at h <;> cases h <;> exact ⟨rfl, .other nofun nofun nofun rfl⟩
  | _ =>
    cases h
    exact ⟨rfl, .other nofun nofun nofun rfl⟩

/-! ## The health after a jump -/

/-- After a call that was not behind and has returned an id, the health check is right. -/
def Recovered (w : Watched) : Prop :=
  ∀ id, w.latest = some (false, .ok id) → w.world.shared.generator.healthCheck = .healthy

/-- The distance recorded last is within the threshold when such a call returns, and no distance
beyond it is recorded while that call is the last to have returned. -/
structure RecordsWithin (w : Watched) (act : ℕ × UInt64) : Prop where
  returns : ∀ ts seq, w.world.threads act.1 = .issue ts seq → w.late act.1 = false →
    ∀ d ∈ w.drifts.head?, d ≤ w.threshold
  records : ∀ drift ts, w.world.threads act.1 = .storeDrift drift ts →
    ∀ id, w.latest = some (false, .ok id) → drift ≤ w.threshold

/-- The drift is the distance recorded last. -/
def DriftRecorded (w : Watched) : Prop :=
  w.world.shared.generator.clockDriftMs = w.drifts.headD 0

theorem healthCheck_eq_healthy {a : SnowflakeAlgorithm} :
    a.healthCheck = .healthy ↔ a.clockDriftMs ≤ a.config.clockDriftThresholdMs := by
  unfold healthCheck
  split
  · rename_i hgt
    exact iff_of_false nofun (UInt64.not_le.mpr hgt)
  · rename_i hle
    exact iff_of_true rfl (UInt64.not_lt.mp hle)

theorem healthy_iff (h : DriftRecorded w) :
    w.world.shared.generator.healthCheck = .healthy ↔ ∀ d ∈ w.drifts.head?, d ≤ w.threshold := by
  rw [healthCheck_eq_healthy, show w.world.shared.generator.clockDriftMs = _ from h]
  cases w.drifts with
  | nil => exact iff_of_true UInt64.zero_le nofun
  | cons d rest =>
    constructor
    · rintro hle _ ⟨⟩
      exact hle
    · exact fun hall => hall d rfl

theorem DriftRecorded.step (h : DriftRecorded w) (hstep : watchStep w act = some w') :
    DriftRecorded w' := by
  obtain ⟨v, hv, rfl⟩ := Option.map_eq_some_iff.mp hstep
  obtain ⟨i, reading⟩ := act
  obtain ⟨m, p, hs, rfl⟩ := World.step_eq_some.mp hv
  unfold DriftRecorded Watched.note
  dsimp only
  cases (generateStep_drift hs).2 with
  | store drift ts hp _ hdrift =>
    rw [hp, hdrift]
    rfl
  | issue ts seq id hp _ _ hdrift =>
    rw [hp, hdrift]
    exact h
  | other hstore _ _ hdrift =>
    rw [hdrift, show w.world.shared.generator.clockDriftMs = _ from h]
    split
    · rename_i drift ts hp
      exact absurd hp (hstore drift ts)
    · rfl

/-- The threshold is the same in every state of a run. -/
theorem threshold_step (hstep : watchStep w act = some w') : w'.threshold = w.threshold := by
  obtain ⟨v, hv, rfl⟩ := Option.map_eq_some_iff.mp hstep
  obtain ⟨i, reading⟩ := act
  obtain ⟨m, p, hs, rfl⟩ := World.step_eq_some.mp hv
  exact congrArg SnowflakeAlgorithmConfig.clockDriftThresholdMs (generateStep_drift hs).1

theorem note_latest_idle {v : World SharedGenerator Call} (h : v.threads act.1 = .idle) :
    (w.note act v).latest = v.shared.returned.head?.map fun r => (w.late act.1, r) := by
  unfold Watched.note
  dsimp only
  rw [h]

theorem note_latest_keep {v : World SharedGenerator Call} (h : v.threads act.1 ≠ .idle) :
    (w.note act v).latest = w.latest := by
  unfold Watched.note
  dsimp only
  split
  · exact absurd ‹_› h
  · rfl

theorem note_drifts_keep {v : World SharedGenerator Call}
    (h : ∀ drift ts, w.world.threads act.1 ≠ .storeDrift drift ts) :
    (w.note act v).drifts = w.drifts := by
  unfold Watched.note
  dsimp only
  split
  · exact absurd ‹_› (h _ _)
  · rfl

theorem note_drifts_store {v : World SharedGenerator Call} {drift ts : UInt64}
    (h : w.world.threads act.1 = .storeDrift drift ts) :
    (w.note act v).drifts = drift :: w.drifts := by
  unfold Watched.note
  dsimp only
  rw [h]

/-- **One step.** -/
theorem recovered_step_iff (hw : DriftRecorded w) (h : Recovered w)
    (hstep : watchStep w act = some w') : Recovered w' ↔ RecordsWithin w act := by
  have hw' := hw.step hstep
  have hthreshold := threshold_step hstep
  unfold Recovered at h ⊢
  simp only [healthy_iff hw, healthy_iff hw', hthreshold] at h ⊢
  obtain ⟨v, hv, rfl⟩ := Option.map_eq_some_iff.mp hstep
  obtain ⟨i, reading⟩ := act
  obtain ⟨m, p, hs, rfl⟩ := World.step_eq_some.mp hv
  have hself : (World.mk m (Function.update w.world.threads i p)).threads i = p :=
    Function.update_self ..
  cases (generateStep_drift hs).2 with
  | issue ts seq id hq hp hreturned _ =>
    have hne : ∀ drift ts, w.world.threads i ≠ .storeDrift drift ts := by
      intro drift ts hp
      cases hq.symm.trans hp
    rw [note_latest_idle (hself.trans hp), note_drifts_keep hne, hreturned]
    constructor
    · intro hrecovered
      refine ⟨fun _ _ _ hlate => hrecovered id ?_, fun drift ts hp => absurd hp (hne drift ts)⟩
      rw [hlate]
      rfl
    · intro hwithin _ hlatest
      refine hwithin.returns ts seq hq ?_
      exact (Prod.mk.inj (Option.some.inj hlatest)).1
  | store drift ts hq hp _ =>
    rw [note_latest_keep (hself.symm ▸ hp), note_drifts_store hq]
    constructor
    · intro hrecovered
      refine ⟨fun ts seq hp => (nomatch hq.symm.trans hp), fun drift' ts' hp id hlatest => ?_⟩
      cases hq.symm.trans hp
      exact hrecovered id hlatest drift rfl
    · rintro hwithin id hlatest _ ⟨⟩
      exact hwithin.records drift ts hq id hlatest
  | other hstore hissue hreturned _ =>
    refine iff_of_true ?_ ⟨fun ts seq hp => absurd hp (hissue ts seq),
      fun drift ts hp => absurd hp (hstore drift ts)⟩
    rw [note_drifts_keep hstore]
    by_cases hp : p = .idle
    · obtain ⟨e, he⟩ := hreturned hp
      intro id hlatest
      rw [note_latest_idle (hself.trans hp), he] at hlatest
      cases (Prod.mk.inj (Option.some.inj hlatest)).2
    · rw [note_latest_keep (hself.symm ▸ hp)]
      exact h

/-- **Recovery.** Along a run the health check is right after every call that was not behind, if and
only if the distance recorded last was within the threshold. -/
theorem recovered_iff (config : Config) (acts : List (ℕ × UInt64)) :
    EachStep watchStep (fun _ _ w => Recovered w) (watch (build config)) acts ↔
      EachStep watchStep (fun w act _ => RecordsWithin w act) (watch (build config)) acts := by
  have hstart : Recovered (watch (build config)) := fun id h => by cases h
  have hrecorded : DriftRecorded (watch (build config)) := rfl
  refine eachStep_iff_of_invariants hstart hrecorded ?_ ?_
  · intro w act w' hw hstep
    exact hw.step hstep
  · intro w act w' hw h hstep
    exact recovered_step_iff hw h hstep

/-- A clock ten seconds behind, and back again. -/
theorem never_recovers : ∃ w,
    Reaches watchStep Free (watch (build .default)) w ∧ ¬ Recovered w := by
  let acts : List (ℕ × UInt64) :=
    List.replicate 6 (0, 10000) ++ List.replicate 4 (0, 0) ++ List.replicate 6 (0, 10001)
  have hrun : ((run watchStep (watch (build .default)) acts).map fun w =>
      (w.latest, decide (w.world.shared.generator.clockDriftMs ≤ w.threshold))) =
      some (some (false, .ok ((build .default).constructId 10001 0)), false) := by
    rfl
  obtain ⟨w, hw, heq⟩ := Option.map_eq_some_iff.mp hrun
  obtain ⟨hlatest, hdrift⟩ := Prod.mk.inj heq
  refine ⟨w, reaches_of_run hw, fun hrecovered => ?_⟩
  exact of_decide_eq_false hdrift (healthCheck_eq_healthy.mp (hrecovered _ hlatest))

/-! ## Waiting -/

/-- The reading is further behind the timestamp than the threshold. -/
def Watched.TooFar (w : Watched) (timestamp reading : UInt64) : Prop :=
  reading.toNat + w.threshold.toNat < timestamp.toNat

/-- The call has returned `ClockMovedBackward`. -/
def Refused (w : Watched) (i : ℕ) (timestamp : UInt64) : Prop :=
  w.world.threads i = .idle ∧
    w.world.shared.returned.head? = some (.error (.clockMovedBackward timestamp))

/-- Each call that waits is near the timestamp by its last reading, and one that reads a clock too
far behind is refused, before it waits and while it does. -/
structure WaitsNear (w : Watched) (act : ℕ × UInt64) (w' : Watched) : Prop where
  near : ∀ i ts, w'.world.threads i = .waiting ts → ¬ w'.TooFar ts (w'.reading i)
  entry : ∀ drift ts, w.world.threads act.1 = .countBackward drift ts →
    w.TooFar ts (w.reading act.1) → Refused w' act.1 ts
  waiting : ∀ ts, w.world.threads act.1 = .waiting ts → w.TooFar ts act.2 → Refused w' act.1 ts

/-- A call that waits does not read a clock too far behind. -/
def ReadsNear (w : Watched) (act : ℕ × UInt64) : Prop :=
  ∀ ts, w.world.threads act.1 = .waiting ts → ¬ w.TooFar ts act.2

/-- Calls wait near the timestamp. -/
def Near (w : Watched) : Prop :=
  ∀ i ts, w.world.threads i = .waiting ts → ¬ w.TooFar ts (w.reading i)

/-- What a call holds was computed from its last reading. -/
def FromReading (reading : UInt64) : Call → Prop
  | .loadLast ts | .fetchSame ts | .countRotation ts => reading = ts
  | .storeDrift drift ts | .countBackward drift ts => reading < ts ∧ drift = ts - reading
  | _ => True

def ReadingsKept (w : Watched) : Prop := ∀ i, FromReading (w.reading i) (w.world.threads i)

/-- The last reading of the call that moves. -/
def readingAfter (w : Watched) (act : ℕ × UInt64) : UInt64 :=
  if (w.world.threads act.1).asksClock then act.2 else w.reading act.1

theorem note_reading {v : World SharedGenerator Call} (j : ℕ) :
    (w.note act v).reading j = if j = act.1 then readingAfter w act else w.reading j := by
  unfold Watched.note readingAfter
  dsimp only
  by_cases hj : j = act.1
  · subst hj
    rw [if_pos rfl]
    split
    · exact Function.update_self ..
    · rfl
  · rw [if_neg hj]
    split
    · exact Function.update_of_ne hj _ _
    · rfl

/-- The operations between a reading and the wait. -/
theorem generateStep_fromReading (hp : FromReading reading p)
    (hask : p.asksClock = false) {r : UInt64} (h : generateStep i r m p = some (m', p')) :
    FromReading reading p' ∧ ∀ ts, p' = .waiting ts →
      ts.toNat ≤ reading.toNat + m.generator.config.clockDriftThresholdMs.toNat := by
  cases p with
  | idle => cases hask
  | waiting ts => cases hask
  | loadLast ts =>
    obtain rfl : reading = ts := hp
    unfold generateStep at h
    dsimp only at h
    split at h
    · rename_i hlt
      cases h
      exact ⟨⟨hlt, rfl⟩, nofun⟩
    · split at h <;> cases h
      · exact ⟨rfl, nofun⟩
      · exact ⟨trivial, nofun⟩
  | storeDrift drift ts =>
    cases h
    exact ⟨hp, nofun⟩
  | countBackward drift ts =>
    obtain ⟨hlt, rfl⟩ := hp
    unfold generateStep at h
    dsimp only at h
    split at h
    · cases h
      exact ⟨trivial, nofun⟩
    · rename_i hle
      cases h
      refine ⟨trivial, fun ts' heq => ?_⟩
      cases heq
      have hdist := UInt64.le_iff_toNat_le.mp (UInt64.not_lt.mp hle)
      rw [UInt64.toNat_sub_of_le _ _ (UInt64.le_of_lt hlt)] at hdist
      have hthreshold : (m.count fun x => { x with clockBackwards := x.clockBackwards + 1
          }).generator.config = m.generator.config := rfl
      rw [hthreshold] at hdist
      omega
  | fetchSame ts =>
    obtain rfl : reading = ts := hp
    unfold generateStep at h
    dsimp only at h
    split at h <;> cases h
    · exact ⟨rfl, nofun⟩
    · exact ⟨trivial, nofun⟩
  | countRotation ts =>
    obtain rfl : reading = ts := hp
    cases h
    refine ⟨trivial, fun ts' heq => ?_⟩
    cases heq
    exact Nat.le_add_right _ _
  | fetchWaited ts =>
    unfold generateStep at h
    dsimp only at h
    split at h <;> cases h <;> exact ⟨trivial, nofun⟩
  | _ =>
    cases h
    exact ⟨trivial, nofun⟩

theorem generateStep_waiting {ts : UInt64}
    (h : generateStep i reading m (.waiting ts) = some (m', p')) :
    (ts < reading ∧ p' = .storeLast reading) ∨ (reading ≤ ts ∧ p' = .waiting ts) := by
  unfold generateStep at h
  dsimp only at h
  split at h
  · rename_i hlt
    cases h
    exact Or.inl ⟨hlt, rfl⟩
  · rename_i hle
    cases h
    exact Or.inr ⟨UInt64.not_lt.mp hle, rfl⟩

/-- A call keeps waiting when the clock is too far behind. -/
theorem waiting_of_tooFar {ts : UInt64} (hw : w.world.threads act.1 = .waiting ts)
    (hfar : w.TooFar ts act.2) (hstep : watchStep w act = some w') :
    w'.world.threads act.1 = .waiting ts := by
  obtain ⟨v, hv, rfl⟩ := Option.map_eq_some_iff.mp hstep
  obtain ⟨i, reading⟩ := act
  obtain ⟨m, p, hs, rfl⟩ := World.step_eq_some.mp hv
  rw [hw] at hs
  have hself : (World.mk m (Function.update w.world.threads i p)).threads i = p :=
    Function.update_self ..
  rcases generateStep_waiting hs with ⟨hlt, -⟩ | ⟨-, hp⟩
  · have hlt' := UInt64.lt_iff_toNat_lt.mp hlt
    unfold Watched.TooFar at hfar
    dsimp only at hfar
    omega
  · exact hself.trans hp

theorem reading_of_waiting {ts : UInt64} (hw : w.world.threads act.1 = .waiting ts)
    (hstep : watchStep w act = some w') : w'.reading act.1 = act.2 := by
  obtain ⟨v, hv, rfl⟩ := Option.map_eq_some_iff.mp hstep
  rw [note_reading, if_pos rfl]
  unfold readingAfter
  rw [hw]
  rfl

/-- A call that finds the clock too far behind is refused before it waits. -/
theorem refused_of_tooFar {drift ts : UInt64} (h : ReadingsKept w)
    (hp : w.world.threads act.1 = .countBackward drift ts) (hfar : w.TooFar ts (w.reading act.1))
    (hstep : watchStep w act = some w') : Refused w' act.1 ts := by
  obtain ⟨hlt, hdrift⟩ : FromReading (w.reading act.1) (.countBackward drift ts) := hp ▸ h act.1
  have hgt : drift > w.threshold := by
    rw [hdrift, gt_iff_lt, UInt64.lt_iff_toNat_lt,
      UInt64.toNat_sub_of_le _ _ (UInt64.le_of_lt hlt)]
    unfold Watched.TooFar at hfar
    omega
  obtain ⟨v, hv, rfl⟩ := Option.map_eq_some_iff.mp hstep
  obtain ⟨i, reading⟩ := act
  obtain ⟨m, p, hs, rfl⟩ := World.step_eq_some.mp hv
  rw [hp] at hs
  unfold generateStep at hs
  dsimp only at hs
  rw [if_pos (by exact hgt)] at hs
  cases hs
  exact ⟨Function.update_self .., rfl⟩

theorem ReadingsKept.step (h : ReadingsKept w) (hstep : watchStep w act = some w') :
    ReadingsKept w' := by
  obtain ⟨v, hv, rfl⟩ := Option.map_eq_some_iff.mp hstep
  obtain ⟨i, reading⟩ := act
  obtain ⟨m, p, hs, rfl⟩ := World.step_eq_some.mp hv
  intro j
  rw [note_reading]
  by_cases hj : j = i
  · subst hj
    rw [if_pos rfl]
    have hself : (w.note (j, reading) ⟨m, Function.update w.world.threads j p⟩).world.threads j
        = p := Function.update_self ..
    rw [hself]
    unfold readingAfter
    dsimp only
    have hkept := h j
    generalize hcall : w.world.threads j = call at hs hkept ⊢
    cases call with
    | idle =>
      cases hs
      rfl
    | waiting ts =>
      rcases generateStep_waiting hs with ⟨-, rfl⟩ | ⟨-, rfl⟩ <;> exact trivial
    | _ => exact (generateStep_fromReading hkept rfl hs).1
  · rw [if_neg hj]
    have hother : (w.note (i, reading) ⟨m, Function.update w.world.threads i p⟩).world.threads j
        = w.world.threads j := Function.update_of_ne hj _ _
    rw [hother]
    exact h j

/-- **One step.** -/
theorem near_step_iff (hkept : ReadingsKept w) (h : Near w) (hstep : watchStep w act = some w') :
    Near w' ↔ ReadsNear w act := by
  have hthreshold := threshold_step hstep
  constructor
  · intro hnear ts hwait hfar
    refine hnear act.1 ts (waiting_of_tooFar hwait hfar hstep) ?_
    unfold Watched.TooFar
    rw [reading_of_waiting hwait hstep, hthreshold]
    exact hfar
  · intro hreads j ts hwait
    unfold Watched.TooFar
    rw [hthreshold]
    obtain ⟨v, hv, rfl⟩ := Option.map_eq_some_iff.mp hstep
    obtain ⟨i, reading⟩ := act
    obtain ⟨m, p, hs, rfl⟩ := World.step_eq_some.mp hv
    rw [note_reading]
    by_cases hj : j = i
    · subst hj
      rw [if_pos rfl]
      obtain rfl : p = .waiting ts := (Function.update_self ..).symm.trans hwait
      unfold readingAfter
      dsimp only
      have hj := hkept j
      generalize hcall : w.world.threads j = call at hs hj ⊢
      cases call with
      | idle => cases hs
      | waiting ts' =>
        rcases generateStep_waiting hs with ⟨-, hp⟩ | ⟨-, hp⟩
        · cases hp
        · cases hp
          exact hreads ts hcall
      | _ => exact Nat.not_lt.mpr ((generateStep_fromReading hj rfl hs).2 ts rfl)
    · rw [if_neg hj]
      refine h j ts ?_
      exact (Function.update_of_ne hj _ _).symm.trans hwait

/-- Only the wait can go wrong: a call is always refused before it waits. -/
theorem waitsNear_iff (hkept : ReadingsKept w) (hstep : watchStep w act = some w') :
    WaitsNear w act w' ↔ Near w' := by
  constructor
  · exact fun h => h.near
  · intro hnear
    refine ⟨hnear, fun drift ts hp hfar => refused_of_tooFar hkept hp hfar hstep, ?_⟩
    intro ts hwait hfar
    refine absurd ?_ (hnear act.1 ts (waiting_of_tooFar hwait hfar hstep))
    unfold Watched.TooFar
    rw [reading_of_waiting hwait hstep, threshold_step hstep]
    exact hfar

/-- **The threshold while calls wait.** Along a run every call waits near its timestamp, or is
refused, if and only if no call that waits reads a clock too far behind. -/
theorem waits_near_iff (a : SnowflakeAlgorithm) (acts : List (ℕ × UInt64)) :
    EachStep watchStep WaitsNear (watch a) acts ↔
      EachStep watchStep (fun w act _ => ReadsNear w act) (watch a) acts := by
  have hkept : ReadingsKept (watch a) := fun i => trivial
  have hnear : Near (watch a) := fun i ts h => by cases h
  have hagree : EachStep watchStep WaitsNear (watch a) acts ↔
      EachStep watchStep (fun _ _ w => Near w) (watch a) acts := by
    refine eachStep_iff_of_agree hkept ?_ ?_
    · intro w act w' hw hstep
      exact hw.step hstep
    · intro w act w' hw hstep
      exact waitsNear_iff hw hstep
  rw [hagree]
  refine eachStep_iff_of_invariants hnear hkept ?_ ?_
  · intro w act w' hw hstep
    exact hw.step hstep
  · intro w act w' hw h hstep
    exact near_step_iff hw h hstep

/-- A call waits out a millisecond, and the clock falls ten seconds behind. -/
theorem waits_too_far : ∃ w act w', Reaches watchStep Free (watch (build .default)) w ∧
    watchStep w act = some w' ∧ ¬ WaitsNear w act w' := by
  let acts : List (ℕ × UInt64) := List.replicate 6 (0, 10000) ++ List.replicate 4 (0, 9999)
  have hrun : ((run watchStep (watch (build .default)) acts).map fun w =>
      (w.world.threads 0, w.threshold)) = some (.waiting 10000, 1000) := by
    rfl
  obtain ⟨w, hw, heq⟩ := Option.map_eq_some_iff.mp hrun
  obtain ⟨hwait, hthreshold⟩ := Prod.mk.inj heq
  have hfar : w.TooFar 10000 0 := by
    unfold Watched.TooFar
    rw [hthreshold]
    decide
  have hstep : ∃ w', watchStep w (0, 0) = some w' := by
    refine ⟨w.note (0, 0) ⟨w.world.shared, Function.update w.world.threads 0 (.waiting 10000)⟩, ?_⟩
    refine Option.map_eq_some_iff.mpr ⟨_, World.step_eq_some.mpr ⟨_, _, ?_, rfl⟩, rfl⟩
    rw [hwait]
    rfl
  obtain ⟨w', hstep⟩ := hstep
  refine ⟨w, (0, 0), w', reaches_of_run hw, hstep, fun hwaits => ?_⟩
  obtain ⟨hidle, -⟩ := hwaits.waiting 10000 hwait hfar
  cases hidle.symm.trans (waiting_of_tooFar hwait hfar hstep)

end SnowflakeAlgorithm

end NebulaId
