import NebulaId.Algorithm.Degradation

/-!
# Recovery of degraded algorithms (`core/algorithm/degradation_manager.rs`)

What repeated calls of `check_all_health` do to the record of one algorithm whose health
check always answers `Healthy`. A breaker that is open goes half open after its timeout, a
half open one closes after enough successes, and closing takes the algorithm back. A
degraded record with a closed breaker is skipped by every check.

* `checkAfter_record`: a check takes a record through one `healthTurn`.
* `halfOpen_comesBack`, `opened_comesBack`: how many checks the two open states need.
* `comesBack_iff`: a degraded algorithm comes back exactly when its breaker is in use and
  not closed.
-/

namespace NebulaId

open Machine

namespace DegradationManager

/-- A call of `check_all_health`, some time after the one before. -/
structure Check where
  wait : ℕ
  turns : List HealthTurn

def checkAfter (m : DegradationManager) (c : Check) : Option DegradationManager :=
  (m.wait c.wait).checkAllHealth c.turns

/-- The health check of the algorithm answers `Healthy`. -/
def HealthyIn (alg : AlgorithmType) (c : Check) : Prop :=
  ∀ t ∈ c.turns, t.alg = alg → t.health = .healthy

def Recovered (m : DegradationManager) (alg : AlgorithmType) : Prop :=
  ∃ s, m.healthStates alg = some s ∧ s.isDegraded = false ∧ s.circuitBreakerState = .closed

/-- The successes a half open breaker asks for, and three more checks. -/
def checksNeeded (c : DegradationConfig) : ℕ := c.halfOpenSuccessThreshold.toNat + 3

/-- However long the health checks of the algorithm go on being good, with the timeout of the
breaker between them, one of the first checks finds the algorithm recovered. -/
def ComesBack (m : DegradationManager) (alg : AlgorithmType) : Prop :=
  ∀ checks : List Check, checksNeeded m.config ≤ checks.length →
    (∀ c ∈ checks, HealthyIn alg c) → (∀ c ∈ checks.tail, m.config.timeoutNanos ≤ c.wait) →
    (run checkAfter m checks).isSome →
    ∃ n ≤ checksNeeded m.config, ∃ m', run checkAfter m (checks.take n) = some m' ∧
      Recovered m' alg

/-- The bound in terms of `recovery_threshold`: thresholds are bytes. -/
theorem checksNeeded_le (c : DegradationConfig) :
    checksNeeded c ≤ c.recoveryThreshold.toNat + 258 := by
  have := c.halfOpenSuccessThreshold.toNat_lt
  unfold checksNeeded
  omega

/-! ## What a check does to one record -/

/-- What a check keeps of the manager. -/
structure Frame (m m' : DegradationManager) : Prop where
  config : m'.config = m.config
  algorithms : m'.algorithms = m.algorithms
  now : m.now ≤ m'.now
  records : ∀ alg, (m'.healthStates alg).isSome = (m.healthStates alg).isSome

variable {m m' : DegradationManager} {alg : AlgorithmType} {s : AlgorithmHealthState} {b : Bool}
  {t : HealthTurn} {turns : List HealthTurn}

theorem Frame.refl (m : DegradationManager) : Frame m m := ⟨rfl, rfl, Nat.le_refl _, fun _ => rfl⟩

theorem Frame.trans {m'' : DegradationManager} (h : Frame m m') (h' : Frame m' m'') :
    Frame m m'' where
  config := h'.config.trans h.config
  algorithms := h'.algorithms.trans h.algorithms
  now := Nat.le_trans h.now h'.now
  records alg := (h'.records alg).trans (h.records alg)

theorem frame_wait (nanos : ℕ) : Frame m (m.wait nanos) :=
  ⟨rfl, rfl, Nat.le_add_right _ _, fun _ => rfl⟩

theorem frame_refresh : Frame m m.refresh := ⟨rfl, rfl, Nat.le_refl _, fun _ => rfl⟩

theorem frame_setHealth {s' : AlgorithmHealthState} (hs : m.healthStates alg = some s) :
    Frame m (m.setHealth alg s') := by
  refine ⟨rfl, rfl, Nat.le_refl _, fun alg' => ?_⟩
  by_cases h : alg' = alg
  · subst h
    simp [setHealth, hs]
  · simp [setHealth, Function.update_of_ne h]

/-- A round for an algorithm without a record. -/
theorem checkOne_of_none (hs : m.healthStates t.alg = none) :
    checkOne (m, b) t = (m.wait t.delay, b) := by
  have hwait : (m.wait t.delay).healthStates t.alg = none := hs
  simp only [checkOne, hwait]

/-- A round writes the record of its own algorithm, and perhaps the cache. -/
theorem checkOne_of_some (hs : m.healthStates t.alg = some s) :
    ∃ state, (checkOne (m, b) t).1 =
      { (m.wait t.delay).setHealth t.alg
          (healthTurn m.config (m.now + t.delay) (m.healthCheck t) s).1 with
        currentState := state } := by
  have hwait : (m.wait t.delay).healthStates t.alg = some s := hs
  simp only [checkOne, hwait]
  split
  · exact ⟨_, rfl⟩
  · exact ⟨_, rfl⟩
  · exact ⟨_, rfl⟩

theorem frame_checkOne : Frame m (checkOne (m, b) t).1 := by
  cases hs : m.healthStates t.alg with
  | none =>
    rw [checkOne_of_none hs]
    exact frame_wait t.delay
  | some s =>
    obtain ⟨state, hround⟩ := checkOne_of_some (b := b) hs
    rw [hround]
    have hframe : Frame m ((m.wait t.delay).setHealth t.alg
        (healthTurn m.config (m.now + t.delay) (m.healthCheck t) s).1) :=
      (frame_wait t.delay).trans (frame_setHealth hs)
    exact ⟨hframe.config, hframe.algorithms, hframe.now, hframe.records⟩

theorem checkOne_record (hs : m.healthStates t.alg = some s) :
    (checkOne (m, b) t).1.healthStates t.alg =
      some (healthTurn m.config (m.now + t.delay) (m.healthCheck t) s).1 := by
  obtain ⟨state, hround⟩ := checkOne_of_some (b := b) hs
  rw [hround]
  exact Function.update_self _ _ _

theorem checkOne_record_of_ne (hne : t.alg ≠ alg) :
    (checkOne (m, b) t).1.healthStates alg = m.healthStates alg := by
  cases hs : m.healthStates t.alg with
  | none =>
    rw [checkOne_of_none hs]
    rfl
  | some s =>
    obtain ⟨state, hround⟩ := checkOne_of_some (b := b) hs
    rw [hround]
    exact Function.update_of_ne (Ne.symm hne) _ _

theorem checkOne_now : (checkOne (m, b) t).1.now = m.now + t.delay := by
  cases hs : m.healthStates t.alg with
  | none =>
    rw [checkOne_of_none hs]
    rfl
  | some s =>
    obtain ⟨state, hround⟩ := checkOne_of_some (b := b) hs
    rw [hround]
    rfl

theorem frame_foldl : Frame m (turns.foldl checkOne (m, b)).1 := by
  induction turns generalizing m b with
  | nil => exact .refl m
  | cons t turns ih => exact frame_checkOne.trans ih

theorem foldl_record_of_not_mem (h : alg ∉ turns.map HealthTurn.alg) :
    (turns.foldl checkOne (m, b)).1.healthStates alg = m.healthStates alg := by
  induction turns generalizing m b with
  | nil => rfl
  | cons t turns ih =>
    rw [List.map_cons, List.mem_cons, not_or] at h
    exact (ih h.2).trans (checkOne_record_of_ne (Ne.symm h.1))

/-- The rounds of a check take every record through one turn. -/
theorem foldl_record (hnodup : (turns.map HealthTurn.alg).Nodup) (ht : t ∈ turns)
    (hs : m.healthStates t.alg = some s) :
    ∃ now, m.now ≤ now ∧ now ≤ (turns.foldl checkOne (m, b)).1.now ∧
      (turns.foldl checkOne (m, b)).1.healthStates t.alg =
        some (healthTurn m.config now (m.healthCheck t) s).1 := by
  induction turns generalizing m b with
  | nil => exact (List.not_mem_nil ht).elim
  | cons t' turns ih =>
    rw [List.map_cons, List.nodup_cons] at hnodup
    have hframe : Frame m (checkOne (m, b) t').1 := frame_checkOne
    rcases List.mem_cons.mp ht with rfl | ht
    · have hlast : Frame (checkOne (m, b) t).1 (turns.foldl checkOne (checkOne (m, b) t)).1 :=
        frame_foldl
      refine ⟨m.now + t.delay, Nat.le_add_right _ _, ?_, ?_⟩
      · refine Nat.le_trans (Nat.le_of_eq ?_) hlast.now
        exact (checkOne_now).symm
      · exact (foldl_record_of_not_mem hnodup.1).trans (checkOne_record hs)
    · have hne : t'.alg ≠ t.alg := by
        intro he
        exact hnodup.1 (he ▸ List.mem_map_of_mem ht)
      obtain ⟨now, hle, hle', hrecord⟩ := ih hnodup.2 ht
        ((checkOne_record_of_ne (b := b) hne).trans hs)
      refine ⟨now, Nat.le_trans hframe.now hle, hle', hrecord.trans ?_⟩
      rw [hframe.config, healthCheck, healthCheck, hframe.algorithms]

theorem mem_algs (alg : AlgorithmType) :
    alg ∈ [AlgorithmType.segment, .snowflake, .uuidV7, .uuidV4] := by
  cases alg <;> decide

/-- **One check** takes the record of a registered algorithm whose health is good through one
turn, at some time of the check. -/
theorem checkAfter_record {c : Check} (hc : checkAfter m c = some m') (hreg : m.algorithms alg = true)
    (hhealthy : HealthyIn alg c) (hs : m.healthStates alg = some s) :
    Frame m m' ∧ ∃ now, m.now + c.wait ≤ now ∧ now ≤ m'.now ∧
      m'.healthStates alg = some (healthTurn m.config now .healthy s).1 := by
  unfold checkAfter checkAllHealth at hc
  split at hc
  · rename_i hvisits
    have hmem : alg ∈ c.turns.map HealthTurn.alg :=
      (hvisits.2 alg (mem_algs alg)).mpr (by simp [wait, hs])
    obtain ⟨t, ht, rfl⟩ := List.mem_map.mp hmem
    obtain ⟨now, hle, hle', hrecord⟩ := foldl_record (m := m.wait c.wait) (b := false) hvisits.1 ht hs
    have hanswer : (m.wait c.wait).healthCheck t = .healthy := by
      have hreg' : (m.wait c.wait).algorithms t.alg = true := hreg
      rw [healthCheck, if_pos hreg']
      exact hhealthy t ht rfl
    rw [hanswer] at hrecord
    have hframe : Frame m (c.turns.foldl checkOne (m.wait c.wait, false)).1 :=
      (frame_wait c.wait).trans frame_foldl
    cases hc
    split
    · exact ⟨hframe.trans frame_refresh, now, hle, hle', hrecord⟩
    · exact ⟨hframe, now, hle, hle', hrecord⟩
  · cases hc

/-! ## The three states of the breaker -/

variable {c : Check} {checks : List Check} {now k : ℕ} {health : HealthStatus}
  {config : DegradationConfig}

/-- A degraded record whose breaker is closed, or not in use, is left alone. -/
theorem healthTurn_stuck (hdegraded : s.isDegraded = true)
    (hstuck : ¬ (config.enableCircuitBreaker = true ∧ s.circuitBreakerState ≠ .closed)) :
    healthTurn config now health s = (s, .quiet) := by
  have hcheck : checkUndegraded config now health s = (s, .quiet) := if_pos hdegraded
  unfold healthTurn
  split
  · rename_i henabled
    have hclosed : s.circuitBreakerState = .closed := by
      by_contra hne
      exact hstuck ⟨henabled, hne⟩
    rw [hclosed]
    exact hcheck
  · exact hcheck

/-- A half open breaker with enough successes closes and takes the algorithm back. -/
theorem healthTurn_closes (henabled : config.enableCircuitBreaker = true)
    (hhalf : s.circuitBreakerState = .halfOpen) (hdegraded : s.isDegraded = true)
    (hle : config.halfOpenSuccessThreshold ≤ s.consecutiveSuccesses) :
    (healthTurn config now .healthy s).1 = s.closeCircuitBreaker.markRecovered := by
  have hd : s.closeCircuitBreaker.isDegraded = true := hdegraded
  unfold healthTurn
  simp [henabled, hhalf, hle, hd]

theorem healthTurn_counts (henabled : config.enableCircuitBreaker = true)
    (hhalf : s.circuitBreakerState = .halfOpen)
    (hlt : ¬ config.halfOpenSuccessThreshold ≤ s.consecutiveSuccesses) :
    (healthTurn config now .healthy s).1 = s.recordSuccess := by
  unfold healthTurn
  simp [henabled, hhalf, hlt]

/-- An open breaker stays open until its timeout and is half open afterwards. -/
theorem healthTurn_opened (henabled : config.enableCircuitBreaker = true)
    (hopened : s.circuitBreakerState = .opened) (hdegraded : s.isDegraded = true) :
    (healthTurn config now health s).1 =
      if s.isCircuitOpen config.timeoutNanos now then s else s.halfOpenCircuitBreaker := by
  have hd : s.halfOpenCircuitBreaker.isDegraded = true := hdegraded
  unfold healthTurn checkUndegraded
  rw [if_pos henabled, hopened]
  dsimp only
  rw [if_pos hd]
  split
  · rfl
  · rfl

/-- A success that the threshold still asked for. -/
theorem toNat_recordSuccess
    (hlt : ¬ config.halfOpenSuccessThreshold ≤ s.consecutiveSuccesses) :
    s.recordSuccess.consecutiveSuccesses.toNat = s.consecutiveSuccesses.toNat + 1 := by
  rw [UInt8.le_iff_toNat_le] at hlt
  have hbound := config.halfOpenSuccessThreshold.toNat_lt
  change (s.consecutiveSuccesses + 1).toNat = _
  rw [UInt8.toNat_add]
  exact Nat.mod_eq_of_lt (by change s.consecutiveSuccesses.toNat + 1 < 2 ^ 8; omega)

/-- The first check of a run. -/
theorem run_cons_isSome (h : (run checkAfter m (c :: checks)).isSome) :
    ∃ m₁, checkAfter m c = some m₁ ∧ (run checkAfter m₁ checks).isSome := by
  rw [run_cons] at h
  cases hc : checkAfter m c with
  | none => simp [hc] at h
  | some m₁ => exact ⟨m₁, rfl, by simpa [hc] using h⟩

/-- A run that gets there after one check gets there with the check before it. -/
theorem recovered_cons {m₁ : DegradationManager} {bound : ℕ} (hc : checkAfter m c = some m₁)
    (h : ∃ n ≤ bound, ∃ m', run checkAfter m₁ (checks.take n) = some m' ∧ Recovered m' alg) :
    ∃ n ≤ bound + 1, ∃ m', run checkAfter m ((c :: checks).take n) = some m' ∧
      Recovered m' alg := by
  obtain ⟨n, hn, m', hrun, hrec⟩ := h
  refine ⟨n + 1, Nat.succ_le_succ hn, m', ?_, hrec⟩
  rw [List.take_succ_cons, run_cons, hc]
  exact hrun

/-- **Half open.** Every check counts a success, and the one after the last closes. -/
theorem halfOpen_comesBack (henabled : m.config.enableCircuitBreaker = true)
    (hreg : m.algorithms alg = true) (hs : m.healthStates alg = some s)
    (hhalf : s.circuitBreakerState = .halfOpen) (hdegraded : s.isDegraded = true)
    (hk : m.config.halfOpenSuccessThreshold.toNat ≤ s.consecutiveSuccesses.toNat + k)
    (hlen : k + 1 ≤ checks.length) (hhealthy : ∀ c ∈ checks, HealthyIn alg c)
    (hrun : (run checkAfter m checks).isSome) :
    ∃ n ≤ k + 1, ∃ m', run checkAfter m (checks.take n) = some m' ∧ Recovered m' alg := by
  induction k generalizing m s checks with
  | zero =>
    cases checks with
    | nil => simp at hlen
    | cons c checks =>
      obtain ⟨m₁, hc, -⟩ := run_cons_isSome hrun
      obtain ⟨-, now, -, -, hrecord⟩ := checkAfter_record hc hreg (hhealthy c List.mem_cons_self) hs
      have hle : m.config.halfOpenSuccessThreshold ≤ s.consecutiveSuccesses :=
        UInt8.le_iff_toNat_le.mpr hk
      rw [healthTurn_closes henabled hhalf hdegraded hle] at hrecord
      exact recovered_cons hc ⟨0, Nat.le_refl _, m₁, rfl, _, hrecord, rfl, rfl⟩
  | succ k ih =>
    cases checks with
    | nil => simp at hlen
    | cons c checks =>
      obtain ⟨m₁, hc, hrest⟩ := run_cons_isSome hrun
      obtain ⟨hframe, now, -, -, hrecord⟩ :=
        checkAfter_record hc hreg (hhealthy c List.mem_cons_self) hs
      by_cases hle : m.config.halfOpenSuccessThreshold ≤ s.consecutiveSuccesses
      · rw [healthTurn_closes henabled hhalf hdegraded hle] at hrecord
        exact recovered_cons hc ⟨0, Nat.zero_le _, m₁, rfl, _, hrecord, rfl, rfl⟩
      · rw [healthTurn_counts henabled hhalf hle] at hrecord
        refine recovered_cons hc (ih ?_ ?_ hrecord hhalf hdegraded ?_ ?_ ?_ hrest)
        · rw [hframe.config]
          exact henabled
        · rw [hframe.algorithms]
          exact hreg
        · rw [hframe.config, toNat_recordSuccess hle]
          omega
        · simpa using hlen
        · exact fun c' hc' => hhealthy c' (List.mem_cons_of_mem _ hc')

/-- The breaker was opened in the past. -/
def OpenedBefore (m : DegradationManager) : Prop :=
  ∀ alg s openedAt, m.healthStates alg = some s → s.circuitBreakerOpenedAt = some openedAt →
    openedAt ≤ m.now

/-- **Open.** One check at most comes too early, and the one after it opens half way. -/
theorem opened_comesBack (henabled : m.config.enableCircuitBreaker = true)
    (hreg : m.algorithms alg = true) (hs : m.healthStates alg = some s)
    (hopened : s.circuitBreakerState = .opened) (hdegraded : s.isDegraded = true)
    (hpast : OpenedBefore m) : ComesBack m alg := by
  intro checks hlen hhealthy hwait hrun
  unfold checksNeeded at hlen ⊢
  obtain ⟨c, checks, rfl⟩ := List.exists_cons_of_length_pos (by omega : 0 < checks.length)
  obtain ⟨m₁, hc, hrest⟩ := run_cons_isSome hrun
  obtain ⟨hframe, now, hnow, hnow', hrecord⟩ :=
    checkAfter_record hc hreg (hhealthy c List.mem_cons_self) hs
  have hhealthy' : ∀ c' ∈ checks, HealthyIn alg c' :=
    fun c' hc' => hhealthy c' (List.mem_cons_of_mem _ hc')
  have henabled' : m₁.config.enableCircuitBreaker = true := by rw [hframe.config, henabled]
  have hreg' : m₁.algorithms alg = true := by rw [hframe.algorithms, hreg]
  rw [List.length_cons] at hlen
  rw [healthTurn_opened henabled hopened hdegraded] at hrecord
  split at hrecord
  · -- too early: the next check comes after the timeout
    obtain ⟨c', checks, rfl⟩ := List.exists_cons_of_length_pos (by omega : 0 < checks.length)
    obtain ⟨m₂, hc', hrest'⟩ := run_cons_isSome hrest
    obtain ⟨hframe', now', hlate, -, hrecord'⟩ :=
      checkAfter_record hc' hreg' (hhealthy' c' List.mem_cons_self) hrecord
    have htimeout : s.isCircuitOpen m₁.config.timeoutNanos now' = false := by
      unfold AlgorithmHealthState.isCircuitOpen
      rw [hopened]
      cases ht : s.circuitBreakerOpenedAt with
      | none => rfl
      | some openedAt =>
        have hbefore := hpast alg s openedAt hs ht
        have hlong := hwait c' List.mem_cons_self
        have hnow₁ := hframe.now
        rw [decide_eq_false_iff_not, hframe.config]
        omega
    rw [healthTurn_opened henabled' hopened hdegraded, if_neg (by simp [htimeout])] at hrecord'
    rw [List.length_cons] at hlen
    refine recovered_cons hc (recovered_cons hc' (halfOpen_comesBack ?_ ?_ hrecord' rfl hdegraded
      ?_ ?_ (fun c₁ hc₁ => hhealthy' c₁ (List.mem_cons_of_mem _ hc₁)) hrest'))
    · rw [hframe'.config, henabled']
    · rw [hframe'.algorithms, hreg']
    · rw [hframe'.config, hframe.config]
      exact Nat.le_add_left _ _
    · omega
  · obtain ⟨n, hn, hfound⟩ := recovered_cons hc
      (halfOpen_comesBack (k := m.config.halfOpenSuccessThreshold.toNat) henabled' hreg' hrecord rfl
        hdegraded (by rw [hframe.config]; exact Nat.le_add_left _ _) (by omega) hhealthy' hrest)
    exact ⟨n, by omega, hfound⟩

/-! ## Reachable states -/

theorem openedBefore_setHealth {s' : AlgorithmHealthState} (h : OpenedBefore m)
    (hs' : ∀ openedAt, s'.circuitBreakerOpenedAt = some openedAt → openedAt ≤ m.now) :
    OpenedBefore (m.setHealth alg s') := by
  intro alg' s₁ openedAt hs₁ ht
  by_cases hne : alg' = alg
  · subst hne
    simp only [setHealth, Function.update_self, Option.some.injEq] at hs₁
    exact hs' openedAt (hs₁ ▸ ht)
  · simp only [setHealth, Function.update_of_ne hne] at hs₁
    exact h alg' s₁ openedAt hs₁ ht

/-- A record that keeps its opening time. -/
theorem openedBefore_sameOpening {s' : AlgorithmHealthState} (h : OpenedBefore m)
    (hs : m.healthStates alg = some s)
    (hsame : s'.circuitBreakerOpenedAt = s.circuitBreakerOpenedAt) :
    OpenedBefore (m.setHealth alg s') :=
  openedBefore_setHealth h fun openedAt ht => h alg s openedAt hs (hsame ▸ ht)

theorem openedBefore_wait {nanos : ℕ} (h : OpenedBefore m) : OpenedBefore (m.wait nanos) :=
  fun alg s openedAt hs ht => Nat.le_trans (h alg s openedAt hs ht) (Nat.le_add_right _ _)

theorem checkUndegraded_openedAt (config : DegradationConfig) (now : ℕ) (health : HealthStatus)
    (s : AlgorithmHealthState) :
    (checkUndegraded config now health s).1.circuitBreakerOpenedAt = s.circuitBreakerOpenedAt ∨
      (checkUndegraded config now health s).1.circuitBreakerOpenedAt = some now := by
  unfold checkUndegraded
  split
  · exact Or.inl rfl
  · cases health with
    | healthy => exact Or.inl rfl
    | degraded reason => exact Or.inl rfl
    | unhealthy reason =>
      dsimp only
      split
      · cases config.enableCircuitBreaker with
        | true => exact Or.inr rfl
        | false => exact Or.inl rfl
      · exact Or.inl rfl

/-- A turn keeps the opening time, sets it to the time of the turn or takes it away. -/
theorem healthTurn_openedAt (config : DegradationConfig) (now : ℕ) (health : HealthStatus)
    (s : AlgorithmHealthState) :
    (healthTurn config now health s).1.circuitBreakerOpenedAt = s.circuitBreakerOpenedAt ∨
      (healthTurn config now health s).1.circuitBreakerOpenedAt = some now ∨
      (healthTurn config now health s).1.circuitBreakerOpenedAt = none := by
  have hcheck : ∀ s', s'.circuitBreakerOpenedAt = s.circuitBreakerOpenedAt →
      (checkUndegraded config now health s').1.circuitBreakerOpenedAt = s.circuitBreakerOpenedAt ∨
        (checkUndegraded config now health s').1.circuitBreakerOpenedAt = some now ∨
        (checkUndegraded config now health s').1.circuitBreakerOpenedAt = none := by
    intro s' hs'
    rcases checkUndegraded_openedAt config now health s' with h | h
    · exact Or.inl (h.trans hs')
    · exact Or.inr (Or.inl h)
  unfold healthTurn
  split
  · cases s.circuitBreakerState with
    | closed => exact hcheck s rfl
    | opened =>
      dsimp only
      split
      · exact Or.inl rfl
      · exact hcheck _ rfl
    | halfOpen =>
      cases health with
      | healthy =>
        dsimp only
        split
        · split <;> exact Or.inr (Or.inr rfl)
        · exact Or.inl rfl
      | degraded reason => exact Or.inr (Or.inl rfl)
      | unhealthy reason => exact Or.inr (Or.inl rfl)
  · exact hcheck s rfl

theorem openedBefore_checkOne (h : OpenedBefore m) : OpenedBefore (checkOne (m, b) t).1 := by
  have hwait : OpenedBefore (m.wait t.delay) := openedBefore_wait h
  cases hs : m.healthStates t.alg with
  | none =>
    rw [checkOne_of_none hs]
    exact hwait
  | some s =>
    obtain ⟨state, hround⟩ := checkOne_of_some (b := b) hs
    rw [hround]
    have hset : OpenedBefore ((m.wait t.delay).setHealth t.alg
        (healthTurn m.config (m.now + t.delay) (m.healthCheck t) s).1) := by
      apply openedBefore_setHealth hwait
      intro openedAt ht
      rcases healthTurn_openedAt m.config (m.now + t.delay) (m.healthCheck t) s with
        hkeep | hnow | hnone
      · exact hwait t.alg s openedAt hs (hkeep ▸ ht)
      · rw [hnow] at ht
        exact Nat.le_of_eq (Option.some.inj ht).symm
      · rw [hnone] at ht
        cases ht
    exact hset

theorem openedBefore_checkAllHealth (h : OpenedBefore m)
    (hc : m.checkAllHealth turns = some m') : OpenedBefore m' := by
  have hfold : ∀ (turns : List HealthTurn) (m : DegradationManager) (b : Bool), OpenedBefore m →
      OpenedBefore (turns.foldl checkOne (m, b)).1 := by
    intro turns
    induction turns with
    | nil => exact fun _ _ hm => hm
    | cons t turns ih => exact fun m b hm => ih _ _ (openedBefore_checkOne hm)
  unfold checkAllHealth at hc
  split at hc
  · cases hc
    split
    · exact hfold turns m false h
    · exact hfold turns m false h
  · cases hc

/-- **One operation.** -/
theorem openedBefore_step {op : DegradationOp} (h : OpenedBefore m) (hs : step m op = some m') :
    OpenedBefore m' := by
  cases op with
  | wait nanos =>
    cases hs
    exact openedBefore_wait h
  | registerAlgorithm alg =>
    cases hs
    exact openedBefore_setHealth h (by simp [AlgorithmHealthState.new])
  | setPrimaryAlgorithm alg =>
    cases hs
    exact h
  | setFallbackChain chain =>
    cases hs
    exact h
  | recordGenerationResult alg success =>
    cases hs
    unfold recordGenerationResult
    cases hr : m.healthStates alg with
    | none => exact h
    | some s =>
      dsimp only
      split
      · split
        · unfold attemptRecovery
          dsimp only
          split
          · exact openedBefore_sameOpening h hr rfl
          · exact openedBefore_sameOpening h hr rfl
        · exact openedBefore_sameOpening h hr rfl
      · split
        · exact openedBefore_sameOpening (m := m) h hr rfl
        · exact openedBefore_sameOpening h hr rfl
  | checkAllHealth turns => exact openedBefore_checkAllHealth h hs
  | manualDegrade alg =>
    cases hs
    unfold manualDegrade
    cases hr : m.healthStates alg with
    | none =>
      exact openedBefore_setHealth h
        (by simp [AlgorithmHealthState.new, AlgorithmHealthState.markDegraded])
    | some s => exact openedBefore_sameOpening h hr rfl
  | manualRecover alg =>
    cases hs
    unfold manualRecover
    cases hr : m.healthStates alg with
    | none => exact h
    | some s =>
      exact openedBefore_setHealth h
        (by simp [AlgorithmHealthState.reset, AlgorithmHealthState.new])

theorem openedBefore_of_reaches (h : Reaches step Free (new config) m) : OpenedBefore m :=
  h.invariant (I := OpenedBefore) (fun _ _ _ hs => nomatch hs) fun _ _ _ hi _ hs =>
    openedBefore_step hi hs

/-! ## The stuck states -/

/-- Good health for every record, with no time between the rounds. -/
def allHealthy (m : DegradationManager) : List HealthTurn :=
  ([AlgorithmType.segment, .snowflake, .uuidV7, .uuidV4].filter
    fun alg => (m.healthStates alg).isSome).map fun alg => ⟨alg, 0, .healthy⟩

theorem visits_allHealthy (m : DegradationManager) (nanos : ℕ) :
    (m.wait nanos).Visits m.allHealthy := by
  have halgs : m.allHealthy.map HealthTurn.alg =
      [AlgorithmType.segment, .snowflake, .uuidV7, .uuidV4].filter
        fun alg => (m.healthStates alg).isSome := by
    unfold allHealthy
    rw [List.map_map]
    exact List.map_id _
  constructor
  · rw [halgs]
    exact List.Nodup.filter _ (by decide)
  · intro alg halg
    rw [halgs, List.mem_filter]
    exact ⟨And.right, fun h => ⟨halg, h⟩⟩

theorem allHealthy_of_frame (h : Frame m m') : m'.allHealthy = m.allHealthy := by
  unfold allHealthy
  simp only [h.records]

theorem healthyIn_allHealthy (nanos : ℕ) : HealthyIn alg ⟨nanos, m.allHealthy⟩ := by
  intro t ht _
  obtain ⟨alg', -, rfl⟩ := List.mem_map.mp ht
  rfl

/-- **Stuck.** A degraded record whose breaker is closed, or not in use, stays as it is, in
any number of checks. -/
theorem run_stuck (hreg : m.algorithms alg = true) (hs : m.healthStates alg = some s)
    (hdegraded : s.isDegraded = true)
    (hstuck : ¬ (m.config.enableCircuitBreaker = true ∧ s.circuitBreakerState ≠ .closed))
    (hhealthy : ∀ c ∈ checks, HealthyIn alg c) (hrun : run checkAfter m checks = some m') :
    m'.healthStates alg = some s := by
  induction checks generalizing m with
  | nil =>
    cases hrun
    exact hs
  | cons c checks ih =>
    obtain ⟨m₁, hc, hrest⟩ := Option.bind_eq_some_iff.mp hrun
    obtain ⟨hframe, now, -, -, hrecord⟩ :=
      checkAfter_record hc hreg (hhealthy c List.mem_cons_self) hs
    rw [healthTurn_stuck hdegraded hstuck] at hrecord
    refine ih ?_ hrecord ?_ (fun c' hc' => hhealthy c' (List.mem_cons_of_mem _ hc')) hrest
    · rw [hframe.algorithms, hreg]
    · rw [hframe.config]
      exact hstuck

/-- Such checks can go on for ever. -/
theorem run_allHealthy_isSome (n nanos : ℕ) :
    (run checkAfter m (List.replicate n ⟨nanos, m.allHealthy⟩)).isSome := by
  induction n generalizing m with
  | zero => rfl
  | succ n ih =>
    rw [List.replicate_succ, run_cons]
    have hcheck : ∃ m₁, checkAfter m ⟨nanos, m.allHealthy⟩ = some m₁ ∧ Frame m m₁ := by
      unfold checkAfter checkAllHealth
      rw [if_pos (visits_allHealthy m nanos)]
      refine ⟨_, rfl, ?_⟩
      split
      · exact ((frame_wait nanos).trans frame_foldl).trans frame_refresh
      · exact (frame_wait nanos).trans frame_foldl
    obtain ⟨m₁, hc, hframe⟩ := hcheck
    rw [hc, Option.bind_some, ← allHealthy_of_frame hframe]
    exact ih

theorem not_comesBack (hreg : m.algorithms alg = true) (hs : m.healthStates alg = some s)
    (hdegraded : s.isDegraded = true)
    (hstuck : ¬ (m.config.enableCircuitBreaker = true ∧ s.circuitBreakerState ≠ .closed)) :
    ¬ ComesBack m alg := by
  intro h
  let checks : List Check :=
    List.replicate (checksNeeded m.config) ⟨m.config.timeoutNanos, m.allHealthy⟩
  have hall : ∀ c ∈ checks, c = ⟨m.config.timeoutNanos, m.allHealthy⟩ :=
    fun c hc => List.eq_of_mem_replicate hc
  obtain ⟨n, -, m', hrun, s', hs', hrecovered, -⟩ := h checks (by simp [checks])
    (fun c hc => hall c hc ▸ healthyIn_allHealthy _)
    (fun c hc => Nat.le_of_eq (congrArg Check.wait (hall c (List.mem_of_mem_tail hc))).symm)
    (run_allHealthy_isSome _ _)
  have hkept := run_stuck hreg hs hdegraded hstuck
    (fun c hc => hall c (List.mem_of_mem_take hc) ▸ healthyIn_allHealthy _) hrun
  rw [hs'] at hkept
  cases hkept
  rw [hdegraded] at hrecovered
  cases hrecovered

/-- **When a degraded algorithm comes back**: exactly when its breaker is in use and not
closed. -/
theorem comesBack_iff (h : Reaches step Free (new config) m) (hreg : m.algorithms alg = true)
    (hs : m.healthStates alg = some s) (hdegraded : s.isDegraded = true) :
    ComesBack m alg ↔ m.config.enableCircuitBreaker = true ∧ s.circuitBreakerState ≠ .closed := by
  constructor
  · intro hback
    by_contra hstuck
    exact not_comesBack hreg hs hdegraded hstuck hback
  · rintro ⟨henabled, hne⟩
    cases hb : s.circuitBreakerState with
    | closed => exact absurd hb hne
    | opened =>
      exact opened_comesBack henabled hreg hs hb hdegraded (openedBefore_of_reaches h)
    | halfOpen =>
      intro checks hlen hhealthy _ hrun
      unfold checksNeeded at hlen ⊢
      obtain ⟨n, hn, hfound⟩ :=
        halfOpen_comesBack (k := m.config.halfOpenSuccessThreshold.toNat) henabled hreg hs hb
          hdegraded (Nat.le_add_left _ _) (by omega) hhealthy hrun
      exact ⟨n, by omega, hfound⟩

/-- Five failed health checks open the breaker, and the algorithm comes back. -/
theorem comesBack_after_unhealthy : ∃ m, Reaches step Free (new .default) m ∧
    m.degraded .segment = true ∧ ComesBack m .segment := by
  have hrun : ((run step (new .default) (.registerAlgorithm .segment ::
      List.replicate 5 (.checkAllHealth [⟨.segment, 0, .unhealthy "down"⟩]))).map fun m =>
      (m.algorithms .segment, m.config.enableCircuitBreaker,
        (m.healthStates .segment).map fun s => (s.isDegraded, s.circuitBreakerState))) =
      some (true, true, some (true, .opened)) := by
    decide
  obtain ⟨m, hm, hstate⟩ := Option.map_eq_some_iff.mp hrun
  simp only [Prod.mk.injEq] at hstate
  obtain ⟨hreg, henabled, hrecord⟩ := hstate
  obtain ⟨s, hs, hflags⟩ := Option.map_eq_some_iff.mp hrecord
  obtain ⟨hdegraded, hopened⟩ := Prod.mk.inj hflags
  refine ⟨m, reaches_of_run hm, by rw [degraded, hs]; exact hdegraded, ?_⟩
  exact (comesBack_iff (reaches_of_run hm) hreg hs hdegraded).mpr
    ⟨henabled, by rw [hopened]; exact nofun⟩

/-- Five failed generations degrade an algorithm and leave its breaker closed: no health check
takes it back. -/
theorem failed_generations_stuck : ∃ m, run step (new .default) (.registerAlgorithm .segment ::
      List.replicate 5 (.recordGenerationResult .segment false)) = some m ∧
    Reaches step Free (new .default) m ∧ m.algorithms .segment = true ∧
      m.degraded .segment = true ∧ ¬ ComesBack m .segment := by
  have hrun : ((run step (new .default) (.registerAlgorithm .segment ::
      List.replicate 5 (.recordGenerationResult .segment false))).map fun m =>
      (m.algorithms .segment, (m.healthStates .segment).map fun s =>
        (s.isDegraded, s.circuitBreakerState))) = some (true, some (true, .closed)) := by
    decide
  obtain ⟨m, hm, hstate⟩ := Option.map_eq_some_iff.mp hrun
  obtain ⟨hreg, hrecord⟩ := Prod.mk.inj hstate
  obtain ⟨s, hs, hflags⟩ := Option.map_eq_some_iff.mp hrecord
  obtain ⟨hdegraded, hclosed⟩ := Prod.mk.inj hflags
  have hflag : m.degraded .segment = true := by
    rw [degraded, hs]
    exact hdegraded
  exact ⟨m, hm, reaches_of_run hm, hreg, hflag,
    not_comesBack hreg hs hdegraded fun h => h.2 hclosed⟩

end DegradationManager

end NebulaId
