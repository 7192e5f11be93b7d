import NebulaId.Algorithm.CircuitBreaker

/-!
# An open breaker lets nothing through (`core/algorithm/circuit_breaker.rs`)

A failure swaps the state to open and stores the deadline of the next attempt afterwards. In between
another call may still read the deadline of an earlier failure.

* `timely_step`: no pending deadline is later than a failure of this moment would set.
* `barred_step`: once the deadline is stored, and no other call is past an earlier one, neither
  successes nor further failures open the way before it.
* `nothing_admitted`: so until the deadline no request is let through.
* `stale_deadline_admits`: a request that is past the deadline of an earlier failure gets through.
-/

namespace NebulaId

open Machine

/-- `timeout_ms` in nanoseconds. -/
def CircuitBreakerConfig.timeoutNanos (c : CircuitBreakerConfig) : ℕ := c.timeoutMs.toNat * 1000000

namespace CircuitBreaker

variable {c : CircuitBreakerConfig} {m m' : CircuitBreaker} {p p' : Call} {i : ℕ} {op : BreakerOp}
  {w w' w₁ w₂ : World CircuitBreaker Call} {act : ℕ × BreakerOp} {n d : UInt64}

theorem toNat_instantToNanos (t : ℕ) : (instantToNanos t).toNat = max (t % 2 ^ 64) 1 := by
  change (if UInt64.ofNat t ≤ 1 then (1 : UInt64) else UInt64.ofNat t).toNat = _
  have hof : (UInt64.ofNat t).toNat = t % 2 ^ 64 := UInt64.toNat_ofNat'
  have hone : (1 : UInt64).toNat = 1 := rfl
  split
  · rename_i hle
    rw [UInt64.le_iff_toNat_le] at hle
    omega
  · rename_i hlt
    rw [UInt64.le_iff_toNat_le] at hlt
    omega

/-! ## Deadlines that are on their way -/

/-- The deadline that the call is about to open the breaker with, or to store. -/
def Call.pending : Call → Option UInt64
  | .toOpen n | .storeNextAttempt n => some n
  | _ => none

/-- No pending deadline is later than one of this moment. -/
def Timely (c : CircuitBreakerConfig) (w : World CircuitBreaker Call) : Prop :=
  ∀ j n, (w.threads j).pending = some n → n.toNat ≤ max (w.shared.now + c.timeoutNanos) 1

theorem toNat_nextAttempt_le (c : CircuitBreakerConfig) (now : ℕ) :
    (nextAttempt c now).toNat ≤ max (now + c.timeoutNanos) 1 := by
  unfold nextAttempt CircuitBreakerConfig.timeoutNanos
  rw [toNat_instantToNanos]
  have := Nat.mod_le (now + c.timeoutMs.toNat * 1000000) (2 ^ 64)
  omega

@[simp] theorem now_log (m : CircuitBreaker) (e : Event) : (m.log e).now = m.now := rfl

/-- A call that goes on keeps its deadline, or takes a new one from the clock. -/
theorem proceed_pending (h : proceed c m p = some (m', p')) :
    m'.now = m.now ∧ ∀ n, p'.pending = some n → p.pending = some n ∨ n = nextAttempt c m.now := by
  cases p with
  | idle => cases h
  | running admitted => cases h
  | openClock =>
    cases h
    refine ⟨rfl, fun n hn => Or.inr ?_⟩
    cases hn
    rfl
  | toOpen n =>
    cases h
    exact ⟨rfl, fun n hn => Or.inl hn⟩
  | loadState =>
    cases h
    cases m.state <;> simp [Call.pending, admission]
  | loadNextAttempt =>
    cases h
    split <;> simp [Call.pending]
  | readClock n =>
    cases h
    split <;> simp [Call.pending]
  | loadStateSuccess d =>
    cases h
    split <;> simp [Call.pending]
  | loadWindowStart now failures =>
    cases h
    split <;> simp [Call.pending]
  | loadStateFailure shouldOpen =>
    cases h
    split <;> simp [Call.pending]
  | toHalfOpen =>
    unfold proceed at h
    dsimp only at h
    split at h <;> cases h <;> simp [Call.pending, admission]
  | toClosed d =>
    unfold proceed at h
    dsimp only at h
    split at h <;> cases h <;> simp [Call.pending]
  | _ =>
    cases h
    simp [Call.pending]

theorem step_pending (h : breakerStep c i op m p = some (m', p')) :
    m.now ≤ m'.now ∧ ∀ n, p'.pending = some n → p.pending = some n ∨ n = nextAttempt c m.now := by
  cases op with
  | tick nanos =>
    cases h
    exact ⟨Nat.le_add_right _ _, fun n hn => Or.inl hn⟩
  | proceed =>
    obtain ⟨hnow, hpending⟩ := proceed_pending h
    exact ⟨hnow.ge, hpending⟩
  | finish ok =>
    cases p <;> cases h
    cases ok <;> simp [Call.pending]
  | _ =>
    cases p <;> cases h
    simp [Call.pending]

theorem timely_start (now : ℕ) : Timely c (start now) := by
  intro j n hn
  cases hn

theorem timely_step (h : Timely c w) (hs : World.step (breakerStep c) w act = some w') :
    Timely c w' := by
  obtain ⟨i, op⟩ := act
  obtain ⟨m, p, hstep, rfl⟩ := World.step_eq_some.mp hs
  obtain ⟨hnow, hpending⟩ := step_pending hstep
  have hold : ∀ n : UInt64, n.toNat ≤ max (w.shared.now + c.timeoutNanos) 1 →
      n.toNat ≤ max (m.now + c.timeoutNanos) 1 := by
    intro n hn
    omega
  refine World.threads_forall (P := fun p : Call => ∀ n : UInt64, p.pending = some n →
    n.toNat ≤ max (m.now + c.timeoutNanos) 1) ?_ fun j n hn => hold n (h j n hn)
  intro n hn
  apply hold
  rcases hpending n hn with hn | rfl
  · exact h i n hn
  · exact toNat_nextAttempt_le c _

/-! ## Before the deadline -/

/-- The call can open the way only after the deadline, and it is no reset. -/
def Call.Held (d : UInt64) : Call → Prop
  | .toHalfOpen | .resetState => False
  | .readClock n | .toOpen n | .storeNextAttempt n => d ≤ n
  | _ => True

/-- The breaker is open, its deadline is gone or not before `d`, and `d` is still to come. -/
structure Barred (c : CircuitBreakerConfig) (d : UInt64) (m : CircuitBreaker) : Prop where
  opened : m.state = .opened
  deadline : m.nextAttemptAt = 0 ∨ d ≤ m.nextAttemptAt
  early : m.now < d.toNat
  timely : d.toNat ≤ max (m.now + c.timeoutNanos) 1
  fits : m.now + c.timeoutNanos < 2 ^ 64

/-- Nobody resets the breaker, and the clock does not reach the deadline. -/
def Early (c : CircuitBreakerConfig) (d : UInt64) (w : World CircuitBreaker Call)
    (act : ℕ × BreakerOp) : Prop :=
  match act.2 with
  | .reset => False
  | .tick nanos =>
    w.shared.now + nanos < d.toNat ∧ w.shared.now + nanos + c.timeoutNanos < 2 ^ 64
  | _ => True

theorem Barred.le_nextAttempt (h : Barred c d m) : d ≤ nextAttempt c m.now := by
  have htimely := h.timely
  have hfits := h.fits
  unfold CircuitBreakerConfig.timeoutNanos at htimely hfits
  rw [UInt64.le_iff_toNat_le]
  unfold nextAttempt
  rw [toNat_instantToNanos, Nat.mod_eq_of_lt hfits]
  exact htimely

theorem Barred.congr (h : Barred c d m) (hstate : m'.state = m.state)
    (hnext : m'.nextAttemptAt = m.nextAttemptAt ∨ m'.nextAttemptAt = 0 ∨ d ≤ m'.nextAttemptAt)
    (hnow : m'.now = m.now) : Barred c d m' where
  opened := hstate.trans h.opened
  deadline := by
    rcases hnext with he | hnext
    · rw [he]
      exact h.deadline
    · exact hnext
  early := hnow ▸ h.early
  timely := hnow ▸ h.timely
  fits := hnow ▸ h.fits

/-- A held call that goes on leaves the breaker barred and is not let through. -/
theorem proceed_barred (h : Barred c d m) (hp : p.Held d) (hs : proceed c m p = some (m', p')) :
    Barred c d m' ∧ p'.Held d ∧ ∀ admitted, p' ≠ .running admitted := by
  cases p with
  | idle => cases hs
  | running admitted => cases hs
  | toHalfOpen => exact hp.elim
  | resetState => exact hp.elim
  | loadState =>
    cases hs
    rw [h.opened]
    exact ⟨h, trivial, by simp⟩
  | loadNextAttempt =>
    cases hs
    split
    · exact ⟨h, trivial, by simp⟩
    · rename_i hne
      exact ⟨h, h.deadline.resolve_left hne, by simp⟩
  | readClock n =>
    cases hs
    have hlt : ¬ n.toNat ≤ m.now := by
      have hle := UInt64.le_iff_toNat_le.mp hp
      have := h.early
      omega
    rw [if_neg hlt]
    exact ⟨h, trivial, by simp⟩
  | toClosed decision =>
    unfold proceed at hs
    rw [h.opened] at hs
    cases hs
    exact ⟨h, trivial, by simp⟩
  | openClock =>
    cases hs
    exact ⟨h, h.le_nextAttempt, by simp⟩
  | toOpen n =>
    cases hs
    exact ⟨h.congr h.opened.symm (Or.inl rfl) rfl, hp, by simp⟩
  | storeNextAttempt n =>
    cases hs
    exact ⟨h.congr rfl (Or.inr (Or.inr hp)) rfl, trivial, by simp⟩
  | closedNextAttempt =>
    cases hs
    exact ⟨h.congr rfl (Or.inr (Or.inl rfl)) rfl, trivial, by simp⟩
  | resetNextAttempt =>
    cases hs
    exact ⟨h.congr rfl (Or.inr (Or.inl rfl)) rfl, trivial, by simp⟩
  | loadStateSuccess decision =>
    cases hs
    rw [h.opened, if_neg (by simp)]
    exact ⟨h, trivial, by simp⟩
  | loadWindowStart now failures =>
    cases hs
    split <;> exact ⟨h, trivial, by simp⟩
  | loadStateFailure shouldOpen =>
    cases hs
    split <;> exact ⟨h, trivial, by simp⟩
  | _ =>
    cases hs
    exact ⟨h.congr rfl (Or.inl rfl) rfl, trivial, by simp⟩

/-- The breaker is barred and every call held. -/
structure Shut (c : CircuitBreakerConfig) (d : UInt64) (w : World CircuitBreaker Call) : Prop where
  barred : Barred c d w.shared
  held : ∀ i, (w.threads i).Held d

/-- **One step** of any call before the deadline. -/
theorem barred_step (h : Shut c d w) (hearly : Early c d w act)
    (hs : World.step (breakerStep c) w act = some w') :
    Shut c d w' ∧ ∀ j admitted, w'.threads j = .running admitted →
      w.threads j = .running admitted := by
  obtain ⟨i, op⟩ := act
  obtain ⟨m, p, hstep, rfl⟩ := World.step_eq_some.mp hs
  have hmove : Barred c d m ∧ p.Held d ∧ ∀ admitted, p = .running admitted →
      w.threads i = .running admitted := by
    cases op with
    | tick nanos =>
      cases hstep
      refine ⟨⟨h.barred.opened, h.barred.deadline, hearly.1, ?_, hearly.2⟩, h.held i, fun _ => id⟩
      have htimely := h.barred.timely
      dsimp only
      omega
    | reset => exact hearly.elim
    | execute =>
      cases hp : w.threads i <;> rw [hp] at hstep <;> cases hstep
      exact ⟨h.barred, trivial, by simp⟩
    | finish ok =>
      cases hp : w.threads i <;> rw [hp] at hstep <;> cases hstep
      cases ok <;> exact ⟨h.barred, trivial, by simp⟩
    | proceed =>
      obtain ⟨hbarred, hheld, hnot⟩ := proceed_barred h.barred (h.held i) hstep
      exact ⟨hbarred, hheld, fun admitted hp => absurd hp (hnot admitted)⟩
  obtain ⟨hbarred, hheld, hrunning⟩ := hmove
  refine ⟨⟨hbarred, World.threads_forall hheld h.held⟩, fun j admitted hj => ?_⟩
  rcases World.threads_moved hj with ⟨rfl, hp⟩ | ⟨-, hj⟩
  · exact hrunning admitted hp
  · exact hj

/-- **Until the deadline.** A failure stores the deadline `n` in an open breaker while no other
call is past an earlier one. In every run from there that neither resets the breaker nor reaches
the deadline, the breaker stays open and only requests that were under way are running. -/
theorem nothing_admitted {now : ℕ}
    (hreach : Reaches (World.step (breakerStep c)) Free (start now) w)
    (hi : w.threads i = .storeNextAttempt n) (hopen : w.shared.state = .opened)
    (hothers : ∀ j, j ≠ i → (w.threads j).Held n) (hnow : w.shared.now < n.toNat)
    (hfits : w.shared.now + c.timeoutNanos < 2 ^ 64)
    (hstore : World.step (breakerStep c) w (i, .proceed) = some w₁)
    (hrun : Reaches (World.step (breakerStep c)) (Early c n) w₁ w₂) :
    w₂.shared.state = .opened ∧
      ∀ j admitted, w₂.threads j = .running admitted → w₁.threads j = .running admitted := by
  have htimely : Timely c w := hreach.invariant (timely_start now) fun _ _ _ h _ hs =>
    timely_step h hs
  have hpending : n.toNat ≤ max (w.shared.now + c.timeoutNanos) 1 :=
    htimely i n (by rw [hi]; rfl)
  obtain ⟨m, p, hstep, rfl⟩ := World.step_eq_some.mp hstore
  rw [hi] at hstep
  cases hstep
  have hself : n ≤ n := UInt64.le_iff_toNat_le.mpr le_rfl
  have hshut : Shut c n
      ⟨{ w.shared with nextAttemptAt := n }, Function.update w.threads i .idle⟩ := by
    refine ⟨⟨hopen, Or.inr hself, hnow, hpending, hfits⟩, fun j => ?_⟩
    dsimp only
    by_cases hj : j = i
    · subst hj
      rw [Function.update_self]
      trivial
    · rw [Function.update_of_ne hj]
      exact hothers j hj
  have hinv := hrun.invariant
    (I := fun v => Shut c n v ∧ ∀ j admitted, v.threads j = .running admitted →
      Function.update w.threads i .idle j = .running admitted)
    ⟨hshut, fun _ _ h => h⟩ fun w act w' h he hs => by
      obtain ⟨hshut', hback⟩ := barred_step h.1 he hs
      exact ⟨hshut', fun j admitted hj => h.2 j admitted (hback j admitted hj)⟩
  exact ⟨hinv.1.barred.opened, hinv.2⟩

/-- The first failure of a new breaker keeps every request out for 30 seconds. -/
theorem nothing_admitted_failure : ∃ w₁,
    Reaches (World.step (breakerStep .default)) Free (start 0) w₁ ∧ ∀ w₂,
      Reaches (World.step (breakerStep .default)) (Early .default 30000000000) w₁ w₂ →
        w₂.shared.state = .opened ∧ ∀ j admitted, w₂.threads j ≠ .running admitted := by
  let ops : List BreakerOp := [.execute, .proceed, .finish false] ++ List.replicate 11 .proceed
  let m : CircuitBreaker := ⟨.opened, 1, 0, 1, 1, 1, 0, 0, [.failed]⟩
  have hrun : World.runThread (breakerStep .default) (fun _ => True) 0 (start 0).shared .idle ops =
      some (m, .storeNextAttempt 30000000000) := rfl
  have hreach : Reaches (World.step (breakerStep .default)) Free
      ⟨(start 0).shared, Function.update (fun _ => .idle) 0 .idle⟩
      ⟨m, Function.update (fun _ => .idle) 0 (.storeNextAttempt 30000000000)⟩ :=
    World.reaches_runThread (fun _ _ _ _ => trivial) hrun
  rw [Function.update_eq_self] at hreach
  have hstep : breakerStep .default 0 .proceed m (.storeNextAttempt 30000000000) =
      some ({ m with nextAttemptAt := 30000000000 }, .idle) := rfl
  have hstore : World.step (breakerStep .default)
      ⟨m, Function.update (fun _ => .idle) 0 (.storeNextAttempt 30000000000)⟩ (0, .proceed) =
        some ⟨{ m with nextAttemptAt := 30000000000 }, Function.update (fun _ => .idle) 0 .idle⟩ :=
    World.step_update hstep
  refine ⟨_, hreach.trans (Reaches.single trivial hstore), fun w₂ hearly => ?_⟩
  obtain ⟨hopen, hrunning⟩ := nothing_admitted hreach rfl rfl
    (fun j hj => by simp [Function.update_of_ne hj, Call.Held]) (by decide) (by decide) hstore
    hearly
  refine ⟨hopen, fun j admitted hj => ?_⟩
  have hidle := hrunning j admitted hj
  rw [Function.update_eq_self] at hidle
  cases hidle

/-- The deadline that a failure which has opened the breaker is about to store. -/
def Call.storing : Call → Option UInt64
  | .storeNextAttempt n => some n
  | _ => none

def Call.isRunning : Call → Bool
  | .running _ => true
  | _ => false

/-- Two requests are under way when the first fails. 30 seconds later a third is past its
deadline when the second fails, and it is let through although the deadline is now another 30
seconds away. -/
theorem stale_deadline_admits : ∃ w w₁ w₂,
    Reaches (World.step (breakerStep .default)) Free (start 0) w ∧
      (w.threads 1).storing = some 60000000000 ∧ w.shared.state = .opened ∧
      w.shared.now = 30000000000 ∧
      World.step (breakerStep .default) w (1, .proceed) = some w₁ ∧
      (w₁.threads 2).isRunning = false ∧
      World.step (breakerStep .default) w₁ (2, .proceed) = some w₂ ∧
      (w₂.threads 2).isRunning = true := by
  let proceed (i n : ℕ) : List (ℕ × BreakerOp) := List.replicate n (i, .proceed)
  let ops : List (List (ℕ × BreakerOp)) :=
    [[(0, .execute)], proceed 0 1, [(1, .execute)], proceed 1 1,
      [(0, .finish false)], proceed 0 12, [(0, .tick 30000000000)],
      [(2, .execute)], proceed 2 3, [(1, .finish false)], proceed 1 11]
  have hrun : ((run (World.step (breakerStep .default)) (start 0) ops.flatten).bind fun w =>
      (World.step (breakerStep .default) w (1, .proceed)).bind fun w₁ =>
        (World.step (breakerStep .default) w₁ (2, .proceed)).map fun w₂ =>
          ((w.threads 1).storing, w.shared.state, w.shared.now, (w₁.threads 2).isRunning,
            (w₂.threads 2).isRunning)) =
      some (some 60000000000, .opened, 30000000000, false, true) := by
    decide +kernel
  obtain ⟨w, hw, hrun⟩ := Option.bind_eq_some_iff.mp hrun
  obtain ⟨w₁, hw₁, hrun⟩ := Option.bind_eq_some_iff.mp hrun
  obtain ⟨w₂, hw₂, hstate⟩ := Option.map_eq_some_iff.mp hrun
  simp only [Prod.mk.injEq] at hstate
  obtain ⟨hstoring, hopen, hnow, hasking, hrunning⟩ := hstate
  exact ⟨w, w₁, w₂, reaches_of_run hw, hstoring, hopen, hnow, hw₁, hasking, hw₂, hrunning⟩

end CircuitBreaker

end NebulaId
