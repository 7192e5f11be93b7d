import NebulaId.Machine.Run
import NebulaId.Monitoring.Alerts

/-!
# The loop that evaluates the alerts (`core/monitoring/core.rs`)

`AlertManager::start` waits for the next tick of an interval or for the shutdown channel, whichever
is ready, and ends with the channel. `new` makes the channel and keeps its receiving half only.
Times are in milliseconds; `select!` asks its two branches in either order.

* `recv_of_unsent`: without a sender the channel is always ready.
* `evaluates_until_shutdown`: the loop goes on exactly as long as every round finds a tick that is
  due and asks for it first.
* `ends_within_hour`: a loop that ends before the second round, and nobody told it to.
-/

namespace NebulaId

open Machine

/-- `mpsc::channel(1)`, with what is in it. -/
structure ShutdownChannel where
  senders : ℕ
  messages : ℕ
  closed : Bool

namespace ShutdownChannel

def channel : ShutdownChannel := ⟨1, 0, false⟩

def dropSender (c : ShutdownChannel) : ShutdownChannel := { c with senders := c.senders - 1 }

def close (c : ShutdownChannel) : ShutdownChannel := { c with closed := true }

/-- `recv`, once it is ready: a message has come, or none can come any more. -/
def recv (c : ShutdownChannel) : Option ShutdownChannel :=
  if 0 < c.messages then some { c with messages := c.messages - 1 }
  else if c.senders = 0 ∨ c.closed = true then some c
  else none

end ShutdownChannel

/-- Where `start` is; the interval has a period and the time of its next tick. -/
inductive StartTask where
  | idle
  | evaluating (period deadline : ℕ)
  | panicked
  | returned

structure EvaluationLoop where
  manager : AlertManager
  enabled : Bool
  evaluationIntervalMs : UInt64
  running : Bool
  shutdownRx : ShutdownChannel
  task : StartTask
  /-- `shutdown` has been called. -/
  stopped : Bool

inductive LoopAct where
  | start (now : ℕ)
  | select (now : ℕ) (tickFirst : Bool) (round : List Evaluation)
  | shutdown

inductive SelectBranch where
  | tick
  | message (shutdownRx : ShutdownChannel)

/-- The first branch that is ready, if any. -/
def selectBranch (tickFirst tickReady : Bool) (shutdownRx : ShutdownChannel) :
    Option SelectBranch :=
  let tick := if tickReady then some .tick else none
  let message := shutdownRx.recv.map .message
  if tickFirst then tick.or message else message.or tick

namespace EvaluationLoop

def new (globalLabels : Labels) (rules : List AlertRule) (enabled : Bool)
    (evaluationIntervalMs : UInt64) : EvaluationLoop where
  manager := .new globalLabels rules
  enabled := enabled
  evaluationIntervalMs := evaluationIntervalMs
  running := false
  -- `let (_, shutdown_rx) = mpsc::channel(1)`
  shutdownRx := ShutdownChannel.channel.dropSender
  task := .idle
  stopped := false

/-- `start` up to the loop. An interval without a length panics; the first tick is due at once. -/
def start (w : EvaluationLoop) (now : ℕ) : EvaluationLoop :=
  if w.running then { w with task := .returned }
  else { w with
    running := true
    task := if w.evaluationIntervalMs = 0 then .panicked
      else .evaluating w.evaluationIntervalMs.toNat now }

def shutdown (w : EvaluationLoop) : EvaluationLoop :=
  if w.running then
    { w with running := false, shutdownRx := w.shutdownRx.close, stopped := true }
  else { w with stopped := true }

def step (w : EvaluationLoop) : LoopAct → Option EvaluationLoop
  | .start now => match w.task with
    | .idle | .returned => some (w.start now)
    | _ => none
  | .select now tickFirst round => match w.task with
    | .evaluating period deadline =>
      match selectBranch tickFirst (decide (deadline ≤ now)) w.shutdownRx with
      | some .tick => some { w with
          manager := w.manager.evaluateAllRules w.enabled round
          task := .evaluating period (deadline + period) }
      | some (.message shutdownRx) => some { w with shutdownRx, task := .returned }
      | none => some w
    | _ => none
  | .shutdown => some w.shutdown

/-- `start` has not returned before `shutdown` was called. -/
def Obeys (w : EvaluationLoop) : Prop := w.task = .returned → w.stopped = true

/-- Until it is told to stop, the loop finds a tick that is due and asks for it first. -/
def Ticks (w : EvaluationLoop) : LoopAct → Prop
  | .select now tickFirst _ => ∀ period deadline, w.task = .evaluating period deadline →
      w.stopped = true ∨ (deadline ≤ now ∧ tickFirst = true)
  | _ => True

variable {w w' : EvaluationLoop} {act : LoopAct} {globalLabels : Labels} {rules : List AlertRule}
  {enabled : Bool} {evaluationIntervalMs : UInt64}

/-- Nobody can send. -/
theorem recv_of_unsent (h : w.shutdownRx.senders = 0) : ∃ c, w.shutdownRx.recv = some c := by
  unfold ShutdownChannel.recv
  split
  · exact ⟨_, rfl⟩
  · rw [if_pos (Or.inl h)]
    exact ⟨_, rfl⟩

theorem senders_of_recv {c c' : ShutdownChannel} (h : c.recv = some c') :
    c'.senders = c.senders := by
  unfold ShutdownChannel.recv at h
  split at h
  · cases h
    rfl
  · split at h
    · cases h
      rfl
    · cases h

theorem selectBranch_tick (c : ShutdownChannel) : selectBranch true true c = some .tick := rfl

theorem recv_of_message {tickFirst tickReady : Bool} {c c' : ShutdownChannel}
    (h : selectBranch tickFirst tickReady c = some (.message c')) : c.recv = some c' := by
  unfold selectBranch at h
  cases hrecv : c.recv with
  | none => cases tickFirst <;> cases tickReady <;> simp [hrecv] at h
  | some next => cases tickFirst <;> cases tickReady <;> simp [hrecv] at h <;> rw [h]

/-- A channel that is ready is taken unless a tick is due and asked for first. -/
theorem selectBranch_message {tickFirst tickReady : Bool} {c c' : ShutdownChannel}
    (hrecv : c.recv = some c') (h : ¬ (tickReady = true ∧ tickFirst = true)) :
    selectBranch tickFirst tickReady c = some (.message c') := by
  unfold selectBranch
  rw [hrecv]
  cases tickFirst with
  | false => rfl
  | true =>
    cases tickReady with
    | false => rfl
    | true => exact absurd ⟨rfl, rfl⟩ h

/-- No sender is left, and a manager that was never started is not running. -/
structure Unsent (w : EvaluationLoop) : Prop where
  senders : w.shutdownRx.senders = 0
  idle : w.task = .idle → w.running = false

theorem unsent_new : Unsent (new globalLabels rules enabled evaluationIntervalMs) :=
  ⟨rfl, fun _ => rfl⟩

/-- A start leaves the channel alone and is never idle again. -/
theorem unsent_start (h : Unsent w) (now : ℕ) : Unsent (w.start now) := by
  unfold start
  split
  · exact ⟨h.senders, fun hidle => by cases hidle⟩
  · refine ⟨h.senders, fun hidle => ?_⟩
    dsimp only at hidle
    split at hidle <;> cases hidle

theorem unsent_step (h : Unsent w) (hs : step w act = some w') : Unsent w' := by
  cases act with
  | start now =>
    simp only [step] at hs
    split at hs
    · cases hs
      exact unsent_start h now
    · cases hs
      exact unsent_start h now
    · cases hs
  | shutdown =>
    cases hs
    unfold shutdown
    split
    · exact ⟨h.senders, fun _ => rfl⟩
    · exact ⟨h.senders, h.idle⟩
  | select now tickFirst round =>
    simp only [step] at hs
    split at hs
    · split at hs
      · cases hs
        exact ⟨h.senders, fun hidle => by cases hidle⟩
      · next hbranch =>
        cases hs
        exact ⟨(senders_of_recv (recv_of_message hbranch)).trans h.senders,
          fun hidle => by cases hidle⟩
      · cases hs
        exact h
    · cases hs

/-- With the guard, whoever comes out of the loop was told to. -/
theorem obeys_step (h : Unsent w) (hobeys : Obeys w) (hticks : Ticks w act)
    (hs : step w act = some w') : Obeys w' := by
  cases act with
  | start now =>
    simp only [step] at hs
    split at hs
    · next hidle =>
      cases hs
      intro hreturned
      rw [start, if_neg (by rw [h.idle hidle]; decide)] at hreturned
      dsimp only at hreturned
      split at hreturned <;> cases hreturned
    · next hreturned =>
      cases hs
      intro _
      unfold start
      split <;> exact hobeys hreturned
    · cases hs
  | shutdown =>
    cases hs
    intro _
    unfold shutdown
    split <;> rfl
  | select now tickFirst round =>
    simp only [step] at hs
    split at hs
    · next period deadline htask =>
      rcases hticks period deadline htask with hstopped | ⟨hdue, rfl⟩
      · split at hs <;> cases hs <;> exact fun _ => hstopped
      · rw [decide_eq_true hdue, selectBranch_tick] at hs
        cases hs
        exact fun hreturned => by cases hreturned
    · cases hs

theorem invariant (h : Reaches step Ticks (new globalLabels rules enabled evaluationIntervalMs) w) :
    Unsent w ∧ Obeys w :=
  h.invariant (I := fun w => Unsent w ∧ Obeys w) ⟨unsent_new, fun hreturned => by cases hreturned⟩
    fun _ _ _ hI hticks hs => ⟨unsent_step hI.1 hs, obeys_step hI.1 hI.2 hticks hs⟩

/-- A round without such a tick is the last one. -/
theorem not_obeys_of_not_ticks (h : Unsent w) (hticks : ¬ Ticks w act)
    (hs : step w act = some w') : ¬ Obeys w' := by
  cases act with
  | start | shutdown => exact absurd trivial hticks
  | select now tickFirst round =>
    obtain ⟨period, deadline, htask, hnot⟩ :
        ∃ period deadline, w.task = .evaluating period deadline ∧
          ¬ (w.stopped = true ∨ (deadline ≤ now ∧ tickFirst = true)) := by
      simpa only [Ticks, not_forall, exists_prop] using hticks
    obtain ⟨hstopped, hlate⟩ := not_or.mp hnot
    obtain ⟨c, hrecv⟩ := recv_of_unsent h.senders
    have hbranch : selectBranch tickFirst (decide (deadline ≤ now)) w.shutdownRx =
        some (.message c) := selectBranch_message hrecv (by rwa [decide_eq_true_iff])
    simp only [step, htask, hbranch, Option.some.injEq] at hs
    subst hs
    exact fun hobeys => hstopped (hobeys rfl)

/-- **Alerts are evaluated** until `shutdown` is called in every run whose rounds all find a tick
that is due and ask for it first; and the first round that does not, ends the loop. -/
theorem evaluates_until_shutdown (globalLabels : Labels) (rules : List AlertRule) (enabled : Bool)
    (evaluationIntervalMs : UInt64) :
    (∀ w, Reaches step Ticks (new globalLabels rules enabled evaluationIntervalMs) w → Obeys w) ∧
      ∀ w, Reaches step Ticks (new globalLabels rules enabled evaluationIntervalMs) w →
        ∀ act w', step w act = some w' → (Obeys w' ↔ Ticks w act) := by
  refine ⟨fun w hw => (invariant hw).2, fun w hw act w' hs => ?_⟩
  obtain ⟨hunsent, hobeys⟩ := invariant hw
  constructor
  · intro hobeys'
    by_contra hticks
    exact not_obeys_of_not_ticks hunsent hticks hs hobeys'
  · exact fun hticks => obeys_step hunsent hobeys hticks hs

/-- With an interval of an hour the second round comes a second after the first one. -/
theorem ends_within_hour :
    ∃ w, Reaches step Free (new (fun _ => none) [] true 3600000) w ∧ ¬ Obeys w := by
  obtain ⟨w, hw⟩ : ∃ w, run step (new (fun _ => none) [] true 3600000)
      [.start 0, .select 0 true [], .select 1000 true []] = some w := ⟨_, rfl⟩
  refine ⟨w, reaches_of_run hw, fun hobeys => ?_⟩
  cases hw
  cases hobeys rfl

end EvaluationLoop

end NebulaId
