import Mathlib.Data.List.Infix
import Mathlib.Data.String.Basic
import NebulaId.Machine.Crowd
import NebulaId.Monitoring.Addresses
import NebulaId.Server.AuditLogger

/-!
# The trail of the audit log (`server/audit/logger.rs`)

A call of `log` waits for the lock, puts its event into the buffer and, with the lock released,
sends it to the writer of the file. Between the lock and the sending nothing is awaited: tasks that
take turns at their awaits do both at once, threads that run side by side need not.

* `buffered`: what the buffer holds in any run.
* `sent_of_await`: with turns at the awaits the events are sent as they came in.
* `trail_faithful_iff`: the trail is faithful unless the buffer is to hold no event.
* `threads_reorder`: side by side, two events may change places on the way to the file.
-/

namespace NebulaId

open Machine

namespace AuditEvent

/-- The last part of an address is left out, and what is no address is cut. -/
def redactIp (ip : String) : String :=
  match IpAddr.fromStr ip.toList with
  | some (.v4 a b c _) =>
    String.ofList (IpAddr.decimal a ++ '.' :: (IpAddr.decimal b ++ '.' :: IpAddr.decimal c)) ++ ".x"
  | some (.v6 segments) =>
    String.ofList ((segments.toList.take 4).flatMap fun segment => IpAddr.hex segment ++ [':']) ++
      "x:x:x:x"
  | none =>
    let start := String.ofList (ip.toList.take 8)
    if 8 < ip.utf8ByteSize then start ++ "...redacted" else start

/-- The line of an event in the file. -/
def persisted (event : AuditEvent) : AuditEvent :=
  { event with
    clientIp := event.clientIp.map redactIp
    userAgent := event.userAgent.map fun _ => "UA(redacted)" }

end AuditEvent

namespace AuditLogger

def new (maxEvents : ℕ) (fileLogging : Bool) : AuditLogger :=
  ⟨[], maxEvents, 0, 0, if fileLogging then some [] else none⟩

/-- The part of `log` under the lock. -/
def enter (l : AuditLogger) (event : AuditEvent) : AuditLogger :=
  { l.log event with file := l.file }

/-- The part after it. -/
def send (l : AuditLogger) (event : AuditEvent) : AuditLogger :=
  { l with file := l.file.map (· ++ [event]) }

theorem log_eq (l : AuditLogger) (event : AuditEvent) : l.log event = (l.enter event).send event :=
  rfl

end AuditLogger

/-- The logger, the lines of the file, and the events in the order in which they entered. -/
structure AuditTrail where
  logger : AuditLogger
  written : List AuditEvent
  entered : List AuditEvent

/-- The writer takes the next command from the channel and writes its event. -/
def AuditTrail.writeNext (t : AuditTrail) : AuditTrail :=
  match t.logger.file with
  | some sent => match sent[t.written.length]? with
    | some event => { t with written := t.written ++ [event.persisted] }
    | none => t
  | none => t

/-- How far a call of `log` has come. -/
inductive LogTask where
  | waiting (event : AuditEvent)
  | sending (event : AuditEvent)
  | done

/-- The event that is in the buffer and not yet in the channel. -/
def LogTask.held : LogTask → Option AuditEvent
  | .sending event => some event
  | _ => none

abbrev AuditCrowd := Crowd AuditTrail LogTask

namespace AuditCrowd

def program : Program AuditTrail LogTask AuditEvent Unit Unit where
  start := .waiting
  step _ t
    | .waiting event => some
      ({ t with logger := t.logger.enter event, entered := t.entered ++ [event] }, .sending event)
    | .sending event => some ({ t with logger := t.logger.send event }, .done)
    | .done => none
  pass _ t := t.writeNext

def start (maxEvents : ℕ) (fileLogging : Bool) : AuditCrowd :=
  ⟨⟨.new maxEvents fileLogging, [], []⟩, []⟩

/-- The events between the lock and the channel. -/
def held (w : AuditCrowd) : List AuditEvent := w.tasks.filterMap LogTask.held

/-- Nobody takes the lock while somebody has an event to send, which takes no await. -/
def AtAwait (w : AuditCrowd) : CrowdAct AuditEvent Unit Unit → Prop
  | .move i _ => ∀ event, w.tasks[i]? = some (.waiting event) → w.held = []
  | _ => True

/-- No event is on its way to the file. -/
def Settled (w : AuditCrowd) : Prop :=
  w.held = [] ∧ ∀ sent, w.shared.logger.file = some sent → w.shared.written.length = sent.length

/-- The buffer has the latest events, and what it has lost is counted. -/
structure Buffered (t : AuditTrail) : Prop where
  bounded : t.logger.events.length ≤ t.logger.maxEvents
  latest : t.logger.events = t.entered.drop (t.entered.length - t.logger.maxEvents)
  counted : t.logger.file = none →
    t.logger.totalErrors = .ofNat (t.entered.length - t.logger.events.length)

/-- The file has the events in the order in which they entered the buffer. -/
structure Recorded (w : AuditCrowd) : Prop where
  ordered : w.shared.logger.file.isSome → w.shared.written <+: w.shared.entered.map .persisted
  complete : w.shared.logger.file.isSome → Settled w →
    w.shared.written = w.shared.entered.map .persisted

/-- The trail is as it should be. -/
def Faithful (w : AuditCrowd) : Prop := Buffered w.shared ∧ Recorded w

variable {w w' : AuditCrowd} {t : AuditTrail} {event : AuditEvent} {maxEvents : ℕ}
  {fileLogging : Bool} {act : CrowdAct AuditEvent Unit Unit}

/-! ## The buffer -/

theorem length_events (h : Buffered t) :
    t.logger.events.length = min t.entered.length t.logger.maxEvents := by
  rw [h.latest, List.length_drop]
  omega

/-- A full buffer loses one event. -/
theorem droppedCount_eq (h : Buffered t) :
    t.logger.droppedCount = if t.logger.maxEvents ≤ t.entered.length then 1 else 0 := by
  have hlength := length_events h
  unfold AuditLogger.droppedCount
  split <;> split <;> omega

theorem buffered_enter (h : Buffered t) (hpos : 1 ≤ t.logger.maxEvents) (event : AuditEvent) :
    Buffered { t with logger := t.logger.enter event, entered := t.entered ++ [event] } := by
  have hlength := length_events h
  have hdropped := droppedCount_eq h
  have hevents : (t.logger.enter event).events =
      t.logger.events.drop t.logger.droppedCount ++ [event] := rfl
  refine ⟨?_, ?_, fun hfile => ?_⟩
  · rw [hevents, hdropped, List.length_append, List.length_drop, List.length_singleton]
    change _ ≤ t.logger.maxEvents
    split <;> omega
  · rw [hevents, hdropped, h.latest, List.drop_drop]
    change _ = (t.entered ++ [event]).drop ((t.entered ++ [event]).length - t.logger.maxEvents)
    rw [List.length_append, List.length_singleton, List.drop_append_of_le_length (by omega)]
    congr 2
    split <;> omega
  · have hfile : t.logger.file = none := hfile
    have herrors : (t.logger.enter event).totalErrors =
        t.logger.totalErrors + .ofNat (min t.logger.droppedCount t.logger.events.length) :=
      if_pos (Option.isNone_iff_eq_none.mpr hfile)
    rw [herrors, h.counted hfile, hevents, hdropped, ← UInt64.ofNat_add, List.length_append,
      List.length_append, List.length_drop, List.length_singleton]
    congr 1
    split <;> omega

theorem buffered_send (h : Buffered t) (event : AuditEvent) :
    Buffered { t with logger := t.logger.send event } := by
  refine ⟨h.bounded, h.latest, fun hfile => h.counted ?_⟩
  exact Option.map_eq_none_iff.mp hfile

/-! ## Steps -/

/-- Only the task that moves changes what is held. -/
theorem held_of_move {i : ℕ} {p : LogTask} (hp : w.tasks[i]? = some p) (q : LogTask)
    (t : AuditTrail) : ∃ rest, w.held.Perm (p.held.toList ++ rest) ∧
      (held ⟨t, w.tasks.set i q⟩).Perm (q.held.toList ++ rest) := by
  obtain ⟨hi, rfl⟩ := List.getElem?_eq_some_iff.mp hp
  obtain ⟨ps, qs, htasks, -, hset⟩ : ∃ ps qs, w.tasks = ps ++ w.tasks[i] :: qs ∧ ps.length = i ∧
      w.tasks.set i q = ps ++ q :: qs := List.exists_of_set hi
  have hmiddle : ∀ p : LogTask, ((ps ++ p :: qs).filterMap LogTask.held).Perm
      (p.held.toList ++ (ps ++ qs).filterMap LogTask.held) := by
    intro p
    refine (List.perm_middle.filterMap LogTask.held).trans ?_
    cases p <;> exact List.Perm.refl _
  refine ⟨(ps ++ qs).filterMap LogTask.held, ?_, ?_⟩
  · have hbefore := hmiddle w.tasks[i]
    rwa [← htasks] at hbefore
  · have hafter := hmiddle q
    rwa [← hset] at hafter

/-- What a step does. -/
inductive Stepped (w : AuditCrowd) (act : CrowdAct AuditEvent Unit Unit) : AuditCrowd → Prop
  | call (w' : AuditCrowd) (hshared : w'.shared = w.shared) (hheld : w'.held = w.held) :
      Stepped w act w'
  | enter (w' : AuditCrowd) (event : AuditEvent)
      (hshared : w'.shared = { w.shared with
        logger := w.shared.logger.enter event, entered := w.shared.entered ++ [event] })
      (hheld : w'.held.Perm (event :: w.held)) (hawait : AtAwait w act → w.held = []) :
      Stepped w act w'
  | send (w' : AuditCrowd) (event : AuditEvent)
      (hshared : w'.shared = { w.shared with logger := w.shared.logger.send event })
      (hheld : w.held.Perm (event :: w'.held)) : Stepped w act w'
  | write (w' : AuditCrowd) (hshared : w'.shared = w.shared.writeNext) (hheld : w'.held = w.held) :
      Stepped w act w'

theorem Stepped.of_step (h : Crowd.step program w act = some w') : Stepped w act w' := by
  rcases Crowd.step_cases h with ⟨event, rfl, rfl⟩ | ⟨i, a, p, sh, q, rfl, hp, hstep, rfl⟩ |
    ⟨e, rfl, rfl⟩
  · refine .call _ rfl ?_
    change (w.tasks ++ [LogTask.waiting event]).filterMap LogTask.held = _
    rw [List.filterMap_append]
    exact List.append_nil _
  · obtain ⟨rest, hbefore, hafter⟩ := held_of_move hp q sh
    cases p with
    | waiting event =>
      cases hstep
      exact .enter _ event rfl (hafter.trans (hbefore.symm.cons event))
        (fun hawait => hawait event hp)
    | sending event =>
      cases hstep
      exact .send _ event rfl (hbefore.trans (hafter.symm.cons event))
    | done => cases hstep
  · exact .write _ rfl rfl

/-- The writer leaves the logger alone, and writes the next line if there is one. -/
theorem writeNext_cases (t : AuditTrail) : t.writeNext = t ∨
    ∃ sent event, t.logger.file = some sent ∧ sent[t.written.length]? = some event ∧
      t.writeNext = { t with written := t.written ++ [event.persisted] } := by
  unfold AuditTrail.writeNext
  split
  · next sent hfile =>
    split
    · next event hevent => exact Or.inr ⟨sent, event, hfile, hevent, rfl⟩
    · exact Or.inl rfl
  · exact Or.inl rfl

theorem logger_writeNext (t : AuditTrail) : t.writeNext.logger = t.logger := by
  rcases writeNext_cases t with hwrite | ⟨sent, event, -, -, hwrite⟩ <;> rw [hwrite]

theorem buffered_writeNext (h : Buffered t) : Buffered t.writeNext := by
  rcases writeNext_cases t with hwrite | ⟨sent, event, -, -, hwrite⟩
  · rwa [hwrite]
  · rw [hwrite]
    exact ⟨h.bounded, h.latest, h.counted⟩

theorem file_send {l : AuditLogger} {event : AuditEvent} {sent : List AuditEvent}
    (h : (l.send event).file = some sent) :
    ∃ sent', l.file = some sent' ∧ sent = sent' ++ [event] := by
  obtain ⟨sent', hfile, heq⟩ := Option.map_eq_some_iff.mp h
  exact ⟨sent', hfile, heq.symm⟩

/-! ## Every run -/

theorem buffered_step (h : Buffered w.shared) (hpos : 1 ≤ w.shared.logger.maxEvents)
    (hs : Crowd.step program w act = some w') :
    Buffered w'.shared ∧ 1 ≤ w'.shared.logger.maxEvents := by
  cases Stepped.of_step hs with
  | call hshared => exact hshared ▸ ⟨h, hpos⟩
  | enter event hshared => exact hshared ▸ ⟨buffered_enter h hpos event, hpos⟩
  | send event hshared => exact hshared ▸ ⟨buffered_send h event, hpos⟩
  | write hshared =>
    rw [hshared, logger_writeNext]
    exact ⟨buffered_writeNext h, hpos⟩

theorem buffered_start : Buffered (start maxEvents fileLogging).shared :=
  ⟨Nat.zero_le _, by simp [start, AuditLogger.new], fun _ => rfl⟩

/-- **The buffer** holds the latest events, and what it lost is counted, in any run. -/
theorem buffered (hpos : 1 ≤ maxEvents)
    (h : Reaches (Crowd.step program) Free (start maxEvents fileLogging) w) : Buffered w.shared :=
  (h.invariant (I := fun w => Buffered w.shared ∧ 1 ≤ w.shared.logger.maxEvents)
    ⟨buffered_start, hpos⟩ fun _ _ _ hI _ hs => buffered_step hI.1 hI.2 hs).1

/-- What has entered is sent or held, and the file has a part of what was sent. -/
structure Passed (w : AuditCrowd) : Prop where
  sent : ∀ sent, w.shared.logger.file = some sent → (sent ++ w.held).Perm w.shared.entered
  written : ∀ sent, w.shared.logger.file = some sent → w.shared.written <+: sent.map .persisted

theorem passed_start : Passed (start maxEvents fileLogging) := by
  refine ⟨fun sent hfile => ?_, fun _ _ => List.nil_prefix⟩
  have hsent : sent = [] := by
    cases fileLogging with
    | false => cases hfile
    | true => exact (Option.some.inj hfile).symm
  subst hsent
  exact List.Perm.refl _

theorem passed_step (h : Passed w) (hs : Crowd.step program w act = some w') : Passed w' := by
  cases Stepped.of_step hs with
  | call hshared hheld =>
    refine ⟨?_, ?_⟩
    · rw [hshared, hheld]
      exact h.sent
    · rw [hshared]
      exact h.written
  | enter event hshared hheld hawait =>
    refine ⟨fun sent hfile => ?_, by rw [hshared]; exact h.written⟩
    rw [hshared] at hfile ⊢
    have hin := (hheld.append_left sent).trans List.perm_middle
    have hentered := (h.sent sent hfile).cons event
    exact (hin.trans hentered).trans (List.perm_append_singleton event _).symm
  | send event hshared hheld =>
    refine ⟨fun sent hfile => ?_, fun sent hfile => ?_⟩
    · rw [hshared] at hfile ⊢
      obtain ⟨sent, hsent, rfl⟩ := file_send hfile
      refine List.Perm.trans ?_ (h.sent sent hsent)
      rw [List.append_assoc]
      exact hheld.symm.append_left sent
    · rw [hshared] at hfile ⊢
      obtain ⟨sent, hsent, rfl⟩ := file_send hfile
      rw [List.map_append]
      exact (h.written sent hsent).trans (List.prefix_append _ _)
  | write hshared hheld =>
    rcases writeNext_cases w.shared with hwrite | ⟨sent, event, hsent, hevent, hwrite⟩
    · rw [hwrite] at hshared
      refine ⟨?_, ?_⟩
      · rw [hshared, hheld]
        exact h.sent
      · rw [hshared]
        exact h.written
    · rw [hwrite] at hshared
      refine ⟨by rw [hshared, hheld]; exact h.sent, fun sent' hfile => ?_⟩
      rw [hshared] at hfile ⊢
      cases hsent.symm.trans hfile
      obtain ⟨hnext, rfl⟩ := List.getElem?_eq_some_iff.mp hevent
      have hconcat := List.concat_get_prefix (h.written sent hsent)
        (by rwa [List.length_map])
      rwa [List.get_eq_getElem, List.getElem_map] at hconcat

theorem passed (h : Reaches (Crowd.step program) Free (start maxEvents fileLogging) w) :
    Passed w :=
  h.invariant passed_start fun _ _ _ hI _ hs => passed_step hI hs

/-- At most one event is held, and it is the latest one. -/
structure InOrder (w : AuditCrowd) : Prop where
  one : w.held.length ≤ 1
  sent : ∀ sent, w.shared.logger.file = some sent → sent ++ w.held = w.shared.entered

theorem inOrder_start : InOrder (start maxEvents fileLogging) := by
  refine ⟨Nat.zero_le _, fun sent hfile => ?_⟩
  have hpassed := passed_start.sent sent hfile
  exact List.perm_nil.mp hpassed

theorem inOrder_step (h : InOrder w) (hawait : AtAwait w act)
    (hs : Crowd.step program w act = some w') : InOrder w' := by
  cases Stepped.of_step hs with
  | call hshared hheld =>
    refine ⟨hheld ▸ h.one, ?_⟩
    rw [hshared, hheld]
    exact h.sent
  | enter event hshared hheld hnobody =>
    have hnone := hnobody hawait
    rw [hnone] at hheld
    have hheld := List.perm_singleton.mp hheld
    refine ⟨by rw [hheld]; exact Nat.le_refl 1, fun sent hfile => ?_⟩
    rw [hshared] at hfile ⊢
    have hsent := h.sent sent hfile
    rw [hnone, List.append_nil] at hsent
    rw [hheld, hsent]
  | send event hshared hheld =>
    have hnone : w'.held = [] := by
      have hlength := hheld.length_eq
      have hone := h.one
      rw [List.length_cons] at hlength
      exact List.eq_nil_of_length_eq_zero (by omega)
    rw [hnone] at hheld
    refine ⟨by rw [hnone]; exact Nat.zero_le 1, fun sent hfile => ?_⟩
    rw [hshared] at hfile ⊢
    obtain ⟨sent, hbefore, rfl⟩ := file_send hfile
    have hsent := h.sent sent hbefore
    rw [List.perm_singleton.mp hheld] at hsent
    rw [hnone, List.append_nil]
    exact hsent
  | write hshared hheld =>
    refine ⟨hheld ▸ h.one, ?_⟩
    rw [hshared, hheld]
    rcases writeNext_cases w.shared with hwrite | ⟨sent, event, -, -, hwrite⟩ <;>
      rw [hwrite] <;> exact h.sent

/-- With turns at the awaits the events are sent in the order in which they entered. -/
theorem sent_of_await
    (h : Reaches (Crowd.step program) AtAwait (start maxEvents fileLogging) w) : InOrder w :=
  h.invariant inOrder_start fun _ _ _ hI hawait hs => inOrder_step hI hawait hs

/-- What is settled has been written. -/
theorem written_of_settled (h : Passed w) (hsettled : Settled w) {sent : List AuditEvent}
    (hfile : w.shared.logger.file = some sent) : w.shared.written = sent.map .persisted :=
  (h.written sent hfile).eq_of_length (by rw [hsettled.2 sent hfile, List.length_map])

theorem recorded_of_await
    (h : Reaches (Crowd.step program) AtAwait (start maxEvents fileLogging) w) : Recorded w := by
  have hpassed := passed h.free
  have hsent := sent_of_await h
  refine ⟨fun hsome => ?_, fun hsome hsettled => ?_⟩
  · obtain ⟨sent, hfile⟩ := Option.isSome_iff_exists.mp hsome
    rw [← hsent.sent sent hfile, List.map_append]
    exact (hpassed.written sent hfile).trans (List.prefix_append _ _)
  · obtain ⟨sent, hfile⟩ := Option.isSome_iff_exists.mp hsome
    rw [← hsent.sent sent hfile, hsettled.1, List.append_nil]
    exact written_of_settled hpassed hsettled hfile

/-! ## The smallest buffer -/

/-- A buffer for no event holds the one that has just come in. -/
theorem overfull (event : AuditEvent) : ∃ w,
    Reaches (Crowd.step program) AtAwait (start 0 false) w ∧ w.shared.logger.maxEvents = 0 ∧
      w.shared.logger.events = [event] := by
  refine ⟨⟨⟨(AuditLogger.new 0 false).enter event, [], [event]⟩, [.sending event]⟩, ?_, rfl, rfl⟩
  refine Reaches.cons (a := .spawn event) trivial rfl ?_
  exact Reaches.single (a := .move 0 ()) (fun _ _ => rfl) rfl

theorem not_buffered_of_overfull (hmax : t.logger.maxEvents = 0)
    (hone : t.logger.events = [event]) : ¬ Buffered t := by
  intro h
  have hbounded := h.bounded
  rw [hmax, hone] at hbounded
  exact absurd hbounded (Nat.not_succ_le_zero 0)

def sampleEvent (id : UInt64) : AuditEvent :=
  .new ⟨id, 0⟩ .configChange none "update" "config:rate_limit" .success

/-- **The trail is faithful** in every run with turns at the awaits, with a file and without, if and
only if the buffer may hold an event. Side by side, all of it holds but the order in the file. -/
theorem trail_faithful_iff (maxEvents : ℕ) :
    ((∀ fileLogging w, Reaches (Crowd.step program) AtAwait (start maxEvents fileLogging) w →
      Faithful w) ↔ 1 ≤ maxEvents) ∧
    ∀ fileLogging w, Reaches (Crowd.step program) Free (start maxEvents fileLogging) w →
      (1 ≤ maxEvents → Buffered w.shared) ∧
      (w.shared.logger.file.isSome → Settled w →
        w.shared.written.Perm (w.shared.entered.map .persisted)) := by
  refine ⟨⟨fun h => ?_, fun hpos fileLogging w hw => ?_⟩, fun fileLogging w hw => ⟨?_, ?_⟩⟩
  · rcases Nat.eq_zero_or_pos maxEvents with rfl | hpos
    · obtain ⟨w, hw, hmax, hone⟩ := overfull (sampleEvent 1)
      exact absurd (h false w hw).1 (not_buffered_of_overfull hmax hone)
    · exact hpos
  · exact ⟨buffered hpos hw.free, recorded_of_await hw⟩
  · exact fun hpos => buffered hpos hw
  · intro hsome hsettled
    obtain ⟨sent, hfile⟩ := Option.isSome_iff_exists.mp hsome
    have hsent := (passed hw).sent sent hfile
    rw [hsettled.1, List.append_nil] at hsent
    rw [written_of_settled (passed hw) hsettled hfile]
    exact hsent.map _

/-- The logger of a service whose limit of requests is zero. -/
theorem holds_one_of_none : ∃ w,
    Reaches (Crowd.step program) AtAwait (start 0 false) w ∧ ¬ Faithful w ∧
      w.shared.logger.events.length = 1 := by
  obtain ⟨w, hw, hmax, hone⟩ := overfull (sampleEvent 1)
  refine ⟨w, hw, fun hfaithful => not_buffered_of_overfull hmax hone hfaithful.1, ?_⟩
  rw [hone]
  rfl

/-- The first thread has released the lock, and the second one overtakes it. -/
theorem threads_reorder : ∃ w,
    Reaches (Crowd.step program) Free (start 10 true) w ∧ Settled w ∧
      w.shared.entered = [sampleEvent 1, sampleEvent 2] ∧
      w.shared.written = [sampleEvent 2, sampleEvent 1] := by
  obtain ⟨w, hw⟩ : ∃ w, run (Crowd.step program) (start 10 true)
      [.spawn (sampleEvent 1), .spawn (sampleEvent 2), .move 0 (), .move 1 (), .move 1 (),
        .move 0 (), .pass (), .pass ()] = some w := ⟨_, rfl⟩
  refine ⟨w, reaches_of_run hw, ?_, ?_, ?_⟩
  · cases hw
    exact ⟨rfl, fun sent hsent => by cases hsent; rfl⟩
  · cases hw
    rfl
  · cases hw
    rfl

end AuditCrowd

end NebulaId
