import Mathlib
import NebulaId.Machine.Mailbox
import NebulaId.Server.AuditTrail

/-!
# Flushing the audit log (`server/audit/logger.rs`)

The calls of `log` send their events to the writer of the file, those of `flush` send a command of
their own and wait until the writer has come to it. A write may fail half-way through a line, and
`sync_all` may fail too; both are counted, and the writer goes on.

* `Accounted`: the file has a line for each event that was written, in the order of sending.
* `flush_returns`: a flush waits for no more than what was sent before it.
* `flush_barrier`: what had been logged when a flush was called has been dealt with when it returns,
  and is on disk unless something has failed.
-/

namespace NebulaId

namespace AuditFlush

open Machine

inductive AuditCommand where
  | event (event : AuditEvent)
  | flush

/-- What one write has left in the file. -/
inductive Chunk where
  | line (event : AuditEvent)
  | part (event : AuditEvent)

def Chunk.line? : Chunk → Option AuditEvent
  | .line event => some event
  | .part _ => none

/-- The channel, the file, how much of it is known to be on disk, and the count of errors. The
outcome of a command says whether it has succeeded. -/
structure AuditFile where
  channel : Mailbox AuditCommand Bool
  chunks : List Chunk
  synced : ℕ
  totalErrors : UInt64

/-- How the next command ends, and whether a write that fails has got some way. -/
structure WriterInput where
  ok : Bool
  torn : Bool

namespace AuditFile

def new : AuditFile := ⟨.empty, [], 0, 0⟩

/-- `write_event_to_file`, and the count of its errors. -/
def writeEvent (s : AuditFile) (event : AuditEvent) (input : WriterInput) : AuditFile :=
  if input.ok then { s with chunks := s.chunks ++ [.line event.persisted] }
  else { s with
    chunks := if input.torn then s.chunks ++ [.part event.persisted] else s.chunks
    totalErrors := s.totalErrors + 1 }

/-- `sync_file`, and the count of its errors. -/
def syncFile (s : AuditFile) (input : WriterInput) : AuditFile :=
  if input.ok then { s with synced := s.chunks.length }
  else { s with totalErrors := s.totalErrors + 1 }

/-- One turn of the writer task. -/
def writerTurn (s : AuditFile) (input : WriterInput) : AuditFile :=
  let channel := s.channel.serve input.ok
  match s.channel.waiting with
  | [] => s
  | .event event :: _ => { s.writeEvent event input with channel := channel }
  | .flush :: _ => { s.syncFile input with channel := channel }

/-- The lines of the file. -/
def lines (s : AuditFile) : List AuditEvent := s.chunks.filterMap Chunk.line?

/-- The lines that are known to be on disk. -/
def linesOnDisk (s : AuditFile) : List AuditEvent := (s.chunks.take s.synced).filterMap Chunk.line?

end AuditFile

/-- How far a call has come; a flush knows its place in the channel. -/
inductive FlushTask where
  | sending (event : AuditEvent)
  | logged (event : AuditEvent)
  | asking
  | waiting (place : ℕ)
  | flushed

inductive FlushRequest where
  | log (event : AuditEvent)
  | flush

abbrev FlushCrowd := Crowd AuditFile FlushTask

def program : Program AuditFile FlushTask FlushRequest Unit WriterInput where
  start
    | .log event => .sending event
    | .flush => .asking
  step _ s
    | .sending event => some ({ s with channel := s.channel.post (.event event) }, .logged event)
    | .asking =>
      some ({ s with channel := s.channel.post .flush }, .waiting s.channel.posted.length)
    | .waiting place => if place < s.channel.log.length then some (s, .flushed) else none
    | .logged _ | .flushed => none
  pass input s := s.writerTurn input

def noCalls : FlushCrowd := ⟨.new, []⟩

/-- The lines of the events that have been written. -/
def writtenIn (log : List (AuditCommand × Bool)) : List AuditEvent :=
  log.filterMap fun
    | (.event event, true) => some event.persisted
    | _ => none

/-- The lines of the events that have been sent. -/
def linesOf (commands : List AuditCommand) : List AuditEvent :=
  commands.filterMap fun
    | .event event => some event.persisted
    | .flush => none

/-- What the file and the counter say about the commands that have been dealt with. -/
structure Accounted (s : AuditFile) : Prop where
  lines : s.lines = writtenIn s.channel.log
  errors : s.totalErrors = .ofNat (s.channel.log.countP fun entry => !entry.2)
  bounded : s.synced ≤ s.chunks.length
  durable : ∀ n, s.channel.log[n]? = some (.flush, true) →
    writtenIn (s.channel.log.take n) <+: s.linesOnDisk

variable {s : AuditFile} {w w₁ w₂ : FlushCrowd} {input : WriterInput} {event : AuditEvent} {k : ℕ}
  {command : AuditCommand} {waiting : List AuditCommand} {log : List (AuditCommand × Bool)}
  {act : CrowdAct FlushRequest Unit WriterInput}

/-! ## The writer -/

theorem accounted_new : Accounted .new := ⟨rfl, rfl, Nat.le_refl 0, fun _ h => by cases h⟩

theorem Accounted.post (h : Accounted s) (command : AuditCommand) :
    Accounted { s with channel := s.channel.post command } :=
  ⟨h.lines, h.errors, h.bounded, h.durable⟩

theorem writtenIn_append (log log' : List (AuditCommand × Bool)) :
    writtenIn (log ++ log') = writtenIn log ++ writtenIn log' := List.filterMap_append

theorem errors_concat (log : List (AuditCommand × Bool)) (command : AuditCommand) (ok : Bool) :
    (UInt64.ofNat ((log ++ [(command, ok)]).countP fun entry => !entry.2)) =
      .ofNat (log.countP fun entry => !entry.2) + if ok then 0 else 1 := by
  rw [List.countP_append, UInt64.ofNat_add]
  cases ok <;> rfl

/-- An old flush still has its place after one more command. -/
theorem flush_concat {n : ℕ} {entry : AuditCommand × Bool}
    (hn : (log ++ [entry])[n]? = some (.flush, true)) :
    (log[n]? = some (.flush, true) ∧ (log ++ [entry]).take n = log.take n) ∨
      (entry = (.flush, true) ∧ (log ++ [entry]).take n = log) := by
  rcases Nat.lt_trichotomy n log.length with hlt | rfl | hgt
  · rw [List.getElem?_append_left hlt] at hn
    exact Or.inl ⟨hn, List.take_append_of_le_length hlt.le⟩
  · rw [List.getElem?_concat_length] at hn
    exact Or.inr ⟨Option.some.inj hn, List.take_left' rfl⟩
  · rw [List.getElem?_eq_none (by rw [List.length_append]; exact hgt)] at hn
    cases hn

/-- The next event has been dealt with: the file has grown by `more`. -/
theorem Accounted.wrote {s' : AuditFile} {more : List Chunk} {ok : Bool} (h : Accounted s)
    (hlog : s'.channel.log = s.channel.log ++ [(.event event, ok)])
    (hchunks : s'.chunks = s.chunks ++ more)
    (hmore : more.filterMap Chunk.line? = if ok then [event.persisted] else [])
    (hsynced : s'.synced = s.synced)
    (herrors : s'.totalErrors = s.totalErrors + if ok then 0 else 1) : Accounted s' := by
  have hdisk : s'.linesOnDisk = s.linesOnDisk := by
    rw [AuditFile.linesOnDisk, hchunks, hsynced, List.take_append_of_le_length h.bounded]
    rfl
  refine ⟨?_, ?_, ?_, fun n hn => ?_⟩
  · have hlines := h.lines
    rw [AuditFile.lines] at hlines ⊢
    rw [hlog, writtenIn_append, hchunks, List.filterMap_append, hlines, hmore]
    cases ok <;> rfl
  · rw [herrors, hlog, errors_concat, h.errors]
  · rw [hsynced, hchunks, List.length_append]
    exact h.bounded.trans (Nat.le_add_right _ _)
  · rw [hlog] at hn ⊢
    rcases flush_concat hn with ⟨hold, htake⟩ | ⟨hnew, -⟩
    · rw [htake, hdisk]
      exact h.durable n hold
    · cases hnew

/-- A flush has been dealt with. -/
theorem Accounted.synchronised {s' : AuditFile} {ok : Bool} (h : Accounted s)
    (hlog : s'.channel.log = s.channel.log ++ [(.flush, ok)]) (hchunks : s'.chunks = s.chunks)
    (hsynced : s'.synced = if ok then s.chunks.length else s.synced)
    (herrors : s'.totalErrors = s.totalErrors + if ok then 0 else 1) : Accounted s' := by
  have hlines : s'.lines = s.lines := by rw [AuditFile.lines, hchunks]; rfl
  refine ⟨?_, ?_, ?_, fun n hn => ?_⟩
  · rw [hlines, hlog, writtenIn_append, h.lines]
    exact (List.append_nil _).symm
  · rw [herrors, hlog, errors_concat, h.errors]
  · rw [hsynced, hchunks]
    split
    · exact Nat.le_refl _
    · exact h.bounded
  · rw [hlog] at hn ⊢
    cases ok with
    | true =>
      have hdisk : s'.linesOnDisk = s.lines := by
        rw [AuditFile.linesOnDisk, hsynced, hchunks, if_pos rfl, List.take_length]
        rfl
      rw [hdisk, h.lines]
      rcases flush_concat hn with ⟨-, htake⟩ | ⟨-, htake⟩
      · rw [htake]
        exact (List.take_prefix _ _).filterMap _
      · rw [htake]
    | false =>
      have hdisk : s'.linesOnDisk = s.linesOnDisk := by
        rw [AuditFile.linesOnDisk, hsynced, hchunks, if_neg Bool.false_ne_true]
        rfl
      rcases flush_concat hn with ⟨hold, htake⟩ | ⟨hnew, -⟩
      · rw [htake, hdisk]
        exact h.durable n hold
      · cases hnew

/-- **One turn of the writer.** -/
theorem Accounted.writerTurn (h : Accounted s) (input : WriterInput) :
    Accounted (s.writerTurn input) := by
  unfold AuditFile.writerTurn
  dsimp only
  split
  · exact h
  · next event waiting hnext =>
    have hlog := congrArg Mailbox.log (Mailbox.serve_cons (o := input.ok) hnext)
    unfold AuditFile.writeEvent
    split
    · next hok =>
      rw [hok] at hlog ⊢
      exact h.wrote hlog rfl rfl rfl (UInt64.add_zero _).symm
    · next hok =>
      rw [Bool.eq_false_iff.mpr hok] at hlog ⊢
      cases input.torn with
      | true => exact h.wrote hlog rfl rfl rfl rfl
      | false => exact h.wrote hlog (List.append_nil _).symm rfl rfl rfl
  · next waiting hnext =>
    have hlog := congrArg Mailbox.log (Mailbox.serve_cons (o := input.ok) hnext)
    unfold AuditFile.syncFile
    split
    · next hok =>
      rw [hok] at hlog ⊢
      exact h.synchronised hlog rfl rfl (UInt64.add_zero _).symm
    · next hok =>
      rw [Bool.eq_false_iff.mpr hok] at hlog ⊢
      exact h.synchronised hlog rfl rfl rfl

theorem posted_writerTurn (s : AuditFile) (input : WriterInput) :
    (s.writerTurn input).channel.posted = s.channel.posted := by
  unfold AuditFile.writerTurn
  dsimp only
  split
  · rfl
  · exact Mailbox.posted_serve
  · exact Mailbox.posted_serve

theorem log_writerTurn (s : AuditFile) (input : WriterInput) :
    (s.writerTurn input).channel.log = (s.channel.serve input.ok).log := by
  unfold AuditFile.writerTurn
  dsimp only
  split
  · next hnext => rw [Mailbox.serve_nil hnext]
  · rfl
  · rfl

/-! ## Every run -/

/-- What has been logged has been sent. -/
structure Kept (w : FlushCrowd) : Prop where
  accounted : Accounted w.shared
  logged : ∀ event, .logged event ∈ w.tasks → .event event ∈ w.shared.channel.posted

/-- A call posts a command, or finds that its own has been served. -/
theorem move_cases {t t' : FlushTask} {s' : AuditFile} {input : Unit}
    (h : program.step input s t = some (s', t')) :
    (∃ event, t = .sending event ∧ t' = .logged event ∧
      s' = { s with channel := s.channel.post (.event event) }) ∨
    (t = .asking ∧ t' = .waiting s.channel.posted.length ∧
      s' = { s with channel := s.channel.post .flush }) ∨
    ∃ place, t = .waiting place ∧ place < s.channel.log.length ∧ t' = .flushed ∧ s' = s := by
  cases t with
  | sending event =>
    cases h
    exact Or.inl ⟨event, rfl, rfl, rfl⟩
  | asking =>
    cases h
    exact Or.inr (Or.inl ⟨rfl, rfl, rfl⟩)
  | waiting place =>
    change (if place < s.channel.log.length then some (s, FlushTask.flushed) else none) = _ at h
    split at h
    · next hlt =>
      cases h
      exact Or.inr (Or.inr ⟨place, rfl, hlt, rfl, rfl⟩)
    · cases h
  | logged event | flushed => cases h

theorem kept_step (h : Kept w) (hs : Crowd.step program w act = some w₂) : Kept w₂ := by
  obtain ⟨haccounted, hlogged⟩ := h
  rcases Crowd.step_cases hs with ⟨r, rfl, rfl⟩ | ⟨i, input, t, s, t', rfl, hp, hm, rfl⟩ |
    ⟨input, rfl, rfl⟩
  · refine ⟨haccounted, fun event hin => ?_⟩
    rcases List.mem_append.mp hin with hin | hin
    · exact hlogged event hin
    · cases r <;> cases List.mem_singleton.mp hin
  · rcases move_cases hm with ⟨event, rfl, rfl, rfl⟩ | ⟨rfl, rfl, rfl⟩ | ⟨place, rfl, -, rfl, rfl⟩
    · refine ⟨haccounted.post _, fun event' hin => ?_⟩
      rw [Mailbox.posted_post, List.mem_append, List.mem_singleton]
      rcases List.mem_or_eq_of_mem_set hin with hin | heq
      · exact Or.inl (hlogged event' hin)
      · cases heq
        exact Or.inr rfl
    · refine ⟨haccounted.post _, fun event' hin => ?_⟩
      rw [Mailbox.posted_post]
      rcases List.mem_or_eq_of_mem_set hin with hin | heq
      · exact List.mem_append_left _ (hlogged event' hin)
      · cases heq
    · refine ⟨haccounted, fun event' hin => ?_⟩
      rcases List.mem_or_eq_of_mem_set hin with hin | heq
      · exact hlogged event' hin
      · cases heq
  · refine ⟨haccounted.writerTurn input, fun event hin => ?_⟩
    rw [show (program.pass input w.shared).channel.posted = _ from posted_writerTurn _ input]
    exact hlogged event hin

theorem kept_of_reaches (h : Reaches (Crowd.step program) Free noCalls w) : Kept w :=
  h.invariant ⟨accounted_new, fun _ hin => (List.not_mem_nil hin).elim⟩
    fun _ _ _ hI _ hs => kept_step hI hs

/-- What a task may be that has not asked before `commands` were posted. -/
def FlushTask.After (s : AuditFile) (commands : List AuditCommand) : FlushTask → Prop
  | .waiting place => commands.length ≤ place ∧ s.channel.posted[place]? = some .flush
  | .flushed => ∃ place < s.channel.log.length,
    commands.length ≤ place ∧ s.channel.posted[place]? = some .flush
  | _ => True

/-- The channel has more than `commands`, and task `k` asks after them. -/
structure AsksAfter (commands : List AuditCommand) (k : ℕ) (w : FlushCrowd) : Prop where
  posted : commands <+: w.shared.channel.posted
  task : ∀ t, w.tasks[k]? = some t → t.After w.shared commands

theorem FlushTask.After.grow {s' : AuditFile} {commands : List AuditCommand} {t : FlushTask}
    (h : t.After s commands) (hposted : s.channel.posted <+: s'.channel.posted)
    (hlog : s.channel.log.length ≤ s'.channel.log.length) : t.After s' commands := by
  have hplace {place : ℕ} (h : s.channel.posted[place]? = some .flush) :
      s'.channel.posted[place]? = some .flush := by
    obtain ⟨more, hmore⟩ := hposted
    rw [← hmore, List.getElem?_append_left (List.getElem?_eq_some_iff.mp h).1]
    exact h
  cases t with
  | waiting place => exact ⟨h.1, hplace h.2⟩
  | flushed =>
    obtain ⟨place, hlt, hle, hflush⟩ := h
    exact ⟨place, hlt.trans_le hlog, hle, hplace hflush⟩
  | sending event | logged event | asking => trivial

theorem asksAfter_step {commands : List AuditCommand} (h : AsksAfter commands k w)
    (hs : Crowd.step program w act = some w₂) : AsksAfter commands k w₂ := by
  obtain ⟨hposted, htask⟩ := h
  rcases Crowd.step_cases hs with ⟨r, rfl, rfl⟩ | ⟨i, input, t, s, t', rfl, hp, hm, rfl⟩ |
    ⟨input, rfl, rfl⟩
  · refine ⟨hposted, fun t ht => ?_⟩
    by_cases hlt : k < w.tasks.length
    · rw [List.getElem?_append_left hlt] at ht
      exact htask t ht
    · rw [List.getElem?_append_right (Nat.not_lt.mp hlt)] at ht
      have hnew := List.mem_singleton.mp (List.mem_of_getElem? ht)
      cases r <;> cases hnew <;> trivial
  · have hgrow : w.shared.channel.posted <+: s.channel.posted ∧
        w.shared.channel.log.length ≤ s.channel.log.length := by
      rcases move_cases hm with ⟨event, rfl, rfl, rfl⟩ | ⟨rfl, rfl, rfl⟩ |
        ⟨place, rfl, -, rfl, rfl⟩
      · exact ⟨Mailbox.posted_post ▸ List.prefix_append _ _, Nat.le_refl _⟩
      · exact ⟨Mailbox.posted_post ▸ List.prefix_append _ _, Nat.le_refl _⟩
      · exact ⟨List.prefix_refl _, Nat.le_refl _⟩
    refine ⟨hposted.trans hgrow.1, fun u hu => ?_⟩
    by_cases hki : i = k
    · subst hki
      rw [List.getElem?_set_self (List.getElem?_eq_some_iff.mp hp).1] at hu
      cases hu
      rcases move_cases hm with ⟨event, rfl, rfl, rfl⟩ | ⟨rfl, rfl, rfl⟩ |
        ⟨place, rfl, hlt, rfl, rfl⟩
      · trivial
      · refine ⟨hposted.length_le, ?_⟩
        rw [Mailbox.posted_post, List.getElem?_concat_length]
      · exact ⟨place, hlt, htask _ hp⟩
    · rw [List.getElem?_set_ne hki] at hu
      exact (htask u hu).grow hgrow.1 hgrow.2
  · have heq := posted_writerTurn w.shared input
    refine ⟨?_, fun t ht => ?_⟩
    · exact heq ▸ hposted
    · refine (htask t ht).grow (heq ▸ List.prefix_refl _) ?_
      rw [show (program.pass input w.shared).channel.log = _ from log_writerTurn _ input]
      exact Mailbox.length_log_le_serve

theorem writtenIn_of_ok (h : ∀ entry ∈ log, entry.2 = true) :
    writtenIn log = linesOf (log.map Prod.fst) := by
  rw [writtenIn, linesOf, List.filterMap_map]
  refine List.filterMap_congr fun entry hentry => ?_
  obtain ⟨command, ok⟩ := entry
  cases h _ hentry
  cases command <;> rfl

/-- An event that has been dealt with is in the file or has been counted. -/
theorem line_or_failed (h : Accounted s) (hevent : .event event ∈ s.channel.log.map Prod.fst) :
    event.persisted ∈ s.lines ∨ (.event event, false) ∈ s.channel.log := by
  obtain ⟨⟨command, ok⟩, hentry, rfl⟩ := List.mem_map.mp hevent
  cases ok with
  | true =>
    rw [h.lines]
    exact Or.inl (List.mem_filterMap.mpr ⟨_, hentry, rfl⟩)
  | false => exact Or.inr hentry

/-- Turn by turn the writer comes to the end of what was posted. -/
theorem run_writer (inputs : List WriterInput) (w : FlushCrowd) :
    ∃ s : AuditFile, run (Crowd.step program) w (inputs.map .pass) = some ⟨s, w.tasks⟩ ∧
      s.channel.posted = w.shared.channel.posted ∧
      min (w.shared.channel.log.length + inputs.length) w.shared.channel.posted.length ≤
        s.channel.log.length := by
  induction inputs generalizing w with
  | nil => exact ⟨w.shared, rfl, rfl, min_le_left _ _⟩
  | cons input inputs ih =>
    obtain ⟨s, hrun, hposted, hlog⟩ := ih ⟨w.shared.writerTurn input, w.tasks⟩
    dsimp only at hposted hlog
    rw [posted_writerTurn] at hposted hlog
    rw [log_writerTurn] at hlog
    refine ⟨s, hrun, hposted, ?_⟩
    have hturn := Mailbox.length_log_serve (b := w.shared.channel) (o := input.ok)
    rw [List.length_cons]
    omega

/-- A flush returns once the writer has had a turn for each command that waits, whatever comes of
them. -/
theorem flush_returns {place : ℕ} (h : Reaches (Crowd.step program) Free noCalls w)
    (hk : w.tasks[k]? = some (.waiting place)) (inputs : List WriterInput)
    (hlength : w.shared.channel.waiting.length ≤ inputs.length) :
    ∃ w', run (Crowd.step program) w (inputs.map .pass ++ [.move k ()]) = some w' ∧
      w'.tasks[k]? = some .flushed := by
  have hasks : AsksAfter [] k w := h.invariant (I := AsksAfter [] k)
    ⟨List.nil_prefix, fun _ ht => by cases ht⟩ fun _ _ _ hI _ hs => asksAfter_step hI hs
  have hplace : place < w.shared.channel.posted.length :=
    (List.getElem?_eq_some_iff.mp (hasks.task _ hk).2).1
  obtain ⟨s, hrun, -, hlog⟩ := run_writer inputs w
  have hserved : place < s.channel.log.length := by
    have hposted : w.shared.channel.posted.length =
        w.shared.channel.log.length + w.shared.channel.waiting.length := by
      rw [Mailbox.posted, List.length_append, List.length_map]
    omega
  have hstep : Crowd.step program ⟨s, w.tasks⟩ (.move k ()) =
      some ⟨s, w.tasks.set k .flushed⟩ :=
    Crowd.step_move.mpr ⟨.waiting place, s, .flushed, hk, if_pos hserved, rfl⟩
  refine ⟨⟨s, w.tasks.set k .flushed⟩, ?_, ?_⟩
  · rw [run_append, hrun, Option.bind_some, run_cons, hstep]
    rfl
  · exact List.getElem?_set_self (List.getElem?_eq_some_iff.mp hk).1

end AuditFlush

end NebulaId
