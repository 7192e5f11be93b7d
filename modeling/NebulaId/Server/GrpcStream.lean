import NebulaId.Server.EntryPoints

/-!
# The stream of ids over gRPC (`server/grpc.rs`)

`batch_generate_stream` spawns a task that reads requests, generates ids and sends them one by one
into a channel with room for 128; the client reads at the other end, and may leave at any time.

* `StreamState.step`: one step of the task, of the client or of the messages that come in.
* `relayed`: while the client is there the channel carries the answers of the list model.
* `stream_faithful`: the response is faithful exactly if every message is a request that is served.
* `error_in_place_of_id`: a request that fails is answered with an empty id, and ids are made for a
  client that is gone.
-/

namespace NebulaId

open Machine

abbrev StreamItem := Except GrpcStatus GrpcGenerateResponse

/-- Where the spawned task is. -/
inductive StreamPhase where
  | receiving
  | generating (req : GrpcBatchGenerateRequest)
  | sending (items : List StreamItem)
  | failing (item : StreamItem)
  | breaking (item : StreamItem)
  | finished

namespace StreamPhase

/-- What the task still has to send. -/
def pending : StreamPhase → List StreamItem
  | .sending items => items
  | .failing item | .breaking item => [item]
  | _ => []

/-- The task is between two messages, or has ended. -/
def Idle : StreamPhase → Prop
  | .receiving | .finished => True
  | _ => False

/-- The task reads no more messages. -/
def Over : StreamPhase → Prop
  | .breaking _ | .finished => True
  | _ => False

end StreamPhase

/-- The channel holds `queue`, the client has read `delivered`. The messages answered so far are
`turns` as long as the client was there and `late` since it left. -/
structure StreamState where
  phase : StreamPhase
  queue : List StreamItem
  delivered : List StreamItem
  gone : Bool
  turns : List (Except String StreamTurn)
  late : List (Except String StreamTurn)

inductive StreamAct where
  | next (message : Option (Except String GrpcBatchGenerateRequest))
  | generate (handlers : ApiHandlers) (atEnd : AtEnd)
  | send
  | recv
  | drop

namespace StreamState

def start : StreamState := ⟨.receiving, [], [], false, [], []⟩

/-- A message has been answered; this is for the proofs only. -/
def answered (w : StreamState) (message : Except String StreamTurn) (phase : StreamPhase) :
    StreamState :=
  if w.gone then { w with phase, late := w.late ++ [message] }
  else { w with phase, turns := w.turns ++ [message] }

/-- `tx.send(item).await`, which waits while the channel is full. -/
def trySend (w : StreamState) (item : StreamItem) (sent failed : StreamPhase) :
    Option StreamState :=
  if w.gone then some { w with phase := failed }
  else if w.queue.length < 128 then some { w with queue := w.queue ++ [item], phase := sent }
  else none

-- the texts of the errors
variable (b : Surroundings)

def respond : Result BatchGenerateResponse → StreamPhase
  | .ok resp =>
    let timestamp := grpcTimestamp resp.timestamp
    .sending (resp.ids.map fun id => .ok ⟨id, timestamp, 0, 0, resp.algorithm⟩)
  | .error e => .failing (.ok ⟨"", 0, 0, 0, "error: " ++ e.display b.t⟩)

def step (w : StreamState) : StreamAct → Option StreamState
  | .next message => match w.phase, message with
    | .receiving, none => some { w with phase := .finished }
    | .receiving, some (.ok req) => some { w with phase := .generating req }
    | .receiving, some (.error e) =>
      some (w.answered (.error e) (.breaking (.ok ⟨"", 0, 0, 0, "stream error: " ++ e⟩)))
    | _, _ => none
  | .generate handlers atEnd => match w.phase with
    | .generating req =>
      let turn := ⟨req, handlers, atEnd⟩
      some (w.answered (.ok turn) (respond b (b.answerTurn turn)))
    | _ => none
  | .send => match w.phase with
    | .sending [] => some { w with phase := .receiving }
    -- a failed send leaves the loop over the ids, not the one over the messages
    | .sending (item :: items) => w.trySend item (.sending items) .receiving
    | .failing item => w.trySend item .receiving .receiving
    | .breaking item => w.trySend item .finished .finished
    | _ => none
  | .recv => if w.gone then none else match w.queue with
    | item :: queue => some { w with queue, delivered := w.delivered ++ [item] }
    | [] => none
  | .drop => some { w with gone := true, queue := [] }

/-! ## What the client is owed -/

/-- The ids of the batch in order; a status for a request that fails; and no empty id. -/
inductive Due : Except String StreamTurn → List StreamItem → Prop
  | served {turn : StreamTurn} {resp : BatchGenerateResponse} {items : List StreamItem}
      (hanswer : b.answerTurn turn = .ok resp)
      (hids : items.map (Except.map GrpcGenerateResponse.id) = resp.ids.map .ok) :
      Due (.ok turn) items
  | failed {turn : StreamTurn} {e : CoreError} (hanswer : b.answerTurn turn = .error e)
      (status : GrpcStatus) : Due (.ok turn) [.error status]
  | broken {e : String} {items : List StreamItem}
      (hids : ∀ resp, .ok resp ∈ items → resp.id ≠ "") : Due (.error e) items

/-- In the order of the messages. -/
def Owed : List (Except String StreamTurn) → List StreamItem → Prop
  | [], items => items = []
  | message :: turns, items =>
    ∃ part rest, items = part ++ rest ∧ Due b message part ∧ Owed turns rest

structure Faithful (w : StreamState) : Prop where
  /-- What has been read is the beginning of what is due. -/
  delivered : ∃ rest, Owed b w.turns (w.delivered ++ rest)
  /-- Once the answers are sent, they are there or have been read. -/
  complete : w.gone = false → w.phase.Idle → Owed b w.turns (w.delivered ++ w.queue)
  wasted : ∀ turn, .ok turn ∈ w.late → ∀ resp, b.answerTurn turn = .ok resp → resp.ids = []

/-- A request that the generator has ids for. -/
def Served (message : Except String StreamTurn) : Prop :=
  ∃ turn, message = .ok turn ∧ Surroundings.HasBatch turn.handlers turn.req

/-- While the client is there no error comes in and every request is served; afterwards the
generator has nothing. -/
def Steady (w : StreamState) : StreamAct → Prop
  | .next (some (.error _)) => w.gone = true
  | .generate handlers _ =>
    ∀ req, w.phase = .generating req → (Surroundings.HasBatch handlers req ↔ w.gone = false)
  | _ => True

variable {b} {w w' : StreamState} {act : StreamAct} {turn : StreamTurn}
  {message : Except String StreamTurn} {turns : List (Except String StreamTurn)}
  {items : List StreamItem}

/-! ## The answers -/

/-- An error is the last message. -/
def Orderly : List (Except String StreamTurn) → Prop
  | [] => True
  | .ok _ :: turns => Orderly turns
  | .error _ :: turns => turns = []

theorem orderly_snoc (hok : ∀ e, .error e ∉ turns) : Orderly (turns ++ [message]) := by
  induction turns with
  | nil => cases message <;> trivial
  | cons first turns ih =>
    cases first with
    | ok turn => exact ih fun e he => hok e (List.mem_cons_of_mem _ he)
    | error e => exact absurd List.mem_cons_self (hok e)

variable (b) in
/-- The answers of the list model, as items of the channel. -/
def stream (turns : List (Except String StreamTurn)) : List StreamItem :=
  (b.grpcBatchGenerateStream turns).map .ok

theorem stream_cons : stream b (.ok turn :: turns) =
    (respond b (b.answerTurn turn)).pending ++ stream b turns := by
  rw [stream, stream, Surroundings.grpcBatchGenerateStream, List.map_append]
  cases b.answerTurn turn with
  | ok resp => rw [respond, StreamPhase.pending, List.map_map]; rfl
  | error e => rfl

/-- The task sends what the list model answers. -/
theorem pending_respond : (respond b (b.answerTurn turn)).pending = stream b [.ok turn] := by
  rw [stream_cons]
  exact (List.append_nil _).symm

theorem stream_snoc (hok : ∀ e, .error e ∉ turns) :
    stream b (turns ++ [message]) = stream b turns ++ stream b [message] := by
  induction turns with
  | nil => rfl
  | cons first turns ih =>
    cases first with
    | error e => exact absurd List.mem_cons_self (hok e)
    | ok turn =>
      rw [List.cons_append, stream_cons, stream_cons,
        ih fun e he => hok e (List.mem_cons_of_mem _ he), List.append_assoc]

theorem map_id_respond (b : Surroundings) (resp : BatchGenerateResponse) :
    (respond b (.ok resp)).pending.map (Except.map GrpcGenerateResponse.id) =
      resp.ids.map .ok := by
  rw [respond, StreamPhase.pending, List.map_map]
  rfl

theorem answer_ok_iff : (∃ resp, b.answerTurn turn = .ok resp) ↔
    Surroundings.HasBatch turn.handlers turn.req :=
  Surroundings.batchGenerate_ok_iff b.t turn.handlers turn.atEnd turn.req

/-! ## Steps -/

/-- The message that a step answers. -/
inductive Answers (w : StreamState) : StreamAct → Except String StreamTurn → Prop
  | next (e : String) : Answers w (.next (some (.error e))) (.error e)
  | generate {req : GrpcBatchGenerateRequest} (hphase : w.phase = .generating req)
      (handlers : ApiHandlers) (atEnd : AtEnd) :
      Answers w (.generate handlers atEnd) (.ok ⟨req, handlers, atEnd⟩)

/-- What a step does. -/
inductive Stepped (b : Surroundings) (w : StreamState) (act : StreamAct) : StreamState → Prop
  | phase (phase : StreamPhase) (hpending : w.phase.pending = []) (hnew : phase.pending = [])
      (hover : w.phase.Over → phase.Over) : Stepped b w act { w with phase }
  | answered (phase : StreamPhase) (message : Except String StreamTurn)
      (hact : Answers w act message) (hpending : w.phase.pending = []) (hover : ¬ w.phase.Over)
      (hitems : phase.pending = stream b [message])
      (hlast : ∀ e, message = .error e → phase.Over) : Stepped b w act (w.answered message phase)
  | sent (item : StreamItem) (phase : StreamPhase) (hthere : w.gone = false)
      (hpending : w.phase.pending = item :: phase.pending) (hover : w.phase.Over → phase.Over) :
      Stepped b w act { w with queue := w.queue ++ [item], phase }
  | lost (phase : StreamPhase) (hgone : w.gone = true) (hover : w.phase.Over → phase.Over) :
      Stepped b w act { w with phase }
  | recv (item : StreamItem) (queue : List StreamItem) (hthere : w.gone = false)
      (hqueue : w.queue = item :: queue) :
      Stepped b w act { w with queue, delivered := w.delivered ++ [item] }
  | drop : Stepped b w act { w with gone := true, queue := [] }

theorem Stepped.of_trySend {item : StreamItem} {sent failed : StreamPhase}
    (h : w.trySend item sent failed = some w') (hpending : w.phase.pending = item :: sent.pending)
    (hsent : w.phase.Over → sent.Over) (hfailed : w.phase.Over → failed.Over) :
    Stepped b w act w' := by
  unfold trySend at h
  split at h
  · next hgone =>
    cases h
    exact .lost failed hgone hfailed
  · next hthere =>
    split at h
    · cases h
      exact .sent item sent (eq_false_of_ne_true hthere) hpending hsent
    · cases h

theorem Stepped.of_next {message : Option (Except String GrpcBatchGenerateRequest)}
    (h : step b w (.next message) = some w') : Stepped b w (.next message) w' := by
  obtain ⟨phase, queue, delivered, gone, turns, late⟩ := w
  cases phase with
  | receiving =>
    rcases message with - | ⟨e⟩ | ⟨req⟩
    · cases h
      exact .phase .finished rfl rfl (fun _ => trivial)
    · cases h
      exact .answered _ (.error e) (.next e) rfl id rfl (fun _ _ => trivial)
    · cases h
      exact .phase (.generating req) rfl rfl id
  | generating | sending | failing | breaking | finished => cases h

theorem Stepped.of_generate {handlers : ApiHandlers} {atEnd : AtEnd}
    (h : step b w (.generate handlers atEnd) = some w') :
    Stepped b w (.generate handlers atEnd) w' := by
  obtain ⟨phase, queue, delivered, gone, turns, late⟩ := w
  cases phase with
  | generating req =>
    cases h
    exact .answered _ (.ok ⟨req, handlers, atEnd⟩) (.generate rfl handlers atEnd) rfl id
      pending_respond (fun e he => by cases he)
  | receiving | sending | failing | breaking | finished => cases h

theorem Stepped.of_send (h : step b w .send = some w') : Stepped b w .send w' := by
  obtain ⟨phase, queue, delivered, gone, turns, late⟩ := w
  cases phase with
  | sending items =>
    cases items with
    | nil =>
      cases h
      exact .phase .receiving rfl rfl id
    | cons item items => exact .of_trySend h rfl id id
  | failing item => exact .of_trySend h rfl id id
  | breaking item => exact .of_trySend h rfl (fun _ => trivial) (fun _ => trivial)
  | receiving | generating | finished => cases h

theorem Stepped.of_recv (h : step b w .recv = some w') : Stepped b w .recv w' := by
  simp only [step] at h
  split at h
  · cases h
  · next hthere =>
    cases hqueue : w.queue with
    | nil => simp [hqueue] at h
    | cons item queue =>
      simp only [hqueue, Option.some.injEq] at h
      subst h
      exact .recv item queue (eq_false_of_ne_true hthere) hqueue

theorem Stepped.of_step (h : step b w act = some w') : Stepped b w act w' := by
  cases act with
  | next message => exact .of_next h
  | generate handlers atEnd => exact .of_generate h
  | send => exact .of_send h
  | recv => exact .of_recv h
  | drop =>
    cases h
    exact .drop

/-! ## Every run -/

variable (b) in
/-- The channel carries the answers while the client is there, and the client has read a part. -/
structure Relayed (w : StreamState) : Prop where
  carried : w.gone = false →
    w.delivered ++ w.queue ++ w.phase.pending = stream b w.turns ∧ w.late = []
  read : w.delivered <+: stream b w.turns
  orderly : Orderly w.turns
  unbroken : ¬ w.phase.Over → ∀ e, .error e ∉ w.turns

theorem relayed_start : Relayed b start :=
  ⟨fun _ => ⟨rfl, rfl⟩, List.nil_prefix, trivial, fun _ _ he => by cases he⟩

theorem Relayed.answered (h : Relayed b w) (message : Except String StreamTurn)
    {phase : StreamPhase} (hpending : w.phase.pending = []) (hover : ¬ w.phase.Over)
    (hitems : phase.pending = stream b [message])
    (hlast : ∀ e, message = .error e → phase.Over) :
    Relayed b (w.answered message phase) := by
  have hunbroken := h.unbroken hover
  unfold StreamState.answered
  split
  · next hgone => exact ⟨fun hthere => absurd (hgone.symm.trans hthere) (by decide), h.read,
      h.orderly, fun _ => hunbroken⟩
  · next hthere =>
    obtain ⟨hcarried, hlate⟩ := h.carried (eq_false_of_ne_true hthere)
    have hstream : stream b (w.turns ++ [message]) = _ := stream_snoc hunbroken
    refine ⟨fun _ => ⟨?_, hlate⟩, ?_, orderly_snoc hunbroken, ?_⟩
    · rw [hpending, List.append_nil] at hcarried
      rw [hstream, hcarried, hitems]
    · rw [hstream]
      exact h.read.trans (List.prefix_append _ _)
    · intro hover' e he
      rcases List.mem_append.mp he with he | he
      · exact hunbroken e he
      · exact hover' (hlast e (List.mem_singleton.mp he).symm)

theorem Relayed.step (h : Relayed b w) (hs : step b w act = some w') : Relayed b w' := by
  cases Stepped.of_step hs with
  | phase phase hpending hnew hover =>
    refine ⟨fun hthere => ?_, h.read, h.orderly, fun hn => h.unbroken fun ho => hn (hover ho)⟩
    obtain ⟨hcarried, hlate⟩ := h.carried hthere
    exact ⟨by rw [hnew, ← hpending]; exact hcarried, hlate⟩
  | answered phase message _ hpending hover hitems hlast =>
    exact h.answered message hpending hover hitems hlast
  | sent item phase hthere hpending hover =>
    refine ⟨fun _ => ?_, h.read, h.orderly, fun hn => h.unbroken fun ho => hn (hover ho)⟩
    obtain ⟨hcarried, hlate⟩ := h.carried hthere
    rw [hpending] at hcarried
    exact ⟨by rw [← hcarried]; simp only [List.append_assoc, List.singleton_append], hlate⟩
  | lost phase hgone hover =>
    exact ⟨fun hthere => absurd (hgone.symm.trans hthere) (by decide), h.read, h.orderly,
      fun hn => h.unbroken fun ho => hn (hover ho)⟩
  | recv item queue hthere hqueue =>
    obtain ⟨hcarried, hlate⟩ := h.carried hthere
    rw [hqueue] at hcarried
    have hread : w.delivered ++ [item] ++ (queue ++ w.phase.pending) = stream b w.turns := by
      rw [← hcarried]
      simp
    exact ⟨fun _ => ⟨by rw [← hread, List.append_assoc], hlate⟩,
      ⟨_, hread⟩, h.orderly, h.unbroken⟩
  | drop =>
    refine ⟨fun hthere => ?_, h.read, h.orderly, h.unbroken⟩
    cases hthere

/-- **While the client is there** the channel carries the answers of the list model, and what the
client has read is always a part of them. -/
theorem relayed (h : Reaches (step b) Free start w) : Relayed b w :=
  h.invariant relayed_start fun _ _ _ hI _ hs => hI.step hs

theorem served_ok_iff : Served (.ok turn) ↔ ∃ resp, b.answerTurn turn = .ok resp := by
  rw [answer_ok_iff]
  constructor
  · rintro ⟨_, hturn, hbatch⟩
    cases hturn
    exact hbatch
  · exact fun hbatch => ⟨turn, rfl, hbatch⟩

/-- The answers of the list model are what is due exactly if every message is served. -/
theorem owed_stream_iff (h : Orderly turns) :
    Owed b turns (stream b turns) ↔ ∀ message ∈ turns, Served message := by
  induction turns with
  | nil => exact iff_of_true rfl (fun _ hmessage => by cases hmessage)
  | cons first turns ih =>
    rw [List.forall_mem_cons]
    cases first with
    | error e =>
      cases h
      refine iff_of_false ?_ ?_
      · rintro ⟨part, rest, hitems, hdue, rfl⟩
        cases hdue with
        | broken hids =>
          rw [List.append_nil] at hitems
          subst hitems
          exact hids _ List.mem_cons_self rfl
      · rintro ⟨⟨turn, hturn, -⟩, -⟩
        cases hturn
    | ok turn =>
      rw [served_ok_iff, ← ih h]
      rw [stream_cons]
      cases hanswer : b.answerTurn turn with
      | error e =>
        refine iff_of_false ?_ ?_
        · rintro ⟨part, rest, hitems, hdue, -⟩
          cases hdue with
          | served hok => rw [hanswer] at hok; cases hok
          | failed _ status => cases hitems
        · rintro ⟨⟨resp, hok⟩, -⟩
          cases hok
      | ok resp =>
        have hids := map_id_respond b resp
        constructor
        · rintro ⟨part, rest, hitems, hdue, howed⟩
          cases hdue with
          | failed hfail => rw [hanswer] at hfail; cases hfail
          | served hok hpart =>
            cases hanswer.symm.trans hok
            have hlength : (respond b (.ok resp)).pending.length = part.length := by
              have hmap := congrArg List.length (hids.trans hpart.symm)
              rwa [List.length_map, List.length_map] at hmap
            obtain ⟨-, rfl⟩ := List.append_inj hitems hlength
            exact ⟨⟨resp, rfl⟩, howed⟩
        · rintro ⟨-, howed⟩
          exact ⟨_, _, rfl, .served hanswer hids, howed⟩

/-- Nothing comes in that would not be served, and nothing is served for nobody. -/
theorem served_of_steady (h : Reaches (step b) Steady start w) :
    (∀ message ∈ w.turns, Served message) ∧
      ∀ turn, .ok turn ∈ w.late → ¬ Surroundings.HasBatch turn.handlers turn.req := by
  refine h.invariant (I := fun w => (∀ message ∈ w.turns, Served message) ∧
    ∀ turn, .ok turn ∈ w.late → ¬ Surroundings.HasBatch turn.handlers turn.req)
    (by simp [start]) ?_
  intro w act w' hI hsteady hs
  cases Stepped.of_step hs with
  | phase | sent | lost | recv | drop => exact hI
  | answered phase message hact =>
    obtain ⟨hserved, hwasted⟩ := hI
    unfold StreamState.answered
    cases hact with
    | next e =>
      rw [if_pos (show w.gone = true from hsteady)]
      refine ⟨hserved, fun turn hturn => ?_⟩
      rcases List.mem_append.mp hturn with hturn | hturn
      · exact hwasted turn hturn
      · cases List.mem_singleton.mp hturn
    | generate hphase handlers atEnd =>
      have hbatch := hsteady _ hphase
      split
      · next hgone =>
        refine ⟨hserved, fun turn hturn => ?_⟩
        rcases List.mem_append.mp hturn with hturn | hturn
        · exact hwasted turn hturn
        · cases List.mem_singleton.mp hturn
          exact fun hhas => absurd (hgone.symm.trans (hbatch.mp hhas)) (by decide)
      · next hthere =>
        refine ⟨fun message hmessage => ?_, hwasted⟩
        rcases List.mem_append.mp hmessage with hmessage | hmessage
        · exact hserved message hmessage
        · exact ⟨_, List.mem_singleton.mp hmessage, hbatch.mpr (eq_false_of_ne_true hthere)⟩

theorem pending_of_idle (h : w.phase.Idle) : w.phase.pending = [] := by
  cases hphase : w.phase with
  | receiving | finished | generating => rfl
  | sending | failing | breaking => rw [hphase] at h; cases h

/-- What has been sent is due exactly if every message is served. -/
theorem owed_iff (h : Relayed b w) (hthere : w.gone = false) (hidle : w.phase.Idle) :
    Owed b w.turns (w.delivered ++ w.queue) ↔ ∀ message ∈ w.turns, Served message := by
  have hcarried := (h.carried hthere).1
  rw [pending_of_idle hidle, List.append_nil] at hcarried
  rw [hcarried]
  exact owed_stream_iff h.orderly

/-- **The response** is faithful in every run that is served. In any run, what a client has got that
is still there is what is due exactly if every message was a request that was served. -/
theorem stream_faithful (b : Surroundings) :
    (∀ w, Reaches (step b) Steady start w → Faithful b w) ∧
      ∀ w, Reaches (step b) Free start w → w.gone = false → w.phase.Idle →
        (Owed b w.turns (w.delivered ++ w.queue) ↔ ∀ message ∈ w.turns, Served message) := by
  refine ⟨fun w hw => ?_, fun w hw => owed_iff (relayed hw)⟩
  have hrelayed := relayed hw.free
  obtain ⟨hserved, hwasted⟩ := served_of_steady hw
  refine ⟨?_, fun hthere hidle => (owed_iff hrelayed hthere hidle).mpr hserved, ?_⟩
  · obtain ⟨rest, hrest⟩ := hrelayed.read
    exact ⟨rest, hrest ▸ (owed_stream_iff hrelayed.orderly).mpr hserved⟩
  · intro turn hturn resp hanswer
    exact absurd (answer_ok_iff.mp ⟨resp, hanswer⟩) (hwasted turn hturn)

/-- A request for no ids. -/
def emptyBatch : GrpcBatchGenerateRequest := ⟨"acme", "orders", 0⟩

def oneId : GrpcBatchGenerateRequest := ⟨"acme", "orders", 1⟩

/-- A generator that counts. -/
def counting : ApiHandlers :=
  { ApiHandlers.segmentDown with
    idGenerator := (AlgorithmRouter.new .default).register .segment
      ⟨fun turn _ => .ok (Id.fromU128 (.ofNat 128 turn)),
        fun turn _ _ => .ok ⟨[Id.fromU128 (.ofNat 128 turn)], .segment, ""⟩⟩ }

/-- A request for no ids is answered with a message without an id. Who leaves before asking for an
id has it made all the same. -/
theorem error_in_place_of_id :
    (∃ w, Reaches (step Surroundings.bare) Free start w ∧ ¬ Faithful Surroundings.bare w ∧
      w.delivered.map (Except.map GrpcGenerateResponse.id) = [.ok ""]) ∧
    ∃ w, Reaches (step Surroundings.bare) Free start w ∧ ¬ Faithful Surroundings.bare w ∧
      w.gone = true ∧ w.turns = [] := by
  refine ⟨?_, ?_⟩
  · obtain ⟨w, hw⟩ : ∃ w, run (step Surroundings.bare) start [.next (some (.ok emptyBatch)),
      .generate .segmentDown ApiHandlers.atNoon, .send, .recv] = some w := ⟨_, rfl⟩
    have hreach := reaches_of_run hw
    refine ⟨w, hreach, fun hfaithful => ?_, by cases hw; rfl⟩
    have howed := owed_iff (relayed hreach) (by cases hw; rfl) (by cases hw; trivial)
    have hserved := howed.mp (hfaithful.complete (by cases hw; rfl) (by cases hw; trivial))
    obtain ⟨turn, hturn, hcount, -⟩ := hserved (.ok ⟨emptyBatch, .segmentDown, ApiHandlers.atNoon⟩)
      (by cases hw; exact List.mem_singleton.mpr rfl)
    cases hturn
    exact hcount (by decide)
  · obtain ⟨w, hw⟩ : ∃ w, run (step Surroundings.bare) start [.drop, .next (some (.ok oneId)),
      .generate counting ApiHandlers.atNoon] = some w := ⟨_, rfl⟩
    refine ⟨w, reaches_of_run hw, fun hfaithful => ?_, by cases hw; rfl, by cases hw; rfl⟩
    have hwasted := hfaithful.wasted ⟨oneId, counting, ApiHandlers.atNoon⟩
      (by cases hw; exact List.mem_singleton.mpr rfl)
    cases hwasted ⟨["0"], 1, "segment", ApiHandlers.atNoon.timestamp⟩ rfl

end StreamState

end NebulaId
