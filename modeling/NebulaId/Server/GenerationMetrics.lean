import Mathlib.Algebra.Order.BigOperators.Group.List
import NebulaId.Machine.Crowd
import NebulaId.Server.IdHandlers

/-!
# The counters of the handlers (`server/handlers/id_handlers.rs`)

Every call of `generate` and `batch_generate` adds to counters that all calls share, one atomic
operation after another, and calls are interleaved in any way. A call that is refused adds to none,
and one that fails to the failures only.

* `answered_alone`: a call that nobody interrupts counts as the handlers do.
* `tallied`: each counter is the sum of what the calls have added to it so far.
* `metrics_conserved`: the counters agree as long as every call is served.
* `failure_not_counted`: a call that fails is no request.
-/

namespace NebulaId

open Machine

inductive HandlerCall where
  | generate (req : GenerateRequest)
  | batchGenerate (req : BatchGenerateRequest)

/-- What a call meets: the limit of the configuration, the answer of the generator to either kind of
call, and the time that has passed. -/
structure Met where
  batchMaxSize : UInt32
  id : Result Id
  ids : Result (List Id)
  latencyMs : UInt64

/-- How far a call has come. -/
inductive HandlerTask where
  | called (call : HandlerCall)
  | failing (e : CoreError)
  | countRequest (ids : List Id) (latencyMs : UInt64)
  | countSuccess (ids : List Id) (latencyMs : UInt64)
  | countIds (ids : List Id) (latencyMs : UInt64)
  | addLatency (ids : List Id) (latencyMs : UInt64)
  | loadRequests (ids : List Id) (latencyMs : UInt64)
  | loadLatency (ids : List Id) (latencyMs totalReqs : UInt64)
  | storeAvg (ids : List Id) (newAvg : UInt64)
  | refused (e : CoreError)
  | failed (e : CoreError)
  | answered (ids : List Id)

namespace HandlerTask

-- finds the text for a key and its arguments in the current language
variable (t : String → List (String × String) → String)

/-- The generator has answered. -/
def generated (latencyMs : UInt64) : Result (List Id) → HandlerTask
  | .error e => .failing e
  | .ok ids => .countRequest ids latencyMs

/-- Up to the answer of the generator. -/
def begin (met : Met) : HandlerCall → HandlerTask
  | .generate req => match parseAlgorithm req.algorithm with
    | .error e => .refused e
    | .ok _ => generated met.latencyMs (met.id.map fun id => [id])
  | .batchGenerate req =>
    let size := req.size.getD 10
    if size = 0 then
      .refused (.invalidInput (t "api.error.handlers.id_handlers.batch_size_zero" []))
    else if size > met.batchMaxSize.toNat then
      .refused (.invalidInput (t "api.error.handlers.id_handlers.batch_size_exceeds_max"
        [("size", toString size), ("max", toString met.batchMaxSize)]))
    else match parseAlgorithm req.algorithm with
      | .error e => .refused e
      | .ok _ => generated met.latencyMs met.ids

/-- One atomic operation. -/
def step (met : Met) (m : ApiMetrics) : HandlerTask → Option (ApiMetrics × HandlerTask)
  | .called call => some (m, begin t met call)
  | .failing e => some ({ m with failedGenerations := m.failedGenerations + 1 }, .failed e)
  | .countRequest ids latencyMs =>
    some ({ m with totalRequests := m.totalRequests + 1 }, .countSuccess ids latencyMs)
  | .countSuccess ids latencyMs =>
    some ({ m with successfulGenerations := m.successfulGenerations + 1 }, .countIds ids latencyMs)
  | .countIds ids latencyMs =>
    some ({ m with totalIdsGenerated := m.totalIdsGenerated + .ofNat ids.length },
      .addLatency ids latencyMs)
  | .addLatency ids latencyMs =>
    some ({ m with totalLatencyMs := m.totalLatencyMs + latencyMs }, .loadRequests ids latencyMs)
  | .loadRequests ids latencyMs => some (m, .loadLatency ids latencyMs m.totalRequests)
  | .loadLatency ids latencyMs totalReqs =>
    some (m, .storeAvg ids (if totalReqs = 0 then latencyMs else m.totalLatencyMs / totalReqs))
  | .storeAvg ids newAvg => some ({ m with avgLatencyMs := newAvg }, .answered ids)
  | .refused _ | .failed _ | .answered _ => none

def program : Program ApiMetrics HandlerTask HandlerCall Met Empty where
  start := .called
  step := step t
  pass := fun e => e.elim

/-- A call that nobody interrupts counts as the handlers do. -/
theorem answered_alone (met : Met) (m : ApiMetrics) (ids : List Id)
    (latencyMs : UInt64) :
    run (Crowd.step (program t)) ⟨m, [.countRequest ids latencyMs]⟩
      (List.replicate 7 (.move 0 met)) = some ⟨m.succeeded ids.length latencyMs, [.answered ids]⟩ ∧
    ∀ e, run (Crowd.step (program t)) ⟨m, [.failing e]⟩ [.move 0 met] =
      some ⟨m.failed, [.failed e]⟩ :=
  ⟨rfl, fun _ => rfl⟩

/-! ## What a call has added to each counter -/

def requests : HandlerTask → ℕ
  | .countSuccess .. | .countIds .. | .addLatency .. | .loadRequests .. | .loadLatency ..
  | .storeAvg .. | .answered _ => 1
  | _ => 0

def successes : HandlerTask → ℕ
  | .countIds .. | .addLatency .. | .loadRequests .. | .loadLatency .. | .storeAvg ..
  | .answered _ => 1
  | _ => 0

def failures : HandlerTask → ℕ
  | .failed _ => 1
  | _ => 0

def idsCounted : HandlerTask → ℕ
  | .addLatency ids _ | .loadRequests ids _ | .loadLatency ids _ _ | .storeAvg ids _
  | .answered ids => ids.length
  | _ => 0

/-- The ids in a successful response. -/
def idsReturned : HandlerTask → ℕ
  | .answered ids => ids.length
  | _ => 0

/-- The call is no longer in progress. -/
def Over : HandlerTask → Prop
  | .refused _ | .failed _ | .answered _ => True
  | _ => False

/-- Nothing has gone wrong so far. -/
def Served : HandlerTask → Prop
  | .refused _ | .failing _ | .failed _ => False
  | _ => True

variable {t} {met : Met} {m m' : ApiMetrics} {p q : HandlerTask} {call : HandlerCall}

variable (t) in
/-- Who has just begun has added nothing. -/
theorem begin_cases (met : Met) (call : HandlerCall) :
    (∃ e, begin t met call = .refused e) ∨ (∃ e, begin t met call = .failing e) ∨
      ∃ ids latencyMs, begin t met call = .countRequest ids latencyMs := by
  have hgenerated : ∀ latencyMs result,
      (∃ e, generated latencyMs result = .refused e) ∨
      (∃ e, generated latencyMs result = .failing e) ∨
        ∃ ids latencyMs', generated latencyMs result = .countRequest ids latencyMs' := by
    intro latencyMs result
    cases result with
    | error e => exact Or.inr (Or.inl ⟨e, rfl⟩)
    | ok ids => exact Or.inr (Or.inr ⟨ids, latencyMs, rfl⟩)
  cases call with
  | generate req =>
    rw [begin]
    split
    · exact Or.inl ⟨_, rfl⟩
    · exact hgenerated _ _
  | batchGenerate req =>
    rw [begin]
    split
    · exact Or.inl ⟨_, rfl⟩
    · split
      · exact Or.inl ⟨_, rfl⟩
      · split
        · exact Or.inl ⟨_, rfl⟩
        · exact hgenerated _ _

/-- What an operation adds to a counter is what it adds to the share of the call. -/
structure Adds (m m' : ApiMetrics) (p q : HandlerTask) : Prop where
  requests : m'.totalRequests + .ofNat p.requests = m.totalRequests + .ofNat q.requests
  successes : m'.successfulGenerations + .ofNat p.successes =
    m.successfulGenerations + .ofNat q.successes
  failures : m'.failedGenerations + .ofNat p.failures = m.failedGenerations + .ofNat q.failures
  ids : m'.totalIdsGenerated + .ofNat p.idsCounted = m.totalIdsGenerated + .ofNat q.idsCounted

theorem adds_of_step (h : step t met m p = some (m', q)) : Adds m m' p q := by
  cases p with
  | called call =>
    cases h
    rcases begin_cases t met call with ⟨e, hbegin⟩ | ⟨e, hbegin⟩ | ⟨ids, latencyMs, hbegin⟩ <;>
      exact ⟨by rw [hbegin]; rfl, by rw [hbegin]; rfl, by rw [hbegin]; rfl, by rw [hbegin]; rfl⟩
  | refused | failed | answered => cases h
  | failing | countRequest | countSuccess | countIds | addLatency | loadRequests | loadLatency
  | storeAvg =>
    cases h
    constructor <;> simp [HandlerTask.requests, HandlerTask.successes, HandlerTask.failures,
      HandlerTask.idsCounted]

/-! ## Calls that are served -/

/-- The request names an algorithm, if any, has a size in the limits, and the generator answers. -/
def Fulfils (met : Met) : HandlerCall → Prop
  | .generate req => (∃ parsed, parseAlgorithm req.algorithm = .ok parsed) ∧ ∃ id, met.id = .ok id
  | .batchGenerate req => req.size.getD 10 ≠ 0 ∧ req.size.getD 10 ≤ met.batchMaxSize.toNat ∧
      (∃ parsed, parseAlgorithm req.algorithm = .ok parsed) ∧ ∃ ids, met.ids = .ok ids

theorem served_begin (h : Fulfils met call) : Served (begin t met call) := by
  cases call with
  | generate req =>
    obtain ⟨⟨parsed, hparsed⟩, id, hid⟩ := h
    rw [begin, hparsed, hid]
    trivial
  | batchGenerate req =>
    obtain ⟨hzero, hmost, ⟨parsed, hparsed⟩, ids, hids⟩ := h
    rw [begin, if_neg hzero, if_neg (Nat.not_lt.mpr hmost), hparsed, hids]
    trivial

theorem served_step (hp : Served p) (hfulfils : ∀ call, p = .called call → Fulfils met call)
    (h : step t met m p = some (m', q)) : Served q := by
  cases p with
  | called call =>
    cases h
    exact served_begin (hfulfils call rfl)
  | refused | failed | failing => cases hp
  | answered => cases h
  | countRequest | countSuccess | countIds | addLatency | loadRequests | loadLatency | storeAvg =>
    cases h
    trivial

end HandlerTask

/-! ## All calls -/

abbrev HandlerCrowd := Crowd ApiMetrics HandlerTask

namespace HandlerCrowd

open HandlerTask

def start : HandlerCrowd := ⟨.zero, []⟩

/-- No call is in progress. -/
def Quiet (w : HandlerCrowd) : Prop := ∀ p ∈ w.tasks, p.Over

/-- A call that begins is one that is served. -/
def ServesNext (w : HandlerCrowd) : CrowdAct HandlerCall Met Empty → Prop
  | .move i met => ∀ call, w.tasks[i]? = some (.called call) → Fulfils met call
  | _ => True

/-- Each counter is the sum of what the calls have added to it. -/
structure Tallied (w : HandlerCrowd) : Prop where
  requests : w.shared.totalRequests = .ofNat (w.tasks.map HandlerTask.requests).sum
  successes : w.shared.successfulGenerations = .ofNat (w.tasks.map HandlerTask.successes).sum
  failures : w.shared.failedGenerations = .ofNat (w.tasks.map HandlerTask.failures).sum
  ids : w.shared.totalIdsGenerated = .ofNat (w.tasks.map HandlerTask.idsCounted).sum

/-- The counters agree with each other, with the number of calls and with their responses. -/
structure Conserved (w : HandlerCrowd) : Prop where
  outcomes : w.shared.totalRequests = w.shared.successfulGenerations + w.shared.failedGenerations
  calls : w.shared.totalRequests = .ofNat w.tasks.length
  ids : w.shared.totalIdsGenerated = .ofNat (w.tasks.map idsReturned).sum

variable {t : String → List (String × String) → String} {w w' : HandlerCrowd}
  {act : CrowdAct HandlerCall Met Empty} {p q : HandlerTask} {i : ℕ}

theorem sum_of_add {counter counter' : UInt64} (share : HandlerTask → ℕ)
    (hp : w.tasks[i]? = some p) (hadd : counter' + .ofNat (share p) = counter + .ofNat (share q))
    (hsum : counter = .ofNat (w.tasks.map share).sum) :
    counter' = .ofNat ((w.tasks.set i q).map share).sum := by
  have hset := congrArg UInt64.ofNat (Crowd.sum_map_set_add (q := q) share hp)
  rw [UInt64.ofNat_add, UInt64.ofNat_add, ← hsum, ← hadd] at hset
  exact (UInt64.add_left_inj _).mp hset.symm

theorem sum_snoc {share : HandlerTask → ℕ} (hzero : share q = 0) (tasks : List HandlerTask) :
    ((tasks ++ [q]).map share).sum = (tasks.map share).sum := by
  rw [List.map_append, List.sum_append, List.map_singleton, List.sum_singleton, hzero, Nat.add_zero]

theorem Tallied.step (h : Tallied w) (hs : Crowd.step (program t) w act = some w') :
    Tallied w' := by
  rcases Crowd.step_cases hs with ⟨call, rfl, rfl⟩ | ⟨i, met, p, m, q, rfl, hp, hstep, rfl⟩ |
    ⟨e, -, -⟩
  · constructor
    · rw [sum_snoc rfl, ← h.requests]
    · rw [sum_snoc rfl, ← h.successes]
    · rw [sum_snoc rfl, ← h.failures]
    · rw [sum_snoc rfl, ← h.ids]
  · have hadds := adds_of_step hstep
    exact ⟨sum_of_add HandlerTask.requests hp hadds.requests h.requests,
      sum_of_add HandlerTask.successes hp hadds.successes h.successes,
      sum_of_add HandlerTask.failures hp hadds.failures h.failures,
      sum_of_add HandlerTask.idsCounted hp hadds.ids h.ids⟩
  · exact e.elim

/-- **Each counter** is the sum of what the calls have added to it so far. -/
theorem tallied (h : Reaches (Crowd.step (program t)) Free start w) : Tallied w :=
  h.invariant ⟨rfl, rfl, rfl, rfl⟩ fun _ _ _ hI _ hs => hI.step hs

theorem served (h : Reaches (Crowd.step (program t)) ServesNext start w) :
    ∀ p ∈ w.tasks, p.Served := by
  refine h.invariant (I := fun w => ∀ p ∈ w.tasks, p.Served) (by simp [start]) ?_
  intro w act w' hI hnext hs
  rcases Crowd.step_cases hs with ⟨call, rfl, rfl⟩ | ⟨i, met, p, m, q, rfl, hp, hstep, rfl⟩ |
    ⟨e, -, -⟩
  · exact Crowd.forall_mem_snoc hI trivial
  · refine Crowd.forall_mem_set hI (served_step (hI p (List.mem_of_getElem? hp)) ?_ hstep)
    rintro call rfl
    exact hnext call hp
  · exact e.elim

/-! ## Nobody is in progress -/

theorem sum_congr {f g : HandlerTask → ℕ} (h : ∀ p ∈ w.tasks, f p = g p) :
    (w.tasks.map f).sum = (w.tasks.map g).sum := by
  rw [List.map_congr_left h]

theorem successes_of_quiet (hquiet : Quiet w) :
    (w.tasks.map HandlerTask.requests).sum = (w.tasks.map HandlerTask.successes).sum := by
  refine sum_congr fun p hp => ?_
  have hover := hquiet p hp
  cases p with
  | refused | failed | answered => rfl
  | _ => cases hover

theorem ids_of_quiet (hquiet : Quiet w) :
    (w.tasks.map HandlerTask.idsCounted).sum = (w.tasks.map idsReturned).sum := by
  refine sum_congr fun p hp => ?_
  have hover := hquiet p hp
  cases p with
  | refused | failed | answered => rfl
  | _ => cases hover

theorem exists_answer (hover : p.Over) (hserved : p.Served) : ∃ ids, p = .answered ids := by
  cases p with
  | answered ids => exact ⟨ids, rfl⟩
  | refused | failed => cases hserved
  | _ => cases hover

/-- Whoever has an answer is a success and no failure. -/
theorem sums_of_answered (hanswered : ∀ p ∈ w.tasks, ∃ ids, p = .answered ids) :
    (w.tasks.map HandlerTask.requests).sum = w.tasks.length ∧
      (w.tasks.map HandlerTask.successes).sum = w.tasks.length ∧
      (w.tasks.map HandlerTask.failures).sum = 0 := by
  have hshare : ∀ (f : HandlerTask → ℕ) (n : ℕ), (∀ ids, f (.answered ids) = n) →
      (w.tasks.map f).sum = w.tasks.length * n := by
    intro f n hf
    have hall : ∀ share ∈ w.tasks.map f, share = n := by
      intro share hshare
      obtain ⟨p, hp, rfl⟩ := List.mem_map.mp hshare
      obtain ⟨ids, rfl⟩ := hanswered p hp
      exact hf ids
    rw [List.sum_eq_card_nsmul _ n hall, List.length_map, Nat.nsmul_eq_mul]
  refine ⟨?_, ?_, ?_⟩
  · rw [hshare _ 1 fun _ => rfl, Nat.mul_one]
  · rw [hshare _ 1 fun _ => rfl, Nat.mul_one]
  · rw [hshare _ 0 fun _ => rfl, Nat.mul_zero]

theorem conserved_of_answered (h : Tallied w) (hquiet : Quiet w)
    (hanswered : ∀ p ∈ w.tasks, ∃ ids, p = .answered ids) : Conserved w := by
  obtain ⟨hrequests, hsuccesses, hfailures⟩ := sums_of_answered hanswered
  refine ⟨?_, by rw [h.requests, hrequests], by rw [h.ids, ids_of_quiet hquiet]⟩
  rw [h.requests, h.successes, h.failures, hrequests, hsuccesses, hfailures]
  exact (UInt64.add_zero _).symm

theorem requests_le (p : HandlerTask) : p.requests ≤ 1 := by
  cases p <;> simp [HandlerTask.requests]

theorem sum_requests_le (tasks : List HandlerTask) :
    (tasks.map HandlerTask.requests).sum ≤ tasks.length := by
  have hle := List.sum_le_card_nsmul (tasks.map HandlerTask.requests) 1 fun share hshare => by
    obtain ⟨p, -, rfl⟩ := List.mem_map.mp hshare
    exact requests_le p
  rwa [List.length_map, Nat.nsmul_eq_mul, Nat.mul_one] at hle

/-- As many requests as calls: everybody has added one. -/
theorem requests_eq_one {tasks : List HandlerTask}
    (hsum : (tasks.map HandlerTask.requests).sum = tasks.length) :
    ∀ p ∈ tasks, p.requests = 1 := by
  induction tasks with
  | nil => simp
  | cons p tasks ih =>
    have hp := requests_le p
    have hrest := sum_requests_le tasks
    rw [List.map_cons, List.sum_cons, List.length_cons] at hsum
    exact List.forall_mem_cons.mpr ⟨by omega, ih (by omega)⟩

/-- The counter of the requests has every call only if every call was answered. -/
theorem answered_of_conserved (h : Tallied w) (hquiet : Quiet w) (hfew : w.tasks.length < 2 ^ 64)
    (hconserved : Conserved w) : ∀ p ∈ w.tasks, ∃ ids, p = .answered ids := by
  have hsum : (w.tasks.map HandlerTask.requests).sum = w.tasks.length := by
    have hmost := sum_requests_le w.tasks
    have hcounter := h.requests.symm.trans hconserved.calls
    have hnat := congrArg UInt64.toNat hcounter
    rwa [UInt64.toNat_ofNat_of_lt' (hmost.trans_lt hfew), UInt64.toNat_ofNat_of_lt' hfew] at hnat
  intro p hp
  have hone := requests_eq_one hsum p hp
  have hover := hquiet p hp
  cases p with
  | answered ids => exact ⟨ids, rfl⟩
  | refused | failed => cases hone
  | _ => cases hover

/-- **The counters** agree in every run whose calls are all served. In any run a call counts as a
request only if it succeeds, and the number of ids is right. -/
theorem metrics_conserved (t : String → List (String × String) → String) :
    (∀ w, Reaches (Crowd.step (program t)) ServesNext start w → Quiet w → Conserved w) ∧
      ∀ w, Reaches (Crowd.step (program t)) Free start w → Quiet w →
        w.shared.totalRequests = w.shared.successfulGenerations ∧
        w.shared.totalIdsGenerated = .ofNat (w.tasks.map idsReturned).sum ∧
        (w.tasks.length < 2 ^ 64 → (Conserved w ↔ ∀ p ∈ w.tasks, ∃ ids, p = .answered ids)) := by
  refine ⟨?_, ?_⟩
  · intro w hw hquiet
    refine conserved_of_answered (tallied hw.free) hquiet fun p hp => ?_
    exact exists_answer (hquiet p hp) (served hw p hp)
  · intro w hw hquiet
    have htallied := tallied hw
    refine ⟨?_, ?_, ?_⟩
    · rw [htallied.requests, htallied.successes, successes_of_quiet hquiet]
    · rw [htallied.ids, ids_of_quiet hquiet]
    · intro hfew
      exact ⟨answered_of_conserved htallied hquiet hfew, conserved_of_answered htallied hquiet⟩

def failingCall : HandlerCall := .generate ⟨"ws", "group", "tag", none⟩

/-- The generator is out of ids. -/
def outOfIds : Met := ⟨100, .error (.internalError "exhausted"), .ok [], 3⟩

/-- One call, which fails: one failure, no success, and no request. -/
theorem failure_not_counted :
    ∃ w, Reaches (Crowd.step (program fun key _ => key)) Free start w ∧ Quiet w ∧
      ¬ Conserved w ∧ w.tasks.length = 1 ∧ w.shared.failedGenerations = 1 ∧
      w.shared.totalRequests = 0 := by
  refine ⟨⟨ApiMetrics.zero.failed, [.failed (.internalError "exhausted")]⟩, ?_, ?_, ?_, rfl, rfl,
    rfl⟩
  · exact reaches_of_run (show run _ _ [.spawn failingCall, .move 0 outOfIds, .move 0 outOfIds] =
      some _ from rfl)
  · rintro p hp
    rw [List.mem_singleton.mp hp]
    trivial
  · intro hconserved
    exact absurd hconserved.calls (by decide)

end HandlerCrowd

end NebulaId
