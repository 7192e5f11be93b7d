import Mathlib.Logic.Function.Iterate
import NebulaId.Machine.Crowd
import NebulaId.Server.ClientIp
import NebulaId.Server.FailureTracker

/-!
# The authentication middleware (`server/middleware/api_key_auth.rs`)

`auth_middleware` as tasks over the shared failure map: a request reads the clock, checks its
address in one critical section, waits for the key store, and after a failure reads the clock
again and records it in another critical section. The log keeps the checks, the failed key
validations and the recorded failures, latest first.

`entryAfter` and `verdictsAfter` say what an address would be told by a tracker of its own.

* `TrackerInv`: while no check overflows the map, each address is told that.
* `blocked_stays_blocked`: so enough recent failures block, whatever the others do.
* `overflow_unblocks`: ten thousand other addresses undo that.
-/

namespace NebulaId

open Machine FailureTracker

/-- Decoding of base64 is a parameter. -/
structure ApiKeyAuth where
  enabled : Bool
  trustedProxies : List IpAddr
  decode : List Char → Option (List UInt8)

namespace ApiKeyAuth

/-! ## The credentials of a request -/

def stripPrefix (p cs : List Char) : Option (List Char) :=
  if p.isPrefixOf cs then some (cs.drop p.length) else none

/-- `splitn(2, ':')` in two parts. -/
def splitColon (cs : List Char) : Option (List Char × List Char) :=
  match cs.dropWhile (· ≠ ':') with
  | [] => none
  | _ :: secret => some (cs.takeWhile (· ≠ ':'), secret)

/-- Key id and secret; every malformed header ends in the same answer as a missing one. -/
def credentials (auth : ApiKeyAuth) (authorization : Option HeaderValue) :
    Option (List Char × List Char) :=
  (authorization.bind HeaderValue.toStr).bind fun value =>
    let parts := match stripPrefix "Basic ".toList value with
      | some encoded => (auth.decode encoded).bind fun decoded =>
        (String.fromUTF8? ⟨decoded.toArray⟩).bind fun s => splitColon s.toList
      | none => (stripPrefix "ApiKey ".toList value).bind splitColon
    parts.filter fun (keyId, keySecret) => !keyId.isEmpty && !keySecret.isEmpty

def clientIp (auth : ApiKeyAuth) (req : HttpRequest) : String :=
  String.ofList ((getClientIp req auth.trustedProxies).getD "unknown".toList)

/-! ## Requests as tasks -/

inductive Answer where
  | next
  | tooManyRequests
  | unauthorized
  deriving DecidableEq

inductive Task where
  | received (ip : String) (authorization : Option HeaderValue)
  | checking (ip : String) (authorization : Option HeaderValue) (now : ℕ)
  | validating (ip : String) (keyId keySecret : List Char)
  | refusing (ip : String)
  | recording (ip : String) (now : ℕ)
  | serving
  | finished (answer : Answer)

inductive Event where
  | checked (ip : String) (now : ℕ) (allowed : Bool)
  | keyRejected (ip : String) (time : ℕ)
  | recorded (ip : String) (now : ℕ)

structure Memory where
  now : ℕ
  failures : FailureMap
  log : List Event

/-- A step goes on by itself, or with the answer of `validate_key`. -/
inductive Input where
  | run
  | validated (ok : Bool)

def arrive (auth : ApiKeyAuth) (req : HttpRequest) : Task :=
  if auth.enabled then .received (auth.clientIp req) (HeaderMap.get req.headers "authorization")
  else .serving

/-- Where a request stands after its check. -/
def afterCheck (auth : ApiKeyAuth) (ip : String) (authorization : Option HeaderValue)
    (allowed : Bool) : Task :=
  if allowed then
    match auth.credentials authorization with
    | some (keyId, keySecret) => .validating ip keyId keySecret
    | none => .refusing ip
  else .finished .tooManyRequests

def advance (auth : ApiKeyAuth) : Input → Memory → Task → Option (Memory × Task)
  | .run, m, .received ip authorization => some (m, .checking ip authorization m.now)
  | .run, m, .checking ip authorization now =>
    let out := checkAuthFailureRate now ip m.failures
    some ({ m with failures := out.2, log := .checked ip now out.1 :: m.log },
      auth.afterCheck ip authorization out.1)
  | .validated true, m, .validating _ _ _ => some (m, .serving)
  | .validated false, m, .validating ip _ _ =>
    some ({ m with log := .keyRejected ip m.now :: m.log }, .refusing ip)
  | .run, m, .refusing ip => some (m, .recording ip m.now)
  | .run, m, .recording ip now =>
    some ({ m with
      failures := recordAuthFailure now ip m.failures
      log := .recorded ip now :: m.log }, .finished .unauthorized)
  | .run, m, .serving => some (m, .finished .next)
  | _, _, _ => none

def program (auth : ApiKeyAuth) : Program Memory Task HttpRequest Input ℕ where
  start := auth.arrive
  step := auth.advance
  pass elapsed m := { m with now := m.now + elapsed }

abbrev World := Crowd Memory Task

abbrev Act := CrowdAct HttpRequest Input ℕ

def step (auth : ApiKeyAuth) : World → Act → Option World := Crowd.step auth.program

def start (now : ℕ) : World := ⟨⟨now, ∅, []⟩, []⟩

def inProgress : Task → Bool
  | .finished _ => false
  | _ => true

def validatingFor (ip : String) : Task → Bool
  | .validating ip' _ _ => decide (ip' = ip)
  | _ => false

/-- The request has failed and not recorded it yet. -/
def refusingFor (ip : String) : Task → Bool
  | .refusing ip' => decide (ip' = ip)
  | .recording ip' _ => decide (ip' = ip)
  | _ => false

/-! ## What an address is told -/

/-- What one address does: checks and failures, with the clock readings they use. -/
inductive Attempt where
  | check (now : ℕ)
  | fail (now : ℕ)

def attempts (ip : String) : List Event → List Attempt
  | [] => []
  | .checked ip' now _ :: es => if ip' = ip then .check now :: attempts ip es else attempts ip es
  | .recorded ip' now :: es => if ip' = ip then .fail now :: attempts ip es else attempts ip es
  | .keyRejected _ _ :: es => attempts ip es

def verdicts (ip : String) : List Event → List Bool
  | [] => []
  | .checked ip' _ allowed :: es => if ip' = ip then allowed :: verdicts ip es else verdicts ip es
  | _ :: es => verdicts ip es

/-- The recorded failures. -/
def failTimes : List Attempt → List ℕ
  | [] => []
  | .check _ :: as => failTimes as
  | .fail now :: as => failTimes as ++ [now]

/-- The recorded failures of an address that lie in the last window. -/
def recordedRecently (w : World) (ip : String) : List ℕ :=
  (failTimes (attempts ip w.shared.log)).filter (recent w.shared.now)

/-- A tracker for this address only. -/
def entryAfter : List Attempt → List ℕ
  | [] => []
  | .check now :: as => (entryAfter as).filter (recent now)
  | .fail now :: as => entryAfter as ++ [now]

def verdictsAfter : List Attempt → List Bool
  | [] => []
  | .check now :: as =>
    decide (((entryAfter as).filter (recent now)).length < limit) :: verdictsAfter as
  | .fail _ :: as => verdictsAfter as

/-- No check clears the map. -/
def NoOverflow (w : World) : Task → Prop
  | .checking ip _ now => overflows now ip w.shared.failures = false
  | _ => True

/-! ## One step -/

def Event.time : Event → ℕ
  | .checked _ now _ => now
  | .keyRejected _ time => time
  | .recorded _ now => now

/-- The clock reading that a task holds. -/
def Task.reading : Task → ℕ
  | .checking _ _ now => now
  | .recording _ now => now
  | _ => 0

/-- What a step of a request does. -/
inductive Moved (auth : ApiKeyAuth) (m : Memory) : Task → Memory → Task → Prop
  | read (ip : String) (au : Option HeaderValue) :
      Moved auth m (.received ip au) m (.checking ip au m.now)
  | check (ip : String) (au : Option HeaderValue) (now : ℕ) :
      Moved auth m (.checking ip au now)
        { m with
          failures := (checkAuthFailureRate now ip m.failures).2
          log := .checked ip now (checkAuthFailureRate now ip m.failures).1 :: m.log }
        (auth.afterCheck ip au (checkAuthFailureRate now ip m.failures).1)
  | accept (ip : String) (keyId keySecret : List Char) :
      Moved auth m (.validating ip keyId keySecret) m .serving
  | reject (ip : String) (keyId keySecret : List Char) :
      Moved auth m (.validating ip keyId keySecret)
        { m with log := .keyRejected ip m.now :: m.log } (.refusing ip)
  | readAgain (ip : String) : Moved auth m (.refusing ip) m (.recording ip m.now)
  | record (ip : String) (now : ℕ) :
      Moved auth m (.recording ip now)
        { m with
          failures := recordAuthFailure now ip m.failures
          log := .recorded ip now :: m.log } (.finished .unauthorized)
  | serve : Moved auth m .serving m (.finished .next)

variable {auth : ApiKeyAuth} {w w' : World} {act : Act} {now₀ : ℕ} {m m' : Memory} {p q : Task}
  {ip ip' : String}

theorem moved_of_advance {a : Input} (h : auth.advance a m p = some (m', q)) :
    Moved auth m p m' q := by
  unfold advance at h
  split at h <;> cases h
  · exact .read _ _
  · exact .check _ _ _
  · exact .accept _ _ _
  · exact .reject _ _ _
  · exact .readAgain _
  · exact .record _ _
  · exact .serve

/-- A step lets a request arrive, moves one, or lets time pass. -/
theorem step_cases (h : step auth w act = some w') :
    (∃ req, act = .spawn req ∧ w' = ⟨w.shared, w.tasks ++ [auth.arrive req]⟩) ∨
    (∃ i a p m' q, act = .move i a ∧ w.tasks[i]? = some p ∧ Moved auth w.shared p m' q ∧
      w' = ⟨m', w.tasks.set i q⟩) ∨
    ∃ elapsed, act = .pass elapsed ∧
      w' = ⟨{ w.shared with now := w.shared.now + elapsed }, w.tasks⟩ := by
  rcases Crowd.step_cases h with ⟨req, hact, hw⟩ | ⟨i, a, p, m', q, hact, hp, hs, hw⟩ | ⟨e, hact, hw⟩
  · exact Or.inl ⟨req, hact, hw⟩
  · exact Or.inr (Or.inl ⟨i, a, p, m', q, hact, hp, moved_of_advance hs, hw⟩)
  · exact Or.inr (Or.inr ⟨e, hact, hw⟩)

/-! ## The tracker of one address -/

structure TrackerInv (w : World) : Prop where
  past : ∀ e ∈ w.shared.log, e.time ≤ w.shared.now
  readings : ∀ p ∈ w.tasks, p.reading ≤ w.shared.now
  entry : ∀ ip, failuresOf w.shared.failures ip = entryAfter (attempts ip w.shared.log)
  verdict : ∀ ip, verdicts ip w.shared.log = verdictsAfter (attempts ip w.shared.log)

theorem trackerInv_start : TrackerInv (start now₀) where
  past _ h := by cases h
  readings _ h := by cases h
  entry _ := rfl
  verdict _ := rfl

@[simp] theorem reading_arrive (req : HttpRequest) : (auth.arrive req).reading = 0 := by
  unfold arrive
  split <;> rfl

@[simp] theorem reading_afterCheck (au : Option HeaderValue) (allowed : Bool) :
    (auth.afterCheck ip au allowed).reading = 0 := by
  unfold afterCheck
  split
  · split <;> rfl
  · rfl

/-- After a step of a request nothing lies ahead of the clock. -/
theorem Moved.past (h : Moved auth m p m' q) (hp : p.reading ≤ m.now)
    (hlog : ∀ e ∈ m.log, e.time ≤ m.now) :
    m'.now = m.now ∧ q.reading ≤ m.now ∧ ∀ e ∈ m'.log, e.time ≤ m.now := by
  cases h with
  | read => exact ⟨rfl, Nat.le_refl _, hlog⟩
  | check => exact ⟨rfl, by simp, List.forall_mem_cons.mpr ⟨hp, hlog⟩⟩
  | accept => exact ⟨rfl, Nat.zero_le _, hlog⟩
  | reject => exact ⟨rfl, Nat.zero_le _, List.forall_mem_cons.mpr ⟨Nat.le_refl _, hlog⟩⟩
  | readAgain => exact ⟨rfl, Nat.le_refl _, hlog⟩
  | record => exact ⟨rfl, Nat.zero_le _, List.forall_mem_cons.mpr ⟨hp, hlog⟩⟩
  | serve => exact ⟨rfl, Nat.zero_le _, hlog⟩

/-- The map and each address's own tracker make the same step. -/
theorem Moved.entry (h : Moved auth m p m' q)
    (hfit : ∀ ip au now, p = .checking ip au now → overflows now ip m.failures = false)
    (hentry : ∀ ip, failuresOf m.failures ip = entryAfter (attempts ip m.log)) (ip : String) :
    failuresOf m'.failures ip = entryAfter (attempts ip m'.log) := by
  cases h with
  | read | accept | reject | readAgain | serve => exact hentry ip
  | check ip' au now =>
    rw [failuresOf_check (hfit ip' au now rfl), attempts]
    by_cases hip : ip = ip'
    · subst hip
      rw [if_pos rfl, if_pos rfl, live, hentry]
      rfl
    · rw [if_neg hip, if_neg (Ne.symm hip), hentry]
  | record ip' now =>
    rw [failuresOf_record, attempts]
    by_cases hip : ip = ip'
    · subst hip
      rw [if_pos rfl, if_pos rfl, hentry]
      rfl
    · rw [if_neg hip, if_neg (Ne.symm hip), hentry]

theorem Moved.verdict (h : Moved auth m p m' q)
    (hentry : ∀ ip, failuresOf m.failures ip = entryAfter (attempts ip m.log))
    (hverdict : ∀ ip, verdicts ip m.log = verdictsAfter (attempts ip m.log)) (ip : String) :
    verdicts ip m'.log = verdictsAfter (attempts ip m'.log) := by
  cases h with
  | read | accept | reject | readAgain | serve => exact hverdict ip
  | check ip' au now =>
    rw [checkAuthFailureRate_fst, verdicts, attempts]
    by_cases hip : ip' = ip
    · subst hip
      rw [if_pos rfl, if_pos rfl, verdictsAfter, live, hentry, hverdict]
    · rw [if_neg hip, if_neg hip, hverdict]
  | record ip' now =>
    change verdicts ip m.log = _
    rw [attempts, hverdict]
    by_cases hip : ip' = ip
    · rw [if_pos hip, verdictsAfter]
    · rw [if_neg hip]

theorem trackerInv_step (h : TrackerInv w) (hC : Crowd.Guard NoOverflow w act)
    (hs : step auth w act = some w') : TrackerInv w' := by
  rcases step_cases hs with ⟨req, rfl, rfl⟩ | ⟨i, a, p, m', q, rfl, hp, hmove, rfl⟩ | ⟨e, rfl, rfl⟩
  · exact ⟨h.past, Crowd.forall_mem_snoc h.readings (by simp), h.entry, h.verdict⟩
  · have hread := h.readings p (List.mem_of_getElem? hp)
    obtain ⟨hnow, hq, hpast⟩ := hmove.past hread h.past
    refine ⟨?_, ?_, ?_, hmove.verdict h.entry h.verdict⟩
    · rw [hnow]
      exact hpast
    · rw [hnow]
      exact Crowd.forall_mem_set h.readings hq
    · exact hmove.entry (fun ip au now hpc => hC (.checking ip au now) (hpc ▸ hp)) h.entry
  · exact ⟨fun e he => Nat.le_add_right_of_le (h.past e he),
      fun p hp => Nat.le_add_right_of_le (h.readings p hp), h.entry, h.verdict⟩

theorem trackerInv_of_reaches (h : Reaches (step auth) (Crowd.Guard NoOverflow) (start now₀) w) :
    TrackerInv w :=
  h.invariant trackerInv_start fun _ _ _ hi hC hs => trackerInv_step hi hC hs

/-! ## Requests without credentials -/

/-- A request without credentials has come and gone. -/
def refuse (ip : String) (w : World) : World where
  shared := { w.shared with
    failures := recordAuthFailure w.shared.now ip
      (checkAuthFailureRate w.shared.now ip w.shared.failures).2
    log := .recorded ip w.shared.now :: .checked ip w.shared.now true :: w.shared.log }
  tasks := w.tasks ++ [.finished .unauthorized]

theorem refuse_now : (refuse ip w).shared.now = w.shared.now := rfl

theorem refuse_failures : (refuse ip w).shared.failures = recordAuthFailure w.shared.now ip
    (checkAuthFailureRate w.shared.now ip w.shared.failures).2 := rfl

theorem reaches_refuse {G : World → Task → Prop} {req : HttpRequest}
    (hon : auth.enabled = true) (hreq : HeaderMap.get req.headers "authorization" = none)
    (hip : auth.clientIp req = ip)
    (hlive : (live w.shared.now w.shared.failures ip).length < limit)
    (hreceived : ∀ w au, G w (.received ip au)) (hrefusing : ∀ w, G w (.refusing ip))
    (hcheck : G ⟨w.shared, w.tasks ++ [.checking ip none w.shared.now]⟩
      (.checking ip none w.shared.now))
    (hrecord : ∀ (log : List Event) (tasks : List Task), G ⟨⟨w.shared.now,
      (checkAuthFailureRate w.shared.now ip w.shared.failures).2, log⟩, tasks⟩
      (.recording ip w.shared.now)) :
    Reaches (step auth) (Crowd.Guard G) w (refuse ip w) := by
  have harrive : auth.arrive req = .received ip none := by rw [arrive, if_pos hon, hip, hreq]
  have hpass : (checkAuthFailureRate w.shared.now ip w.shared.failures).1 = true := by
    rw [checkAuthFailureRate_fst, decide_eq_true hlive]
  have hspawn : Reaches (step auth) (Crowd.Guard G) w ⟨w.shared, w.tasks ++ [auth.arrive req]⟩ :=
    Crowd.reaches_spawn req
  rw [harrive] at hspawn
  refine hspawn.trans ((Crowd.reaches_move (a := .run) (hreceived _ _) rfl).trans
    ((Crowd.reaches_move (a := .run) hcheck rfl).trans ?_))
  rw [hpass]
  exact (Crowd.reaches_move (a := .run) (hrefusing _) rfl).trans
    (Crowd.reaches_move (a := .run) (hrecord _ _) rfl)

/-! ## Many addresses -/

/-- No proxy is trusted. -/
def guarding : ApiKeyAuth := ⟨true, [], fun _ => none⟩

/-- `10.0.x.y` -/
def host (n : ℕ) : IpAddr := .v4 10 0 (UInt8.ofNat (n / 256)) (UInt8.ofNat n)

def address (n : ℕ) : String := String.ofList (host n).display

theorem address_injective {n k : ℕ} (hn : n < 65536) (hk : k < 65536)
    (h : address n = address k) : n = k := by
  obtain ⟨-, -, hhigh, hlow⟩ := IpAddr.displayV4_injective (String.ofList_injective h)
  have hhigh := congrArg UInt8.toNat hhigh
  have hlow := congrArg UInt8.toNat hlow
  simp only [UInt8.toNat_ofNat'] at hhigh hlow
  omega

/-- A run without overflow is over and has left `n` addresses in the map. -/
structure Crowded (n : ℕ) (w : World) : Prop where
  reached : Reaches (step guarding) (Crowd.Guard NoOverflow) (start 0) w
  finished : w.tasks.countP inProgress = 0
  noEmpty : NoEmpty w.shared.failures
  tracked_eq : tracked w.shared.failures = n

variable {n k : ℕ}

theorem failuresOf_refuse (hfit : overflows w.shared.now ip w.shared.failures = false) :
    failuresOf (refuse ip w).shared.failures ip' =
      if ip' = ip then live w.shared.now w.shared.failures ip ++ [w.shared.now]
      else failuresOf w.shared.failures ip' := by
  rw [refuse, failuresOf_record, failuresOf_check hfit, failuresOf_check hfit, if_pos rfl]
  split <;> rfl

theorem reaches_knock {G : World → Task → Prop}
    (hlive : (live w.shared.now w.shared.failures (address n)).length < limit)
    (hG : ∀ w p, (∀ ip au now, p ≠ .checking ip au now) → G w p)
    (hcheck : G ⟨w.shared, w.tasks ++ [.checking (address n) none w.shared.now]⟩
      (.checking (address n) none w.shared.now)) :
    Reaches (step guarding) (Crowd.Guard G) w (refuse (address n) w) := by
  have hip : guarding.clientIp ⟨some (host n), []⟩ = address n := rfl
  exact reaches_refuse rfl rfl hip hlive (fun w au => hG w _ (by simp)) (fun w => hG w _ (by simp))
    hcheck fun log tasks => hG _ _ (by simp)

theorem Crowded.knock (h : Crowded n w)
    (hlive : (live w.shared.now w.shared.failures (address k)).length < limit)
    (hfit : overflows w.shared.now (address k) w.shared.failures = false) :
    Crowded (if address k ∈ w.shared.failures then n else n + 1) (refuse (address k) w) where
  reached := by
    refine h.reached.trans (reaches_knock hlive (fun w p hp => ?_) hfit)
    unfold NoOverflow
    split
    · exact absurd rfl (hp _ _ _)
    · trivial
  finished := by
    rw [refuse, List.countP_append, h.finished]
    rfl
  noEmpty := h.noEmpty.check.record
  tracked_eq := by
    rw [refuse, h.noEmpty.tracked_failed hfit, h.tracked_eq]

theorem Crowded.knock_new (h : Crowded n w) (hnew : failuresOf w.shared.failures (address k) = []) :
    Crowded (n + 1) (refuse (address k) w) := by
  have hlive : live w.shared.now w.shared.failures (address k) = [] := by
    rw [live, hnew, List.filter_nil]
  have hout : address k ∉ w.shared.failures := fun hin => h.noEmpty.mem_iff.mp hin hnew
  have hknock := h.knock (k := k) (by rw [hlive]; decide) (overflows_of_fresh hnew)
  rwa [if_neg hout] at hknock

theorem Crowded.pass (h : Crowded n w) (elapsed : ℕ) :
    Crowded n ⟨{ w.shared with now := w.shared.now + elapsed }, w.tasks⟩ where
  reached := h.reached.trans (Reaches.single (a := .pass elapsed) trivial rfl)
  finished := h.finished
  noEmpty := h.noEmpty
  tracked_eq := h.tracked_eq

theorem crowded_start : Crowded 0 (start 0) := ⟨Reaches.refl _, rfl, noEmpty_empty, rfl⟩

/-- The first `n` addresses have failed. -/
theorem exists_crowded (hn : n ≤ 65536) : ∃ w, Crowded n w ∧
    ∀ k, n ≤ k → k < 65536 → failuresOf w.shared.failures (address k) = [] := by
  induction n with
  | zero => exact ⟨start 0, crowded_start, fun k _ _ => failuresOf_empty⟩
  | succ n ih =>
    obtain ⟨w, hcrowded, hnew⟩ := ih (by omega)
    have hfresh := hnew n (Nat.le_refl n) (by omega)
    refine ⟨refuse (address n) w, hcrowded.knock_new hfresh, fun k hk hk' => ?_⟩
    have hne : address k ≠ address n := fun h => by
      have := address_injective hk' (by omega) h
      omega
    rw [failuresOf_refuse (overflows_of_fresh hfresh), if_neg hne]
    exact hnew k (by omega) hk'

/-- An address fails again and again while there is room. -/
theorem Crowded.retries (h : Crowded n w) (hn : n < maxTrackedAuthFailureIps)
    (hnew : failuresOf w.shared.failures (address k) = []) {j : ℕ} (hj : j < limit) :
    Crowded (n + 1) ((refuse (address k))^[j + 1] w) ∧
      address k ∈ ((refuse (address k))^[j + 1] w).shared.failures ∧
      (failuresOf ((refuse (address k))^[j + 1] w).shared.failures (address k)).length ≤ j + 1 ∧
      ∀ ip ≠ address k, failuresOf ((refuse (address k))^[j + 1] w).shared.failures ip =
        failuresOf w.shared.failures ip := by
  induction j with
  | zero =>
    have hcrowded := h.knock_new hnew
    have hfit : overflows w.shared.now (address k) w.shared.failures = false :=
      overflows_of_fresh hnew
    rw [Nat.zero_add, Function.iterate_one]
    refine ⟨hcrowded, ?_, ?_, fun ip hip => by rw [failuresOf_refuse hfit, if_neg hip]⟩
    · rw [hcrowded.noEmpty.mem_iff, failuresOf_refuse hfit, if_pos rfl]
      simp
    · rw [failuresOf_refuse hfit, if_pos rfl, live, hnew]
      simp
  | succ j ih =>
    obtain ⟨hcrowded, hin, hlen, hothers⟩ := ih (by omega)
    rw [Function.iterate_succ_apply' _ (j + 1)]
    generalize (refuse (address k))^[j + 1] w = v at hcrowded hin hlen hothers ⊢
    have hlive : (live v.shared.now v.shared.failures (address k)).length ≤ j + 1 :=
      Nat.le_trans (List.length_filter_le _ _) hlen
    have hfit : overflows v.shared.now (address k) v.shared.failures = false :=
      hcrowded.noEmpty.overflows_of_le (by rw [hcrowded.tracked_eq]; exact hn)
    have hnext := hcrowded.knock (k := k) (by omega) hfit
    rw [if_pos hin] at hnext
    refine ⟨hnext, ?_, ?_, fun ip hip => by rw [failuresOf_refuse hfit, if_neg hip, hothers ip hip]⟩
    · rw [hnext.noEmpty.mem_iff, failuresOf_refuse hfit, if_pos rfl]
      simp
    · rw [failuresOf_refuse hfit, if_pos rfl, List.length_append]
      exact Nat.succ_le_succ hlive

/-! ## Blocked addresses -/

def Attempt.time : Attempt → ℕ
  | .check now => now
  | .fail now => now

theorem attempts_past {log : List Event} {c : ℕ} (h : ∀ e ∈ log, e.time ≤ c) :
    ∀ a ∈ attempts ip log, a.time ≤ c := by
  induction log with
  | nil => simp [attempts]
  | cons e es ih =>
    obtain ⟨he, hes⟩ := List.forall_mem_cons.mp h
    cases e with
    | checked ip' now allowed =>
      rw [attempts]
      split
      · exact List.forall_mem_cons.mpr ⟨he, ih hes⟩
      · exact ih hes
    | keyRejected ip' time => exact ih hes
    | recorded ip' now =>
      rw [attempts]
      split
      · exact List.forall_mem_cons.mpr ⟨he, ih hes⟩
      · exact ih hes

/-- What is recent is recent for an older reading, too. -/
theorem recent_of_le {now c t : ℕ} (h : now ≤ c) (ht : recent c t = true) : recent now t = true := by
  simp only [recent, decide_eq_true_eq] at ht ⊢
  omega

/-- Pruning has kept every failure that is still recent. -/
theorem recent_entryAfter {as : List Attempt} {c : ℕ} (h : ∀ a ∈ as, a.time ≤ c) :
    (entryAfter as).filter (recent c) = (failTimes as).filter (recent c) := by
  induction as with
  | nil => rfl
  | cons a as ih =>
    obtain ⟨ha, has⟩ := List.forall_mem_cons.mp h
    cases a with
    | check now =>
      rw [entryAfter, failTimes, List.filter_filter, ← ih has]
      refine List.filter_congr fun t _ => ?_
      cases ht : recent c t with
      | false => rfl
      | true => exact recent_of_le ha ht
    | fail now => rw [entryAfter, failTimes, List.filter_append, List.filter_append, ih has]

/-- The recorded failures of an address that are recent by the clock are found by every check that
has read the clock before. -/
theorem TrackerInv.recorded_le_live (h : TrackerInv w) (ip : String) {now : ℕ}
    (hnow : now ≤ w.shared.now) :
    (recordedRecently w ip).length ≤ (live now w.shared.failures ip).length := by
  rw [recordedRecently, ← recent_entryAfter (attempts_past h.past), live, h.entry]
  exact (List.monotone_filter_right _ fun t ht => recent_of_le hnow ht).length_le

/-- **A blocked address stays blocked** while the map does not overflow: with `limit` recorded failures in
the last window every check refuses it; and what it is told depends on its own attempts only. -/
theorem blocked_stays_blocked
    (h : Reaches (step auth) (Crowd.Guard NoOverflow) (start now₀) w) :
    (∀ ip, limit ≤ (recordedRecently w ip).length →
      ∀ now ≤ w.shared.now, (checkAuthFailureRate now ip w.shared.failures).1 = false) ∧
    ∀ auth' now₀' w', Reaches (step auth') (Crowd.Guard NoOverflow) (start now₀') w' → ∀ ip,
      attempts ip w.shared.log = attempts ip w'.shared.log →
        verdicts ip w.shared.log = verdicts ip w'.shared.log := by
  have hinv := trackerInv_of_reaches h
  refine ⟨fun ip hlimit now hnow => ?_, fun auth' now₀' w' h' ip hsame => ?_⟩
  · have hlive := hinv.recorded_le_live ip hnow
    rw [checkAuthFailureRate_fst, decide_eq_false_iff_not]
    omega
  · rw [hinv.verdict, (trackerInv_of_reaches h').verdict, hsame]

theorem recordedRecently_refuse : (recordedRecently (refuse ip w) ip').length =
    (recordedRecently w ip').length + if ip = ip' then 1 else 0 := by
  unfold recordedRecently
  rw [refuse, attempts, attempts]
  split
  · rw [failTimes, failTimes, List.filter_append, List.length_append]
    simp [recent, window, second]
  · rfl

theorem recordedRecently_retries (ip : String) (w : World) (j : ℕ) :
    j ≤ (recordedRecently ((refuse ip)^[j] w) ip).length := by
  induction j with
  | zero => exact Nat.zero_le _
  | succ j ih =>
    rw [Function.iterate_succ_apply', recordedRecently_refuse, if_pos rfl]
    omega

/-- Ten failures block. -/
theorem blocked_after_ten : (checkAuthFailureRate 0 (address 7)
    ((refuse (address 7))^[10] (start 0)).shared.failures).1 = false := by
  have hten := (crowded_start.retries (k := 7) (j := 9) (by decide) failuresOf_empty (by decide)).1
  exact (blocked_stays_blocked hten.reached).1 _ (recordedRecently_retries _ _ _) 0 (Nat.zero_le _)

/-- Five minutes after the failures of 9,999 addresses a client fails ten times and
another one once; the next check of the latter clears the map, and the client gets through. -/
theorem overflow_unblocks : ∃ w, Reaches (step guarding) Free (start 0) w ∧
    limit ≤ (recordedRecently w (address 10000)).length ∧
    (checkAuthFailureRate w.shared.now (address 10000) w.shared.failures).1 = true := by
  obtain ⟨u, hflood, hnew⟩ := exists_crowded (n := 9999) (by decide)
  obtain ⟨hten, -, -, hothers⟩ := (hflood.pass window).retries (k := 10000) (j := 9) (by decide)
    (hnew 10000 (by decide) (by decide)) (by decide)
  have hrecorded := recordedRecently_retries (address 10000)
    ⟨{ u.shared with now := u.shared.now + window }, u.tasks⟩ 10
  generalize (refuse (address 10000))^[10] _ = v at hten hothers hrecorded
  have hfresh : failuresOf v.shared.failures (address 10001) = [] := by
    refine (hothers _ fun h => ?_).trans (hnew 10001 (by decide) (by decide))
    have := address_injective (by decide) (by decide) h
    omega
  have hfull := hten.knock_new hfresh
  have hentry : failuresOf (refuse (address 10001) v).shared.failures (address 10001) =
      [v.shared.now] := by
    rw [failuresOf_refuse (overflows_of_fresh hfresh), if_pos rfl, live, hfresh]
    rfl
  have hne : address 10000 ≠ address 10001 := fun h => by
    have := address_injective (by decide) (by decide) h
    omega
  have hsecond : live v.shared.now (refuse (address 10001) v).shared.failures (address 10001) =
      [v.shared.now] := by
    rw [live, hentry]
    simp [recent, window, second]
  have hover : overflows v.shared.now (address 10001) (refuse (address 10001) v).shared.failures =
      true := by
    rw [overflows_iff hfull.noEmpty, hsecond, hfull.tracked_eq]
    simp [limit, maxTrackedAuthFailureIps]
  refine ⟨refuse (address 10001) (refuse (address 10001) v), ?_, ?_, ?_⟩
  · refine hfull.reached.free.trans (reaches_knock (G := fun _ _ => True) ?_
      (fun _ _ _ => trivial) trivial).free
    rw [refuse_now, hsecond]
    simp [limit]
  · rw [recordedRecently_refuse, recordedRecently_refuse, if_neg hne.symm]
    exact hrecorded
  · rw [checkAuthFailureRate_fst, refuse_failures, refuse_now, refuse_now, check_of_overflows hover,
      live, failuresOf_record, if_neg hne, failuresOf_empty]
    simp [limit]

end ApiKeyAuth

end NebulaId
