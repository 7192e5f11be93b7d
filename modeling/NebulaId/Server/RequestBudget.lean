import NebulaId.Machine.Along
import NebulaId.Server.Router

/-!
# Requests that reach a handler (`server/router.rs`, `rate_limit` and `audit` middleware)

The router takes one request after another, and time passes in between. `reached` keeps those that
reach a handler, with the client that the limiter would count them for and the number of events
that they leave in the audit log.

* `policed_iff`: along every run the requests are limited and audited if and only if none of them
  reaches a handler.
* `unpoliced`: requests beyond the limit, and no event.
-/

namespace NebulaId

open Machine

/-- A request that has reached its handler. -/
structure Reached where
  client : String
  api : Bool
  time : ℕ
  records : UInt64

structure Traffic where
  service : RouterState
  reached : List Reached

inductive RequestAct where
  | request (o : Outside) (req : RoutedRequest)
  | pass (elapsed : ℕ)

namespace Traffic

/-- The request of one client under `/api/v1` or beside it, when it is answered. -/
def arrived (c : Middlewares) (req : RoutedRequest) (before after : RouterState) : Reached where
  client := (c.clientIp req).getD "anonymous"
  api := decide (req.path.take 2 = ["api", "v1"])
  time := before.limiter.now
  records := after.auditLogger.totalLogged - before.auditLogger.totalLogged

def answered (c : Middlewares) (t : Traffic) (req : RoutedRequest) : Reply × RouterState → Traffic
  | (.reached _ _, after) => ⟨after, arrived c req t.service after :: t.reached⟩
  | (.refused _, after) => ⟨after, t.reached⟩

def step (c : Middlewares) (t : Traffic) : RequestAct → Option Traffic
  | .request o req => (c.serve createRouter o req t.service).map (answered c t req)
  | .pass elapsed => some { t with service.limiter := RateLimiter.program.pass elapsed t.service.limiter }

def start (service : RouterState) : Traffic := ⟨service, []⟩

/-- The requests of the client that have reached a handler under `/api/v1` from `a` to `a + t`. -/
def reachedIn (client : String) (a t : ℕ) (reached : List Reached) : ℕ :=
  reached.countP fun r => decide (r.client = client ∧ r.api = true ∧ a ≤ r.time ∧ r.time ≤ a + t)

/-- One burst and what flows in, by the limits of the limiter. -/
def Limited (t : Traffic) : Prop :=
  ∀ client a elapsed, reachedIn client a elapsed t.reached * RateLimiter.second ≤
    t.service.limiter.defaults.2.toNat * RateLimiter.second +
      t.service.limiter.defaults.1.toNat * elapsed

def Audited (t : Traffic) : Prop := ∀ r ∈ t.reached, r.records = 1

def Policed (t : Traffic) : Prop := t.Limited ∧ t.Audited

/-- The request has no handler, its layers refuse it, or its arguments cannot be read. -/
def Refused (c : Middlewares) (t : Traffic) : RequestAct → Prop
  | .request o req => ∀ route, createRouter.find req = some route → o.rejection = none →
      ∀ ext, ¬ c.Grants o req t.service route.handler.access ext
  | .pass _ => True

variable {c : Middlewares} {t t' : Traffic} {act : RequestAct}

theorem policed_start (service : RouterState) : (start service).Policed := by
  constructor
  · intro client a elapsed
    rw [start, reachedIn, List.countP_nil, Nat.zero_mul]
    exact Nat.zero_le _
  · intro r hr
    cases hr

/-- What counts is who has reached a handler, and the limits. -/
theorem Policed.of_eq (h : t.Policed) (hreached : t'.reached = t.reached)
    (hdefaults : t'.service.limiter.defaults = t.service.limiter.defaults) : t'.Policed := by
  unfold Policed Limited Audited
  rw [hreached, hdefaults]
  exact h

theorem policed_step_iff (h : t.Policed) (hstep : step c t act = some t') :
    t'.Policed ↔ t.Refused c act := by
  cases act with
  | pass elapsed =>
    cases hstep
    exact iff_of_true (h.of_eq rfl rfl) trivial
  | request o req =>
    obtain ⟨⟨reply, after⟩, hserve, rfl⟩ := Option.map_eq_some_iff.mp hstep
    cases reply with
    | refused status =>
      obtain ⟨reply', after', hserve', hlimiter⟩ := Middlewares.serve_answers c o req t.service
      cases hserve.symm.trans hserve'
      refine iff_of_true (h.of_eq rfl (congrArg RateLimiter.Memory.defaults hlimiter)) ?_
      intro route hfind hread ext hgrants
      obtain ⟨s', hreached⟩ := Middlewares.reached_iff.mpr ⟨route, hfind, rfl, hread, hgrants⟩
      cases hserve.symm.trans hreached
    | reached handler ext =>
      refine iff_of_false ?_ ?_
      · intro hpoliced
        have hone : after.auditLogger.totalLogged - t.service.auditLogger.totalLogged = 1 :=
          hpoliced.2 _ List.mem_cons_self
        rw [Middlewares.unlogged_of_reached hserve, UInt64.sub_self] at hone
        exact absurd hone (by decide)
      · intro hrefused
        obtain ⟨route, hfind, rfl, hread, hgrants⟩ := Middlewares.reached_iff.mp ⟨after, hserve⟩
        exact hrefused route hfind hread ext hgrants

/-- **Limited and audited**: along every run, if and only if no request reaches a handler. -/
theorem policed_iff (c : Middlewares) (service : RouterState) (run : List RequestAct) :
    EachStep (step c) (fun _ _ t' => t'.Policed) (start service) run ↔
      EachStep (step c) (fun t act _ => t.Refused c act) (start service) run :=
  eachStep_iff_of_invariant (policed_start service) fun _ _ _ h hstep => policed_step_iff h hstep

/-- One request per second, and no more at once. -/
def single : RouterState :=
  ⟨∅, (RateLimiter.start 0 1 1).shared, ⟨[], 100, 0, 0, none⟩⟩

def guarded : Middlewares := ⟨⟨true, [], fun _ => none⟩, []⟩

/-- `GET /api/v1` -/
def getInfo : RequestAct :=
  .request ⟨fun _ _ => none, .run, none, 200, ⟨0, 0⟩, 0⟩
    ⟨⟨some (.v4 203 0 113 9), []⟩, .get, ["api", "v1"]⟩

/-- Two requests at once reach the handler, and the first one already leaves no event. -/
theorem unpoliced :
    ¬ EachStep (step guarded) (fun _ _ t' => t'.Limited) (start single) [getInfo, getInfo] ∧
    ¬ EachStep (step guarded) (fun _ _ t' => t'.Audited) (start single) [getInfo] := by
  constructor
  · intro heach
    have hlimited := ((heach _ rfl).2 _ rfl).1 "203.0.113.9" 0 0
    revert hlimited
    decide
  · intro heach
    have haudited := (heach _ rfl).1 _ List.mem_cons_self
    revert haudited
    decide

end Traffic

end NebulaId
