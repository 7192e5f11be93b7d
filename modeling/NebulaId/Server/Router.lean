import NebulaId.Database.ApiKeys
import NebulaId.Server.AuditLogger
import NebulaId.Server.AuthMiddleware
import NebulaId.Server.RateLimit

/-!
# The router (`server/router.rs`)

`createRouter` as the table of its routes, each with the layers around it, outermost first. A
request goes through the layers of its route, and the handler is called when the last of them
lets it through and its arguments can be read off the request. A path without a route for the
method still goes through the layers of the path.

The layers `rateLimit` and `audit` are the two middlewares of the service. `createRouter` hands
them to its routes as extensions, which is a layer of another kind.

* `layers_createRouter`: what lies around each handler.
* `log_of_reached`: a request that reaches its handler leaves one event per `audit` layer.
* `reached_iff`: which requests reach which handler.
-/

namespace NebulaId

open FailureTracker

/-! ## Authentication as a whole -/

namespace ApiKeyAuth

inductive Verdict where
  | next (workspaceId : Option Uuid) (role : ApiKeyRole)
  | tooManyRequests
  | unauthorized
  deriving DecidableEq

def Verdict.answer : Verdict → Answer
  | .next _ _ => .next
  | .tooManyRequests => .tooManyRequests
  | .unauthorized => .unauthorized

/-- `validate_key` of the key store as it is at this moment. -/
abbrev ValidateKey := List Char → List Char → Option (Option Uuid × ApiKeyRole)

def validateCredentials (auth : ApiKeyAuth) (validateKey : ValidateKey) (req : HttpRequest) :
    Option (Option Uuid × ApiKeyRole) :=
  (auth.credentials (HeaderMap.get req.headers "authorization")).bind fun (keyId, keySecret) =>
    validateKey keyId keySecret

/-- A request that no other one interrupts, with what is left in the map of failures. -/
def authMiddleware (auth : ApiKeyAuth) (validateKey : ValidateKey) (now : ℕ)
    (failures : FailureMap) (req : HttpRequest) : Verdict × FailureMap :=
  if auth.enabled then
    let out := checkAuthFailureRate now (auth.clientIp req) failures
    if out.1 then
      match auth.validateCredentials validateKey req with
      | some (workspaceId, role) => (.next workspaceId role, out.2)
      | none => (.unauthorized, recordAuthFailure now (auth.clientIp req) out.2)
    else (.tooManyRequests, out.2)
  else (.next none .anonymous, failures)

/-- The steps of the request, one after another, come to the same answer and the same map. -/
theorem authMiddleware_steps (auth : ApiKeyAuth) (validateKey : ValidateKey) (req : HttpRequest)
    (m : Memory) : ∃ (inputs : List Input) (log : List Event), inputs.foldlM
      (fun (out : Memory × Task) a => auth.advance a out.1 out.2) (m, auth.arrive req) =
        some (⟨m.now, (authMiddleware auth validateKey m.now m.failures req).2, log⟩,
          .finished (authMiddleware auth validateKey m.now m.failures req).1.answer) := by
  unfold arrive authMiddleware
  generalize auth.clientIp req = ip
  split
  · dsimp only
    split
    · rename_i hallowed
      unfold validateCredentials
      cases hcred : auth.credentials (HeaderMap.get req.headers "authorization") with
      | none =>
        refine ⟨[.run, .run, .run, .run], .recorded ip m.now :: .checked ip m.now true :: m.log, ?_⟩
        simp [advance, hallowed, afterCheck, hcred, Verdict.answer]
      | some pair =>
        cases hkey : validateKey pair.1 pair.2 with
        | none =>
          refine ⟨[.run, .run, .validated false, .run, .run], .recorded ip m.now ::
            .keyRejected ip m.now :: .checked ip m.now true :: m.log, ?_⟩
          simp [advance, hallowed, afterCheck, hcred, hkey, Verdict.answer]
        | some who =>
          refine ⟨[.run, .run, .validated true, .run], .checked ip m.now true :: m.log, ?_⟩
          simp [advance, hallowed, afterCheck, hcred, hkey, Verdict.answer]
    · rename_i hallowed
      refine ⟨[.run, .run], .checked ip m.now false :: m.log, ?_⟩
      simp [advance, hallowed, afterCheck, Verdict.answer]
  · exact ⟨[.run], m.log, rfl⟩

end ApiKeyAuth

/-! ## Routes and layers -/

inductive Method where
  | get
  | post
  | put
  | delete
  | head
  | options
  | other (name : String)
  deriving DecidableEq

inductive PathSegment where
  | static (text : String)
  | param
  deriving DecidableEq

inductive Handler where
  | handleHealth
  | handleReady
  | handleMetrics
  | openapiJsonHandler
  | handleApiInfo
  | handleGetConfig
  | handleGenerate
  | handleBatchGenerate
  | handleParse
  | handleListWorkspaces
  | handleGetWorkspace
  | handleCreateGroup
  | handleListGroups
  | handleCreateBizTag
  | handleListBizTags
  | handleGetBizTag
  | handleUpdateBizTag
  | handleDeleteBizTag
  | handleCreateApiKey
  | handleListApiKeys
  | handleRevokeApiKey
  | handleCreateWorkspace
  | handleRegenerateUserKey
  | handleUpdateRateLimit
  | handleUpdateLogging
  | handleReloadConfig
  | handleSetAlgorithm
  deriving DecidableEq

/-- A value that a layer puts beside the request. -/
inductive Held where
  | rateLimitMiddleware
  | auditMiddleware
  | auditLogger
  deriving DecidableEq

inductive Layer where
  | auth
  | anonymousBlock
  | adminRequired
  | apiVersion
  | locale
  | setResponseHeader (name value : String)
  | cors
  | extension (held : Held)
  | rateLimit
  | audit
  deriving DecidableEq

structure Route where
  path : List PathSegment
  method : Method
  handler : Handler
  layers : List Layer

abbrev Router := List Route

namespace Router

def new : Router := []

def route (r : Router) (path : List PathSegment) (methods : List (Method × Handler)) : Router :=
  r ++ methods.map fun (method, handler) => ⟨path, method, handler, []⟩

/-- A new layer lies around the ones before it. -/
def layer (r : Router) (l : Layer) : Router :=
  r.map fun route => { route with layers := l :: route.layers }

def nest (r : Router) (path : List PathSegment) (inner : Router) : Router :=
  r ++ inner.map fun route => { route with path := path ++ route.path }

def merge (r other : Router) : Router := r ++ other

end Router

def v1AdminRoutes : Router :=
  Router.new
    |>.route [.static "api-keys"] [(.post, .handleCreateApiKey), (.get, .handleListApiKeys)]
    |>.route [.static "api-keys", .param] [(.delete, .handleRevokeApiKey)]
    |>.route [.static "workspaces"] [(.post, .handleCreateWorkspace)]
    |>.route [.static "workspaces", .param, .static "regenerate-user-key"]
      [(.post, .handleRegenerateUserKey)]
    |>.route [.static "config", .static "rate-limit"] [(.post, .handleUpdateRateLimit)]
    |>.route [.static "config", .static "logging"] [(.post, .handleUpdateLogging)]
    |>.route [.static "config", .static "reload"] [(.post, .handleReloadConfig)]
    |>.route [.static "config", .static "algorithm"] [(.post, .handleSetAlgorithm)]
    |>.layer .adminRequired
    |>.layer .auth

def v1AuthenticatedRoutes : Router :=
  Router.new
    |>.route [.static "config"] [(.get, .handleGetConfig)]
    |>.route [.static "generate"] [(.post, .handleGenerate)]
    |>.route [.static "generate", .static "batch"] [(.post, .handleBatchGenerate)]
    |>.route [.static "parse"] [(.post, .handleParse)]
    |>.route [.static "workspaces"] [(.get, .handleListWorkspaces)]
    |>.route [.static "workspaces", .param] [(.get, .handleGetWorkspace)]
    |>.route [.static "groups"] [(.post, .handleCreateGroup), (.get, .handleListGroups)]
    |>.route [.static "biz-tags"] [(.post, .handleCreateBizTag), (.get, .handleListBizTags)]
    |>.route [.static "biz-tags", .param]
      [(.get, .handleGetBizTag), (.put, .handleUpdateBizTag), (.delete, .handleDeleteBizTag)]
    |>.layer .anonymousBlock
    |>.layer .auth

def v1PublicRoutes : Router :=
  Router.new
    |>.route [] [(.get, .handleApiInfo)]
    |>.merge v1AuthenticatedRoutes
    |>.merge v1AdminRoutes

def apiV1Routes : Router :=
  Router.new
    |>.nest [.static "api", .static "v1"] v1PublicRoutes
    |>.layer .apiVersion
    |>.layer .locale

def createRouter : Router :=
  Router.new
    |>.route [.static "health"] [(.get, .handleHealth)]
    |>.route [.static "ready"] [(.get, .handleReady)]
    |>.route [.static "metrics"] [(.get, .handleMetrics)]
    |>.route [.static "api-docs", .static "openapi.json"] [(.get, .openapiJsonHandler)]
    |>.merge apiV1Routes
    |>.layer (.setResponseHeader "x-content-type-options" "nosniff")
    |>.layer (.setResponseHeader "x-frame-options" "DENY")
    |>.layer (.setResponseHeader "content-security-policy" "default-src 'self'")
    |>.layer (.setResponseHeader "strict-transport-security" "max-age=31536000; includeSubDomains")
    |>.layer (.setResponseHeader "x-xss-protection" "1; mode=block")
    |>.layer (.setResponseHeader "referrer-policy" "strict-origin-when-cross-origin")
    |>.layer .cors
    |>.layer (.extension .rateLimitMiddleware)
    |>.layer (.extension .auditMiddleware)
    |>.layer (.extension .auditLogger)

/-! ## A request on its way -/

structure RoutedRequest extends HttpRequest where
  method : Method
  path : List String

def PathSegment.accepts : PathSegment → String → Bool
  | .static text, s => decide (s = text)
  | .param, s => !s.isEmpty

def pathMatches : List PathSegment → List String → Bool
  | [], [] => true
  | segment :: segments, s :: rest => segment.accepts s && pathMatches segments rest
  | _, _ => false

/-- The handler of `GET` serves `HEAD`, too. -/
def Method.serves (m : Method) (asked : Method) : Bool :=
  decide (asked = m) || decide (m = .get ∧ asked = .head)

namespace Router

def atPath (r : Router) (path : List String) : Router := r.filter fun route => pathMatches route.path path

def find (r : Router) (req : RoutedRequest) : Option Route :=
  (r.atPath req.path).find? fun route => route.method.serves req.method

end Router

/-- What the middlewares and the handler find beside the request. -/
structure Extensions where
  workspace : Option String
  workspaceId : Option (Option Uuid)
  role : Option ApiKeyRole

inductive Reply where
  | refused (status : ℕ)
  | reached (handler : Handler) (ext : Extensions)

/-- What a request meets outside the router: the key store, the token bucket, the status with
which its arguments are refused if they are, that of the handler's response, and the stamp and
the duration of an audit event. -/
structure Outside where
  validateKey : ApiKeyAuth.ValidateKey
  bucket : RateLimiter.Input
  rejection : Option ℕ
  status : ℕ
  stamp : AuditStamp
  durationMs : UInt64

structure RouterState where
  failures : FailureMap
  limiter : RateLimiter.Memory
  auditLogger : AuditLogger

structure Middlewares where
  auth : ApiKeyAuth
  trustedProxies : List IpAddr

def Method.text : Method → String
  | .get => "GET"
  | .post => "POST"
  | .put => "PUT"
  | .delete => "DELETE"
  | .head => "HEAD"
  | .options => "OPTIONS"
  | .other name => name

def RoutedRequest.pathText (req : RoutedRequest) : String := "/" ++ String.intercalate "/" req.path

/-- `ApiVersion::from_str`; a text that it does not know stands for the first version. -/
def RoutedRequest.apiVersionSupported (req : RoutedRequest) : Bool :=
  match (HeaderMap.get req.headers "x-api-version").bind HeaderValue.toStr with
  | some version => !decide (version.map Char.toLower ∈ [['v', '2'], ['2']])
  | none => true

def Reply.status (o : Outside) : Reply → ℕ
  | .refused status => status
  | .reached _ _ => o.status

def AuditResult.ofStatus (status : ℕ) : AuditResult :=
  if 200 ≤ status ∧ status < 300 then .success
  else if 400 ≤ status ∧ status < 500 then .failure
  else .partialSuccess

/-- `check_rate_limit` with the limits of the service, from its call to its result. -/
def RateLimiter.checkRateLimit (m : Memory) (key : String) (bucket : Input) :
    Option (Memory × RateLimitResult) :=
  match [.run, .run, .run, bucket].foldlM
    (fun (out : Memory × Task) input => advance input out.1 out.2)
    (m, .called (.checkRateLimit key none none)) with
  | some (m, .finished (.checked result)) => some (m, result)
  | _ => none

namespace Middlewares

def clientIp (c : Middlewares) (req : RoutedRequest) : Option String :=
  (getClientIp req.toHttpRequest c.trustedProxies).map String.ofList

/-- Workspace, address or neither. -/
def rateLimitKey (c : Middlewares) (req : RoutedRequest) (ext : Extensions) : String :=
  ext.workspace.getD ((c.clientIp req).getD "anonymous")

def auditEvent (c : Middlewares) (o : Outside) (req : RoutedRequest) (ext : Extensions) (reply : Reply) :
    AuditEvent :=
  { AuditEvent.new o.stamp .idGeneration ext.workspace (req.method.text ++ " " ++ req.pathText)
      req.pathText (.ofStatus (reply.status o)) with
    clientIp := some ((c.clientIp req).getD "")
    userAgent := some ((((HeaderMap.get req.headers "user-agent").bind HeaderValue.toStr).map
      String.ofList).getD "")
    durationMs := o.durationMs }

/-- The verdict of the authentication on the request. -/
def verdict (c : Middlewares) (o : Outside) (req : RoutedRequest) (s : RouterState) :
    ApiKeyAuth.Verdict × FailureMap :=
  c.auth.authMiddleware o.validateKey s.limiter.now s.failures req.toHttpRequest

def run (c : Middlewares) (o : Outside) (req : RoutedRequest) (last : Extensions → Reply) :
    List Layer → Extensions → RouterState → Option (Reply × RouterState)
  | [], ext, s => some (last ext, s)
  | .auth :: layers, ext, s =>
    let out := c.verdict o req s
    let s := { s with failures := out.2 }
    match out.1 with
    | .next workspaceId role =>
      run c o req last layers { ext with workspaceId := some workspaceId, role := some role } s
    | .tooManyRequests => some (.refused 429, s)
    | .unauthorized => some (.refused 401, s)
  | .anonymousBlock :: layers, ext, s =>
    match ext.role with
    | some .anonymous => some (.refused 401, s)
    | some _ => run c o req last layers ext s
    | none => some (.refused 401, s)
  | .adminRequired :: layers, ext, s =>
    if ext.role = some .admin then run c o req last layers ext s else some (.refused 403, s)
  | .apiVersion :: layers, ext, s =>
    if req.apiVersionSupported then run c o req last layers ext s else some (.refused 400, s)
  | .cors :: layers, ext, s =>
    if req.method = .options then some (.refused 200, s) else run c o req last layers ext s
  -- The language of the texts and the headers of the response are not looked at here.
  | .locale :: layers, ext, s => run c o req last layers ext s
  | .setResponseHeader _ _ :: layers, ext, s => run c o req last layers ext s
  | .extension _ :: layers, ext, s => run c o req last layers ext s
  | .rateLimit :: layers, ext, s => do
    let (limiter, result) ← RateLimiter.checkRateLimit s.limiter (c.rateLimitKey req ext) o.bucket
    if result.allowed then run c o req last layers ext { s with limiter := limiter }
    else some (.refused 429, { s with limiter := limiter })
  | .audit :: layers, ext, s => do
    let (reply, s) ← run c o req last layers ext s
    some (reply, { s with auditLogger := s.auditLogger.log (c.auditEvent o req ext reply) })

def call (o : Outside) (handler : Handler) (ext : Extensions) : Reply :=
  match o.rejection with
  | some status => .refused status
  | none => .reached handler ext

def serve (c : Middlewares) (r : Router) (o : Outside) (req : RoutedRequest) (s : RouterState) :
    Option (Reply × RouterState) :=
  match r.find req with
  | some route => c.run o req (call o route.handler) route.layers ⟨none, none, none⟩ s
  | none =>
    -- The layers of a path are those of the router merged last.
    match (r.atPath req.path).getLast? with
    | some route => c.run o req (fun _ => .refused 405) route.layers ⟨none, none, none⟩ s
    | none => some (.refused 404, s)

end Middlewares

/-! ## Who gets through -/

inductive Access where
  | root
  | info
  | user
  | admin
  deriving DecidableEq

def Handler.access : Handler → Access
  | .handleHealth | .handleReady | .handleMetrics | .openapiJsonHandler => .root
  | .handleApiInfo => .info
  | .handleGetConfig | .handleGenerate | .handleBatchGenerate | .handleParse
  | .handleListWorkspaces | .handleGetWorkspace | .handleCreateGroup | .handleListGroups
  | .handleCreateBizTag | .handleListBizTags | .handleGetBizTag | .handleUpdateBizTag
  | .handleDeleteBizTag => .user
  | .handleCreateApiKey | .handleListApiKeys | .handleRevokeApiKey | .handleCreateWorkspace
  | .handleRegenerateUserKey | .handleUpdateRateLimit | .handleUpdateLogging
  | .handleReloadConfig | .handleSetAlgorithm => .admin

/-- The layers around every route. -/
def outerLayers : List Layer :=
  [.extension .auditLogger, .extension .auditMiddleware, .extension .rateLimitMiddleware, .cors,
    .setResponseHeader "referrer-policy" "strict-origin-when-cross-origin",
    .setResponseHeader "x-xss-protection" "1; mode=block",
    .setResponseHeader "strict-transport-security" "max-age=31536000; includeSubDomains",
    .setResponseHeader "content-security-policy" "default-src 'self'",
    .setResponseHeader "x-frame-options" "DENY",
    .setResponseHeader "x-content-type-options" "nosniff"]

def Access.layers : Access → List Layer
  | .root => outerLayers
  | .info => outerLayers ++ [.locale, .apiVersion]
  | .user => outerLayers ++ [.locale, .apiVersion, .auth, .anonymousBlock]
  | .admin => outerLayers ++ [.locale, .apiVersion, .auth, .adminRequired]

theorem layers_createRouter : ∀ route ∈ createRouter, route.layers = route.handler.access.layers := by
  decide

/-- The methods of the routes; none of them is `OPTIONS`. -/
theorem method_createRouter : ∀ route ∈ createRouter,
    route.method = .get ∨ route.method = .post ∨ route.method = .put ∨ route.method = .delete := by
  decide

namespace Middlewares

variable {c : Middlewares} {o : Outside} {req : RoutedRequest} {last : Extensions → Reply}
  {layers : List Layer} {ext ext' : Extensions} {s s' : RouterState} {handler : Handler}
  {access : Access} {reply : Reply}

/-- A request that reaches its handler has been let through by the first layer. -/
theorem run_cons {layer : Layer}
    (h : c.run o req last (layer :: layers) ext s = some (.reached handler ext', s')) :
    ∃ ext₁ s₁ s₂, c.run o req last layers ext₁ s₁ = some (.reached handler ext', s₂) ∧
      s₁.auditLogger = s.auditLogger ∧ s'.auditLogger.totalLogged =
        s₂.auditLogger.totalLogged + .ofNat (if layer = .audit then 1 else 0) := by
  cases layer with
  | auth =>
    simp only [run] at h
    split at h
    · exact ⟨_, _, _, h, rfl, by simp⟩
    · cases h
    · cases h
  | anonymousBlock =>
    simp only [run] at h
    split at h
    · cases h
    · exact ⟨_, _, _, h, rfl, by simp⟩
    · cases h
  | adminRequired | apiVersion =>
    simp only [run] at h
    split at h
    · exact ⟨_, _, _, h, rfl, by simp⟩
    · cases h
  | cors =>
    simp only [run] at h
    split at h
    · cases h
    · exact ⟨_, _, _, h, rfl, by simp⟩
  | locale | setResponseHeader | extension => exact ⟨_, _, _, h, rfl, by simp⟩
  | rateLimit =>
    obtain ⟨out, -, h⟩ := Option.bind_eq_some_iff.mp h
    dsimp only at h
    split at h
    · exact ⟨_, _, _, h, rfl, by simp⟩
    · cases h
  | audit =>
    obtain ⟨⟨reply, s₂⟩, hout, h⟩ := Option.bind_eq_some_iff.mp h
    obtain ⟨rfl, rfl⟩ := Prod.mk.inj (Option.some.inj h)
    exact ⟨_, _, _, hout, rfl, by simp [AuditLogger.log]⟩

/-- A request that reaches its handler is logged once by each audit layer on its way. -/
theorem log_of_reached (h : c.run o req last layers ext s = some (.reached handler ext', s')) :
    s'.auditLogger.totalLogged = s.auditLogger.totalLogged + .ofNat (layers.count .audit) := by
  induction layers generalizing ext s s' with
  | nil =>
    obtain ⟨-, rfl⟩ := Prod.mk.inj (Option.some.inj h)
    simp
  | cons layer layers ih =>
    obtain ⟨ext₁, s₁, s₂, hrest, hlogger, htotal⟩ := run_cons h
    rw [htotal, ih hrest, hlogger, UInt64.add_assoc, ← UInt64.ofNat_add, List.count_cons]
    simp only [beq_iff_eq]

/-- What the layers surround has been reached, too. -/
theorem last_of_reached (h : c.run o req last layers ext s = some (.reached handler ext', s')) :
    ∃ ext, last ext = .reached handler ext' := by
  induction layers generalizing ext s s' with
  | nil =>
    obtain ⟨hlast, -⟩ := Prod.mk.inj (Option.some.inj h)
    exact ⟨ext, hlast⟩
  | cons layer layers ih =>
    obtain ⟨ext₁, s₁, s₂, hrest, -, -⟩ := run_cons h
    exact ih hrest

/-- What a handler of this kind needs, and what it finds beside the request. -/
def Grants (c : Middlewares) (o : Outside) (req : RoutedRequest) (s : RouterState) :
    Access → Extensions → Prop
  | .root, ext => ext = ⟨none, none, none⟩
  | .info, ext => req.apiVersionSupported = true ∧ ext = ⟨none, none, none⟩
  | .user, ext => req.apiVersionSupported = true ∧ ∃ workspaceId role,
      (c.verdict o req s).1 = .next workspaceId role ∧ role ≠ .anonymous ∧
        ext = ⟨none, some workspaceId, some role⟩
  | .admin, ext => req.apiVersionSupported = true ∧ ∃ workspaceId,
      (c.verdict o req s).1 = .next workspaceId .admin ∧
        ext = ⟨none, some workspaceId, some .admin⟩

theorem run_outer (hmethod : req.method ≠ .options) :
    c.run o req last (outerLayers ++ layers) ext s = c.run o req last layers ext s := by
  simp only [outerLayers, List.cons_append, List.nil_append, run, if_neg hmethod]

theorem call_eq_reached : call o handler ext = .reached handler ext' ↔
    o.rejection = none ∧ ext' = ext := by
  unfold call
  cases o.rejection with
  | some status => simp
  | none => simp [eq_comm]

theorem run_reached_iff (hmethod : req.method ≠ .options) :
    (∃ s', c.run o req (call o handler) access.layers ⟨none, none, none⟩ s =
      some (.reached handler ext, s')) ↔ o.rejection = none ∧ c.Grants o req s access ext := by
  cases access with
  | root =>
    rw [Access.layers, ← List.append_nil outerLayers, run_outer hmethod, run]
    simp [call_eq_reached, Grants]
  | info =>
    rw [Access.layers, run_outer hmethod]
    simp only [run, Grants]
    split
    · simp [call_eq_reached, *]
    · simp [*]
  | user =>
    rw [Access.layers, run_outer hmethod]
    simp only [run, Grants]
    split
    · rename_i hversion
      cases hverdict : (c.verdict o req s).1 with
      | next workspaceId role =>
        cases role with
        | anonymous => simp
        | admin => simp [call_eq_reached, hversion]
        | user => simp [call_eq_reached, hversion]
      | tooManyRequests => simp
      | unauthorized => simp
    · simp [*]
  | admin =>
    rw [Access.layers, run_outer hmethod]
    simp only [run, Grants]
    split
    · rename_i hversion
      cases hverdict : (c.verdict o req s).1 with
      | next workspaceId role =>
        cases role with
        | anonymous => simp
        | admin => simp [call_eq_reached, hversion]
        | user => simp
      | tooManyRequests => simp
      | unauthorized => simp
    · simp [*]

theorem find_spec {route : Route} (h : createRouter.find req = some route) :
    route ∈ createRouter ∧ req.method ≠ .options := by
  have hin := List.mem_filter.mp (List.mem_of_find?_eq_some h)
  refine ⟨hin.1, ?_⟩
  have hserves := List.find?_some h
  intro hoptions
  rw [Method.serves, hoptions] at hserves
  rcases method_createRouter route hin.1 with hm | hm | hm | hm <;> simp [hm] at hserves

/-- A request that reaches a handler has found a route. -/
theorem route_of_reached {r : Router}
    (h : c.serve r o req s = some (.reached handler ext, s')) :
    ∃ route, r.find req = some route ∧ route.handler = handler ∧
      c.run o req (call o handler) route.layers ⟨none, none, none⟩ s =
        some (.reached handler ext, s') := by
  unfold serve at h
  split at h
  · rename_i route hfind
    obtain ⟨ext', hcall⟩ := last_of_reached h
    have hhandler : route.handler = handler := by
      unfold call at hcall
      split at hcall
      · cases hcall
      · exact (Reply.reached.inj hcall).1
    exact ⟨route, hfind, hhandler, hhandler ▸ h⟩
  · split at h
    · obtain ⟨-, hlast⟩ := last_of_reached h
      cases hlast
    · cases h

/-- **Which requests reach which handler** of the service. -/
theorem reached_iff : (∃ s', c.serve createRouter o req s = some (.reached handler ext, s')) ↔
    ∃ route, createRouter.find req = some route ∧ route.handler = handler ∧
      o.rejection = none ∧ c.Grants o req s handler.access ext := by
  constructor
  · rintro ⟨s', h⟩
    obtain ⟨route, hfind, rfl, hrun⟩ := route_of_reached h
    obtain ⟨hin, hmethod⟩ := find_spec hfind
    rw [layers_createRouter route hin] at hrun
    exact ⟨route, hfind, rfl, (run_reached_iff hmethod).mp ⟨s', hrun⟩⟩
  · rintro ⟨route, hfind, rfl, hgrants⟩
    obtain ⟨hin, hmethod⟩ := find_spec hfind
    obtain ⟨s', hrun⟩ := (run_reached_iff hmethod).mpr hgrants
    refine ⟨s', ?_⟩
    unfold serve
    rw [hfind]
    dsimp only
    rw [layers_createRouter route hin]
    exact hrun

/-- No layer of the service keeps a record of a request. -/
theorem unlogged_of_reached (h : c.serve createRouter o req s = some (.reached handler ext, s')) :
    s'.auditLogger.totalLogged = s.auditLogger.totalLogged := by
  obtain ⟨route, hfind, rfl, hrun⟩ := route_of_reached h
  rw [log_of_reached hrun, layers_createRouter route (find_spec hfind).1]
  cases route.handler.access <;> simp [Access.layers, outerLayers]

/-- Layers without the limiter answer every request and leave the limiter alone. -/
theorem run_answers (hnot : Layer.rateLimit ∉ layers) : ∃ reply s',
    c.run o req last layers ext s = some (reply, s') ∧ s'.limiter = s.limiter := by
  induction layers generalizing ext s with
  | nil => exact ⟨_, _, rfl, rfl⟩
  | cons layer layers ih =>
    obtain ⟨hlayer, hlayers⟩ := List.ne_and_not_mem_of_not_mem_cons hnot
    cases layer with
    | auth =>
      simp only [run]
      split
      · exact ih hlayers
      · exact ⟨_, _, rfl, rfl⟩
      · exact ⟨_, _, rfl, rfl⟩
    | anonymousBlock =>
      simp only [run]
      split
      · exact ⟨_, _, rfl, rfl⟩
      · exact ih hlayers
      · exact ⟨_, _, rfl, rfl⟩
    | adminRequired | apiVersion =>
      simp only [run]
      split
      · exact ih hlayers
      · exact ⟨_, _, rfl, rfl⟩
    | cors =>
      simp only [run]
      split
      · exact ⟨_, _, rfl, rfl⟩
      · exact ih hlayers
    | locale | setResponseHeader | extension => exact ih hlayers
    | rateLimit => exact absurd rfl hlayer
    | audit =>
      obtain ⟨reply, s', hrun, hlimiter⟩ := ih hlayers
      refine ⟨reply, { s' with
        auditLogger := s'.auditLogger.log (c.auditEvent o req ext reply) }, ?_, hlimiter⟩
      rw [run, hrun]
      rfl

/-- The service answers every request without asking its limiter. -/
theorem serve_answers (c : Middlewares) (o : Outside) (req : RoutedRequest) (s : RouterState) :
    ∃ reply s', c.serve createRouter o req s = some (reply, s') ∧ s'.limiter = s.limiter := by
  have hnot : ∀ route ∈ createRouter, Layer.rateLimit ∉ route.layers := by
    intro route hroute
    rw [layers_createRouter route hroute]
    cases route.handler.access <;> simp [Access.layers, outerLayers]
  unfold serve
  split
  · rename_i route hfind
    exact run_answers (hnot route (find_spec hfind).1)
  · split
    · rename_i route hlast
      exact run_answers (hnot route (List.mem_filter.mp (List.mem_of_getLast? hlast)).1)
    · exact ⟨_, _, rfl, rfl⟩

end Middlewares

end NebulaId
