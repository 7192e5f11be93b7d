import NebulaId.Server.ErrorResponses
import NebulaId.Server.IdHandlers
import NebulaId.Server.Router
import NebulaId.Types.Numbers

/-!
# Where ids are asked for (`server/router.rs`, `server/grpc.rs`)

The handlers of `POST /generate` and `POST /generate/batch` behind the router, and the methods of
the gRPC service, which have nothing in front of them. The stream of `batch_generate_stream` is the
list of its messages, and ends with the first error.

* `carries_of_http`: over HTTP every id is covered by a key of its workspace.
* `keyed_iff`: a call makes ids with a key only, if and only if it comes over HTTP, or over gRPC and
  the generator has nothing for it (or a key that nobody looks at happens to come along).
* `id_without_key`: an id over gRPC.
-/

namespace NebulaId

open Machine

/-- What a call finds: the keys when it validates one, the workspaces when it looks one up and
the handlers when it asks for ids. Others may have acted in between. -/
structure Surroundings where
  t : Texts
  hasher : KeyHasher
  middlewares : Middlewares
  keyStore : KeyStore
  validation : Answers
  touched : Bool
  now : ℤ
  workspaceRepository : Bool
  workspaces : SeaOrmRepository.WorkspaceTable
  lookup : Answers
  handlers : ApiHandlers
  atEnd : AtEnd

/-! ## Requests -/

def GenerateRequest.validate (req : GenerateRequest) : List (String × String) :=
  lengthError "workspace" 1 64 req.workspace ++ lengthError "group" 1 64 req.group ++
    lengthError "biz_tag" 1 64 req.bizTag ++ optional (lengthError "algorithm" 1 20) req.algorithm

def BatchGenerateRequest.validate (req : BatchGenerateRequest) : List (String × String) :=
  lengthError "workspace" 1 64 req.workspace ++ lengthError "group" 1 64 req.group ++
    lengthError "biz_tag" 1 64 req.bizTag ++
    optional (fun size : ℕ => rangeError "size" 1 100 size) req.size ++
    optional (lengthError "algorithm" 1 20) req.algorithm

/-- What the body of a request reads as. -/
inductive Body where
  | generate (req : GenerateRequest)
  | batchGenerate (req : BatchGenerateRequest)
  | other

structure GrpcGenerateRequest where
  nameSpace : String
  tag : String

/-- A batch, or one message of a stream. -/
structure GrpcBatchGenerateRequest where
  nameSpace : String
  tag : String
  count : Int32

/-- `count as usize` -/
def asUsize (count : Int32) : ℕ := (count.toBitVec.signExtend 64).toNat

namespace GrpcBatchGenerateRequest

def context (req : GrpcBatchGenerateRequest) : GenerateContext := ⟨req.nameSpace, req.tag, req.tag⟩

def toRequest (req : GrpcBatchGenerateRequest) : BatchGenerateRequest :=
  ⟨req.nameSpace, req.tag, req.tag, some (asUsize req.count), none⟩

end GrpcBatchGenerateRequest

/-- A message of a stream, and the handlers that it finds. -/
structure StreamTurn where
  req : GrpcBatchGenerateRequest
  handlers : ApiHandlers
  atEnd : AtEnd

inductive GrpcCall where
  | generate (req : GrpcGenerateRequest)
  | batchGenerate (req : GrpcBatchGenerateRequest)
  | batchGenerateStream (stream : List (Except String StreamTurn))
  | parse (id : String)
  | healthCheck (service : String)

structure GrpcGenerateResponse where
  id : String
  timestamp : Int64
  sequence : Int32
  workerId : Int32
  algorithm : String

/-- `timestamp.parse().unwrap_or(0)` -/
def grpcTimestamp (timestamp : String) : Int64 := (parseI64 timestamp).getD 0

inductive GrpcStatus where
  | internal (message : String)
  | invalidArgument (message : String)

inductive EntryCall where
  | http (o : Outside) (s : RouterState) (req : RoutedRequest) (body : Body)
  | grpc (metadata : HeaderMap) (call : GrpcCall)

def EntryCall.headers : EntryCall → HeaderMap
  | .http _ _ req _ => req.headers
  | .grpc metadata _ => metadata

namespace Surroundings

/-! ## The handlers -/

/-- `validate_key` -/
def validateKey (b : Surroundings) : ApiKeyAuth.ValidateKey := fun keyId keySecret =>
  (ApiKeyRepository.validateApiKey b.hasher b.validation b.touched b.now b.keyStore.keys
    (String.ofList keyId) (String.ofList keySecret)).1.toOption.join

def verifyWorkspace (b : Surroundings) (name : String) (workspaceId : Option Uuid) :
    Except ErrorResponse Unit :=
  verifyUserWorkspace b.t b.workspaceRepository b.lookup b.workspaces name workspaceId

def handleGenerate (b : Surroundings) (workspaceId : Option Uuid) (role : ApiKeyRole)
    (req : GenerateRequest) : Except ErrorResponse GenerateResponse := do
  verifyUserRole b.t role
  validateRequest b.t req.validate
  b.verifyWorkspace req.workspace workspaceId
  (b.handlers.generate b.atEnd req).1.mapError (CoreError.toResponse b.t)

def handleBatchGenerate (b : Surroundings) (workspaceId : Option Uuid) (role : ApiKeyRole)
    (req : BatchGenerateRequest) : Except ErrorResponse BatchGenerateResponse := do
  verifyUserRole b.t role
  validateRequest b.t req.validate
  b.verifyWorkspace req.workspace workspaceId
  (b.handlers.batchGenerate b.t b.atEnd req).1.mapError (CoreError.toResponse b.t)

def grpcGenerate (b : Surroundings) (req : GrpcGenerateRequest) :
    Except GrpcStatus GrpcGenerateResponse :=
  match (b.handlers.generate b.atEnd ⟨req.nameSpace, req.tag, req.tag, none⟩).1 with
  | .ok resp => .ok ⟨resp.id, grpcTimestamp resp.timestamp, 0, 0, resp.algorithm⟩
  | .error e => .error (.internal (e.display b.t))

def grpcBatchGenerate (b : Surroundings) (req : GrpcBatchGenerateRequest) :
    Except GrpcStatus (List GrpcGenerateResponse) :=
  if req.count = 0 then .error (.invalidArgument "Batch size cannot be zero")
  else if req.count > 100 then .error (.invalidArgument ("Batch size " ++ toString req.count ++
    " exceeds maximum allowed value of 100"))
  else match (b.handlers.batchGenerate b.t b.atEnd req.toRequest).1 with
    | .ok resp =>
      let timestamp := grpcTimestamp resp.timestamp
      .ok (resp.ids.map fun id => ⟨id, timestamp, 0, 0, resp.algorithm⟩)
    | .error e => .error (.internal (e.display b.t))

def answerTurn (b : Surroundings) (turn : StreamTurn) : Result BatchGenerateResponse :=
  (turn.handlers.batchGenerate b.t turn.atEnd turn.req.toRequest).1

def grpcBatchGenerateStream (b : Surroundings) :
    List (Except String StreamTurn) → List GrpcGenerateResponse
  | [] => []
  | .error e :: _ => [⟨"", 0, 0, 0, "stream error: " ++ e⟩]
  | .ok turn :: stream =>
    (match b.answerTurn turn with
    | .ok resp =>
      let timestamp := grpcTimestamp resp.timestamp
      resp.ids.map fun id => ⟨id, timestamp, 0, 0, resp.algorithm⟩
    | .error e => [⟨"", 0, 0, 0, "error: " ++ e.display b.t⟩]) ++ b.grpcBatchGenerateStream stream

/-- The messages before the first error. -/
def received : List (Except String StreamTurn) → List StreamTurn
  | .ok turn :: stream => turn :: received stream
  | _ => []

/-! ## The workspaces that ids are made for -/

/-- The workspace of a request that is answered with ids. -/
def madeFor {ε α : Type} (workspace : String) : Except ε α → List String
  | .ok _ => [workspace]
  | .error _ => []

def handlerMakes (b : Surroundings) (ext : Extensions) : Handler → Body → List String
  | .handleGenerate, .generate req => match ext.workspaceId, ext.role with
    | some workspaceId, some role => madeFor req.workspace (b.handleGenerate workspaceId role req)
    | _, _ => []
  | .handleBatchGenerate, .batchGenerate req => match ext.workspaceId, ext.role with
    | some workspaceId, some role =>
      madeFor req.workspace (b.handleBatchGenerate workspaceId role req)
    | _, _ => []
  | _, _ => []

def made (b : Surroundings) : EntryCall → List String
  | .http o s req body =>
    match b.middlewares.serve createRouter { o with validateKey := b.validateKey } req s with
    | some (.reached handler ext, _) => b.handlerMakes ext handler body
    | _ => []
  | .grpc _ (.generate req) => madeFor req.nameSpace (b.grpcGenerate req)
  | .grpc _ (.batchGenerate req) => madeFor req.nameSpace (b.grpcBatchGenerate req)
  | .grpc _ (.batchGenerateStream stream) =>
    (received stream).flatMap fun turn => madeFor turn.req.nameSpace (b.answerTurn turn)
  | .grpc _ (.parse _) => []
  | .grpc _ (.healthCheck _) => []

/-- The headers carry a secret that is accepted for a user key of the workspace. -/
def Carries (b : Surroundings) (headers : HeaderMap) (workspace : String) : Prop :=
  ∃ keyId keySecret, b.middlewares.auth.credentials (HeaderMap.get headers "authorization") =
      some (keyId, keySecret) ∧
    ∃ row ∈ b.workspaces.rows, row.name = workspace ∧
      (ApiKeyRepository.validateApiKey b.hasher b.validation b.touched b.now b.keyStore.keys
        (String.ofList keyId) (String.ofList keySecret)).1 = .ok (some (some row.id, .user))

def Keyed (b : Surroundings) (call : EntryCall) : Prop :=
  ∀ workspace ∈ b.made call, b.Carries call.headers workspace

/-- The generator has ids for so many of this tag. -/
def HasBatch (h : ApiHandlers) (req : GrpcBatchGenerateRequest) : Prop :=
  asUsize req.count ≠ 0 ∧ asUsize req.count ≤ h.batchMaxSize.toNat ∧
    ∃ batch, (h.idGenerator.batchGenerate req.context (asUsize req.count)).1 = .ok batch

/-- Over HTTP; or the generator has nothing for it, or a key comes along that nobody asks for. -/
def Covered (b : Surroundings) : EntryCall → Prop
  | .http _ _ _ _ => True
  | .grpc metadata (.generate req) =>
    (∃ id, (b.handlers.idGenerator.generate ⟨req.nameSpace, req.tag, req.tag⟩).1 = .ok id) →
      b.Carries metadata req.nameSpace
  | .grpc metadata (.batchGenerate req) =>
    req.count ≠ 0 → req.count ≤ 100 → HasBatch b.handlers req → b.Carries metadata req.nameSpace
  | .grpc metadata (.batchGenerateStream stream) =>
    ∀ turn ∈ received stream, HasBatch turn.handlers turn.req → b.Carries metadata turn.req.nameSpace
  | .grpc _ (.parse _) => True
  | .grpc _ (.healthCheck _) => True

variable {b : Surroundings} {workspace : String} {workspaceId : Option Uuid} {role : ApiKeyRole}

theorem mem_madeFor {ε α : Type} {x : Except ε α} {name : String} :
    name ∈ madeFor workspace x ↔ name = workspace ∧ ∃ a, x = .ok a := by
  cases x with
  | ok a => simp [madeFor]
  | error e => simp [madeFor]

/-! ## Over HTTP -/

/-- A user key has a workspace. -/
theorem bound_of_user {keyId keySecret : String}
    (h : (ApiKeyRepository.validateApiKey b.hasher b.validation b.touched b.now b.keyStore.keys
      keyId keySecret).1 = .ok (some (workspaceId, .user))) : ∃ id, workspaceId = some id := by
  unfold ApiKeyRepository.validateApiKey at h
  split at h
  · cases h
  · split at h
    · rename_i row hfind
      split at h
      · obtain ⟨rfl, hrole⟩ := Prod.mk.inj (Option.some.inj (Except.ok.inj h))
        have hrow := (ApiKeyTable.findByKeyId_eq_some.mp hfind).1
        rcases b.keyStore.checkAdminKey row hrow with ⟨-, hadmin⟩ | ⟨hbound, -⟩
        · rw [ApiKeyRole.ofStr_eq_admin_iff.mpr hadmin] at hrole
          cases hrole
        · exact Option.ne_none_iff_exists'.mp hbound
      · cases h
    · cases h

theorem validateKey_eq_some {keyId keySecret : List Char} {who : Option Uuid × ApiKeyRole} :
    b.validateKey keyId keySecret = some who ↔
      (ApiKeyRepository.validateApiKey b.hasher b.validation b.touched b.now b.keyStore.keys
        (String.ofList keyId) (String.ofList keySecret)).1 = .ok (some who) := by
  unfold validateKey
  cases (ApiKeyRepository.validateApiKey b.hasher b.validation b.touched b.now b.keyStore.keys
    (String.ofList keyId) (String.ofList keySecret)).1 with
  | ok found => simp [Except.toOption]
  | error e => simp [Except.toOption]

/-- With authentication a request that passes has come with accepted credentials. -/
theorem credentials_of_verdict {o : Outside} {s : RouterState} {req : RoutedRequest}
    (hon : b.middlewares.auth.enabled = true)
    (hverdict : (b.middlewares.verdict { o with validateKey := b.validateKey } req s).1 =
      .next workspaceId role) :
    ∃ keyId keySecret, b.middlewares.auth.credentials (HeaderMap.get req.headers "authorization") =
      some (keyId, keySecret) ∧ b.validateKey keyId keySecret = some (workspaceId, role) := by
  unfold Middlewares.verdict ApiKeyAuth.authMiddleware at hverdict
  rw [if_pos hon] at hverdict
  dsimp only at hverdict
  split at hverdict
  · split at hverdict
    · rename_i hvalid
      obtain ⟨⟨keyId, keySecret⟩, hcred, hkey⟩ := Option.bind_eq_some_iff.mp hvalid
      obtain ⟨rfl, rfl⟩ := ApiKeyAuth.Verdict.next.inj hverdict
      exact ⟨keyId, keySecret, hcred, hkey⟩
    · cases hverdict
  · cases hverdict

/-- A user key that passes the check of the workspace is a key of that workspace. -/
theorem carries_of_verdict {o : Outside} {s : RouterState} {req : RoutedRequest}
    (hon : b.middlewares.auth.enabled = true)
    (hverdict : (b.middlewares.verdict { o with validateKey := b.validateKey } req s).1 =
      .next workspaceId .user)
    (hverify : b.verifyWorkspace workspace workspaceId = .ok ()) :
    b.Carries req.headers workspace := by
  obtain ⟨keyId, keySecret, hcred, hkey⟩ := credentials_of_verdict hon hverdict
  rw [validateKey_eq_some] at hkey
  obtain ⟨id, rfl⟩ := bound_of_user hkey
  obtain ⟨-, -, row, hrow, hname, rfl⟩ := verifyUserWorkspace_eq_ok.mp hverify
  exact ⟨keyId, keySecret, hcred, row, hrow, hname, hkey⟩

/-- The checks of both handlers. -/
theorem checks_of_ok {α : Type} {errors : List (String × String)} {x : Except ErrorResponse α} {a : α}
    (h : (do
      verifyUserRole b.t role
      validateRequest b.t errors
      b.verifyWorkspace workspace workspaceId
      x) = .ok a) : role = .user ∧ b.verifyWorkspace workspace workspaceId = .ok () := by
  obtain ⟨⟨⟩, hrole, h⟩ := except_bind_eq_ok.mp h
  obtain ⟨⟨⟩, -, h⟩ := except_bind_eq_ok.mp h
  obtain ⟨⟨⟩, hverify, -⟩ := except_bind_eq_ok.mp h
  exact ⟨verifyUserRole_eq_ok.mp hrole, hverify⟩

theorem carries_of_http {o : Outside} {s : RouterState} {req : RoutedRequest} {body : Body}
    (hon : b.middlewares.auth.enabled = true)
    (hmade : workspace ∈ b.made (.http o s req body)) : b.Carries req.headers workspace := by
  simp only [made] at hmade
  split at hmade
  · rename_i handler ext s' hserve
    obtain ⟨route, -, -, -, hgrants⟩ := Middlewares.reached_iff.mp ⟨s', hserve⟩
    cases handler with
    | handleGenerate =>
      obtain ⟨-, workspaceId, role, hverdict, -, rfl⟩ := hgrants
      cases body with
      | generate body =>
        obtain ⟨rfl, response, hok⟩ := mem_madeFor.mp hmade
        obtain ⟨rfl, hverify⟩ := checks_of_ok hok
        exact carries_of_verdict hon hverdict hverify
      | batchGenerate body => cases hmade
      | other => cases hmade
    | handleBatchGenerate =>
      obtain ⟨-, workspaceId, role, hverdict, -, rfl⟩ := hgrants
      cases body with
      | generate body => cases hmade
      | batchGenerate body =>
        obtain ⟨rfl, response, hok⟩ := mem_madeFor.mp hmade
        obtain ⟨rfl, hverify⟩ := checks_of_ok hok
        exact carries_of_verdict hon hverdict hverify
      | other => cases hmade
    | _ => cases hmade
  · cases hmade

/-! ## Over gRPC -/

theorem generate_ok_iff (h : ApiHandlers) (atEnd : AtEnd) (group bizTag : String) :
    (∃ resp, (h.generate atEnd ⟨workspace, group, bizTag, none⟩).1 = .ok resp) ↔
      ∃ id, (h.idGenerator.generate ⟨workspace, group, bizTag⟩).1 = .ok id := by
  simp only [ApiHandlers.generate, parseAlgorithm]
  cases (h.idGenerator.generate ⟨workspace, group, bizTag⟩).1 with
  | ok id => simp
  | error e => simp

theorem batchGenerate_ok_iff (t : Texts) (h : ApiHandlers) (atEnd : AtEnd)
    (req : GrpcBatchGenerateRequest) :
    (∃ resp, (h.batchGenerate t atEnd req.toRequest).1 = .ok resp) ↔ HasBatch h req := by
  simp only [ApiHandlers.batchGenerate, parseAlgorithm, GrpcBatchGenerateRequest.toRequest,
    HasBatch, GrpcBatchGenerateRequest.context, Option.getD_some]
  by_cases hzero : asUsize req.count = 0
  · simp [hzero]
  · by_cases hmax : asUsize req.count > h.batchMaxSize.toNat
    · simp [hzero, hmax, Nat.not_le.mpr hmax]
    · cases (h.idGenerator.batchGenerate ⟨req.nameSpace, req.tag, req.tag⟩ (asUsize req.count)).1 with
      | ok batch => simp [hzero, hmax, Nat.not_lt.mp hmax, Except.map]
      | error e => simp [hzero, hmax, Except.map]

theorem grpcGenerate_ok_iff {req : GrpcGenerateRequest} :
    (∃ resp, b.grpcGenerate req = .ok resp) ↔
      ∃ id, (b.handlers.idGenerator.generate ⟨req.nameSpace, req.tag, req.tag⟩).1 = .ok id := by
  rw [← generate_ok_iff b.handlers b.atEnd]
  unfold grpcGenerate
  cases (b.handlers.generate b.atEnd ⟨req.nameSpace, req.tag, req.tag, none⟩).1 with
  | ok resp => simp
  | error e => simp

theorem grpcBatchGenerate_ok_iff {req : GrpcBatchGenerateRequest} :
    (∃ resp, b.grpcBatchGenerate req = .ok resp) ↔
      req.count ≠ 0 ∧ req.count ≤ 100 ∧ HasBatch b.handlers req := by
  unfold grpcBatchGenerate
  by_cases hzero : req.count = 0
  · simp [hzero]
  · rw [if_neg hzero]
    by_cases hmax : req.count > 100
    · simp [hmax, Int32.not_le.mpr hmax]
    · rw [if_neg hmax, ← batchGenerate_ok_iff b.t b.handlers b.atEnd]
      cases (b.handlers.batchGenerate b.t b.atEnd req.toRequest).1 with
      | ok resp => simp [hzero, Int32.not_lt.mp hmax]
      | error e => simp

/-- **Ids with a key only**, if and only if nothing is made over gRPC without one. -/
theorem keyed_iff (b : Surroundings) (hon : b.middlewares.auth.enabled = true) (call : EntryCall) :
    b.Keyed call ↔ b.Covered call := by
  cases call with
  | http o s req body => exact iff_of_true (fun workspace hmade => carries_of_http hon hmade) trivial
  | grpc metadata call =>
    cases call with
    | generate req =>
      simp only [Keyed, made, mem_madeFor, Covered, EntryCall.headers, grpcGenerate_ok_iff]
      exact ⟨fun h hid => h _ ⟨rfl, hid⟩, by rintro h _ ⟨rfl, hid⟩; exact h hid⟩
    | batchGenerate req =>
      simp only [Keyed, made, mem_madeFor, Covered, EntryCall.headers, grpcBatchGenerate_ok_iff]
      constructor
      · intro h hzero hmax hbatch
        exact h _ ⟨rfl, hzero, hmax, hbatch⟩
      · rintro h _ ⟨rfl, hzero, hmax, hbatch⟩
        exact h hzero hmax hbatch
    | batchGenerateStream stream =>
      simp only [Keyed, made, List.mem_flatMap, mem_madeFor, Covered, EntryCall.headers, answerTurn,
        batchGenerate_ok_iff]
      constructor
      · intro h turn hturn hbatch
        exact h _ ⟨turn, hturn, rfl, hbatch⟩
      · rintro h _ ⟨turn, hturn, rfl, hbatch⟩
        exact h turn hturn hbatch
    | parse id => exact iff_of_true (fun _ hmade => by cases hmade) trivial
    | healthCheck service => exact iff_of_true (fun _ hmade => by cases hmade) trivial

/-- A service without a workspace and without a key. -/
def bare : Surroundings where
  t := fun key _ => key
  hasher := ApiKeyState.plainHasher
  middlewares := ⟨⟨true, [], fun _ => none⟩, []⟩
  keyStore := .empty
  validation := ⟨none, ""⟩
  touched := true
  now := 0
  workspaceRepository := true
  workspaces := .empty
  lookup := ⟨none, ""⟩
  handlers := ApiHandlers.segmentDown
  atEnd := ApiHandlers.atNoon

/-- An empty batch is refused, whoever asks for it. -/
theorem keyed_empty_batch :
    bare.Keyed (.grpc [] (.batchGenerate ⟨"acme", "orders", 0⟩)) :=
  (keyed_iff bare rfl _).mpr fun hcount => absurd rfl hcount

/-- An id for a workspace that nobody has, over gRPC and without a key. -/
theorem id_without_key : bare.middlewares.auth.enabled = true ∧
    ¬ bare.Keyed (.grpc [] (.generate ⟨"acme", "orders"⟩)) := by
  refine ⟨rfl, fun hkeyed => ?_⟩
  obtain ⟨keyId, keySecret, hcred, -⟩ := hkeyed "acme" (List.mem_singleton.mpr rfl)
  cases hcred

end Surroundings

end NebulaId
