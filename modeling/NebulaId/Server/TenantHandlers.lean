import NebulaId.Config.Merge
import NebulaId.Snowflake.Parse
import NebulaId.Server.EntryPoints
import NebulaId.Database.Tenants
import NebulaId.Types.Texts

/-!
# The endpoints of a workspace (`server/router.rs`, `management.rs`, `server/handlers/`)

The handlers behind `v1_authenticated_routes`, over the tables of the tenants and with all
repositories configured. `serve` answers a request that has come with a user key of a workspace.
Ids and times stand in a response as they are and not as their texts.

* `route_iff`: the requests are those of the authenticated routes.
* `first_fst`, `first_snd`: checks that change nothing come first.
-/

namespace NebulaId

open Machine

open SeaOrmRepository (Catalog Replies Workspace Group)

/-! ## Requests -/

structure ParseRequest where
  id : String
  workspace : String
  group : String
  bizTag : String
  algorithm : String

def ParseRequest.validate (req : ParseRequest) : List (String × String) :=
  lengthError "workspace" 1 64 req.workspace ++ lengthError "group" 1 64 req.group ++
    lengthError "biz_tag" 1 64 req.bizTag ++ lengthError "algorithm" 0 32 req.algorithm

structure CreateGroupRequest where
  workspace : String
  name : String
  description : Option String
  maxBizTags : Option Int32

def CreateGroupRequest.validate (req : CreateGroupRequest) : List (String × String) :=
  lengthError "workspace" 1 64 req.workspace ++ lengthError "name" 1 64 req.name ++
    optional (fun n : Int32 => rangeError "max_biz_tags" 1 1000 n.toInt) req.maxBizTags

structure GroupListParams where
  workspace : String
  page : UInt64
  pageSize : UInt64

def GroupListParams.validate (params : GroupListParams) : List (String × String) :=
  rangeError "page_size" 1 100 params.pageSize.toNat

structure PaginationParams where
  workspaceId : Option String
  page : UInt64
  pageSize : UInt64

def PaginationParams.validate (params : PaginationParams) : List (String × String) :=
  rangeError "page_size" 1 100 params.pageSize.toNat

structure CreateBizTagRequest where
  workspaceId : Uuid
  groupId : Uuid
  name : String
  description : Option String
  algorithm : Option String
  format : Option String
  idPrefix : Option String
  baseStep : Option Int32
  maxStep : Option Int32
  datacenterIds : Option (List Int32)

def CreateBizTagRequest.validate (req : CreateBizTagRequest) : List (String × String) :=
  lengthError "name" 1 64 req.name ++ optional (lengthError "description" 0 512) req.description ++
    optional (lengthError "algorithm" 1 20) req.algorithm ++
    optional (lengthError "format" 1 20) req.format ++
    optional (lengthError "prefix" 0 50) req.idPrefix ++
    optional (fun n : Int32 => rangeError "base_step" 1 1000000 n.toInt) req.baseStep ++
    optional (fun n : Int32 => rangeError "max_step" 1 10000000 n.toInt) req.maxStep

structure UpdateBizTagRequest where
  name : Option String
  description : Option String
  algorithm : Option String
  format : Option String
  idPrefix : Option String
  baseStep : Option Int32
  maxStep : Option Int32
  datacenterIds : Option (List Int32)

def UpdateBizTagRequest.validate (req : UpdateBizTagRequest) : List (String × String) :=
  optional (lengthError "name" 1 64) req.name ++
    optional (lengthError "description" 0 512) req.description ++
    optional (lengthError "algorithm" 1 20) req.algorithm ++
    optional (lengthError "format" 1 20) req.format ++
    optional (lengthError "prefix" 0 50) req.idPrefix ++
    optional (fun n : Int32 => rangeError "base_step" 1 1000000 n.toInt) req.baseStep ++
    optional (fun n : Int32 => rangeError "max_step" 1 10000000 n.toInt) req.maxStep

/-- A request to one of the authenticated routes, with what its path and its body read as. -/
inductive TenantRequest where
  | getConfig
  | generate (req : GenerateRequest)
  | batchGenerate (req : BatchGenerateRequest)
  | parse (req : ParseRequest)
  | listWorkspaces
  | getWorkspace (name : String)
  | createGroup (req : CreateGroupRequest)
  | listGroups (params : GroupListParams)
  | createBizTag (req : CreateBizTagRequest)
  | listBizTags (params : PaginationParams)
  | getBizTag (id : String)
  | updateBizTag (id : String) (req : UpdateBizTagRequest)
  | deleteBizTag (id : String)

def TenantRequest.handler : TenantRequest → Handler
  | .getConfig => .handleGetConfig
  | .generate _ => .handleGenerate
  | .batchGenerate _ => .handleBatchGenerate
  | .parse _ => .handleParse
  | .listWorkspaces => .handleListWorkspaces
  | .getWorkspace _ => .handleGetWorkspace
  | .createGroup _ => .handleCreateGroup
  | .listGroups _ => .handleListGroups
  | .createBizTag _ => .handleCreateBizTag
  | .listBizTags _ => .handleListBizTags
  | .getBizTag _ => .handleGetBizTag
  | .updateBizTag _ _ => .handleUpdateBizTag
  | .deleteBizTag _ => .handleDeleteBizTag

theorem handlers_v1AuthenticatedRoutes : v1AuthenticatedRoutes.map Route.handler =
    [.handleGetConfig, .handleGenerate, .handleBatchGenerate, .handleParse, .handleListWorkspaces,
      .handleGetWorkspace, .handleCreateGroup, .handleListGroups, .handleCreateBizTag,
      .handleListBizTags, .handleGetBizTag, .handleUpdateBizTag, .handleDeleteBizTag] := rfl

/-- The requests are those of the authenticated routes. -/
theorem route_iff {handler : Handler} : handler ∈ v1AuthenticatedRoutes.map Route.handler ↔
    ∃ req : TenantRequest, req.handler = handler := by
  rw [handlers_v1AuthenticatedRoutes]
  constructor
  · intro h
    simp only [List.mem_cons, List.not_mem_nil, or_false] at h
    rcases h with rfl | rfl | rfl | rfl | rfl | rfl | rfl | rfl | rfl | rfl | rfl | rfl | rfl
    · exact ⟨.getConfig, rfl⟩
    · exact ⟨.generate ⟨"", "", "", none⟩, rfl⟩
    · exact ⟨.batchGenerate ⟨"", "", "", none, none⟩, rfl⟩
    · exact ⟨.parse ⟨"", "", "", "", ""⟩, rfl⟩
    · exact ⟨.listWorkspaces, rfl⟩
    · exact ⟨.getWorkspace "", rfl⟩
    · exact ⟨.createGroup ⟨"", "", none, none⟩, rfl⟩
    · exact ⟨.listGroups ⟨"", 1, 1⟩, rfl⟩
    · exact ⟨.createBizTag ⟨0, 0, "", none, none, none, none, none, none, none⟩, rfl⟩
    · exact ⟨.listBizTags ⟨none, 1, 1⟩, rfl⟩
    · exact ⟨.getBizTag "", rfl⟩
    · exact ⟨.updateBizTag "" ⟨none, none, none, none, none, none, none, none⟩, rfl⟩
    · exact ⟨.deleteBizTag "", rfl⟩
  · rintro ⟨req, rfl⟩
    cases req <;> simp [TenantRequest.handler]

/-! ## Responses -/

structure ParseResponse where
  originalId : String
  numericValue : String
  algorithm : String
  metadata : IdMetadataResponse
  timestamp : String

structure WorkspaceListResponse where
  workspaces : List Workspace
  total : ℕ

structure GroupResponse where
  id : Uuid
  workspaceId : Uuid
  workspaceName : String
  name : String
  description : Option String
  maxBizTags : Int32
  createdAt : ℤ
  updatedAt : ℤ

def GroupResponse.of (ws : Workspace) (group : Group) : GroupResponse :=
  ⟨group.id, ws.id, ws.name, group.name, group.description, group.maxBizTags, group.createdAt,
    group.updatedAt⟩

structure GroupListResponse where
  groups : List GroupResponse
  total : ℕ

structure BizTagListResponse where
  bizTags : List SeaOrmRepository.BizTag
  total : ℕ
  page : UInt64
  pageSize : UInt64

/-- The secure configuration is rendered from `config`. -/
inductive TenantResponse where
  | config (config : FullConfig)
  | generated (resp : GenerateResponse)
  | batch (resp : BatchGenerateResponse)
  | parsed (resp : ParseResponse)
  | workspaces (resp : WorkspaceListResponse)
  | workspace (ws : Workspace)
  | group (resp : GroupResponse)
  | groups (resp : GroupListResponse)
  | bizTag (tag : SeaOrmRepository.BizTag)
  | bizTags (resp : BizTagListResponse)
  | noContent

/-! ## Parsing -/

/-- The `uuid` crate: `parse_str`, and `get_timestamp` with its seconds and nanoseconds. -/
structure UuidCrate where
  parseStr : String → Option Uuid
  getTimestamp : Uuid → Option (UInt64 × UInt32)

/-- `Id::from_string` -/
def Id.fromString (uuids : UuidCrate) (s : String) : Result Id :=
  let cleaned := String.ofList ((s.toList.dropWhile isWhitespace).rdropWhile isWhitespace)
  let asUuid := if '-' ∈ cleaned.toList ∧ cleaned.utf8ByteSize = 36 then uuids.parseStr cleaned else none
  match asUuid with
  | some uuid => .ok ⟨uuid⟩
  | none => match parseUnsigned (2 ^ 128) cleaned with
    | some value => .ok ⟨.ofNat 128 value⟩
    | none => .error (.invalidIdString s)

def IdFormat.fromStr (s : String) : Result IdFormat :=
  match toLowercase s with
  | "numeric" => .ok .numeric
  | "prefixed" => .ok .prefixed
  | "uuid" => .ok .uuid
  | _ => .error (.invalidIdFormat s)

/-- The metadata of an algorithm whose ids have none but its name and perhaps a tag. -/
def plainMetadata (timestamp : UInt64) (algorithm bizTag : String) : IdMetadataResponse :=
  ⟨timestamp, 0, 0, 0, algorithm, bizTag⟩

def extractUuidV7Metadata (uuids : UuidCrate) (id : Id) : IdMetadataResponse :=
  plainMetadata (((uuids.getTimestamp id.value).map fun (secs, nanos) =>
    secs * 1000 + (nanos / 1000000).toUInt64).getD 0) "uuid_v7" ""

def extractSegmentMetadata (_id : Id) (bizTag : String) : IdMetadataResponse :=
  plainMetadata 0 "segment" bizTag

def ApiHandlers.parse (uuids : UuidCrate) (t : Texts) (h : ApiHandlers) (timestamp : String)
    (req : ParseRequest) : Result ParseResponse := do
  let id ← (Id.fromString uuids req.id).mapError fun e =>
    .invalidIdString (t "api.error.handlers.id_handlers.parse_id_failed" [("error", e.display t)])
  let algorithm :=
    if req.algorithm.isEmpty then
      match h.idGenerator.getAlgorithmName req.workspace req.group req.bizTag with
      | .ok name => name
      | .error _ => "unknown"
    else req.algorithm
  let metadata := match algorithm with
    | "snowflake" => extractSnowflakeMetadata id
    | "uuid_v7" => extractUuidV7Metadata uuids id
    | "segment" => extractSegmentMetadata id req.bizTag
    | _ => plainMetadata 0 "unknown" req.bizTag
  .ok ⟨req.id, toString id.asU128.toNat, algorithm, metadata, timestamp⟩

/-- The request of the repository, once its algorithm and its format have been parsed. -/
def CreateBizTagRequest.core (req : CreateBizTagRequest) :
    Result SeaOrmRepository.CreateBizTagRequest := do
  let algorithm := req.algorithm.getD "segment"
  let format := req.format.getD "numeric"
  let parsedAlgorithm ← (AlgorithmType.fromStr algorithm).mapError fun _ => .invalidAlgorithmType algorithm
  let parsedFormat ← (IdFormat.fromStr format).mapError fun _ => .invalidIdFormat format
  .ok ⟨req.workspaceId, req.groupId, req.name, req.description, some parsedAlgorithm,
    some parsedFormat, req.idPrefix, req.baseStep, req.maxStep, req.datacenterIds⟩

def UpdateBizTagRequest.core (req : UpdateBizTagRequest) :
    Result SeaOrmRepository.UpdateBizTagRequest := do
  let algorithm ← req.algorithm.mapM fun a =>
    (AlgorithmType.fromStr a).mapError fun _ => .invalidAlgorithmType a
  let format ← req.format.mapM fun f => (IdFormat.fromStr f).mapError fun _ => .invalidIdFormat f
  .ok ⟨req.name, req.description, algorithm, format, req.idPrefix, req.baseStep, req.maxStep,
    req.datacenterIds⟩

/-! ## The handlers -/

/-- What a request finds beside the rows. The workspaces of `outside` and their lookup give way to
the database and its answers. -/
structure TenantService where
  uuids : UuidCrate
  outside : Surroundings
  config : FullConfig
  db : Replies
  now : ℤ
  drawn : Uuid

namespace TenantService

/-- The checks come first. -/
def first {α β : Type} (c : Catalog) (checks : Except ErrorResponse β)
    (act : β → Except ErrorResponse α × Catalog) : Except ErrorResponse α × Catalog :=
  match checks with
  | .error e => (.error e, c)
  | .ok b => act b

section First

variable {α β : Type} {c c' : Catalog} {checks checks' : Except ErrorResponse β}
  {act act' : β → Except ErrorResponse α × Catalog}

theorem first_fst (hchecks : checks = checks')
    (h : ∀ b, checks = .ok b → (act b).1 = (act' b).1) :
    (first c checks act).1 = (first c' checks' act').1 := by
  subst hchecks
  cases checks with
  | error e => rfl
  | ok b => exact h b rfl

theorem first_snd {P : Catalog → Prop} (hc : P c) (h : ∀ b, checks = .ok b → P (act b).2) :
    P (first c checks act).2 := by
  cases checks with
  | error e => exact hc
  | ok b => exact h b rfl

end First

/-- `.map_err(|e| core_error_to_response(&e, locale))` -/
def respond {α : Type} (s : TenantService) (result : Result α) : Except ErrorResponse α :=
  result.mapError (CoreError.toResponse s.outside.t)

def seeing (s : TenantService) (c : Catalog) : Surroundings :=
  { s.outside with workspaceRepository := true, workspaces := c.workspaces, lookup := s.db 0 }

variable (s : TenantService) (c : Catalog) (workspaceId : Option Uuid) (role : ApiKeyRole)

def handleParse (req : ParseRequest) : Except ErrorResponse ParseResponse := do
  validateRequest s.outside.t req.validate
  s.respond (s.outside.handlers.parse s.uuids s.outside.t s.outside.atEnd.timestamp req)

def listWorkspaces : Result WorkspaceListResponse :=
  (SeaOrmRepository.listWorkspaces s.db 0 c none none).map fun workspaces =>
    ⟨workspaces, workspaces.length⟩

def handleListWorkspaces : Except ErrorResponse WorkspaceListResponse := s.respond (s.listWorkspaces c)

def handleGetWorkspace (name : String) : Except ErrorResponse Workspace :=
  match getWorkspace true (s.db 0) c.workspaces name with
  | .ok (some ws) => .ok ws
  | .ok none => .error (.workspaceNotFound s.outside.t)
  | .error e => .error (e.toResponse s.outside.t)

/-- The workspace is looked up once more. -/
def createGroup (req : CreateGroupRequest) : Result GroupResponse × Catalog :=
  match SeaOrmRepository.getWorkspaceByName (s.db 1) c.workspaces req.workspace with
  | .error e => (.error e, c)
  | .ok none => (.error (.internalError ("Workspace '" ++ req.workspace ++ "' not found")), c)
  | .ok (some ws) =>
    let out := SeaOrmRepository.createGroup s.db 2 s.now s.drawn c
      ⟨ws.id, req.name, req.description, req.maxBizTags⟩
    (out.1.map (.of ws), out.2)

def handleCreateGroup (req : CreateGroupRequest) : Except ErrorResponse GroupResponse × Catalog :=
  first c
    (do
      validateRequest s.outside.t req.validate
      verifyUserRole s.outside.t role
      (s.seeing c).verifyWorkspace req.workspace workspaceId)
    fun _ =>
      let out := s.createGroup c req
      (s.respond out.1, out.2)

def listGroups (workspace : String) : Result GroupListResponse :=
  match SeaOrmRepository.getWorkspaceByName (s.db 0) c.workspaces workspace with
  | .error e => .error e
  | .ok none => .ok ⟨[], 0⟩
  | .ok (some ws) => (SeaOrmRepository.listGroups s.db 1 c ws.id none none).map fun groups =>
      ⟨groups.map (.of ws), groups.length⟩

def handleListGroups (params : GroupListParams) : Except ErrorResponse GroupListResponse := do
  validateRequest s.outside.t params.validate
  s.respond (s.listGroups c params.workspace)

def createBizTag (req : CreateBizTagRequest) : Result SeaOrmRepository.BizTag × Catalog :=
  match req.core with
  | .error e => (.error e, c)
  | .ok coreReq => SeaOrmRepository.createBizTag s.db 0 s.now s.drawn c coreReq

def handleCreateBizTag (req : CreateBizTagRequest) :
    Except ErrorResponse SeaOrmRepository.BizTag × Catalog :=
  first c
    (do
      validateRequest s.outside.t req.validate
      verifyUserRole s.outside.t role
      verifyWorkspaceIdMatch s.outside.t req.workspaceId workspaceId)
    fun _ =>
      let out := s.createBizTag c req
      (s.respond out.1, out.2)

def getBizTag (id : Uuid) : Result SeaOrmRepository.BizTag :=
  match SeaOrmRepository.getBizTag s.db 0 c id with
  | .error e => .error e
  | .ok none => .error (.notFound (s.outside.t "api.error.handlers.biz_tag_handlers.not_found"
      [("id", Id.uuidText id)]))
  | .ok (some bizTag) => .ok bizTag

def parseUuid (id : String) : Except ErrorResponse Uuid :=
  match s.uuids.parseStr id with
  | some uuid => .ok uuid
  | none => .error (.invalidUuid s.outside.t)

/-- A user, and a biz tag of the own workspace. -/
def ownBizTag (uuid : Uuid) : Except ErrorResponse SeaOrmRepository.BizTag := do
  verifyUserRole s.outside.t role
  let existing ← s.respond (s.getBizTag c uuid)
  verifyWorkspaceIdMatch s.outside.t existing.workspaceId workspaceId
  .ok existing

def handleGetBizTag (id : String) : Except ErrorResponse SeaOrmRepository.BizTag := do
  let uuid ← s.parseUuid id
  s.ownBizTag c workspaceId role uuid

def updateBizTag (id : Uuid) (req : UpdateBizTagRequest) :
    Result SeaOrmRepository.BizTag × Catalog :=
  match req.core with
  | .error e => (.error e, c)
  | .ok coreReq => SeaOrmRepository.updateBizTagIn s.db 1 s.now id c coreReq

def handleUpdateBizTag (id : String) (req : UpdateBizTagRequest) :
    Except ErrorResponse SeaOrmRepository.BizTag × Catalog :=
  first c
    (do
      let uuid ← s.parseUuid id
      validateRequest s.outside.t req.validate
      let _ ← s.ownBizTag c workspaceId role uuid
      .ok uuid)
    fun uuid =>
      let out := s.updateBizTag c uuid req
      (s.respond out.1, out.2)

def handleDeleteBizTag (id : String) : Except ErrorResponse Unit × Catalog :=
  first c
    (do
      let uuid ← s.parseUuid id
      let _ ← s.ownBizTag c workspaceId role uuid
      .ok uuid)
    fun uuid =>
      let out := SeaOrmRepository.deleteBizTag s.db 1 c uuid
      (s.respond out.1, out.2)

/-- `as u32` -/
def asU32 (n : UInt64) : ℕ := n.toUInt32.toNat

/-- Without a workspace the one with the nil UUID is meant. -/
def listBizTagsWithPagination (workspaceId groupId : Option Uuid) (limit offset : UInt64) :
    Result BizTagListResponse :=
  if limit = 0 then
    .error (.invalidInput (s.outside.t "api.error.handlers.biz_tag_handlers.pagination_limit_zero" []))
  else do
    let workspaceId := workspaceId.getD 0
    let bizTags ← SeaOrmRepository.listBizTags s.db 0 c workspaceId groupId (some (asU32 limit))
      (some (asU32 offset))
    let total ← SeaOrmRepository.countBizTags s.db 1 c workspaceId groupId
    .ok ⟨bizTags, total, offset / limit + 1, limit⟩

def handleListBizTags (params : PaginationParams) : Except ErrorResponse BizTagListResponse := do
  validateRequest s.outside.t params.validate
  let page := max params.page 1
  let pageSize := min (max params.pageSize 1) 100
  let offset := (page - 1) * pageSize
  let response ← s.respond (s.listBizTagsWithPagination c none none pageSize offset)
  .ok ⟨response.bizTags, response.total, page, pageSize⟩

/-- The response to a request with a user key of the workspace `w`, and the database after it. -/
def serve (w : Uuid) (c : Catalog) : TenantRequest → Except ErrorResponse TenantResponse × Catalog
  | .getConfig => (.ok (.config s.config), c)
  | .generate req => (((s.seeing c).handleGenerate (some w) .user req).map .generated, c)
  | .batchGenerate req => (((s.seeing c).handleBatchGenerate (some w) .user req).map .batch, c)
  | .parse req => ((s.handleParse req).map .parsed, c)
  | .listWorkspaces => ((s.handleListWorkspaces c).map .workspaces, c)
  | .getWorkspace name => ((s.handleGetWorkspace c name).map .workspace, c)
  | .createGroup req =>
    let out := s.handleCreateGroup c (some w) .user req
    (out.1.map .group, out.2)
  | .listGroups params => ((s.handleListGroups c params).map .groups, c)
  | .createBizTag req =>
    let out := s.handleCreateBizTag c (some w) .user req
    (out.1.map .bizTag, out.2)
  | .listBizTags params => ((s.handleListBizTags c params).map .bizTags, c)
  | .getBizTag id => ((s.handleGetBizTag c (some w) .user id).map .bizTag, c)
  | .updateBizTag id req =>
    let out := s.handleUpdateBizTag c (some w) .user id req
    (out.1.map .bizTag, out.2)
  | .deleteBizTag id =>
    let out := s.handleDeleteBizTag c (some w) .user id
    (out.1.map fun _ => .noContent, out.2)

end TenantService

end NebulaId
