import NebulaId.Database.KeyStore

/-!
# The handlers of keys and workspaces (`server/handlers/api_key_handlers.rs`, `workspace_handlers.rs`)

Each handler is a script over the calls of the repository. The texts of `t!` and the parser of
`expires_at` are parameters. The responses keep ids and times as they are stored; the source
prints them (and `create_workspace` parses the text of an id back).

* `deleteUserKeys_exec`: the loop of `regenerate_user_api_key`, up to the first failure.
* `createWorkspace_exec`, `regenerate_of_lists`: what a handler with two writes leaves behind,
  wherever it fails.
-/

namespace NebulaId

open Machine

abbrev Texts := String → List (String × String) → String

/-- `Display` -/
def CoreError.display (t : Texts) : CoreError → String
  | .invalidIdFormat value => t "error.invalid_id_format" [("value", value)]
  | .invalidIdString value => t "error.invalid_id_string" [("value", value)]
  | .invalidAlgorithmType value => t "error.invalid_algorithm_type" [("value", value)]
  | .clockMovedBackward lastTimestamp =>
    t "error.clock_moved_backward" [("last_timestamp", toString lastTimestamp)]
  | .sequenceOverflow timestamp => t "error.sequence_overflow" [("timestamp", toString timestamp)]
  | .segmentExhausted maxId => t "error.segment_exhausted" [("max_id", toString maxId)]
  | .databaseError value => t "error.database_error" [("value", value)]
  | .cacheError value => t "error.cache_error" [("value", value)]
  | .configurationError value => t "error.configuration_error" [("value", value)]
  | .authenticationError value => t "error.authentication_error" [("value", value)]
  | .rateLimitExceeded => t "error.rate_limit_exceeded" []
  | .notFound value => t "error.not_found" [("value", value)]
  | .workspaceDisabled value => t "error.workspace_disabled" [("value", value)]
  | .bizTagNotFound value => t "error.biz_tag_not_found" [("value", value)]
  | .apiKeyDisabled => t "error.api_key_disabled" []
  | .apiKeyExpired => t "error.api_key_expired" []
  | .invalidApiKeySignature => t "error.invalid_api_key_signature" []
  | .etcdError value => t "error.etcd_error" [("value", value)]
  | .parseError value => t "error.parse_error" [("value", value)]
  | .ioError value => t "error.io_error" [("value", value)]
  | .timeoutError => t "error.timeout_error" []
  | .internalError value => t "error.internal_error" [("value", value)]
  | .invalidInput value => t "error.invalid_input" [("value", value)]
  | .unknown => t "error.unknown" []

abbrev KeyScript (α : Type) := Script RepoCall RepoCall.Reply (Result α)

/-- The request of the HTTP interface; the handler gets the workspace separately. -/
structure CreateKeyRequest where
  name : String
  description : Option String
  role : Option String
  rateLimit : Option Int32
  expiresAt : Option String

structure UserApiKeyInfo where
  keyId : String
  keySecret : String
  keyPrefix : String

structure WorkspaceResponse extends SeaOrmRepository.Workspace where
  userApiKey : Option UserApiKeyInfo

structure RevokeApiKeyResponse where
  success : Bool
  message : String

/-- `ApiHandlers`, and the parameters of the model. -/
structure KeyHandlers where
  /-- `api_key_repo` is there. -/
  apiKeyRepo : Bool
  /-- `config_service` has a `workspace_repository`. -/
  workspaceRepository : Bool
  keyRotationGracePeriodSeconds : UInt64
  t : Texts
  parseFromRfc3339 : String → Option ℤ

namespace KeyHandlers

open Script

def mapDbError (a : KeyHandlers) (e : CoreError) : CoreError := .databaseError (e.display a.t)

/-- `self.api_key_repo.as_ref().ok_or_else(..)?` -/
def withRepo {α : Type} (a : KeyHandlers) (x : KeyScript α) : KeyScript α :=
  if a.apiKeyRepo then x
  else done (.error (.notFound
    (a.t "api.error.handlers.workspace_handlers.api_key_repo_not_configured" [])))

/-! ### The calls, with their errors mapped -/

def callListApiKeys (a : KeyHandlers) (workspaceId : Uuid) : KeyScript (List ApiKeyInfo) :=
  call (.listApiKeys workspaceId (some 1000) (some 0)) fun r => done (r.mapError a.mapDbError)

def callCreateApiKey (a : KeyHandlers) (request : CreateApiKeyRequest) :
    KeyScript ApiKeyWithSecret :=
  call (.createApiKey request) fun r => done (r.mapError a.mapDbError)

def callGetApiKeyById (a : KeyHandlers) (keyId : String) : KeyScript (Option ApiKeyInfo) :=
  call (.getApiKeyById keyId) fun r => done (r.mapError a.mapDbError)

def callDeleteApiKey (a : KeyHandlers) (id : Uuid) : KeyScript Unit :=
  call (.deleteApiKey id) fun r => done (r.mapError a.mapDbError)

def callRotateApiKey (a : KeyHandlers) (keyId : String) : KeyScript ApiKeyWithSecret :=
  call (.rotateApiKey keyId a.keyRotationGracePeriodSeconds) fun r => done (r.mapError a.mapDbError)

/-- `config_service.create_workspace` -/
def callCreateWorkspace (a : KeyHandlers) (req : SeaOrmRepository.CreateWorkspaceRequest) :
    KeyScript SeaOrmRepository.Workspace :=
  if a.workspaceRepository then
    call (.createWorkspace req) fun r => done (r.mapError a.mapDbError)
  else done (.error (a.mapDbError (.internalError "Workspace repository not configured")))

/-- `config_service.get_workspace` -/
def callGetWorkspace (a : KeyHandlers) (name : String) :
    KeyScript (Option SeaOrmRepository.Workspace) :=
  if a.workspaceRepository then
    call (.getWorkspaceByName name) fun r => done (r.mapError a.mapDbError)
  else done (.error (a.mapDbError (.internalError "Workspace repository not configured")))

/-! ### API keys -/

def parseRole (a : KeyHandlers) : Option String → Result ApiKeyRole
  | none => .ok .user
  | some r =>
    if r = "admin" then .ok .admin
    else if r = "user" then .ok .user
    else .error (.authenticationError
      (a.t "api.error.handlers.api_key_handlers.invalid_role" [("role", r)]))

def parseExpiresAt (a : KeyHandlers) : Option String → Result (Option ℤ)
  | none => .ok none
  | some ts => match a.parseFromRfc3339 ts with
    | some time => .ok (some time)
    | none => .error (.invalidIdFormat "Invalid expires_at format")

/-- An admin key is looked for under the nil workspace. -/
def guardRole (a : KeyHandlers) (workspaceId : Option Uuid) : ApiKeyRole → KeyScript Unit
  | .admin => (a.callListApiKeys 0).attempt fun existingKeys =>
    if existingKeys.any fun k => k.role = .admin then
      done (.error (.authenticationError
        (a.t "api.error.handlers.api_key_handlers.admin_key_already_exists" [])))
    else done (.ok ())
  | .user => match workspaceId with
    | none => done (.error (.invalidInput (a.t "api.error.workspace_id_required" [])))
    | some wsId => (a.callListApiKeys wsId).attempt fun existingKeys =>
      if existingKeys.any fun k => k.role = .user then
        done (.error (.authenticationError
          (a.t "api.error.handlers.api_key_handlers.user_key_already_exists"
            [("workspace_id", Id.uuidText wsId)])))
      else done (.ok ())
  | .anonymous => done (.ok ())

def coreRequest (workspaceId : Option Uuid) (req : CreateKeyRequest) (role : ApiKeyRole)
    (expiresAt : Option ℤ) : CreateApiKeyRequest where
  workspaceId := workspaceId
  name := req.name
  description := req.description
  role := role
  rateLimit := req.rateLimit
  expiresAt := expiresAt
  keySecret := none
  keyId := none

def createApiKey (a : KeyHandlers) (workspaceId : Option Uuid) (req : CreateKeyRequest) :
    KeyScript ApiKeyWithSecret :=
  a.withRepo <| match a.parseRole req.role with
    | .error e => done (.error e)
    | .ok role => (a.guardRole workspaceId role).attempt fun _ =>
      match a.parseExpiresAt req.expiresAt with
      | .error e => done (.error e)
      | .ok expiresAt => a.callCreateApiKey (coreRequest workspaceId req role expiresAt)

/-- The last admin key is looked for by the text of a row id among the key ids. -/
def guardLastAdmin (a : KeyHandlers) : Option ApiKeyInfo → KeyScript Unit
  | none => done (.ok ())
  | some key =>
    if key.role = .admin then
      (a.callListApiKeys 0).attempt fun existingKeys =>
        if (existingKeys.filter fun k => k.role = .admin).length ≤ 1 then
          done (.error (.authenticationError "Cannot revoke the last admin key"))
        else done (.ok ())
    else done (.ok ())

def revokeApiKey (a : KeyHandlers) (id : Uuid) : KeyScript RevokeApiKeyResponse :=
  a.withRepo <| (a.callGetApiKeyById (Id.uuidText id)).attempt fun keyInfo =>
    (a.guardLastAdmin keyInfo).attempt fun _ =>
      (a.callDeleteApiKey id).attempt fun _ =>
        done (.ok ⟨true, a.t "api.success.handlers.api_key_handlers.revoked"
          [("id", Id.uuidText id)]⟩)

def rotateApiKey (a : KeyHandlers) (keyId : String) : KeyScript ApiKeyWithSecret :=
  if keyId = "" then
    done (.error (.invalidInput (a.t "api.error.handlers.api_key_handlers.key_id_empty" [])))
  else a.withRepo (a.callRotateApiKey keyId)

/-! ### Workspaces -/

def userKeyRequest (workspace : SeaOrmRepository.Workspace) : CreateApiKeyRequest where
  workspaceId := some workspace.id
  name := workspace.name ++ "-user-key"
  description := some ("User API key for workspace: " ++ workspace.name)
  role := .user
  rateLimit := some 10000
  expiresAt := none
  keySecret := none
  keyId := none

def createWorkspace (a : KeyHandlers) (req : SeaOrmRepository.CreateWorkspaceRequest) :
    KeyScript WorkspaceResponse :=
  (a.callCreateWorkspace req).attempt fun workspace =>
    a.withRepo <| (a.callCreateApiKey (userKeyRequest workspace)).attempt fun userKey =>
      done (.ok ⟨workspace, some ⟨userKey.key.keyId, userKey.keySecret, userKey.key.keyPrefix⟩⟩)

def deleteUserKeys (a : KeyHandlers) : List ApiKeyInfo → KeyScript Unit
  | [] => done (.ok ())
  | key :: keys =>
    if key.role = .user then (a.callDeleteApiKey key.id).attempt fun _ => a.deleteUserKeys keys
    else a.deleteUserKeys keys

/-- `regenerate_user_api_key` once the workspace is found. -/
def replaceUserKeys (a : KeyHandlers) (workspace : SeaOrmRepository.Workspace) :
    KeyScript ApiKeyWithSecret :=
  (a.callListApiKeys workspace.id).attempt fun existingKeys =>
    (a.deleteUserKeys existingKeys).attempt fun _ =>
      (a.callCreateApiKey (userKeyRequest workspace)).attempt fun userKey =>
        if userKey.key.role = .anonymous then
          done (.error (.internalError "Anonymous role should not be persisted in database"))
        else done (.ok userKey)

def regenerateUserApiKey (a : KeyHandlers) (workspaceName : String) : KeyScript ApiKeyWithSecret :=
  (a.callGetWorkspace workspaceName).attempt fun
    | none => done (.error (.notFound
        (a.t "api.error.handlers.workspace_handlers.not_found" [("name", workspaceName)])))
    | some workspace => a.withRepo (a.replaceUserKeys workspace)

/-- The operations on keys that the handlers offer. -/
inductive KeyOp where
  | createApiKey (workspaceId : Option Uuid) (req : CreateKeyRequest)
  | revokeApiKey (id : Uuid)
  | rotateApiKey (keyId : String)
  | createWorkspace (req : SeaOrmRepository.CreateWorkspaceRequest)
  | regenerateUserApiKey (workspaceName : String)

/-- A handler without its answer. -/
def script (a : KeyHandlers) : KeyOp → KeyScript Unit
  | .createApiKey workspaceId req => (a.createApiKey workspaceId req).attempt fun _ => done (.ok ())
  | .revokeApiKey id => (a.revokeApiKey id).attempt fun _ => done (.ok ())
  | .rotateApiKey keyId => (a.rotateApiKey keyId).attempt fun _ => done (.ok ())
  | .createWorkspace req => (a.createWorkspace req).attempt fun _ => done (.ok ())
  | .regenerateUserApiKey workspaceName =>
    (a.regenerateUserApiKey workspaceName).attempt fun _ => done (.ok ())

/-- Everything is there, and the texts are empty. -/
def plainHandlers : KeyHandlers := ⟨true, true, 604800, fun _ _ => "", fun _ => none⟩

/-- Each call succeeds and draws values of its own. -/
def answering (n : ℕ) : RepoInput :=
  ⟨⟨none, ""⟩, 0, ⟨.ofNat 128 (100 + n), .ofNat 128 (200 + n), "generated-secret", "salt"⟩⟩

end KeyHandlers

/-! ## The loop of deletions -/

namespace KeyStore

def deleteKey (s : KeyStore) (id : Uuid) : KeyStore :=
  ⟨s.workspaces, s.keys.deleteById id, fun r hr => s.checkAdminKey r (List.mem_of_mem_filter hr)⟩

def deleteKeys (s : KeyStore) (ids : List Uuid) : KeyStore := ids.foldl deleteKey s

/-- The ids of the user keys that a listing of the workspace finds. -/
def listedUserIds (s : KeyStore) (workspaceId : Uuid) : List Uuid :=
  (((s.keys.rows.filter fun r => r.workspaceId = some workspaceId).take 1000).filter
    fun r => ApiKeyRole.ofStr r.role = .user).map ApiKeyRow.id

variable {s : KeyStore} {ids : List Uuid} {id : Uuid}

@[simp] theorem deleteKeys_nil : s.deleteKeys [] = s := rfl

@[simp] theorem deleteKeys_cons : s.deleteKeys (id :: ids) = (s.deleteKey id).deleteKeys ids := rfl

theorem mem_deleteKeys {r : ApiKeyRow} :
    r ∈ (s.deleteKeys ids).keys.rows ↔ r ∈ s.keys.rows ∧ r.id ∉ ids := by
  induction ids generalizing s with
  | nil => simp
  | cons id ids ih =>
    rw [deleteKeys_cons, ih, List.mem_cons, not_or]
    simp only [deleteKey, ApiKeyTable.deleteById, List.mem_filter, decide_eq_true_eq]
    exact and_assoc

theorem deleteKeys_ne (hid : id ∈ s.keys.rows.map ApiKeyRow.id) (hin : id ∈ ids) :
    s.deleteKeys ids ≠ s := by
  intro heq
  obtain ⟨r, hr, rfl⟩ := List.mem_map.mp hid
  rw [← heq] at hr
  exact (mem_deleteKeys.mp hr).2 hin

theorem listedUserIds_sublist (s : KeyStore) (workspaceId : Uuid) :
    (s.listedUserIds workspaceId).Sublist (s.keys.rows.map ApiKeyRow.id) :=
  ((List.filter_sublist.trans ((List.take_sublist _ _).trans List.filter_sublist))).map _

theorem mem_listedUserIds {workspaceId : Uuid} (h : id ∈ s.listedUserIds workspaceId) :
    ∃ r ∈ s.keys.rows, r.id = id ∧ r.workspaceId = some workspaceId ∧
      ApiKeyRole.ofStr r.role = .user := by
  obtain ⟨r, hr, rfl⟩ := List.mem_map.mp h
  obtain ⟨hr, hrole⟩ := List.mem_filter.mp hr
  obtain ⟨hr, hws⟩ := List.mem_filter.mp (List.mem_of_mem_take hr)
  exact ⟨r, hr, rfl, of_decide_eq_true hws, of_decide_eq_true hrole⟩

end KeyStore

namespace KeyHandlers

open Script KeyStore

variable {a : KeyHandlers} {h : KeyHasher} {ins : ℕ → RepoInput} {n : ℕ} {s : KeyStore}

theorem serve_deleteApiKey {i : RepoInput} {id : Uuid} (hdb : i.db.failure = none)
    (hid : id ∈ s.keys.rows.map ApiKeyRow.id) :
    serve h (.deleteApiKey id) i s = (.ok (), s.deleteKey id) := by
  have hout := ApiKeyRepository.deleteApiKey_of_mem hdb hid
  have hreply : (ApiKeyRepository.deleteApiKey i.db s.keys id).1 = .ok () := by rw [hout]
  exact Prod.ext hreply (KeyStore.ext rfl (congrArg Prod.snd hout))

theorem serve_deleteApiKey_error {i : RepoInput} (id : Uuid) (hdb : i.db.failure ≠ none) :
    ∃ e, serve h (.deleteApiKey id) i s = (.error e, s) := by
  obtain ⟨e, hout⟩ := ApiKeyRepository.deleteApiKey_of_not i.db s.keys
    fun hboth : _ ∧ id ∈ _ => hdb hboth.1
  have hreply : (ApiKeyRepository.deleteApiKey i.db s.keys id).1 = .error e := by rw [hout]
  exact ⟨e, Prod.ext hreply (KeyStore.ext rfl (congrArg Prod.snd hout))⟩

def userIds (keys : List ApiKeyInfo) : List Uuid :=
  (keys.filter fun key => key.role = .user).map ApiKeyInfo.id

/-- The deletions from number `n` on all succeed. -/
def AllAnswered (ins : ℕ → RepoInput) (n k : ℕ) : Prop := ∀ i < k, (ins (n + i)).db.failure = none

theorem allAnswered_succ {k : ℕ} : AllAnswered ins n (k + 1) ↔
    (ins n).db.failure = none ∧ AllAnswered ins (n + 1) k := by
  constructor
  · intro hall
    refine ⟨hall 0 (Nat.succ_pos k), fun i hi => ?_⟩
    rw [Nat.add_assoc, Nat.add_comm 1]
    exact hall (i + 1) (Nat.succ_lt_succ hi)
  · rintro ⟨hfirst, hrest⟩ i hi
    cases i with
    | zero => exact hfirst
    | succ i =>
      rw [Nat.add_comm i, ← Nat.add_assoc]
      exact hrest i (Nat.lt_of_succ_lt_succ hi)

/-- **The loop of deletions.** Without a failure it deletes the user keys listed; else it has
deleted those before the failure. -/
theorem deleteUserKeys_exec (a : KeyHandlers) (h : KeyHasher) (ins : ℕ → RepoInput) (n : ℕ)
    (s : KeyStore) (keys : List ApiKeyInfo)
    (hids : ∀ id ∈ userIds keys, id ∈ s.keys.rows.map ApiKeyRow.id)
    (hnodup : (userIds keys).Nodup) :
    (AllAnswered ins n (userIds keys).length →
      (a.deleteUserKeys keys).exec (serve h) ins n s =
        ⟨.ok (), n + (userIds keys).length, s.deleteKeys (userIds keys)⟩) ∧
    (¬ AllAnswered ins n (userIds keys).length →
      ∃ e m deleted, (a.deleteUserKeys keys).exec (serve h) ins n s =
          ⟨.error e, m, s.deleteKeys deleted⟩ ∧ deleted.Sublist (userIds keys) ∧
        (deleted = [] ↔ (ins n).db.failure ≠ none)) := by
  induction keys generalizing n s with
  | nil => exact ⟨fun _ => rfl, fun hnot => absurd (fun i hi => absurd hi (by simp [userIds])) hnot⟩
  | cons key keys ih =>
    by_cases hrole : key.role = .user
    · have hcons : userIds (key :: keys) = key.id :: userIds keys := by simp [userIds, hrole]
      rw [hcons] at hids hnodup ⊢
      obtain ⟨hnew, hrest⟩ := List.nodup_cons.mp hnodup
      rw [List.length_cons, allAnswered_succ, deleteUserKeys, if_pos hrole, callDeleteApiKey,
        attempt_call, exec_call]
      by_cases hdb : (ins n).db.failure = none
      · rw [serve_deleteApiKey hdb (hids _ List.mem_cons_self)]
        have hids' : ∀ id ∈ userIds keys, id ∈ (s.deleteKey key.id).keys.rows.map ApiKeyRow.id := by
          intro id hid
          obtain ⟨r, hr, rfl⟩ := List.mem_map.mp (hids id (List.mem_cons_of_mem _ hid))
          refine List.mem_map_of_mem (List.mem_filter.mpr ⟨hr, decide_eq_true ?_⟩)
          exact fun heq => hnew (heq ▸ hid)
        obtain ⟨hok, herr⟩ := ih (n + 1) (s.deleteKey key.id) hids' hrest
        constructor
        · rintro ⟨-, hall⟩
          refine (hok hall).trans ?_
          rw [deleteKeys_cons, Nat.add_assoc, Nat.add_comm 1]
        · intro hnot
          obtain ⟨e, m, deleted, hexec, hsub, -⟩ := herr fun hall => hnot ⟨hdb, hall⟩
          refine ⟨e, m, key.id :: deleted, hexec, hsub.cons_cons _, ?_⟩
          exact iff_of_false (by simp) fun hne => hne hdb
      · obtain ⟨e, hserve⟩ := serve_deleteApiKey_error (h := h) (s := s) key.id hdb
        rw [hserve]
        refine ⟨fun hall => absurd hall.1 hdb, fun _ => ?_⟩
        exact ⟨_, _, [], rfl, List.nil_sublist _, iff_of_true rfl hdb⟩
    · have hcons : userIds (key :: keys) = userIds keys := by simp [userIds, hrole]
      rw [hcons] at hids hnodup ⊢
      rw [deleteUserKeys, if_neg hrole]
      exact ih n s hids hnodup

/-! ## Creations and regenerations -/

open ApiKeyRepository

theorem serve_createApiKey_ok {i : RepoInput} {request : CreateApiKeyRequest}
    (hcheck : CheckAdminKey request.role.display request.workspaceId)
    (hc : Creates h i.db i.draw s.keys request) :
    ∃ row s', serve h (.createApiKey request) i s =
        (.ok ⟨row.response, request.keySecret.getD i.draw.secret⟩, s') ∧
      MadeFor i.now i.draw request row ∧ s'.keys.rows = s.keys.rows ++ [row] ∧
        s'.workspaces = s.workspaces := by
  obtain ⟨row, t', hout, hrows, hmade, -⟩ :=
    createApiKey_of_creates i.now (creates_checked_iff.mpr ⟨hcheck, hc⟩)
  refine ⟨row, (serve h (.createApiKey request) i s).2, Prod.ext ?_ rfl, hmade, ?_, rfl⟩
  · change (ApiKeyRepository.createApiKey h _ _ _ _ _).1 = _
    rw [hout]
  · exact (congrArg (fun out => out.2.rows) hout).trans hrows

theorem serve_createApiKey_error {i : RepoInput} {request : CreateApiKeyRequest}
    (hc : ¬ (CheckAdminKey request.role.display request.workspaceId ∧
      Creates h i.db i.draw s.keys request)) :
    ∃ e, serve h (.createApiKey request) i s = (.error e, s) := by
  obtain ⟨e, hout⟩ := createApiKey_of_not_creates i.now
    fun hcreates => hc (creates_checked_iff.mp hcreates)
  have hreply : (ApiKeyRepository.createApiKey h (checked i.db request) i.now i.draw s.keys
      request).1 = .error e := by rw [hout]
  exact ⟨e, Prod.ext hreply (KeyStore.ext rfl (congrArg Prod.snd hout))⟩

theorem checkAdminKey_userKeyRequest (workspace : SeaOrmRepository.Workspace) :
    CheckAdminKey (userKeyRequest workspace).role.display (userKeyRequest workspace).workspaceId :=
  Or.inr ⟨Option.some_ne_none _, (by decide : "user" ≠ "admin")⟩

/-- The calls of a regeneration before its loop find the workspace and list its keys. -/
structure ListsKeys (a : KeyHandlers) (ins : ℕ → RepoInput) (s : KeyStore) (workspaceName : String)
    (row : SeaOrmRepository.WorkspaceRow) : Prop where
  repository : a.workspaceRepository = true
  repo : a.apiKeyRepo = true
  searched : (ins 0).db.failure = none
  listed : (ins 1).db.failure = none
  found : s.workspaces.findBy workspaceName = some row

theorem getWorkspaceByName_eq {db : Answers} (hdb : db.failure = none)
    (t : SeaOrmRepository.WorkspaceTable) (name : String) :
    SeaOrmRepository.getWorkspaceByName db t name =
      .ok ((t.findBy name).map SeaOrmRepository.WorkspaceRow.toWorkspace) := by
  rw [SeaOrmRepository.getWorkspaceByName, hdb]

theorem listApiKeys_eq {db : Answers} (hdb : db.failure = none) (t : ApiKeyTable) (workspaceId : Uuid) :
    listApiKeys db t workspaceId (some 1000) (some 0) =
      .ok (((t.rows.filter fun r => r.workspaceId = some workspaceId).take 1000).map
        ApiKeyRow.info) := by
  rw [listApiKeys, hdb]
  rfl

theorem userIds_map_info (rows : List ApiKeyRow) : userIds (rows.map ApiKeyRow.info) =
    (rows.filter fun r => ApiKeyRole.ofStr r.role = .user).map ApiKeyRow.id := by
  rw [userIds, List.filter_map, List.map_map]
  rfl

theorem callCreateApiKey_ok {request : CreateApiKeyRequest}
    (hcheck : CheckAdminKey request.role.display request.workspaceId)
    (hc : Creates h (ins n).db (ins n).draw s.keys request) :
    ∃ row s', (a.callCreateApiKey request).exec (serve h) ins n s =
        ⟨.ok ⟨row.response, request.keySecret.getD (ins n).draw.secret⟩, n + 1, s'⟩ ∧
      MadeFor (ins n).now (ins n).draw request row ∧ s'.keys.rows = s.keys.rows ++ [row] ∧
        s'.workspaces = s.workspaces := by
  obtain ⟨row, s', hserve, hrest⟩ := serve_createApiKey_ok hcheck hc
  refine ⟨row, s', ?_, hrest⟩
  rw [callCreateApiKey, exec_call, hserve]
  rfl

theorem callCreateApiKey_error (request : CreateApiKeyRequest)
    (hc : ¬ (CheckAdminKey request.role.display request.workspaceId ∧
      Creates h (ins n).db (ins n).draw s.keys request)) :
    ∃ e, (a.callCreateApiKey request).exec (serve h) ins n s = ⟨.error e, n + 1, s⟩ := by
  obtain ⟨e, hserve⟩ := serve_createApiKey_error hc
  refine ⟨a.mapDbError e, ?_⟩
  rw [callCreateApiKey, exec_call, hserve]
  rfl

/-- The workspace of the request is inserted. -/
def InsertsFirst (a : KeyHandlers) (ins : ℕ → RepoInput) (s : KeyStore)
    (req : SeaOrmRepository.CreateWorkspaceRequest) : Prop :=
  a.workspaceRepository = true ∧
    SeaOrmRepository.InsertsWorkspace (ins 0).db (ins 0).draw.id s.workspaces req

/-- A key for the new workspace can be created. -/
def CreatesSecond (a : KeyHandlers) (h : KeyHasher) (ins : ℕ → RepoInput) (s : KeyStore)
    (req : SeaOrmRepository.CreateWorkspaceRequest) : Prop :=
  a.apiKeyRepo = true ∧ Creates h (ins 1).db (ins 1).draw s.keys
    (userKeyRequest (req.row (ins 0).draw.id (ins 0).now).toWorkspace)

/-- What a creation of a workspace comes to. -/
inductive CreatedWorkspace (a : KeyHandlers) (h : KeyHasher) (ins : ℕ → RepoInput) (s : KeyStore)
    (req : SeaOrmRepository.CreateWorkspaceRequest) : Ran (Result WorkspaceResponse) KeyStore → Prop
  | refused (e : CoreError) (m : ℕ) (hnot : ¬ InsertsFirst a ins s req) :
      CreatedWorkspace a h ins s req ⟨.error e, m, s⟩
  | alone (e : CoreError) (m : ℕ) (s' : KeyStore) (hfirst : InsertsFirst a ins s req)
      (hnot : ¬ CreatesSecond a h ins s req)
      (hworkspaces : s'.workspaces.rows =
        s.workspaces.rows ++ [req.row (ins 0).draw.id (ins 0).now])
      (hkeys : s'.keys = s.keys) : CreatedWorkspace a h ins s req ⟨.error e, m, s'⟩
  | both (response : WorkspaceResponse) (m : ℕ) (new : ApiKeyRow) (s' : KeyStore)
      (hfirst : InsertsFirst a ins s req) (hsecond : CreatesSecond a h ins s req)
      (hrole : new.role = "user") (hrows : s'.keys.rows = s.keys.rows ++ [new]) :
      CreatedWorkspace a h ins s req ⟨.ok response, m, s'⟩

theorem createWorkspace_exec (a : KeyHandlers) (h : KeyHasher) (ins : ℕ → RepoInput) (s : KeyStore)
    (req : SeaOrmRepository.CreateWorkspaceRequest) :
    CreatedWorkspace a h ins s req ((a.createWorkspace req).exec (serve h) ins 0 s) := by
  by_cases hfirst : InsertsFirst a ins s req
  · obtain ⟨hrepository, hinserts⟩ := hfirst
    obtain ⟨t', hout, hrows⟩ :=
      SeaOrmRepository.createWorkspace_of_inserts (ins 0).now hinserts
    have hserve : serve h (.createWorkspace req) (ins 0) s =
        (.ok (req.row (ins 0).draw.id (ins 0).now).toWorkspace, { s with workspaces := t' }) := by
      rw [serve, hout]
    rw [createWorkspace, callCreateWorkspace, if_pos hrepository, attempt_call, exec_call, hserve]
    change CreatedWorkspace a h ins s req ((a.withRepo ((a.callCreateApiKey
      (userKeyRequest (req.row (ins 0).draw.id (ins 0).now).toWorkspace)).attempt _)).exec
        (serve h) ins 1 { s with workspaces := t' })
    by_cases hsecond : CreatesSecond a h ins s req
    · obtain ⟨new, s', hcall, hmade, hnew, -⟩ := callCreateApiKey_ok (a := a)
        (s := { s with workspaces := t' }) (checkAdminKey_userKeyRequest _) hsecond.2
      rw [withRepo, if_pos hsecond.1, exec_attempt_ok (by rw [hcall]), hcall]
      exact .both _ _ new s' ⟨hrepository, hinserts⟩ hsecond hmade.role hnew
    · unfold withRepo
      split
      · rename_i hrepo
        obtain ⟨e, hcall⟩ := callCreateApiKey_error (a := a) (h := h) (n := 1)
          (s := { s with workspaces := t' })
          (userKeyRequest (req.row (ins 0).draw.id (ins 0).now).toWorkspace)
          fun hboth => hsecond ⟨hrepo, hboth.2⟩
        rw [exec_attempt_error (by rw [hcall]), hcall]
        exact .alone e 2 _ ⟨hrepository, hinserts⟩ hsecond hrows rfl
      · exact .alone _ 1 _ ⟨hrepository, hinserts⟩ hsecond hrows rfl
  · unfold createWorkspace callCreateWorkspace
    split
    · rename_i hrepository
      obtain ⟨e, hout⟩ := SeaOrmRepository.createWorkspace_of_not_inserts (ins 0).now
        fun hinserts => hfirst ⟨hrepository, hinserts⟩
      have hserve : serve h (.createWorkspace req) (ins 0) s = (.error (.databaseError e), s) := by
        rw [serve, hout]
      rw [attempt_call, exec_call, hserve]
      exact .refused _ _ hfirst
    · exact .refused _ _ hfirst

/-- The key of a regeneration can be created when its loop is over. -/
def CreatesAfter (h : KeyHasher) (ins : ℕ → RepoInput) (s : KeyStore)
    (row : SeaOrmRepository.WorkspaceRow) : Prop :=
  let ids := s.listedUserIds row.id
  Creates h (ins (2 + ids.length)).db (ins (2 + ids.length)).draw (s.deleteKeys ids).keys
    (userKeyRequest row.toWorkspace)

/-- What a regeneration comes to that has listed the keys of the workspace. -/
inductive Regenerated (h : KeyHasher) (ins : ℕ → RepoInput) (s : KeyStore)
    (row : SeaOrmRepository.WorkspaceRow) : Ran (Result ApiKeyWithSecret) KeyStore → Prop
  | stopped (e : CoreError) (m : ℕ) (deleted : List Uuid)
      (hnot : ¬ AllAnswered ins 2 (s.listedUserIds row.id).length)
      (hsub : deleted.Sublist (s.listedUserIds row.id))
      (hfirst : deleted = [] ↔ (ins 2).db.failure ≠ none) :
      Regenerated h ins s row ⟨.error e, m, s.deleteKeys deleted⟩
  | refused (e : CoreError) (m : ℕ) (hall : AllAnswered ins 2 (s.listedUserIds row.id).length)
      (hnot : ¬ CreatesAfter h ins s row) :
      Regenerated h ins s row ⟨.error e, m, s.deleteKeys (s.listedUserIds row.id)⟩
  | replaced (key : ApiKeyWithSecret) (m : ℕ) (new : ApiKeyRow) (s' : KeyStore)
      (hall : AllAnswered ins 2 (s.listedUserIds row.id).length)
      (hcreates : CreatesAfter h ins s row) (hrole : new.role = "user")
      (hrows : s'.keys.rows = (s.deleteKeys (s.listedUserIds row.id)).keys.rows ++ [new]) :
      Regenerated h ins s row ⟨.ok key, m, s'⟩

/-- A regeneration that does not get to its loop changes nothing. -/
theorem regenerate_of_not_lists {name : String} (hnot : ∀ row, ¬ ListsKeys a ins s name row) :
    ∃ e m, (a.regenerateUserApiKey name).exec (serve h) ins 0 s = ⟨.error e, m, s⟩ := by
  unfold regenerateUserApiKey callGetWorkspace
  split
  · rename_i hrepository
    rw [attempt_call, exec_call, serve, SeaOrmRepository.getWorkspaceByName]
    cases hdb : (ins 0).db.failure with
    | some e => exact ⟨_, _, rfl⟩
    | none =>
      cases hfound : s.workspaces.findBy name with
      | none => exact ⟨_, _, rfl⟩
      | some row =>
        change ∃ e m, (a.withRepo (a.replaceUserKeys row.toWorkspace)).exec (serve h) ins 1 s = _
        unfold withRepo
        split
        · rename_i hrepo
          unfold replaceUserKeys callListApiKeys
          rw [attempt_call, exec_call, serve, listApiKeys]
          cases hlisted : (ins 1).db.failure with
          | some e => exact ⟨_, _, rfl⟩
          | none => exact absurd ⟨hrepository, hrepo, hdb, hlisted, hfound⟩ (hnot row)
        · exact ⟨_, _, rfl⟩
  · exact ⟨_, _, rfl⟩

/-- After its loop a regeneration creates a key or fails. -/
theorem regenerate_of_lists {name : String} {row : SeaOrmRepository.WorkspaceRow}
    (hlists : ListsKeys a ins s name row) :
    Regenerated h ins s row ((a.regenerateUserApiKey name).exec (serve h) ins 0 s) := by
  obtain ⟨hrepository, hrepo, hdb, hlisted, hfound⟩ := hlists
  unfold regenerateUserApiKey callGetWorkspace
  rw [if_pos hrepository, attempt_call, exec_call, serve, getWorkspaceByName_eq hdb, hfound]
  change Regenerated h ins s row
    ((a.withRepo (a.replaceUserKeys row.toWorkspace)).exec (serve h) ins 1 s)
  rw [withRepo, if_pos hrepo, replaceUserKeys, callListApiKeys, attempt_call, exec_call, serve,
    listApiKeys_eq hlisted]
  change Regenerated h ins s row (((a.deleteUserKeys
    (((s.keys.rows.filter fun r => r.workspaceId = some row.id).take 1000).map
      ApiKeyRow.info)).attempt fun _ =>
        (a.callCreateApiKey (userKeyRequest row.toWorkspace)).attempt _).exec (serve h) ins 2 s)
  have hids : userIds _ = s.listedUserIds row.id :=
    userIds_map_info ((s.keys.rows.filter fun r => r.workspaceId = some row.id).take 1000)
  generalize (((s.keys.rows.filter fun r => r.workspaceId = some row.id).take 1000).map
    ApiKeyRow.info) = listed at hids ⊢
  have hsub := s.listedUserIds_sublist row.id
  obtain ⟨hok, herr⟩ := deleteUserKeys_exec a h ins 2 s listed
    (fun id hid => hsub.subset (hids ▸ hid)) (hids ▸ hsub.nodup s.keys.ids)
  rw [hids] at hok herr
  by_cases hall : AllAnswered ins 2 (s.listedUserIds row.id).length
  · have hloop := hok hall
    rw [exec_attempt_ok (by rw [hloop]), hloop]
    by_cases hc : CreatesAfter h ins s row
    · obtain ⟨new, s', hcall, hmade, hrows, -⟩ := callCreateApiKey_ok (a := a)
        (checkAdminKey_userKeyRequest row.toWorkspace) hc
      rw [exec_attempt_ok (by rw [hcall]), hcall]
      have hrole : new.role = "user" := hmade.role
      have huser : new.response.role = .user :=
        (congrArg ApiKeyRole.ofStr hrole).trans (by decide : ApiKeyRole.ofStr "user" = .user)
      rw [if_neg (by rw [huser]; decide)]
      exact .replaced _ _ new s' hall hc hrole hrows
    · obtain ⟨e, hcall⟩ := callCreateApiKey_error (a := a) (h := h)
        (userKeyRequest row.toWorkspace) fun hboth => hc hboth.2
      rw [exec_attempt_error (by rw [hcall]), hcall]
      exact .refused _ _ hall hc
  · obtain ⟨e, m, deleted, hloop, hdeleted, hfirst⟩ := herr hall
    rw [exec_attempt_error (by rw [hloop]), hloop]
    exact .stopped e m deleted hall hdeleted hfirst

end KeyHandlers

end NebulaId
