import NebulaId.Server.KeyHandlers

/-!
# Error responses (`server/handlers/helpers.rs`)

What a client is told about an error, in the texts of its language: the message of a server error
is fixed, that of a client error is cut after 200 bytes.
-/

namespace NebulaId

structure ErrorResponse where
  code : ℕ
  message : String
  details : Option String
  deriving DecidableEq

namespace ErrorResponse

def new (code : ℕ) (message : String) : ErrorResponse := ⟨code, message, none⟩

/-- The longest piece from the start that fits in so many bytes. -/
def fitting : ℕ → List Char → List Char
  | _, [] => []
  | bytes, c :: cs => if c.utf8Size ≤ bytes then c :: fitting (bytes - c.utf8Size) cs else []

/-- Cut after so many bytes, with a mark when something is missing. -/
def cut (bytes : ℕ) (mark : String) (s : String) : String :=
  if s.utf8ByteSize > bytes then String.ofList (fitting bytes s.toList) ++ mark else s

def maxClientMessageLen : ℕ := 200

def sanitizeForProduction (msg : String) : String := cut maxClientMessageLen "... (truncated)" msg

variable (t : Texts)

/-- The rejected fields, each with the rule it breaks. -/
def validationError (errors : List (String × String)) : ErrorResponse :=
  .new 400 (if errors = [] then t "api.error.validation_error" [("error", "")]
    else sanitizeForProduction (String.intercalate "; " (errors.map fun (field, rule) =>
      t "api.error.validation_error_field" [("field", field), ("rule", rule)])))

def invalidUuid : ErrorResponse := .new 400 (t "api.error.invalid_uuid_format" [])

def adminCannotPerform : ErrorResponse := .new 403 (t "api.error.admin_cannot_perform" [])

def authRequired : ErrorResponse := .new 401 (t "api.error.auth_required" [])

def workspaceMismatch : ErrorResponse := .new 403 (t "api.error.workspace_mismatch" [])

def workspaceNameNotFound (name : String) : ErrorResponse :=
  .new 404 (t "api.error.workspace_name_not_found" [("name", cut 64 "..." name)])

def workspaceNotFound : ErrorResponse := .new 404 (t "api.error.workspace_not_found" [])

end ErrorResponse

namespace CoreError

def statusCode : CoreError → ℕ
  | .invalidIdFormat _ | .invalidIdString _ | .invalidAlgorithmType _ | .invalidInput _
  | .parseError _ => 400
  | .authenticationError _ | .invalidApiKeySignature | .apiKeyDisabled | .apiKeyExpired => 401
  | .workspaceDisabled _ => 403
  | .notFound _ | .bizTagNotFound _ => 404
  | .rateLimitExceeded => 429
  | .timeoutError => 503
  | _ => 500

def clientMessage (t : Texts) (e : CoreError) : String :=
  match e with
  | .databaseError _ => t "api.error.database_error" []
  | .cacheError _ => t "api.error.cache_error" []
  | .internalError _ | .unknown => t "api.error.internal_error" []
  | .configurationError _ => t "api.error.configuration_error" []
  | .etcdError _ => t "api.error.etcd_error" []
  | .ioError _ => t "api.error.io_error" []
  | .clockMovedBackward _ | .sequenceOverflow _ | .segmentExhausted _ =>
    t "api.error.algorithm_error" []
  | .invalidInput _ | .notFound _ | .bizTagNotFound _ | .authenticationError _
  | .workspaceDisabled _ | .invalidIdFormat _ | .invalidIdString _ | .invalidAlgorithmType _
  | .parseError _ => ErrorResponse.sanitizeForProduction (e.display t)
  | .rateLimitExceeded | .apiKeyDisabled | .apiKeyExpired | .invalidApiKeySignature
  | .timeoutError => e.display t

/-- `core_error_to_response` -/
def toResponse (t : Texts) (e : CoreError) : ErrorResponse := .new e.statusCode (e.clientMessage t)

end CoreError

/-! ## Checks of a request -/

/-- `#[validate(length(min = .., max = ..))]` -/
def lengthError (field : String) (least most : ℕ) (s : String) : List (String × String) :=
  if least ≤ s.length ∧ s.length ≤ most then [] else [(field, "length")]

/-- `#[validate(range(min = .., max = ..))]` -/
def rangeError (field : String) (least most : ℤ) (n : ℤ) : List (String × String) :=
  if least ≤ n ∧ n ≤ most then [] else [(field, "range")]

/-- The check of a field that may be missing. -/
def optional {α : Type} (check : α → List (String × String)) : Option α → List (String × String)
  | some a => check a
  | none => []

def validateRequest (t : Texts) (errors : List (String × String)) : Except ErrorResponse Unit :=
  if errors = [] then .ok () else .error (.validationError t errors)

/-- Only a user key may do it. -/
def verifyUserRole (t : Texts) : ApiKeyRole → Except ErrorResponse Unit
  | .admin => .error (.adminCannotPerform t)
  | .anonymous => .error (.authRequired t)
  | .user => .ok ()

/-- A key without a workspace passes. -/
def verifyWorkspaceIdMatch (t : Texts) (workspaceUuid : Uuid) :
    Option Uuid → Except ErrorResponse Unit
  | none => .ok ()
  | some keyWorkspaceId =>
    if workspaceUuid = keyWorkspaceId then .ok () else .error (.workspaceMismatch t)

/-- `config_service.get_workspace`; `configured`: there is a `workspace_repository`. -/
def getWorkspace (configured : Bool) (db : Answers) (workspaces : SeaOrmRepository.WorkspaceTable)
    (name : String) : Result (Option SeaOrmRepository.Workspace) :=
  if configured then SeaOrmRepository.getWorkspaceByName db workspaces name
  else .error (.internalError "Workspace repository not configured")

/-- The workspace is looked up by its name. -/
def verifyUserWorkspace (t : Texts) (configured : Bool) (db : Answers)
    (workspaces : SeaOrmRepository.WorkspaceTable) (name : String) (keyWorkspaceId : Option Uuid) :
    Except ErrorResponse Unit :=
  match getWorkspace configured db workspaces name with
  | .error e => .error (e.toResponse t)
  | .ok none => .error (.workspaceNameNotFound t name)
  | .ok (some workspace) => verifyWorkspaceIdMatch t workspace.id keyWorkspaceId

variable {t : Texts} {configured : Bool} {db : Answers}
  {workspaces : SeaOrmRepository.WorkspaceTable} {name : String} {workspaceId : Uuid}
  {role : ApiKeyRole}

theorem verifyUserRole_eq_ok : verifyUserRole t role = .ok () ↔ role = .user := by
  cases role <;> simp [verifyUserRole]

theorem validateRequest_eq_ok {errors : List (String × String)} :
    validateRequest t errors = .ok () ↔ errors = [] := by
  unfold validateRequest
  split
  · exact iff_of_true rfl ‹_›
  · exact iff_of_false (by simp) ‹_›

/-- What has to hold of a valid request holds of one that passes. -/
theorem of_validateRequest {errors : List (String × String)} {p : Prop}
    (h : errors ≠ [] ∨ p) (hvalid : validateRequest t errors = .ok ()) : p :=
  h.resolve_left (not_not.mpr (validateRequest_eq_ok.mp hvalid))

theorem verifyWorkspaceIdMatch_eq_ok {workspaceUuid : Uuid} :
    verifyWorkspaceIdMatch t workspaceUuid (some workspaceId) = .ok () ↔
      workspaceUuid = workspaceId := by
  simp only [verifyWorkspaceIdMatch]
  split
  · exact iff_of_true rfl ‹_›
  · exact iff_of_false (by simp) ‹_›

/-- A key that is bound to a workspace passes under the name of that workspace. -/
theorem verifyUserWorkspace_eq_ok :
    verifyUserWorkspace t configured db workspaces name (some workspaceId) = .ok () ↔
      configured = true ∧ db.failure = none ∧
        ∃ row ∈ workspaces.rows, row.name = name ∧ row.id = workspaceId := by
  unfold verifyUserWorkspace getWorkspace SeaOrmRepository.getWorkspaceByName
  cases configured with
  | false => simp
  | true =>
    cases hdb : db.failure with
    | some e => simp
    | none =>
      rw [if_pos rfl]
      dsimp only
      cases hfind : workspaces.findBy name with
      | none =>
        refine iff_of_false (by simp) ?_
        rintro ⟨-, -, row, hrow, hname, -⟩
        cases hfind.symm.trans (Store.Indexed.findBy_eq_some.mpr ⟨hrow, hname⟩)
      | some row =>
        obtain ⟨hrow, hname⟩ := Store.Indexed.findBy_eq_some.mp hfind
        refine verifyWorkspaceIdMatch_eq_ok.trans ⟨fun hid => ⟨rfl, rfl, row, hrow, hname, hid⟩, ?_⟩
        rintro ⟨-, -, other, hother, hother', rfl⟩
        have hsame := Store.Indexed.findBy_eq_some.mpr ⟨hother, hother'⟩
        rw [Option.some.inj (hfind.symm.trans hsame)]
        rfl

end NebulaId
