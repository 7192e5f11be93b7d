import NebulaId.Database.KeyStore
import NebulaId.Config.Settings
import NebulaId.Machine.Along

/-!
# The admin key at startup (`main.rs`)

`load_api_keys` creates the admin key of the environment, or the first key of the configuration, or,
without either, an admin key when `get_admin_api_key` finds none. A key gets 30 days, and an error
is only logged. A debug build adds a test key when nothing is configured. Here the repository is
there and no statement fails; a unique index may still be violated.

* `hasLiveAdmin_loadApiKeys_iff`: when a startup leaves an admin key that can be used.
* `live_admin_iff`: the same along every run of startups.
* `expired_admin`: the same configuration, started again after the 30 days.
-/

namespace NebulaId

open Machine ApiKeyRepository

/-- What `load_api_keys` reads of the environment and of the configuration, and the build. -/
structure StartupConfig where
  /-- `NEBULA_ADMIN_API_KEY_SECRET` -/
  adminKeySecret : Option String
  /-- `NEBULA_ADMIN_API_KEY_ID` -/
  adminKeyId : Option String
  apiKeys : List ApiKeyEntry
  debugAssertions : Bool

/-- A startup, with the random values of the two keys that it may create. -/
structure Startup where
  config : StartupConfig
  now : ℤ
  draw : Draw
  testDraw : Draw
  /-- The text of a violated index. -/
  violation : String

namespace Startup

def envRequest (secret : String) (keyId : Option String) : CreateApiKeyRequest where
  workspaceId := none
  name := "admin"
  description := some "Admin API key from environment"
  role := .admin
  rateLimit := some 100000
  expiresAt := none
  keySecret := some secret
  keyId := keyId

/-- `parseStr` is `Uuid::parse_str`. -/
def configRequest (parseStr : String → Option Uuid) (key : ApiKeyEntry) : CreateApiKeyRequest where
  workspaceId := if key.workspace = "global" then none else some ((parseStr key.workspace).getD 0)
  name := key.name
  description := some ("Configured via config, role: " ++ key.role)
  role := if toLowercase key.role = "admin" then .admin else .user
  rateLimit := some key.rateLimit.toInt32
  expiresAt := none
  keySecret := some key.keySecret
  keyId := some key.keyId

def adminRequest : CreateApiKeyRequest where
  workspaceId := none
  name := "admin"
  description := some "Default Admin API Key"
  role := .admin
  rateLimit := some 100000
  expiresAt := none
  keySecret := none
  keyId := none

def testRequest : CreateApiKeyRequest where
  workspaceId := none
  name := "Test Admin API Key"
  description := some "Default test admin API key"
  role := .admin
  rateLimit := some 10000
  expiresAt := none
  keySecret := none
  keyId := none

def db (st : Startup) : Answers := ⟨none, st.violation⟩

/-- `repo.create_api_key(..).await`, whose errors are logged. -/
def create (h : KeyHasher) (st : Startup) (draw : Draw) (t : ApiKeyTable)
    (request : CreateApiKeyRequest) : ApiKeyTable :=
  (createApiKey h (checked st.db request) st.now draw t request).2

/-- The first part of `load_api_keys`. -/
def loadAdminKey (h : KeyHasher) (parseStr : String → Option Uuid) (st : Startup)
    (t : ApiKeyTable) : ApiKeyTable :=
  match st.config.adminKeySecret with
  | some secret => st.create h st.draw t (envRequest secret st.config.adminKeyId)
  | none => match st.config.apiKeys with
    | firstKey :: _ => st.create h st.draw t (configRequest parseStr firstKey)
    | [] => match getAdminApiKey st.db t 0 with
      | .ok (some _) => t
      | .ok none => st.create h st.draw t adminRequest
      | .error _ => t

def loadApiKeys (h : KeyHasher) (parseStr : String → Option Uuid) (st : Startup)
    (t : ApiKeyTable) : ApiKeyTable :=
  let t := st.loadAdminKey h parseStr t
  if st.config.debugAssertions && st.config.adminKeySecret.isNone && st.config.apiKeys.isEmpty then
    st.create h st.testDraw t testRequest
  else t

/-- There is an admin key that is enabled and has not expired. -/
def HasLiveAdmin (now : ℤ) (t : ApiKeyTable) : Prop :=
  ∃ r ∈ t.rows, ApiKeyRole.ofStr r.role = .admin ∧ r.live now = true

/-- The startup inserts an admin key: the one of the environment, a global one of the
configuration, a new one because `get_admin_api_key` finds none, or that of a debug build. -/
def InsertsAdmin (h : KeyHasher) (parseStr : String → Option Uuid) (st : Startup)
    (t : ApiKeyTable) : Prop :=
  match st.config.adminKeySecret with
  | some secret => Creates h st.db st.draw t (envRequest secret st.config.adminKeyId)
  | none => match st.config.apiKeys with
    | firstKey :: _ => toLowercase firstKey.role = "admin" ∧ firstKey.workspace = "global" ∧
        Creates h st.db st.draw t (configRequest parseStr firstKey)
    | [] =>
      (getAdminApiKey st.db t 0 = .ok none ∧ Creates h st.db st.draw t adminRequest) ∨
        (st.config.debugAssertions = true ∧ Creates h st.db st.testDraw t testRequest)

variable {h : KeyHasher} {parseStr : String → Option Uuid} {st : Startup} {t : ApiKeyTable}
  {draw : Draw} {request : CreateApiKeyRequest} {now : ℤ}

/-- A key without an expiry of its own lives for a while. -/
theorem live_of_madeFor {row : ApiKeyRow} (hmade : MadeFor now draw request row)
    (hexpires : request.expiresAt = none) : row.live now = true := by
  refine ApiKeyState.live_iff.mpr ⟨hmade.enabled, fun expiresAt hin => ?_⟩
  rw [hmade.expiresAt, hexpires, Option.none_or, checkedAddSigned, Option.mem_def] at hin
  split at hin
  · cases hin
    unfold thirtyDays
    omega
  · cases hin

/-- **A creation** leaves a live admin key when there was one or the new key is one. -/
theorem hasLiveAdmin_create_iff (hexpires : request.expiresAt = none) :
    HasLiveAdmin st.now (st.create h draw t request) ↔ HasLiveAdmin st.now t ∨
      (request.role = .admin ∧ request.workspaceId = none ∧ Creates h st.db draw t request) := by
  by_cases hc : Creates h (checked st.db request) draw t request
  · obtain ⟨row, t', hout, hrows, hmade, -⟩ := createApiKey_of_creates st.now hc
    obtain ⟨hcheck, hcreates⟩ := creates_checked_iff.mp hc
    rw [create, hout, HasLiveAdmin, hrows]
    constructor
    · rintro ⟨r, hr, hrole, hlive⟩
      rcases List.mem_append.mp hr with hr | hr
      · exact Or.inl ⟨r, hr, hrole, hlive⟩
      · rw [List.mem_singleton.mp hr, hmade.role] at hrole
        have hadmin := ApiKeyRole.ofStr_display_eq_admin_iff.mp hrole
        rw [hadmin] at hcheck
        exact Or.inr ⟨hadmin, checkAdminKey_admin_iff.mp hcheck, hcreates⟩
    · rintro (⟨r, hr, hlive⟩ | ⟨hrole, -, -⟩)
      · exact ⟨r, List.mem_append_left _ hr, hlive⟩
      · refine ⟨row, List.mem_append_right _ List.mem_cons_self, ?_, live_of_madeFor hmade hexpires⟩
        rw [hmade.role, hrole]
        rfl
  · obtain ⟨e, hout⟩ := createApiKey_of_not_creates st.now hc
    rw [create, hout]
    refine ⟨Or.inl, fun hor => hor.resolve_right ?_⟩
    rintro ⟨hrole, hws, hcreates⟩
    refine hc (creates_checked_iff.mpr ⟨?_, hcreates⟩)
    rw [hrole]
    exact checkAdminKey_admin_iff.mpr hws

theorem create_eq_of_not_creates (hc : ¬ Creates h st.db draw t request) :
    st.create h draw t request = t := by
  obtain ⟨e, hout⟩ := createApiKey_of_not_creates st.now
    fun hcreates => hc (creates_checked_iff.mp hcreates).2
  rw [create, hout]

theorem configRequest_global_iff (key : ApiKeyEntry) :
    ((configRequest parseStr key).role = .admin ∧ (configRequest parseStr key).workspaceId = none) ↔
      toLowercase key.role = "admin" ∧ key.workspace = "global" := by
  simp [configRequest]

/-- **A startup** leaves an admin key that can be used if there was one or it inserts one. -/
theorem hasLiveAdmin_loadApiKeys_iff (h : KeyHasher) (parseStr : String → Option Uuid) (st : Startup)
    (t : ApiKeyTable) : HasLiveAdmin st.now (st.loadApiKeys h parseStr t) ↔
      HasLiveAdmin st.now t ∨ InsertsAdmin h parseStr st t := by
  unfold loadApiKeys loadAdminKey InsertsAdmin
  cases hsecret : st.config.adminKeySecret with
  | some secret =>
    simp only [Option.isNone_some, Bool.and_false, Bool.false_and, Bool.false_eq_true, if_false]
    rw [hasLiveAdmin_create_iff rfl]
    exact or_congr Iff.rfl ⟨fun hand => hand.2.2, fun hc => ⟨rfl, rfl, hc⟩⟩
  | none =>
    cases hkeys : st.config.apiKeys with
    | cons firstKey keys =>
      simp only [List.isEmpty_cons, Bool.and_false, Bool.false_eq_true, if_false]
      rw [hasLiveAdmin_create_iff rfl, ← and_assoc, configRequest_global_iff, and_assoc]
    | nil =>
      simp only [Option.isNone_none, List.isEmpty_nil, Bool.and_true]
      have htest : ∀ t' : ApiKeyTable, HasLiveAdmin st.now (if st.config.debugAssertions = true then
          st.create h st.testDraw t' testRequest else t') ↔ HasLiveAdmin st.now t' ∨
            (st.config.debugAssertions = true ∧ Creates h st.db st.testDraw t' testRequest) := by
        intro t'
        split
        · rw [hasLiveAdmin_create_iff rfl]
          exact or_congr Iff.rfl ⟨fun hand => ⟨‹_›, hand.2.2⟩, fun hc => ⟨rfl, rfl, hc.2⟩⟩
        · exact ⟨Or.inl, fun hor => hor.resolve_right fun hand => absurd hand.1 ‹_›⟩
      rw [htest]
      by_cases hadmin : getAdminApiKey st.db t 0 = .ok none ∧ Creates h st.db st.draw t adminRequest
      · refine iff_of_true (Or.inl ?_) (Or.inr (Or.inl hadmin))
        rw [hadmin.1]
        exact (hasLiveAdmin_create_iff rfl).mpr (Or.inr ⟨rfl, rfl, hadmin.2⟩)
      · have hsame : (match getAdminApiKey st.db t 0 with
            | .ok (some _) => t
            | .ok none => st.create h st.draw t adminRequest
            | .error _ => t) = t := by
          split
          · rfl
          · exact create_eq_of_not_creates fun hc => hadmin ⟨‹_›, hc⟩
          · rfl
        rw [hsame]
        exact or_congr Iff.rfl (or_iff_right hadmin).symm

/-! ## Runs -/

def step (h : KeyHasher) (parseStr : String → Option Uuid) (t : ApiKeyTable) (st : Startup) :
    Option ApiKeyTable :=
  some (st.loadApiKeys h parseStr t)

/-- **Along every run of startups** each leaves an admin key that can be used if and only if there is
one when it begins or it inserts one. -/
theorem live_admin_iff (h : KeyHasher) (parseStr : String → Option Uuid) (t : ApiKeyTable)
    (run : List Startup) :
    EachStep (step h parseStr) (fun _ st t' => HasLiveAdmin st.now t') t run ↔
      EachStep (step h parseStr)
        (fun t st _ => HasLiveAdmin st.now t ∨ InsertsAdmin h parseStr st t) t run := by
  refine eachStep_iff fun t st t' hstep => ?_
  cases hstep
  exact hasLiveAdmin_loadApiKeys_iff h parseStr st t

/-- The key of the environment, with an id of its own. -/
def envStartup (now : ℤ) (draw : Draw) : Startup where
  config := ⟨some "the-admin-secret", some "root", [], false⟩
  now := now
  draw := draw
  testDraw := ⟨9, 9, "", "salt"⟩
  violation := "duplicate key"

/-- Started again after 31 days, the service has an admin key that has expired. -/
theorem expired_admin : ¬ EachStep (step ApiKeyState.plainHasher fun _ => none)
    (fun _ st t' => HasLiveAdmin st.now t') .empty
    [envStartup 0 ⟨1, 2, "", "salt"⟩, envStartup (31 * 86400000000000) ⟨3, 4, "", "salt"⟩] := by
  intro heach
  obtain ⟨r, hr, -, hlive⟩ := ((heach _ rfl).2 _ rfl).1
  rw [List.mem_singleton.mp hr] at hlive
  exact absurd hlive (by decide)

end Startup

end NebulaId
