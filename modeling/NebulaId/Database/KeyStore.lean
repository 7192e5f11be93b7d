import NebulaId.Machine.Script
import NebulaId.Database.Catalog

/-!
# The repository behind its traits (`core/database/repository.rs`, `connection.rs`)

`KeyStore` holds the tables of workspaces and of API keys. The constraint `check_admin_key` of the
migrations is a field of it: exactly the admin keys have no workspace. The calls of the traits
`WorkspaceRepository` and `ApiKeyRepository` are `RepoCall`, and `serve` carries one out. Each call
is atomic and gets the answers of the database, the time and the random values it draws.

* `createApiKey_of_creates`, `createApiKey_of_not_creates`: when a key is created, and which.
* `serve_keys`: what a call does to the keys: it appends one, drops one, or keeps who owns which.
-/

namespace NebulaId

open Machine

/-- `ApiKeyInfo`, the columns of a key without its hash. -/
structure ApiKeyInfo where
  id : Uuid
  keyId : String
  keyPrefix : String
  role : ApiKeyRole
  workspaceId : Option Uuid
  name : String
  description : Option String
  rateLimit : Int32
  enabled : Bool
  expiresAt : Option ℤ
  lastUsedAt : Option ℤ
  createdAt : ℤ

def ApiKeyRow.info (r : ApiKeyRow) : ApiKeyInfo :=
  ⟨r.id, r.keyId, r.keyPrefix, .ofStr r.role, r.workspaceId, r.name, r.description, r.rateLimit,
    r.enabled, r.expiresAt, r.lastUsedAt, r.createdAt⟩

/-- `CONSTRAINT check_admin_key` -/
def CheckAdminKey (role : String) (workspaceId : Option Uuid) : Prop :=
  (workspaceId = none ∧ role = "admin") ∨ (workspaceId ≠ none ∧ role ≠ "admin")

theorem ApiKeyRole.ofStr_eq_admin_iff {s : String} : ofStr s = .admin ↔ s = "admin" := by
  unfold ofStr
  split
  · exact iff_of_true rfl ‹_›
  · exact iff_of_false (by simp) ‹_›

theorem ApiKeyRole.ofStr_display_eq_admin_iff {role : ApiKeyRole} :
    ofStr role.display = .admin ↔ role = .admin := by
  cases role <;> decide

/-- An admin key is a global one. -/
theorem checkAdminKey_admin_iff {workspaceId : Option Uuid} :
    CheckAdminKey ApiKeyRole.admin.display workspaceId ↔ workspaceId = none := by
  refine ⟨fun hcheck => ?_, fun hws => Or.inl ⟨hws, rfl⟩⟩
  rcases hcheck with ⟨hws, -⟩ | ⟨-, hne⟩
  · exact hws
  · exact absurd rfl hne

instance (role : String) (workspaceId : Option Uuid) : Decidable (CheckAdminKey role workspaceId) :=
  inferInstanceAs (Decidable (_ ∨ _))

namespace ApiKeyRepository

def getApiKeyById (db : Answers) (t : ApiKeyTable) (keyId : String) : Result (Option ApiKeyInfo) :=
  match db.failure with
  | some e => .error (.databaseError e)
  | none => .ok ((t.findByKeyId keyId).map ApiKeyRow.info)

/-- `workspace_id = …` holds of no row without a workspace. -/
def listApiKeys (db : Answers) (t : ApiKeyTable) (workspaceId : Uuid) (limit offset : Option UInt32) :
    Result (List ApiKeyInfo) :=
  match db.failure with
  | some e => .error (.databaseError e)
  | none =>
    let rows := t.rows.filter fun r => r.workspaceId = some workspaceId
    let rows := (offset.map fun n => rows.drop n.toNat).getD rows
    let rows := (limit.map fun n => rows.take n.toNat).getD rows
    .ok (rows.map ApiKeyRow.info)

/-- `one` takes the first row there is, and the key is looked at for being enabled afterwards. -/
def getAdminApiKey (db : Answers) (t : ApiKeyTable) (_workspaceId : Uuid) :
    Result (Option ApiKeyInfo) :=
  match db.failure with
  | some e => .error (.databaseError e)
  | none =>
    let result := t.rows.find? fun r => r.role = ApiKeyRole.admin.display ∧ r.keyPrefix = "niad_"
    .ok ((result.filter ApiKeyRow.enabled).map ApiKeyRow.info)

def days (n : ℤ) : ℤ := n * 86400000000000

/-- `created_at`, which no rotation changes, is what counts. -/
def getKeysOlderThan (db : Answers) (now : ℤ) (t : ApiKeyTable) (ageThresholdDays : ℤ) :
    Result (List ApiKeyInfo) :=
  match db.failure with
  | some e => .error (.databaseError e)
  | none => .ok ((t.rows.filter fun r => r.createdAt < now - days ageThresholdDays ∧
      r.enabled = true).map ApiKeyRow.info)

/-- The answers to an insertion, which fails when the row would violate the constraint. -/
def checked (db : Answers) (request : CreateApiKeyRequest) : Answers :=
  if CheckAdminKey request.role.display request.workspaceId then db
  else ⟨some (db.failure.getD db.violation), db.violation⟩

/-- The request is well formed, the secret is hashed and the row can be inserted. -/
def Creates (h : KeyHasher) (db : Answers) (draw : Draw) (t : ApiKeyTable)
    (request : CreateApiKeyRequest) : Prop :=
  (∀ secret, request.keySecret = some secret →
    8 ≤ secret.utf8ByteSize ∧ secret.utf8ByteSize ≤ 128) ∧
  db.failure = none ∧ draw.id ∉ t.rows.map ApiKeyRow.id ∧
  ∃ keyPrefix hash, rolePrefix request.role = some keyPrefix ∧
    h.hashKey draw.salt (fullKeyId keyPrefix draw.keyUuid request.keyId)
      (request.keySecret.getD draw.secret) = .ok hash ∧
    fullKeyId keyPrefix draw.keyUuid request.keyId ∉ t.rows.map ApiKeyRow.keyId

/-- A row that has been made for the request. -/
structure MadeFor (now : ℤ) (draw : Draw) (request : CreateApiKeyRequest) (row : ApiKeyRow) :
    Prop where
  id : row.id = draw.id
  role : row.role = request.role.display
  workspaceId : row.workspaceId = request.workspaceId
  enabled : row.enabled = true
  expiresAt : row.expiresAt = request.expiresAt.or (checkedAddSigned now thirtyDays)
  createdAt : row.createdAt = now

variable {h : KeyHasher} {db : Answers} {now : ℤ} {draw : Draw} {t : ApiKeyTable}
  {request : CreateApiKeyRequest}

theorem createApiKey_of_creates (now : ℤ) (hc : Creates h db draw t request) :
    ∃ row t', createApiKey h db now draw t request =
        (.ok ⟨row.response, request.keySecret.getD draw.secret⟩, t') ∧
      t'.rows = t.rows ++ [row] ∧ MadeFor now draw request row ∧
      ∀ other, h.verifyKey row.keyId other row.keySecretHash =
        decide (other = request.keySecret.getD draw.secret) := by
  obtain ⟨hsecret, hdb, hid, keyPrefix, hash, hprefix, hhash, hkeyId⟩ := hc
  have hlength : (request.keySecret.any fun secret =>
      decide (secret.utf8ByteSize < 8) || decide (secret.utf8ByteSize > 128)) = false := by
    cases hs : request.keySecret with
    | none => rfl
    | some secret =>
      obtain ⟨hmin, hmax⟩ := hsecret secret hs
      simp only [Option.any_some, Bool.or_eq_false_iff, decide_eq_false_iff_not]
      exact ⟨Nat.not_lt.mpr hmin, Nat.not_lt.mpr hmax⟩
  unfold createApiKey
  rw [hlength, if_neg (by simp), hprefix]
  dsimp only
  rw [hhash]
  dsimp only [ApiKeyTable.insert]
  rw [hdb]
  dsimp only
  rw [dif_pos ⟨hid, hkeyId⟩]
  exact ⟨_, _, rfl, rfl, ⟨rfl, rfl, rfl, rfl, rfl, rfl⟩, h.accepts hhash⟩

theorem createApiKey_of_not_creates (now : ℤ) (hc : ¬ Creates h db draw t request) :
    ∃ e, createApiKey h db now draw t request = (.error e, t) := by
  unfold createApiKey
  split
  · exact ⟨_, rfl⟩
  · rename_i hlength
    split
    · exact ⟨_, rfl⟩
    · rename_i keyPrefix hprefix
      dsimp only
      split
      · exact ⟨_, rfl⟩
      · rename_i hash hhash
        dsimp only [ApiKeyTable.insert]
        cases hdb : db.failure with
        | some e => exact ⟨_, rfl⟩
        | none =>
          dsimp only
          rw [dif_neg]
          · exact ⟨_, rfl⟩
          · rintro ⟨hid, hkeyId⟩
            refine hc ⟨fun secret hs => ?_, hdb, hid, keyPrefix, hash, hprefix, hhash, hkeyId⟩
            rw [hs] at hlength
            simpa using hlength

theorem creates_checked_iff : Creates h (checked db request) draw t request ↔
    CheckAdminKey request.role.display request.workspaceId ∧ Creates h db draw t request := by
  unfold checked
  split
  · rename_i hcheck
    exact ⟨fun hc => ⟨hcheck, hc⟩, fun hc => hc.2⟩
  · rename_i hcheck
    exact ⟨fun hc => absurd hc.2.1 (by simp), fun hc => absurd hc.1 hcheck⟩

end ApiKeyRepository

/-- The columns that say what a key is good for. -/
def ApiKeyRow.owner (r : ApiKeyRow) : Uuid × String × Option Uuid := (r.id, r.role, r.workspaceId)

namespace ApiKeyTable

/-- Every row meets the constraint `check_admin_key`. -/
def AdminsChecked (t : ApiKeyTable) : Prop := ∀ r ∈ t.rows, CheckAdminKey r.role r.workspaceId

variable {t t' : ApiKeyTable}

theorem AdminsChecked.of_owners (h : t.AdminsChecked)
    (howners : t'.rows.map ApiKeyRow.owner = t.rows.map ApiKeyRow.owner) : t'.AdminsChecked := by
  intro r hr
  have hin : r.owner ∈ t.rows.map ApiKeyRow.owner := howners ▸ List.mem_map_of_mem hr
  obtain ⟨old, hold, heq⟩ := List.mem_map.mp hin
  obtain ⟨-, hrole, hws⟩ : old.id = r.id ∧ old.role = r.role ∧ old.workspaceId = r.workspaceId := by
    simpa [ApiKeyRow.owner] using heq
  rw [← hrole, ← hws]
  exact h old hold

end ApiKeyTable

namespace ApiKeyRepository

variable {h : KeyHasher} {db : Answers} {now : ℤ} {draw : Draw} {t : ApiKeyTable}

theorem owner_rotateApiKey (keyId : String) (gracePeriodSeconds : UInt64) :
    (rotateApiKey h db now draw t keyId gracePeriodSeconds).2.rows.map ApiKeyRow.owner =
      t.rows.map ApiKeyRow.owner := by
  rcases rotateApiKey_cases h db now draw t keyId gracePeriodSeconds with
    ⟨e, hout⟩ | ⟨keyData, -, hash, hout, -⟩
  · rw [hout]
  · rw [hout]
    exact ApiKeyTable.map_setRow
      (f := fun r => { r with keySecretHash := hash, updatedAt := now }) (fun _ => rfl) t.rows

theorem deleteApiKey_of_mem {id : Uuid} (hdb : db.failure = none)
    (hid : id ∈ t.rows.map ApiKeyRow.id) : deleteApiKey db t id = (.ok (), t.deleteById id) := by
  rw [deleteApiKey, hdb]
  dsimp only
  rw [if_pos hid]

theorem deleteApiKey_of_not (db : Answers) (t : ApiKeyTable) {id : Uuid}
    (hid : ¬ (db.failure = none ∧ id ∈ t.rows.map ApiKeyRow.id)) :
    ∃ e, deleteApiKey db t id = (.error e, t) := by
  unfold deleteApiKey
  split
  · exact ⟨_, rfl⟩
  · rw [if_neg fun hin => hid ⟨‹_›, hin⟩]
    exact ⟨_, rfl⟩

theorem adminsChecked_createApiKey (ht : t.AdminsChecked) (request : CreateApiKeyRequest) :
    (createApiKey h (checked db request) now draw t request).2.AdminsChecked := by
  by_cases hc : Creates h (checked db request) draw t request
  · obtain ⟨row, t', hout, hrows, hmade, -⟩ := createApiKey_of_creates now hc
    rw [hout]
    intro r hr
    rcases List.mem_append.mp (hrows ▸ hr) with hr | hr
    · exact ht r hr
    · rw [List.mem_singleton.mp hr, hmade.role, hmade.workspaceId]
      exact (creates_checked_iff.mp hc).1
  · obtain ⟨e, hout⟩ := createApiKey_of_not_creates now hc
    rw [hout]
    exact ht

theorem adminsChecked_deleteApiKey (ht : t.AdminsChecked) (id : Uuid) :
    (deleteApiKey db t id).2.AdminsChecked := by
  by_cases hid : db.failure = none ∧ id ∈ t.rows.map ApiKeyRow.id
  · rw [deleteApiKey_of_mem hid.1 hid.2]
    exact fun r hr => ht r (List.mem_of_mem_filter hr)
  · obtain ⟨e, hout⟩ := deleteApiKey_of_not _ _ hid
    rw [hout]
    exact ht

end ApiKeyRepository

/-! ## The calls -/

@[ext]
structure KeyStore where
  workspaces : SeaOrmRepository.WorkspaceTable
  keys : ApiKeyTable
  checkAdminKey : keys.AdminsChecked

def KeyStore.empty : KeyStore := ⟨.empty, .empty, fun _ hr => (List.not_mem_nil hr).elim⟩

/-- What one call gets from the database, the clock and the random generator. -/
structure RepoInput where
  db : Answers
  now : ℤ
  draw : Draw

inductive RepoCall where
  | createWorkspace (workspace : SeaOrmRepository.CreateWorkspaceRequest)
  | getWorkspaceByName (name : String)
  | createApiKey (request : CreateApiKeyRequest)
  | getApiKeyById (keyId : String)
  | listApiKeys (workspaceId : Uuid) (limit offset : Option UInt32)
  | deleteApiKey (id : Uuid)
  | rotateApiKey (keyId : String) (gracePeriodSeconds : UInt64)

def RepoCall.Reply : RepoCall → Type
  | .createWorkspace _ => Result SeaOrmRepository.Workspace
  | .getWorkspaceByName _ => Result (Option SeaOrmRepository.Workspace)
  | .createApiKey _ => Result ApiKeyWithSecret
  | .getApiKeyById _ => Result (Option ApiKeyInfo)
  | .listApiKeys _ _ _ => Result (List ApiKeyInfo)
  | .deleteApiKey _ => Result Unit
  | .rotateApiKey _ _ => Result ApiKeyWithSecret

namespace KeyStore

open ApiKeyRepository

def serve (h : KeyHasher) : (c : RepoCall) → RepoInput → KeyStore → c.Reply × KeyStore
  | .createWorkspace workspace, i, s =>
    let out := SeaOrmRepository.createWorkspace i.db i.now i.draw.id s.workspaces workspace
    (out.1, { s with workspaces := out.2 })
  | .getWorkspaceByName name, i, s =>
    (SeaOrmRepository.getWorkspaceByName i.db s.workspaces name, s)
  | .createApiKey request, i, s =>
    let out := createApiKey h (checked i.db request) i.now i.draw s.keys request
    (out.1, ⟨s.workspaces, out.2, adminsChecked_createApiKey s.checkAdminKey request⟩)
  | .getApiKeyById keyId, i, s => (getApiKeyById i.db s.keys keyId, s)
  | .listApiKeys workspaceId limit offset, i, s =>
    (listApiKeys i.db s.keys workspaceId limit offset, s)
  | .deleteApiKey id, i, s =>
    let out := deleteApiKey i.db s.keys id
    (out.1, ⟨s.workspaces, out.2, adminsChecked_deleteApiKey s.checkAdminKey id⟩)
  | .rotateApiKey keyId gracePeriodSeconds, i, s =>
    let out := rotateApiKey h i.db i.now i.draw s.keys keyId gracePeriodSeconds
    (out.1, ⟨s.workspaces, out.2,
      s.checkAdminKey.of_owners (owner_rotateApiKey keyId gracePeriodSeconds)⟩)

/-- What a call does to the keys. -/
inductive KeyChange (h : KeyHasher) (i : RepoInput) (t t' : ApiKeyTable) : RepoCall → Prop
  | created (request : CreateApiKeyRequest) (row : ApiKeyRow)
      (hcheck : CheckAdminKey request.role.display request.workspaceId)
      (hcreates : Creates h i.db i.draw t request) (hmade : MadeFor i.now i.draw request row)
      (hrows : t'.rows = t.rows ++ [row]) : KeyChange h i t t' (.createApiKey request)
  | refused (request : CreateApiKeyRequest)
      (hnot : ¬ (CheckAdminKey request.role.display request.workspaceId ∧
        Creates h i.db i.draw t request))
      (hsame : t' = t) : KeyChange h i t t' (.createApiKey request)
  | deleted (id : Uuid) (hdb : i.db.failure = none) (hid : id ∈ t.rows.map ApiKeyRow.id)
      (hrows : t' = t.deleteById id) : KeyChange h i t t' (.deleteApiKey id)
  | kept (c : RepoCall) (hcreate : ∀ request, c ≠ .createApiKey request)
      (howners : t'.rows.map ApiKeyRow.owner = t.rows.map ApiKeyRow.owner) : KeyChange h i t t' c

theorem serve_keys (h : KeyHasher) (c : RepoCall) (i : RepoInput) (s : KeyStore) :
    KeyChange h i s.keys (serve h c i s).2.keys c := by
  cases c with
  | createApiKey request =>
    by_cases hc : CheckAdminKey request.role.display request.workspaceId ∧
        Creates h i.db i.draw s.keys request
    · obtain ⟨row, t', hout, hrows, hmade, -⟩ :=
        createApiKey_of_creates i.now (creates_checked_iff.mpr hc)
      refine .created request row hc.1 hc.2 hmade ?_
      exact (congrArg (fun out => out.2.rows) hout).trans hrows
    · obtain ⟨e, hout⟩ := createApiKey_of_not_creates i.now
        fun hcreates => hc (creates_checked_iff.mp hcreates)
      exact .refused request hc (congrArg Prod.snd hout)
  | deleteApiKey id =>
    by_cases hid : i.db.failure = none ∧ id ∈ s.keys.rows.map ApiKeyRow.id
    · exact .deleted id hid.1 hid.2 (congrArg Prod.snd (deleteApiKey_of_mem hid.1 hid.2))
    · obtain ⟨e, hout⟩ := deleteApiKey_of_not _ _ hid
      exact .kept _ (fun request heq => by cases heq)
        (congrArg (fun out => out.2.rows.map ApiKeyRow.owner) hout)
  | rotateApiKey keyId gracePeriodSeconds =>
    exact .kept _ (fun request heq => by cases heq)
      (owner_rotateApiKey keyId gracePeriodSeconds)
  | createWorkspace | getWorkspaceByName | getApiKeyById | listApiKeys =>
    exact .kept _ (fun request heq => by cases heq) rfl

end KeyStore

end NebulaId
