import NebulaId.Machine.Run
import NebulaId.Types.Id
import Mathlib.Logic.Function.Basic
import Mathlib.Data.Int.Notation
import Mathlib.Data.List.Nodup

/-!
# API keys (`core/database/repository.rs`, `api_key_entity.rs`)

The table of API keys with the operations that create, validate, revoke, delete and rotate a
key. A row holds one hash. `rotate_api_key` takes a grace period and replaces the hash at
once. Times are in nanoseconds since 1970. Hashing is a parameter with the law that
verification accepts exactly the secret that was hashed.

`Secrets` is what a key's holder has been told: the current secret, and those replaced by a
rotation with the end of their grace periods.

* `validateApiKey_iff`: a key is validated for its current secret only.
* `Honoured`, `OnlyInGrace`: what a secret is good for by its history.
* `validation_honours_iff`: in every reachable state validation and history agree on a secret exactly
  when it is not one that a rotation has replaced and still keeps for its grace period.
* `rotated_out`: seven days of grace, and the old secret is refused after a second.
-/

namespace NebulaId

open Machine

abbrev Uuid := BitVec 128

instance : LawfulBEq Uuid := inferInstance

inductive ApiKeyRole where
  | admin
  | user
  | anonymous
  deriving DecidableEq

namespace ApiKeyRole

def display : ApiKeyRole → String
  | .admin => "admin"
  | .user => "user"
  | .anonymous => "anonymous"

/-- `From<&str>`: a stored `anonymous` becomes a user, too. -/
def ofStr (s : String) : ApiKeyRole := if s = "admin" then .admin else .user

end ApiKeyRole

structure ApiKeyRow where
  id : Uuid
  keyId : String
  keySecretHash : String
  keyPrefix : String
  role : String
  workspaceId : Option Uuid
  name : String
  description : Option String
  rateLimit : Int32
  enabled : Bool
  expiresAt : Option ℤ
  lastUsedAt : Option ℤ
  createdAt : ℤ
  updatedAt : ℤ

structure CreateApiKeyRequest where
  workspaceId : Option Uuid
  name : String
  description : Option String
  role : ApiKeyRole
  rateLimit : Option Int32
  expiresAt : Option ℤ
  keySecret : Option String
  keyId : Option String

structure ApiKeyResponse where
  id : Uuid
  keyId : String
  keyPrefix : String
  name : String
  description : Option String
  role : ApiKeyRole
  rateLimit : Int32
  enabled : Bool
  expiresAt : Option ℤ
  createdAt : ℤ

structure ApiKeyWithSecret where
  key : ApiKeyResponse
  keySecret : String

/-- `hash_key` with the salt that it draws, and `verify_key`. -/
structure KeyHasher where
  hashKey : String → String → String → Result String
  verifyKey : String → String → String → Bool
  accepts : ∀ {salt keyId secret hash}, hashKey salt keyId secret = .ok hash →
    ∀ other, verifyKey keyId other hash = decide (other = secret)

/-- The random values of a request. -/
structure Draw where
  id : Uuid
  keyUuid : Uuid
  secret : String
  salt : String

/-- The error of a statement that fails, if it does, and the text of a violated unique index. -/
structure Answers where
  failure : Option String
  violation : String

/-- `NaiveDateTime::checked_add_signed`; the last date is in the year 262142. -/
def checkedAddSigned (time nanos : ℤ) : Option ℤ :=
  if time + nanos < 95026237 * 86400000000000 then some (time + nanos) else none

def thirtyDays : ℤ := 30 * 86400000000000

namespace ApiKeyRow

def response (r : ApiKeyRow) : ApiKeyResponse :=
  ⟨r.id, r.keyId, r.keyPrefix, r.name, r.description, .ofStr r.role, r.rateLimit, r.enabled,
    r.expiresAt, r.createdAt⟩

/-- The checks of `validate_api_key` before the secret. -/
def live (r : ApiKeyRow) (now : ℤ) : Bool :=
  r.enabled && match r.expiresAt with
    | some expiresAt => !decide (expiresAt < now)
    | none => true

end ApiKeyRow

/-- The table under its primary key and the unique index of `key_id`. -/
structure ApiKeyTable where
  rows : List ApiKeyRow
  ids : (rows.map ApiKeyRow.id).Nodup
  keyIds : (rows.map ApiKeyRow.keyId).Nodup

namespace ApiKeyTable

def empty : ApiKeyTable := ⟨[], List.nodup_nil, List.nodup_nil⟩

/-- `find().filter(KeyId.eq(key_id)).one()` -/
def findByKeyId (t : ApiKeyTable) (keyId : String) : Option ApiKeyRow :=
  t.rows.find? fun r => r.keyId = keyId

def findById (t : ApiKeyTable) (id : Uuid) : Option ApiKeyRow :=
  t.rows.find? fun r => r.id = id

def setRow (id : Uuid) (f : ApiKeyRow → ApiKeyRow) (r : ApiKeyRow) : ApiKeyRow :=
  if r.id = id then f r else r

/-- An update that keeps a column keeps it in the table. -/
theorem map_setRow {β : Type} {id : Uuid} {f : ApiKeyRow → ApiKeyRow} {g : ApiKeyRow → β}
    (hg : ∀ r, g (f r) = g r) (rows : List ApiKeyRow) :
    (rows.map (setRow id f)).map g = rows.map g := by
  rw [List.map_map]
  refine List.map_congr_left fun r _ => ?_
  simp only [Function.comp_apply, setRow]
  split
  · exact hg r
  · rfl

/-- `UPDATE … WHERE id = …` of columns that are no keys. -/
def updateById (t : ApiKeyTable) (id : Uuid) (f : ApiKeyRow → ApiKeyRow)
    (hid : ∀ r, (f r).id = r.id) (hkeyId : ∀ r, (f r).keyId = r.keyId) : ApiKeyTable where
  rows := t.rows.map (setRow id f)
  ids := by rw [map_setRow hid]; exact t.ids
  keyIds := by rw [map_setRow hkeyId]; exact t.keyIds

def deleteById (t : ApiKeyTable) (id : Uuid) : ApiKeyTable where
  rows := t.rows.filter fun r => r.id ≠ id
  ids := t.ids.sublist (List.filter_sublist.map _)
  keyIds := t.keyIds.sublist (List.filter_sublist.map _)

/-- `INSERT`; the error is the database's, or that of a violated index. -/
def insert (t : ApiKeyTable) (db : Answers) (row : ApiKeyRow) : Except String ApiKeyTable :=
  match db.failure with
  | some e => .error e
  | none =>
    if hnew : row.id ∉ t.rows.map ApiKeyRow.id ∧ row.keyId ∉ t.rows.map ApiKeyRow.keyId then
      .ok
        { rows := t.rows ++ [row]
          ids := by
            rw [List.map_append]
            exact t.ids.append (List.nodup_singleton _) (List.disjoint_singleton.mpr hnew.1)
          keyIds := by
            rw [List.map_append]
            exact t.keyIds.append (List.nodup_singleton _) (List.disjoint_singleton.mpr hnew.2) }
    else .error db.violation

end ApiKeyTable

namespace ApiKeyRepository

def rolePrefix : ApiKeyRole → Option String
  | .admin => some "niad_"
  | .user => some "nino_"
  | .anonymous => none

def fullKeyId (keyPrefix : String) (keyUuid : Uuid) : Option String → String
  | some kid => if keyPrefix.toList.isPrefixOf kid.toList then kid else keyPrefix ++ kid
  | none => keyPrefix ++ Id.uuidText keyUuid

def createApiKey (h : KeyHasher) (db : Answers) (now : ℤ) (draw : Draw) (t : ApiKeyTable)
    (request : CreateApiKeyRequest) : Result ApiKeyWithSecret × ApiKeyTable :=
  if request.keySecret.any fun secret =>
      decide (secret.utf8ByteSize < 8) || decide (secret.utf8ByteSize > 128) then
    (.error (.invalidInput "key_secret must be between 8 and 128 characters"), t)
  else match rolePrefix request.role with
    | none => (.error (.invalidInput "Anonymous role cannot be persisted to database"), t)
    | some keyPrefix =>
      let keyId := fullKeyId keyPrefix draw.keyUuid request.keyId
      let keySecret := request.keySecret.getD draw.secret
      match h.hashKey draw.salt keyId keySecret with
      | .error e => (.error e, t)
      | .ok keySecretHash =>
        let row : ApiKeyRow :=
          { id := draw.id
            keyId := keyId
            keySecretHash := keySecretHash
            keyPrefix := keyPrefix
            role := request.role.display
            workspaceId := request.workspaceId
            name := request.name
            description := request.description
            rateLimit := request.rateLimit.getD 10000
            enabled := true
            expiresAt := request.expiresAt.or (checkedAddSigned now thirtyDays)
            lastUsedAt := none
            createdAt := now
            updatedAt := now }
        match t.insert db row with
        | .error e => (.error (.databaseError e), t)
        | .ok t => (.ok ⟨row.response, keySecret⟩, t)

/-- `touched`: the update of `last_used_at` succeeds. Its error is ignored. -/
def validateApiKey (h : KeyHasher) (db : Answers) (touched : Bool) (now : ℤ)
    (t : ApiKeyTable) (keyId keySecret : String) :
    Result (Option (Option Uuid × ApiKeyRole)) × ApiKeyTable :=
  match db.failure with
  | some e => (.error (.databaseError e), t)
  | none => match t.findByKeyId keyId with
    | some model =>
      if model.live now && h.verifyKey keyId keySecret model.keySecretHash then
        (.ok (some (model.workspaceId, .ofStr model.role)),
          if touched then
            t.updateById model.id (fun r => { r with lastUsedAt := some now, updatedAt := now })
              (fun _ => rfl) fun _ => rfl
          else t)
      else (.ok none, t)
    | none => (.ok none, t)

def deleteApiKey (db : Answers) (t : ApiKeyTable) (id : Uuid) :
    Result Unit × ApiKeyTable :=
  match db.failure with
  | some e => (.error (.databaseError e), t)
  | none => if id ∈ t.rows.map ApiKeyRow.id then (.ok (), t.deleteById id)
    else (.error (.notFound ("API key not found: " ++ Id.uuidText id)), t)

def revokeApiKey (db : Answers) (now : ℤ) (t : ApiKeyTable) (id : Uuid) :
    Result Unit × ApiKeyTable :=
  match db.failure with
  | some e => (.error (.databaseError e), t)
  | none => match t.findById id with
    | some model => (.ok (),
        t.updateById model.id (fun r => { r with enabled := false, updatedAt := now })
          (fun _ => rfl) fun _ => rfl)
    | none => (.error (.notFound ("API key not found: " ++ Id.uuidText id)), t)

def rotateApiKey (h : KeyHasher) (db : Answers) (now : ℤ) (draw : Draw) (t : ApiKeyTable)
    (keyId : String) (_gracePeriodSeconds : UInt64) : Result ApiKeyWithSecret × ApiKeyTable :=
  match db.failure with
  | some e => (.error (.databaseError e), t)
  | none => match t.findByKeyId keyId with
    | none => (.error (.notFound ("API key not found: " ++ keyId)), t)
    | some keyData => match h.hashKey draw.salt keyData.keyId draw.secret with
      | .error e => (.error e, t)
      | .ok newSecretHash =>
        let updated := { keyData with keySecretHash := newSecretHash, updatedAt := now }
        (.ok ⟨updated.response, draw.secret⟩,
          t.updateById keyData.id
            (fun r => { r with keySecretHash := newSecretHash, updatedAt := now })
            (fun _ => rfl) fun _ => rfl)

end ApiKeyRepository

/-! ## Runs -/

/-- What the holder of a key has been told: the secret to use, and the secrets replaced, each
with the end of its grace period. -/
structure Secrets where
  current : String
  retired : List (String × ℤ)

structure ApiKeyState where
  now : ℤ
  table : ApiKeyTable
  secrets : Uuid → Secrets

inductive ApiKeyOp where
  | clock (now : ℤ)
  | create (db : Answers) (draw : Draw) (request : CreateApiKeyRequest)
  | validate (db : Answers) (touched : Bool) (keyId keySecret : String)
  | delete (db : Answers) (id : Uuid)
  | revoke (db : Answers) (id : Uuid)
  | rotate (db : Answers) (draw : Draw) (keyId : String) (gracePeriodSeconds : UInt64)

namespace ApiKeyState

def empty (now : ℤ) : ApiKeyState := ⟨now, .empty, fun _ => ⟨"", []⟩⟩

/-- The secrets after a `create_api_key`. -/
def created (s : ApiKeyState) : Result ApiKeyWithSecret → Uuid → Secrets
  | .ok k => Function.update s.secrets k.key.id ⟨k.keySecret, []⟩
  | .error _ => s.secrets

/-- The secrets after a `rotate_api_key`: the one replaced enters its grace period. -/
def rotated (s : ApiKeyState) (gracePeriodSeconds : UInt64) :
    Result ApiKeyWithSecret → Uuid → Secrets
  | .ok k => Function.update s.secrets k.key.id ⟨k.keySecret,
      ((s.secrets k.key.id).current, s.now + gracePeriodSeconds.toNat * 1000000000) ::
        (s.secrets k.key.id).retired⟩
  | .error _ => s.secrets

open ApiKeyRepository in
def step (h : KeyHasher) (s : ApiKeyState) : ApiKeyOp → Option ApiKeyState
  | .clock now => some { s with now := now }
  | .create db draw request =>
    let out := createApiKey h db s.now draw s.table request
    some { s with table := out.2, secrets := s.created out.1 }
  | .validate db touched keyId keySecret =>
    some { s with table := (validateApiKey h db touched s.now s.table keyId keySecret).2 }
  | .delete db id => some { s with table := (deleteApiKey db s.table id).2 }
  | .revoke db id => some { s with table := (revokeApiKey db s.now s.table id).2 }
  | .rotate db draw keyId gracePeriodSeconds =>
    let out := rotateApiKey h db s.now draw s.table keyId gracePeriodSeconds
    some { s with table := out.2, secrets := s.rotated gracePeriodSeconds out.1 }

/-- `validate_api_key` succeeds, with a database that answers. -/
def Accepted (h : KeyHasher) (s : ApiKeyState) (keyId keySecret : String) : Prop :=
  ∃ who, (ApiKeyRepository.validateApiKey h ⟨none, ""⟩ true s.now s.table keyId keySecret).1 =
    .ok (some who)

/-- The key exists, is enabled and has not expired. -/
structure Alive (s : ApiKeyState) (keyId : String) (row : ApiKeyRow) : Prop where
  stored : row ∈ s.table.rows
  keyId : row.keyId = keyId
  enabled : row.enabled = true
  unexpired : ∀ expiresAt ∈ row.expiresAt, s.now ≤ expiresAt

/-- A rotation whose grace period has not ended has replaced the secret. -/
def InGrace (s : ApiKeyState) (row : ApiKeyRow) (keySecret : String) : Prop :=
  ∃ graceEnd, (keySecret, graceEnd) ∈ (s.secrets row.id).retired ∧ s.now < graceEnd

/-- The secret opens a key that is alive. -/
def Honoured (s : ApiKeyState) (keyId keySecret : String) : Prop :=
  ∃ row, s.Alive keyId row ∧ (keySecret = (s.secrets row.id).current ∨ s.InGrace row keySecret)

/-- Only a grace period is left to the secret. -/
def OnlyInGrace (s : ApiKeyState) (keyId keySecret : String) : Prop :=
  ∃ row, s.Alive keyId row ∧ keySecret ≠ (s.secrets row.id).current ∧ s.InGrace row keySecret

/-- Each hash is that of the current secret. -/
def Hashed (h : KeyHasher) (s : ApiKeyState) : Prop :=
  ∀ row ∈ s.table.rows, ∀ other,
    h.verifyKey row.keyId other row.keySecretHash = decide (other = (s.secrets row.id).current)

end ApiKeyState

namespace ApiKeyTable

variable {t : ApiKeyTable} {row : ApiKeyRow} {keyId : String}

/-- A row found by its key id is the only one. -/
theorem findByKeyId_eq_some : t.findByKeyId keyId = some row ↔ row ∈ t.rows ∧ row.keyId = keyId := by
  constructor
  · intro hfind
    exact ⟨List.mem_of_find?_eq_some hfind, by simpa using List.find?_some hfind⟩
  · rintro ⟨hmem, rfl⟩
    cases hfind : t.findByKeyId row.keyId with
    | none => exact absurd (List.find?_eq_none.mp hfind row hmem) (by simp)
    | some other =>
      have hother : other.keyId = row.keyId := by simpa using List.find?_some hfind
      rw [List.inj_on_of_nodup_map t.keyIds (List.mem_of_find?_eq_some hfind) hmem hother]

/-- A row of an updated table is an old one or its update. -/
theorem mem_map_setRow {id : Uuid} {f : ApiKeyRow → ApiKeyRow} {rows : List ApiKeyRow}
    {r : ApiKeyRow} (hr : r ∈ rows.map (setRow id f)) :
    ∃ old ∈ rows, (old.id = id ∧ r = f old) ∨ (old.id ≠ id ∧ r = old) := by
  obtain ⟨old, hold, rfl⟩ := List.mem_map.mp hr
  refine ⟨old, hold, ?_⟩
  unfold setRow
  split
  · exact Or.inl ⟨‹_›, rfl⟩
  · exact Or.inr ⟨‹_›, rfl⟩

theorem insert_eq_ok {db : Answers} {t' : ApiKeyTable} (h : t.insert db row = .ok t') :
    t'.rows = t.rows ++ [row] ∧ row.id ∉ t.rows.map ApiKeyRow.id := by
  unfold insert at h
  split at h
  · cases h
  · split at h
    · rename_i hnew
      cases h
      exact ⟨rfl, hnew.1⟩
    · cases h

end ApiKeyTable

namespace ApiKeyRepository

variable {h : KeyHasher} {db : Answers} {now : ℤ} {draw : Draw} {t : ApiKeyTable}

/-- A key is created with a fresh id and the hash of the secret returned, or nothing is
changed. -/
theorem createApiKey_cases (h : KeyHasher) (db : Answers) (now : ℤ) (draw : Draw) (t : ApiKeyTable)
    (request : CreateApiKeyRequest) :
    (∃ e, createApiKey h db now draw t request = (.error e, t)) ∨
    ∃ row t' keySecret, createApiKey h db now draw t request = (.ok ⟨row.response, keySecret⟩, t') ∧
      t'.rows = t.rows ++ [row] ∧ row.id ∉ t.rows.map ApiKeyRow.id ∧
        ∀ other, h.verifyKey row.keyId other row.keySecretHash = decide (other = keySecret) := by
  unfold createApiKey
  split
  · exact Or.inl ⟨_, rfl⟩
  · split
    · exact Or.inl ⟨_, rfl⟩
    · dsimp only
      split
      · exact Or.inl ⟨_, rfl⟩
      · rename_i hash hhash
        split
        · exact Or.inl ⟨_, rfl⟩
        · rename_i t' hinsert
          obtain ⟨hrows, hnew⟩ := ApiKeyTable.insert_eq_ok hinsert
          exact Or.inr ⟨_, t', _, rfl, hrows, hnew, h.accepts hhash⟩

/-- A rotation replaces the hash of the key by that of the secret returned, or nothing is
changed. -/
theorem rotateApiKey_cases (h : KeyHasher) (db : Answers) (now : ℤ) (draw : Draw) (t : ApiKeyTable)
    (keyId : String) (gracePeriodSeconds : UInt64) :
    (∃ e, rotateApiKey h db now draw t keyId gracePeriodSeconds = (.error e, t)) ∨
    ∃ keyData ∈ t.rows, ∃ hash,
      rotateApiKey h db now draw t keyId gracePeriodSeconds =
        (.ok ⟨{ keyData with keySecretHash := hash, updatedAt := now }.response, draw.secret⟩,
          t.updateById keyData.id (fun r => { r with keySecretHash := hash, updatedAt := now })
            (fun _ => rfl) fun _ => rfl) ∧
      ∀ other, h.verifyKey keyData.keyId other hash = decide (other = draw.secret) := by
  unfold rotateApiKey
  split
  · exact Or.inl ⟨_, rfl⟩
  · split
    · exact Or.inl ⟨_, rfl⟩
    · rename_i keyData hfind
      split
      · exact Or.inl ⟨_, rfl⟩
      · rename_i hash hhash
        exact Or.inr ⟨keyData, (ApiKeyTable.findByKeyId_eq_some.mp hfind).1, hash, rfl,
          h.accepts hhash⟩

/-- The rows after a validation, a revocation or a deletion have the keys and the hashes of
rows that were there. -/
def KeepsHashes (t t' : ApiKeyTable) : Prop :=
  ∀ r ∈ t'.rows, ∃ old ∈ t.rows,
    r.id = old.id ∧ r.keyId = old.keyId ∧ r.keySecretHash = old.keySecretHash

theorem keepsHashes_refl (t : ApiKeyTable) : KeepsHashes t t :=
  fun r hr => ⟨r, hr, rfl, rfl, rfl⟩

theorem keepsHashes_updateById {id : Uuid} {f : ApiKeyRow → ApiKeyRow} (hid : ∀ r, (f r).id = r.id)
    (hkeyId : ∀ r, (f r).keyId = r.keyId) (hhash : ∀ r, (f r).keySecretHash = r.keySecretHash) :
    KeepsHashes t (t.updateById id f hid hkeyId) := by
  intro r hr
  obtain ⟨old, hold, ⟨-, hr⟩ | ⟨-, hr⟩⟩ := ApiKeyTable.mem_map_setRow hr
  · exact ⟨old, hold, hr ▸ hid old, hr ▸ hkeyId old, hr ▸ hhash old⟩
  · exact ⟨old, hold, hr ▸ rfl, hr ▸ rfl, hr ▸ rfl⟩

theorem keepsHashes_validateApiKey (touched : Bool) (keyId keySecret : String) :
    KeepsHashes t (validateApiKey h db touched now t keyId keySecret).2 := by
  unfold validateApiKey
  split
  · exact keepsHashes_refl t
  · split
    · split
      · dsimp only
        split
        · exact keepsHashes_updateById _ _ fun _ => rfl
        · exact keepsHashes_refl t
      · exact keepsHashes_refl t
    · exact keepsHashes_refl t

theorem keepsHashes_revokeApiKey (id : Uuid) : KeepsHashes t (revokeApiKey db now t id).2 := by
  unfold revokeApiKey
  split
  · exact keepsHashes_refl t
  · split
    · dsimp only
      exact keepsHashes_updateById _ _ fun _ => rfl
    · exact keepsHashes_refl t

theorem keepsHashes_deleteApiKey (id : Uuid) : KeepsHashes t (deleteApiKey db t id).2 := by
  unfold deleteApiKey
  split
  · exact keepsHashes_refl t
  · split
    · intro r hr
      exact ⟨r, List.mem_of_mem_filter hr, rfl, rfl, rfl⟩
    · exact keepsHashes_refl t

end ApiKeyRepository

namespace ApiKeyState

open ApiKeyRepository

variable {h : KeyHasher} {s s' : ApiKeyState} {keyId keySecret : String}

theorem Hashed.keeps {t' : ApiKeyTable} (hs : Hashed h s) (ht : KeepsHashes s.table t') :
    Hashed h { s with table := t' } := by
  intro row hrow other
  obtain ⟨old, hold, hid, hkeyId, hhash⟩ := ht row hrow
  rw [hid, hkeyId, hhash]
  exact hs old hold other

theorem Hashed.create (db : Answers) (draw : Draw) (request : CreateApiKeyRequest)
    (hs : Hashed h s) :
    let out := createApiKey h db s.now draw s.table request
    Hashed h { s with table := out.2, secrets := s.created out.1 } := by
  intro out
  rcases createApiKey_cases h db s.now draw s.table request with
    ⟨e, hout⟩ | ⟨row, t', keySecret, hout, hrows, hnew, hhash⟩
  · rw [show out = _ from hout]
    exact hs
  · rw [show out = _ from hout]
    intro r hr other
    rcases List.mem_append.mp (hrows ▸ hr) with hr | hr
    · have hne : r.id ≠ row.id := fun he => hnew (he ▸ List.mem_map_of_mem hr)
      simp only [created, ApiKeyRow.response, Function.update_of_ne hne]
      exact hs r hr other
    · rw [List.mem_singleton.mp hr]
      simp only [created, ApiKeyRow.response, Function.update_self]
      exact hhash other

theorem Hashed.rotate (db : Answers) (draw : Draw) (keyId : String) (gracePeriodSeconds : UInt64)
    (hs : Hashed h s) :
    let out := rotateApiKey h db s.now draw s.table keyId gracePeriodSeconds
    Hashed h { s with table := out.2, secrets := s.rotated gracePeriodSeconds out.1 } := by
  intro out
  rcases rotateApiKey_cases h db s.now draw s.table keyId gracePeriodSeconds with
    ⟨e, hout⟩ | ⟨keyData, hdata, hash, hout, hhash⟩
  · rw [show out = _ from hout]
    exact hs
  · rw [show out = _ from hout]
    intro r hr other
    obtain ⟨old, hold, ⟨hid, rfl⟩ | ⟨hne, rfl⟩⟩ := ApiKeyTable.mem_map_setRow hr
    · -- the row of the key: no other row has its id
      have hsame : old = keyData := List.inj_on_of_nodup_map s.table.ids hold hdata hid
      subst hsame
      simp only [rotated, ApiKeyRow.response, Function.update_self]
      exact hhash other
    · simp only [rotated, ApiKeyRow.response, Function.update_of_ne hne]
      exact hs r hold other

theorem hashed_step {op : ApiKeyOp} (hs : Hashed h s) (hstep : step h s op = some s') :
    Hashed h s' := by
  cases op with
  | clock now =>
    cases hstep
    exact hs
  | create db draw request =>
    cases hstep
    exact hs.create db draw request
  | validate db touched keyId keySecret =>
    cases hstep
    exact hs.keeps (keepsHashes_validateApiKey touched keyId keySecret)
  | delete db id =>
    cases hstep
    exact hs.keeps (keepsHashes_deleteApiKey id)
  | revoke db id =>
    cases hstep
    exact hs.keeps (keepsHashes_revokeApiKey id)
  | rotate db draw keyId gracePeriodSeconds =>
    cases hstep
    exact hs.rotate db draw keyId gracePeriodSeconds

/-- In every reachable state the hashes are those of the current secrets. -/
theorem hashed_reaches {now : ℤ} (hrun : Reaches (step h) Free (empty now) s) : Hashed h s :=
  hrun.invariant (fun _ hrow => (List.not_mem_nil hrow).elim) fun _ _ _ hs _ => hashed_step hs

theorem live_iff {row : ApiKeyRow} {now : ℤ} : row.live now = true ↔
    row.enabled = true ∧ ∀ expiresAt ∈ row.expiresAt, now ≤ expiresAt := by
  unfold ApiKeyRow.live
  cases row.expiresAt with
  | none => simp
  | some expiresAt => simp

/-- **A key is validated** for its current secret while it is alive. -/
theorem validateApiKey_iff (hs : Hashed h s) :
    Accepted h s keyId keySecret ↔
      ∃ row, s.Alive keyId row ∧ keySecret = (s.secrets row.id).current := by
  unfold Accepted validateApiKey
  dsimp only
  cases hfind : s.table.findByKeyId keyId with
  | none =>
    refine iff_of_false (by rintro ⟨who, hwho⟩; cases hwho) ?_
    rintro ⟨row, hrow, -⟩
    rw [ApiKeyTable.findByKeyId_eq_some.mpr ⟨hrow.stored, hrow.keyId⟩] at hfind
    cases hfind
  | some row =>
    obtain ⟨hmem, rfl⟩ := ApiKeyTable.findByKeyId_eq_some.mp hfind
    have honly : ∀ other, s.Alive row.keyId other → other = row := by
      intro other hother
      have hfound := ApiKeyTable.findByKeyId_eq_some.mpr ⟨hother.stored, hother.keyId⟩
      exact Option.some.inj (hfound.symm.trans hfind)
    simp only [hs row hmem]
    constructor
    · rintro ⟨who, hwho⟩
      split at hwho
      · rename_i hcheck
        obtain ⟨hlive, hsecret⟩ := Bool.and_eq_true_iff.mp hcheck
        obtain ⟨henabled, hunexpired⟩ := live_iff.mp hlive
        exact ⟨row, ⟨hmem, rfl, henabled, hunexpired⟩, of_decide_eq_true hsecret⟩
      · cases hwho
    · rintro ⟨other, halive, hsecret⟩
      cases honly other halive
      have hlive : row.live s.now = true := live_iff.mpr ⟨halive.enabled, halive.unexpired⟩
      refine ⟨(row.workspaceId, .ofStr row.role), ?_⟩
      rw [if_pos (by rw [hlive, Bool.true_and, decide_eq_true hsecret])]

/-- A secret is honoured when it is validated or only a grace period is left to it. -/
theorem honoured_iff_or (hs : Hashed h s) : Honoured s keyId keySecret ↔
    Accepted h s keyId keySecret ∨ OnlyInGrace s keyId keySecret := by
  rw [validateApiKey_iff hs]
  constructor
  · rintro ⟨row, halive, hsecret⟩
    by_cases hcurrent : keySecret = (s.secrets row.id).current
    · exact Or.inl ⟨row, halive, hcurrent⟩
    · exact Or.inr ⟨row, halive, hcurrent, hsecret.resolve_left hcurrent⟩
  · rintro (⟨row, halive, hcurrent⟩ | ⟨row, halive, -, hgrace⟩)
    · exact ⟨row, halive, Or.inl hcurrent⟩
    · exact ⟨row, halive, Or.inr hgrace⟩

/-- There is one key for a key id, so a secret is not both its current one and another. -/
theorem not_accepted_of_onlyInGrace (hs : Hashed h s) (hgrace : OnlyInGrace s keyId keySecret) :
    ¬ Accepted h s keyId keySecret := by
  rw [validateApiKey_iff hs]
  rintro ⟨other, hother, hcurrent⟩
  obtain ⟨row, hrow, hne, -⟩ := hgrace
  have hsame : other = row := List.inj_on_of_nodup_map s.table.keyIds hother.stored hrow.stored
    (hother.keyId.trans hrow.keyId.symm)
  subst hsame
  exact hne hcurrent

/-- **In every run** `validate_api_key` succeeds exactly for what the history of the key makes
good, unless the secret is one that a rotation has replaced and whose grace period has not
ended. -/
theorem validation_honours_iff {now : ℤ} (hrun : Reaches (step h) Free (empty now) s)
    (keyId keySecret : String) :
    (Accepted h s keyId keySecret ↔ Honoured s keyId keySecret) ↔
      ¬ OnlyInGrace s keyId keySecret := by
  have hs := hashed_reaches hrun
  rw [honoured_iff_or hs]
  constructor
  · intro hiff hgrace
    exact not_accepted_of_onlyInGrace hs hgrace (hiff.mpr (Or.inr hgrace))
  · intro hgrace
    exact ⟨Or.inl, fun h => h.resolve_right hgrace⟩

/-- A hash that is the secret itself. -/
def plainHasher : KeyHasher where
  hashKey _ _ secret := .ok secret
  verifyKey _ other hash := decide (other = hash)
  accepts := by
    intro salt keyId secret hash hhash other
    cases hhash
    rfl

/-- A user key is created with a secret of its own, and rotated with seven days of grace. -/
def rotation : List ApiKeyOp :=
  [.create ⟨none, ""⟩ ⟨1, 2, "", "salt"⟩
    ⟨some 7, "app", none, .user, none, none, some "first-secret", some "app"⟩,
    .rotate ⟨none, ""⟩ ⟨3, 4, "second-secret", "salt"⟩ "nino_app" 604800,
    .clock 1000000000]

/-- The row after the rotation. -/
def rotatedRow : ApiKeyRow where
  id := 1
  keyId := "nino_app"
  keySecretHash := "second-secret"
  keyPrefix := "nino_"
  role := "user"
  workspaceId := some 7
  name := "app"
  description := none
  rateLimit := 10000
  enabled := true
  expiresAt := some thirtyDays
  lastUsedAt := none
  createdAt := 0
  updatedAt := 0

theorem run_rotation : ∃ s, run (step plainHasher) (empty 0) rotation = some s ∧
    s.now = 1000000000 ∧ s.table.rows = [rotatedRow] ∧
      s.secrets 1 = ⟨"second-secret", [("first-secret", 604800 * 1000000000)]⟩ :=
  ⟨_, rfl, rfl, rfl, rfl⟩

/-- The replaced secret has seven days of grace and is refused after a second. -/
theorem rotated_out : ∃ s, Reaches (step plainHasher) Free (empty 0) s ∧
    Honoured s "nino_app" "first-secret" ∧ ¬ Accepted plainHasher s "nino_app" "first-secret" := by
  obtain ⟨s, hrun, hnow, hrows, hsecrets⟩ := run_rotation
  have hreaches := reaches_of_run hrun
  have halive : s.Alive "nino_app" rotatedRow := by
    refine ⟨by rw [hrows]; exact List.mem_cons_self, rfl, rfl, ?_⟩
    rintro expiresAt ⟨⟩
    rw [hnow]
    decide
  have hgrace : s.InGrace rotatedRow "first-secret" := by
    refine ⟨604800 * 1000000000, ?_, by rw [hnow]; decide⟩
    rw [show rotatedRow.id = 1 from rfl, hsecrets]
    exact List.mem_cons_self
  refine ⟨s, hreaches, ⟨rotatedRow, halive, Or.inr hgrace⟩, ?_⟩
  refine not_accepted_of_onlyInGrace (hashed_reaches hreaches) ⟨rotatedRow, halive, ?_, hgrace⟩
  rw [show rotatedRow.id = 1 from rfl, hsecrets]
  decide

/-- The new secret is validated as the history says. -/
theorem rotation_honours : ∃ s, Reaches (step plainHasher) Free (empty 0) s ∧
    (Accepted plainHasher s "nino_app" "second-secret" ↔
      Honoured s "nino_app" "second-secret") := by
  obtain ⟨s, hrun, hnow, hrows, hsecrets⟩ := run_rotation
  refine ⟨s, reaches_of_run hrun,
    (validation_honours_iff (reaches_of_run hrun) "nino_app" "second-secret").mpr ?_⟩
  rintro ⟨row, halive, hne, -⟩
  have hrow : row = rotatedRow := by simpa [hrows] using halive.stored
  rw [hrow, show rotatedRow.id = 1 from rfl, hsecrets] at hne
  exact hne rfl

end ApiKeyState

end NebulaId
