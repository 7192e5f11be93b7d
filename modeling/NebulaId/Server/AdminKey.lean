import NebulaId.Server.KeyHandlers
import NebulaId.Machine.Along

/-!
# The admin key (`server/handlers/api_key_handlers.rs`)

`create_api_key` is to refuse a second admin key and `revoke_api_key` to keep the last one. The
first looks for the admin key among those of the nil workspace, where the constraint of the table
allows none, and the second looks for the row id among the key ids.

* `oneAdmin_createApiKey_iff`, `oneAdmin_revokeApiKey_iff`: what the two guards let through.
* `one_admin_iff`: along every run there is one admin key if and only if no request for an admin
  key goes through and none revokes the row of the admin key.
* `second_admin`: two admin keys after one request, none after another.
-/

namespace NebulaId

open Machine

/-- How many keys with the role of an admin there are. -/
def ApiKeyTable.adminCount (t : ApiKeyTable) : ℕ :=
  t.rows.countP fun r => ApiKeyRole.ofStr r.role = .admin

def KeyStore.OneAdmin (s : KeyStore) : Prop := s.keys.adminCount = 1

namespace ApiKeyTable

variable {t t' : ApiKeyTable} {id : Uuid}

theorem adminCount_of_owners (h : t'.rows.map ApiKeyRow.owner = t.rows.map ApiKeyRow.owner) :
    t'.adminCount = t.adminCount := by
  have hcount : ∀ t : ApiKeyTable, t.adminCount =
      (t.rows.map ApiKeyRow.owner).countP fun o => ApiKeyRole.ofStr o.2.1 = .admin := by
    intro t
    rw [List.countP_map]
    rfl
  rw [hcount, hcount, h]

theorem adminCount_of_rows {new : ApiKeyRow} (h : t'.rows = t.rows ++ [new]) :
    t'.adminCount = t.adminCount + if ApiKeyRole.ofStr new.role = .admin then 1 else 0 := by
  rw [adminCount, h, List.countP_append, List.countP_singleton]
  simp [adminCount]

theorem adminCount_deleteById (h : ∀ r ∈ t.rows, r.id = id → ApiKeyRole.ofStr r.role ≠ .admin) :
    (t.deleteById id).adminCount = t.adminCount := by
  rw [adminCount, deleteById, List.countP_filter]
  refine List.countP_congr fun r hr => ?_
  simp only [Bool.and_eq_true, decide_eq_true_eq]
  exact ⟨fun hboth => hboth.1, fun hrole => ⟨hrole, fun hid => h r hr hid hrole⟩⟩

theorem adminCount_deleteById_lt {row : ApiKeyRow} (hrow : row ∈ t.rows)
    (hrole : ApiKeyRole.ofStr row.role = .admin) :
    (t.deleteById row.id).adminCount < t.adminCount := by
  have hsplit := List.countP_eq_countP_filter_add t.rows
    (fun r => decide (ApiKeyRole.ofStr r.role = .admin)) (fun r => decide (r.id ≠ row.id))
  have hdropped : 0 < (t.rows.filter fun r => !decide (r.id ≠ row.id)).countP
      fun r => decide (ApiKeyRole.ofStr r.role = .admin) := by
    refine List.countP_pos_iff.mpr ⟨row, List.mem_filter.mpr ⟨hrow, by simp⟩, by simpa using hrole⟩
  have hkept : (t.deleteById row.id).adminCount = (t.rows.filter fun r =>
    decide (r.id ≠ row.id)).countP fun r => decide (ApiKeyRole.ofStr r.role = .admin) := rfl
  rw [hkept, adminCount]
  omega

/-- An admin key is listed for no workspace. -/
theorem not_admin_of_workspace (h : t.AdminsChecked) {r : ApiKeyRow} (hr : r ∈ t.rows)
    {workspaceId : Uuid} (hws : r.workspaceId = some workspaceId) :
    ApiKeyRole.ofStr r.role ≠ .admin := by
  intro hrole
  rcases h r hr with ⟨hnone, -⟩ | ⟨-, hne⟩
  · rw [hws] at hnone
    cases hnone
  · exact hne (ApiKeyRole.ofStr_eq_admin_iff.mp hrole)

end ApiKeyTable

namespace KeyStore

open ApiKeyRepository

variable {s s' : KeyStore} {h : KeyHasher}

/-- The deletion of keys that are no admin keys. -/
theorem adminCount_deleteKeys {ids : List Uuid}
    (h : ∀ id ∈ ids, ∀ r ∈ s.keys.rows, r.id = id → ApiKeyRole.ofStr r.role ≠ .admin) :
    (s.deleteKeys ids).keys.adminCount = s.keys.adminCount := by
  induction ids generalizing s with
  | nil => rfl
  | cons id ids ih =>
    refine (ih fun other hother r hr => ?_).trans
      (ApiKeyTable.adminCount_deleteById (h id List.mem_cons_self))
    exact h other (List.mem_cons_of_mem _ hother) r (List.mem_of_mem_filter hr)

/-- The keys that a listing finds are user keys, and an id is the id of one key. -/
theorem not_admin_of_listed {workspaceId id : Uuid} (hid : id ∈ s.listedUserIds workspaceId)
    {r : ApiKeyRow} (hr : r ∈ s.keys.rows) (heq : r.id = id) :
    ApiKeyRole.ofStr r.role ≠ .admin := by
  obtain ⟨listed, hlisted, hsame, hws, hrole⟩ := mem_listedUserIds hid
  have hone : r = listed := List.inj_on_of_nodup_map s.keys.ids hr hlisted (heq.trans hsame.symm)
  rw [hone, hrole]
  decide

/-- A key for a user adds no admin. -/
theorem adminCount_of_user {new : ApiKeyRow} (hrows : s'.keys.rows = s.keys.rows ++ [new])
    (hrole : new.role = "user") : s'.keys.adminCount = s.keys.adminCount := by
  have huser : ApiKeyRole.ofStr new.role ≠ .admin := by
    rw [hrole]
    decide
  rw [ApiKeyTable.adminCount_of_rows hrows, if_neg huser, Nat.add_zero]

end KeyStore

namespace KeyHandlers

open Script KeyStore ApiKeyRepository

/-! ## What the guards let through -/

/-- The request for an admin key goes through. -/
structure AdmitsAdmin (a : KeyHandlers) (h : KeyHasher) (ins : ℕ → RepoInput) (s : KeyStore)
    (workspaceId : Option Uuid) (req : CreateKeyRequest) : Prop where
  repo : a.apiKeyRepo = true
  role : req.role = some "admin"
  listed : (ins 0).db.failure = none
  global : workspaceId = none
  creates : ∃ expiresAt, a.parseExpiresAt req.expiresAt = .ok expiresAt ∧
    Creates h (ins 1).db (ins 1).draw s.keys (coreRequest workspaceId req .admin expiresAt)

/-- The row of an admin key is revoked: its id is the key id of no admin, and no statement
fails. -/
structure DropsAdmin (a : KeyHandlers) (ins : ℕ → RepoInput) (s : KeyStore) (id : Uuid) :
    Prop where
  repo : a.apiKeyRepo = true
  searched : (ins 0).db.failure = none
  missed : ∀ row, s.keys.findByKeyId (Id.uuidText id) = some row →
    ApiKeyRole.ofStr row.role ≠ .admin
  deletes : (ins 1).db.failure = none
  admin : ∃ row ∈ s.keys.rows, row.id = id ∧ ApiKeyRole.ofStr row.role = .admin

variable {a : KeyHandlers} {h : KeyHasher} {ins : ℕ → RepoInput} {n : ℕ} {s : KeyStore}
  {workspaceId : Option Uuid} {req : CreateKeyRequest}

/-- The role of a request is that of an admin or of a user. -/
theorem parseRole_cases (role : Option String) :
    (role = some "admin" ∧ a.parseRole role = .ok .admin) ∨
      (role ≠ some "admin" ∧ (a.parseRole role = .ok .user ∨ ∃ e, a.parseRole role = .error e)) := by
  cases role with
  | none => exact Or.inr ⟨by simp, Or.inl rfl⟩
  | some r =>
    by_cases hadmin : r = "admin"
    · subst hadmin
      exact Or.inl ⟨rfl, rfl⟩
    · refine Or.inr ⟨by simpa using hadmin, ?_⟩
      rw [parseRole, if_neg hadmin]
      split
      · exact Or.inl rfl
      · exact Or.inr ⟨_, rfl⟩

theorem callListApiKeys_exec (workspaceId : Uuid) :
    (a.callListApiKeys workspaceId).exec (serve h) ins n s =
      ⟨(listApiKeys (ins n).db s.keys workspaceId (some 1000) (some 0)).mapError a.mapDbError,
        n + 1, s⟩ := rfl

theorem callListApiKeys_ok {workspaceId : Uuid} {listed : List ApiKeyInfo}
    (hlisted : ((a.callListApiKeys workspaceId).exec (serve h) ins n s).value = .ok listed) :
    (ins n).db.failure = none ∧ ∀ k ∈ listed, k.role ≠ .admin := by
  rw [callListApiKeys_exec] at hlisted
  cases hdb : (ins n).db.failure with
  | some e =>
    rw [listApiKeys, hdb] at hlisted
    cases hlisted
  | none =>
    rw [listApiKeys_eq hdb] at hlisted
    cases hlisted
    refine ⟨rfl, fun k hk => ?_⟩
    obtain ⟨r, hr, rfl⟩ := List.mem_map.mp hk
    obtain ⟨hr, hws⟩ := List.mem_filter.mp (List.mem_of_mem_take hr)
    exact ApiKeyTable.not_admin_of_workspace s.checkAdminKey hr (of_decide_eq_true hws)

theorem callListApiKeys_error (workspaceId : Uuid) (hdb : (ins n).db.failure ≠ none) :
    ∃ e, (a.callListApiKeys workspaceId).exec (serve h) ins n s = ⟨.error e, n + 1, s⟩ := by
  rw [callListApiKeys_exec, listApiKeys]
  cases hfailure : (ins n).db.failure with
  | some e => exact ⟨_, rfl⟩
  | none => exact absurd hfailure hdb

/-- The guard of the admin role passes whenever the database answers. -/
theorem guardRole_admin_exec (workspaceId : Option Uuid)
    (hdb : (ins n).db.failure = none) :
    (a.guardRole workspaceId .admin).exec (serve h) ins n s = ⟨.ok (), n + 1, s⟩ := by
  rcases exec_attempt_cases (serve h) ins n s (a.callListApiKeys 0) fun existingKeys =>
      if existingKeys.any fun k => k.role = .admin then
        done (.error (.authenticationError
          (a.t "api.error.handlers.api_key_handlers.admin_key_already_exists" [])))
      else done (.ok ()) with ⟨listed, hlisted, hexec⟩ | ⟨e, hlisted, -⟩
  · have hnone : (listed.any fun k => decide (k.role = .admin)) = false := by
      simpa using (callListApiKeys_ok hlisted).2
    rw [guardRole, hexec, hnone]
    rfl
  · rw [callListApiKeys_exec, listApiKeys_eq hdb] at hlisted
    cases hlisted

/-- A guard only reads. -/
theorem guardRole_memory (role : ApiKeyRole) :
    ((a.guardRole workspaceId role).exec (serve h) ins n s).memory = s := by
  cases role with
  | admin =>
    rcases exec_attempt_cases (serve h) ins n s (a.callListApiKeys 0) _ with
      ⟨listed, -, hexec⟩ | ⟨e, -, hexec⟩
    · rw [guardRole, hexec]
      split
      · rfl
      · rfl
    · rw [guardRole, hexec]
      rfl
  | user =>
    cases workspaceId with
    | none => rfl
    | some wsId =>
      rcases exec_attempt_cases (serve h) ins n s (a.callListApiKeys wsId) _ with
        ⟨listed, -, hexec⟩ | ⟨e, -, hexec⟩
      · rw [guardRole, hexec]
        split
        · rfl
        · rfl
      · rw [guardRole, hexec]
        rfl
  | anonymous => rfl

/-- The call that creates a key for a user adds no admin. -/
theorem adminCount_callCreate_user {request : CreateApiKeyRequest} (hrole : request.role = .user) :
    ((a.callCreateApiKey request).exec (serve h) ins n s).memory.keys.adminCount =
      s.keys.adminCount := by
  by_cases hc : CheckAdminKey request.role.display request.workspaceId ∧
      Creates h (ins n).db (ins n).draw s.keys request
  · obtain ⟨new, s', hcall, hmade, hrows, -⟩ := callCreateApiKey_ok (a := a) hc.1 hc.2
    rw [hcall]
    refine adminCount_of_user hrows ?_
    rw [hmade.role, hrole]
    rfl
  · obtain ⟨e, hcall⟩ := callCreateApiKey_error (a := a) _ hc
    rw [hcall]

theorem guardRole_admin_error (workspaceId : Option Uuid)
    (hdb : (ins n).db.failure ≠ none) :
    ∃ e, (a.guardRole workspaceId .admin).exec (serve h) ins n s = ⟨.error e, n + 1, s⟩ := by
  obtain ⟨e, hlisted⟩ := callListApiKeys_error (a := a) (h := h) (s := s) 0 hdb
  refine ⟨e, ?_⟩
  rw [guardRole, exec_attempt_error (by rw [hlisted]), hlisted]

/-- The call that creates an admin key keeps the number of admins when it fails, and only then. -/
theorem oneAdmin_callCreate_admin_iff (hs : s.OneAdmin) {request : CreateApiKeyRequest}
    (hrole : request.role = .admin) :
    ((a.callCreateApiKey request).exec (serve h) ins n s).memory.OneAdmin ↔
      ¬ (request.workspaceId = none ∧ Creates h (ins n).db (ins n).draw s.keys request) := by
  have hcheck : CheckAdminKey request.role.display request.workspaceId ↔
      request.workspaceId = none := by
    rw [hrole]
    exact checkAdminKey_admin_iff
  by_cases hc : CheckAdminKey request.role.display request.workspaceId ∧
      Creates h (ins n).db (ins n).draw s.keys request
  · obtain ⟨new, s', hcall, hmade, hrows, -⟩ := callCreateApiKey_ok (a := a) hc.1 hc.2
    rw [hcall]
    refine iff_of_false (fun hone => ?_) fun hnot => hnot ⟨hcheck.mp hc.1, hc.2⟩
    have hadmin : ApiKeyRole.ofStr new.role = .admin := by
      rw [hmade.role, hrole]
      rfl
    have hcount := ApiKeyTable.adminCount_of_rows hrows
    rw [if_pos hadmin] at hcount
    have hbefore : s.keys.adminCount = 1 := hs
    have hafter : s'.keys.adminCount = 1 := hone
    omega
  · obtain ⟨e, hcall⟩ := callCreateApiKey_error (a := a) _ hc
    rw [hcall]
    exact iff_of_true hs fun hboth => hc ⟨hcheck.mpr hboth.1, hboth.2⟩

theorem oneAdmin_createApiKey_iff (hs : s.OneAdmin) :
    ((a.createApiKey workspaceId req).exec (serve h) ins 0 s).memory.OneAdmin ↔
      ¬ AdmitsAdmin a h ins s workspaceId req := by
  unfold createApiKey withRepo
  split
  · rename_i hrepo
    rcases parseRole_cases (a := a) req.role with
      ⟨hrole, hparse⟩ | ⟨hrole, hparse | ⟨e, hparse⟩⟩
    · rw [hparse]
      by_cases hdb : (ins 0).db.failure = none
      · have hguard := guardRole_admin_exec (a := a) (h := h) (s := s) (n := 0)
          workspaceId hdb
        dsimp only
        rw [exec_attempt_ok (by rw [hguard]), hguard]
        cases hexpires : a.parseExpiresAt req.expiresAt with
        | error e =>
          refine iff_of_true hs fun hadmits => ?_
          obtain ⟨expiresAt, hok, -⟩ := hadmits.creates
          rw [hexpires] at hok
          cases hok
        | ok expiresAt =>
          refine (oneAdmin_callCreate_admin_iff hs rfl).trans (not_congr ?_)
          constructor
          · rintro ⟨hglobal, hcreates⟩
            exact ⟨hrepo, hrole, hdb, hglobal, expiresAt, hexpires, hcreates⟩
          · intro hadmits
            obtain ⟨expiresAt', hok, hcreates⟩ := hadmits.creates
            cases hexpires.symm.trans hok
            exact ⟨hadmits.global, hcreates⟩
      · obtain ⟨e, hguard⟩ := guardRole_admin_error (a := a) (h := h) (s := s)
          workspaceId hdb
        dsimp only
        rw [exec_attempt_error (by rw [hguard]), hguard]
        exact iff_of_true hs fun hadmits => hdb hadmits.listed
    · rw [hparse]
      refine iff_of_true ?_ fun hadmits => hrole hadmits.role
      dsimp only
      rcases exec_attempt_cases (serve h) ins 0 s (a.guardRole workspaceId .user) _ with
        ⟨_, -, hexec⟩ | ⟨e, -, hexec⟩
      · rw [hexec, guardRole_memory]
        split
        · exact hs
        · exact (adminCount_callCreate_user rfl).trans hs
      · rw [hexec, guardRole_memory]
        exact hs
    · rw [hparse]
      exact iff_of_true hs fun hadmits => hrole hadmits.role
  · rename_i hrepo
    exact iff_of_true hs fun hadmits => hrepo hadmits.repo

/-- A deletion keeps the admin key unless it is the one that is deleted. -/
theorem oneAdmin_callDelete_iff (hs : s.OneAdmin) (id : Uuid) :
    ((a.callDeleteApiKey id).exec (serve h) ins n s).memory.OneAdmin ↔
      ¬ ((ins n).db.failure = none ∧
        ∃ row ∈ s.keys.rows, row.id = id ∧ ApiKeyRole.ofStr row.role = .admin) := by
  have hmemory : ((a.callDeleteApiKey id).exec (serve h) ins n s).memory =
      (serve h (.deleteApiKey id) (ins n) s).2 := rfl
  rw [hmemory]
  by_cases hdb : (ins n).db.failure = none
  · by_cases hadmin : ∃ row ∈ s.keys.rows, row.id = id ∧ ApiKeyRole.ofStr row.role = .admin
    · refine iff_of_false ?_ fun hnot => hnot ⟨hdb, hadmin⟩
      obtain ⟨row, hrow, rfl, hrole⟩ := hadmin
      rw [serve_deleteApiKey hdb (List.mem_map_of_mem hrow)]
      intro hone
      have hlt := ApiKeyTable.adminCount_deleteById_lt hrow hrole
      have hbefore : s.keys.adminCount = 1 := hs
      have hafter : (s.keys.deleteById row.id).adminCount = 1 := hone
      omega
    · refine iff_of_true ?_ fun hboth => hadmin hboth.2
      by_cases hid : id ∈ s.keys.rows.map ApiKeyRow.id
      · rw [serve_deleteApiKey hdb hid]
        refine (ApiKeyTable.adminCount_deleteById fun r hr heq hrole => ?_).trans hs
        exact hadmin ⟨r, hr, heq, hrole⟩
      · obtain ⟨e, hout⟩ := deleteApiKey_of_not (ins n).db s.keys
          fun hboth => hid hboth.2
        have hkeys : (serve h (.deleteApiKey id) (ins n) s).2.keys = s.keys :=
          congrArg Prod.snd hout
        unfold OneAdmin
        rw [hkeys]
        exact hs
  · obtain ⟨e, hserve⟩ := serve_deleteApiKey_error (h := h) (s := s) id hdb
    rw [hserve]
    exact iff_of_true hs fun hboth => hdb hboth.1

/-- No admin key is ever found under the nil workspace, so it counts as the last one. -/
theorem guardLastAdmin_admin (key : ApiKeyInfo) (hrole : key.role = .admin) :
    ∃ e, (a.guardLastAdmin (some key)).exec (serve h) ins n s = ⟨.error e, n + 1, s⟩ := by
  rw [guardLastAdmin, if_pos hrole]
  rcases exec_attempt_cases (serve h) ins n s (a.callListApiKeys 0) fun existingKeys =>
      if (existingKeys.filter fun k => decide (k.role = .admin)).length ≤ 1 then
        done (.error (.authenticationError "Cannot revoke the last admin key"))
      else (done (.ok ()) : KeyScript Unit) with ⟨listed, hlisted, hexec⟩ | ⟨e, -, hexec⟩
  · have hnone : listed.filter (fun k => decide (k.role = .admin)) = [] := by
      simpa [List.filter_eq_nil_iff] using (callListApiKeys_ok hlisted).2
    rw [hexec, hnone]
    exact ⟨_, rfl⟩
  · exact ⟨e, hexec⟩

theorem oneAdmin_revokeApiKey_iff (hs : s.OneAdmin) (id : Uuid) :
    ((a.revokeApiKey id).exec (serve h) ins 0 s).memory.OneAdmin ↔
      ¬ DropsAdmin a ins s id := by
  unfold revokeApiKey withRepo
  split
  · rename_i hrepo
    rw [callGetApiKeyById, attempt_call, exec_call, serve, getApiKeyById]
    cases hdb : (ins 0).db.failure with
    | some e => exact iff_of_true hs fun hdrops => by rw [hdrops.searched] at hdb; cases hdb
    | none =>
      by_cases hmissed : ∀ row, s.keys.findByKeyId (Id.uuidText id) = some row →
          ApiKeyRole.ofStr row.role ≠ .admin
      · have hpass : a.guardLastAdmin ((s.keys.findByKeyId (Id.uuidText id)).map ApiKeyRow.info) =
            done (.ok ()) := by
          cases hfind : s.keys.findByKeyId (Id.uuidText id) with
          | none => rfl
          | some row => exact if_neg (hmissed row hfind)
        change (exec (serve h) ins ((a.guardLastAdmin _).attempt fun _ => _) 1 s).memory.OneAdmin ↔ _
        rw [hpass, attempt_ok, exec_attempt_done, oneAdmin_callDelete_iff hs]
        refine not_congr ⟨fun hboth => ?_, fun hdrops => ⟨hdrops.deletes, hdrops.admin⟩⟩
        exact ⟨hrepo, hdb, hmissed, hboth.1, hboth.2⟩
      · refine iff_of_true ?_ fun hdrops => hmissed hdrops.missed
        obtain ⟨row, hmissed⟩ := not_forall.mp hmissed
        obtain ⟨hfind, hrole⟩ := Classical.not_imp.mp hmissed
        rw [hfind]
        change (exec (serve h) ins ((a.guardLastAdmin (some row.info)).attempt fun _ => _)
          1 s).memory.OneAdmin
        obtain ⟨e, hguard⟩ := guardLastAdmin_admin (a := a) (h := h) (s := s) (n := 1)
          row.info (not_not.mp hrole)
        rw [exec_attempt_error (by rw [hguard]), hguard]
        exact hs
  · rename_i hrepo
    exact iff_of_true hs fun hdrops => hrepo hdrops.repo

/-! ## Runs -/

/-- The store after an operation by itself. -/
def after (a : KeyHandlers) (h : KeyHasher) (s : KeyStore) (ins : ℕ → RepoInput) (op : KeyOp) :
    KeyStore :=
  ((a.script op).exec (serve h) ins 0 s).memory

def step (a : KeyHandlers) (h : KeyHasher) (s : KeyStore) (act : KeyOp × (ℕ → RepoInput)) :
    Option KeyStore :=
  some (a.after h s act.2 act.1)

/-- No second admin key is created, and the only one is not deleted. -/
def KeepsAdmin (a : KeyHandlers) (h : KeyHasher) (s : KeyStore) :
    KeyOp × (ℕ → RepoInput) → Prop
  | (.createApiKey workspaceId req, ins) => ¬ AdmitsAdmin a h ins s workspaceId req
  | (.revokeApiKey id, ins) => ¬ DropsAdmin a ins s id
  | _ => True

theorem oneAdmin_rotateApiKey (hs : s.OneAdmin) (keyId : String) :
    ((a.rotateApiKey keyId).exec (serve h) ins 0 s).memory.OneAdmin := by
  unfold rotateApiKey withRepo
  split
  · exact hs
  · split
    · exact (ApiKeyTable.adminCount_of_owners (owner_rotateApiKey keyId _)).trans hs
    · exact hs

theorem oneAdmin_createWorkspace (hs : s.OneAdmin)
    (req : SeaOrmRepository.CreateWorkspaceRequest) :
    ((a.createWorkspace req).exec (serve h) ins 0 s).memory.OneAdmin := by
  have hexec := createWorkspace_exec a h ins s req
  generalize (a.createWorkspace req).exec (serve h) ins 0 s = out at hexec ⊢
  cases hexec with
  | refused e m hnot => exact hs
  | alone e m s' hfirst hnot hworkspaces hkeys =>
    unfold OneAdmin
    rw [hkeys]
    exact hs
  | both response m new s' hfirst hsecond hrole hrows => exact (adminCount_of_user hrows hrole).trans hs

theorem oneAdmin_regenerateUserApiKey (hs : s.OneAdmin) (name : String) :
    ((a.regenerateUserApiKey name).exec (serve h) ins 0 s).memory.OneAdmin := by
  have hdeleted : ∀ {workspaceId : Uuid} {deleted : List Uuid},
      deleted.Sublist (s.listedUserIds workspaceId) → (s.deleteKeys deleted).OneAdmin := by
    intro workspaceId deleted hsub
    refine (adminCount_deleteKeys fun id hid r hr heq => ?_).trans hs
    exact not_admin_of_listed (hsub.subset hid) hr heq
  by_cases hlists : ∃ row, ListsKeys a ins s name row
  · obtain ⟨row, hrow⟩ := hlists
    have hexec := regenerate_of_lists (h := h) hrow
    generalize (a.regenerateUserApiKey name).exec (serve h) ins 0 s = out at hexec ⊢
    cases hexec with
    | stopped e m deleted hnot hsub => exact hdeleted hsub
    | refused e m hall hnot => exact hdeleted (List.Sublist.refl _)
    | replaced key m new s' hall hcreates hrole hrows =>
      exact (adminCount_of_user hrows hrole).trans (hdeleted (List.Sublist.refl _))
  · obtain ⟨e, m, hexec⟩ := regenerate_of_not_lists (h := h) fun row hrow => hlists ⟨row, hrow⟩
    rw [hexec]
    exact hs

theorem oneAdmin_step_iff {s' : KeyStore} {act : KeyOp × (ℕ → RepoInput)} (hs : s.OneAdmin)
    (hstep : step a h s act = some s') : s'.OneAdmin ↔ KeepsAdmin a h s act := by
  cases hstep
  obtain ⟨op, ins⟩ := act
  unfold after script
  cases op with
  | createApiKey workspaceId req =>
    rw [exec_attempt_done]
    exact oneAdmin_createApiKey_iff hs
  | revokeApiKey id =>
    rw [exec_attempt_done]
    exact oneAdmin_revokeApiKey_iff hs id
  | rotateApiKey keyId =>
    rw [exec_attempt_done]
    exact iff_of_true (oneAdmin_rotateApiKey hs keyId) trivial
  | createWorkspace req =>
    rw [exec_attempt_done]
    exact iff_of_true (oneAdmin_createWorkspace hs req) trivial
  | regenerateUserApiKey name =>
    rw [exec_attempt_done]
    exact iff_of_true (oneAdmin_regenerateUserApiKey hs name) trivial

/-- **There is one admin key along a run** if and only if no request for another one goes through
and its row is not revoked. -/
theorem one_admin_iff (a : KeyHandlers) (h : KeyHasher) (s : KeyStore) (hs : s.OneAdmin)
    (run : List (KeyOp × (ℕ → RepoInput))) :
    EachStep (step a h) (fun _ _ s' => s'.OneAdmin) s run ↔
      EachStep (step a h) (fun s act _ => KeepsAdmin a h s act) s run :=
  eachStep_iff_of_invariant hs fun _ _ _ hs hstep => oneAdmin_step_iff hs hstep

def adminKeyRow : ApiKeyRow where
  id := 1
  keyId := "niad_root"
  keySecretHash := "admin-secret"
  keyPrefix := "niad_"
  role := "admin"
  workspaceId := none
  name := "admin"
  description := none
  rateLimit := 10000
  enabled := true
  expiresAt := none
  lastUsedAt := none
  createdAt := 0
  updatedAt := 0

def oneKey : KeyStore where
  workspaces := .empty
  keys := ⟨[adminKeyRow], List.nodup_singleton _, List.nodup_singleton _⟩
  checkAdminKey := by
    intro r hr
    rw [List.mem_singleton.mp hr]
    exact Or.inl ⟨rfl, rfl⟩

/-- A workspace and a key for it leave the admin key alone. -/
theorem one_admin_kept : EachStep (step plainHandlers ApiKeyState.plainHasher)
    (fun _ _ s' => s'.OneAdmin) oneKey
    [(.createWorkspace ⟨"app", none, none, none⟩, answering),
      (.createApiKey (some 9) ⟨"key", none, some "user", none, none⟩, answering)] := by
  refine (one_admin_iff plainHandlers ApiKeyState.plainHasher oneKey rfl _).mpr fun s' _ =>
    ⟨trivial, fun s'' _ => ⟨fun hadmits => ?_, trivial⟩⟩
  exact absurd (Option.some.inj hadmits.role) (by decide)

/-- There are two admin keys after a request for one, and none after the revocation of one. -/
theorem second_admin : oneKey.OneAdmin ∧
    ¬ EachStep (step plainHandlers ApiKeyState.plainHasher) (fun _ _ s' => s'.OneAdmin) oneKey
      [(.createApiKey none ⟨"backdoor", none, some "admin", none, none⟩, answering)] ∧
    ¬ EachStep (step plainHandlers ApiKeyState.plainHasher) (fun _ _ s' => s'.OneAdmin) oneKey
      [(.revokeApiKey 1, answering)] := by
  refine ⟨rfl, fun heach => ?_, fun heach => ?_⟩
  · exact absurd (show 2 = 1 from (heach _ rfl).1) (by decide)
  · exact absurd (show 0 = 1 from (heach _ rfl).1) (by decide)

end KeyHandlers

end NebulaId
