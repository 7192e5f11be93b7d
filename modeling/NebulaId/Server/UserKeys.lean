import NebulaId.Server.KeyHandlers
import NebulaId.Machine.Along

/-!
# User keys (`server/handlers/api_key_handlers.rs`, `workspace_handlers.rs`)

Handlers run side by side, and each call of the repository is atomic. `create_api_key` looks for a
user key of the workspace and inserts one in a later call; `regenerate_user_api_key` deletes the
keys that it has listed and inserts one in a later call. What another handler has inserted
meanwhile goes unnoticed.

* `oneUserKey_serve_iff`: only an insertion gives a workspace one key more.
* `one_user_key_iff`: along every interleaving a workspace has at most one user key if and only if
  each insertion finds the workspace without one.
* `two_user_keys`: two handlers that look before either inserts.
-/

namespace NebulaId

open Machine

/-- How many keys with the role of a user a workspace has. -/
def ApiKeyTable.userCount (t : ApiKeyTable) (workspaceId : Uuid) : ℕ :=
  t.rows.countP fun r => decide (r.workspaceId = some workspaceId) &&
    decide (ApiKeyRole.ofStr r.role = .user)

def KeyStore.OneUserKey (s : KeyStore) : Prop := ∀ workspaceId, s.keys.userCount workspaceId ≤ 1

namespace ApiKeyTable

variable {t t' : ApiKeyTable} {workspaceId : Uuid}

theorem userCount_of_owners (h : t'.rows.map ApiKeyRow.owner = t.rows.map ApiKeyRow.owner) :
    t'.userCount workspaceId = t.userCount workspaceId := by
  have hcount : ∀ t : ApiKeyTable, t.userCount workspaceId =
      (t.rows.map ApiKeyRow.owner).countP fun o => decide (o.2.2 = some workspaceId) &&
        decide (ApiKeyRole.ofStr o.2.1 = .user) := by
    intro t
    rw [List.countP_map]
    rfl
  rw [hcount, hcount, h]

theorem userCount_of_rows (workspaceId : Uuid) {new : ApiKeyRow}
    (h : t'.rows = t.rows ++ [new]) :
    t'.userCount workspaceId = t.userCount workspaceId +
      if new.workspaceId = some workspaceId ∧ ApiKeyRole.ofStr new.role = .user then 1 else 0 := by
  rw [userCount, h, List.countP_append, List.countP_singleton]
  simp [userCount]

theorem userCount_deleteById_le (id : Uuid) :
    (t.deleteById id).userCount workspaceId ≤ t.userCount workspaceId :=
  List.filter_sublist.countP_le

end ApiKeyTable

namespace KeyHandlers

open Script KeyStore ApiKeyRepository

abbrev World := Crowd KeyStore (KeyScript Unit)

abbrev Act := CrowdAct KeyOp RepoInput Unit

/-- The handlers of any number of requests, side by side. -/
def together (a : KeyHandlers) (h : KeyHasher) : World → Act → Option World :=
  Crowd.step (program (serve h) a.script)

def Act.FreshInsert (h : KeyHasher) (w : World) : Act → Prop
  | .move k i => ∀ request next workspaceId, w.tasks[k]? = some (.call (.createApiKey request) next) →
      request.role = .user → request.workspaceId = some workspaceId →
      Creates h i.db i.draw w.shared.keys request → w.shared.keys.userCount workspaceId = 0
  | _ => True

variable {a : KeyHandlers} {h : KeyHasher} {s : KeyStore} {i : RepoInput}

/-- **A call** keeps the workspaces with one user key at most, unless it inserts a second one. -/
theorem oneUserKey_serve_iff (hs : s.OneUserKey) (c : RepoCall) :
    (serve h c i s).2.OneUserKey ↔ ∀ request workspaceId, c = .createApiKey request →
      request.role = .user → request.workspaceId = some workspaceId →
      Creates h i.db i.draw s.keys request → s.keys.userCount workspaceId = 0 := by
  have hchange := serve_keys h c i s
  unfold OneUserKey
  generalize (serve h c i s).2.keys = t at hchange ⊢
  cases hchange with
  | created request row hcheck hcreates hmade hrows =>
    constructor
    · intro hone request' workspaceId heq hrole hws _
      cases heq
      have hnew : row.workspaceId = some workspaceId ∧ ApiKeyRole.ofStr row.role = .user := by
        rw [hmade.workspaceId, hmade.role, hrole]
        exact ⟨hws, rfl⟩
      have hcount := ApiKeyTable.userCount_of_rows workspaceId hrows
      rw [if_pos hnew] at hcount
      have hle := hone workspaceId
      omega
    · intro hfresh workspaceId
      have hcount := ApiKeyTable.userCount_of_rows workspaceId hrows
      split at hcount
      · rename_i hnew
        have hrole : request.role = .user := by
          have huser := hnew.2
          rw [hmade.role] at huser
          obtain ⟨-, -, -, keyPrefix, hash, hprefix, -⟩ := hcreates
          cases hrole : request.role with
          | admin =>
            rw [hrole] at huser
            exact absurd huser (by decide)
          | user => rfl
          | anonymous =>
            rw [hrole] at hprefix
            cases hprefix
        have hzero := hfresh request workspaceId rfl hrole (hmade.workspaceId ▸ hnew.1) hcreates
        omega
      · have hle := hs workspaceId
        omega
  | refused request hnot hsame =>
    rw [hsame]
    refine iff_of_true hs fun request' workspaceId heq hrole hws hcreates => ?_
    cases heq
    refine absurd ⟨?_, hcreates⟩ hnot
    rw [CheckAdminKey, hrole, hws]
    exact Or.inr ⟨Option.some_ne_none _, by decide⟩
  | deleted id hdb hid hrows =>
    refine iff_of_true (fun workspaceId => ?_) fun request workspaceId heq => by cases heq
    rw [hrows]
    exact (ApiKeyTable.userCount_deleteById_le id).trans (hs workspaceId)
  | kept c hcreate howners =>
    refine iff_of_true (fun workspaceId => ?_) fun request workspaceId heq =>
      absurd heq (hcreate request)
    rw [ApiKeyTable.userCount_of_owners howners]
    exact hs workspaceId

theorem oneUserKey_step_iff {w w' : World} {act : Act} (hs : w.shared.OneUserKey)
    (hstep : together a h w act = some w') : w'.shared.OneUserKey ↔ act.FreshInsert h w := by
  rcases step_cases hstep with ⟨op, rfl, rfl⟩ | ⟨k, i, c, next, rfl, hk, rfl⟩ | ⟨rfl, rfl⟩
  · exact iff_of_true hs trivial
  · refine (oneUserKey_serve_iff hs c).trans ⟨fun hfresh => ?_, fun hfresh => ?_⟩
    · intro request next' workspaceId hk' hrole hws hcreates
      cases hk.symm.trans hk'
      exact hfresh request workspaceId rfl hrole hws hcreates
    · rintro request workspaceId rfl hrole hws hcreates
      exact hfresh request next workspaceId hk hrole hws hcreates
  · exact iff_of_true hs trivial

/-- **A workspace has one user key at most**, in every interleaving, if and only if each key that
is inserted for it finds it without one. -/
theorem one_user_key_iff (a : KeyHandlers) (h : KeyHasher) (s : KeyStore) (hs : s.OneUserKey)
    (run : List Act) :
    EachStep (together a h) (fun _ _ w' => w'.shared.OneUserKey) ⟨s, []⟩ run ↔
      EachStep (together a h) (fun w act _ => act.FreshInsert h w) ⟨s, []⟩ run :=
  eachStep_iff_of_invariant (I := fun w => w.shared.OneUserKey) hs
    fun _ _ _ hs hstep => oneUserKey_step_iff hs hstep

def noKeys : KeyStore := .empty

theorem noKeys_oneUserKey : noKeys.OneUserKey := fun _ => Nat.zero_le 1

/-- The request for a key of the workspace 7. -/
def userKeyOp : KeyOp := .createApiKey (some 7) ⟨"app", none, some "user", none, none⟩

/-- One handler looks and inserts. -/
theorem one_user_key_alone : EachStep (together plainHandlers ApiKeyState.plainHasher)
    (fun _ _ w' => w'.shared.OneUserKey) ⟨noKeys, []⟩
    [.spawn userKeyOp, .move 0 (answering 0), .move 0 (answering 1)] := by
  refine (one_user_key_iff plainHandlers ApiKeyState.plainHasher noKeys noKeys_oneUserKey _).mpr ?_
  intro w hw
  cases hw
  refine ⟨trivial, fun w hw => ?_⟩
  cases hw
  refine ⟨fun request next workspaceId hk => (by cases hk), fun w hw => ?_⟩
  cases hw
  refine ⟨fun request next workspaceId hk _ _ _ => ?_, trivial⟩
  rfl

/-- Two handlers look before either inserts, and the workspace gets two keys. -/
theorem two_user_keys : noKeys.OneUserKey ∧
    ¬ EachStep (together plainHandlers ApiKeyState.plainHasher)
      (fun _ _ w' => w'.shared.OneUserKey) ⟨noKeys, []⟩
      [.spawn userKeyOp, .spawn userKeyOp, .move 0 (answering 0), .move 1 (answering 1),
        .move 0 (answering 2), .move 1 (answering 3)] := by
  refine ⟨noKeys_oneUserKey, fun heach => ?_⟩
  have hlooked := ((((heach _ rfl).2 _ rfl).2 _ rfl).2 _ rfl).2
  exact absurd (show 2 ≤ 1 from ((hlooked _ rfl).2 _ rfl).1 7) (by decide)

end KeyHandlers

end NebulaId
