import NebulaId.Server.KeyHandlers

/-!
# Handlers that write twice (`server/handlers/workspace_handlers.rs`)

`create_workspace` inserts a workspace and then its key, and `regenerate_user_api_key` deletes the
user keys of a workspace one by one and then creates a new one. No transaction is around the writes,
so an error after the first of them leaves the store changed.

* `allOrNothing_iff`: the calls that have to succeed for an error to change nothing.
* `half_written`: a workspace without a key, and a workspace whose key is gone.
-/

namespace NebulaId

open Machine

namespace KeyHandlers

open Script KeyStore

/-- An error leaves the store as it was. -/
def AllOrNothing {α : Type} (h : KeyHasher) (ins : ℕ → RepoInput) (s : KeyStore)
    (x : KeyScript α) : Prop :=
  ∀ e, (x.exec (serve h) ins 0 s).value = .error e → (x.exec (serve h) ins 0 s).memory = s

/-- With the workspace, the key is inserted. -/
def CreatesBoth (a : KeyHandlers) (h : KeyHasher) (ins : ℕ → RepoInput) (s : KeyStore)
    (req : SeaOrmRepository.CreateWorkspaceRequest) : Prop :=
  InsertsFirst a ins s req → CreatesSecond a h ins s req

/-- There is no key to delete, the first deletion fails, or neither a deletion nor the creation
does. -/
def ReplacesAll (a : KeyHandlers) (h : KeyHasher) (ins : ℕ → RepoInput) (s : KeyStore)
    (workspaceName : String) : Prop :=
  ∀ row, ListsKeys a ins s workspaceName row →
    s.listedUserIds row.id = [] ∨ (ins 2).db.failure ≠ none ∨
      (AllAnswered ins 2 (s.listedUserIds row.id).length ∧ CreatesAfter h ins s row)

variable {a : KeyHandlers} {h : KeyHasher} {ins : ℕ → RepoInput} {s : KeyStore}

theorem createWorkspace_allOrNothing_iff (req : SeaOrmRepository.CreateWorkspaceRequest) :
    AllOrNothing h ins s (a.createWorkspace req) ↔ CreatesBoth a h ins s req := by
  have hexec := createWorkspace_exec a h ins s req
  unfold AllOrNothing
  generalize (a.createWorkspace req).exec (serve h) ins 0 s = out at hexec ⊢
  cases hexec with
  | refused e m hnot => exact ⟨fun _ hfirst => absurd hfirst hnot, fun _ _ _ => rfl⟩
  | alone e m s' hfirst hnot hworkspaces hkeys =>
    refine iff_of_false (fun hall => ?_) fun hboth => hnot (hboth hfirst)
    have hsame : s' = s := hall e rfl
    rw [hsame] at hworkspaces
    simp at hworkspaces
  | both response m new s' hfirst hsecond =>
    exact ⟨fun _ _ => hsecond, fun _ e he => by cases he⟩

theorem deleteKeys_eq_iff {workspaceId : Uuid} {deleted : List Uuid}
    (hsub : deleted.Sublist (s.listedUserIds workspaceId)) :
    s.deleteKeys deleted = s ↔ deleted = [] := by
  constructor
  · intro heq
    by_contra hne
    obtain ⟨id, hid⟩ := List.exists_mem_of_ne_nil deleted hne
    have hstored := (s.listedUserIds_sublist workspaceId).subset (hsub.subset hid)
    exact deleteKeys_ne hstored hid heq
  · rintro rfl
    rfl

theorem regenerate_allOrNothing_iff (name : String) :
    AllOrNothing h ins s (a.regenerateUserApiKey name) ↔ ReplacesAll a h ins s name := by
  by_cases hlists : ∃ row, ListsKeys a ins s name row
  · obtain ⟨row, hrow⟩ := hlists
    have honly : ∀ other, ListsKeys a ins s name other → other = row := fun other hother =>
      Option.some.inj (hother.found.symm.trans hrow.found)
    have hexec := regenerate_of_lists (h := h) hrow
    unfold AllOrNothing
    generalize (a.regenerateUserApiKey name).exec (serve h) ins 0 s = out at hexec ⊢
    cases hexec with
    | stopped e m deleted hnot hsub hfirst =>
      have hiff : (∀ e', (Except.error e : Result ApiKeyWithSecret) = .error e' →
          s.deleteKeys deleted = s) ↔ deleted = [] := by
        rw [← deleteKeys_eq_iff hsub]
        exact ⟨fun hall => hall e rfl, fun heq _ _ => heq⟩
      rw [hiff, hfirst]
      constructor
      · intro hfail other hother
        exact Or.inr (Or.inl hfail)
      · intro hreplaces
        rcases hreplaces row hrow with hnone | hfail | ⟨hall, -⟩
        · exact absurd (by simp [AllAnswered, hnone]) hnot
        · exact hfail
        · exact absurd hall hnot
    | refused e m hall hnot =>
      constructor
      · intro hkept other hother
        rw [honly other hother]
        exact Or.inl ((deleteKeys_eq_iff (List.Sublist.refl _)).mp (hkept e rfl))
      · intro hreplaces e' he'
        rcases hreplaces row hrow with hnone | hfail | ⟨-, hcreates⟩
        · rw [hnone]
          rfl
        · cases hids : s.listedUserIds row.id with
          | nil => rfl
          | cons id ids =>
            rw [hids] at hall
            exact absurd (allAnswered_succ.mp hall).1 hfail
        · exact absurd hcreates hnot
    | replaced key m new s' hall hcreates =>
      refine iff_of_true (fun e he => by cases he) fun other hother => ?_
      rw [honly other hother]
      exact Or.inr (Or.inr ⟨hall, hcreates⟩)
  · have hnot : ∀ row, ¬ ListsKeys a ins s name row := fun row hrow => hlists ⟨row, hrow⟩
    obtain ⟨e, m, hexec⟩ := regenerate_of_not_lists (h := h) hnot
    refine iff_of_true (fun e' he' => ?_) fun row hrow => absurd hrow (hnot row)
    rw [hexec]

/-- **An error changes nothing** exactly when no call fails after the first write. -/
theorem allOrNothing_iff (a : KeyHandlers) (h : KeyHasher) (ins : ℕ → RepoInput) (s : KeyStore) :
    (∀ req, AllOrNothing h ins s (a.createWorkspace req) ↔ CreatesBoth a h ins s req) ∧
      ∀ name, AllOrNothing h ins s (a.regenerateUserApiKey name) ↔ ReplacesAll a h ins s name :=
  ⟨createWorkspace_allOrNothing_iff, regenerate_allOrNothing_iff⟩

/-- The call number `k` fails. -/
def failing (k : ℕ) (n : ℕ) : RepoInput :=
  ⟨⟨if n = k then some "connection reset" else none, ""⟩, 0,
    ⟨.ofNat 128 (100 + n), .ofNat 128 (200 + n), "generated-secret", "salt"⟩⟩

def userKeyRow : ApiKeyRow where
  id := 1
  keyId := "nino_app"
  keySecretHash := "first-secret"
  keyPrefix := "nino_"
  role := "user"
  workspaceId := some 7
  name := "app-user-key"
  description := none
  rateLimit := 10000
  enabled := true
  expiresAt := none
  lastUsedAt := none
  createdAt := 0
  updatedAt := 0

/-- A workspace with its key. -/
def oneWorkspace : KeyStore where
  workspaces := ⟨⟨[⟨7, "app", none, "active", 10, 100, 0, 0⟩], List.nodup_singleton _⟩,
    List.nodup_singleton _⟩
  keys := ⟨[userKeyRow], List.nodup_singleton _, List.nodup_singleton _⟩
  checkAdminKey := by
    intro r hr
    rw [List.mem_singleton.mp hr]
    exact Or.inr ⟨Option.some_ne_none _, by decide⟩

/-- The insertion of the key fails: a new workspace has no key, and an old one has lost its own. -/
theorem half_written :
    ¬ AllOrNothing ApiKeyState.plainHasher (failing 1) oneWorkspace
      (plainHandlers.createWorkspace ⟨"new", none, none, none⟩) ∧
    ¬ AllOrNothing ApiKeyState.plainHasher (failing 3) oneWorkspace
      (plainHandlers.regenerateUserApiKey "app") := by
  constructor
  · intro hall
    have hrows := congrArg (fun s => s.workspaces.rows.length) (hall _ rfl)
    exact absurd (show 2 = 1 from hrows) (by decide)
  · intro hall
    have hrows := congrArg (fun s => s.keys.rows.length) (hall _ rfl)
    exact absurd (show 0 = 1 from hrows) (by decide)

end KeyHandlers

end NebulaId
