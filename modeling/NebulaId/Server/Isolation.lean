import NebulaId.Server.SafeRequests

/-!
# One workspace beside the others (`server/router.rs`)

A request that is not safe tells a workspace something about the rows of another one. Each time
there are two databases that look the same to the workspace and get different answers.

* `exists_two_names`, `exists_two_bizTags`: databases with and without a row of another workspace.
* `isolated_iff`: the isolated requests are the safe ones, as long as there is an unused id.
* `group_leaked`: the groups of another workspace.
-/

namespace NebulaId

open Machine Store

open SeaOrmRepository (Catalog SameView WorkspaceRow GroupRow BizTagRow)

namespace TenantService

/-- An id that no other row has. -/
structure Unused (w : Uuid) (c : Catalog) (id : Uuid) : Prop where
  other : id ≠ w
  workspaces : id ∉ c.workspaces.rows.map WorkspaceRow.id
  groups : id ∉ c.groups.rows.map GroupRow.id
  bizTags : id ∉ c.bizTags.rows.map BizTagRow.id

/-- Every statement succeeds. -/
def calm (uuids : UuidCrate) (drawn : Uuid) : TenantService where
  uuids := uuids
  outside := .bare
  config := .withDatabase FullConfig.sparseEnv (.ofUrl "postgres://db")
  db := fun _ => ⟨none, ""⟩
  now := 0
  drawn := drawn

variable {s : TenantService} {uuids : UuidCrate} {w f : Uuid} {c c₁ c₂ : Catalog}
  {req : TenantRequest} {name : String}

theorem Isolated.same (hiso : Isolated uuids w c req) (h₁ : SameView w c c₁) (h₂ : SameView w c c₂)
    (hnew₁ : Fresh f c₁ req) (hnew₂ : Fresh f c₂ req) :
    ((calm uuids f).serve w c₁ req).1 = ((calm uuids f).serve w c₂ req).1 :=
  (hiso (calm uuids f) c₁ c₂ rfl h₁ h₂ hnew₁ hnew₂).1

/-- A name that is not that of the workspace is that of nobody, or of another workspace. -/
theorem exists_two_names (hf : Unused w c f) (hname : ¬ Named w c name) :
    ∃ c₁ c₂ row, SameView w c c₁ ∧ SameView w c c₂ ∧ c₁.workspaces.findBy name = none ∧
      c₂.workspaces.findBy name = some row ∧ row.id = f ∧ c₁.groups = c.groups ∧
        c₂.groups = c.groups := by
  obtain ⟨c₁, h₁, hgroups₁, -, hids, hgone⟩ := SeaOrmRepository.exists_unnamed
    fun row hrow hrow' => hname ⟨row, hrow, hrow'⟩
  obtain ⟨c₂, row, h₂, hgroups₂, -, hrows, hid, hrow⟩ := SeaOrmRepository.exists_workspace
    (hids ▸ hf.workspaces) hgone hf.other
  refine ⟨c₁, c₂, row, h₁, h₁.trans h₂, Indexed.findBy_eq_none.mpr hgone,
    Indexed.findBy_eq_some.mpr ⟨?_, hrow⟩, hid, hgroups₁, hgroups₂.trans hgroups₁⟩
  rw [hrows]
  exact List.mem_append_right _ (List.mem_singleton.mpr rfl)

theorem verify_absent (h : c.workspaces.findBy name = none) :
    ((calm uuids f).seeing c).verifyWorkspace name (some w) =
      .error (.workspaceNameNotFound Surroundings.bare.t name) := by
  dsimp only [Surroundings.verifyWorkspace, seeing, verifyUserWorkspace, getWorkspace,
    SeaOrmRepository.getWorkspaceByName, calm]
  rw [h]
  rfl

theorem verify_foreign {row : WorkspaceRow} (h : c.workspaces.findBy name = some row)
    (hw : row.id ≠ w) : ((calm uuids f).seeing c).verifyWorkspace name (some w) =
      .error (.workspaceMismatch Surroundings.bare.t) := by
  dsimp only [Surroundings.verifyWorkspace, seeing, verifyUserWorkspace, getWorkspace,
    SeaOrmRepository.getWorkspaceByName, calm]
  rw [h]
  exact if_neg hw

theorem notFound_ne_mismatch (t : Texts) :
    ErrorResponse.workspaceNameNotFound t name ≠ ErrorResponse.workspaceMismatch t := by
  intro heq
  cases congrArg ErrorResponse.code heq

/-- Past the other checks the workspace is looked for. -/
theorem checked_eq {α : Type} {errors : List (String × String)} {x : Except ErrorResponse α}
    {e : ErrorResponse} (hvalid : errors = [])
    (h : (s.seeing c).verifyWorkspace name (some w) = .error e) :
    (do
      verifyUserRole s.outside.t .user
      validateRequest s.outside.t errors
      (s.seeing c).verifyWorkspace name (some w)
      x) = .error e := by
  rw [h, hvalid]
  rfl

/-- Whether there is another workspace with the name: 404 or 403. -/
theorem exists_two_verdicts (uuids : UuidCrate) {errors : List (String × String)} (hf : Unused w c f)
    (h : ¬ (errors ≠ [] ∨ Named w c name)) :
    ∃ c₁ c₂, SameView w c c₁ ∧ SameView w c c₂ ∧ c₁.groups = c.groups ∧ c₂.groups = c.groups ∧
      errors = [] ∧
      ((calm uuids f).seeing c₁).verifyWorkspace name (some w) =
        .error (.workspaceNameNotFound Surroundings.bare.t name) ∧
      ((calm uuids f).seeing c₂).verifyWorkspace name (some w) =
        .error (.workspaceMismatch Surroundings.bare.t) := by
  obtain ⟨hvalid, hname⟩ := not_or.mp h
  obtain ⟨c₁, c₂, row, h₁, h₂, hnone, hsome, hid, hgroups⟩ := exists_two_names hf hname
  exact ⟨c₁, c₂, h₁, h₂, hgroups.1, hgroups.2, not_not.mp hvalid, verify_absent hnone,
    verify_foreign hsome (hid ▸ hf.other)⟩

theorem not_isolated_generate {req : GenerateRequest} (hf : Unused w c f)
    (h : ¬ (req.validate ≠ [] ∨ Named w c req.workspace)) : ¬ Isolated uuids w c (.generate req) := by
  obtain ⟨c₁, c₂, h₁, h₂, -, -, hvalid, habsent, hforeign⟩ := exists_two_verdicts uuids hf h
  intro hiso
  have heq := hiso.same (f := f) h₁ h₂ trivial trivial
  have hleft : ((calm uuids f).seeing c₁).handleGenerate (some w) .user req = _ :=
    checked_eq hvalid habsent
  have hright : ((calm uuids f).seeing c₂).handleGenerate (some w) .user req = _ :=
    checked_eq hvalid hforeign
  dsimp only [serve] at heq
  rw [hleft, hright] at heq
  exact notFound_ne_mismatch _ (Except.error.inj heq)

theorem not_isolated_batchGenerate {req : BatchGenerateRequest} (hf : Unused w c f)
    (h : ¬ (req.validate ≠ [] ∨ Named w c req.workspace)) :
    ¬ Isolated uuids w c (.batchGenerate req) := by
  obtain ⟨c₁, c₂, h₁, h₂, -, -, hvalid, habsent, hforeign⟩ := exists_two_verdicts uuids hf h
  intro hiso
  have heq := hiso.same (f := f) h₁ h₂ trivial trivial
  have hleft : ((calm uuids f).seeing c₁).handleBatchGenerate (some w) .user req = _ :=
    checked_eq hvalid habsent
  have hright : ((calm uuids f).seeing c₂).handleBatchGenerate (some w) .user req = _ :=
    checked_eq hvalid hforeign
  dsimp only [serve] at heq
  rw [hleft, hright] at heq
  exact notFound_ne_mismatch _ (Except.error.inj heq)

theorem handleCreateGroup_refused {req : CreateGroupRequest} {e : ErrorResponse}
    (hvalid : req.validate = [])
    (h : (s.seeing c).verifyWorkspace req.workspace (some w) = .error e) :
    (s.handleCreateGroup c (some w) .user req).1 = .error e := by
  unfold handleCreateGroup
  rw [h, hvalid]
  rfl

theorem not_isolated_createGroup {req : CreateGroupRequest} (hf : Unused w c f)
    (h : ¬ (req.validate ≠ [] ∨ Named w c req.workspace)) :
    ¬ Isolated uuids w c (.createGroup req) := by
  obtain ⟨c₁, c₂, h₁, h₂, hgroups₁, hgroups₂, hvalid, habsent, hforeign⟩ :=
    exists_two_verdicts uuids hf h
  intro hiso
  have heq := hiso.same (f := f) h₁ h₂ (show f ∉ _ from hgroups₁ ▸ hf.groups)
    (show f ∉ _ from hgroups₂ ▸ hf.groups)
  dsimp only [serve] at heq
  rw [handleCreateGroup_refused hvalid habsent, handleCreateGroup_refused hvalid hforeign] at heq
  exact notFound_ne_mismatch _ (Except.error.inj heq)

theorem not_isolated_getWorkspace (hf : Unused w c f) (h : ¬ Named w c name) :
    ¬ Isolated uuids w c (.getWorkspace name) := by
  obtain ⟨c₁, c₂, row, h₁, h₂, hnone, hsome, -⟩ := exists_two_names hf h
  intro hiso
  have heq := hiso.same (f := f) h₁ h₂ trivial trivial
  dsimp only [serve, handleGetWorkspace, getWorkspace, SeaOrmRepository.getWorkspaceByName, calm] at heq
  rw [hnone, hsome] at heq
  cases heq

/-- With the name there comes a group. -/
theorem not_isolated_listGroups {params : GroupListParams} (hf : Unused w c f)
    (h : ¬ (params.validate ≠ [] ∨ Named w c params.workspace)) :
    ¬ Isolated uuids w c (.listGroups params) := by
  obtain ⟨hvalid, hname⟩ := not_or.mp h
  obtain ⟨c₁, c₂, row, h₁, h₂, hnone, hsome, hid, -, hgroups⟩ := exists_two_names hf hname
  obtain ⟨hmem, -⟩ := Indexed.findBy_eq_some.mp hsome
  obtain ⟨c₃, group, h₃, hws, -, hrows, -, hgroup⟩ := SeaOrmRepository.exists_group
    (hid ▸ List.mem_map_of_mem hmem) (hgroups ▸ hf.groups) hf.other
  rw [← hws] at hsome
  intro hiso
  have heq := hiso.same (f := f) h₁ (h₂.trans h₃) trivial trivial
  dsimp only [serve, handleListGroups, validateRequest, listGroups,
    SeaOrmRepository.getWorkspaceByName, SeaOrmRepository.listGroups, SeaOrmRepository.query, calm]
    at heq
  rw [hnone, hsome, if_pos (not_not.mp hvalid)] at heq
  have htotal := congrArg GroupListResponse.total (TenantResponse.groups.inj (Except.ok.inj heq))
  have hown : group ∈ own GroupRow.workspaceId row.id c₃.groups.rows := by
    rw [hrows]
    exact mem_own.mpr ⟨List.mem_append_right _ (List.mem_singleton.mpr rfl), hgroup.trans hid.symm⟩
  simp only [SeaOrmRepository.page, List.length_map] at htotal
  exact absurd htotal.symm (List.length_pos_of_mem hown).ne'

theorem not_isolated_listWorkspaces (hf : Unused w c f) : ¬ Isolated uuids w c .listWorkspaces := by
  obtain ⟨c', row, h, -, -, hrows, -⟩ :=
    SeaOrmRepository.exists_new_workspace hf.workspaces hf.other
  intro hiso
  have heq := hiso.same (f := f) (.refl w c) h trivial trivial
  have htotal := congrArg WorkspaceListResponse.total (TenantResponse.workspaces.inj (Except.ok.inj heq))
  simp only [SeaOrmRepository.page, List.length_map, Option.getD_none, List.drop_zero, hrows,
    List.length_append, List.length_singleton] at htotal
  omega

/-- Another workspace, with a group of this id. -/
theorem exists_foreign_group {groupId : Uuid} (hf : f ≠ w)
    (hws : f ∉ c.workspaces.rows.map WorkspaceRow.id)
    (hgroup : groupId ∉ c.groups.rows.map GroupRow.id) :
    ∃ c', SameView w c c' ∧ c'.bizTags = c.bizTags ∧
      f ∈ c'.workspaces.rows.map WorkspaceRow.id ∧ groupId ∈ c'.groups.rows.map GroupRow.id := by
  obtain ⟨c₁, row, h₁, hgroups, htags, hrows, hid⟩ := SeaOrmRepository.exists_new_workspace hws hf
  have hmem : f ∈ c₁.workspaces.rows.map WorkspaceRow.id := by
    rw [hrows, ← hid]
    exact Catalog.mem_map_append_self _ _ _
  obtain ⟨c₂, group, h₂, hworkspaces, htags', hrows', hid', -⟩ := SeaOrmRepository.exists_group hmem
    (hgroups ▸ hgroup) hf
  refine ⟨c₂, h₁.trans h₂, htags'.trans htags, hworkspaces ▸ hmem, ?_⟩
  rw [hrows', ← hid']
  exact Catalog.mem_map_append_self _ _ _

theorem handleCreateBizTag_eq {req : CreateBizTagRequest} (hvalid : req.validate = [])
    (hw : req.workspaceId = w) : (s.handleCreateBizTag c (some w) .user req).1 =
      s.respond (s.createBizTag c req).1 := by
  unfold handleCreateBizTag
  rw [hvalid, verifyWorkspaceIdMatch_eq_ok.mpr hw]
  rfl

theorem createBizTag_noGroup (uuids : UuidCrate) (f : Uuid) {req : CreateBizTagRequest}
    {coreReq : SeaOrmRepository.CreateBizTagRequest} (hcore : req.core = .ok coreReq)
    (hws : coreReq.workspaceId ∈ c.workspaces.rows.map WorkspaceRow.id)
    (hgroup : coreReq.groupId ∉ c.groups.rows.map GroupRow.id) :
    ∃ e, ((calm uuids f).createBizTag c req).1 = .error e := by
  unfold createBizTag
  rw [hcore]
  dsimp only [SeaOrmRepository.createBizTag, SeaOrmRepository.query, calm]
  rw [decide_eq_true hws, decide_eq_false hgroup]
  exact ⟨_, rfl⟩

theorem createBizTag_new (uuids : UuidCrate) (f : Uuid) {req : CreateBizTagRequest}
    {coreReq : SeaOrmRepository.CreateBizTagRequest} (hcore : req.core = .ok coreReq)
    (hnew : c.NewBizTag (coreReq.row f 0)) :
    ∃ tag, ((calm uuids f).createBizTag c req).1 = .ok tag := by
  unfold createBizTag
  rw [hcore]
  dsimp only [SeaOrmRepository.createBizTag, SeaOrmRepository.query, calm]
  rw [decide_eq_true (show coreReq.workspaceId ∈ _ from hnew.1),
    decide_eq_true (show coreReq.groupId ∈ _ from hnew.2.1)]
  dsimp only
  rw [dif_pos hnew]
  exact ⟨_, rfl⟩

/-- A group of another workspace is there, or not. -/
theorem not_isolated_createBizTag {req : CreateBizTagRequest} (hf : Unused w c f)
    (h : ¬ (req.validate ≠ [] ∨ req.workspaceId ≠ w ∨ (∃ e, req.core = .error e) ∨
      own WorkspaceRow.id w c.workspaces.rows = [] ∨ Reaches w c req.groupId)) :
    ¬ Isolated uuids w c (.createBizTag req) := by
  simp only [Reaches, not_or, not_not, own_eq_nil_iff] at h
  obtain ⟨hvalid, hw, hcore, hexists, hgroup, htags⟩ := h
  cases hcoreReq : req.core with
  | error e => exact absurd ⟨e, hcoreReq⟩ hcore
  | ok coreReq =>
    obtain ⟨hcoreWs, hcoreGroup⟩ := core_ids hcoreReq
    obtain ⟨c₁, h₁, hws, hgone, hsub⟩ := SeaOrmRepository.exists_without_group
      (fun group hown hid => hgroup ⟨group, hown, hid⟩) (fun tag hown hid => htags ⟨tag, hown, hid⟩)
    obtain ⟨c₂, h₂, htags₂, -, hgroup₂⟩ := exists_foreign_group hf.other (hws ▸ hf.workspaces) hgone
    have hf₁ : f ∉ c₁.bizTags.rows.map BizTagRow.id :=
      fun hmem => hf.bizTags (List.map_subset _ hsub hmem)
    have hindex : (coreReq.row f 0).index ∉ c₁.bizTags.rows.map BizTagRow.index := by
      intro hmem
      obtain ⟨tag, htag, heq⟩ := List.mem_map.mp hmem
      have hin : tag.groupId = req.groupId :=
        (congrArg (fun index => index.2.1) heq).trans hcoreGroup
      exact hgone (hin ▸ c₁.tagGroup tag htag)
    have hw₁ : coreReq.workspaceId ∈ c₁.workspaces.rows.map WorkspaceRow.id := by
      rw [hcoreWs, hw]
      exact h₁.exists_iff.mp hexists
    have hw₂ : coreReq.workspaceId ∈ c₂.workspaces.rows.map WorkspaceRow.id := by
      rw [hcoreWs, hw]
      exact (h₁.trans h₂).exists_iff.mp hexists
    obtain ⟨e, herror⟩ := createBizTag_noGroup uuids f hcoreReq hw₁
      (hcoreGroup ▸ hgone)
    obtain ⟨tag, hok⟩ := createBizTag_new uuids f hcoreReq
      ⟨hw₂, show coreReq.groupId ∈ _ from hcoreGroup ▸ hgroup₂, show f ∉ _ from htags₂ ▸ hf₁,
        htags₂ ▸ hindex⟩
    intro hiso
    have heq := hiso.same (f := f) h₁ (h₁.trans h₂) hf₁ (show f ∉ _ from htags₂ ▸ hf₁)
    dsimp only [serve] at heq
    rw [handleCreateBizTag_eq hvalid hw, handleCreateBizTag_eq hvalid hw, herror, hok] at heq
    cases heq

/-- A biz tag of another workspace is there, or not. -/
theorem exists_two_bizTags {uuid : Uuid} (hf : Unused w c f) (h : ¬ HasBizTag w c uuid) :
    ∃ c₁ c₂ tag, SameView w c c₁ ∧ SameView w c c₂ ∧ c₁.bizTags.find uuid = none ∧
      c₂.bizTags.find uuid = some tag ∧ tag.workspaceId ≠ w := by
  obtain ⟨c₁, h₁, hws, hgroups, hgone⟩ := SeaOrmRepository.exists_without_bizTag
    fun tag htag hid => h ⟨tag, htag, hid⟩
  obtain ⟨c₂, h₂, htags, hws₂, hgroup₂⟩ := exists_foreign_group hf.other (hws ▸ hf.workspaces)
    (hgroups ▸ hf.groups)
  obtain ⟨c₃, tag, h₃, -, -, hrows, hid, hws₃⟩ := SeaOrmRepository.exists_bizTag hws₂ hgroup₂
    (htags ▸ hgone) hf.other
  refine ⟨c₁, c₃, tag, h₁, h₁.trans (h₂.trans h₃), Rows.find_eq_none.mpr hgone,
    Rows.find_eq_some.mpr ⟨?_, hid⟩, hws₃.trans_ne hf.other⟩
  rw [hrows]
  exact List.mem_append_right _ (List.mem_singleton.mpr rfl)

/-- The response to who asks for a biz tag that is not there. -/
def bizTagNotFound (uuid : Uuid) : ErrorResponse :=
  CoreError.toResponse Surroundings.bare.t (.notFound (Surroundings.bare.t
    "api.error.handlers.biz_tag_handlers.not_found" [("id", Id.uuidText uuid)]))

theorem bizTagNotFound_ne_mismatch (uuid : Uuid) (t : Texts) :
    bizTagNotFound uuid ≠ ErrorResponse.workspaceMismatch t := by
  intro heq
  cases congrArg ErrorResponse.code heq

theorem ownBizTag_absent {uuid : Uuid} (h : c.bizTags.find uuid = none) :
    (calm uuids f).ownBizTag c (some w) .user uuid = .error (bizTagNotFound uuid) := by
  dsimp only [ownBizTag, getBizTag, SeaOrmRepository.getBizTag, SeaOrmRepository.query, calm]
  rw [h]
  rfl

theorem ownBizTag_foreign {uuid : Uuid} {tag : BizTagRow} (h : c.bizTags.find uuid = some tag)
    (hw : tag.workspaceId ≠ w) : (calm uuids f).ownBizTag c (some w) .user uuid =
      .error (.workspaceMismatch Surroundings.bare.t) := by
  have hmatch : verifyWorkspaceIdMatch (calm uuids f).outside.t tag.workspaceId (some w) = _ :=
    if_neg hw
  unfold ownBizTag
  rw [getBizTag_of_find h]
  change (verifyWorkspaceIdMatch _ tag.workspaceId _ >>= fun _ => .ok tag.toBizTag) = _
  rw [hmatch]
  rfl

/-- Whether there is another workspace with the biz tag: 404 or 403. -/
theorem exists_two_checks {id : String} (hf : Unused w c f)
    (h : ¬ ∀ uuid, uuids.parseStr id = some uuid → HasBizTag w c uuid) :
    ∃ c₁ c₂ uuid, SameView w c c₁ ∧ SameView w c c₂ ∧ (calm uuids f).parseUuid id = .ok uuid ∧
      (calm uuids f).ownBizTag c₁ (some w) .user uuid =
        .error (bizTagNotFound uuid) ∧
      (calm uuids f).ownBizTag c₂ (some w) .user uuid =
        .error (.workspaceMismatch Surroundings.bare.t) := by
  simp only [not_forall] at h
  obtain ⟨uuid, huuid, h⟩ := h
  obtain ⟨c₁, c₂, tag, h₁, h₂, hnone, hsome, hw⟩ := exists_two_bizTags hf h
  exact ⟨c₁, c₂, uuid, h₁, h₂, parseUuid_eq_ok.mpr huuid, ownBizTag_absent hnone,
    ownBizTag_foreign hsome hw⟩

theorem handleGetBizTag_eq {id : String} {uuid : Uuid} {workspaceId : Option Uuid} {role : ApiKeyRole}
    (huuid : s.parseUuid id = .ok uuid) :
    s.handleGetBizTag c workspaceId role id = s.ownBizTag c workspaceId role uuid := by
  unfold handleGetBizTag
  rw [huuid]
  rfl

theorem not_isolated_getBizTag {id : String} (hf : Unused w c f)
    (h : ¬ ∀ uuid, uuids.parseStr id = some uuid → HasBizTag w c uuid) :
    ¬ Isolated uuids w c (.getBizTag id) := by
  obtain ⟨c₁, c₂, uuid, h₁, h₂, huuid, hown₁, hown₂⟩ := exists_two_checks hf h
  intro hiso
  have heq := hiso.same (f := f) h₁ h₂ trivial trivial
  dsimp only [serve] at heq
  rw [handleGetBizTag_eq huuid, handleGetBizTag_eq huuid, hown₁, hown₂] at heq
  exact bizTagNotFound_ne_mismatch _ _ (Except.error.inj heq)

theorem handleDeleteBizTag_refused {id : String} {uuid : Uuid} {e : ErrorResponse}
    (huuid : s.parseUuid id = .ok uuid) (h : s.ownBizTag c (some w) .user uuid = .error e) :
    (s.handleDeleteBizTag c (some w) .user id).1 = .error e := by
  unfold handleDeleteBizTag
  rw [huuid]
  change (first c (s.ownBizTag c _ _ uuid >>= fun _ => .ok uuid) _).1 = _
  rw [h]
  rfl

theorem not_isolated_deleteBizTag {id : String} (hf : Unused w c f)
    (h : ¬ ∀ uuid, uuids.parseStr id = some uuid → HasBizTag w c uuid) :
    ¬ Isolated uuids w c (.deleteBizTag id) := by
  obtain ⟨c₁, c₂, uuid, h₁, h₂, huuid, hown₁, hown₂⟩ := exists_two_checks hf h
  intro hiso
  have heq := hiso.same (f := f) h₁ h₂ trivial trivial
  dsimp only [serve] at heq
  rw [handleDeleteBizTag_refused huuid hown₁, handleDeleteBizTag_refused huuid hown₂] at heq
  exact bizTagNotFound_ne_mismatch _ _ (Except.error.inj heq)

theorem handleUpdateBizTag_refused {id : String} {req : UpdateBizTagRequest} {uuid : Uuid}
    {e : ErrorResponse} (huuid : s.parseUuid id = .ok uuid) (hvalid : req.validate = [])
    (h : s.ownBizTag c (some w) .user uuid = .error e) :
    (s.handleUpdateBizTag c (some w) .user id req).1 = .error e := by
  unfold handleUpdateBizTag
  rw [huuid, hvalid]
  change (first c (s.ownBizTag c _ _ uuid >>= fun _ => .ok uuid) _).1 = _
  rw [h]
  rfl

theorem not_isolated_updateBizTag {id : String} {req : UpdateBizTagRequest} (hf : Unused w c f)
    (h : ¬ (req.validate ≠ [] ∨ ∀ uuid, uuids.parseStr id = some uuid → HasBizTag w c uuid)) :
    ¬ Isolated uuids w c (.updateBizTag id req) := by
  obtain ⟨hvalid, h⟩ := not_or.mp h
  obtain ⟨c₁, c₂, uuid, h₁, h₂, huuid, hown₁, hown₂⟩ := exists_two_checks hf h
  intro hiso
  have heq := hiso.same (f := f) h₁ h₂ trivial trivial
  dsimp only [serve] at heq
  rw [handleUpdateBizTag_refused huuid (not_not.mp hvalid) hown₁,
    handleUpdateBizTag_refused huuid (not_not.mp hvalid) hown₂] at heq
  exact bizTagNotFound_ne_mismatch _ _ (Except.error.inj heq)

theorem exists_nil_workspace (hw : w ≠ 0) : ∃ c', SameView w c c' ∧ c'.groups = c.groups ∧
    c'.bizTags = c.bizTags ∧ 0 ∈ c'.workspaces.rows.map WorkspaceRow.id := by
  by_cases hnil : 0 ∈ c.workspaces.rows.map WorkspaceRow.id
  · exact ⟨c, .refl w c, rfl, rfl, hnil⟩
  · obtain ⟨c', row, h, hgroups, htags, hrows, hid⟩ :=
      SeaOrmRepository.exists_new_workspace hnil hw.symm
    refine ⟨c', h, hgroups, htags, ?_⟩
    rw [hrows, ← hid]
    exact Catalog.mem_map_append_self _ _ _

theorem pageSize_ne_zero (pageSize : UInt64) : min (max pageSize 1) 100 ≠ 0 := by
  change (if (if pageSize ≤ 1 then 1 else pageSize) ≤ 100 then (if pageSize ≤ 1 then 1 else pageSize)
    else 100) ≠ 0
  by_cases hsmall : pageSize ≤ 1
  · simp only [if_pos hsmall]
    decide
  · simp only [if_neg hsmall]
    split
    · rintro rfl
      exact hsmall (by decide)
    · decide

theorem handleListBizTags_total (uuids : UuidCrate) (f : Uuid) (c : Catalog)
    {params : PaginationParams} (hvalid : params.validate = []) :
    ∃ resp, (calm uuids f).handleListBizTags c params = .ok resp ∧
      resp.total = (SeaOrmRepository.bizTagsOf c 0 none).length := by
  dsimp only [handleListBizTags, listBizTagsWithPagination]
  rw [hvalid, if_neg (pageSize_ne_zero params.pageSize)]
  exact ⟨_, rfl, rfl⟩

/-- The workspace with the nil UUID gets a biz tag. -/
theorem not_isolated_listBizTags {params : PaginationParams} (hf : Unused w c f)
    (h : ¬ (params.validate ≠ [] ∨ w = 0)) : ¬ Isolated uuids w c (.listBizTags params) := by
  obtain ⟨hvalid, hw⟩ := not_or.mp h
  obtain ⟨c₁, h₁, hgroups₁, htags₁, hnil⟩ := exists_nil_workspace (c := c) hw
  obtain ⟨c₂, group, h₂, hws₂, htags₂, hrows₂, hid₂, -⟩ := SeaOrmRepository.exists_group hnil
    (hgroups₁ ▸ hf.groups) (Ne.symm hw)
  have hgroup : f ∈ c₂.groups.rows.map GroupRow.id := by
    rw [hrows₂, ← hid₂]
    exact Catalog.mem_map_append_self _ _ _
  obtain ⟨c₃, tag, h₃, -, -, hrows₃, -, hws₃⟩ := SeaOrmRepository.exists_bizTag (hws₂ ▸ hnil) hgroup
    (show f ∉ _ from (htags₂.trans htags₁) ▸ hf.bizTags) (Ne.symm hw)
  obtain ⟨resp, hresp, htotal⟩ := handleListBizTags_total uuids f c (not_not.mp hvalid)
  obtain ⟨resp', hresp', htotal'⟩ := handleListBizTags_total uuids f c₃ (not_not.mp hvalid)
  intro hiso
  have heq := hiso.same (f := f) (.refl w c) (h₁.trans (h₂.trans h₃)) trivial trivial
  dsimp only [serve] at heq
  rw [hresp, hresp'] at heq
  have hsame := congrArg BizTagListResponse.total (TenantResponse.bizTags.inj (Except.ok.inj heq))
  rw [htotal, htotal', SeaOrmRepository.bizTagsOf_none, SeaOrmRepository.bizTagsOf_none, hrows₃,
    own_append_of_eq hws₃, htags₂, htags₁, List.length_append, List.length_singleton] at hsame
  omega

/-- **Isolated requests** are the safe ones, as long as there is an unused id. -/
theorem isolated_iff (uuids : UuidCrate) (w : Uuid) (c : Catalog) (req : TenantRequest)
    (hfree : ∃ f, Unused w c f) : Isolated uuids w c req ↔ Safe uuids w c req := by
  obtain ⟨f, hf⟩ := hfree
  refine ⟨fun hiso => ?_, isolated_of_safe⟩
  by_contra hsafe
  cases req with
  | getConfig => exact hsafe trivial
  | generate req => exact not_isolated_generate hf hsafe hiso
  | batchGenerate req => exact not_isolated_batchGenerate hf hsafe hiso
  | parse req => exact hsafe trivial
  | listWorkspaces => exact not_isolated_listWorkspaces hf hiso
  | getWorkspace name => exact not_isolated_getWorkspace hf hsafe hiso
  | createGroup req => exact not_isolated_createGroup hf hsafe hiso
  | listGroups params => exact not_isolated_listGroups hf hsafe hiso
  | createBizTag req => exact not_isolated_createBizTag hf hsafe hiso
  | listBizTags params => exact not_isolated_listBizTags hf hsafe hiso
  | getBizTag id => exact not_isolated_getBizTag hf hsafe hiso
  | updateBizTag id req => exact not_isolated_updateBizTag hf hsafe hiso
  | deleteBizTag id => exact not_isolated_deleteBizTag hf hsafe hiso

/-! ## The group of a neighbour -/

/-- No text reads as a UUID. -/
def noUuids : UuidCrate := ⟨fun _ => none, fun _ => none⟩

def acmeRow : WorkspaceRow := ⟨1, "acme", none, "active", 10, 100, 0, 0⟩

def globexRow : WorkspaceRow := ⟨2, "globex", none, "active", 10, 100, 0, 0⟩

/-- Two workspaces; the second has a group, or none. -/
def twoTenants (groups : SeaOrmRepository.GroupTable)
    (h : ∀ g ∈ groups.rows, g.workspaceId ∈ [acmeRow, globexRow].map WorkspaceRow.id) : Catalog where
  workspaces := ⟨⟨[acmeRow, globexRow], by decide⟩, by decide⟩
  groups := groups
  bizTags := .empty
  keys := .empty
  groupWorkspace := h
  tagWorkspace := fun b hb => by cases hb
  tagGroup := fun b hb => by cases hb

def withoutGroup : Catalog := twoTenants .empty fun g hg => by cases hg

def withGroup : Catalog :=
  twoTenants ⟨⟨[⟨3, 2, "launch", none, 50, 0, 0⟩], by decide⟩, by decide⟩ fun g hg => by
    rw [List.mem_singleton.mp hg]
    decide

theorem sameView_group : SameView 1 withoutGroup withGroup := ⟨rfl, rfl, rfl, rfl⟩

/-- The own workspace under its name. -/
theorem isolated_own_groups : Isolated noUuids 1 withoutGroup (.listGroups ⟨"acme", 1, 20⟩) :=
  (isolated_iff noUuids 1 withoutGroup (.listGroups ⟨"acme", 1, 20⟩)
    ⟨3, by decide, by decide, by decide, by decide⟩).mpr
      (Or.inr ⟨acmeRow, mem_own.mpr ⟨List.mem_cons_self, rfl⟩, rfl⟩)

/-- A user of `acme` reads the groups of `globex`. -/
theorem group_leaked : SameView 1 withoutGroup withGroup ∧
    ((calm noUuids 4).serve 1 withoutGroup (.listGroups ⟨"globex", 1, 20⟩)).1 =
      .ok (.groups ⟨[], 0⟩) ∧
    ((calm noUuids 4).serve 1 withGroup (.listGroups ⟨"globex", 1, 20⟩)).1 =
      .ok (.groups ⟨[⟨3, 2, "globex", "launch", none, 50, 0, 0⟩], 1⟩) ∧
    ¬ Isolated noUuids 1 withoutGroup (.listGroups ⟨"globex", 1, 20⟩) := by
  refine ⟨sameView_group, rfl, rfl, fun hiso => ?_⟩
  have heq := hiso.same (f := 4) (.refl 1 withoutGroup) sameView_group trivial trivial
  cases heq

end TenantService

end NebulaId
