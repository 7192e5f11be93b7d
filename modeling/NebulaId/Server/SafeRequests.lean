import NebulaId.Database.Views
import NebulaId.Server.TenantHandlers

/-!
# Requests about the own rows (`server/router.rs`)

A request with a user key of a workspace is answered from two databases that look the same to the
workspace. The ids that are drawn for new rows are new.

* `serve_kept`: no request changes a row of another workspace.
* `serve_same`: the answers that say nothing about other workspaces (`Safe`).
* `isolated_of_safe`: both together.
-/

namespace NebulaId

open Machine Store

open SeaOrmRepository (Catalog Replies SameView OthersKept WorkspaceRow GroupRow BizTagRow)

namespace TenantService

/-! ## The condition -/

/-- The name is that of the workspace. -/
def Named (w : Uuid) (c : Catalog) (name : String) : Prop :=
  ∃ row ∈ own WorkspaceRow.id w c.workspaces.rows, row.name = name

def HasBizTag (w : Uuid) (c : Catalog) (id : Uuid) : Prop :=
  ∃ tag ∈ own BizTagRow.workspaceId w c.bizTags.rows, tag.id = id

/-- The group is one of the workspace, or a biz tag of the workspace is in it. -/
def Reaches (w : Uuid) (c : Catalog) (groupId : Uuid) : Prop :=
  (∃ group ∈ own GroupRow.workspaceId w c.groups.rows, group.id = groupId) ∨
    ∃ tag ∈ own BizTagRow.workspaceId w c.bizTags.rows, tag.groupId = groupId

/-- The request is refused for what it is, or asks for rows of the workspace only. -/
def Safe (uuids : UuidCrate) (w : Uuid) (c : Catalog) : TenantRequest → Prop
  | .getConfig => True
  | .generate req => req.validate ≠ [] ∨ Named w c req.workspace
  | .batchGenerate req => req.validate ≠ [] ∨ Named w c req.workspace
  | .parse _ => True
  | .listWorkspaces => False
  | .getWorkspace name => Named w c name
  | .createGroup req => req.validate ≠ [] ∨ Named w c req.workspace
  | .listGroups params => params.validate ≠ [] ∨ Named w c params.workspace
  | .createBizTag req => req.validate ≠ [] ∨ req.workspaceId ≠ w ∨ (∃ e, req.core = .error e) ∨
      own WorkspaceRow.id w c.workspaces.rows = [] ∨ Reaches w c req.groupId
  | .listBizTags params => params.validate ≠ [] ∨ w = 0
  | .getBizTag id => ∀ uuid, uuids.parseStr id = some uuid → HasBizTag w c uuid
  | .updateBizTag id req =>
    req.validate ≠ [] ∨ ∀ uuid, uuids.parseStr id = some uuid → HasBizTag w c uuid
  | .deleteBizTag id => ∀ uuid, uuids.parseStr id = some uuid → HasBizTag w c uuid

/-- The id that is drawn for a new row. -/
def Fresh (drawn : Uuid) (c : Catalog) : TenantRequest → Prop
  | .createGroup _ => drawn ∉ c.groups.rows.map GroupRow.id
  | .createBizTag _ => drawn ∉ c.bizTags.rows.map BizTagRow.id
  | _ => True

/-- The workspace, which has what it has in `c`, gets an answer that depends on no other row, and
changes no other row. -/
def Isolated (uuids : UuidCrate) (w : Uuid) (c : Catalog) (req : TenantRequest) : Prop :=
  ∀ (s : TenantService) (c₁ c₂ : Catalog), s.uuids = uuids → SameView w c c₁ → SameView w c c₂ →
    Fresh s.drawn c₁ req → Fresh s.drawn c₂ req →
      (s.serve w c₁ req).1 = (s.serve w c₂ req).1 ∧ OthersKept w c₁ (s.serve w c₁ req).2

variable {s : TenantService} {uuids : UuidCrate} {w : Uuid} {c c' : Catalog} {req : TenantRequest}

/-- The condition is one on the rows of the workspace. -/
theorem safe_congr (h : SameView w c c') : Safe uuids w c req ↔ Safe uuids w c' req := by
  cases req <;> simp only [Safe, Named, HasBizTag, Reaches, h.workspaces, h.groups, h.bizTags]

/-! ## Workspaces by their name -/

section ByName

variable {name : String}

theorem lookup_same (h : SameView w c c') (hname : Named w c name) (db : Answers) :
    SeaOrmRepository.getWorkspaceByName db c.workspaces name =
      SeaOrmRepository.getWorkspaceByName db c'.workspaces name := by
  obtain ⟨row, hrow, rfl⟩ := hname
  obtain ⟨hfind, hfind'⟩ := h.findBy hrow
  unfold SeaOrmRepository.getWorkspaceByName
  rw [hfind, hfind']

theorem verifyWorkspace_same (h : SameView w c c') (hname : Named w c name)
    (workspaceId : Option Uuid) : (s.seeing c).verifyWorkspace name workspaceId =
      (s.seeing c').verifyWorkspace name workspaceId := by
  have hsame : getWorkspace true (s.db 0) c.workspaces name =
      getWorkspace true (s.db 0) c'.workspaces name := lookup_same h hname (s.db 0)
  dsimp only [Surroundings.verifyWorkspace, seeing, verifyUserWorkspace]
  rw [hsame]

theorem getWorkspaceByName_named {db : Answers} {ws : SeaOrmRepository.Workspace}
    (hname : Named w c name)
    (h : SeaOrmRepository.getWorkspaceByName db c.workspaces name = .ok (some ws)) : ws.id = w := by
  obtain ⟨row, hrow, rfl⟩ := hname
  unfold SeaOrmRepository.getWorkspaceByName at h
  split at h
  · cases h
  · rw [((SameView.refl w c).findBy hrow).1] at h
    cases h
    exact (mem_own.mp hrow).2

/-- Who passes has given the name of the workspace. -/
theorem named_of_verify (h : (s.seeing c).verifyWorkspace name (some w) = .ok ()) :
    Named w c name := by
  obtain ⟨-, -, row, hrow, hname, hid⟩ := verifyUserWorkspace_eq_ok.mp h
  exact ⟨row, mem_own.mpr ⟨hrow, hid⟩, hname⟩

/-- The checks of the handlers that generate ids. -/
theorem checked_same {α : Type} {errors : List (String × String)} {x : Except ErrorResponse α}
    (h : SameView w c c') (hsafe : errors ≠ [] ∨ Named w c name) :
    (do
      verifyUserRole s.outside.t .user
      validateRequest s.outside.t errors
      (s.seeing c).verifyWorkspace name (some w)
      x) =
    (do
      verifyUserRole s.outside.t .user
      validateRequest s.outside.t errors
      (s.seeing c').verifyWorkspace name (some w)
      x) := by
  refine except_bind_congr fun _ _ => except_bind_congr fun _ hvalid => ?_
  have hname := of_validateRequest hsafe hvalid
  rw [verifyWorkspace_same h hname]

theorem handleGenerate_same (h : SameView w c c') {req : GenerateRequest}
    (hsafe : req.validate ≠ [] ∨ Named w c req.workspace) :
    (s.seeing c).handleGenerate (some w) .user req =
      (s.seeing c').handleGenerate (some w) .user req :=
  checked_same h hsafe

theorem handleBatchGenerate_same (h : SameView w c c') {req : BatchGenerateRequest}
    (hsafe : req.validate ≠ [] ∨ Named w c req.workspace) :
    (s.seeing c).handleBatchGenerate (some w) .user req =
      (s.seeing c').handleBatchGenerate (some w) .user req :=
  checked_same h hsafe

theorem createGroup_same (h : SameView w c c') (hname : Named w c name)
    {req : CreateGroupRequest} (hreq : req.workspace = name)
    (hnew : s.drawn ∉ c.groups.rows.map GroupRow.id)
    (hnew' : s.drawn ∉ c'.groups.rows.map GroupRow.id) :
    (s.createGroup c req).1 = (s.createGroup c' req).1 := by
  subst hreq
  have hsame := lookup_same h hname (s.db 1)
  unfold createGroup
  cases hlookup : SeaOrmRepository.getWorkspaceByName (s.db 1) c.workspaces req.workspace with
  | error e =>
    rw [← hsame, hlookup]
  | ok found =>
    cases found with
    | none => rw [← hsame, hlookup]
    | some ws =>
      rw [← hsame, hlookup]
      have hid := getWorkspaceByName_named hname hlookup
      exact congrArg (Except.map _) (SeaOrmRepository.createGroup_same h hid hnew hnew')

theorem handleCreateGroup_same (h : SameView w c c') {req : CreateGroupRequest}
    (hsafe : req.validate ≠ [] ∨ Named w c req.workspace)
    (hnew : s.drawn ∉ c.groups.rows.map GroupRow.id)
    (hnew' : s.drawn ∉ c'.groups.rows.map GroupRow.id) :
    (s.handleCreateGroup c (some w) .user req).1 = (s.handleCreateGroup c' (some w) .user req).1 := by
  have hnamed : validateRequest s.outside.t req.validate = .ok () → Named w c req.workspace :=
    fun hvalid => of_validateRequest hsafe hvalid
  refine first_fst (except_bind_congr fun _ hvalid => except_bind_congr fun _ _ => ?_)
    fun _ hchecks => ?_
  · exact verifyWorkspace_same h (hnamed hvalid) (some w)
  · obtain ⟨⟨⟩, hvalid, -⟩ := except_bind_eq_ok.mp hchecks
    exact congrArg s.respond (createGroup_same h (hnamed hvalid) rfl hnew hnew')

theorem handleListGroups_same (h : SameView w c c') {params : GroupListParams}
    (hsafe : params.validate ≠ [] ∨ Named w c params.workspace) :
    s.handleListGroups c params = s.handleListGroups c' params := by
  refine except_bind_congr fun _ hvalid => congrArg s.respond ?_
  have hname := of_validateRequest hsafe hvalid
  have hsame := lookup_same h hname (s.db 0)
  unfold listGroups
  cases hlookup : SeaOrmRepository.getWorkspaceByName (s.db 0) c.workspaces params.workspace with
  | error e => rw [← hsame, hlookup]
  | ok found =>
    cases found with
    | none => rw [← hsame, hlookup]
    | some ws =>
      rw [← hsame, hlookup]
      have hid := getWorkspaceByName_named hname hlookup
      dsimp only
      rw [SeaOrmRepository.listGroups, SeaOrmRepository.listGroups, hid, h.groups]

theorem handleGetWorkspace_same (h : SameView w c c') (hname : Named w c name) :
    s.handleGetWorkspace c name = s.handleGetWorkspace c' name := by
  have hsame : getWorkspace true (s.db 0) c.workspaces name =
      getWorkspace true (s.db 0) c'.workspaces name := lookup_same h hname (s.db 0)
  unfold handleGetWorkspace
  rw [hsame]

end ByName

/-! ## Biz tags -/

section BizTags

variable {uuid : Uuid}

theorem getBizTag_of_find {tag : BizTagRow} (hfind : c.bizTags.find uuid = some tag) :
    s.getBizTag c uuid = SeaOrmRepository.query s.db 0 tag.toBizTag := by
  unfold getBizTag SeaOrmRepository.getBizTag SeaOrmRepository.query
  rw [hfind]
  cases (s.db 0).failure with
  | some e => rfl
  | none => rfl

theorem find_of_getBizTag {tag : SeaOrmRepository.BizTag} (h : s.getBizTag c uuid = .ok tag) :
    ∃ row, c.bizTags.find uuid = some row ∧ row.toBizTag = tag := by
  unfold getBizTag SeaOrmRepository.getBizTag SeaOrmRepository.query at h
  cases hdb : (s.db 0).failure with
  | some e =>
    rw [hdb] at h
    cases h
  | none =>
    rw [hdb] at h
    cases hfind : c.bizTags.find uuid with
    | none =>
      rw [hfind] at h
      cases h
    | some row =>
      rw [hfind] at h
      exact ⟨row, rfl, Except.ok.inj h⟩

theorem respond_eq_ok {α : Type} {result : Result α} {a : α} :
    s.respond result = .ok a ↔ result = .ok a := by
  cases result with
  | error e => exact iff_of_false (by simp [respond, Except.mapError]) (by simp)
  | ok b => simp [respond, Except.mapError]

theorem ownBizTag_same (h : SameView w c c') (hhas : HasBizTag w c uuid)
    (workspaceId : Option Uuid) (role : ApiKeyRole) :
    s.ownBizTag c workspaceId role uuid = s.ownBizTag c' workspaceId role uuid := by
  obtain ⟨tag, htag, rfl⟩ := hhas
  obtain ⟨hfind, hfind'⟩ := h.find htag
  unfold ownBizTag
  rw [getBizTag_of_find hfind, getBizTag_of_find hfind']

/-- What passes is a biz tag of the workspace. -/
theorem find_of_ownBizTag {tag : SeaOrmRepository.BizTag}
    (h : s.ownBizTag c (some w) .user uuid = .ok tag) :
    ∃ row, c.bizTags.find uuid = some row ∧ row.workspaceId = w := by
  obtain ⟨⟨⟩, -, h⟩ := except_bind_eq_ok.mp h
  obtain ⟨existing, hget, h⟩ := except_bind_eq_ok.mp h
  obtain ⟨⟨⟩, hmatch, -⟩ := except_bind_eq_ok.mp h
  obtain ⟨row, hfind, rfl⟩ := find_of_getBizTag (respond_eq_ok.mp hget)
  exact ⟨row, hfind, verifyWorkspaceIdMatch_eq_ok.mp hmatch⟩

theorem parseUuid_eq_ok {id : String} : s.parseUuid id = .ok uuid ↔ s.uuids.parseStr id = some uuid := by
  unfold parseUuid
  cases s.uuids.parseStr id with
  | none => simp
  | some parsed => simp

theorem handleGetBizTag_same (h : SameView w c c') {id : String}
    (hsafe : ∀ uuid, s.uuids.parseStr id = some uuid → HasBizTag w c uuid) :
    s.handleGetBizTag c (some w) .user id = s.handleGetBizTag c' (some w) .user id := by
  refine except_bind_congr fun uuid huuid => ?_
  exact ownBizTag_same h (hsafe uuid (parseUuid_eq_ok.mp huuid)) (some w) .user

theorem handleDeleteBizTag_same (h : SameView w c c') {id : String}
    (hsafe : ∀ uuid, s.uuids.parseStr id = some uuid → HasBizTag w c uuid) :
    (s.handleDeleteBizTag c (some w) .user id).1 = (s.handleDeleteBizTag c' (some w) .user id).1 := by
  refine first_fst (except_bind_congr fun uuid huuid => ?_) fun uuid hchecks => ?_
  · rw [ownBizTag_same h (hsafe uuid (parseUuid_eq_ok.mp huuid))]
  · obtain ⟨uuid', huuid, hchecks⟩ := except_bind_eq_ok.mp hchecks
    obtain ⟨tag, -, heq⟩ := except_bind_eq_ok.mp hchecks
    cases heq
    obtain ⟨tag, htag, rfl⟩ := hsafe uuid (parseUuid_eq_ok.mp huuid)
    exact congrArg s.respond (SeaOrmRepository.deleteBizTag_same h htag)

theorem handleUpdateBizTag_same (h : SameView w c c') {id : String} {req : UpdateBizTagRequest}
    (hsafe : req.validate ≠ [] ∨
      ∀ uuid, s.uuids.parseStr id = some uuid → HasBizTag w c uuid) :
    (s.handleUpdateBizTag c (some w) .user id req).1 =
      (s.handleUpdateBizTag c' (some w) .user id req).1 := by
  have hhas : ∀ uuid, s.parseUuid id = .ok uuid →
      validateRequest s.outside.t req.validate = .ok () → HasBizTag w c uuid := by
    intro uuid huuid hvalid
    exact of_validateRequest hsafe hvalid uuid
      (parseUuid_eq_ok.mp huuid)
  refine first_fst (except_bind_congr fun uuid huuid => except_bind_congr fun _ hvalid => ?_)
    fun uuid hchecks => ?_
  · rw [ownBizTag_same h (hhas uuid huuid hvalid)]
  · obtain ⟨uuid', huuid, hchecks⟩ := except_bind_eq_ok.mp hchecks
    obtain ⟨⟨⟩, hvalid, hchecks⟩ := except_bind_eq_ok.mp hchecks
    obtain ⟨tag, -, heq⟩ := except_bind_eq_ok.mp hchecks
    cases heq
    obtain ⟨tag, htag, rfl⟩ := hhas uuid huuid hvalid
    refine congrArg s.respond ?_
    unfold updateBizTag
    cases req.core with
    | error e => rfl
    | ok coreReq => exact SeaOrmRepository.updateBizTagIn_same h htag

/-- A group that the workspace reaches is there. -/
theorem exists_of_reaches {groupId : Uuid} (hreach : Reaches w c groupId) :
    groupId ∈ c.groups.rows.map GroupRow.id := by
  rcases hreach with ⟨group, hgroup, rfl⟩ | ⟨tag, htag, rfl⟩
  · exact List.mem_map_of_mem (mem_own.mp hgroup).1
  · exact c.tagGroup tag (mem_own.mp htag).1

theorem reaches_congr {groupId : Uuid} (h : SameView w c c') :
    Reaches w c groupId ↔ Reaches w c' groupId := by
  simp only [Reaches, h.groups, h.bizTags]

theorem core_ids {req : CreateBizTagRequest} {coreReq : SeaOrmRepository.CreateBizTagRequest}
    (h : req.core = .ok coreReq) :
    coreReq.workspaceId = req.workspaceId ∧ coreReq.groupId = req.groupId := by
  obtain ⟨algorithm, -, h⟩ := except_bind_eq_ok.mp h
  obtain ⟨format, -, h⟩ := except_bind_eq_ok.mp h
  cases h
  exact ⟨rfl, rfl⟩

theorem handleCreateBizTag_same (h : SameView w c c') {req : CreateBizTagRequest}
    (hsafe : req.validate ≠ [] ∨ req.workspaceId ≠ w ∨ (∃ e, req.core = .error e) ∨
      own WorkspaceRow.id w c.workspaces.rows = [] ∨ Reaches w c req.groupId)
    (hnew : s.drawn ∉ c.bizTags.rows.map BizTagRow.id)
    (hnew' : s.drawn ∉ c'.bizTags.rows.map BizTagRow.id) :
    (s.handleCreateBizTag c (some w) .user req).1 =
      (s.handleCreateBizTag c' (some w) .user req).1 := by
  refine first_fst rfl fun _ hchecks => congrArg s.respond ?_
  obtain ⟨⟨⟩, hvalid, hchecks⟩ := except_bind_eq_ok.mp hchecks
  obtain ⟨⟨⟩, -, hmatch⟩ := except_bind_eq_ok.mp hchecks
  have hw := verifyWorkspaceIdMatch_eq_ok.mp hmatch
  have hsafe := (of_validateRequest hsafe hvalid).resolve_left (not_not.mpr hw)
  unfold createBizTag
  cases hcore : req.core with
  | error e => rfl
  | ok coreReq =>
    obtain ⟨hws, hgroup⟩ := core_ids hcore
    refine SeaOrmRepository.createBizTag_same h (hws.trans hw) (fun hexists => ?_) hnew hnew'
    rcases hsafe with ⟨e, herror⟩ | hgone | hreach
    · cases hcore.symm.trans herror
    · exact absurd hexists (own_eq_nil_iff.mp hgone)
    · rw [hgroup]
      exact iff_of_true (exists_of_reaches hreach) (exists_of_reaches ((reaches_congr h).mp hreach))

theorem handleListBizTags_same (h : SameView w c c') {params : PaginationParams}
    (hsafe : params.validate ≠ [] ∨ w = 0) :
    s.handleListBizTags c params = s.handleListBizTags c' params := by
  refine except_bind_congr fun _ hvalid => ?_
  obtain rfl := of_validateRequest hsafe hvalid
  dsimp only [listBizTagsWithPagination, SeaOrmRepository.listBizTags,
    SeaOrmRepository.countBizTags, Option.getD_none]
  rw [SeaOrmRepository.bizTagsOf_same h]

end BizTags

/-! ## Safe requests -/

/-- A safe request is answered from the rows of the workspace. -/
theorem serve_same (h : SameView w c c') (hsafe : Safe s.uuids w c req) (hnew : Fresh s.drawn c req)
    (hnew' : Fresh s.drawn c' req) : (s.serve w c req).1 = (s.serve w c' req).1 := by
  cases req with
  | getConfig => rfl
  | generate req =>
    dsimp only [serve]
    rw [handleGenerate_same h hsafe]
  | batchGenerate req =>
    dsimp only [serve]
    rw [handleBatchGenerate_same h hsafe]
  | parse req => rfl
  | listWorkspaces => exact hsafe.elim
  | getWorkspace name =>
    dsimp only [serve]
    rw [handleGetWorkspace_same h hsafe]
  | createGroup req =>
    dsimp only [serve]
    rw [handleCreateGroup_same h hsafe hnew hnew']
  | listGroups params =>
    dsimp only [serve]
    rw [handleListGroups_same h hsafe]
  | createBizTag req =>
    dsimp only [serve]
    rw [handleCreateBizTag_same h hsafe hnew hnew']
  | listBizTags params =>
    dsimp only [serve]
    rw [handleListBizTags_same h hsafe]
  | getBizTag id =>
    dsimp only [serve]
    rw [handleGetBizTag_same h hsafe]
  | updateBizTag id req =>
    dsimp only [serve]
    rw [handleUpdateBizTag_same h hsafe]
  | deleteBizTag id =>
    dsimp only [serve]
    rw [handleDeleteBizTag_same h hsafe]

/-! ## Rows of other workspaces -/

theorem handleCreateGroup_kept (req : CreateGroupRequest) :
    OthersKept w c (s.handleCreateGroup c (some w) .user req).2 := by
  unfold handleCreateGroup
  refine first_snd (P := OthersKept w c) (.refl w c) fun _ hchecks => ?_
  obtain ⟨⟨⟩, -, hchecks⟩ := except_bind_eq_ok.mp hchecks
  obtain ⟨⟨⟩, -, hverify⟩ := except_bind_eq_ok.mp hchecks
  dsimp only [createGroup]
  split
  · exact .refl w c
  · exact .refl w c
  · rename_i ws hlookup
    exact SeaOrmRepository.createGroup_kept
      (getWorkspaceByName_named (named_of_verify hverify) hlookup)

theorem handleCreateBizTag_kept (req : CreateBizTagRequest) :
    OthersKept w c (s.handleCreateBizTag c (some w) .user req).2 := by
  unfold handleCreateBizTag
  refine first_snd (P := OthersKept w c) (.refl w c) fun _ hchecks => ?_
  obtain ⟨⟨⟩, -, hchecks⟩ := except_bind_eq_ok.mp hchecks
  obtain ⟨⟨⟩, -, hmatch⟩ := except_bind_eq_ok.mp hchecks
  dsimp only [createBizTag]
  split
  · exact .refl w c
  · rename_i coreReq hcore
    exact SeaOrmRepository.createBizTag_kept
      ((core_ids hcore).1.trans (verifyWorkspaceIdMatch_eq_ok.mp hmatch))

theorem handleUpdateBizTag_kept (id : String) (req : UpdateBizTagRequest) :
    OthersKept w c (s.handleUpdateBizTag c (some w) .user id req).2 := by
  unfold handleUpdateBizTag
  refine first_snd (P := OthersKept w c) (.refl w c) fun uuid hchecks => ?_
  obtain ⟨uuid', -, hchecks⟩ := except_bind_eq_ok.mp hchecks
  obtain ⟨⟨⟩, -, hchecks⟩ := except_bind_eq_ok.mp hchecks
  obtain ⟨tag, hown, heq⟩ := except_bind_eq_ok.mp hchecks
  cases heq
  obtain ⟨row, hfind, hw⟩ := find_of_ownBizTag hown
  dsimp only [updateBizTag]
  split
  · exact .refl w c
  · exact SeaOrmRepository.updateBizTagIn_kept hfind hw

theorem handleDeleteBizTag_kept (id : String) :
    OthersKept w c (s.handleDeleteBizTag c (some w) .user id).2 := by
  unfold handleDeleteBizTag
  refine first_snd (P := OthersKept w c) (.refl w c) fun uuid hchecks => ?_
  obtain ⟨uuid', -, hchecks⟩ := except_bind_eq_ok.mp hchecks
  obtain ⟨tag, hown, heq⟩ := except_bind_eq_ok.mp hchecks
  cases heq
  obtain ⟨row, hfind, hw⟩ := find_of_ownBizTag hown
  exact SeaOrmRepository.deleteBizTag_kept hfind hw

/-- No request changes a row of another workspace. -/
theorem serve_kept (s : TenantService) (w : Uuid) (c : Catalog) (req : TenantRequest) :
    OthersKept w c (s.serve w c req).2 := by
  cases req with
  | createGroup req =>
    dsimp only [serve]
    exact handleCreateGroup_kept req
  | createBizTag req =>
    dsimp only [serve]
    exact handleCreateBizTag_kept req
  | updateBizTag id req =>
    dsimp only [serve]
    exact handleUpdateBizTag_kept id req
  | deleteBizTag id =>
    dsimp only [serve]
    exact handleDeleteBizTag_kept id
  | _ => exact .refl w c

theorem isolated_of_safe (hsafe : Safe uuids w c req) : Isolated uuids w c req := by
  rintro s c₁ c₂ rfl h₁ h₂ hnew₁ hnew₂
  exact ⟨serve_same (h₁.symm.trans h₂) ((safe_congr h₁).mp hsafe) hnew₁ hnew₂, serve_kept s w c₁ req⟩

end TenantService

end NebulaId
