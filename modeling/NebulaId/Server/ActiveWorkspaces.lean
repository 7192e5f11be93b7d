import NebulaId.Database.Statements
import NebulaId.Server.Isolation
import NebulaId.Machine.Along

/-!
# The status of a workspace (`server/router.rs`, `server/grpc.rs`, `core/database/repository.rs`)

Workspaces are looked up by name and by id, and every lookup gets the row whatever its status is;
the gRPC methods look nothing up. No path raises `WorkspaceDisabled`.

* `served_iff`: when a request is served, by what it is and what it finds.
* `active_iff`: along a run of updates, validations and requests only active workspaces are served
  if and only if each request that passes all the checks there are is for an active workspace.
* `suspended_served`: a suspended workspace gets a group over HTTP and an id over gRPC.
-/

namespace NebulaId

open Machine Store

open SeaOrmRepository (Catalog Replies WorkspaceRow WorkspaceStatus StatementInput TenantOp)

/-! ## When a call inserts its row -/

namespace SeaOrmRepository

variable {db : Replies} {n : ℕ} {now : ℤ} {id : Uuid} {c : Catalog}

/-- No statement of the call fails, and the row meets the constraints. -/
def CreatesGroup (db : Replies) (n : ℕ) (now : ℤ) (id : Uuid) (c : Catalog)
    (group : CreateGroupRequest) : Prop :=
  (db n).failure = none ∧ (db (n + 1)).failure = none ∧ c.NewGroup (group.row id now)

theorem createGroup_of_creates {group : CreateGroupRequest} (hfind : (db n).failure = none)
    (hinsert : (db (n + 1)).failure = none) (hnew : c.NewGroup (group.row id now)) :
    createGroup db n now id c group =
      (.ok (group.row id now).toGroup, c.addGroup (group.row id now) hnew) := by
  have hworkspace : group.workspaceId ∈ c.workspaces.rows.map WorkspaceRow.id := hnew.1
  unfold createGroup query
  rw [hfind, decide_eq_true hworkspace]
  dsimp only
  rw [hinsert]
  exact dif_pos hnew

theorem createGroup_of_not {group : CreateGroupRequest} (h : ¬ CreatesGroup db n now id c group) :
    ∃ e, createGroup db n now id c group = (.error e, c) := by
  unfold createGroup query
  cases hfind : (db n).failure with
  | some e => exact ⟨_, rfl⟩
  | none =>
    dsimp only
    split
    · exact ⟨_, rfl⟩
    · exact ⟨_, rfl⟩
    · cases hinsert : (db (n + 1)).failure with
      | some e => exact ⟨_, rfl⟩
      | none =>
        dsimp only
        rw [dif_neg fun hnew => h ⟨hfind, hinsert, hnew⟩]
        exact ⟨_, rfl⟩

def CreatesBizTag (db : Replies) (n : ℕ) (now : ℤ) (id : Uuid) (c : Catalog)
    (bizTag : CreateBizTagRequest) : Prop :=
  (db n).failure = none ∧ (db (n + 1)).failure = none ∧ (db (n + 2)).failure = none ∧
    c.NewBizTag (bizTag.row id now)

theorem createBizTag_of_creates {bizTag : CreateBizTagRequest} (hfind : (db n).failure = none)
    (hgroup : (db (n + 1)).failure = none) (hinsert : (db (n + 2)).failure = none)
    (hnew : c.NewBizTag (bizTag.row id now)) : createBizTag db n now id c bizTag =
      (.ok (bizTag.row id now).toBizTag, c.addBizTag (bizTag.row id now) hnew) := by
  have hworkspaceId : bizTag.workspaceId ∈ c.workspaces.rows.map WorkspaceRow.id := hnew.1
  have hgroupId : bizTag.groupId ∈ c.groups.rows.map GroupRow.id := hnew.2.1
  unfold createBizTag query
  rw [hfind, hgroup, decide_eq_true hworkspaceId, decide_eq_true hgroupId]
  dsimp only
  rw [hinsert]
  exact dif_pos hnew

theorem createBizTag_of_not {bizTag : CreateBizTagRequest}
    (h : ¬ CreatesBizTag db n now id c bizTag) :
    ∃ e, createBizTag db n now id c bizTag = (.error e, c) := by
  unfold createBizTag query
  cases hfind : (db n).failure with
  | some e => exact ⟨_, rfl⟩
  | none =>
    dsimp only
    split
    · exact ⟨_, rfl⟩
    · exact ⟨_, rfl⟩
    · cases hgroup : (db (n + 1)).failure with
      | some e => exact ⟨_, rfl⟩
      | none =>
        dsimp only
        split
        · exact ⟨_, rfl⟩
        · exact ⟨_, rfl⟩
        · cases hinsert : (db (n + 2)).failure with
          | some e => exact ⟨_, rfl⟩
          | none =>
            dsimp only
            rw [dif_neg fun hnew => h ⟨hfind, hgroup, hinsert, hnew⟩]
            exact ⟨_, rfl⟩

end SeaOrmRepository

/-! ## When the generator has ids -/

namespace ApiHandlers

variable {t : Texts} {h : ApiHandlers} {atEnd : AtEnd}

/-- The algorithm can be parsed, and the router has an id. -/
def HasId (h : ApiHandlers) (req : GenerateRequest) : Prop :=
  match parseAlgorithm req.algorithm with
  | .error _ => False
  | .ok none => ∃ id, (h.idGenerator.generate ⟨req.workspace, req.group, req.bizTag⟩).1 = .ok id
  | .ok (some algorithm) => ∃ id,
    (h.idGenerator.generateWithAlgorithm algorithm req.workspace req.group req.bizTag).1 = .ok id

/-- The size is allowed, the algorithm can be parsed, and the router has so many ids. -/
def HasIds (h : ApiHandlers) (req : BatchGenerateRequest) : Prop :=
  let size := req.size.getD 10
  size ≠ 0 ∧ size ≤ h.batchMaxSize.toNat ∧
    match parseAlgorithm req.algorithm with
    | .error _ => False
    | .ok none => ∃ batch,
      (h.idGenerator.batchGenerate ⟨req.workspace, req.group, req.bizTag⟩ size).1 = .ok batch
    | .ok (some algorithm) => ∃ batch, (h.idGenerator.batchGenerateWithAlgorithm algorithm
      req.workspace req.group req.bizTag size).1 = .ok batch

theorem generate_isOk_iff {req : GenerateRequest} :
    (h.generate atEnd req).1.isOk = true ↔ h.HasId req := by
  unfold generate HasId
  cases parseAlgorithm req.algorithm with
  | error e => exact iff_of_false Bool.false_ne_true id
  | ok parsed =>
    cases parsed with
    | none =>
      dsimp only
      cases (h.idGenerator.generate ⟨req.workspace, req.group, req.bizTag⟩).1 with
      | ok id => exact iff_of_true rfl ⟨id, rfl⟩
      | error e => exact iff_of_false Bool.false_ne_true (by rintro ⟨_, ⟨⟩⟩)
    | some algorithm =>
      dsimp only
      cases (h.idGenerator.generateWithAlgorithm algorithm req.workspace req.group req.bizTag).1 with
      | ok id => exact iff_of_true rfl ⟨id, rfl⟩
      | error e => exact iff_of_false Bool.false_ne_true (by rintro ⟨_, ⟨⟩⟩)

theorem batchGenerate_isOk_iff {req : BatchGenerateRequest} :
    (h.batchGenerate t atEnd req).1.isOk = true ↔ h.HasIds req := by
  unfold batchGenerate HasIds
  by_cases hzero : req.size.getD 10 = 0
  · rw [if_pos hzero]
    exact iff_of_false Bool.false_ne_true fun hids => hids.1 hzero
  · rw [if_neg hzero]
    by_cases hmax : req.size.getD 10 > h.batchMaxSize.toNat
    · rw [if_pos hmax]
      exact iff_of_false Bool.false_ne_true fun hids => absurd hids.2.1 (Nat.not_le.mpr hmax)
    · rw [if_neg hmax]
      cases parseAlgorithm req.algorithm with
      | error e => exact iff_of_false Bool.false_ne_true fun hids => hids.2.2
      | ok parsed =>
        cases parsed with
        | none =>
          dsimp only
          cases (h.idGenerator.batchGenerate ⟨req.workspace, req.group, req.bizTag⟩
            (req.size.getD 10)).1 with
          | ok batch => exact iff_of_true rfl ⟨hzero, Nat.not_lt.mp hmax, batch, rfl⟩
          | error e => exact iff_of_false Bool.false_ne_true (by rintro ⟨-, -, _, ⟨⟩⟩)
        | some algorithm =>
          dsimp only
          cases (h.idGenerator.batchGenerateWithAlgorithm algorithm req.workspace req.group
            req.bizTag (req.size.getD 10)).1 with
          | ok batch => exact iff_of_true rfl ⟨hzero, Nat.not_lt.mp hmax, batch, rfl⟩
          | error e => exact iff_of_false Bool.false_ne_true (by rintro ⟨-, -, _, ⟨⟩⟩)

end ApiHandlers

/-! ## Requests for a workspace -/

/-- A request of any transport that asks for ids or for a row of a workspace. A message of a stream
comes with the handlers that it finds. -/
inductive ServedRequest where
  | generate (req : GenerateRequest)
  | batchGenerate (req : BatchGenerateRequest)
  | createGroup (req : CreateGroupRequest)
  | createBizTag (req : CreateBizTagRequest)
  | grpcGenerate (req : GrpcGenerateRequest)
  | grpcBatchGenerate (req : GrpcBatchGenerateRequest)
  | grpcStreamTurn (turn : StreamTurn)

/-- The request is one for this workspace. -/
def ServedRequest.IsFor : ServedRequest → WorkspaceRow → Prop
  | .generate req, row => row.name = req.workspace
  | .batchGenerate req, row => row.name = req.workspace
  | .createGroup req, row => row.name = req.workspace
  | .createBizTag req, row => row.id = req.workspaceId
  | .grpcGenerate req, row => row.name = req.nameSpace
  | .grpcBatchGenerate req, row => row.name = req.nameSpace
  | .grpcStreamTurn turn, row => row.name = turn.req.nameSpace

namespace TenantService

variable (s : TenantService) (c : Catalog) (workspaceId : Option Uuid) (role : ApiKeyRole)

/-- Whether the request is answered with ids or with a row, and the tables after it. The gRPC
methods get neither a workspace nor a role. -/
def answer : ServedRequest → Bool × Catalog
  | .generate req => (((s.seeing c).handleGenerate workspaceId role req).isOk, c)
  | .batchGenerate req => (((s.seeing c).handleBatchGenerate workspaceId role req).isOk, c)
  | .createGroup req =>
    let out := s.handleCreateGroup c workspaceId role req
    (out.1.isOk, out.2)
  | .createBizTag req =>
    let out := s.handleCreateBizTag c workspaceId role req
    (out.1.isOk, out.2)
  | .grpcGenerate req => (((s.seeing c).grpcGenerate req).isOk, c)
  | .grpcBatchGenerate req => (((s.seeing c).grpcBatchGenerate req).isOk, c)
  | .grpcStreamTurn turn => (((s.seeing c).answerTurn turn).isOk, c)

/-- A user with a valid request, and a workspace of the name that is the one of the key. -/
def Enters (errors : List (String × String)) (name : String) : Prop :=
  role = .user ∧ errors = [] ∧ (s.db 0).failure = none ∧
    ∃ row ∈ c.workspaces.rows, row.name = name ∧ ∀ id ∈ workspaceId, row.id = id

/-- The group is looked for under its workspace and inserted. -/
def CreatesGroup (req : CreateGroupRequest) : Prop :=
  (s.db 1).failure = none ∧ ∃ row ∈ c.workspaces.rows, row.name = req.workspace ∧
    SeaOrmRepository.CreatesGroup s.db 2 s.now s.drawn c
      ⟨row.id, req.name, req.description, req.maxBizTags⟩

/-- All that is asked of a request. -/
def Passes : ServedRequest → Prop
  | .generate req =>
    s.Enters c workspaceId role req.validate req.workspace ∧ s.outside.handlers.HasId req
  | .batchGenerate req =>
    s.Enters c workspaceId role req.validate req.workspace ∧ s.outside.handlers.HasIds req
  | .createGroup req =>
    s.Enters c workspaceId role req.validate req.workspace ∧ s.CreatesGroup c req
  | .createBizTag req =>
    role = .user ∧ req.validate = [] ∧ (∀ id ∈ workspaceId, req.workspaceId = id) ∧
      ∃ coreReq, req.core = .ok coreReq ∧
        SeaOrmRepository.CreatesBizTag s.db 0 s.now s.drawn c coreReq
  | .grpcGenerate req => s.outside.handlers.HasId ⟨req.nameSpace, req.tag, req.tag, none⟩
  | .grpcBatchGenerate req =>
    req.count ≠ 0 ∧ req.count ≤ 100 ∧ s.outside.handlers.HasIds req.toRequest
  | .grpcStreamTurn turn => turn.handlers.HasIds turn.req.toRequest

variable {s c workspaceId role}

theorem isOk_mapError {ε ε' α : Type} {x : Except ε α} {f : ε → ε'} :
    (x.mapError f).isOk = x.isOk := by
  cases x <;> rfl

theorem isOk_respond {α : Type} {x : Result α} : (s.respond x).isOk = x.isOk := isOk_mapError

theorem isOk_iff_exists {ε α : Type} {x : Except ε α} : x.isOk = true ↔ ∃ a, x = .ok a := by
  cases x with
  | ok a => exact iff_of_true rfl ⟨a, rfl⟩
  | error e => exact iff_of_false Bool.false_ne_true (by rintro ⟨_, ⟨⟩⟩)

theorem isOk_checked {ε α : Type} {x y z : Except ε Unit} {answer : Except ε α} :
    (do
      x
      y
      z
      answer).isOk = true ↔ (x = .ok () ∧ y = .ok () ∧ z = .ok ()) ∧ answer.isOk = true := by
  cases x with
  | error e => exact iff_of_false Bool.false_ne_true (by rintro ⟨⟨⟨⟩, -⟩, -⟩)
  | ok _ =>
    cases y with
    | error e => exact iff_of_false Bool.false_ne_true (by rintro ⟨⟨-, ⟨⟩, -⟩, -⟩)
    | ok _ =>
      cases z with
      | error e => exact iff_of_false Bool.false_ne_true (by rintro ⟨⟨-, -, ⟨⟩⟩, -⟩)
      | ok _ => exact ⟨fun h => ⟨⟨rfl, rfl, rfl⟩, h⟩, And.right⟩

/-- What stands behind checks is done when they pass, and leaves the tables when it fails. -/
theorem first_iff {α β : Type} (checks : Except ErrorResponse β)
    (act : β → Except ErrorResponse α × Catalog)
    (hact : ∀ b, (act b).1.isOk = false → (act b).2 = c) :
    ((first c checks act).1.isOk = true ↔ ∃ b, checks = .ok b ∧ (act b).1.isOk = true) ∧
      ((first c checks act).1.isOk = false → (first c checks act).2 = c) := by
  cases checks with
  | error e => exact ⟨iff_of_false Bool.false_ne_true (by rintro ⟨_, ⟨⟩, -⟩), fun _ => rfl⟩
  | ok b => exact ⟨⟨fun hok => ⟨b, rfl, hok⟩, by rintro ⟨_, ⟨⟩, hok⟩; exact hok⟩, hact b⟩

theorem verifyWorkspace_eq_ok {name : String} :
    (s.seeing c).verifyWorkspace name workspaceId = .ok () ↔ (s.db 0).failure = none ∧
      ∃ row ∈ c.workspaces.rows, row.name = name ∧ ∀ id ∈ workspaceId, row.id = id := by
  cases workspaceId with
  | some id =>
    refine verifyUserWorkspace_eq_ok.trans ⟨fun ⟨_, hdb, row, hrow, hname, hid⟩ => ?_,
      fun ⟨hdb, row, hrow, hname, hid⟩ => ⟨rfl, hdb, row, hrow, hname, hid id rfl⟩⟩
    exact ⟨hdb, row, hrow, hname, fun id' hid' => (Option.some.inj hid') ▸ hid⟩
  | none =>
    change verifyUserWorkspace s.outside.t true (s.db 0) c.workspaces name none = .ok () ↔ _
    unfold verifyUserWorkspace getWorkspace SeaOrmRepository.getWorkspaceByName
    rw [if_pos rfl]
    cases hdb : (s.db 0).failure with
    | some e => exact iff_of_false (by rintro ⟨⟩) (by rintro ⟨⟨⟩, -⟩)
    | none =>
      cases hfind : c.workspaces.findBy name with
      | none =>
        refine iff_of_false (by rintro ⟨⟩) ?_
        rintro ⟨-, row, hrow, hname, -⟩
        cases hfind.symm.trans (Indexed.findBy_eq_some.mpr ⟨hrow, hname⟩)
      | some row =>
        obtain ⟨hrow, hname⟩ := Indexed.findBy_eq_some.mp hfind
        exact iff_of_true rfl ⟨rfl, row, hrow, hname, fun id hid => (by cases hid)⟩

theorem ownId_iff {uuid : Uuid} {t : Texts} :
    verifyWorkspaceIdMatch t uuid workspaceId = .ok () ↔ ∀ id ∈ workspaceId, uuid = id := by
  cases workspaceId with
  | none => exact iff_of_true rfl (by rintro _ ⟨⟩)
  | some id =>
    rw [verifyWorkspaceIdMatch_eq_ok]
    exact ⟨fun hid id' hid' => hid.trans (Option.some.inj hid'), fun hall => hall id rfl⟩

theorem enters_iff {errors : List (String × String)} {name : String} :
    s.Enters c workspaceId role errors name ↔ verifyUserRole s.outside.t role = .ok () ∧
      validateRequest s.outside.t errors = .ok () ∧
      (s.seeing c).verifyWorkspace name workspaceId = .ok () := by
  rw [verifyUserRole_eq_ok, validateRequest_eq_ok, verifyWorkspace_eq_ok]
  rfl

theorem createGroup_iff (req : CreateGroupRequest) :
    ((s.createGroup c req).1.isOk = true ↔ s.CreatesGroup c req) ∧
      ((s.createGroup c req).1.isOk = false → (s.createGroup c req).2 = c) := by
  unfold createGroup CreatesGroup SeaOrmRepository.getWorkspaceByName
  cases hdb : (s.db 1).failure with
  | some e => exact ⟨iff_of_false Bool.false_ne_true (by rintro ⟨⟨⟩, -⟩), fun _ => rfl⟩
  | none =>
    cases hfind : c.workspaces.findBy req.workspace with
    | none =>
      refine ⟨iff_of_false Bool.false_ne_true ?_, fun _ => rfl⟩
      rintro ⟨-, row, hrow, hname, -⟩
      cases hfind.symm.trans (Indexed.findBy_eq_some.mpr ⟨hrow, hname⟩)
    | some row =>
      obtain ⟨hrow, hname⟩ := Indexed.findBy_eq_some.mp hfind
      dsimp only [Option.map_some]
      by_cases hcreates : SeaOrmRepository.CreatesGroup s.db 2 s.now s.drawn c
          ⟨row.id, req.name, req.description, req.maxBizTags⟩
      · have hout := SeaOrmRepository.createGroup_of_creates hcreates.1 hcreates.2.1 hcreates.2.2
        change ((Except.map _ (SeaOrmRepository.createGroup s.db 2 s.now s.drawn c
          ⟨row.id, req.name, req.description, req.maxBizTags⟩).1).isOk = true ↔ _) ∧
            ((Except.map _ (SeaOrmRepository.createGroup s.db 2 s.now s.drawn c
              ⟨row.id, req.name, req.description, req.maxBizTags⟩).1).isOk = false → _)
        rw [hout]
        exact ⟨iff_of_true rfl ⟨rfl, row, hrow, hname, hcreates⟩, by rintro ⟨⟩⟩
      · obtain ⟨e, hout⟩ := SeaOrmRepository.createGroup_of_not hcreates
        have hkept : (SeaOrmRepository.createGroup s.db 2 s.now s.drawn c
            ⟨row.id, req.name, req.description, req.maxBizTags⟩).2 = c := by rw [hout]
        refine ⟨iff_of_false ?_ ?_, fun _ => hkept⟩
        · change (Except.map _ (SeaOrmRepository.createGroup s.db 2 s.now s.drawn c
            ⟨row.id, req.name, req.description, req.maxBizTags⟩).1).isOk ≠ true
          rw [hout]
          exact Bool.false_ne_true
        · rintro ⟨-, row', hrow', hname', hcreates'⟩
          have hsame := hfind.symm.trans (Indexed.findBy_eq_some.mpr ⟨hrow', hname'⟩)
          rw [Option.some.inj hsame] at hcreates
          exact hcreates hcreates'

theorem createBizTag_iff (req : CreateBizTagRequest) :
    ((s.createBizTag c req).1.isOk = true ↔ ∃ coreReq, req.core = .ok coreReq ∧
        SeaOrmRepository.CreatesBizTag s.db 0 s.now s.drawn c coreReq) ∧
      ((s.createBizTag c req).1.isOk = false → (s.createBizTag c req).2 = c) := by
  unfold createBizTag
  cases req.core with
  | error e => exact ⟨iff_of_false Bool.false_ne_true (by rintro ⟨_, ⟨⟩, -⟩), fun _ => rfl⟩
  | ok coreReq =>
    dsimp only
    by_cases hcreates : SeaOrmRepository.CreatesBizTag s.db 0 s.now s.drawn c coreReq
    · rw [SeaOrmRepository.createBizTag_of_creates hcreates.1 hcreates.2.1 hcreates.2.2.1
        hcreates.2.2.2]
      exact ⟨iff_of_true rfl ⟨coreReq, rfl, hcreates⟩, by rintro ⟨⟩⟩
    · obtain ⟨e, hout⟩ := SeaOrmRepository.createBizTag_of_not hcreates
      rw [hout]
      refine ⟨iff_of_false Bool.false_ne_true ?_, fun _ => rfl⟩
      rintro ⟨_, ⟨⟩, hcreates'⟩
      exact hcreates hcreates'

theorem handleCreateGroup_iff (req : CreateGroupRequest) :
    ((s.handleCreateGroup c workspaceId role req).1.isOk = true ↔
        s.Enters c workspaceId role req.validate req.workspace ∧ s.CreatesGroup c req) ∧
      ((s.handleCreateGroup c workspaceId role req).1.isOk = false →
        (s.handleCreateGroup c workspaceId role req).2 = c) := by
  unfold handleCreateGroup
  obtain ⟨hserved, hkept⟩ := first_iff
    (do
      validateRequest s.outside.t req.validate
      verifyUserRole s.outside.t role
      (s.seeing c).verifyWorkspace req.workspace workspaceId)
    (fun _ => (s.respond (s.createGroup c req).1, (s.createGroup c req).2))
    fun _ hfailed => (createGroup_iff req).2 (isOk_respond.symm.trans hfailed)
  refine ⟨Iff.trans hserved ?_, hkept⟩
  constructor
  · rintro ⟨⟨⟩, hchecks, hok⟩
    obtain ⟨⟨⟩, hvalid, hrest⟩ := except_bind_eq_ok.mp hchecks
    obtain ⟨⟨⟩, hrole, hverify⟩ := except_bind_eq_ok.mp hrest
    exact ⟨enters_iff.mpr ⟨hrole, hvalid, hverify⟩,
      (createGroup_iff req).1.mp (isOk_respond.symm.trans hok)⟩
  · rintro ⟨henters, hcreates⟩
    obtain ⟨hrole, hvalid, hverify⟩ := enters_iff.mp henters
    exact ⟨(), except_bind_eq_ok.mpr ⟨(), hvalid, except_bind_eq_ok.mpr ⟨(), hrole, hverify⟩⟩,
      isOk_respond.trans ((createGroup_iff req).1.mpr hcreates)⟩

theorem handleCreateBizTag_iff (req : CreateBizTagRequest) :
    ((s.handleCreateBizTag c workspaceId role req).1.isOk = true ↔
        role = .user ∧ req.validate = [] ∧ (∀ id ∈ workspaceId, req.workspaceId = id) ∧
          ∃ coreReq, req.core = .ok coreReq ∧
            SeaOrmRepository.CreatesBizTag s.db 0 s.now s.drawn c coreReq) ∧
      ((s.handleCreateBizTag c workspaceId role req).1.isOk = false →
        (s.handleCreateBizTag c workspaceId role req).2 = c) := by
  unfold handleCreateBizTag
  obtain ⟨hserved, hkept⟩ := first_iff
    (do
      validateRequest s.outside.t req.validate
      verifyUserRole s.outside.t role
      verifyWorkspaceIdMatch s.outside.t req.workspaceId workspaceId)
    (fun _ => (s.respond (s.createBizTag c req).1, (s.createBizTag c req).2))
    fun _ hfailed => (createBizTag_iff req).2 (isOk_respond.symm.trans hfailed)
  refine ⟨Iff.trans hserved ?_, hkept⟩
  constructor
  · rintro ⟨⟨⟩, hchecks, hok⟩
    obtain ⟨⟨⟩, hvalid, hrest⟩ := except_bind_eq_ok.mp hchecks
    obtain ⟨⟨⟩, hrole, hmatch⟩ := except_bind_eq_ok.mp hrest
    exact ⟨verifyUserRole_eq_ok.mp hrole, validateRequest_eq_ok.mp hvalid, ownId_iff.mp hmatch,
      (createBizTag_iff req).1.mp (isOk_respond.symm.trans hok)⟩
  · rintro ⟨hrole, hvalid, hmatch, hcreates⟩
    exact ⟨(), except_bind_eq_ok.mpr ⟨(), validateRequest_eq_ok.mpr hvalid,
      except_bind_eq_ok.mpr ⟨(), verifyUserRole_eq_ok.mpr hrole, ownId_iff.mpr hmatch⟩⟩,
      isOk_respond.trans ((createBizTag_iff req).1.mpr hcreates)⟩

/-- **When a request is served**; one that is not leaves the tables alone. -/
theorem served_iff (s : TenantService) (c : Catalog) (workspaceId : Option Uuid) (role : ApiKeyRole)
    (req : ServedRequest) :
    ((s.answer c workspaceId role req).1 = true ↔ s.Passes c workspaceId role req) ∧
      ((s.answer c workspaceId role req).1 = false → (s.answer c workspaceId role req).2 = c) := by
  cases req with
  | generate req =>
    refine ⟨isOk_checked.trans (and_congr enters_iff.symm ?_), fun _ => rfl⟩
    rw [isOk_mapError]
    exact ApiHandlers.generate_isOk_iff
  | batchGenerate req =>
    refine ⟨isOk_checked.trans (and_congr enters_iff.symm ?_), fun _ => rfl⟩
    rw [isOk_mapError]
    exact ApiHandlers.batchGenerate_isOk_iff
  | createGroup req =>
    simp only [answer, Passes]
    exact handleCreateGroup_iff req
  | createBizTag req =>
    simp only [answer, Passes]
    exact handleCreateBizTag_iff req
  | grpcGenerate req =>
    have hids : (s.outside.handlers.generate s.outside.atEnd
        ⟨req.nameSpace, req.tag, req.tag, none⟩).1.isOk = true ↔ _ := ApiHandlers.generate_isOk_iff
    refine ⟨Iff.trans ?_ hids, fun _ => rfl⟩
    change ((s.seeing c).grpcGenerate req).isOk = true ↔ _
    unfold Surroundings.grpcGenerate
    split
    · rename_i resp hmade
      exact iff_of_true rfl (congrArg Except.isOk hmade)
    · rename_i e hfailed
      exact iff_of_false Bool.false_ne_true fun hok =>
        Bool.false_ne_true ((congrArg Except.isOk hfailed).symm.trans hok)
  | grpcBatchGenerate req =>
    refine ⟨?_, fun _ => rfl⟩
    change ((s.seeing c).grpcBatchGenerate req).isOk = true ↔ _
    rw [isOk_iff_exists, Surroundings.grpcBatchGenerate_ok_iff, ← Surroundings.batchGenerate_ok_iff
      s.outside.t _ s.outside.atEnd, ← isOk_iff_exists]
    exact and_congr_right fun _ => and_congr_right fun _ => ApiHandlers.batchGenerate_isOk_iff
  | grpcStreamTurn turn => exact ⟨ApiHandlers.batchGenerate_isOk_iff, fun _ => rfl⟩

/-! ## Runs -/

/-- A call of the repository by itself, a validation of a key, or a request with what the
authentication has made of its key. -/
inductive ServiceAct where
  | call (ins : ℕ → StatementInput) (op : TenantOp)
  | validate (h : KeyHasher) (db : Answers) (touched : Bool) (now : ℤ) (keyId keySecret : String)
  | request (s : TenantService) (workspaceId : Option Uuid) (role : ApiKeyRole) (req : ServedRequest)

def service (c : Catalog) : ServiceAct → Option Catalog
  | .call ins op => some (op.script.exec SeaOrmRepository.serve ins 0 c).memory
  | .validate h db touched now keyId keySecret =>
    some { c with
      keys := (ApiKeyRepository.validateApiKey h db touched now c.keys keyId keySecret).2 }
  | .request s workspaceId role req => some (s.answer c workspaceId role req).2

/-- A request for a workspace that is not active is refused and leaves the tables as they are. -/
def ActiveOnly (c : Catalog) : ServiceAct → Catalog → Prop
  | .request s workspaceId role req, c' => ∀ row ∈ c.workspaces.rows, req.IsFor row →
      WorkspaceStatus.ofStr row.status ≠ .active →
        (s.answer c workspaceId role req).1 = false ∧ c' = c
  | _, _ => True

/-- A request that passes is for an active workspace, if it is for one. -/
def ForActive (c : Catalog) : ServiceAct → Prop
  | .request s workspaceId role req => s.Passes c workspaceId role req →
      ∀ row ∈ c.workspaces.rows, req.IsFor row → WorkspaceStatus.ofStr row.status = .active
  | _ => True

theorem activeOnly_iff {c c' : Catalog} {act : ServiceAct} (hstep : service c act = some c') :
    ActiveOnly c act c' ↔ ForActive c act := by
  cases act with
  | call ins op => exact Iff.rfl
  | validate h db touched now keyId keySecret => exact Iff.rfl
  | request s workspaceId role req =>
    obtain ⟨hserved, hkept⟩ := served_iff s c workspaceId role req
    cases hstep
    constructor
    · intro honly hpasses row hrow hfor
      by_contra hstatus
      have hrefused := (honly row hrow hfor hstatus).1
      rw [hserved.mpr hpasses] at hrefused
      cases hrefused
    · intro hactive row hrow hfor hstatus
      have hrefused : (s.answer c workspaceId role req).1 = false := by
        rw [← Bool.not_eq_true, hserved]
        exact fun hpasses => hstatus (hactive hpasses row hrow hfor)
      exact ⟨hrefused, hkept hrefused⟩

/-- **Only active workspaces are served** along a run if and only if each request that passes all
other checks is for an active one. -/
theorem active_iff (c : Catalog) (run : List ServiceAct) :
    EachStep service ActiveOnly c run ↔ EachStep service (fun c act _ => ForActive c act) c run :=
  eachStep_iff fun _ _ _ => activeOnly_iff

/-- A workspace is created and suspended. -/
def suspension : List ServiceAct :=
  [.call (fun _ => ⟨⟨none, ""⟩, 0, 1⟩) (.createWorkspace ⟨"acme", none, none, none⟩),
    .call (fun _ => ⟨⟨none, ""⟩, 0, 0⟩) (.updateWorkspace 1 ⟨none, none, some .suspended, none, none⟩)]

def suspendedRow : WorkspaceRow := ⟨1, "acme", none, "suspended", 10, 100, 0, 0⟩

/-- The suspended workspace gets a group over HTTP, and an id over gRPC. -/
theorem suspended_served :
    ¬ EachStep service ActiveOnly .empty (suspension ++
      [.request (calm noUuids 3) (some 1) .user (.createGroup ⟨"acme", "launch", none, none⟩)]) ∧
    ¬ EachStep service ActiveOnly .empty (suspension ++
      [.request (calm noUuids 0) none .anonymous (.grpcGenerate ⟨"acme", "orders"⟩)]) := by
  have hstatus : WorkspaceStatus.ofStr suspendedRow.status ≠ .active := by decide
  constructor
  · intro heach
    have hgroup := ((((heach _ rfl).2 _ rfl).2 _ rfl).1 suspendedRow (List.mem_singleton.mpr rfl)
      rfl hstatus).1
    exact absurd hgroup (by decide +kernel)
  · intro heach
    have hid := ((((heach _ rfl).2 _ rfl).2 _ rfl).1 suspendedRow (List.mem_singleton.mpr rfl)
      rfl hstatus).1
    exact absurd hid (by decide +kernel)

end TenantService

end NebulaId
