import NebulaId.Store.Rows
import NebulaId.Database.ApiKeys
import Mathlib.Algebra.Order.Ring.Int

/-!
# Updates of workspaces, groups and biz tags (`core/database/repository.rs`)

`update_workspace`, `update_group` and `update_biz_tag` read a row, make an active model of the
request with the row's own values for what the request leaves out, and write the columns that
the model sets. A statement that fails, for whatever reason, is an input (`Statements`). The
column `datacenter_ids` is JSON.

* `updateById_onlyRow_iff`: what any such update does to its table.
* `reset_datacenters`: a biz tag that is renamed loses its datacenters.
* `updates_follow_requests`: workspaces and groups follow their requests, and a biz tag follows it
  if and only if the request names the datacenters or they are `[0]` already.
* `updateBizTag_reply`, `updateWorkspace_reply`: the answer has the values of the request.
-/

namespace NebulaId

open Store

namespace SeaOrmRepository

/-- `serde_json::Value`; a number with a fraction or an exponent keeps its text. -/
inductive Json where
  | null
  | bool (value : Bool)
  | int (value : ℤ)
  | float (text : String)
  | string (value : String)
  | array (values : List Json)
  | object (fields : List (String × Json))

namespace Json

/-- `to_value` of a `Vec<i32>`, which does not fail. -/
def ofVec (values : List Int32) : Json := .array (values.map fun v => .int v.toInt)

def asI32 : Json → Option Int32
  | .int value => if -2 ^ 31 ≤ value ∧ value < 2 ^ 31 then some (Int32.ofInt value) else none
  | _ => none

/-- `from_value::<Vec<i32>>` -/
def toVec : Json → Option (List Int32)
  | .array values => values.mapM asI32
  | _ => none

theorem asI32_int (value : Int32) : asI32 (.int value.toInt) = some value := by
  rw [asI32, if_pos ⟨value.le_toInt, value.toInt_lt⟩, Int32.ofInt_toInt]

/-- A list that is stored is read back. -/
theorem toVec_ofVec (values : List Int32) : toVec (ofVec values) = some values := by
  rw [ofVec, toVec]
  induction values with
  | nil => rfl
  | cons value values ih => rw [List.map_cons, List.mapM_cons, asI32_int, ih]; rfl

end Json

/-- The errors of the two statements of an update: the database's, or a violated constraint. -/
structure Statements where
  findError : Option String
  updateError : Option String

/-- Read a row, write it as `change` makes of it, and answer with what `read` makes of the row that
the statement returns. -/
def updateById {ρ β : Type} {key : ρ → Uuid} (missing : String) (change : ρ → ρ → ρ)
    (hchange : ∀ existing r, key (change existing r) = key r) (read : ρ → β)
    (db : Statements) (id : Uuid) (t : Rows Uuid ρ key) : Result β × Rows Uuid ρ key :=
  match db.findError with
  | some e => (.error (.databaseError e), t)
  | none =>
    match t.find id with
    | none => (.error (.notFound (missing ++ Id.uuidText id)), t)
    | some existing =>
      match db.updateError with
      | some e => (.error (.databaseError e), t)
      | none => (.ok (read (change existing existing)),
          t.update (key existing) (change existing) (hchange existing))

/-! ### Workspaces -/

inductive WorkspaceStatus where
  | active
  | inactive
  | suspended
  deriving DecidableEq

namespace WorkspaceStatus

def asStr : WorkspaceStatus → String
  | .active => "active"
  | .inactive => "inactive"
  | .suspended => "suspended"

/-- `From<&str>` -/
def ofStr (s : String) : WorkspaceStatus :=
  if s = "active" then .active
  else if s = "inactive" then .inactive
  else if s = "suspended" then .suspended
  else .inactive

theorem ofStr_asStr (status : WorkspaceStatus) : ofStr status.asStr = status := by
  cases status <;> rfl

end WorkspaceStatus

structure WorkspaceRow where
  id : Uuid
  name : String
  description : Option String
  status : String
  maxGroups : Int32
  maxBizTags : Int32
  createdAt : ℤ
  updatedAt : ℤ

structure WorkspaceActiveModel where
  id : ActiveValue Uuid
  name : ActiveValue String
  description : ActiveValue (Option String)
  status : ActiveValue String
  maxGroups : ActiveValue Int32
  maxBizTags : ActiveValue Int32
  createdAt : ActiveValue ℤ
  updatedAt : ActiveValue ℤ

/-- The columns of `UPDATE … SET`; the key is in its `WHERE`. -/
def WorkspaceActiveModel.write (m : WorkspaceActiveModel) (r : WorkspaceRow) : WorkspaceRow where
  id := r.id
  name := m.name.write r.name
  description := m.description.write r.description
  status := m.status.write r.status
  maxGroups := m.maxGroups.write r.maxGroups
  maxBizTags := m.maxBizTags.write r.maxBizTags
  createdAt := m.createdAt.write r.createdAt
  updatedAt := m.updatedAt.write r.updatedAt

structure Workspace where
  id : Uuid
  name : String
  description : Option String
  status : WorkspaceStatus
  maxGroups : Int32
  maxBizTags : Int32
  createdAt : ℤ
  updatedAt : ℤ

def WorkspaceRow.toWorkspace (r : WorkspaceRow) : Workspace :=
  ⟨r.id, r.name, r.description, .ofStr r.status, r.maxGroups, r.maxBizTags, r.createdAt, r.updatedAt⟩

structure UpdateWorkspaceRequest where
  name : Option String
  description : Option String
  status : Option WorkspaceStatus
  maxGroups : Option Int32
  maxBizTags : Option Int32

def UpdateWorkspaceRequest.activeModel (workspace : UpdateWorkspaceRequest) (now : ℤ)
    (existing : WorkspaceRow) : WorkspaceActiveModel where
  id := .set existing.id
  name := .set (workspace.name.getD existing.name)
  description := .set (workspace.description.or existing.description)
  status := .set ((workspace.status.map WorkspaceStatus.asStr).getD existing.status)
  maxGroups := .set (workspace.maxGroups.getD existing.maxGroups)
  maxBizTags := .set (workspace.maxBizTags.getD existing.maxBizTags)
  createdAt := .notSet
  updatedAt := .set now

def updateWorkspace (db : Statements) (now : ℤ) (id : Uuid) (workspace : UpdateWorkspaceRequest)
    (t : Rows Uuid WorkspaceRow WorkspaceRow.id) :
    Result Workspace × Rows Uuid WorkspaceRow WorkspaceRow.id :=
  updateById "Workspace not found: " (fun existing => (workspace.activeModel now existing).write)
    (fun _ _ => rfl) WorkspaceRow.toWorkspace db id t

/-! ### Groups -/

structure GroupRow where
  id : Uuid
  workspaceId : Uuid
  name : String
  description : Option String
  maxBizTags : Int32
  createdAt : ℤ
  updatedAt : ℤ

structure GroupActiveModel where
  id : ActiveValue Uuid
  workspaceId : ActiveValue Uuid
  name : ActiveValue String
  description : ActiveValue (Option String)
  maxBizTags : ActiveValue Int32
  createdAt : ActiveValue ℤ
  updatedAt : ActiveValue ℤ

def GroupActiveModel.write (m : GroupActiveModel) (r : GroupRow) : GroupRow where
  id := r.id
  workspaceId := m.workspaceId.write r.workspaceId
  name := m.name.write r.name
  description := m.description.write r.description
  maxBizTags := m.maxBizTags.write r.maxBizTags
  createdAt := m.createdAt.write r.createdAt
  updatedAt := m.updatedAt.write r.updatedAt

structure Group where
  id : Uuid
  workspaceId : Uuid
  name : String
  description : Option String
  maxBizTags : Int32
  createdAt : ℤ
  updatedAt : ℤ

def GroupRow.toGroup (r : GroupRow) : Group :=
  ⟨r.id, r.workspaceId, r.name, r.description, r.maxBizTags, r.createdAt, r.updatedAt⟩

structure UpdateGroupRequest where
  name : Option String
  description : Option String
  maxBizTags : Option Int32

def UpdateGroupRequest.activeModel (group : UpdateGroupRequest) (now : ℤ) (existing : GroupRow) :
    GroupActiveModel where
  id := .set existing.id
  workspaceId := .notSet
  name := .set (group.name.getD existing.name)
  description := .set (group.description.or existing.description)
  maxBizTags := .set (group.maxBizTags.getD existing.maxBizTags)
  createdAt := .notSet
  updatedAt := .set now

def updateGroup (db : Statements) (now : ℤ) (id : Uuid) (group : UpdateGroupRequest)
    (t : Rows Uuid GroupRow GroupRow.id) : Result Group × Rows Uuid GroupRow GroupRow.id :=
  updateById "Group not found: " (fun existing => (group.activeModel now existing).write)
    (fun _ _ => rfl) GroupRow.toGroup db id t

/-! ### Biz tags -/

inductive AlgorithmTypeDb where
  | segment
  | snowflake
  | uuidV7
  | uuidV4

inductive IdFormatDb where
  | numeric
  | prefixed
  | uuid

def AlgorithmTypeDb.toAlgorithmType : AlgorithmTypeDb → AlgorithmType
  | .segment => .segment
  | .snowflake => .snowflake
  | .uuidV7 => .uuidV7
  | .uuidV4 => .uuidV4

def AlgorithmTypeDb.ofAlgorithmType : AlgorithmType → AlgorithmTypeDb
  | .segment => .segment
  | .snowflake => .snowflake
  | .uuidV7 => .uuidV7
  | .uuidV4 => .uuidV4

def IdFormatDb.toIdFormat : IdFormatDb → IdFormat
  | .numeric => .numeric
  | .prefixed => .prefixed
  | .uuid => .uuid

def IdFormatDb.ofIdFormat : IdFormat → IdFormatDb
  | .numeric => .numeric
  | .prefixed => .prefixed
  | .uuid => .uuid

structure BizTagRow where
  id : Uuid
  workspaceId : Uuid
  groupId : Uuid
  name : String
  description : Option String
  algorithm : AlgorithmTypeDb
  format : IdFormatDb
  idPrefix : String
  baseStep : Int32
  maxStep : Int32
  datacenterIds : Json
  createdAt : ℤ
  updatedAt : ℤ

structure BizTagActiveModel where
  id : ActiveValue Uuid
  workspaceId : ActiveValue Uuid
  groupId : ActiveValue Uuid
  name : ActiveValue String
  description : ActiveValue (Option String)
  algorithm : ActiveValue AlgorithmTypeDb
  format : ActiveValue IdFormatDb
  idPrefix : ActiveValue String
  baseStep : ActiveValue Int32
  maxStep : ActiveValue Int32
  datacenterIds : ActiveValue Json
  createdAt : ActiveValue ℤ
  updatedAt : ActiveValue ℤ

def BizTagActiveModel.write (m : BizTagActiveModel) (r : BizTagRow) : BizTagRow where
  id := r.id
  workspaceId := m.workspaceId.write r.workspaceId
  groupId := m.groupId.write r.groupId
  name := m.name.write r.name
  description := m.description.write r.description
  algorithm := m.algorithm.write r.algorithm
  format := m.format.write r.format
  idPrefix := m.idPrefix.write r.idPrefix
  baseStep := m.baseStep.write r.baseStep
  maxStep := m.maxStep.write r.maxStep
  datacenterIds := m.datacenterIds.write r.datacenterIds
  createdAt := m.createdAt.write r.createdAt
  updatedAt := m.updatedAt.write r.updatedAt

structure BizTag where
  id : Uuid
  workspaceId : Uuid
  groupId : Uuid
  name : String
  description : Option String
  algorithm : AlgorithmType
  format : IdFormat
  idPrefix : String
  baseStep : Int32
  maxStep : Int32
  datacenterIds : List Int32
  createdAt : ℤ
  updatedAt : ℤ

/-- JSON that is no list of `i32` reads as the empty list. -/
def BizTagRow.toBizTag (r : BizTagRow) : BizTag :=
  ⟨r.id, r.workspaceId, r.groupId, r.name, r.description, r.algorithm.toAlgorithmType,
    r.format.toIdFormat, r.idPrefix, r.baseStep, r.maxStep, r.datacenterIds.toVec.getD [],
    r.createdAt, r.updatedAt⟩

structure UpdateBizTagRequest where
  name : Option String
  description : Option String
  algorithm : Option AlgorithmType
  format : Option IdFormat
  idPrefix : Option String
  baseStep : Option Int32
  maxStep : Option Int32
  datacenterIds : Option (List Int32)

/-- All columns but the datacenters fall back on the row. -/
def UpdateBizTagRequest.activeModel (bizTag : UpdateBizTagRequest) (now : ℤ)
    (existing : BizTagRow) : BizTagActiveModel where
  id := .set existing.id
  workspaceId := .notSet
  groupId := .notSet
  name := .set (bizTag.name.getD existing.name)
  description := .set (bizTag.description.or existing.description)
  algorithm := .set ((bizTag.algorithm.map AlgorithmTypeDb.ofAlgorithmType).getD existing.algorithm)
  format := .set ((bizTag.format.map IdFormatDb.ofIdFormat).getD existing.format)
  idPrefix := .set (bizTag.idPrefix.getD existing.idPrefix)
  baseStep := .set (bizTag.baseStep.getD existing.baseStep)
  maxStep := .set (bizTag.maxStep.getD existing.maxStep)
  datacenterIds := .set (Json.ofVec (bizTag.datacenterIds.getD [0]))
  createdAt := .notSet
  updatedAt := .set now

def updateBizTag (db : Statements) (now : ℤ) (id : Uuid) (bizTag : UpdateBizTagRequest)
    (t : Rows Uuid BizTagRow BizTagRow.id) : Result BizTag × Rows Uuid BizTagRow BizTagRow.id :=
  updateById "BizTag not found: " (fun existing => (bizTag.activeModel now existing).write)
    (fun _ _ => rfl) BizTagRow.toBizTag db id t

/-! ### What a request asks for -/

/-- The update time is the only column left open. -/
structure UpdateWorkspaceRequest.Asks (workspace : UpdateWorkspaceRequest)
    (old new : WorkspaceRow) : Prop where
  id : new.id = old.id
  name : Follows workspace.name old.name new.name
  description : Follows (workspace.description.map some) old.description new.description
  status : Follows (workspace.status.map WorkspaceStatus.asStr) old.status new.status
  maxGroups : Follows workspace.maxGroups old.maxGroups new.maxGroups
  maxBizTags : Follows workspace.maxBizTags old.maxBizTags new.maxBizTags
  createdAt : new.createdAt = old.createdAt

structure UpdateGroupRequest.Asks (group : UpdateGroupRequest) (old new : GroupRow) : Prop where
  id : new.id = old.id
  workspaceId : new.workspaceId = old.workspaceId
  name : Follows group.name old.name new.name
  description : Follows (group.description.map some) old.description new.description
  maxBizTags : Follows group.maxBizTags old.maxBizTags new.maxBizTags
  createdAt : new.createdAt = old.createdAt

structure UpdateBizTagRequest.Asks (bizTag : UpdateBizTagRequest) (old new : BizTagRow) :
    Prop where
  id : new.id = old.id
  workspaceId : new.workspaceId = old.workspaceId
  groupId : new.groupId = old.groupId
  name : Follows bizTag.name old.name new.name
  description : Follows (bizTag.description.map some) old.description new.description
  algorithm : Follows (bizTag.algorithm.map AlgorithmTypeDb.ofAlgorithmType) old.algorithm new.algorithm
  format : Follows (bizTag.format.map IdFormatDb.ofIdFormat) old.format new.format
  idPrefix : Follows bizTag.idPrefix old.idPrefix new.idPrefix
  baseStep : Follows bizTag.baseStep old.baseStep new.baseStep
  maxStep : Follows bizTag.maxStep old.maxStep new.maxStep
  datacenterIds : Follows (bizTag.datacenterIds.map Json.ofVec) old.datacenterIds new.datacenterIds
  createdAt : new.createdAt = old.createdAt

/-- An update that fails changes nothing, and one that succeeds changes its row as asked. -/
def Obeys {ρ β : Type} {key : ρ → Uuid} (id : Uuid) (Asks : ρ → ρ → Prop) (t : Rows Uuid ρ key)
    (r : Result β × Rows Uuid ρ key) : Prop :=
  match r.1 with
  | .error _ => r.2 = t
  | .ok _ => Rows.OnlyRow id Asks t r.2

section Family

variable {ρ β : Type} {key : ρ → Uuid} (missing : String) (change : ρ → ρ → ρ)
  (hchange : ∀ existing r, key (change existing r) = key r) (read : ρ → β) (db : Statements)
  (id : Uuid) (t : Rows Uuid ρ key)

/-- An update fails and leaves the table, or writes the row. -/
theorem updateById_cases :
    (∃ e, updateById missing change hchange read db id t = (.error e, t) ∧
      ∀ existing, t.find id = some existing → db.findError = none → db.updateError ≠ none) ∨
    ∃ existing, t.find id = some existing ∧ db.findError = none ∧ db.updateError = none ∧
      updateById missing change hchange read db id t = (.ok (read (change existing existing)),
        t.update id (change existing) (hchange existing)) := by
  unfold updateById
  cases hfind : db.findError with
  | some e => exact Or.inl ⟨_, rfl, fun _ _ h => by cases h⟩
  | none =>
    cases hrow : t.find id with
    | none => exact Or.inl ⟨_, rfl, fun _ h => by cases h⟩
    | some existing =>
      cases hupdate : db.updateError with
      | some e => exact Or.inl ⟨_, rfl, fun _ _ _ h => by cases h⟩
      | none =>
        refine Or.inr ⟨existing, rfl, rfl, rfl, ?_⟩
        have hkey : key existing = id := Rows.key_of_find hrow
        simp only [hkey]

theorem updateById_obeys_iff {Asks : ρ → ρ → Prop} :
    Obeys id Asks t (updateById missing change hchange read db id t) ↔
      ∀ existing, t.find id = some existing → db.findError = none → db.updateError = none →
        Asks existing (change existing existing) := by
  obtain ⟨e, heq, hfail⟩ | ⟨existing, hrow, hfind, hupdate, heq⟩ :=
    updateById_cases missing change hchange read db id t
  · rw [heq]
    exact ⟨fun _ existing hrow hfind hupdate => absurd hupdate (hfail existing hrow hfind),
      fun _ => rfl⟩
  · rw [heq]
    refine (Rows.onlyRow_update_iff (hchange existing) hrow).trans ⟨fun hP r hr _ _ => ?_,
      fun hP => hP existing hrow hfind hupdate⟩
    cases hrow.symm.trans hr
    exact hP

theorem updateById_reply {b : β}
    (h : (updateById missing change hchange read db id t).1 = .ok b) :
    ∃ existing, t.find id = some existing ∧ b = read (change existing existing) := by
  obtain ⟨e, heq, -⟩ | ⟨existing, hrow, -, -, heq⟩ :=
    updateById_cases missing change hchange read db id t
  · rw [heq] at h
    cases h
  · rw [heq] at h
    exact ⟨existing, hrow, (Except.ok.inj h).symm⟩

end Family

/-! ### The three updates -/

variable {db : Statements} {now : ℤ} {id : Uuid}

theorem workspace_asks (workspace : UpdateWorkspaceRequest) (now : ℤ) (existing : WorkspaceRow) :
    workspace.Asks existing ((workspace.activeModel now existing).write existing) where
  id := rfl
  name := follows_getD _ _
  description := follows_or _ _
  status := follows_getD _ _
  maxGroups := follows_getD _ _
  maxBizTags := follows_getD _ _
  createdAt := rfl

theorem group_asks (group : UpdateGroupRequest) (now : ℤ) (existing : GroupRow) :
    group.Asks existing ((group.activeModel now existing).write existing) where
  id := rfl
  workspaceId := rfl
  name := follows_getD _ _
  description := follows_or _ _
  maxBizTags := follows_getD _ _
  createdAt := rfl

/-- The datacenters of a request without any are `[0]`. -/
theorem follows_datacenters_iff {ids : Option (List Int32)} {old : Json} :
    Follows (ids.map Json.ofVec) old (Json.ofVec (ids.getD [0])) ↔
      (ids = none → old = Json.ofVec [0]) := by
  rw [follows_iff]
  cases ids with
  | none => exact ⟨fun h _ => h.symm, fun h => (h rfl).symm⟩
  | some values => exact ⟨fun _ h => (by cases h), fun _ => rfl⟩

theorem bizTag_asks_iff (bizTag : UpdateBizTagRequest) (now : ℤ) (existing : BizTagRow) :
    bizTag.Asks existing ((bizTag.activeModel now existing).write existing) ↔
      (bizTag.datacenterIds = none → existing.datacenterIds = Json.ofVec [0]) := by
  constructor
  · exact fun h => follows_datacenters_iff.mp h.datacenterIds
  · intro h
    exact
      { id := rfl
        workspaceId := rfl
        groupId := rfl
        name := follows_getD _ _
        description := follows_or _ _
        algorithm := follows_getD _ _
        format := follows_getD _ _
        idPrefix := follows_getD _ _
        baseStep := follows_getD _ _
        maxStep := follows_getD _ _
        datacenterIds := follows_datacenters_iff.mpr h
        createdAt := rfl }

/-- **Updates touch what they name.** Those of workspaces and groups always do; that of a biz tag
does if and only if it names the datacenters or they are `[0]` already, as far as it comes to
write. -/
theorem updates_follow_requests (db : Statements) (now : ℤ) (id : Uuid) :
    (∀ workspace t, Obeys id workspace.Asks t (updateWorkspace db now id workspace t)) ∧
    (∀ group t, Obeys id group.Asks t (updateGroup db now id group t)) ∧
    ∀ bizTag t, Obeys id bizTag.Asks t (updateBizTag db now id bizTag t) ↔
      ∀ existing, t.find id = some existing → db.findError = none → db.updateError = none →
        bizTag.datacenterIds = none → existing.datacenterIds = Json.ofVec [0] := by
  refine ⟨fun workspace t => ?_, fun group t => ?_, fun bizTag t => ?_⟩
  · exact (updateById_obeys_iff _ _ _ _ db id t).mpr fun existing _ _ _ =>
      workspace_asks workspace now existing
  · exact (updateById_obeys_iff _ _ _ _ db id t).mpr fun existing _ _ _ =>
      group_asks group now existing
  · refine (updateById_obeys_iff _ _ _ _ db id t).trans ?_
    simp only [bizTag_asks_iff]

/-- A biz tag of the datacenters 1 and 2 is renamed. -/
theorem reset_datacenters :
    let row : BizTagRow := ⟨7, 1, 2, "orders", none, .segment, .numeric, "", 100, 1000,
      Json.ofVec [1, 2], 0, 0⟩
    let t : Rows Uuid BizTagRow BizTagRow.id := ⟨[row], List.nodup_singleton _⟩
    let request : UpdateBizTagRequest := ⟨some "sales", none, none, none, none, none, none, none⟩
    let r := updateBizTag ⟨none, none⟩ 5 7 request t
    r.2.find 7 = some { row with
      name := "sales", datacenterIds := Json.ofVec [0], updatedAt := 5 } ∧
    ¬ Obeys 7 request.Asks t r := by
  intro row t request r
  refine ⟨rfl, fun h => ?_⟩
  have hkept := (updateById_obeys_iff _ _ _ _ ⟨none, none⟩ 7 t).mp h row rfl rfl rfl
  have hjson : Json.ofVec [0] = Json.ofVec [1, 2] := hkept.datacenterIds.2 rfl
  simp [Json.ofVec] at hjson

/-- The status in the answer is the one of the request. -/
theorem updateWorkspace_reply {workspace : UpdateWorkspaceRequest}
    {t : Rows Uuid WorkspaceRow WorkspaceRow.id} {w : Workspace}
    (h : (updateWorkspace db now id workspace t).1 = .ok w) :
    ∀ status, workspace.status = some status → w.status = status := by
  intro status hstatus
  obtain ⟨existing, -, rfl⟩ := updateById_reply _ _ _ _ db id t h
  change WorkspaceStatus.ofStr ((workspace.status.map WorkspaceStatus.asStr).getD _) = status
  rw [hstatus]
  exact WorkspaceStatus.ofStr_asStr status

/-- What goes through a database type or JSON comes back as the request has it. -/
theorem updateBizTag_reply {bizTag : UpdateBizTagRequest} {t : Rows Uuid BizTagRow BizTagRow.id}
    {b : BizTag} (h : (updateBizTag db now id bizTag t).1 = .ok b) :
    (∀ algorithm, bizTag.algorithm = some algorithm → b.algorithm = algorithm) ∧
    (∀ format, bizTag.format = some format → b.format = format) ∧
    ∀ ids, bizTag.datacenterIds = some ids → b.datacenterIds = ids := by
  obtain ⟨existing, -, rfl⟩ := updateById_reply _ _ _ _ db id t h
  refine ⟨fun algorithm hnamed => ?_, fun format hnamed => ?_, fun ids hnamed => ?_⟩
  · change ((bizTag.algorithm.map AlgorithmTypeDb.ofAlgorithmType).getD _).toAlgorithmType = algorithm
    rw [hnamed]
    cases algorithm <;> rfl
  · change ((bizTag.format.map IdFormatDb.ofIdFormat).getD _).toIdFormat = format
    rw [hnamed]
    cases format <;> rfl
  · change (Json.ofVec (bizTag.datacenterIds.getD [0])).toVec.getD [] = ids
    rw [hnamed, Option.getD_some, Json.toVec_ofVec, Option.getD_some]

end SeaOrmRepository

end NebulaId
