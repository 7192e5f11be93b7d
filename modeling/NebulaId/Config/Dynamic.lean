import NebulaId.Database.Tenants
import NebulaId.Types.Texts
import Mathlib.Logic.Function.Basic

/-!
# Dynamic settings of biz tags (`core/config/dynamic.rs`)

`update_config` looks for a biz tag by its workspace, its group and its name, and updates it;
`batch_update_config` checks every request first, updates one biz tag after another and goes away
with the first error. The statements of an update have three numbers in a row.

* `stored_updateConfig`: an update that succeeds changes the settings that the request names, and
  one that fails changes nothing.
* `batch_keeps_prefix`: a batch that fails leaves the updates before the one that failed.
-/

namespace NebulaId

open Store SeaOrmRepository

/-- The settings that a biz tag keeps in its columns. -/
structure BizTagSettings where
  algorithm : AlgorithmTypeDb
  format : IdFormatDb
  idPrefix : String
  baseStep : Int32
  maxStep : Int32
  datacenterIds : Json

namespace DynamicConfigService

structure DynamicConfigRequest where
  workspaceId : Uuid
  groupId : Option Uuid
  bizTag : String
  algorithm : Option AlgorithmType
  format : Option IdFormat
  idPrefix : Option String
  baseStep : Option Int32
  maxStep : Option Int32
  datacenterIds : Option (List Int32)

structure DynamicConfigResponse where
  workspaceId : Uuid
  groupId : Uuid
  bizTagId : Uuid
  bizTag : String
  algorithm : AlgorithmType
  format : IdFormat
  idPrefix : String
  baseStep : Int32
  maxStep : Int32
  datacenterIds : List Int32
  deriving DecidableEq

def DynamicConfigResponse.ofBizTag (b : SeaOrmRepository.BizTag) : DynamicConfigResponse :=
  ⟨b.workspaceId, b.groupId, b.id, b.name, b.algorithm, b.format, b.idPrefix, b.baseStep, b.maxStep,
    b.datacenterIds⟩

namespace DynamicConfigRequest

def updateRequest (r : DynamicConfigRequest) : UpdateBizTagRequest where
  name := none
  description := none
  algorithm := r.algorithm
  format := r.format
  idPrefix := r.idPrefix
  baseStep := r.baseStep
  maxStep := r.maxStep
  datacenterIds := r.datacenterIds

/-- The checks that need no database; the group. -/
def check (r : DynamicConfigRequest) : Result Uuid :=
  if (Text.trim r.bizTag.toList).isEmpty then
    .error (.invalidInput "BizTag name cannot be empty")
  else match r.groupId with
    | none => .error (.invalidInput "Group ID is required to update configuration")
    | some groupId => .ok groupId

end DynamicConfigRequest

def getBizTagByWorkspaceGroupAndName (db : Replies) (statement : ℕ) (c : Catalog)
    (workspaceId groupId : Uuid) (name : String) : Result (Option SeaOrmRepository.BizTag) :=
  query db statement ((c.bizTags.findBy (workspaceId, groupId, name)).map BizTagRow.toBizTag)

def updateConfig (db : Replies) (statement : ℕ) (now : ℤ) (c : Catalog)
    (request : DynamicConfigRequest) : Result DynamicConfigResponse × Catalog :=
  match request.check with
  | .error e => (.error e, c)
  | .ok groupId =>
    match getBizTagByWorkspaceGroupAndName db statement c request.workspaceId groupId
      request.bizTag with
    | .error e => (.error e, c)
    | .ok none => (.error (.notFound ("BizTag not found: workspace_id=" ++
        Id.uuidText request.workspaceId ++ ", group_id=Some(" ++ Id.uuidText groupId ++
        "), name=" ++ request.bizTag)), c)
    | .ok (some bizTag) =>
      match updateBizTagIn db (statement + 1) now bizTag.id c request.updateRequest with
      | (.error e, c') => (.error e, c')
      | (.ok updated, c') => (.ok (.ofBizTag updated), c')

/-- The loop of a batch: an error ends it. `now` tells the time of each statement. -/
def updateEach (db : Replies) (now : ℕ → ℤ) : ℕ → Catalog → List DynamicConfigRequest →
    Result (List DynamicConfigResponse) × Catalog
  | _, c, [] => (.ok [], c)
  | statement, c, request :: requests =>
    match updateConfig db statement (now statement) c request with
    | (.error e, c') => (.error e, c')
    | (.ok response, c') =>
      match updateEach db now (statement + 3) c' requests with
      | (.error e, c'') => (.error e, c'')
      | (.ok responses, c'') => (.ok (response :: responses), c'')

/-- The checks of a batch. -/
def checkAll (requests : List DynamicConfigRequest) : Result Unit :=
  if requests.isEmpty then .error (.invalidInput "Request list cannot be empty")
  else requests.forM fun request => request.check.map fun _ => ()

def batchUpdateConfig (db : Replies) (statement : ℕ) (now : ℕ → ℤ) (c : Catalog)
    (requests : List DynamicConfigRequest) : Result (List DynamicConfigResponse) × Catalog :=
  match checkAll requests with
  | .error e => (.error e, c)
  | .ok _ => updateEach db now statement c requests

/-! ## The settings that are stored -/

/-- The settings of the biz tags, each by its workspace, its group and its name. -/
abbrev Settings := Uuid × Uuid × String → Option BizTagSettings

def settingsOf (b : BizTagRow) : BizTagSettings :=
  ⟨b.algorithm, b.format, b.idPrefix, b.baseStep, b.maxStep, b.datacenterIds⟩

def stored (c : Catalog) : Settings := fun place => (c.bizTags.findBy place).map settingsOf

namespace DynamicConfigRequest

/-- What a request makes of the settings; a request without datacenters resets them. -/
def change (r : DynamicConfigRequest) (s : BizTagSettings) : BizTagSettings where
  algorithm := (r.algorithm.map AlgorithmTypeDb.ofAlgorithmType).getD s.algorithm
  format := (r.format.map IdFormatDb.ofIdFormat).getD s.format
  idPrefix := r.idPrefix.getD s.idPrefix
  baseStep := r.baseStep.getD s.baseStep
  maxStep := r.maxStep.getD s.maxStep
  datacenterIds := Json.ofVec (r.datacenterIds.getD [0])

/-- The biz tag that the request names is changed, and no other. -/
def applyTo (m : Settings) (r : DynamicConfigRequest) : Settings :=
  match r.groupId with
  | none => m
  | some groupId =>
    let place := (r.workspaceId, groupId, r.bizTag)
    Function.update m place ((m place).map r.change)

theorem applyTo_of_group {m : Settings} {r : DynamicConfigRequest} {groupId : Uuid}
    (h : r.groupId = some groupId) :
    applyTo m r = Function.update m (r.workspaceId, groupId, r.bizTag)
      ((m (r.workspaceId, groupId, r.bizTag)).map r.change) := by
  rw [applyTo, h]

end DynamicConfigRequest

/-! ## One update -/

section Update

variable {db : Replies} {statement : ℕ} {now : ℤ} {c c' : Catalog}

/-- What `update_biz_tag` leaves behind. -/
theorem updateBizTagIn_result {id : Uuid} {bizTag : UpdateBizTagRequest}
    {x : Result SeaOrmRepository.BizTag} (h : updateBizTagIn db statement now id c bizTag = (x, c')) :
    ((∃ e, x = .error e) ∧ c' = c) ∨
    ∃ updated existing, x = .ok updated ∧ c.bizTags.find id = some existing ∧
      c'.bizTags.rows = c.bizTags.rows.map
        (Rows.setRow BizTagRow.id id (bizTag.activeModel now existing).write) := by
  unfold updateBizTagIn at h
  split at h
  · cases h
    exact .inl ⟨⟨_, rfl⟩, rfl⟩
  · cases h
    exact .inl ⟨⟨_, rfl⟩, rfl⟩
  · rename_i existing hquery
    split at h
    · cases h
      exact .inl ⟨⟨_, rfl⟩, rfl⟩
    · split at h
      · cases h
        refine .inr ⟨_, existing, rfl, ?_, rfl⟩
        unfold query at hquery
        split at hquery
        · cases hquery
        · exact Except.ok.inj hquery
      · cases h
        exact .inl ⟨⟨_, rfl⟩, rfl⟩

/-- The request's own columns, with what it leaves out. -/
theorem settingsOf_write (r : DynamicConfigRequest) (now : ℤ) (existing : BizTagRow) :
    settingsOf ((r.updateRequest.activeModel now existing).write existing) =
      r.change (settingsOf existing) := rfl

theorem index_write (r : DynamicConfigRequest) (now : ℤ) (existing : BizTagRow) :
    ((r.updateRequest.activeModel now existing).write existing).index = existing.index := rfl

theorem groupId_of_check {request : DynamicConfigRequest} {groupId : Uuid}
    (h : request.check = .ok groupId) : request.groupId = some groupId := by
  unfold DynamicConfigRequest.check at h
  split at h
  · cases h
  · split at h
    · cases h
    · cases h
      assumption

theorem row_of_getBizTag {workspaceId groupId : Uuid} {name : String}
    {bizTag : SeaOrmRepository.BizTag}
    (h : getBizTagByWorkspaceGroupAndName db statement c workspaceId groupId name =
      .ok (some bizTag)) :
    ∃ row, c.bizTags.findBy (workspaceId, groupId, name) = some row ∧ row.toBizTag = bizTag := by
  unfold getBizTagByWorkspaceGroupAndName query at h
  split at h
  · cases h
  · exact Option.map_eq_some_iff.mp (Except.ok.inj h)

/-- The settings after a row that is found by its index has been written by its id. -/
theorem stored_of_rows {request : DynamicConfigRequest} {groupId : Uuid} {row existing : BizTagRow}
    (hgroup : request.groupId = some groupId)
    (hrow : c.bizTags.findBy (request.workspaceId, groupId, request.bizTag) = some row)
    (hexisting : c.bizTags.find row.id = some existing)
    (hrows : c'.bizTags.rows = c.bizTags.rows.map
      (Rows.setRow BizTagRow.id row.id (request.updateRequest.activeModel now existing).write)) :
    stored c' = request.applyTo (stored c) := by
  have hsame : existing = row := by
    have hmem := Indexed.findBy_eq_some.mp hrow
    exact Option.some.inj (hexisting.symm.trans (Rows.find_eq_some.mpr ⟨hmem.1, rfl⟩))
  subst hsame
  funext place
  rw [stored, Indexed.findBy_setRow hrow hrows (index_write request now existing),
    DynamicConfigRequest.applyTo_of_group hgroup]
  by_cases hplace : place = (request.workspaceId, groupId, request.bizTag)
  · rw [if_pos hplace, hplace, Function.update_self, stored, hrow, Option.map_some,
      Option.map_some, Option.map_some, settingsOf_write]
  · rw [if_neg hplace, Function.update_of_ne hplace, stored]

/-- An update that fails changes nothing, and one that succeeds changes what it is asked to. -/
theorem stored_updateConfig {request : DynamicConfigRequest} {x : Result DynamicConfigResponse}
    (h : updateConfig db statement now c request = (x, c')) :
    ((∃ e, x = .error e) ∧ c' = c) ∨
      (∃ response, x = .ok response) ∧ stored c' = request.applyTo (stored c) := by
  unfold updateConfig at h
  cases hcheck : request.check with
  | error e =>
    rw [hcheck] at h
    cases h
    exact .inl ⟨⟨_, rfl⟩, rfl⟩
  | ok groupId =>
    rw [hcheck] at h
    dsimp only at h
    split at h
    · cases h
      exact .inl ⟨⟨_, rfl⟩, rfl⟩
    · cases h
      exact .inl ⟨⟨_, rfl⟩, rfl⟩
    · rename_i bizTag hfind
      obtain ⟨row, hrow, rfl⟩ := row_of_getBizTag hfind
      split at h
      · rename_i e after hupdate
        cases h
        rcases updateBizTagIn_result hupdate with ⟨-, hsame⟩ | ⟨updated, existing, hok, -, -⟩
        · exact .inl ⟨⟨e, rfl⟩, hsame⟩
        · cases hok
      · rename_i updated after hupdate
        cases h
        rcases updateBizTagIn_result hupdate with ⟨⟨e, herror⟩, -⟩ |
          ⟨_, existing, -, hexisting, hrows⟩
        · cases herror
        · exact .inr ⟨⟨_, rfl⟩, stored_of_rows (groupId_of_check hcheck) hrow hexisting hrows⟩

end Update

/-! ## A batch -/

section Batch

variable {db : Replies} {now : ℕ → ℤ} {statement : ℕ} {c c' : Catalog}
  {requests : List DynamicConfigRequest}

/-- The loop that succeeds has made every update. -/
theorem stored_updateEach {responses : List DynamicConfigResponse}
    (h : updateEach db now statement c requests = (.ok responses, c')) :
    stored c' = requests.foldl DynamicConfigRequest.applyTo (stored c) := by
  induction requests generalizing statement c responses with
  | nil =>
    cases h
    rfl
  | cons request requests ih =>
    rw [updateEach] at h
    split at h
    · cases h
    · rename_i response middle hupdate
      split at h
      · cases h
      · rename_i responses' after hrest
        cases h
        rcases stored_updateConfig hupdate with ⟨⟨e, he⟩, -⟩ | ⟨-, hstored⟩
        · cases he
        · rw [List.foldl_cons, ih hrest, hstored]

/-- The loop that fails has made the updates before the one that fails, and that one fails. -/
theorem updateEach_error {e : CoreError}
    (h : updateEach db now statement c requests = (.error e, c')) :
    ∃ before request after responses, requests = before ++ request :: after ∧
      updateEach db now statement c before = (.ok responses, c') ∧
      (updateConfig db (statement + 3 * before.length)
        (now (statement + 3 * before.length)) c' request).1 = .error e := by
  induction requests generalizing statement c with
  | nil => cases h
  | cons request requests ih =>
    rw [updateEach] at h
    split at h
    · rename_i e' middle hupdate
      cases h
      refine ⟨[], request, requests, [], rfl, ?_, ?_⟩
      · rcases stored_updateConfig hupdate with ⟨-, hsame⟩ | ⟨⟨response, hok⟩, -⟩
        · rw [hsame, updateEach]
        · cases hok
      · rcases stored_updateConfig hupdate with ⟨-, hsame⟩ | ⟨⟨response, hok⟩, -⟩
        · rw [hsame]
          exact congrArg Prod.fst hupdate
        · cases hok
    · rename_i response middle hupdate
      split at h
      · rename_i e' last hrest
        cases h
        obtain ⟨before, failed, after, responses, rfl, hbefore, hfailed⟩ := ih hrest
        refine ⟨request :: before, failed, after, response :: responses, rfl, ?_, ?_⟩
        · rw [updateEach, hupdate]
          dsimp only
          rw [hbefore]
        · have hstatement : statement + 3 * (request :: before).length =
              statement + 3 + 3 * before.length := by
            rw [List.length_cons]
            omega
          rw [hstatement]
          exact hfailed
      · cases h

/-- **A batch that fails**: nothing has changed when a check fails, and otherwise the updates
before the one that fails are stored, and no others. -/
theorem batch_keeps_prefix {e : CoreError}
    (h : batchUpdateConfig db statement now c requests = (.error e, c')) :
    (checkAll requests = .error e ∧ c' = c) ∨
    ∃ before request after, requests = before ++ request :: after ∧
      (∃ responses, updateEach db now statement c before = (.ok responses, c')) ∧
      (updateConfig db (statement + 3 * before.length)
        (now (statement + 3 * before.length)) c' request).1 = .error e ∧
      stored c' = before.foldl DynamicConfigRequest.applyTo (stored c) := by
  unfold batchUpdateConfig at h
  split at h
  · rename_i e' hcheck
    cases h
    exact .inl ⟨hcheck, rfl⟩
  · obtain ⟨before, request, after, responses, hsplit, hbefore, hfailed⟩ := updateEach_error h
    exact .inr ⟨before, request, after, hsplit, ⟨responses, hbefore⟩, hfailed,
      stored_updateEach hbefore⟩

end Batch

/-! ## A batch that stops half-way -/

/-- A workspace with a group and a biz tag. -/
def orders : Catalog where
  workspaces := ⟨⟨[⟨3, "depot", none, "active", 10, 100, 0, 0⟩], List.nodup_singleton _⟩,
    List.nodup_singleton _⟩
  groups := ⟨⟨[⟨4, 3, "stock", none, 50, 0, 0⟩], List.nodup_singleton _⟩, List.nodup_singleton _⟩
  bizTags := ⟨⟨[⟨5, 3, 4, "orders", none, .segment, .numeric, "", 100, 1000, .ofVec [0], 0, 0⟩],
    List.nodup_singleton _⟩, List.nodup_singleton _⟩
  keys := .empty
  groupWorkspace := by decide
  tagWorkspace := by decide
  tagGroup := by decide

/-- A new step for a biz tag. -/
def stepTo (bizTag : String) (step : Int32) : DynamicConfigRequest :=
  ⟨3, some 4, bizTag, none, none, none, some step, none, none⟩

/-- The second biz tag is not there; the step of the first one has changed. -/
theorem batch_stops_half_way :
    let ran := batchUpdateConfig (fun _ => ⟨none, ""⟩) 0 (fun _ => 0) orders
      [stepTo "orders" 5, stepTo "refunds" 5]
    (∃ e, ran.1 = .error e) ∧
      (stored orders (3, 4, "orders")).map BizTagSettings.baseStep = some 100 ∧
      (stored ran.2 (3, 4, "orders")).map BizTagSettings.baseStep = some 5 :=
  ⟨⟨_, rfl⟩, rfl, rfl⟩

theorem batch_keeps_prefix_orders :
    let db : Replies := fun _ => ⟨none, ""⟩
    let requests := [stepTo "orders" 5, stepTo "refunds" 5]
    let after := (batchUpdateConfig db 0 (fun _ => 0) orders requests).2
    ∃ e, (checkAll requests = .error e ∧ after = orders) ∨
    ∃ before request later, requests = before ++ request :: later ∧
      (∃ responses, updateEach db (fun _ => 0) 0 orders before = (.ok responses, after)) ∧
      (updateConfig db (0 + 3 * before.length) 0 after request).1 = .error e ∧
      stored after = before.foldl DynamicConfigRequest.applyTo (stored orders) :=
  ⟨_, batch_keeps_prefix rfl⟩

end DynamicConfigService

end NebulaId
