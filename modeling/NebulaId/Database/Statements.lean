import NebulaId.Machine.Script
import NebulaId.Database.Tenants

/-!
# The calls of the repository, statement by statement (`core/database/repository.rs`)

Each function of the repository is a script over the statements it sends, and a statement is atomic:
what another call has written in between is there. The constraints of the schema are checked when a
row is written, and a deletion cascades. A transaction takes effect as a whole.

* `write_of`, `write_of_not`: a statement that writes has its effect, or none.
* `meets_iff`: what each statement keeps under a condition, each step of the calls keeps.
* `exec_createGroup`, `exec_createBizTag`, `exec_updateBizTag`, `exec_deleteBizTag`: by itself, a
  call does what it does in one go.
-/

namespace NebulaId

open Store Machine

namespace SeaOrmRepository

/-! ## Rows that change and rows that go -/

namespace Catalog

def empty : Catalog where
  workspaces := .empty
  groups := .empty
  bizTags := .empty
  keys := .empty
  groupWorkspace := fun _ h => absurd h List.not_mem_nil
  tagWorkspace := fun _ h => absurd h List.not_mem_nil
  tagGroup := fun _ h => absurd h List.not_mem_nil

/-- A workspace changes, but not its id. -/
def setWorkspace (c : Catalog) (id : Uuid) (f : WorkspaceRow → WorkspaceRow)
    (hf : ∀ r, (f r).id = r.id)
    (h : ((c.workspaces.rows.map (Rows.setRow WorkspaceRow.id id f)).map WorkspaceRow.name).Nodup) :
    Catalog :=
  { c with
    workspaces := ⟨c.workspaces.update id f hf, h⟩
    groupWorkspace := fun g hg => by
      obtain ⟨w, hw, hid⟩ := List.mem_map.mp (c.groupWorkspace g hg)
      exact List.mem_map.mpr ⟨_, List.mem_map_of_mem hw, (Rows.apply_setRow hf w).trans hid⟩
    tagWorkspace := fun b hb => by
      obtain ⟨w, hw, hid⟩ := List.mem_map.mp (c.tagWorkspace b hb)
      exact List.mem_map.mpr ⟨_, List.mem_map_of_mem hw, (Rows.apply_setRow hf w).trans hid⟩ }

/-- A group changes, but not its place. -/
def setGroup (c : Catalog) (id : Uuid) (f : GroupRow → GroupRow)
    (hf : ∀ g, (f g).id = g.id ∧ (f g).workspaceId = g.workspaceId)
    (h : ((c.groups.rows.map (Rows.setRow GroupRow.id id f)).map GroupRow.index).Nodup) : Catalog :=
  { c with
    groups := ⟨c.groups.update id f fun g => (hf g).1, h⟩
    groupWorkspace := fun g hg => by
      obtain ⟨g', hg', rfl⟩ := List.mem_map.mp hg
      rw [Rows.apply_setRow fun g => (hf g).2]
      exact c.groupWorkspace g' hg'
    tagGroup := fun b hb => by
      obtain ⟨g, hg, hid⟩ := List.mem_map.mp (c.tagGroup b hb)
      exact List.mem_map.mpr ⟨_, List.mem_map_of_mem hg,
        (Rows.apply_setRow (fun g => (hf g).1) g).trans hid⟩ }

/-- A biz tag of neither the workspace nor one of its groups. -/
def Apart (c : Catalog) (workspaceId : Uuid) (b : BizTagRow) : Bool :=
  decide (b.workspaceId ≠ workspaceId ∧
    b.groupId ∈ (c.groups.rows.filter fun g => g.workspaceId ≠ workspaceId).map GroupRow.id)

/-- A workspace goes, its groups, its biz tags and those in its groups. -/
def dropWorkspace (c : Catalog) (workspaceId : Uuid) : Catalog :=
  { c with
    workspaces :=
      { rows := c.workspaces.rows.filter fun w => w.id ≠ workspaceId
        nodup := c.workspaces.nodup.sublist (List.filter_sublist.map _)
        indexed := c.workspaces.indexed.sublist (List.filter_sublist.map _) }
    groups :=
      { rows := c.groups.rows.filter fun g => g.workspaceId ≠ workspaceId
        nodup := c.groups.nodup.sublist (List.filter_sublist.map _)
        indexed := c.groups.indexed.sublist (List.filter_sublist.map _) }
    bizTags :=
      { rows := c.bizTags.rows.filter (c.Apart workspaceId)
        nodup := c.bizTags.nodup.sublist (List.filter_sublist.map _)
        indexed := c.bizTags.indexed.sublist (List.filter_sublist.map _) }
    groupWorkspace := fun g hg => by
      obtain ⟨hmem, hne⟩ := List.mem_filter.mp hg
      obtain ⟨w, hw, hid⟩ := List.mem_map.mp (c.groupWorkspace g hmem)
      refine List.mem_map.mpr ⟨w, List.mem_filter.mpr ⟨hw, ?_⟩, hid⟩
      rw [hid]
      exact hne
    tagWorkspace := fun b hb => by
      obtain ⟨hmem, hapart⟩ := List.mem_filter.mp hb
      obtain ⟨w, hw, hid⟩ := List.mem_map.mp (c.tagWorkspace b hmem)
      refine List.mem_map.mpr ⟨w, List.mem_filter.mpr ⟨hw, ?_⟩, hid⟩
      rw [hid]
      exact decide_eq_true (of_decide_eq_true hapart).1
    tagGroup := fun b hb => (of_decide_eq_true (List.mem_filter.mp hb).2).2 }

end Catalog

/-! ## Statements -/

/-- An update has the row that was read before. -/
inductive Statement where
  | findWorkspace (id : Uuid)
  | findWorkspaceByName (name : String)
  | findGroup (id : Uuid)
  | findBizTag (id : Uuid)
  | insertWorkspace (workspace : CreateWorkspaceRequest)
  | insertGroup (group : CreateGroupRequest)
  | insertBizTag (bizTag : CreateBizTagRequest)
  | updateWorkspace (workspace : UpdateWorkspaceRequest) (existing : WorkspaceRow)
  | updateGroup (group : UpdateGroupRequest) (existing : GroupRow)
  | updateBizTag (bizTag : UpdateBizTagRequest) (existing : BizTagRow)
  | deleteWorkspace (id : Uuid)
  | deleteGroup (id : Uuid)
  | deleteBizTag (id : Uuid)
  /-- `delete_group_with_biz_tags`, from `begin` to `commit` -/
  | deleteGroupWithBizTags (id : Uuid)

/-- A deletion tells whether a row was affected. -/
@[reducible] def Statement.Reply : Statement → Type
  | .findWorkspace _ | .findWorkspaceByName _ => Result (Option WorkspaceRow)
  | .findGroup _ => Result (Option GroupRow)
  | .findBizTag _ => Result (Option BizTagRow)
  | .insertWorkspace _ | .updateWorkspace _ _ => Result WorkspaceRow
  | .insertGroup _ | .updateGroup _ _ => Result GroupRow
  | .insertBizTag _ | .updateBizTag _ _ => Result BizTagRow
  | .deleteWorkspace _ | .deleteGroup _ | .deleteBizTag _ => Result Bool
  | .deleteGroupWithBizTags _ => Result Unit

/-- The answers of the database, and the time and the id for a new row. -/
structure StatementInput where
  db : Answers
  now : ℤ
  id : Uuid

def StatementInput.read {α : Type} (i : StatementInput) (answer : α) : Result α :=
  match i.db.failure with
  | some e => .error (.databaseError e)
  | none => .ok answer

/-- A statement that writes fails, breaks the constraint `P`, or has its effect. -/
def StatementInput.write {α : Type} (i : StatementInput) (c : Catalog) (P : Prop) [Decidable P]
    (answer : α) (after : P → Catalog) : Result α × Catalog :=
  match i.db.failure with
  | some e => (.error (.databaseError e), c)
  | none => if h : P then (.ok answer, after h) else (.error (.databaseError i.db.violation), c)

def StatementInput.remove (i : StatementInput) (c : Catalog) (found : Prop) [Decidable found]
    (after : Catalog) : Result Bool × Catalog :=
  match i.db.failure with
  | some e => (.error (.databaseError e), c)
  | none => if found then (.ok true, after) else (.ok false, c)

/-- A row that is gone is not updated (`DbErr::RecordNotUpdated`). -/
def StatementInput.update {ρ : Type} (i : StatementInput) (c : Catalog) (found : Option ρ)
    (written : ρ → ρ) (P : Prop) [Decidable P] (after : P → Catalog) : Result ρ × Catalog :=
  match found with
  | none => (.error (.databaseError (i.db.failure.getD "None of the records are updated")), c)
  | some row => i.write c P (written row) after

def serve : (s : Statement) → StatementInput → Catalog → s.Reply × Catalog
  | .findWorkspace id, i, c => (i.read (c.workspaces.find id), c)
  | .findWorkspaceByName name, i, c => (i.read (c.workspaces.findBy name), c)
  | .findGroup id, i, c => (i.read (c.groups.find id), c)
  | .findBizTag id, i, c => (i.read (c.bizTags.find id), c)
  | .insertWorkspace workspace, i, c =>
    let row := workspace.row i.id i.now
    i.write c (row.id ∉ c.workspaces.rows.map WorkspaceRow.id ∧
      row.name ∉ c.workspaces.rows.map WorkspaceRow.name) row (c.addWorkspace row)
  | .insertGroup group, i, c =>
    let row := group.row i.id i.now
    i.write c (c.NewGroup row) row (c.addGroup row)
  | .insertBizTag bizTag, i, c =>
    let row := bizTag.row i.id i.now
    i.write c (c.NewBizTag row) row (c.addBizTag row)
  | .updateWorkspace workspace existing, i, c =>
    let written := (workspace.activeModel i.now existing).write
    i.update c (c.workspaces.find existing.id) written
      ((c.workspaces.rows.map (Rows.setRow WorkspaceRow.id existing.id written)).map
        WorkspaceRow.name).Nodup (c.setWorkspace existing.id written fun _ => rfl)
  | .updateGroup group existing, i, c =>
    let written := (group.activeModel i.now existing).write
    i.update c (c.groups.find existing.id) written
      ((c.groups.rows.map (Rows.setRow GroupRow.id existing.id written)).map GroupRow.index).Nodup
      (c.setGroup existing.id written fun _ => ⟨rfl, rfl⟩)
  | .updateBizTag bizTag existing, i, c =>
    let written := (bizTag.activeModel i.now existing).write
    i.update c (c.bizTags.find existing.id) written
      ((c.bizTags.rows.map (Rows.setRow BizTagRow.id existing.id written)).map
        BizTagRow.index).Nodup (c.setBizTag existing.id written fun _ => ⟨rfl, rfl, rfl⟩)
  | .deleteWorkspace id, i, c =>
    i.remove c (id ∈ c.workspaces.rows.map WorkspaceRow.id) (c.dropWorkspace id)
  | .deleteGroup id, i, c => i.remove c (id ∈ c.groups.rows.map GroupRow.id) (c.dropGroup id)
  | .deleteBizTag id, i, c =>
    i.remove c (id ∈ c.bizTags.rows.map BizTagRow.id) (c.keepBizTags fun b => b.id ≠ id)
  | .deleteGroupWithBizTags id, i, c => i.write c True () fun _ => c.dropGroup id

section Write

variable {α : Type} {i : StatementInput} {c : Catalog} {P : Prop} [Decidable P] {answer : α}
  {after : P → Catalog}

theorem write_of (hdb : i.db.failure = none) (h : P) :
    i.write c P answer after = (.ok answer, after h) := by
  rw [StatementInput.write, hdb]
  exact dif_pos h

theorem write_of_not (h : ¬ (i.db.failure = none ∧ P)) : (i.write c P answer after).2 = c := by
  unfold StatementInput.write
  split
  · rfl
  · rename_i hdb
    rw [dif_neg fun hP => h ⟨hdb, hP⟩]

theorem write_map {β : Type} {into : α → β} :
    ((i.write c P answer after).1.map into, (i.write c P answer after).2) =
      i.write c P (into answer) after := by
  unfold StatementInput.write
  split
  · rfl
  · split
    · rfl
    · rfl

theorem update_map {ρ β : Type} {into : ρ → β} {found : Option ρ} {row : ρ} {written : ρ → ρ}
    (h : found = some row) : ((i.update c found written P after).1.map into,
      (i.update c found written P after).2) = i.write c P (into (written row)) after := by
  subst h
  exact write_map

/-- What holds before a statement, and after its effect, holds after it. -/
theorem write_snd {I : Catalog → Prop} (hc : I c) (h : ∀ hP, I (after hP)) :
    I (i.write c P answer after).2 := by
  by_cases hboth : i.db.failure = none ∧ P
  · rw [write_of hboth.1 hboth.2]
    exact h hboth.2
  · rw [write_of_not hboth]
    exact hc

theorem update_snd {ρ : Type} {found : Option ρ} {written : ρ → ρ} {I : Catalog → Prop} (hc : I c)
    (h : ∀ hP, I (after hP)) : I (i.update c found written P after).2 := by
  unfold StatementInput.update
  cases found with
  | none => exact hc
  | some row => exact write_snd hc h

theorem remove_snd {I : Catalog → Prop} {after : Catalog} (hc : I c) (h : I after) :
    I (i.remove c P after).2 := by
  unfold StatementInput.remove
  split
  · exact hc
  · split
    · exact h
    · exact hc

end Write

/-! ## Calls -/

abbrev TenantScript (α : Type) := Script Statement Statement.Reply (Result α)

namespace TenantScript

open Script

def findWorkspace (id : Uuid) : TenantScript (Option WorkspaceRow) := call (.findWorkspace id) done

def findGroup (id : Uuid) : TenantScript (Option GroupRow) := call (.findGroup id) done

def findBizTag (id : Uuid) : TenantScript (Option BizTagRow) := call (.findBizTag id) done

/-- `model.into()` -/
def reading {ρ α : Type} (into : ρ → α) (written : TenantScript ρ) : TenantScript α :=
  written.attempt fun model => done (.ok (into model))

/-- `existing.ok_or_else(..)?` -/
def orMissing {ρ α : Type} (missing : String) (next : ρ → TenantScript α) :
    Option ρ → TenantScript α
  | none => done (.error (.notFound missing))
  | some existing => next existing

/-- A deletion that affects no row has found none. -/
def affected (missing : String) (deleted : TenantScript Bool) : TenantScript Unit :=
  deleted.attempt fun some => done (if some then .ok () else .error (.notFound missing))

def createWorkspace (workspace : CreateWorkspaceRequest) : TenantScript Workspace :=
  reading WorkspaceRow.toWorkspace (call (.insertWorkspace workspace) done)

def updateWorkspace (id : Uuid) (workspace : UpdateWorkspaceRequest) : TenantScript Workspace :=
  (findWorkspace id).attempt (orMissing ("Workspace not found: " ++ Id.uuidText id) fun existing =>
    reading WorkspaceRow.toWorkspace (call (.updateWorkspace workspace existing) done))

def deleteWorkspace (id : Uuid) : TenantScript Unit :=
  affected ("Workspace not found: " ++ Id.uuidText id) (call (.deleteWorkspace id) done)

def createGroup (group : CreateGroupRequest) : TenantScript Group :=
  (findWorkspace group.workspaceId).attempt
    (orMissing ("Workspace not found: " ++ Id.uuidText group.workspaceId) fun _ =>
      reading GroupRow.toGroup (call (.insertGroup group) done))

def updateGroup (id : Uuid) (group : UpdateGroupRequest) : TenantScript Group :=
  (findGroup id).attempt (orMissing ("Group not found: " ++ Id.uuidText id) fun existing =>
    reading GroupRow.toGroup (call (.updateGroup group existing) done))

def deleteGroup (id : Uuid) : TenantScript Unit :=
  affected ("Group not found: " ++ Id.uuidText id) (call (.deleteGroup id) done)

def deleteGroupWithBizTags (id : Uuid) : TenantScript Unit := call (.deleteGroupWithBizTags id) done

def createBizTag (bizTag : CreateBizTagRequest) : TenantScript BizTag :=
  (findWorkspace bizTag.workspaceId).attempt
    (orMissing ("Workspace not found: " ++ Id.uuidText bizTag.workspaceId) fun _ =>
      (findGroup bizTag.groupId).attempt
        (orMissing ("Group not found: " ++ Id.uuidText bizTag.groupId) fun _ =>
          reading BizTagRow.toBizTag (call (.insertBizTag bizTag) done)))

def updateBizTag (id : Uuid) (bizTag : UpdateBizTagRequest) : TenantScript BizTag :=
  (findBizTag id).attempt (orMissing ("BizTag not found: " ++ Id.uuidText id) fun existing =>
    reading BizTagRow.toBizTag (call (.updateBizTag bizTag existing) done))

def deleteBizTag (id : Uuid) : TenantScript Unit :=
  affected ("BizTag not found: " ++ Id.uuidText id) (call (.deleteBizTag id) done)

def findWorkspaceByName (name : String) : TenantScript (Option WorkspaceRow) :=
  call (.findWorkspaceByName name) done

/-- `create_group` of `ConfigManager`, with its repositories configured. -/
def createGroupByName (workspace name : String) (description : Option String)
    (maxBizTags : Option Int32) : TenantScript Group :=
  (findWorkspaceByName workspace).attempt fun
    | none => done (.error (.internalError ("Workspace '" ++ workspace ++ "' not found")))
    | some ws => createGroup ⟨ws.id, name, description, maxBizTags⟩

end TenantScript

inductive TenantOp where
  | createWorkspace (workspace : CreateWorkspaceRequest)
  | updateWorkspace (id : Uuid) (workspace : UpdateWorkspaceRequest)
  | deleteWorkspace (id : Uuid)
  | createGroup (group : CreateGroupRequest)
  | createGroupByName (workspace name : String) (description : Option String)
      (maxBizTags : Option Int32)
  | updateGroup (id : Uuid) (group : UpdateGroupRequest)
  | deleteGroup (id : Uuid)
  | deleteGroupWithBizTags (id : Uuid)
  | createBizTag (bizTag : CreateBizTagRequest)
  | updateBizTag (id : Uuid) (bizTag : UpdateBizTagRequest)
  | deleteBizTag (id : Uuid)

def TenantScript.forget {α : Type} (x : TenantScript α) : TenantScript Unit :=
  x.attempt fun _ => .done (.ok ())

def TenantOp.script : TenantOp → TenantScript Unit
  | .createWorkspace workspace => (TenantScript.createWorkspace workspace).forget
  | .updateWorkspace id workspace => (TenantScript.updateWorkspace id workspace).forget
  | .deleteWorkspace id => TenantScript.deleteWorkspace id
  | .createGroup group => (TenantScript.createGroup group).forget
  | .createGroupByName workspace name description maxBizTags =>
    (TenantScript.createGroupByName workspace name description maxBizTags).forget
  | .updateGroup id group => (TenantScript.updateGroup id group).forget
  | .deleteGroup id => TenantScript.deleteGroup id
  | .deleteGroupWithBizTags id => TenantScript.deleteGroupWithBizTags id
  | .createBizTag bizTag => (TenantScript.createBizTag bizTag).forget
  | .updateBizTag id bizTag => (TenantScript.updateBizTag id bizTag).forget
  | .deleteBizTag id => TenantScript.deleteBizTag id

abbrev TenantWorld := Crowd Catalog (TenantScript Unit)

abbrev TenantAct := CrowdAct TenantOp StatementInput Unit

/-- The calls of any number of tasks, side by side. -/
def tenants : TenantWorld → TenantAct → Option TenantWorld :=
  Crowd.step (Script.program serve TenantOp.script)

def TenantScript.next : TenantScript Unit → Option Statement
  | .call s _ => some s
  | .done _ => none

/-- The statement that a step sends meets the condition. -/
def TenantAct.Meets (C : StatementInput → Catalog → Statement → Prop) (w : TenantWorld) :
    TenantAct → Prop
  | .move k i => ∀ s ∈ w.tasks[k]?.bind TenantScript.next, C i w.shared s
  | _ => True

instance (C : StatementInput → Catalog → Statement → Prop) [∀ i c s, Decidable (C i c s)]
    (w : TenantWorld) : ∀ act, Decidable (TenantAct.Meets C w act)
  | .move k _ => inferInstanceAs (Decidable (∀ s ∈ w.tasks[k]?.bind TenantScript.next, _))
  | .spawn _ | .pass _ => isTrue trivial

/-- A property of the tables before and after that each statement has exactly when it meets the
condition. -/
theorem meets_iff {C : StatementInput → Catalog → Statement → Prop} {P : Catalog → Catalog → Prop}
    {w w' : TenantWorld} {act : TenantAct} (hsame : P w.shared w.shared)
    (hserve : ∀ s i, P w.shared (serve s i w.shared).2 ↔ C i w.shared s)
    (hstep : tenants w act = some w') : P w.shared w'.shared ↔ TenantAct.Meets C w act := by
  rcases Script.step_cases hstep with ⟨op, rfl, rfl⟩ | ⟨k, i, s, next, rfl, hk, rfl⟩ | ⟨rfl, rfl⟩
  · exact iff_of_true hsame trivial
  · refine (hserve s i).trans ⟨fun hC s' hs' => ?_, fun hall => hall s ?_⟩
    · rw [hk] at hs'
      cases hs'
      exact hC
    · rw [hk]
      rfl
  · exact iff_of_true hsame trivial

/-! ## One call by itself -/

section Alone

open Script

variable (db : Replies) (now : ℤ) (id : Uuid) (n : ℕ) (c : Catalog)

/-- The inputs of a call that has one time and one id. -/
def inputs (k : ℕ) : StatementInput := ⟨db k, now, id⟩

variable {db now id n c} {α ρ : Type}

theorem exec_reading {x : TenantScript ρ} {into : ρ → α} :
    (TenantScript.reading into x).exec serve (inputs db now id) n c =
      ⟨(x.exec serve (inputs db now id) n c).value.map into,
        (x.exec serve (inputs db now id) n c).calls,
        (x.exec serve (inputs db now id) n c).memory⟩ := by
  cases hx : (x.exec serve (inputs db now id) n c).value with
  | ok model =>
    rw [TenantScript.reading, exec_attempt_ok hx]
    rfl
  | error e =>
    rw [TenantScript.reading, exec_attempt_error hx]
    rfl

/-- A row that is looked for and has to be there. -/
theorem exec_orMissing {x : TenantScript (Option ρ)} (found : Option ρ) {missing : String}
    {next : ρ → TenantScript α}
    (hx : x.exec serve (inputs db now id) n c = ⟨query db n found, n + 1, c⟩) :
    let ran := (x.attempt (TenantScript.orMissing missing next)).exec serve (inputs db now id) n c
    (ran.value, ran.memory) =
      match query db n found with
      | .error e => (.error e, c)
      | .ok none => (.error (.notFound missing), c)
      | .ok (some row) =>
        let ran := (next row).exec serve (inputs db now id) (n + 1) c
        (ran.value, ran.memory) := by
  have hvalue : (x.exec serve (inputs db now id) n c).value = query db n found := by rw [hx]
  cases hquery : query db n found with
  | error e =>
    dsimp only
    rw [exec_attempt_error (hvalue.trans hquery), hx]
  | ok found =>
    dsimp only
    rw [exec_attempt_ok (hvalue.trans hquery), hx]
    cases found with
    | none => rfl
    | some row => rfl

theorem exec_createGroup (group : CreateGroupRequest) :
    let ran := (TenantScript.createGroup group).exec serve (inputs db now id) n c
    (ran.value, ran.memory) = createGroup db n now id c group := by
  refine (exec_orMissing (c.workspaces.find group.workspaceId) rfl).trans ?_
  unfold createGroup query
  cases (db n).failure with
  | some e => rfl
  | none =>
    rw [Rows.decide_mem_keys]
    cases c.workspaces.find group.workspaceId with
    | none => rfl
    | some row =>
      dsimp only [Option.isSome]
      rw [exec_reading]
      exact write_map

theorem exec_createBizTag (bizTag : CreateBizTagRequest) :
    let ran := (TenantScript.createBizTag bizTag).exec serve (inputs db now id) n c
    (ran.value, ran.memory) = createBizTag db n now id c bizTag := by
  refine (exec_orMissing (c.workspaces.find bizTag.workspaceId) rfl).trans ?_
  unfold createBizTag query
  cases (db n).failure with
  | some e => rfl
  | none =>
    rw [Rows.decide_mem_keys]
    cases c.workspaces.find bizTag.workspaceId with
    | none => rfl
    | some workspace =>
      dsimp only [Option.isSome]
      refine (exec_orMissing (c.groups.find bizTag.groupId) rfl).trans ?_
      unfold query
      cases (db (n + 1)).failure with
      | some e => rfl
      | none =>
        rw [Rows.decide_mem_keys]
        cases c.groups.find bizTag.groupId with
        | none => rfl
        | some group =>
          dsimp only [Option.isSome]
          rw [exec_reading]
          exact write_map

theorem exec_updateBizTag (tagId : Uuid) (bizTag : UpdateBizTagRequest) :
    let ran := (TenantScript.updateBizTag tagId bizTag).exec serve (inputs db now id) n c
    (ran.value, ran.memory) = updateBizTagIn db n now tagId c bizTag := by
  refine (exec_orMissing (c.bizTags.find tagId) rfl).trans ?_
  unfold updateBizTagIn query
  cases (db n).failure with
  | some e => rfl
  | none =>
    cases hfind : c.bizTags.find tagId with
    | none => rfl
    | some existing =>
      obtain rfl := Rows.key_of_find hfind
      dsimp only
      rw [exec_reading]
      exact update_map hfind

theorem exec_affected {x : TenantScript Bool} {missing : String} (found : Prop) [Decidable found]
    (after : Catalog)
    (hx : x.exec serve (inputs db now id) n c =
      ⟨((inputs db now id n).remove c found after).1, n + 1,
        ((inputs db now id n).remove c found after).2⟩) :
    let ran := (TenantScript.affected missing x).exec serve (inputs db now id) n c
    (ran.value, ran.memory) =
      match (db n).failure with
      | some e => (.error (.databaseError e), c)
      | none => if found then (.ok (), after) else (.error (.notFound missing), c) := by
  have hvalue : (x.exec serve (inputs db now id) n c).value =
      ((inputs db now id n).remove c found after).1 := by rw [hx]
  unfold TenantScript.affected
  unfold StatementInput.remove at hx hvalue
  cases hdb : (db n).failure with
  | some e =>
    simp only [inputs, hdb] at hx hvalue
    rw [exec_attempt_error hvalue]
    exact congrArg (Prod.mk _) (congrArg Ran.memory hx)
  | none =>
    simp only [inputs, hdb] at hx hvalue
    split at hvalue
    · rw [exec_attempt_ok hvalue, if_pos ‹found›]
      rw [if_pos ‹found›] at hx
      exact congrArg (Prod.mk _) (congrArg Ran.memory hx)
    · rw [exec_attempt_ok hvalue, if_neg ‹¬ found›]
      rw [if_neg ‹¬ found›] at hx
      exact congrArg (Prod.mk _) (congrArg Ran.memory hx)

theorem exec_deleteBizTag (tagId : Uuid) :
    let ran := (TenantScript.deleteBizTag tagId).exec serve (inputs db now id) n c
    (ran.value, ran.memory) = deleteBizTag db n c tagId := by
  refine (exec_affected (tagId ∈ c.bizTags.rows.map BizTagRow.id)
    (c.keepBizTags fun b => b.id ≠ tagId) rfl).trans ?_
  unfold deleteBizTag query
  cases (db n).failure with
  | some e => rfl
  | none =>
    by_cases hfound : tagId ∈ c.bizTags.rows.map BizTagRow.id
    · rw [decide_eq_true hfound, if_pos hfound]
    · rw [decide_eq_false hfound, if_neg hfound]

end Alone

end SeaOrmRepository

end NebulaId
