import NebulaId.Store.Indexed
import NebulaId.Database.Updates

/-!
# Workspaces (`core/database/repository.rs`, `connection.rs`)

The table of workspaces with its unique name, and the functions of the repository that create and
find a workspace. A statement that fails is an input (`Answers`).

* `createWorkspace_of_inserts`, `createWorkspace_of_not_inserts`: a new row, or nothing.
-/

namespace NebulaId

open Store

namespace SeaOrmRepository

structure CreateWorkspaceRequest where
  name : String
  description : Option String
  maxGroups : Option Int32
  maxBizTags : Option Int32

abbrev WorkspaceTable := Indexed Uuid String WorkspaceRow WorkspaceRow.id WorkspaceRow.name

def CreateWorkspaceRequest.row (workspace : CreateWorkspaceRequest) (id : Uuid) (now : ℤ) :
    WorkspaceRow where
  id := id
  name := workspace.name
  description := workspace.description
  status := WorkspaceStatus.active.asStr
  maxGroups := workspace.maxGroups.getD 10
  maxBizTags := workspace.maxBizTags.getD 100
  createdAt := now
  updatedAt := now

def createWorkspace (db : Answers) (now : ℤ) (id : Uuid) (t : WorkspaceTable)
    (workspace : CreateWorkspaceRequest) : Result Workspace × WorkspaceTable :=
  match db.failure with
  | some e => (.error (.databaseError e), t)
  | none => match t.insert (workspace.row id now) with
    | none => (.error (.databaseError db.violation), t)
    | some t => (.ok (workspace.row id now).toWorkspace, t)

def getWorkspaceByName (db : Answers) (t : WorkspaceTable) (name : String) :
    Result (Option Workspace) :=
  match db.failure with
  | some e => .error (.databaseError e)
  | none => .ok ((t.findBy name).map WorkspaceRow.toWorkspace)

/-- The statement succeeds, and neither the id nor the name is taken. -/
def InsertsWorkspace (db : Answers) (id : Uuid) (t : WorkspaceTable)
    (workspace : CreateWorkspaceRequest) : Prop :=
  db.failure = none ∧ id ∉ t.rows.map WorkspaceRow.id ∧
    workspace.name ∉ t.rows.map WorkspaceRow.name

variable {db : Answers} {now : ℤ} {id : Uuid} {t : WorkspaceTable}
  {workspace : CreateWorkspaceRequest}

theorem createWorkspace_of_inserts (now : ℤ) (h : InsertsWorkspace db id t workspace) :
    ∃ t', createWorkspace db now id t workspace = (.ok (workspace.row id now).toWorkspace, t') ∧
      t'.rows = t.rows ++ [workspace.row id now] := by
  obtain ⟨hdb, hid, hname⟩ := h
  obtain ⟨t', hinsert⟩ := Option.isSome_iff_exists.mp
    (Indexed.insert_isSome_iff (t := t) (r := workspace.row id now).mpr ⟨hid, hname⟩)
  refine ⟨t', ?_, Indexed.insert_eq_some hinsert⟩
  rw [createWorkspace, hdb]
  dsimp only
  rw [hinsert]

theorem createWorkspace_of_not_inserts (now : ℤ) (h : ¬ InsertsWorkspace db id t workspace) :
    ∃ e, createWorkspace db now id t workspace = (.error (.databaseError e), t) := by
  unfold createWorkspace
  split
  · exact ⟨_, rfl⟩
  · rename_i hdb
    have hnone : t.insert (workspace.row id now) = none := by
      rw [← Option.not_isSome_iff_eq_none, Indexed.insert_isSome_iff]
      exact fun hnew => h ⟨hdb, hnew.1, hnew.2⟩
    rw [hnone]
    exact ⟨_, rfl⟩

end SeaOrmRepository

end NebulaId
