import NebulaId.Database.Catalog
import NebulaId.Store.Owned

/-!
# Workspaces, groups and biz tags (`core/database/repository.rs`, `connection.rs`)

The tables of the tenants under the constraints of the schema, and what the repository does with
them. Each statement has its own answer (`Answers`). A statement that would break a constraint
fails; a query without an order returns the rows as they lie in the table.

* `addWorkspace`, `addGroup`, `addBizTag`: an insertion with all its constraints.
* `createGroup_cases`, `createBizTag_cases`, `updateBizTagIn_cases`, `deleteBizTag_cases`: what each
  call leaves behind.
-/

namespace NebulaId

open Store

def SeaOrmRepository.GroupRow.index (g : SeaOrmRepository.GroupRow) : Uuid × String := (g.workspaceId, g.name)

def SeaOrmRepository.BizTagRow.index (b : SeaOrmRepository.BizTagRow) : Uuid × Uuid × String :=
  (b.workspaceId, b.groupId, b.name)

namespace SeaOrmRepository

abbrev GroupTable := Indexed Uuid (Uuid × String) GroupRow GroupRow.id GroupRow.index

abbrev BizTagTable := Indexed Uuid (Uuid × Uuid × String) BizTagRow BizTagRow.id BizTagRow.index

/-- The tables with their foreign keys; that of the keys has none. -/
structure Catalog where
  workspaces : WorkspaceTable
  groups : GroupTable
  bizTags : BizTagTable
  keys : ApiKeyTable
  groupWorkspace : ∀ g ∈ groups.rows, g.workspaceId ∈ workspaces.rows.map WorkspaceRow.id
  tagWorkspace : ∀ b ∈ bizTags.rows, b.workspaceId ∈ workspaces.rows.map WorkspaceRow.id
  tagGroup : ∀ b ∈ bizTags.rows, b.groupId ∈ groups.rows.map GroupRow.id

/-- The answers to the statements of a call, one after another. -/
abbrev Replies := ℕ → Answers

structure CreateGroupRequest where
  workspaceId : Uuid
  name : String
  description : Option String
  maxBizTags : Option Int32

def CreateGroupRequest.row (group : CreateGroupRequest) (id : Uuid) (now : ℤ) : GroupRow where
  id := id
  workspaceId := group.workspaceId
  name := group.name
  description := group.description
  maxBizTags := group.maxBizTags.getD 50
  createdAt := now
  updatedAt := now

structure CreateBizTagRequest where
  workspaceId : Uuid
  groupId : Uuid
  name : String
  description : Option String
  algorithm : Option AlgorithmType
  format : Option IdFormat
  idPrefix : Option String
  baseStep : Option Int32
  maxStep : Option Int32
  datacenterIds : Option (List Int32)

def CreateBizTagRequest.row (bizTag : CreateBizTagRequest) (id : Uuid) (now : ℤ) : BizTagRow where
  id := id
  workspaceId := bizTag.workspaceId
  groupId := bizTag.groupId
  name := bizTag.name
  description := bizTag.description
  algorithm := .ofAlgorithmType (bizTag.algorithm.getD .segment)
  format := .ofIdFormat (bizTag.format.getD .numeric)
  idPrefix := bizTag.idPrefix.getD ""
  baseStep := bizTag.baseStep.getD 100
  maxStep := bizTag.maxStep.getD 1000
  datacenterIds := .ofVec (bizTag.datacenterIds.getD [0])
  createdAt := now
  updatedAt := now

namespace Catalog

variable {c c' : Catalog} {group : GroupRow} {tag : BizTagRow}

theorem mem_map_append {α β : Type} {f : α → β} {b : β} {l : List α} {a : α} (h : b ∈ l.map f) :
    b ∈ (l ++ [a]).map f := by
  rw [List.map_append]
  exact List.mem_append_left _ h

theorem mem_map_append_self {α β : Type} (f : α → β) (l : List α) (a : α) : f a ∈ (l ++ [a]).map f :=
  List.mem_map_of_mem (List.mem_append_right _ (List.mem_singleton.mpr rfl))

/-! ### Constraints -/

def NewGroup (c : Catalog) (group : GroupRow) : Prop :=
  group.workspaceId ∈ c.workspaces.rows.map WorkspaceRow.id ∧
    group.id ∉ c.groups.rows.map GroupRow.id ∧ group.index ∉ c.groups.rows.map GroupRow.index

instance : Decidable (NewGroup c group) := inferInstanceAs (Decidable (_ ∧ _))

def NewBizTag (c : Catalog) (tag : BizTagRow) : Prop :=
  tag.workspaceId ∈ c.workspaces.rows.map WorkspaceRow.id ∧
    tag.groupId ∈ c.groups.rows.map GroupRow.id ∧
    tag.id ∉ c.bizTags.rows.map BizTagRow.id ∧ tag.index ∉ c.bizTags.rows.map BizTagRow.index

instance : Decidable (NewBizTag c tag) := inferInstanceAs (Decidable (_ ∧ _))

def addWorkspace (c : Catalog) (row : WorkspaceRow)
    (h : row.id ∉ c.workspaces.rows.map WorkspaceRow.id ∧
      row.name ∉ c.workspaces.rows.map WorkspaceRow.name) : Catalog :=
  { c with
    workspaces := c.workspaces.append row h
    groupWorkspace := fun g hg => by
      rw [Indexed.rows_append]
      exact mem_map_append (c.groupWorkspace g hg)
    tagWorkspace := fun b hb => by
      rw [Indexed.rows_append]
      exact mem_map_append (c.tagWorkspace b hb) }

def addGroup (c : Catalog) (group : GroupRow) (h : c.NewGroup group) : Catalog :=
  { c with
    groups := c.groups.append group h.2
    groupWorkspace := fun g hg => by
      rw [Indexed.rows_append] at hg
      rcases List.mem_append.mp hg with hold | hnew
      · exact c.groupWorkspace g hold
      · rw [List.mem_singleton.mp hnew]
        exact h.1
    tagGroup := fun b hb => by
      rw [Indexed.rows_append]
      exact mem_map_append (c.tagGroup b hb) }

def addBizTag (c : Catalog) (tag : BizTagRow) (h : c.NewBizTag tag) : Catalog :=
  { c with
    bizTags := c.bizTags.append tag h.2.2
    tagWorkspace := fun b hb => by
      rw [Indexed.rows_append] at hb
      rcases List.mem_append.mp hb with hold | hnew
      · exact c.tagWorkspace b hold
      · rw [List.mem_singleton.mp hnew]
        exact h.1
    tagGroup := fun b hb => by
      rw [Indexed.rows_append] at hb
      rcases List.mem_append.mp hb with hold | hnew
      · exact c.tagGroup b hold
      · rw [List.mem_singleton.mp hnew]
        exact h.2.1 }

/-- A group goes, and the biz tags in it. -/
def dropGroup (c : Catalog) (groupId : Uuid) : Catalog :=
  { c with
    groups :=
      { rows := c.groups.rows.filter fun g => g.id ≠ groupId
        nodup := c.groups.nodup.sublist (List.filter_sublist.map _)
        indexed := c.groups.indexed.sublist (List.filter_sublist.map _) }
    bizTags :=
      { rows := c.bizTags.rows.filter fun b => b.groupId ≠ groupId
        nodup := c.bizTags.nodup.sublist (List.filter_sublist.map _)
        indexed := c.bizTags.indexed.sublist (List.filter_sublist.map _) }
    groupWorkspace := fun g hg => c.groupWorkspace g (List.mem_of_mem_filter hg)
    tagWorkspace := fun b hb => c.tagWorkspace b (List.mem_of_mem_filter hb)
    tagGroup := fun b hb => by
      obtain ⟨hmem, hne⟩ := List.mem_filter.mp hb
      obtain ⟨g, hg, hid⟩ := List.mem_map.mp (c.tagGroup b hmem)
      refine List.mem_map.mpr ⟨g, List.mem_filter.mpr ⟨hg, ?_⟩, hid⟩
      rw [hid]
      exact hne }

/-- Some of the biz tags are deleted. -/
def keepBizTags (c : Catalog) (p : BizTagRow → Bool) : Catalog :=
  { c with
    bizTags :=
      { rows := c.bizTags.rows.filter p
        nodup := c.bizTags.nodup.sublist (List.filter_sublist.map _)
        indexed := c.bizTags.indexed.sublist (List.filter_sublist.map _) }
    tagWorkspace := fun b hb => c.tagWorkspace b (List.mem_of_mem_filter hb)
    tagGroup := fun b hb => c.tagGroup b (List.mem_of_mem_filter hb) }

/-- A workspace changes its name to one that nobody has. -/
def renameWorkspace (c : Catalog) (name name' : String)
    (h : name' ∉ c.workspaces.rows.map WorkspaceRow.name) : Catalog :=
  { c with
    workspaces := c.workspaces.reindex name name' (fun r => { r with name := name' })
      (fun _ => rfl) (fun _ => rfl) h
    groupWorkspace := fun g hg => by
      rw [Indexed.keys_reindex]
      exact c.groupWorkspace g hg
    tagWorkspace := fun b hb => by
      rw [Indexed.keys_reindex]
      exact c.tagWorkspace b hb }

theorem ids_renameWorkspace {name name' : String}
    (h : name' ∉ c.workspaces.rows.map WorkspaceRow.name) :
    (c.renameWorkspace name name' h).workspaces.rows.map WorkspaceRow.id =
      c.workspaces.rows.map WorkspaceRow.id := by
  dsimp only [renameWorkspace]
  exact Indexed.keys_reindex

theorem not_mem_renameWorkspace {name name' : String}
    (h : name' ∉ c.workspaces.rows.map WorkspaceRow.name) (hne : name ≠ name') :
    name ∉ (c.renameWorkspace name name' h).workspaces.rows.map WorkspaceRow.name := by
  dsimp only [renameWorkspace]
  exact Indexed.not_mem_reindex hne

/-- A biz tag changes, but not its place. -/
def setBizTag (c : Catalog) (id : Uuid) (f : BizTagRow → BizTagRow)
    (hf : ∀ b, (f b).id = b.id ∧ (f b).workspaceId = b.workspaceId ∧ (f b).groupId = b.groupId)
    (h : ((c.bizTags.rows.map (Rows.setRow BizTagRow.id id f)).map BizTagRow.index).Nodup) :
    Catalog :=
  { c with
    bizTags := ⟨c.bizTags.update id f fun b => (hf b).1, h⟩
    tagWorkspace := fun b hb => by
      obtain ⟨b', hb', rfl⟩ := List.mem_map.mp hb
      rw [Rows.apply_setRow fun b => (hf b).2.1]
      exact c.tagWorkspace b' hb'
    tagGroup := fun b hb => by
      obtain ⟨b', hb', rfl⟩ := List.mem_map.mp hb
      rw [Rows.apply_setRow fun b => (hf b).2.2]
      exact c.tagGroup b' hb' }

end Catalog

/-! ## The repository -/

/-- A query, as the statement with this number. -/
def query {α : Type} (db : Replies) (statement : ℕ) (answer : α) : Result α :=
  match (db statement).failure with
  | some e => .error (.databaseError e)
  | none => .ok answer

/-- `LIMIT … OFFSET …` -/
def page {α : Type} (limit offset : Option ℕ) (rows : List α) : List α :=
  match limit with
  | some limit => (rows.drop (offset.getD 0)).take limit
  | none => rows.drop (offset.getD 0)

def listWorkspaces (db : Replies) (statement : ℕ) (c : Catalog) (limit offset : Option ℕ) :
    Result (List Workspace) :=
  query db statement ((page limit offset c.workspaces.rows).map WorkspaceRow.toWorkspace)

def createGroup (db : Replies) (statement : ℕ) (now : ℤ) (id : Uuid) (c : Catalog)
    (group : CreateGroupRequest) : Result Group × Catalog :=
  match query db statement (decide (group.workspaceId ∈ c.workspaces.rows.map WorkspaceRow.id)) with
  | .error e => (.error e, c)
  | .ok false => (.error (.notFound ("Workspace not found: " ++ Id.uuidText group.workspaceId)), c)
  | .ok true =>
    match (db (statement + 1)).failure with
    | some e => (.error (.databaseError e), c)
    | none =>
      if h : c.NewGroup (group.row id now) then
        (.ok (group.row id now).toGroup, c.addGroup (group.row id now) h)
      else (.error (.databaseError (db (statement + 1)).violation), c)

def listGroups (db : Replies) (statement : ℕ) (c : Catalog) (workspaceId : Uuid)
    (limit offset : Option ℕ) : Result (List Group) :=
  query db statement ((page limit offset (own GroupRow.workspaceId workspaceId c.groups.rows)).map
    GroupRow.toGroup)

def createBizTag (db : Replies) (statement : ℕ) (now : ℤ) (id : Uuid) (c : Catalog)
    (bizTag : CreateBizTagRequest) : Result BizTag × Catalog :=
  match query db statement (decide (bizTag.workspaceId ∈ c.workspaces.rows.map WorkspaceRow.id)) with
  | .error e => (.error e, c)
  | .ok false => (.error (.notFound ("Workspace not found: " ++ Id.uuidText bizTag.workspaceId)), c)
  | .ok true =>
    match query db (statement + 1) (decide (bizTag.groupId ∈ c.groups.rows.map GroupRow.id)) with
    | .error e => (.error e, c)
    | .ok false => (.error (.notFound ("Group not found: " ++ Id.uuidText bizTag.groupId)), c)
    | .ok true =>
      match (db (statement + 2)).failure with
      | some e => (.error (.databaseError e), c)
      | none =>
        if h : c.NewBizTag (bizTag.row id now) then
          (.ok (bizTag.row id now).toBizTag, c.addBizTag (bizTag.row id now) h)
        else (.error (.databaseError (db (statement + 2)).violation), c)

def getBizTag (db : Replies) (statement : ℕ) (c : Catalog) (id : Uuid) : Result (Option BizTag) :=
  query db statement ((c.bizTags.find id).map BizTagRow.toBizTag)

/-- `update_biz_tag` with the unique index of the table. -/
def updateBizTagIn (db : Replies) (statement : ℕ) (now : ℤ) (id : Uuid) (c : Catalog)
    (bizTag : UpdateBizTagRequest) : Result BizTag × Catalog :=
  match query db statement (c.bizTags.find id) with
  | .error e => (.error e, c)
  | .ok none => (.error (.notFound ("BizTag not found: " ++ Id.uuidText id)), c)
  | .ok (some existing) =>
    match (db (statement + 1)).failure with
    | some e => (.error (.databaseError e), c)
    | none =>
      if h : ((c.bizTags.rows.map (Rows.setRow BizTagRow.id id
          (bizTag.activeModel now existing).write)).map BizTagRow.index).Nodup then
        (.ok ((bizTag.activeModel now existing).write existing).toBizTag,
          c.setBizTag id (bizTag.activeModel now existing).write (fun _ => ⟨rfl, rfl, rfl⟩) h)
      else (.error (.databaseError (db (statement + 1)).violation), c)

def deleteBizTag (db : Replies) (statement : ℕ) (c : Catalog) (id : Uuid) : Result Unit × Catalog :=
  match query db statement (decide (id ∈ c.bizTags.rows.map BizTagRow.id)) with
  | .error e => (.error e, c)
  | .ok false => (.error (.notFound ("BizTag not found: " ++ Id.uuidText id)), c)
  | .ok true => (.ok (), c.keepBizTags fun b => b.id ≠ id)

/-- The biz tags of a workspace, or of one of its groups. -/
def bizTagsOf (c : Catalog) (workspaceId : Uuid) (groupId : Option Uuid) : List BizTagRow :=
  (own BizTagRow.workspaceId workspaceId c.bizTags.rows).filter fun b =>
    groupId.all fun groupId => decide (b.groupId = groupId)

def listBizTags (db : Replies) (statement : ℕ) (c : Catalog) (workspaceId : Uuid)
    (groupId : Option Uuid) (limit offset : Option ℕ) : Result (List BizTag) :=
  query db statement ((page limit offset (bizTagsOf c workspaceId groupId)).map BizTagRow.toBizTag)

def countBizTags (db : Replies) (statement : ℕ) (c : Catalog) (workspaceId : Uuid)
    (groupId : Option Uuid) : Result ℕ :=
  query db statement (bizTagsOf c workspaceId groupId).length

/-! ## What a call leaves behind -/

section Cases

variable (db : Replies) (statement : ℕ) (now : ℤ) (id : Uuid) (c : Catalog)

theorem createGroup_cases (group : CreateGroupRequest) :
    (createGroup db statement now id c group).2 = c ∨
      ∃ h, (createGroup db statement now id c group).2 = c.addGroup (group.row id now) h := by
  unfold createGroup
  split
  · exact Or.inl rfl
  · exact Or.inl rfl
  · split
    · exact Or.inl rfl
    · split
      · exact Or.inr ⟨‹_›, rfl⟩
      · exact Or.inl rfl

theorem createBizTag_cases (bizTag : CreateBizTagRequest) :
    (createBizTag db statement now id c bizTag).2 = c ∨
      ∃ h, (createBizTag db statement now id c bizTag).2 = c.addBizTag (bizTag.row id now) h := by
  unfold createBizTag
  split
  · exact Or.inl rfl
  · exact Or.inl rfl
  · split
    · exact Or.inl rfl
    · exact Or.inl rfl
    · split
      · exact Or.inl rfl
      · split
        · exact Or.inr ⟨‹_›, rfl⟩
        · exact Or.inl rfl

theorem updateBizTagIn_cases (bizTag : UpdateBizTagRequest) :
    (updateBizTagIn db statement now id c bizTag).2 = c ∨
      ∃ existing h, c.bizTags.find id = some existing ∧
        (updateBizTagIn db statement now id c bizTag).2 =
          c.setBizTag id (bizTag.activeModel now existing).write (fun _ => ⟨rfl, rfl, rfl⟩) h := by
  unfold updateBizTagIn
  split
  · exact Or.inl rfl
  · exact Or.inl rfl
  · rename_i existing hquery
    split
    · exact Or.inl rfl
    · split
      · rename_i h
        refine Or.inr ⟨existing, h, ?_, rfl⟩
        unfold query at hquery
        split at hquery
        · cases hquery
        · exact Except.ok.inj hquery
      · exact Or.inl rfl

theorem deleteBizTag_cases : (deleteBizTag db statement c id).2 = c ∨
    (deleteBizTag db statement c id).2 = c.keepBizTags fun b => b.id ≠ id := by
  unfold deleteBizTag
  split
  · exact Or.inl rfl
  · exact Or.inl rfl
  · exact Or.inr rfl

end Cases

/-- The table is changed as without the index, when the index lets it. -/
theorem updateBizTagIn_rows {db : Replies} {statement : ℕ} {now : ℤ} {id : Uuid} {c : Catalog}
    {bizTag : UpdateBizTagRequest} {updated : BizTag}
    (h : (updateBizTagIn db statement now id c bizTag).1 = .ok updated) :
    updateBizTag ⟨(db statement).failure, (db (statement + 1)).failure⟩ now id bizTag
      c.bizTags.toRows =
        (.ok updated, (updateBizTagIn db statement now id c bizTag).2.bizTags.toRows) := by
  unfold updateBizTagIn at h ⊢
  unfold updateBizTag updateById
  cases hfind : (db statement).failure with
  | some e =>
    simp only [query, hfind] at h
    cases h
  | none =>
    simp only [query, hfind] at h ⊢
    cases hrow : c.bizTags.find id with
    | none =>
      rw [hrow] at h
      cases h
    | some existing =>
      rw [hrow] at h
      dsimp only at h ⊢
      cases hupdate : (db (statement + 1)).failure with
      | some e =>
        rw [hupdate] at h
        cases h
      | none =>
        rw [hupdate] at h
        dsimp only at h ⊢
        split at h
        · rename_i hunique
          rw [dif_pos hunique]
          cases h
          rw [Rows.key_of_find hrow]
          rfl
        · cases h

end SeaOrmRepository

end NebulaId
