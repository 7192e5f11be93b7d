import NebulaId.Database.Tenants
import Mathlib.Data.Fintype.EquivFin

/-!
# What a workspace sees of the database (`core/database/repository.rs`)

The rows of a workspace are its own row, its groups, its biz tags and its keys (`SameView`); the
other rows are those of others (`OthersKept`).

* `createGroup_same`, `createBizTag_same`, `updateBizTagIn_same`, `deleteBizTag_same`: the answers
  that depend on nothing but the rows of the workspace.
* `createGroup_kept`, `createBizTag_kept`, `updateBizTagIn_kept`, `deleteBizTag_kept`: what they
  change are its rows.
* `validateApiKey_same`, `validateApiKey_kept`: the key of a request.
* `exists_workspace`, `exists_new_workspace`, `exists_group`, `exists_bizTag`, `exists_unnamed`,
  `exists_without_group`, `exists_without_bizTag`: databases that look the same to the workspace.
-/

namespace NebulaId

open Store

namespace SeaOrmRepository

structure SameView (w : Uuid) (c c' : Catalog) : Prop where
  workspaces : own WorkspaceRow.id w c.workspaces.rows = own WorkspaceRow.id w c'.workspaces.rows
  groups : own GroupRow.workspaceId w c.groups.rows = own GroupRow.workspaceId w c'.groups.rows
  bizTags : own BizTagRow.workspaceId w c.bizTags.rows = own BizTagRow.workspaceId w c'.bizTags.rows
  keys : own ApiKeyRow.workspaceId (some w) c.keys.rows =
    own ApiKeyRow.workspaceId (some w) c'.keys.rows

/-- The rows of every other workspace, and the keys of nobody, are as they were. -/
structure OthersKept (w : Uuid) (c c' : Catalog) : Prop where
  workspaces : Store.OthersKept WorkspaceRow.id w c.workspaces.rows c'.workspaces.rows
  groups : Store.OthersKept GroupRow.workspaceId w c.groups.rows c'.groups.rows
  bizTags : Store.OthersKept BizTagRow.workspaceId w c.bizTags.rows c'.bizTags.rows
  keys : Store.OthersKept ApiKeyRow.workspaceId (some w) c.keys.rows c'.keys.rows

variable {w id : Uuid} {c c' : Catalog} {group : GroupRow} {tag : BizTagRow} {row : WorkspaceRow}

namespace SameView

theorem refl (w : Uuid) (c : Catalog) : SameView w c c := ⟨rfl, rfl, rfl, rfl⟩

theorem symm (h : SameView w c c') : SameView w c' c :=
  ⟨h.workspaces.symm, h.groups.symm, h.bizTags.symm, h.keys.symm⟩

theorem trans {c'' : Catalog} (h : SameView w c c') (h' : SameView w c' c'') : SameView w c c'' :=
  ⟨h.workspaces.trans h'.workspaces, h.groups.trans h'.groups, h.bizTags.trans h'.bizTags,
    h.keys.trans h'.keys⟩

theorem exists_iff (h : SameView w c c') : w ∈ c.workspaces.rows.map WorkspaceRow.id ↔
    w ∈ c'.workspaces.rows.map WorkspaceRow.id := by
  rw [← not_iff_not, ← own_eq_nil_iff, ← own_eq_nil_iff, h.workspaces]

theorem findBy (h : SameView w c c') (hrow : row ∈ own WorkspaceRow.id w c.workspaces.rows) :
    c.workspaces.findBy row.name = some row ∧ c'.workspaces.findBy row.name = some row := by
  obtain ⟨hmem, hid⟩ := mem_own.mp hrow
  exact ⟨Indexed.findBy_eq_some.mpr ⟨hmem, rfl⟩,
    Indexed.findBy_eq_some.mpr ⟨mem_of_own h.workspaces hmem hid, rfl⟩⟩

theorem find (h : SameView w c c') (htag : tag ∈ own BizTagRow.workspaceId w c.bizTags.rows) :
    c.bizTags.find tag.id = some tag ∧ c'.bizTags.find tag.id = some tag := by
  obtain ⟨hmem, hws⟩ := mem_own.mp htag
  have hfind := Rows.find_eq_some.mpr ⟨hmem, rfl⟩
  exact ⟨hfind, find_of_own h.bizTags hfind hws⟩

end SameView

/-! ## Answers from the rows of the workspace -/

section Answers

variable {db : Replies} {statement : ℕ} {now : ℤ}

theorem names_group : Names GroupRow.workspaceId GroupRow.index := ⟨Prod.fst, fun _ => rfl⟩

theorem names_bizTag : Names BizTagRow.workspaceId BizTagRow.index := ⟨Prod.fst, fun _ => rfl⟩

theorem SameView.newGroup_iff (h : SameView w c c') (hw : group.workspaceId = w)
    (hnew : group.id ∉ c.groups.rows.map GroupRow.id)
    (hnew' : group.id ∉ c'.groups.rows.map GroupRow.id) : c.NewGroup group ↔ c'.NewGroup group := by
  subst hw
  exact and_congr h.exists_iff (and_congr (iff_of_true hnew hnew')
    (not_congr (mem_index_congr names_group h.groups)))

theorem SameView.newBizTag_iff (h : SameView w c c') (hw : tag.workspaceId = w)
    (hgroup : tag.groupId ∈ c.groups.rows.map GroupRow.id ↔
      tag.groupId ∈ c'.groups.rows.map GroupRow.id)
    (hnew : tag.id ∉ c.bizTags.rows.map BizTagRow.id)
    (hnew' : tag.id ∉ c'.bizTags.rows.map BizTagRow.id) : c.NewBizTag tag ↔ c'.NewBizTag tag := by
  subst hw
  exact and_congr h.exists_iff (and_congr hgroup (and_congr (iff_of_true hnew hnew')
    (not_congr (mem_index_congr names_bizTag h.bizTags))))

theorem createGroup_same (h : SameView w c c') {request : CreateGroupRequest}
    (hw : request.workspaceId = w) (hnew : id ∉ c.groups.rows.map GroupRow.id)
    (hnew' : id ∉ c'.groups.rows.map GroupRow.id) :
    (createGroup db statement now id c request).1 =
      (createGroup db statement now id c' request).1 := by
  have hexists := h.exists_iff
  have hinsert := h.newGroup_iff (show (request.row id now).workspaceId = w from hw) hnew hnew'
  rw [← hw] at hexists
  unfold createGroup
  rw [decide_eq_decide.mpr hexists]
  cases query db statement (decide (request.workspaceId ∈ c'.workspaces.rows.map WorkspaceRow.id)) with
  | error e => rfl
  | ok found =>
    cases found with
    | false => rfl
    | true =>
      cases (db (statement + 1)).failure with
      | some e => rfl
      | none =>
        by_cases hc : c.NewGroup (request.row id now)
        · rw [dif_pos hc, dif_pos (hinsert.mp hc)]
        · rw [dif_neg hc, dif_neg (mt hinsert.mpr hc)]

/-- Without the workspace nobody asks for the group. -/
theorem createBizTag_missing {request : CreateBizTagRequest}
    (hgone : request.workspaceId ∉ c.workspaces.rows.map WorkspaceRow.id) :
    (createBizTag db statement now id c request).1 = (query db statement ()).bind fun _ =>
      .error (.notFound ("Workspace not found: " ++ Id.uuidText request.workspaceId)) := by
  unfold createBizTag query
  rw [decide_eq_false hgone]
  cases (db statement).failure with
  | some e => rfl
  | none => rfl

theorem createBizTag_same (h : SameView w c c') {request : CreateBizTagRequest}
    (hw : request.workspaceId = w)
    (hgroup : w ∈ c.workspaces.rows.map WorkspaceRow.id →
      (request.groupId ∈ c.groups.rows.map GroupRow.id ↔
        request.groupId ∈ c'.groups.rows.map GroupRow.id))
    (hnew : id ∉ c.bizTags.rows.map BizTagRow.id) (hnew' : id ∉ c'.bizTags.rows.map BizTagRow.id) :
    (createBizTag db statement now id c request).1 =
      (createBizTag db statement now id c' request).1 := by
  subst hw
  by_cases hws : request.workspaceId ∈ c.workspaces.rows.map WorkspaceRow.id
  · have hws' := h.exists_iff.mp hws
    have hinsert := h.newBizTag_iff (show (request.row id now).workspaceId = _ from rfl)
      (hgroup hws) hnew hnew'
    unfold createBizTag
    rw [decide_eq_true hws, decide_eq_true hws', decide_eq_decide.mpr (hgroup hws)]
    cases query db statement true with
    | error e => rfl
    | ok found =>
      cases found with
      | false => rfl
      | true =>
        cases query db (statement + 1) (decide (request.groupId ∈ c'.groups.rows.map GroupRow.id)) with
        | error e => rfl
        | ok found =>
          cases found with
          | false => rfl
          | true =>
            cases (db (statement + 2)).failure with
            | some e => rfl
            | none =>
              by_cases hc : c.NewBizTag (request.row id now)
              · rw [dif_pos hc, dif_pos (hinsert.mp hc)]
              · rw [dif_neg hc, dif_neg (mt hinsert.mpr hc)]
  · rw [createBizTag_missing hws, createBizTag_missing (mt h.exists_iff.mpr hws)]

/-- A row of another workspace is not the row of a biz tag of this one. -/
theorem setRow_of_other {f : BizTagRow → BizTagRow}
    (hfind : c.bizTags.find id = some tag) (hw : tag.workspaceId = w) :
    ∀ r ∈ c.bizTags.rows, r.workspaceId ≠ w → Rows.setRow BizTagRow.id id f r = r := by
  intro r hr hother
  refine if_neg fun hid => hother ?_
  rw [← hw, Option.some.inj (hfind.symm.trans (Rows.find_eq_some.mpr ⟨hr, hid⟩))]

theorem updateBizTagIn_same (h : SameView w c c') {request : UpdateBizTagRequest}
    (htag : tag ∈ own BizTagRow.workspaceId w c.bizTags.rows) :
    (updateBizTagIn db statement now tag.id c request).1 =
      (updateBizTagIn db statement now tag.id c' request).1 := by
  obtain ⟨hfind, hfind'⟩ := h.find htag
  have hw := (mem_own.mp htag).2
  have hunique := nodup_map_iff names_bizTag h.bizTags (Rows.apply_setRow fun _ => rfl)
    (setRow_of_other hfind hw) (setRow_of_other hfind' hw) c.bizTags.indexed c'.bizTags.indexed
    (f := Rows.setRow BizTagRow.id tag.id (request.activeModel now tag).write)
  unfold updateBizTagIn query
  rw [hfind, hfind']
  cases (db statement).failure with
  | some e => rfl
  | none =>
    dsimp only
    cases (db (statement + 1)).failure with
    | some e => rfl
    | none =>
      dsimp only
      split
      · rw [dif_pos (hunique.mp ‹_›)]
      · rw [dif_neg (mt hunique.mpr ‹_›)]

theorem deleteBizTag_same (h : SameView w c c')
    (htag : tag ∈ own BizTagRow.workspaceId w c.bizTags.rows) :
    (deleteBizTag db statement c tag.id).1 = (deleteBizTag db statement c' tag.id).1 := by
  obtain ⟨hfind, hfind'⟩ := h.find htag
  have hmem := (Rows.find_eq_some.mp hfind).1
  have hmem' := (Rows.find_eq_some.mp hfind').1
  unfold deleteBizTag
  rw [decide_eq_true (List.mem_map_of_mem hmem), decide_eq_true (List.mem_map_of_mem hmem')]
  cases query db statement true with
  | error e => rfl
  | ok found =>
    cases found with
    | false => rfl
    | true => rfl

theorem bizTagsOf_none (c : Catalog) (w : Uuid) :
    bizTagsOf c w none = own BizTagRow.workspaceId w c.bizTags.rows := by
  simp [bizTagsOf]

theorem bizTagsOf_same (h : SameView w c c') (groupId : Option Uuid) :
    bizTagsOf c w groupId = bizTagsOf c' w groupId := by
  unfold bizTagsOf
  rw [h.bizTags]

/-! ## Changes of the rows of the workspace -/

theorem OthersKept.refl (w : Uuid) (c : Catalog) : OthersKept w c c :=
  ⟨.refl _, .refl _, .refl _, .refl _⟩

theorem createGroup_kept {request : CreateGroupRequest} (hw : request.workspaceId = w) :
    OthersKept w c (createGroup db statement now id c request).2 := by
  rcases createGroup_cases db statement now id c request with hsame | ⟨h, hadd⟩
  · rw [hsame]
    exact .refl w c
  · rw [hadd]
    refine { OthersKept.refl w c with groups := ?_ }
    rw [Catalog.addGroup, Indexed.rows_append]
    exact othersKept_append hw

theorem createBizTag_kept {request : CreateBizTagRequest} (hw : request.workspaceId = w) :
    OthersKept w c (createBizTag db statement now id c request).2 := by
  rcases createBizTag_cases db statement now id c request with hsame | ⟨h, hadd⟩
  · rw [hsame]
    exact .refl w c
  · rw [hadd]
    refine { OthersKept.refl w c with bizTags := ?_ }
    rw [Catalog.addBizTag, Indexed.rows_append]
    exact othersKept_append hw

theorem updateBizTagIn_kept {request : UpdateBizTagRequest} (hfind : c.bizTags.find id = some tag)
    (hw : tag.workspaceId = w) : OthersKept w c (updateBizTagIn db statement now id c request).2 := by
  rcases updateBizTagIn_cases db statement now id c request with hsame | ⟨existing, h, -, hset⟩
  · rw [hsame]
    exact .refl w c
  · rw [hset]
    exact { OthersKept.refl w c with
      bizTags := othersKept_map (Rows.apply_setRow fun _ => rfl) (setRow_of_other hfind hw) }

theorem deleteBizTag_kept (hfind : c.bizTags.find id = some tag) (hw : tag.workspaceId = w) :
    OthersKept w c (deleteBizTag db statement c id).2 := by
  rcases deleteBizTag_cases db statement id c with hsame | hdrop
  · rw [hsame]
    exact .refl w c
  · rw [hdrop]
    refine { OthersKept.refl w c with bizTags := othersKept_filter fun r hr hother => ?_ }
    refine decide_eq_true fun hid => hother ?_
    rw [← hw, Option.some.inj (hfind.symm.trans (Rows.find_eq_some.mpr ⟨hr, hid⟩))]

end Answers

/-! ## The key of a request -/

section Keys

variable {hasher : KeyHasher} {answers : Answers} {touched : Bool} {now : ℤ} {keyId keySecret : String}
  {role : ApiKeyRole}

theorem key_of_validate {keys : ApiKeyTable}
    (h : (ApiKeyRepository.validateApiKey hasher answers touched now keys keyId keySecret).1 =
      .ok (some (some w, role))) :
    ∃ row ∈ keys.rows, row.keyId = keyId ∧ row.workspaceId = some w := by
  unfold ApiKeyRepository.validateApiKey at h
  split at h
  · cases h
  · split at h
    · rename_i row hfind
      obtain ⟨hrow, hid⟩ := ApiKeyTable.findByKeyId_eq_some.mp hfind
      split at h
      · exact ⟨row, hrow, hid, (Prod.mk.inj (Option.some.inj (Except.ok.inj h))).1⟩
      · cases h
    · cases h

/-- A key of the workspace is a key of the workspace in both databases. -/
theorem validateApiKey_same (h : SameView w c c')
    (hvalid : (ApiKeyRepository.validateApiKey hasher answers touched now c.keys keyId keySecret).1 =
      .ok (some (some w, role))) :
    (ApiKeyRepository.validateApiKey hasher answers touched now c'.keys keyId keySecret).1 =
      .ok (some (some w, role)) := by
  obtain ⟨row, hrow, hid, hws⟩ := key_of_validate hvalid
  have hfind := ApiKeyTable.findByKeyId_eq_some.mpr ⟨hrow, hid⟩
  have hfind' := ApiKeyTable.findByKeyId_eq_some.mpr ⟨mem_of_own h.keys hrow hws, hid⟩
  unfold ApiKeyRepository.validateApiKey at hvalid ⊢
  rw [hfind] at hvalid
  rw [hfind']
  cases hdb : answers.failure with
  | some e =>
    rw [hdb] at hvalid
    cases hvalid
  | none =>
    rw [hdb] at hvalid
    dsimp only at hvalid ⊢
    split at hvalid
    · rw [if_pos ‹_›]
      exact hvalid
    · cases hvalid

/-- The validation writes to the key of the workspace only. -/
theorem validateApiKey_kept {keys : ApiKeyTable}
    (hvalid : (ApiKeyRepository.validateApiKey hasher answers touched now keys keyId keySecret).1 =
      .ok (some (some w, role))) :
    Store.OthersKept ApiKeyRow.workspaceId (some w) keys.rows
      (ApiKeyRepository.validateApiKey hasher answers touched now keys keyId keySecret).2.rows := by
  obtain ⟨row, hrow, hid, hws⟩ := key_of_validate hvalid
  have hfind := ApiKeyTable.findByKeyId_eq_some.mpr ⟨hrow, hid⟩
  unfold ApiKeyRepository.validateApiKey
  rw [hfind]
  cases answers.failure with
  | some e => exact .refl _
  | none =>
    dsimp only
    split
    · cases touched with
      | false => exact .refl _
      | true =>
        refine othersKept_map (f := ApiKeyTable.setRow row.id fun r =>
          { r with lastUsedAt := some now, updatedAt := now }) (fun r => ?_) fun r hr hother => ?_
        · unfold ApiKeyTable.setRow
          split
          · rfl
          · rfl
        · refine if_neg fun hsame => hother ?_
          rw [List.inj_on_of_nodup_map keys.ids hr hrow hsame, hws]
    · exact .refl _

end Keys

/-! ## Databases that look the same -/

/-- Another workspace comes in. -/
theorem exists_workspace {name : String} (hid : id ∉ c.workspaces.rows.map WorkspaceRow.id)
    (hname : name ∉ c.workspaces.rows.map WorkspaceRow.name) (hw : id ≠ w) :
    ∃ c' row, SameView w c c' ∧ c'.groups = c.groups ∧ c'.bizTags = c.bizTags ∧
      c'.workspaces.rows = c.workspaces.rows ++ [row] ∧ row.id = id ∧ row.name = name := by
  let row := CreateWorkspaceRequest.row ⟨name, none, none, none⟩ id 0
  have hrows := Indexed.rows_append (t := c.workspaces) (r := row) ⟨hid, hname⟩
  refine ⟨c.addWorkspace row ⟨hid, hname⟩, row, { SameView.refl w c with workspaces := ?_ }, rfl, rfl,
    hrows, rfl, rfl⟩
  exact (own_append_of_ne hw).symm.trans (congrArg _ hrows.symm)

/-- Another workspace comes in, under a name of its own. -/
theorem exists_new_workspace (hid : id ∉ c.workspaces.rows.map WorkspaceRow.id) (hw : id ≠ w) :
    ∃ c' row, SameView w c c' ∧ c'.groups = c.groups ∧ c'.bizTags = c.bizTags ∧
      c'.workspaces.rows = c.workspaces.rows ++ [row] ∧ row.id = id := by
  obtain ⟨name, hname⟩ :=
    Infinite.exists_notMem_finset (c.workspaces.rows.map WorkspaceRow.name).toFinset
  rw [List.mem_toFinset] at hname
  obtain ⟨c', row, h, hgroups, htags, hrows, hid, -⟩ := exists_workspace hid hname hw
  exact ⟨c', row, h, hgroups, htags, hrows, hid⟩

/-- Another workspace gets a group. -/
theorem exists_group {x : Uuid} (hx : x ∈ c.workspaces.rows.map WorkspaceRow.id)
    (hid : id ∉ c.groups.rows.map GroupRow.id) (hw : x ≠ w) :
    ∃ c' group, SameView w c c' ∧ c'.workspaces = c.workspaces ∧ c'.bizTags = c.bizTags ∧
      c'.groups.rows = c.groups.rows ++ [group] ∧ group.id = id ∧ group.workspaceId = x := by
  obtain ⟨name, hname⟩ := Infinite.exists_notMem_finset (c.groups.rows.map GroupRow.name).toFinset
  rw [List.mem_toFinset] at hname
  let group := CreateGroupRequest.row ⟨x, name, none, none⟩ id 0
  have hindex : group.index ∉ c.groups.rows.map GroupRow.index := by
    intro hmem
    obtain ⟨other, hother, heq⟩ := List.mem_map.mp hmem
    exact hname (List.mem_map.mpr ⟨other, hother, congrArg Prod.snd heq⟩)
  have hrows := Indexed.rows_append (t := c.groups) (r := group) ⟨hid, hindex⟩
  refine ⟨c.addGroup group ⟨hx, hid, hindex⟩, group, { SameView.refl w c with groups := ?_ }, rfl, rfl,
    hrows, rfl, rfl⟩
  exact (own_append_of_ne hw).symm.trans (congrArg _ hrows.symm)

/-- Another workspace gets a biz tag. -/
theorem exists_bizTag {x groupId : Uuid} (hx : x ∈ c.workspaces.rows.map WorkspaceRow.id)
    (hgroup : groupId ∈ c.groups.rows.map GroupRow.id)
    (hid : id ∉ c.bizTags.rows.map BizTagRow.id) (hw : x ≠ w) :
    ∃ c' tag, SameView w c c' ∧ c'.workspaces = c.workspaces ∧ c'.groups = c.groups ∧
      c'.bizTags.rows = c.bizTags.rows ++ [tag] ∧ tag.id = id ∧ tag.workspaceId = x := by
  obtain ⟨name, hname⟩ := Infinite.exists_notMem_finset (c.bizTags.rows.map BizTagRow.name).toFinset
  rw [List.mem_toFinset] at hname
  let tag := CreateBizTagRequest.row ⟨x, groupId, name, none, none, none, none, none, none, none⟩ id 0
  have hindex : tag.index ∉ c.bizTags.rows.map BizTagRow.index := by
    intro hmem
    obtain ⟨other, hother, heq⟩ := List.mem_map.mp hmem
    exact hname (List.mem_map.mpr ⟨other, hother, congrArg (fun index => index.2.2) heq⟩)
  have hrows := Indexed.rows_append (t := c.bizTags) (r := tag) ⟨hid, hindex⟩
  refine ⟨c.addBizTag tag ⟨hx, hgroup, hid, hindex⟩, tag, { SameView.refl w c with bizTags := ?_ },
    rfl, rfl, hrows, rfl, rfl⟩
  exact (own_append_of_ne hw).symm.trans (congrArg _ hrows.symm)

/-- No other workspace has the name. -/
theorem exists_unnamed {name : String}
    (hname : ∀ row ∈ own WorkspaceRow.id w c.workspaces.rows, row.name ≠ name) :
    ∃ c', SameView w c c' ∧ c'.groups = c.groups ∧ c'.bizTags = c.bizTags ∧
      c'.workspaces.rows.map WorkspaceRow.id = c.workspaces.rows.map WorkspaceRow.id ∧
      name ∉ c'.workspaces.rows.map WorkspaceRow.name := by
  obtain ⟨name', hname'⟩ :=
    Infinite.exists_notMem_finset (name :: c.workspaces.rows.map WorkspaceRow.name).toFinset
  rw [List.mem_toFinset, List.mem_cons, not_or] at hname'
  refine ⟨c.renameWorkspace name name' hname'.2, { SameView.refl w c with workspaces := ?_ }, rfl, rfl,
    Catalog.ids_renameWorkspace hname'.2,
    Catalog.not_mem_renameWorkspace hname'.2 (Ne.symm hname'.1)⟩
  refine (own_map_of (f := Rows.setRow WorkspaceRow.name name fun r => { r with name := name' })
    (Rows.apply_setRow fun _ => rfl) fun r hr hw => ?_).symm
  exact if_neg (hname r (mem_own.mpr ⟨hr, hw⟩))

/-- A group of another workspace is gone, and the biz tags in it. -/
theorem exists_without_group {groupId : Uuid}
    (hgroup : ∀ g ∈ own GroupRow.workspaceId w c.groups.rows, g.id ≠ groupId)
    (htags : ∀ b ∈ own BizTagRow.workspaceId w c.bizTags.rows, b.groupId ≠ groupId) :
    ∃ c', SameView w c c' ∧ c'.workspaces = c.workspaces ∧
      groupId ∉ c'.groups.rows.map GroupRow.id ∧ c'.bizTags.rows ⊆ c.bizTags.rows := by
  refine ⟨c.dropGroup groupId, { SameView.refl w c with groups := ?_, bizTags := ?_ }, rfl, ?_,
    fun b hb => List.mem_of_mem_filter hb⟩
  · refine (own_filter_of fun g hg hw => ?_).symm
    exact decide_eq_true (hgroup g (mem_own.mpr ⟨hg, hw⟩))
  · refine (own_filter_of fun b hb hw => ?_).symm
    exact decide_eq_true (htags b (mem_own.mpr ⟨hb, hw⟩))
  · intro hmem
    obtain ⟨g, hg, hid⟩ := List.mem_map.mp hmem
    exact of_decide_eq_true (List.mem_filter.mp hg).2 hid

/-- A biz tag of another workspace is gone. -/
theorem exists_without_bizTag (htags : ∀ b ∈ own BizTagRow.workspaceId w c.bizTags.rows, b.id ≠ id) :
    ∃ c', SameView w c c' ∧ c'.workspaces = c.workspaces ∧ c'.groups = c.groups ∧
      id ∉ c'.bizTags.rows.map BizTagRow.id := by
  refine ⟨c.keepBizTags fun b => b.id ≠ id, { SameView.refl w c with bizTags := ?_ }, rfl, rfl, ?_⟩
  · refine (own_filter_of fun b hb hw => ?_).symm
    exact decide_eq_true (htags b (mem_own.mpr ⟨hb, hw⟩))
  · intro hmem
    obtain ⟨b, hb, hid⟩ := List.mem_map.mp hmem
    exact of_decide_eq_true (List.mem_filter.mp hb).2 hid

end SeaOrmRepository

end NebulaId
