import NebulaId.Database.Tenants
import NebulaId.Store.Joins

/-!
# Workspaces with what is in them (`core/database/repository.rs`)

`get_workspace_with_groups_and_biz_tags` joins a workspace with its groups, reads the biz tags of
all of them at once and puts them together by group. The plain way asks for the groups of the
workspace, and for the biz tags of one group after another.

* `view_eager`, `view_plain`: either way the answer is what the tables have (`contents`).
* `eager_agrees`: so the two agree, up to the order in which rows come.
-/

namespace NebulaId

open Store

namespace SeaOrmRepository

variable (db : Replies) (orders : Orders) (statement : ℕ) (c : Catalog) (id : Uuid)

/-- `.all(&self.db)` -/
def all {ρ : Type} (rows : List ρ) : Result (List ρ) :=
  query db statement (orders.arrange statement rows)

def getWorkspaceWithGroups : Result (Option (Workspace × List Group)) :=
  match query db statement (c.workspaces.find id) with
  | .error e => .error e
  | .ok none => .ok none
  | .ok (some ws) =>
    match all db orders (statement + 1) (own GroupRow.workspaceId id c.groups.rows) with
    | .error e => .error e
    | .ok groups => .ok (some (ws.toWorkspace, groups.map GroupRow.toGroup))

def getGroupWithBizTags : Result (Option (Group × List BizTag)) :=
  match query db statement (c.groups.find id) with
  | .error e => .error e
  | .ok none => .ok none
  | .ok (some g) =>
    match all db orders (statement + 1) (own BizTagRow.groupId id c.bizTags.rows) with
    | .error e => .error e
    | .ok bizTags => .ok (some (g.toGroup, bizTags.map BizTagRow.toBizTag))

def getWorkspaceWithGroupsAndBizTags : Result (Option (Workspace × List (Group × List BizTag))) :=
  match all db orders statement (leftJoin WorkspaceRow.id GroupRow.workspaceId
      (own WorkspaceRow.id id c.workspaces.rows) c.groups.rows) with
  | .error e => .error e
  | .ok [] => .ok none
  | .ok ((workspaceEntity, first) :: more) =>
    let withRelations := (workspaceEntity, first) :: more
    let groupIds := withRelations.filterMap fun row => row.2.map GroupRow.id
    match all db orders (statement + 1) (c.bizTags.rows.filter fun b => b.groupId ∈ groupIds) with
    | .error e => .error e
    | .ok models =>
      let byGroup := groupBy BizTagRow.groupId BizTagRow.toBizTag models
      .ok (some (workspaceEntity.toWorkspace, withRelations.filterMap fun row =>
        row.2.map fun group => (group.toGroup, (byGroup.lookup group.id).getD [])))

/-- One group after another; a group that is not there is left out. -/
def eachGroup : ℕ → List Group → Result (List (Group × List BizTag))
  | _, [] => .ok []
  | n, group :: groups =>
    match getGroupWithBizTags db orders n c group.id with
    | .error e => .error e
    | .ok found => (eachGroup (n + 2) groups).map (found.toList ++ ·)

/-- `get_workspace_with_groups`, and `get_group_with_biz_tags` on each group. -/
def plainQueries : Result (Option (Workspace × List (Group × List BizTag))) :=
  match getWorkspaceWithGroups db orders statement c id with
  | .error e => .error e
  | .ok none => .ok none
  | .ok (some (workspace, groups)) =>
    (eachGroup db orders c (statement + 2) groups).map fun loaded => some (workspace, loaded)

/-! ## What the tables have -/

abbrev Contents := Workspace × Multiset (Group × Multiset BizTag)

/-- The order of the rows aside. -/
def view (answer : Workspace × List (Group × List BizTag)) : Contents :=
  (answer.1, ↑(answer.2.map fun loaded => (loaded.1, (loaded.2 : Multiset BizTag))))

def tagsOf (groupId : Uuid) : Multiset BizTag :=
  ↑((own BizTagRow.groupId groupId c.bizTags.rows).map BizTagRow.toBizTag)

def contents : Option Contents :=
  (c.workspaces.find id).map fun ws => (ws.toWorkspace,
    ↑((own GroupRow.workspaceId id c.groups.rows).map fun g => (g.toGroup, tagsOf c g.id)))

variable {db : Replies} {orders : Orders} {statement : ℕ} {c : Catalog} {id : Uuid}

theorem query_eq_ok {α : Type} {answer found : α} :
    query db statement answer = .ok found ↔ (db statement).failure = none ∧ answer = found := by
  unfold query
  cases (db statement).failure with
  | none => exact ⟨fun h => ⟨rfl, Except.ok.inj h⟩, fun h => congrArg _ h.2⟩
  | some e => exact ⟨by rintro ⟨⟩, by rintro ⟨⟨⟩, -⟩⟩

theorem perm_of_all {ρ : Type} {rows found : List ρ} (h : all db orders statement rows = .ok found) :
    found.Perm rows := by
  rw [← (query_eq_ok.mp h).2]
  exact orders.perm statement rows

theorem tags_of_perm {models : List BizTagRow} {groupIds : List Uuid} {groupId : Uuid}
    (h : models.Perm (c.bizTags.rows.filter fun b => b.groupId ∈ groupIds))
    (hgroup : groupId ∈ groupIds) :
    (((own BizTagRow.groupId groupId models).map BizTagRow.toBizTag : List BizTag) :
      Multiset BizTag) = tagsOf c groupId := by
  have hown : (own BizTagRow.groupId groupId models).Perm
      (own BizTagRow.groupId groupId c.bizTags.rows) :=
    (h.filter _).trans (List.Perm.of_eq (own_filter_mem hgroup))
  exact Multiset.coe_eq_coe.mpr (hown.map _)

theorem view_getGroupWithBizTags {found : Option (Group × List BizTag)}
    (h : getGroupWithBizTags db orders statement c id = .ok found) :
    found.map (fun loaded => (loaded.1, (loaded.2 : Multiset BizTag))) =
      (c.groups.find id).map fun g => (g.toGroup, tagsOf c g.id) := by
  unfold getGroupWithBizTags at h
  split at h
  · cases h
  · rename_i hfind
    cases h
    rw [(query_eq_ok.mp hfind).2]
    rfl
  · rename_i g hfind
    have hfind := (query_eq_ok.mp hfind).2
    obtain ⟨-, rfl⟩ := Rows.find_eq_some.mp hfind
    split at h
    · cases h
    · rename_i bizTags hall
      cases h
      rw [hfind, Option.map_some, Option.map_some]
      exact congrArg some (Prod.ext rfl (Multiset.coe_eq_coe.mpr ((perm_of_all hall).map _)))

/-- The groups that come from the tables are found again, each with its biz tags. -/
theorem view_eachGroup {n : ℕ} {rows : List GroupRow} {loaded : List (Group × List BizTag)}
    (hrows : ∀ g ∈ rows, g ∈ c.groups.rows)
    (h : eachGroup db orders c n (rows.map GroupRow.toGroup) = .ok loaded) :
    loaded.map (fun loaded => (loaded.1, (loaded.2 : Multiset BizTag))) =
      rows.map fun g => (g.toGroup, tagsOf c g.id) := by
  induction rows generalizing n loaded with
  | nil =>
    cases h
    rfl
  | cons g rows ih =>
    have hfind : c.groups.find g.id = some g :=
      Rows.find_eq_some.mpr ⟨hrows g List.mem_cons_self, rfl⟩
    rw [List.map_cons, eachGroup] at h
    split at h
    · cases h
    · rename_i found hfound
      have hview := view_getGroupWithBizTags hfound
      cases hrest : eachGroup db orders c (n + 2) (rows.map GroupRow.toGroup) with
      | error e =>
        rw [hrest] at h
        cases h
      | ok rest =>
        rw [hrest] at h
        cases h
        rw [show c.groups.find g.toGroup.id = some g from hfind, Option.map_some] at hview
        cases found with
        | none => cases hview
        | some first =>
          exact congrArg₂ List.cons (Option.some.inj hview)
            (ih (fun g hg => hrows g (List.mem_cons_of_mem _ hg)) hrest)

/-- **The plain way** has what the tables have. -/
theorem view_plain {answer : Option (Workspace × List (Group × List BizTag))}
    (h : plainQueries db orders statement c id = .ok answer) :
    answer.map view = contents c id := by
  unfold plainQueries getWorkspaceWithGroups at h
  cases hws : query db statement (c.workspaces.find id) with
  | error e =>
    rw [hws] at h
    cases h
  | ok found =>
    rw [hws] at h
    rw [contents, (query_eq_ok.mp hws).2]
    cases found with
    | none =>
      cases h
      rfl
    | some ws =>
      dsimp only at h
      cases hall : all db orders (statement + 1) (own GroupRow.workspaceId id c.groups.rows) with
      | error e =>
        rw [hall] at h
        cases h
      | ok groups =>
        rw [hall] at h
        dsimp only at h
        cases hloaded : eachGroup db orders c (statement + 2) (groups.map GroupRow.toGroup) with
        | error e =>
          rw [hloaded] at h
          cases h
        | ok loaded =>
          rw [hloaded] at h
          cases h
          have hperm := perm_of_all hall
          have hview := view_eachGroup
            (fun g hg => (mem_own.mp (hperm.mem_iff.mp hg)).1) hloaded
          rw [Option.map_some, Option.map_some]
          refine congrArg some (Prod.ext rfl ?_)
          rw [view, hview]
          exact Multiset.coe_eq_coe.mpr (hperm.map _)

/-- **The join** has what the tables have. -/
theorem view_eager {answer : Option (Workspace × List (Group × List BizTag))}
    (h : getWorkspaceWithGroupsAndBizTags db orders statement c id = .ok answer) :
    answer.map view = contents c id := by
  unfold getWorkspaceWithGroupsAndBizTags at h
  rw [own_key] at h
  split at h
  · cases h
  · rename_i hjoin
    cases h
    have hnil := leftJoin_eq_nil_iff.mp (perm_of_all hjoin).symm.eq_nil
    rw [Option.toList_eq_nil_iff] at hnil
    rw [contents, hnil]
    rfl
  · rename_i workspaceEntity first more hjoin
    have hperm := perm_of_all hjoin
    have hws := fst_of_mem_leftJoin (hperm.mem_iff.mp List.mem_cons_self)
    have hfind : c.workspaces.find id = some workspaceEntity := Option.mem_toList.mp hws
    obtain ⟨-, rfl⟩ := Rows.find_eq_some.mp hfind
    rw [hfind, Option.toList_some] at hperm
    dsimp only at h
    split at h
    · cases h
    · rename_i models hall
      cases h
      have hmodels := perm_of_all hall
      have hbrought : ∀ {γ : Type} (f : GroupRow → γ),
          (((workspaceEntity, first) :: more).filterMap fun row => row.2.map f).Perm
            ((own GroupRow.workspaceId workspaceEntity.id c.groups.rows).map f) := by
        intro γ f
        have hjoined := hperm.filterMap fun row => row.2.map f
        rwa [filterMap_leftJoin, List.flatMap_singleton] at hjoined
      rw [contents, hfind, Option.map_some, Option.map_some]
      refine congrArg some (Prod.ext rfl ?_)
      simp only [view, getD_lookup_groupBy]
      rw [List.map_filterMap]
      simp only [Option.map_map, Function.comp_def]
      rw [Multiset.coe_eq_coe]
      refine (hbrought _).trans (List.Perm.of_eq (List.map_congr_left fun g hg => ?_))
      refine Prod.ext rfl (tags_of_perm hmodels ?_)
      exact (hbrought GroupRow.id).mem_iff.mpr (List.mem_map_of_mem hg)

/-! ## No statement fails -/

theorem query_of_success {α : Type} (h : (db statement).failure = none) (answer : α) :
    query db statement answer = .ok answer := query_eq_ok.mpr ⟨h, rfl⟩

theorem all_of_success {ρ : Type} (h : (db statement).failure = none) (rows : List ρ) :
    all db orders statement rows = .ok (orders.arrange statement rows) := query_of_success h _

theorem eager_missing_iff : getWorkspaceWithGroupsAndBizTags db orders statement c id = .ok none ↔
    (db statement).failure = none ∧ id ∉ c.workspaces.rows.map WorkspaceRow.id := by
  constructor
  · intro h
    have hview := view_eager h
    rw [Option.map_none, contents, eq_comm, Option.map_eq_none_iff] at hview
    refine ⟨?_, Rows.find_eq_none.mp hview⟩
    unfold getWorkspaceWithGroupsAndBizTags at h
    split at h
    · cases h
    · exact (query_eq_ok.mp ‹_›).1
    · exact (query_eq_ok.mp ‹_›).1
  · rintro ⟨hdb, hmissing⟩
    have hnil : own WorkspaceRow.id id c.workspaces.rows = [] := own_eq_nil_iff.mpr hmissing
    unfold getWorkspaceWithGroupsAndBizTags
    rw [all_of_success hdb, hnil, leftJoin_nil, (orders.perm statement []).eq_nil]

theorem exists_eager (hdb : ∀ n, (db n).failure = none) :
    ∃ answer, getWorkspaceWithGroupsAndBizTags db orders statement c id = .ok answer := by
  unfold getWorkspaceWithGroupsAndBizTags
  rw [all_of_success (hdb _)]
  split
  · rename_i h
    cases h
  · exact ⟨_, rfl⟩
  · dsimp only
    rw [all_of_success (hdb _)]
    exact ⟨_, rfl⟩

theorem exists_eachGroup (hdb : ∀ n, (db n).failure = none) (n : ℕ) (groups : List Group) :
    ∃ loaded, eachGroup db orders c n groups = .ok loaded := by
  induction groups generalizing n with
  | nil => exact ⟨_, rfl⟩
  | cons group groups ih =>
    obtain ⟨rest, hrest⟩ := ih (n + 2)
    rw [eachGroup, getGroupWithBizTags, query_of_success (hdb _), hrest]
    cases c.groups.find group.id with
    | none => exact ⟨_, rfl⟩
    | some g =>
      rw [all_of_success (hdb _)]
      exact ⟨_, rfl⟩

theorem exists_plain (hdb : ∀ n, (db n).failure = none) :
    ∃ answer, plainQueries db orders statement c id = .ok answer := by
  rw [plainQueries, getWorkspaceWithGroups, query_of_success (hdb _)]
  cases c.workspaces.find id with
  | none => exact ⟨_, rfl⟩
  | some ws =>
    dsimp only
    rw [all_of_success (hdb _)]
    dsimp only
    obtain ⟨loaded, hloaded⟩ := exists_eachGroup hdb (statement + 2)
      ((orders.arrange (statement + 1) (own GroupRow.workspaceId id c.groups.rows)).map
        GroupRow.toGroup)
    rw [hloaded]
    exact ⟨_, rfl⟩

/-- What a workspace has, with the rows of the tables. -/
theorem rows_of_view {workspace : Workspace} {groups : List (Group × List BizTag)}
    (h : some (view (workspace, groups)) = contents c id) :
    (∃ row ∈ c.workspaces.rows, row.id = id ∧ workspace = row.toWorkspace) ∧
    (groups.map Prod.fst).Perm
      ((own GroupRow.workspaceId id c.groups.rows).map GroupRow.toGroup) ∧
    (groups.map fun loaded => loaded.1.id).Nodup ∧
    ∀ loaded ∈ groups, loaded.2.Perm
      ((own BizTagRow.groupId loaded.1.id c.bizTags.rows).map BizTagRow.toBizTag) := by
  obtain ⟨ws, hfind, hcontents⟩ := Option.map_eq_some_iff.mp h.symm
  obtain ⟨hws, hgroups⟩ := Prod.mk.inj hcontents
  obtain ⟨hmem, hid⟩ := Rows.find_eq_some.mp hfind
  have hperm := Multiset.coe_eq_coe.mp hgroups
  have hfirst : (groups.map Prod.fst).Perm
      ((own GroupRow.workspaceId id c.groups.rows).map GroupRow.toGroup) := by
    have hmap := (hperm.map Prod.fst).symm
    rwa [List.map_map, List.map_map] at hmap
  refine ⟨⟨ws, hmem, hid, hws.symm⟩, hfirst, ?_, fun loaded hloaded => ?_⟩
  · have hids : (own GroupRow.workspaceId id c.groups.rows |>.map GroupRow.id).Nodup :=
      c.groups.nodup.sublist (List.filter_sublist.map _)
    have hmap := hfirst.map Group.id
    rw [List.map_map, List.map_map] at hmap
    exact hmap.nodup_iff.mpr hids
  · have hin := hperm.mem_iff.mpr (List.mem_map_of_mem hloaded)
    obtain ⟨g, -, heq⟩ := List.mem_map.mp hin
    obtain ⟨hgroup, htags⟩ := Prod.mk.inj heq
    rw [← hgroup]
    exact Multiset.coe_eq_coe.mp htags.symm

/-- **The join and the plain way agree**: there is no answer exactly when there is no workspace, and
else it has the workspace, each of its groups once, and with each group its biz tags. -/
theorem eager_agrees (db : Replies) (orders : Orders) (statement : ℕ) (c : Catalog) (id : Uuid) :
    (getWorkspaceWithGroupsAndBizTags db orders statement c id = .ok none ↔
      (db statement).failure = none ∧ id ∉ c.workspaces.rows.map WorkspaceRow.id) ∧
    (∀ workspace groups,
      getWorkspaceWithGroupsAndBizTags db orders statement c id = .ok (some (workspace, groups)) →
      (∃ row ∈ c.workspaces.rows, row.id = id ∧ workspace = row.toWorkspace) ∧
      (groups.map Prod.fst).Perm
        ((own GroupRow.workspaceId id c.groups.rows).map GroupRow.toGroup) ∧
      (groups.map fun loaded => loaded.1.id).Nodup ∧
      ∀ loaded ∈ groups, loaded.2.Perm
        ((own BizTagRow.groupId loaded.1.id c.bizTags.rows).map BizTagRow.toBizTag)) ∧
    ((∀ n, (db n).failure = none) →
      (∃ answer, getWorkspaceWithGroupsAndBizTags db orders statement c id = .ok answer) ∧
      ∃ answer, plainQueries db orders statement c id = .ok answer) ∧
    ∀ db' orders' statement' answer answer',
      getWorkspaceWithGroupsAndBizTags db orders statement c id = .ok answer →
      plainQueries db' orders' statement' c id = .ok answer' →
      answer.map view = answer'.map view := by
  refine ⟨eager_missing_iff, fun workspace groups h => rows_of_view (view_eager h),
    fun hdb => ⟨exists_eager hdb, exists_plain hdb⟩, ?_⟩
  intro db' orders' statement' answer answer' heager hplain
  rw [view_eager heager, view_plain hplain]

end SeaOrmRepository

end NebulaId
