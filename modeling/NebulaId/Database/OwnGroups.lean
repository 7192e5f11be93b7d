import NebulaId.Machine.Along
import NebulaId.Database.Statements

/-!
# Biz tags and the workspaces of their groups (`core/database/repository.rs`)

A biz tag names its workspace and its group. The schema checks that there are such rows, and
`create_biz_tag` looks for them too; that the group belongs to the workspace nobody checks.

* `consistent_serve_iff`: only the insertion of a biz tag can break the agreement.
* `own_groups_iff`: along every interleaving of the calls each biz tag is in a group of its own
  workspace if and only if each biz tag that is inserted names such a group.
* `foreign_group_accepted`: four calls, one after another, that end with a biz tag in the group of
  another workspace.
-/

namespace NebulaId

open Store Machine

namespace SeaOrmRepository

namespace Catalog

def HasGroup (c : Catalog) (groupId workspaceId : Uuid) : Prop :=
  ∃ g ∈ c.groups.rows, g.id = groupId ∧ g.workspaceId = workspaceId

instance (c : Catalog) (groupId workspaceId : Uuid) : Decidable (c.HasGroup groupId workspaceId) :=
  inferInstanceAs (Decidable (∃ g ∈ c.groups.rows, _))

/-- Each biz tag is in a group of its workspace. -/
def Consistent (c : Catalog) : Prop := ∀ b ∈ c.bizTags.rows, c.HasGroup b.groupId b.workspaceId

instance (c : Catalog) : Decidable c.Consistent :=
  inferInstanceAs (Decidable (∀ b ∈ c.bizTags.rows, _))

theorem consistent_empty : empty.Consistent := fun _ h => absurd h List.not_mem_nil

variable {c : Catalog}

theorem Consistent.addGroup {group : GroupRow} (hc : c.Consistent) (h : c.NewGroup group) :
    (c.addGroup group h).Consistent := by
  intro b hb
  obtain ⟨g, hg, hplace⟩ := hc b hb
  refine ⟨g, ?_, hplace⟩
  rw [Catalog.addGroup, Indexed.rows_append]
  exact List.mem_append_left _ hg

theorem Consistent.addBizTag_iff {tag : BizTagRow} (hc : c.Consistent) (h : c.NewBizTag tag) :
    (c.addBizTag tag h).Consistent ↔ c.HasGroup tag.groupId tag.workspaceId := by
  have hrows : (c.addBizTag tag h).bizTags.rows = c.bizTags.rows ++ [tag] :=
    Indexed.rows_append h.2.2
  constructor
  · intro hadded
    refine hadded tag ?_
    rw [hrows]
    exact List.mem_append_right _ (List.mem_singleton.mpr rfl)
  · intro hgroup b hb
    rw [hrows] at hb
    rcases List.mem_append.mp hb with hold | hnew
    · exact hc b hold
    · rw [List.mem_singleton.mp hnew]
      exact hgroup

theorem Consistent.setGroup {id : Uuid} {f : GroupRow → GroupRow}
    {hf : ∀ g, (f g).id = g.id ∧ (f g).workspaceId = g.workspaceId} (hc : c.Consistent)
    (h : ((c.groups.rows.map (Rows.setRow GroupRow.id id f)).map GroupRow.index).Nodup) :
    (c.setGroup id f hf h).Consistent := by
  intro b hb
  obtain ⟨g, hg, hid, hworkspace⟩ := hc b hb
  exact ⟨_, List.mem_map_of_mem hg, (Rows.apply_setRow (fun g => (hf g).1) g).trans hid,
    (Rows.apply_setRow (fun g => (hf g).2) g).trans hworkspace⟩

theorem Consistent.setBizTag {id : Uuid} {f : BizTagRow → BizTagRow}
    {hf : ∀ b, (f b).id = b.id ∧ (f b).workspaceId = b.workspaceId ∧ (f b).groupId = b.groupId}
    (hc : c.Consistent)
    (h : ((c.bizTags.rows.map (Rows.setRow BizTagRow.id id f)).map BizTagRow.index).Nodup) :
    (c.setBizTag id f hf h).Consistent := by
  intro b hb
  obtain ⟨b', hb', rfl⟩ := List.mem_map.mp hb
  rw [Rows.apply_setRow fun b => (hf b).2.1, Rows.apply_setRow fun b => (hf b).2.2]
  exact hc b' hb'

theorem Consistent.keepBizTags {p : BizTagRow → Bool} (hc : c.Consistent) :
    (c.keepBizTags p).Consistent := fun b hb => hc b (List.mem_of_mem_filter hb)

theorem Consistent.dropGroup {id : Uuid} (hc : c.Consistent) : (c.dropGroup id).Consistent := by
  intro b hb
  obtain ⟨hmem, hne⟩ := List.mem_filter.mp hb
  obtain ⟨g, hg, hid, hworkspace⟩ := hc b hmem
  refine ⟨g, List.mem_filter.mpr ⟨hg, ?_⟩, hid, hworkspace⟩
  rw [hid]
  exact hne

theorem Consistent.dropWorkspace {id : Uuid} (hc : c.Consistent) :
    (c.dropWorkspace id).Consistent := by
  intro b hb
  obtain ⟨hmem, hapart⟩ := List.mem_filter.mp hb
  obtain ⟨g, hg, hid, hworkspace⟩ := hc b hmem
  refine ⟨g, List.mem_filter.mpr ⟨hg, ?_⟩, hid, hworkspace⟩
  rw [hworkspace]
  exact decide_eq_true (of_decide_eq_true hapart).1

end Catalog

/-- The database takes the row of the biz tag. -/
def TakesBizTag (i : StatementInput) (c : Catalog) (bizTag : CreateBizTagRequest) : Prop :=
  i.db.failure = none ∧ c.NewBizTag (bizTag.row i.id i.now)

instance (i : StatementInput) (c : Catalog) (bizTag : CreateBizTagRequest) :
    Decidable (TakesBizTag i c bizTag) := inferInstanceAs (Decidable (_ ∧ _))

/-- A biz tag that is inserted names a group of its workspace. -/
def OwnGroup (i : StatementInput) (c : Catalog) : Statement → Prop
  | .insertBizTag bizTag => TakesBizTag i c bizTag → c.HasGroup bizTag.groupId bizTag.workspaceId
  | _ => True

instance (i : StatementInput) (c : Catalog) : ∀ s, Decidable (OwnGroup i c s)
  | .insertBizTag bizTag => inferInstanceAs (Decidable (TakesBizTag i c bizTag → _))
  | .findWorkspace _ | .findWorkspaceByName _ | .findGroup _ | .findBizTag _
  | .insertWorkspace _ | .insertGroup _ | .updateWorkspace _ _ | .updateGroup _ _
  | .updateBizTag _ _ | .deleteWorkspace _ | .deleteGroup _ | .deleteBizTag _
  | .deleteGroupWithBizTags _ => isTrue trivial

variable {c : Catalog} {i : StatementInput}

/-- **A statement** keeps the biz tags in the groups of their workspaces, unless it inserts one into
another group. -/
theorem consistent_serve_iff (hc : c.Consistent) (s : Statement) :
    (serve s i c).2.Consistent ↔ OwnGroup i c s := by
  cases s with
  | insertBizTag bizTag =>
    by_cases htakes : TakesBizTag i c bizTag
    · have hserve : (serve (.insertBizTag bizTag) i c).2 =
          c.addBizTag (bizTag.row i.id i.now) htakes.2 :=
        congrArg Prod.snd (write_of htakes.1 htakes.2)
      rw [hserve, hc.addBizTag_iff]
      exact ⟨fun hgroup _ => hgroup, fun hown => hown htakes⟩
    · have hserve : (serve (.insertBizTag bizTag) i c).2 = c := write_of_not htakes
      rw [hserve]
      exact iff_of_true hc fun htakes' => absurd htakes' htakes
  | findWorkspace id | findWorkspaceByName name | findGroup id | findBizTag id =>
    exact iff_of_true hc trivial
  | insertWorkspace workspace =>
    exact iff_of_true (write_snd (I := Catalog.Consistent) hc fun _ => hc) trivial
  | insertGroup group => exact iff_of_true (write_snd hc hc.addGroup) trivial
  | updateWorkspace workspace existing =>
    exact iff_of_true (update_snd (I := Catalog.Consistent) hc fun _ => hc) trivial
  | updateGroup group existing => exact iff_of_true (update_snd hc hc.setGroup) trivial
  | updateBizTag bizTag existing => exact iff_of_true (update_snd hc hc.setBizTag) trivial
  | deleteWorkspace id => exact iff_of_true (remove_snd hc hc.dropWorkspace) trivial
  | deleteGroup id => exact iff_of_true (remove_snd hc hc.dropGroup) trivial
  | deleteBizTag id => exact iff_of_true (remove_snd hc hc.keepBizTags) trivial
  | deleteGroupWithBizTags id => exact iff_of_true (write_snd hc fun _ => hc.dropGroup) trivial

/-- **Biz tags stay inside their workspace**, in every interleaving, if and only if each one that is
inserted names a group of its workspace. -/
theorem own_groups_iff (c : Catalog) (hc : c.Consistent) (run : List TenantAct) :
    EachStep tenants (fun _ _ w' => w'.shared.Consistent) ⟨c, []⟩ run ↔
      EachStep tenants (fun w act _ => TenantAct.Meets OwnGroup w act) ⟨c, []⟩ run :=
  eachStep_iff_of_invariant (I := fun w => w.shared.Consistent) hc
    fun _ _ _ hw hstep => meets_iff (P := fun _ c' => c'.Consistent) hw
      (fun s _ => consistent_serve_iff hw s) hstep

/-! ## Two runs -/

/-- The database has nothing to object, and the new row gets this id. -/
def accepting (id : Uuid) : StatementInput := ⟨⟨none, ""⟩, 0, id⟩

/-- Two workspaces, and a group in the first one. -/
def twoWorkspaces : List TenantAct :=
  [.spawn (.createWorkspace ⟨"a", none, none, none⟩), .move 0 (accepting 1),
    .spawn (.createWorkspace ⟨"b", none, none, none⟩), .move 1 (accepting 2),
    .spawn (.createGroup ⟨1, "g", none, none⟩), .move 2 (accepting 0), .move 2 (accepting 3)]

/-- A biz tag of the workspace in the group of the first one. -/
def bizTagIn (workspaceId : Uuid) : List TenantAct :=
  [.spawn (.createBizTag ⟨workspaceId, 3, "t", none, none, none, none, none, none, none⟩),
    .move 3 (accepting 0), .move 3 (accepting 0), .move 3 (accepting 4)]

theorem own_group_accepted : EachStep tenants (fun _ _ w' => w'.shared.Consistent) ⟨.empty, []⟩
    (twoWorkspaces ++ bizTagIn 1) := by
  refine (own_groups_iff .empty Catalog.consistent_empty _).mpr ?_
  decide +kernel

/-- The biz tag of the second workspace is in the group of the first. -/
theorem foreign_group_accepted : ∃ w, Reaches tenants Free ⟨.empty, []⟩ w ∧
    ¬ w.shared.Consistent := by
  have hrun : ((run tenants ⟨.empty, []⟩ (twoWorkspaces ++ bizTagIn 2)).map fun w =>
      decide w.shared.Consistent) = some false := by decide +kernel
  obtain ⟨w, hw, hfalse⟩ := Option.map_eq_some_iff.mp hrun
  exact ⟨w, reaches_of_run hw, of_decide_eq_false hfalse⟩

end SeaOrmRepository

end NebulaId
