import NebulaId.Database.OwnGroups

/-!
# The limits of workspaces and groups (`core/database/repository.rs`, `server/config/management.rs`)

A workspace has a limit for its groups and one for its biz tags, and a group one for its biz tags.
They are stored, changed and shown; no call compares them with anything.

* `quotasKept_serve_iff`: a statement keeps the limits unless it inserts a row where there is no room.
* `quotas_iff`: along every interleaving of the calls the limits are kept if and only if each row
  that is inserted finds room for it.
* `second_group_taken`: a workspace for one group with two.
-/

namespace NebulaId

open Store Machine

namespace SeaOrmRepository

/-! ## Numbers and limits -/

namespace Catalog

def groupCount (c : Catalog) (workspaceId : Uuid) : ℕ :=
  (own GroupRow.workspaceId workspaceId c.groups.rows).length

def bizTagCount (c : Catalog) (workspaceId : Uuid) : ℕ :=
  (own BizTagRow.workspaceId workspaceId c.bizTags.rows).length

/-- `count_biz_tags_by_group` -/
def groupBizTagCount (c : Catalog) (groupId : Uuid) : ℕ :=
  (own BizTagRow.groupId groupId c.bizTags.rows).length

end Catalog

/-- The number after a step is within the limit, or the row was there and has no more than before. -/
def Capped (limit : Int32) (old : Prop) (before after : ℕ) : Prop :=
  (after : ℤ) ≤ limit.toInt ∨ old ∧ after ≤ before

instance (limit : Int32) (old : Prop) [Decidable old] (before after : ℕ) :
    Decidable (Capped limit old before after) := inferInstanceAs (Decidable (_ ∨ _))

theorem capped_of_le {limit : Int32} {old : Prop} {before after : ℕ} (hold : old)
    (h : after ≤ before) : Capped limit old before after := Or.inr ⟨hold, h⟩

theorem capped_succ_iff {limit : Int32} {old : Prop} {n : ℕ} :
    Capped limit old n (n + 1) ↔ (n : ℤ) < limit.toInt := by
  unfold Capped
  omega

theorem capped_new_iff {limit : Int32} {old : Prop} {n : ℕ} (hnew : ¬ old) :
    Capped limit old n 0 ↔ 0 ≤ limit.toInt := by
  unfold Capped
  simp [hnew]

/-- No limit is exceeded by a new row. -/
structure QuotasKept (c c' : Catalog) : Prop where
  groups : ∀ w ∈ c'.workspaces.rows, Capped w.maxGroups (w.id ∈ c.workspaces.rows.map WorkspaceRow.id)
    (c.groupCount w.id) (c'.groupCount w.id)
  bizTags : ∀ w ∈ c'.workspaces.rows, Capped w.maxBizTags
    (w.id ∈ c.workspaces.rows.map WorkspaceRow.id) (c.bizTagCount w.id) (c'.bizTagCount w.id)
  groupBizTags : ∀ g ∈ c'.groups.rows, Capped g.maxBizTags (g.id ∈ c.groups.rows.map GroupRow.id)
    (c.groupBizTagCount g.id) (c'.groupBizTagCount g.id)

instance (c c' : Catalog) : Decidable (QuotasKept c c') :=
  decidable_of_iff (_ ∧ _ ∧ _)
    ⟨fun h => ⟨h.1, h.2.1, h.2.2⟩, fun h => ⟨h.groups, h.bizTags, h.groupBizTags⟩⟩

/-- All numbers are within their limits. -/
structure Catalog.Within (c : Catalog) : Prop where
  groups : ∀ w ∈ c.workspaces.rows, (c.groupCount w.id : ℤ) ≤ w.maxGroups.toInt
  bizTags : ∀ w ∈ c.workspaces.rows, (c.bizTagCount w.id : ℤ) ≤ w.maxBizTags.toInt
  groupBizTags : ∀ g ∈ c.groups.rows, (c.groupBizTagCount g.id : ℤ) ≤ g.maxBizTags.toInt

/-- No limit is set below the number there is. -/
structure NotLowered (c c' : Catalog) : Prop where
  groups : ∀ w ∈ c'.workspaces.rows, (c.groupCount w.id : ℤ) ≤ w.maxGroups.toInt
  bizTags : ∀ w ∈ c'.workspaces.rows, (c.bizTagCount w.id : ℤ) ≤ w.maxBizTags.toInt
  groupBizTags : ∀ g ∈ c'.groups.rows, (c.groupBizTagCount g.id : ℤ) ≤ g.maxBizTags.toInt

variable {c c' : Catalog} {i : StatementInput}

theorem Capped.within {limit : Int32} {old : Prop} {before after : ℕ}
    (h : Capped limit old before after) (hbefore : (before : ℤ) ≤ limit.toInt) :
    (after : ℤ) ≤ limit.toInt := by
  rcases h with hafter | ⟨-, hle⟩
  · exact hafter
  · omega

theorem within_of_kept (h : QuotasKept c c') (hlow : NotLowered c c') : c'.Within where
  groups w hw := (h.groups w hw).within (hlow.groups w hw)
  bizTags w hw := (h.bizTags w hw).within (hlow.bizTags w hw)
  groupBizTags g hg := (h.groupBizTags g hg).within (hlow.groupBizTags g hg)

/-! ## What a statement does to the numbers -/

/-- There are no new workspaces and groups, and no more rows in them. -/
structure NoMore (c c' : Catalog) : Prop where
  workspaces : ∀ w ∈ c'.workspaces.rows, w.id ∈ c.workspaces.rows.map WorkspaceRow.id
  groups : ∀ g ∈ c'.groups.rows, g.id ∈ c.groups.rows.map GroupRow.id
  groupCount : ∀ workspaceId, c'.groupCount workspaceId ≤ c.groupCount workspaceId
  bizTagCount : ∀ workspaceId, c'.bizTagCount workspaceId ≤ c.bizTagCount workspaceId
  groupBizTagCount : ∀ groupId, c'.groupBizTagCount groupId ≤ c.groupBizTagCount groupId

theorem NoMore.kept (h : NoMore c c') : QuotasKept c c' where
  groups w hw := capped_of_le (h.workspaces w hw) (h.groupCount w.id)
  bizTags w hw := capped_of_le (h.workspaces w hw) (h.bizTagCount w.id)
  groupBizTags g hg := capped_of_le (h.groups g hg) (h.groupBizTagCount g.id)

theorem length_own_filter_le {ρ ω : Type} [DecidableEq ω] {owner : ρ → ω} {w : ω} {rows : List ρ}
    {p : ρ → Bool} : (own owner w (rows.filter p)).length ≤ (own owner w rows).length :=
  (List.filter_sublist.filter _).length_le

theorem length_own_map {ρ ω : Type} [DecidableEq ω] {owner : ρ → ω} {w : ω} {rows : List ρ}
    {f : ρ → ρ} (hf : ∀ r, owner (f r) = owner r) :
    (own owner w (rows.map f)).length = (own owner w rows).length := by
  rw [own_map hf, List.length_map]

theorem NoMore.refl (c : Catalog) : NoMore c c where
  workspaces _ := List.mem_map_of_mem
  groups _ := List.mem_map_of_mem
  groupCount _ := le_rfl
  bizTagCount _ := le_rfl
  groupBizTagCount _ := le_rfl

theorem noMore_dropGroup (c : Catalog) (id : Uuid) : NoMore c (c.dropGroup id) where
  workspaces _ := List.mem_map_of_mem
  groups _ hg := List.mem_map_of_mem (List.mem_of_mem_filter hg)
  groupCount _ := length_own_filter_le
  bizTagCount _ := length_own_filter_le
  groupBizTagCount _ := length_own_filter_le

theorem noMore_dropWorkspace (c : Catalog) (id : Uuid) : NoMore c (c.dropWorkspace id) where
  workspaces _ hw := List.mem_map_of_mem (List.mem_of_mem_filter hw)
  groups _ hg := List.mem_map_of_mem (List.mem_of_mem_filter hg)
  groupCount _ := length_own_filter_le
  bizTagCount _ := length_own_filter_le
  groupBizTagCount _ := length_own_filter_le

theorem noMore_keepBizTags (c : Catalog) (p : BizTagRow → Bool) : NoMore c (c.keepBizTags p) where
  workspaces _ := List.mem_map_of_mem
  groups _ := List.mem_map_of_mem
  groupCount _ := le_rfl
  bizTagCount _ := length_own_filter_le
  groupBizTagCount _ := length_own_filter_le

theorem mem_keys_of_setRow {κ ρ : Type} [DecidableEq κ] {key : ρ → κ} {rows : List ρ} {k : κ}
    {f : ρ → ρ} (hf : ∀ r, key (f r) = key r) {r : ρ} (hr : r ∈ rows.map (Rows.setRow key k f)) :
    key r ∈ rows.map key := by
  obtain ⟨r', hr', rfl⟩ := List.mem_map.mp hr
  rw [Rows.apply_setRow hf]
  exact List.mem_map_of_mem hr'

theorem noMore_setWorkspace {id : Uuid} {f : WorkspaceRow → WorkspaceRow} {hf h} :
    NoMore c (c.setWorkspace id f hf h) where
  workspaces _ hw := mem_keys_of_setRow hf hw
  groups _ := List.mem_map_of_mem
  groupCount _ := le_rfl
  bizTagCount _ := le_rfl
  groupBizTagCount _ := le_rfl

theorem noMore_setGroup {id : Uuid} {f : GroupRow → GroupRow} {hf h} :
    NoMore c (c.setGroup id f hf h) where
  workspaces _ := List.mem_map_of_mem
  groups _ hg := mem_keys_of_setRow (fun g => (hf g).1) hg
  groupCount _ := (length_own_map (Rows.apply_setRow fun g => (hf g).2)).le
  bizTagCount _ := le_rfl
  groupBizTagCount _ := le_rfl

theorem noMore_setBizTag {id : Uuid} {f : BizTagRow → BizTagRow} {hf h} :
    NoMore c (c.setBizTag id f hf h) where
  workspaces _ := List.mem_map_of_mem
  groups _ := List.mem_map_of_mem
  groupCount _ := le_rfl
  bizTagCount _ := (length_own_map (Rows.apply_setRow fun b => (hf b).2.1)).le
  groupBizTagCount _ := (length_own_map (Rows.apply_setRow fun b => (hf b).2.2)).le

/-! ## Room for a new row -/

def RoomForWorkspace (row : WorkspaceRow) : Prop :=
  0 ≤ row.maxGroups.toInt ∧ 0 ≤ row.maxBizTags.toInt

instance (row : WorkspaceRow) : Decidable (RoomForWorkspace row) :=
  inferInstanceAs (Decidable (_ ∧ _))

def RoomForGroup (c : Catalog) (group : GroupRow) : Prop :=
  (∀ w ∈ c.workspaces.rows, w.id = group.workspaceId →
    (c.groupCount w.id : ℤ) < w.maxGroups.toInt) ∧ 0 ≤ group.maxBizTags.toInt

instance (c : Catalog) (group : GroupRow) : Decidable (RoomForGroup c group) :=
  inferInstanceAs (Decidable (_ ∧ _))

def RoomForBizTag (c : Catalog) (tag : BizTagRow) : Prop :=
  (∀ w ∈ c.workspaces.rows, w.id = tag.workspaceId →
    (c.bizTagCount w.id : ℤ) < w.maxBizTags.toInt) ∧
  ∀ g ∈ c.groups.rows, g.id = tag.groupId → (c.groupBizTagCount g.id : ℤ) < g.maxBizTags.toInt

instance (c : Catalog) (tag : BizTagRow) : Decidable (RoomForBizTag c tag) :=
  inferInstanceAs (Decidable (_ ∧ _))

/-- Nothing is in a workspace or a group that does not exist. -/
theorem length_own_of_missing {ρ ω σ : Type} [DecidableEq ω] {owner : ρ → ω} {key : σ → ω} {w : ω}
    {rows : List ρ} {owners : List σ} (hforeign : ∀ r ∈ rows, owner r ∈ owners.map key)
    (hmissing : w ∉ owners.map key) : (own owner w rows).length = 0 := by
  rw [List.length_eq_zero_iff, own_eq_nil_iff]
  intro hw
  obtain ⟨r, hr, rfl⟩ := List.mem_map.mp hw
  exact hmissing (hforeign r hr)

theorem length_own_append {ρ ω : Type} [DecidableEq ω] {owner : ρ → ω} {w : ω} {rows : List ρ}
    {r : ρ} : (own owner w (rows ++ [r])).length =
      (own owner w rows).length + if owner r = w then 1 else 0 := by
  by_cases hw : owner r = w
  · rw [own_append_of_eq hw, if_pos hw, List.length_append, List.length_singleton]
  · rw [own_append_of_ne hw, if_neg hw, Nat.add_zero]

theorem quotasKept_addWorkspace_iff {row : WorkspaceRow} {h} :
    QuotasKept c (c.addWorkspace row h) ↔ RoomForWorkspace row := by
  have hrows : (c.addWorkspace row h).workspaces.rows = c.workspaces.rows ++ [row] :=
    Indexed.rows_append h
  have hgroups : c.groupCount row.id = 0 := length_own_of_missing c.groupWorkspace h.1
  have htags : c.bizTagCount row.id = 0 := length_own_of_missing c.tagWorkspace h.1
  have hmem : row ∈ (c.addWorkspace row h).workspaces.rows := by
    rw [hrows]
    exact List.mem_append_right _ (List.mem_singleton.mpr rfl)
  constructor
  · intro hkept
    have hmaxGroups : Capped row.maxGroups _ _ (c.groupCount row.id) := hkept.groups row hmem
    have hmaxTags : Capped row.maxBizTags _ _ (c.bizTagCount row.id) := hkept.bizTags row hmem
    rw [hgroups, capped_new_iff h.1] at hmaxGroups
    rw [htags, capped_new_iff h.1] at hmaxTags
    exact ⟨hmaxGroups, hmaxTags⟩
  · rintro ⟨hmaxGroups, hmaxTags⟩
    refine ⟨fun w hw => ?_, fun w hw => ?_, fun g hg => ?_⟩
    · change Capped w.maxGroups _ _ (c.groupCount w.id)
      rw [hrows] at hw
      rcases List.mem_append.mp hw with hold | hnew
      · exact capped_of_le (List.mem_map_of_mem hold) le_rfl
      · rw [List.mem_singleton.mp hnew, hgroups]
        exact (capped_new_iff h.1).mpr hmaxGroups
    · change Capped w.maxBizTags _ _ (c.bizTagCount w.id)
      rw [hrows] at hw
      rcases List.mem_append.mp hw with hold | hnew
      · exact capped_of_le (List.mem_map_of_mem hold) le_rfl
      · rw [List.mem_singleton.mp hnew, htags]
        exact (capped_new_iff h.1).mpr hmaxTags
    · exact capped_of_le (List.mem_map_of_mem hg) le_rfl

/-- A number that goes up by one where a row is new, and nowhere else. -/
theorem capped_append_iff {ρ ω σ : Type} [DecidableEq ω] (owner : ρ → ω) (key : σ → ω)
    (limit : σ → Int32) (rows : List ρ) (r : ρ) (owners : List σ) :
    (∀ w ∈ owners, Capped (limit w) (key w ∈ owners.map key) (own owner (key w) rows).length
      (own owner (key w) (rows ++ [r])).length) ↔
    ∀ w ∈ owners, key w = owner r → ((own owner (key w) rows).length : ℤ) < (limit w).toInt := by
  refine forall₂_congr fun w hw => ?_
  rw [length_own_append]
  by_cases howner : key w = owner r
  · rw [if_pos howner.symm, capped_succ_iff]
    exact ⟨fun h _ => h, fun h => h howner⟩
  · rw [if_neg fun heq => howner heq.symm]
    exact iff_of_true (capped_of_le (List.mem_map_of_mem hw) le_rfl) fun heq => absurd heq howner

theorem quotasKept_addGroup_iff {group : GroupRow} {h : c.NewGroup group} :
    QuotasKept c (c.addGroup group h) ↔ RoomForGroup c group := by
  have hrows : (c.addGroup group h).groups.rows = c.groups.rows ++ [group] :=
    Indexed.rows_append h.2
  have htags : c.groupBizTagCount group.id = 0 := length_own_of_missing c.tagGroup h.2.1
  have hmem : group ∈ (c.addGroup group h).groups.rows := by
    rw [hrows]
    exact List.mem_append_right _ (List.mem_singleton.mpr rfl)
  have hworkspaces := capped_append_iff GroupRow.workspaceId WorkspaceRow.id WorkspaceRow.maxGroups
    c.groups.rows group c.workspaces.rows
  rw [← hrows] at hworkspaces
  constructor
  · intro hkept
    have hmaxTags : Capped group.maxBizTags _ _ (c.groupBizTagCount group.id) :=
      hkept.groupBizTags group hmem
    rw [htags, capped_new_iff h.2.1] at hmaxTags
    exact ⟨hworkspaces.mp hkept.groups, hmaxTags⟩
  · rintro ⟨hroom, hmaxTags⟩
    refine ⟨hworkspaces.mpr hroom, fun w hw => ?_, fun g hg => ?_⟩
    · exact capped_of_le (List.mem_map_of_mem hw) le_rfl
    · change Capped g.maxBizTags _ _ (c.groupBizTagCount g.id)
      rw [hrows] at hg
      rcases List.mem_append.mp hg with hold | hnew
      · exact capped_of_le (List.mem_map_of_mem hold) le_rfl
      · rw [List.mem_singleton.mp hnew, htags]
        exact (capped_new_iff h.2.1).mpr hmaxTags

theorem quotasKept_addBizTag_iff {tag : BizTagRow} {h : c.NewBizTag tag} :
    QuotasKept c (c.addBizTag tag h) ↔ RoomForBizTag c tag := by
  have hrows : (c.addBizTag tag h).bizTags.rows = c.bizTags.rows ++ [tag] :=
    Indexed.rows_append h.2.2
  have hworkspaces := capped_append_iff BizTagRow.workspaceId WorkspaceRow.id
    WorkspaceRow.maxBizTags c.bizTags.rows tag c.workspaces.rows
  have hgroups := capped_append_iff BizTagRow.groupId GroupRow.id GroupRow.maxBizTags c.bizTags.rows tag
    c.groups.rows
  rw [← hrows] at hworkspaces hgroups
  constructor
  · intro hkept
    exact ⟨hworkspaces.mp hkept.bizTags, hgroups.mp hkept.groupBizTags⟩
  · rintro ⟨hroom, hgroupRoom⟩
    refine ⟨fun w hw => ?_, hworkspaces.mpr hroom, hgroups.mpr hgroupRoom⟩
    exact capped_of_le (List.mem_map_of_mem hw) le_rfl

/-! ## Statements and runs -/

def TakesWorkspace (i : StatementInput) (c : Catalog) (workspace : CreateWorkspaceRequest) : Prop :=
  i.db.failure = none ∧ i.id ∉ c.workspaces.rows.map WorkspaceRow.id ∧
    workspace.name ∉ c.workspaces.rows.map WorkspaceRow.name

instance (i : StatementInput) (c : Catalog) (workspace : CreateWorkspaceRequest) :
    Decidable (TakesWorkspace i c workspace) := inferInstanceAs (Decidable (_ ∧ _))

def TakesGroup (i : StatementInput) (c : Catalog) (group : CreateGroupRequest) : Prop :=
  i.db.failure = none ∧ c.NewGroup (group.row i.id i.now)

instance (i : StatementInput) (c : Catalog) (group : CreateGroupRequest) :
    Decidable (TakesGroup i c group) := inferInstanceAs (Decidable (_ ∧ _))

/-- There is room for the row that the database takes. -/
def HasRoom (i : StatementInput) (c : Catalog) : Statement → Prop
  | .insertWorkspace workspace =>
    TakesWorkspace i c workspace → RoomForWorkspace (workspace.row i.id i.now)
  | .insertGroup group => TakesGroup i c group → RoomForGroup c (group.row i.id i.now)
  | .insertBizTag bizTag => TakesBizTag i c bizTag → RoomForBizTag c (bizTag.row i.id i.now)
  | _ => True

instance (i : StatementInput) (c : Catalog) : ∀ s, Decidable (HasRoom i c s)
  | .insertWorkspace workspace => inferInstanceAs (Decidable (TakesWorkspace i c workspace → _))
  | .insertGroup group => inferInstanceAs (Decidable (TakesGroup i c group → _))
  | .insertBizTag bizTag => inferInstanceAs (Decidable (TakesBizTag i c bizTag → _))
  | .findWorkspace _ | .findWorkspaceByName _ | .findGroup _ | .findBizTag _
  | .updateWorkspace _ _ | .updateGroup _ _ | .updateBizTag _ _ | .deleteWorkspace _
  | .deleteGroup _ | .deleteBizTag _ | .deleteGroupWithBizTags _ => isTrue trivial

/-- A statement that inserts a row, or nothing. -/
theorem quotasKept_write_iff {α : Type} {P Room : Prop} [Decidable P] {answer : α}
    {after : P → Catalog} (hafter : ∀ hP, QuotasKept c (after hP) ↔ Room) :
    QuotasKept c (i.write c P answer after).2 ↔ (i.db.failure = none ∧ P → Room) := by
  by_cases htakes : i.db.failure = none ∧ P
  · rw [write_of htakes.1 htakes.2, hafter]
    exact ⟨fun hroom _ => hroom, fun hroom => hroom htakes⟩
  · rw [write_of_not htakes]
    exact iff_of_true (NoMore.refl c).kept fun htakes' => absurd htakes' htakes

/-- **A statement** keeps the limits if and only if it inserts no row without room. -/
theorem quotasKept_serve_iff (s : Statement) : QuotasKept c (serve s i c).2 ↔ HasRoom i c s := by
  have hsame : QuotasKept c c := (NoMore.refl c).kept
  cases s with
  | insertWorkspace workspace => exact quotasKept_write_iff fun _ => quotasKept_addWorkspace_iff
  | insertGroup group => exact quotasKept_write_iff fun _ => quotasKept_addGroup_iff
  | insertBizTag bizTag => exact quotasKept_write_iff fun _ => quotasKept_addBizTag_iff
  | findWorkspace id | findWorkspaceByName name | findGroup id | findBizTag id =>
    exact iff_of_true hsame trivial
  | updateWorkspace workspace existing =>
    exact iff_of_true (update_snd hsame fun _ => noMore_setWorkspace.kept) trivial
  | updateGroup group existing =>
    exact iff_of_true (update_snd hsame fun _ => noMore_setGroup.kept) trivial
  | updateBizTag bizTag existing =>
    exact iff_of_true (update_snd hsame fun _ => noMore_setBizTag.kept) trivial
  | deleteWorkspace id => exact iff_of_true (remove_snd hsame (noMore_dropWorkspace c id).kept) trivial
  | deleteGroup id => exact iff_of_true (remove_snd hsame (noMore_dropGroup c id).kept) trivial
  | deleteBizTag id => exact iff_of_true (remove_snd hsame (noMore_keepBizTags c _).kept) trivial
  | deleteGroupWithBizTags id =>
    exact iff_of_true (write_snd hsame fun _ => (noMore_dropGroup c id).kept) trivial

/-- **The limits are kept**, in every interleaving, if and only if each row that is inserted finds
room. Where that is so and no limit is set below the number there is, all numbers stay within their
limits. -/
theorem quotas_iff (c : Catalog) (run : List TenantAct) :
    (EachStep tenants (fun w _ w' => QuotasKept w.shared w'.shared) ⟨c, []⟩ run ↔
      EachStep tenants (fun w act _ => TenantAct.Meets HasRoom w act) ⟨c, []⟩ run) ∧
    (EachStep tenants (fun w act _ => TenantAct.Meets HasRoom w act) ⟨c, []⟩ run →
      EachStep tenants (fun w _ w' => NotLowered w.shared w'.shared) ⟨c, []⟩ run →
      EachStep tenants (fun _ _ w' => w'.shared.Within) ⟨c, []⟩ run) := by
  have hiff : EachStep tenants (fun w _ w' => QuotasKept w.shared w'.shared) ⟨c, []⟩ run ↔
      EachStep tenants (fun w act _ => TenantAct.Meets HasRoom w act) ⟨c, []⟩ run :=
    eachStep_iff fun _ _ _ hstep => meets_iff (P := QuotasKept) (NoMore.refl _).kept
      (fun s _ => quotasKept_serve_iff s) hstep
  refine ⟨hiff, fun hroom hlow => ?_⟩
  exact ((hiff.mpr hroom).and hlow).mono fun _ _ _ _ h => within_of_kept h.1 h.2

/-- A workspace for one group gets two of them, one by its name and one by its id. -/
def twoGroups : List TenantAct :=
  [.spawn (.createWorkspace ⟨"a", none, some 1, none⟩), .move 0 (accepting 1),
    .spawn (.createGroupByName "a" "g" none none), .move 1 (accepting 0), .move 1 (accepting 0),
    .move 1 (accepting 2),
    .spawn (.createGroup ⟨1, "h", none, none⟩), .move 2 (accepting 0), .move 2 (accepting 3)]

theorem second_group_taken :
    (run tenants ⟨.empty, []⟩ twoGroups).map (fun w => w.shared.groupCount 1) = some 2 ∧
    ¬ EachStep tenants (fun w _ w' => QuotasKept w.shared w'.shared) ⟨.empty, []⟩ twoGroups := by
  decide +kernel

end SeaOrmRepository

end NebulaId
