import NebulaId.Database.Statements
import NebulaId.Server.Isolation

/-!
# The pages of the biz tags (`server/router.rs`, `server/handlers/biz_tag_handlers.rs`)

`handle_list_biz_tags` is given no workspace, and the workspace with the nil UUID is listed. The
page becomes an offset by a product of 64 bits, of which the lower 32 go to the database.

* `handleListBizTags_of_calm`: the answer to a request for a page.
* `pages_below`: up to a number of rows of 32 bits the pages are the biz tags of the nil workspace.
* `listing_complete_iff`: the pages are the biz tags of a workspace, as they should be, if and only
  if there are none, and none in the nil workspace.
* `listing_misses`: a workspace with a biz tag has an empty list.
-/

namespace NebulaId

open Machine Store

open SeaOrmRepository (Catalog BizTagRow)

namespace TenantService

/-- The biz tags of a workspace in the order of the table. -/
def tagsOf (w : Uuid) (c : Catalog) : List SeaOrmRepository.BizTag :=
  (own BizTagRow.workspaceId w c.bizTags.rows).map BizTagRow.toBizTag

/-- What a response lists; an error lists nothing. -/
def listed (s : TenantService) (c : Catalog) (params : PaginationParams) :
    List SeaOrmRepository.BizTag :=
  match s.handleListBizTags c params with
  | .ok resp => resp.bizTags
  | .error _ => []

/-- The number of the last page. -/
def lastPage (rows : ℕ) (pageSize : UInt64) : ℕ := (rows + pageSize.toNat - 1) / pageSize.toNat

/-- The pages have the biz tags of the workspace, each once, under their number. -/
structure ListsAll (s : TenantService) (w : Uuid) (c : Catalog) (pageSize : UInt64) : Prop where
  total : ∀ params : PaginationParams, params.pageSize = pageSize →
    ∃ resp, s.handleListBizTags c params = .ok resp ∧ resp.total = (tagsOf w c).length
  once : ∀ workspaceId, ((List.range (lastPage (tagsOf w c).length pageSize)).flatMap fun k =>
    s.listed c ⟨workspaceId, .ofNat (k + 1), pageSize⟩).Perm (tagsOf w c)
  beyond : ∀ params : PaginationParams, params.pageSize = pageSize →
    lastPage (tagsOf w c).length pageSize < params.page.toNat → s.listed c params = []

variable {s : TenantService} {w : Uuid} {c : Catalog} {pageSize : UInt64}

theorem tagsOf_nodup (w : Uuid) (c : Catalog) : (tagsOf w c).Nodup := by
  have hids : ((tagsOf w c).map SeaOrmRepository.BizTag.id).Nodup := by
    rw [tagsOf, List.map_map]
    exact c.bizTags.nodup.sublist (List.filter_sublist.map _)
  exact hids.of_map

theorem validate_pageSize {params : PaginationParams} (hlow : 1 ≤ params.pageSize.toNat)
    (hhigh : params.pageSize.toNat ≤ 100) : params.validate = [] := by
  have hrange : (1 : ℤ) ≤ params.pageSize.toNat ∧ (params.pageSize.toNat : ℤ) ≤ 100 := by omega
  exact if_pos hrange

theorem max_one (n : UInt64) : (max n 1).toNat = max n.toNat 1 := by
  change (if n ≤ 1 then 1 else n).toNat = max n.toNat 1
  have hone : n ≤ 1 ↔ n.toNat ≤ 1 := UInt64.le_iff_toNat_le
  split
  · rename_i hle
    exact (max_eq_right (hone.mp hle)).symm
  · rename_i hlt
    exact (max_eq_left (Nat.not_le.mp fun hle => hlt (hone.mpr hle)).le).symm

theorem clamp_pageSize (hlow : 1 ≤ pageSize.toNat) (hhigh : pageSize.toNat ≤ 100) :
    min (max pageSize 1) 100 = pageSize := by
  have hmax : max pageSize 1 = pageSize := by
    rw [← UInt64.toNat_inj, max_one, max_eq_left hlow]
  rw [hmax]
  exact if_pos (UInt64.le_iff_toNat_le.mpr hhigh)

/-- The offset that the database gets. -/
def offset (params : PaginationParams) : ℕ := asU32 ((max params.page 1 - 1) * params.pageSize)

/-- **The answer** when both queries succeed. -/
theorem handleListBizTags_of_calm {params : PaginationParams} (hlow : 1 ≤ params.pageSize.toNat)
    (hhigh : params.pageSize.toNat ≤ 100) (hlist : (s.db 0).failure = none)
    (hcount : (s.db 1).failure = none) :
    s.handleListBizTags c params = .ok ⟨((tagsOf 0 c).drop (offset params)).take params.pageSize.toNat,
      (tagsOf 0 c).length, max params.page 1, params.pageSize⟩ := by
  have hlimit : asU32 params.pageSize = params.pageSize.toNat := by
    rw [asU32, UInt64.toNat_toUInt32]
    exact Nat.mod_eq_of_lt (by omega)
  have hne : params.pageSize ≠ 0 := by
    rintro heq
    rw [heq] at hlow
    exact absurd hlow (by decide)
  have hpage : s.listBizTagsWithPagination c none none params.pageSize
      ((max params.page 1 - 1) * params.pageSize) =
        .ok ⟨((tagsOf 0 c).drop (offset params)).take params.pageSize.toNat, (tagsOf 0 c).length,
          (max params.page 1 - 1) * params.pageSize / params.pageSize + 1, params.pageSize⟩ := by
    unfold listBizTagsWithPagination SeaOrmRepository.listBizTags SeaOrmRepository.countBizTags
      SeaOrmRepository.query
    rw [if_neg hne, hlist, hcount, hlimit]
    dsimp only [Option.getD_none, SeaOrmRepository.page, Option.getD_some]
    rw [SeaOrmRepository.bizTagsOf_none, List.map_take, List.map_drop]
    rw [tagsOf, List.length_map]
    rfl
  unfold handleListBizTags
  rw [validate_pageSize hlow hhigh, clamp_pageSize hlow hhigh]
  dsimp only
  rw [hpage]
  rfl

theorem calm_of_answer {params : PaginationParams} {resp : BizTagListResponse}
    (h : s.handleListBizTags c params = .ok resp) :
    (s.db 0).failure = none ∧ (s.db 1).failure = none := by
  unfold handleListBizTags at h
  obtain ⟨⟨⟩, -, h⟩ := except_bind_eq_ok.mp h
  obtain ⟨resp', hresp, -⟩ := except_bind_eq_ok.mp h
  unfold listBizTagsWithPagination SeaOrmRepository.listBizTags SeaOrmRepository.countBizTags
    SeaOrmRepository.query at hresp
  rw [if_neg (pageSize_ne_zero params.pageSize)] at hresp
  cases hlist : (s.db 0).failure with
  | some e =>
    rw [hlist] at hresp
    cases hresp
  | none =>
    cases hcount : (s.db 1).failure with
    | some e =>
      rw [hlist, hcount] at hresp
      cases hresp
    | none => exact ⟨rfl, rfl⟩

theorem offset_of_page {params : PaginationParams} {k : ℕ} (hpage : params.page.toNat = k + 1) :
    offset params = k * params.pageSize.toNat % 2 ^ 32 := by
  have hmax : (max params.page 1).toNat = k + 1 := by
    rw [max_one, hpage]
    omega
  have hsub : (max params.page 1 - 1).toNat = k := by
    rw [UInt64.toNat_sub_of_le]
    · rw [hmax]
      rfl
    · rw [UInt64.le_iff_toNat_le, hmax]
      exact Nat.le_add_left 1 k
  rw [offset, asU32, UInt64.toNat_toUInt32, UInt64.toNat_mul, hsub]
  exact Nat.mod_mod_of_dvd _ (by decide)

/-- Pages under their right offsets make up the list. -/
theorem flatMap_pages {α : Type} (l : List α) (p m : ℕ) :
    ((List.range m).flatMap fun k => (l.drop (k * p)).take p) = l.take (m * p) := by
  induction m with
  | zero => simp
  | succ m ih =>
    rw [List.range_succ, List.flatMap_append, ih, List.flatMap_singleton, Nat.succ_mul, List.take_add]

theorem lt_of_lt_lastPage {rows k : ℕ} (hlow : 1 ≤ pageSize.toNat) (hk : k < lastPage rows pageSize) :
    k * pageSize.toNat < rows := by
  have hle : (k + 1) * pageSize.toNat ≤ rows + pageSize.toNat - 1 :=
    (Nat.le_div_iff_mul_le hlow).mp hk
  rw [Nat.succ_mul] at hle
  omega

theorem le_lastPage_mul (rows : ℕ) (hlow : 1 ≤ pageSize.toNat) :
    rows ≤ lastPage rows pageSize * pageSize.toNat := by
  have hmod := Nat.div_add_mod (rows + pageSize.toNat - 1) pageSize.toNat
  have hlt := Nat.mod_lt (rows + pageSize.toNat - 1) hlow
  rw [mul_comm] at hmod
  rw [lastPage]
  omega

/-- **The pages of the nil workspace** are its biz tags in the order of the table, as long as their
number has 32 bits. -/
theorem pages_below (hlow : 1 ≤ pageSize.toNat) (hhigh : pageSize.toNat ≤ 100)
    (hlist : (s.db 0).failure = none) (hcount : (s.db 1).failure = none) (workspaceId : Option String)
    (hrows : (tagsOf 0 c).length ≤ 2 ^ 32) :
    ((List.range (lastPage (tagsOf 0 c).length pageSize)).flatMap fun k =>
      s.listed c ⟨workspaceId, .ofNat (k + 1), pageSize⟩) = tagsOf 0 c := by
  have hpages : ∀ k ∈ List.range (lastPage (tagsOf 0 c).length pageSize),
      s.listed c ⟨workspaceId, .ofNat (k + 1), pageSize⟩ =
        ((tagsOf 0 c).drop (k * pageSize.toNat)).take pageSize.toNat := by
    intro k hk
    have hlt := lt_of_lt_lastPage hlow (List.mem_range.mp hk)
    have hkle : k ≤ k * pageSize.toNat := Nat.le_mul_of_pos_right k hlow
    have hpage : (UInt64.ofNat (k + 1)).toNat = k + 1 := by
      rw [UInt64.toNat_ofNat_of_lt']
      exact (show k + 1 ≤ 2 ^ 32 by omega).trans_lt (by decide)
    have hoffset : offset ⟨workspaceId, .ofNat (k + 1), pageSize⟩ = k * pageSize.toNat := by
      rw [offset_of_page hpage]
      exact Nat.mod_eq_of_lt (hlt.trans_le hrows)
    rw [listed, handleListBizTags_of_calm hlow hhigh hlist hcount, hoffset]
  rw [List.flatMap_congr hpages, flatMap_pages]
  exact List.take_of_length_le (le_lastPage_mul _ hlow)

/-- The first biz tag of the nil workspace is on every page with the offset 0. -/
theorem head_mem_listed {params : PaginationParams} {tag : SeaOrmRepository.BizTag}
    {tags : List SeaOrmRepository.BizTag}
    (hlow : 1 ≤ params.pageSize.toNat) (hhigh : params.pageSize.toNat ≤ 100)
    (hlist : (s.db 0).failure = none) (hcount : (s.db 1).failure = none)
    (htags : tagsOf 0 c = tag :: tags) (hoffset : offset params = 0) : tag ∈ s.listed c params := by
  rw [listed, handleListBizTags_of_calm hlow hhigh hlist hcount, hoffset, htags]
  obtain ⟨n, hn⟩ := Nat.exists_eq_add_of_le' hlow
  rw [hn]
  exact List.mem_cons_self

/-- **The listing is complete** if and only if the queries succeed and neither the workspace nor the
nil workspace has a biz tag: page `2 ^ 32 + 1` is the first page again. -/
theorem listing_complete_iff (s : TenantService) (w : Uuid) (c : Catalog) (pageSize : UInt64)
    (hlow : 1 ≤ pageSize.toNat) (hhigh : pageSize.toNat ≤ 100) :
    ListsAll s w c pageSize ↔ (s.db 0).failure = none ∧ (s.db 1).failure = none ∧
      tagsOf w c = [] ∧ tagsOf 0 c = [] := by
  constructor
  · intro hall
    obtain ⟨resp, hresp, htotal⟩ := hall.total ⟨none, 1, pageSize⟩ rfl
    obtain ⟨hlist, hcount⟩ := calm_of_answer hresp
    cases htags : tagsOf 0 c with
    | nil =>
      rw [handleListBizTags_of_calm hlow hhigh hlist hcount, htags] at hresp
      cases hresp
      exact ⟨hlist, hcount, List.length_eq_zero_iff.mp htotal.symm, rfl⟩
    | cons tag tags =>
      exfalso
      have hpage : (UInt64.ofNat (2 ^ 32 + 1)).toNat = 2 ^ 32 + 1 := by decide
      have hfirst : tag ∈ s.listed c ⟨none, .ofNat (0 + 1), pageSize⟩ :=
        head_mem_listed hlow hhigh hlist hcount htags
          ((offset_of_page (show (UInt64.ofNat (0 + 1)).toNat = 0 + 1 by decide)).trans (by simp))
      have hagain : tag ∈ s.listed c ⟨none, .ofNat (2 ^ 32 + 1), pageSize⟩ :=
        head_mem_listed hlow hhigh hlist hcount htags ((offset_of_page hpage).trans (by simp))
      have hlast : 2 ^ 32 < lastPage (tagsOf w c).length pageSize := by
        by_contra hbeyond
        have hempty := hall.beyond ⟨none, .ofNat (2 ^ 32 + 1), pageSize⟩ rfl
          (hpage ▸ Nat.lt_succ_of_le (Nat.not_lt.mp hbeyond))
        rw [hempty] at hagain
        cases hagain
      -- both pages are among those that make up the list, which has each biz tag once
      have hnodup := (hall.once none).nodup_iff.mpr (tagsOf_nodup w c)
      have hapart := (List.nodup_flatMap.mp hnodup).2
      have hdisjoint := List.pairwise_iff_getElem.mp hapart 0 (2 ^ 32)
        (by rw [List.length_range]; omega) (by rwa [List.length_range]) (by decide)
      simp only [List.getElem_range] at hdisjoint
      exact hdisjoint hfirst hagain
  · rintro ⟨hlist, hcount, hnone, hnil⟩
    have hlisted : ∀ params : PaginationParams, params.pageSize = pageSize →
        s.listed c params = [] := by
      rintro params rfl
      rw [listed, handleListBizTags_of_calm hlow hhigh hlist hcount, hnil]
      simp
    refine ⟨?_, fun workspaceId => ?_, fun params hsize _ => hlisted params hsize⟩
    · rintro params rfl
      refine ⟨_, handleListBizTags_of_calm hlow hhigh hlist hcount, ?_⟩
      rw [hnone, hnil]
    · rw [hnone, List.perm_nil, List.flatMap_eq_nil_iff]
      exact fun k _ => hlisted _ rfl

theorem listing_complete_empty : ListsAll (calm noUuids 0) 7 .empty 20 :=
  (listing_complete_iff (calm noUuids 0) 7 .empty 20 (by decide) (by decide)).mpr
    ⟨rfl, rfl, rfl, rfl⟩

/-- A workspace with a group and a biz tag. -/
def oneBizTag : Catalog where
  workspaces := ⟨⟨[⟨7, "acme", none, "active", 10, 100, 0, 0⟩], List.nodup_singleton _⟩,
    List.nodup_singleton _⟩
  groups := ⟨⟨[⟨8, 7, "shop", none, 50, 0, 0⟩], List.nodup_singleton _⟩, List.nodup_singleton _⟩
  bizTags := ⟨⟨[⟨9, 7, 8, "orders", none, .segment, .numeric, "", 100, 1000, .ofVec [0], 0, 0⟩],
    List.nodup_singleton _⟩, List.nodup_singleton _⟩
  keys := .empty
  groupWorkspace := by decide
  tagWorkspace := by decide
  tagGroup := by decide

/-- The biz tag is on no page. -/
theorem listing_misses : (tagsOf 7 oneBizTag).length = 1 ∧
    ((calm noUuids 0).listed oneBizTag ⟨some "acme", 1, 20⟩) = [] ∧
    ¬ ListsAll (calm noUuids 0) 7 oneBizTag 20 := by
  refine ⟨rfl, rfl, fun hall => ?_⟩
  obtain ⟨resp, hresp, htotal⟩ := hall.total ⟨none, 1, 20⟩ rfl
  have hnone : (calm noUuids 0).handleListBizTags oneBizTag ⟨none, 1, 20⟩ = .ok ⟨[], 0, 1, 20⟩ := rfl
  cases hnone.symm.trans hresp
  cases htotal

end TenantService

end NebulaId
