import Mathlib.Data.List.AList
import Mathlib.Data.Multiset.MapFold
import NebulaId.Store.Owned

/-!
# Joins and groups of rows

The rows of a second table that belong to the rows of a first one come with them from a join, or
are read as they are and then put together by their owner.

* `filterMap_leftJoin`: what a join brings along belongs to the rows of the first table.
* `getD_lookup_groupBy`: a group has what its owner has.
* `Orders`: a query without an order returns its rows in any order.
-/

namespace Store

variable {ρ σ κ β γ : Type*} [DecidableEq κ] {key : ρ → κ} {owner : σ → κ}

/-- A row without a partner comes alone. -/
def leftJoin (key : ρ → κ) (owner : σ → κ) (left : List ρ) (right : List σ) : List (ρ × Option σ) :=
  left.flatMap fun r => match own owner (key r) right with
    | [] => [(r, none)]
    | s :: more => (s :: more).map fun s => (r, some s)

variable {left : List ρ} {right : List σ}

theorem leftJoin_nil : leftJoin key owner ([] : List ρ) right = [] := rfl

theorem leftJoin_cons (r : ρ) : leftJoin key owner (r :: left) right =
    leftJoin key owner [r] right ++ leftJoin key owner left right := by
  rw [leftJoin, leftJoin, leftJoin, List.flatMap_cons, List.flatMap_singleton]

theorem leftJoin_eq_nil_iff : leftJoin key owner left right = [] ↔ left = [] := by
  constructor
  · intro hnil
    cases left with
    | nil => rfl
    | cons r left =>
      rw [leftJoin_cons, List.append_eq_nil_iff, leftJoin, List.flatMap_singleton] at hnil
      obtain ⟨hnil, -⟩ := hnil
      split at hnil <;> cases hnil
  · rintro rfl
    exact leftJoin_nil

theorem fst_of_mem_leftJoin {x : ρ × Option σ} (hx : x ∈ leftJoin key owner left right) :
    x.1 ∈ left := by
  obtain ⟨r, hr, hx⟩ := List.mem_flatMap.mp hx
  split at hx
  · rw [List.mem_singleton.mp hx]
    exact hr
  · obtain ⟨s, -, rfl⟩ := List.mem_map.mp hx
    exact hr

/-- **What a join brings along**, row by row. -/
theorem filterMap_leftJoin (f : σ → γ) : (leftJoin key owner left right).filterMap
    (fun x => x.2.map f) = left.flatMap fun r => (own owner (key r) right).map f := by
  rw [leftJoin, List.filterMap_flatMap]
  refine List.flatMap_congr fun r _ => ?_
  cases own owner (key r) right with
  | nil => rfl
  | cons s more => rw [List.filterMap_map, ← List.filterMap_eq_map]; rfl

/-- Row after row is pushed to the group of its key. -/
def groupBy (key : ρ → κ) (value : ρ → β) (rows : List ρ) : AList fun _ : κ => List β :=
  rows.foldl (fun groups r =>
    groups.insert (key r) ((groups.lookup (key r)).getD [] ++ [value r])) ∅

theorem getD_lookup_foldl (value : ρ → β) (rows : List ρ) (groups : AList fun _ : κ => List β)
    (k : κ) : ((rows.foldl (fun groups r =>
      groups.insert (key r) ((groups.lookup (key r)).getD [] ++ [value r])) groups).lookup k).getD [] =
    (groups.lookup k).getD [] ++ (own key k rows).map value := by
  induction rows generalizing groups with
  | nil => rw [List.foldl_nil, own, List.filter_nil, List.map_nil, List.append_nil]
  | cons r rows ih =>
    rw [List.foldl_cons, ih]
    by_cases hk : key r = k
    · subst hk
      rw [AList.lookup_insert, Option.getD_some, own_cons_of_eq rfl, List.map_cons,
        List.append_assoc]
      rfl
    · rw [AList.lookup_insert_ne (Ne.symm hk), own_cons_of_ne hk]

/-- **A group has what its owner has**, in the order of the rows. -/
theorem getD_lookup_groupBy (value : ρ → β) (rows : List ρ) (k : κ) :
    ((groupBy key value rows).lookup k).getD [] = (own key k rows).map value := by
  rw [groupBy, getD_lookup_foldl, AList.lookup_empty]
  rfl

/-- The rows of one key among those of some keys. -/
theorem own_filter_mem {k : κ} {ks : List κ} {rows : List ρ} (hk : k ∈ ks) :
    own key k (rows.filter fun r => key r ∈ ks) = own key k rows :=
  own_filter_of fun _ _ hr => decide_eq_true (hr ▸ hk)

theorem own_key {t : Rows κ ρ key} {k : κ} : own key k t.rows = (t.find k).toList := by
  cases hfind : t.find k with
  | none => exact own_eq_nil_iff.mpr (Rows.find_eq_none.mp hfind)
  | some r =>
    obtain ⟨hr, hkey⟩ := Rows.find_eq_some.mp hfind
    have hnodup : (own key k t.rows).Nodup := (t.nodup.of_map _).filter _
    refine List.perm_singleton.mp ((List.perm_ext_iff_of_nodup hnodup (List.nodup_singleton r)).mpr
      fun other => ?_)
    rw [mem_own, List.mem_singleton]
    constructor
    · rintro ⟨hother, hkey'⟩
      exact List.inj_on_of_nodup_map t.nodup hother hr (hkey'.trans hkey.symm)
    · rintro rfl
      exact ⟨hr, hkey⟩

/-- The order in which each query returns its rows. -/
structure Orders where
  arrange : ∀ {ρ : Type}, ℕ → List ρ → List ρ
  perm : ∀ {ρ : Type} (n : ℕ) (rows : List ρ), (arrange n rows).Perm rows

/-- The rows come as they lie in the table. -/
def Orders.asStored : Orders := ⟨fun _ rows => rows, fun _ _ => List.Perm.refl _⟩

end Store
