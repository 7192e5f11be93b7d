import NebulaId.Store.Rows

/-!
# Tables with a unique index

`Indexed` is a table under a primary key with one more unique index.

* `insert_eq_some`, `insert_isSome_iff`: an insertion appends a row that is new in both.
* `keys_reindex`, `not_mem_reindex`: a row gives up the value of its index.
* `findBy_eq_some`: what the index finds is the one row with that value.
* `findBy_setRow`: what it finds when one row has changed.
-/

namespace Store

variable {κ τ ρ : Type*} {key : ρ → κ} {index : ρ → τ}

structure Indexed (κ τ ρ : Type*) (key : ρ → κ) (index : ρ → τ) extends Rows κ ρ key where
  indexed : (rows.map index).Nodup

namespace Indexed

def empty : Indexed κ τ ρ key index := ⟨⟨[], List.nodup_nil⟩, List.nodup_nil⟩

variable [DecidableEq τ] {t t' : Indexed κ τ ρ key index} {r : ρ}

def findBy (t : Indexed κ τ ρ key index) (value : τ) : Option ρ :=
  t.rows.find? fun r => index r = value

theorem findBy_eq_some {value : τ} : t.findBy value = some r ↔ r ∈ t.rows ∧ index r = value := by
  constructor
  · intro hfind
    exact ⟨List.mem_of_find?_eq_some hfind, by simpa using List.find?_some hfind⟩
  · rintro ⟨hmem, rfl⟩
    cases hfind : t.findBy (index r) with
    | none => exact absurd (List.find?_eq_none.mp hfind r hmem) (by simp)
    | some other =>
      have hother : index other = index r := by simpa using List.find?_some hfind
      rw [List.inj_on_of_nodup_map t.indexed (List.mem_of_find?_eq_some hfind) hmem hother]

theorem findBy_eq_none {value : τ} : t.findBy value = none ↔ value ∉ t.rows.map index := by
  rw [findBy, List.find?_eq_none]
  simp

theorem index_setRow {value value' : τ} {f : ρ → ρ} (hindex : ∀ r, index (f r) = value') (r : ρ) :
    index (Rows.setRow index value f r) = if index r = value then value' else index r := by
  unfold Rows.setRow
  split
  · exact hindex r
  · rfl

/-- `UPDATE … WHERE index = value` that sets the index to a value that nobody has. -/
def reindex (t : Indexed κ τ ρ key index) (value value' : τ) (f : ρ → ρ)
    (hkey : ∀ r, key (f r) = key r) (hindex : ∀ r, index (f r) = value')
    (h : value' ∉ t.rows.map index) : Indexed κ τ ρ key index where
  rows := t.rows.map (Rows.setRow index value f)
  nodup := by
    have hkeys : key ∘ Rows.setRow index value f = key := funext (Rows.apply_setRow hkey)
    rw [List.map_map, hkeys]
    exact t.nodup
  indexed := by
    have hvalues : index ∘ Rows.setRow index value f =
        (fun x => if x = value then value' else x) ∘ index := funext (index_setRow hindex)
    rw [List.map_map, hvalues, ← List.map_map]
    refine t.indexed.map_on fun x hx y hy heq => ?_
    split at heq
    · split at heq
      · rw [‹x = value›, ‹y = value›]
      · exact absurd (heq ▸ hy) h
    · split at heq
      · exact absurd (heq ▸ hx) h
      · exact heq

variable {value value' : τ} {f : ρ → ρ} {hkey : ∀ r, key (f r) = key r}
  {hindex : ∀ r, index (f r) = value'} {h : value' ∉ t.rows.map index}

theorem keys_reindex :
    (t.reindex value value' f hkey hindex h).rows.map key = t.rows.map key := by
  rw [reindex, List.map_map]
  exact List.map_congr_left fun r _ => Rows.apply_setRow hkey r

theorem not_mem_reindex (hne : value ≠ value') :
    value ∉ (t.reindex value value' f hkey hindex h).rows.map index := by
  rw [reindex, List.map_map]
  intro hmem
  obtain ⟨r, -, heq⟩ := List.mem_map.mp hmem
  rw [Function.comp_apply, index_setRow hindex] at heq
  split at heq
  · exact hne heq.symm
  · exact absurd heq ‹_›

variable [DecidableEq κ]

/-- One row has changed, and its index is what it was. -/
theorem findBy_setRow {r : ρ} (hrow : t.findBy value = some r)
    (hrows : t'.rows = t.rows.map (Rows.setRow key (key r) f)) (hf : index (f r) = index r) (v : τ) :
    t'.findBy v = if v = value then some (f r) else t.findBy v := by
  obtain ⟨hmem, hvalue⟩ := findBy_eq_some.mp hrow
  have hother : ∀ b ∈ t.rows, index b ≠ value → Rows.setRow key (key r) f b = b := by
    intro b hb hne
    refine if_neg fun hkey => hne ?_
    rw [List.inj_on_of_nodup_map t.nodup hb hmem hkey, hvalue]
  by_cases hv : v = value
  · rw [if_pos hv, findBy_eq_some, hrows, hf, hvalue]
    exact ⟨List.mem_map.mpr ⟨r, hmem, if_pos rfl⟩, hv.symm⟩
  · rw [if_neg hv]
    cases hfind : t.findBy v with
    | some b =>
      obtain ⟨hb, hindex⟩ := findBy_eq_some.mp hfind
      rw [findBy_eq_some, hrows]
      exact ⟨List.mem_map.mpr ⟨b, hb, hother b hb fun h => hv (hindex.symm.trans h)⟩, hindex⟩
    | none =>
      rw [findBy_eq_none] at hfind ⊢
      rw [hrows, List.map_map]
      intro hmap
      obtain ⟨b, hb, heq⟩ := List.mem_map.mp hmap
      rw [Function.comp_apply] at heq
      by_cases hindex : index b = value
      · have hbr : b = r := List.inj_on_of_nodup_map t.indexed hb hmem (hindex.trans hvalue.symm)
        rw [hbr, Rows.setRow, if_pos rfl, hf, hvalue] at heq
        exact hv heq.symm
      · rw [hother b hb hindex] at heq
        exact hfind (List.mem_map.mpr ⟨b, hb, heq⟩)

/-- `INSERT`, unless it violates one of the two. -/
def insert (t : Indexed κ τ ρ key index) (r : ρ) : Option (Indexed κ τ ρ key index) :=
  if hnew : key r ∉ t.rows.map key ∧ index r ∉ t.rows.map index then
    some
      { rows := t.rows ++ [r]
        nodup := by
          rw [List.map_append]
          exact t.nodup.append (List.nodup_singleton _) (List.disjoint_singleton.mpr hnew.1)
        indexed := by
          rw [List.map_append]
          exact t.indexed.append (List.nodup_singleton _) (List.disjoint_singleton.mpr hnew.2) }
  else none

theorem insert_eq_some (h : t.insert r = some t') : t'.rows = t.rows ++ [r] := by
  unfold insert at h
  split at h
  · cases h
    rfl
  · cases h

theorem insert_isSome_iff :
    (t.insert r).isSome ↔ key r ∉ t.rows.map key ∧ index r ∉ t.rows.map index := by
  unfold insert
  split
  · exact iff_of_true rfl ‹_›
  · exact iff_of_false (by simp) ‹_›

/-- The table after an insertion that violates neither. -/
def append (t : Indexed κ τ ρ key index) (r : ρ)
    (h : key r ∉ t.rows.map key ∧ index r ∉ t.rows.map index) : Indexed κ τ ρ key index :=
  (t.insert r).get (insert_isSome_iff.mpr h)

@[simp] theorem rows_append (h : key r ∉ t.rows.map key ∧ index r ∉ t.rows.map index) :
    (t.append r h).rows = t.rows ++ [r] :=
  insert_eq_some (Option.some_get _).symm

end Indexed

end Store
