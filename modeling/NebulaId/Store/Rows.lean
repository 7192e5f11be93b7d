import Mathlib.Data.List.Nodup

/-!
# Tables under a primary key

`Rows` is a table whose rows have different keys. `update` is an `UPDATE … WHERE key = k` that
leaves the key alone, and `ActiveValue` says of one column whether a statement writes it.

* `find_update_self`, `find_update_ne`: the rows after an update.
* `Follows`: a column that a request may name; named, it gets that value, and else it is left.
-/

namespace Store

variable {κ ρ α : Type*} {key : ρ → κ}

structure Rows (κ ρ : Type*) (key : ρ → κ) where
  rows : List ρ
  nodup : (rows.map key).Nodup

inductive ActiveValue (α : Type*) where
  | set (value : α)
  | notSet

namespace ActiveValue

def write : ActiveValue α → α → α
  | set value, _ => value
  | notSet, old => old

end ActiveValue

/-- `field` is what a request has for a column. -/
def Follows (field : Option α) (old new : α) : Prop :=
  (∀ value, field = some value → new = value) ∧ (field = none → new = old)

theorem follows_iff {field : Option α} {old new : α} :
    Follows field old new ↔ new = field.getD old := by
  cases field with
  | none => simp [Follows]
  | some value => simp [Follows]

theorem follows_getD (field : Option α) (old : α) : Follows field old (field.getD old) :=
  follows_iff.mpr rfl

/-- A column that may be null: a request can fill it and cannot empty it. -/
theorem follows_or (field old : Option α) : Follows (field.map some) old (field.or old) := by
  rw [follows_iff]
  cases field <;> rfl

namespace Rows

variable [DecidableEq κ] {t : Rows κ ρ key} {k k' : κ} {r : ρ} {f : ρ → ρ}

def find (t : Rows κ ρ key) (k : κ) : Option ρ := t.rows.find? fun r => key r = k

def setRow (key : ρ → κ) (k : κ) (f : ρ → ρ) (r : ρ) : ρ := if key r = k then f r else r

theorem apply_setRow {β : Type*} {g : ρ → β} (hf : ∀ r, g (f r) = g r) (r : ρ) :
    g (setRow key k f r) = g r := by
  unfold setRow
  split
  · exact hf r
  · rfl

def update (t : Rows κ ρ key) (k : κ) (f : ρ → ρ) (hf : ∀ r, key (f r) = key r) :
    Rows κ ρ key where
  rows := t.rows.map (setRow key k f)
  nodup := by
    have hkeys : (t.rows.map (setRow key k f)).map key = t.rows.map key := by
      rw [List.map_map]
      exact List.map_congr_left fun r _ => apply_setRow hf r
    rw [hkeys]
    exact t.nodup

theorem key_of_find (h : t.find k = some r) : key r = k := by
  simpa using List.find?_some h

theorem find_eq_some : t.find k = some r ↔ r ∈ t.rows ∧ key r = k := by
  constructor
  · intro h
    exact ⟨List.mem_of_find?_eq_some h, key_of_find h⟩
  · rintro ⟨hr, rfl⟩
    cases h : t.find (key r) with
    | none => exact absurd (List.find?_eq_none.mp h r hr) (by simp)
    | some other =>
      rw [List.inj_on_of_nodup_map t.nodup (List.mem_of_find?_eq_some h) hr (key_of_find h)]

theorem find_eq_none : t.find k = none ↔ k ∉ t.rows.map key := by
  rw [find, List.find?_eq_none]
  simp

theorem decide_mem_keys : decide (k ∈ t.rows.map key) = (t.find k).isSome := by
  cases hfind : t.find k with
  | none => exact decide_eq_false (find_eq_none.mp hfind)
  | some row =>
    obtain ⟨hrow, hkey⟩ := find_eq_some.mp hfind
    exact decide_eq_true (List.mem_map.mpr ⟨row, hrow, hkey⟩)

theorem find_update (hf : ∀ r, key (f r) = key r) :
    (t.update k f hf).find k' = (t.find k').map (setRow key k f) := by
  have hsame : ((fun r => decide (key r = k')) ∘ setRow key k f) = fun r => decide (key r = k') := by
    funext r
    simp only [Function.comp_apply, apply_setRow hf]
  rw [find, update, List.find?_map, hsame]
  rfl

theorem find_update_self (hf : ∀ r, key (f r) = key r) (h : t.find k = some r) :
    (t.update k f hf).find k = some (f r) := by
  rw [find_update, h, Option.map_some, setRow, if_pos (key_of_find h)]

theorem find_update_ne (hf : ∀ r, key (f r) = key r) (hne : k' ≠ k) :
    (t.update k f hf).find k' = t.find k' := by
  rw [find_update]
  cases h : t.find k' with
  | none => rfl
  | some r =>
    have hother : key r ≠ k := by
      rw [key_of_find h]
      exact hne
    rw [Option.map_some, setRow, if_neg hother]

/-- Row `k` has changed as `P` says, and no other. -/
def OnlyRow (k : κ) (P : ρ → ρ → Prop) (t t' : Rows κ ρ key) : Prop :=
  (∃ old new, t.find k = some old ∧ t'.find k = some new ∧ P old new) ∧
    ∀ k', k' ≠ k → t'.find k' = t.find k'

theorem onlyRow_update_iff {P : ρ → ρ → Prop} (hf : ∀ r, key (f r) = key r)
    (h : t.find k = some r) : OnlyRow k P t (t.update k f hf) ↔ P r (f r) := by
  constructor
  · rintro ⟨⟨old, new, hold, hnew, hP⟩, -⟩
    cases h.symm.trans hold
    cases (find_update_self hf h).symm.trans hnew
    exact hP
  · intro hP
    exact ⟨⟨r, f r, h, find_update_self hf h, hP⟩, fun k' hne => find_update_ne hf hne⟩

end Rows

end Store
