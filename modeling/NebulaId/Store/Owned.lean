import NebulaId.Store.Indexed

/-!
# Rows with an owner

`own` is what one owner has in a list of rows, and `OthersKept` says that only the rows of one
owner have changed. The index of a row may name its owner (`Names`).

* `own_append_of_ne`, `own_filter_of`, `own_map_of`: changes that an owner does not see.
* `find_of_own`: who has the same rows finds the same rows.
* `nodup_index_iff`: an index that names the owners is unique as soon as it is for each of them.
-/

namespace Store

variable {ρ ω κ τ : Type*} [DecidableEq ω]

def own (owner : ρ → ω) (w : ω) (rows : List ρ) : List ρ := rows.filter fun r => owner r = w

/-- No row of another owner has changed. -/
def OthersKept (owner : ρ → ω) (w : ω) (rows rows' : List ρ) : Prop :=
  ∀ w', w' ≠ w → own owner w' rows' = own owner w' rows

def Names (owner : ρ → ω) (index : ρ → τ) : Prop := ∃ g : τ → ω, ∀ r, g (index r) = owner r

variable {owner : ρ → ω} {w w' : ω} {rows rows' : List ρ} {r : ρ} {f : ρ → ρ} {p : ρ → Bool}

theorem mem_own : r ∈ own owner w rows ↔ r ∈ rows ∧ owner r = w := by
  simp [own]

theorem own_cons_of_eq (h : owner r = w) : own owner w (r :: rows) = r :: own owner w rows :=
  List.filter_cons_of_pos (decide_eq_true h)

theorem own_cons_of_ne (h : owner r ≠ w) : own owner w (r :: rows) = own owner w rows :=
  List.filter_cons_of_neg (by simpa using h)

/-! ## Changes that an owner does not see -/

theorem own_append_of_ne (h : owner r ≠ w) : own owner w (rows ++ [r]) = own owner w rows := by
  rw [own, List.filter_append, List.filter_singleton, decide_eq_false h]
  exact List.append_nil _

theorem own_append_of_eq (h : owner r = w) :
    own owner w (rows ++ [r]) = own owner w rows ++ [r] := by
  rw [own, List.filter_append, List.filter_singleton, decide_eq_true h]
  rfl

theorem own_filter_of (h : ∀ r ∈ rows, owner r = w → p r = true) :
    own owner w (rows.filter p) = own owner w rows := by
  rw [own, List.filter_filter]
  refine List.filter_congr fun r hr => ?_
  by_cases hw : owner r = w
  · rw [h r hr hw, Bool.and_true]
  · rw [decide_eq_false hw, Bool.false_and]

theorem own_map (hf : ∀ r, owner (f r) = owner r) :
    own owner w (rows.map f) = (own owner w rows).map f := by
  rw [own, List.filter_map]
  refine congrArg (List.map f) (List.filter_congr fun r _ => ?_)
  rw [Function.comp_apply, hf]

theorem own_map_of (hf : ∀ r, owner (f r) = owner r) (h : ∀ r ∈ rows, owner r = w → f r = r) :
    own owner w (rows.map f) = own owner w rows := by
  rw [own_map hf]
  conv_rhs => rw [← List.map_id (own owner w rows)]
  exact List.map_congr_left fun r hr => h r (mem_own.mp hr).1 (mem_own.mp hr).2

theorem OthersKept.refl (rows : List ρ) : OthersKept owner w rows rows := fun _ _ => rfl

theorem othersKept_append (h : owner r = w) : OthersKept owner w rows (rows ++ [r]) :=
  fun _ hne => own_append_of_ne (h.trans_ne hne.symm)

theorem othersKept_filter (h : ∀ r ∈ rows, owner r ≠ w → p r = true) :
    OthersKept owner w rows (rows.filter p) :=
  fun _ hne => own_filter_of fun r hr hw => h r hr (hw.trans_ne hne)

theorem othersKept_map (hf : ∀ r, owner (f r) = owner r)
    (h : ∀ r ∈ rows, owner r ≠ w → f r = r) : OthersKept owner w rows (rows.map f) :=
  fun _ hne => own_map_of hf fun r hr hw => h r hr (hw.trans_ne hne)

/-! ## The same rows -/

theorem mem_of_own (hsame : own owner w rows = own owner w rows') (hr : r ∈ rows)
    (hw : owner r = w) : r ∈ rows' := by
  have hin : r ∈ own owner w rows := mem_own.mpr ⟨hr, hw⟩
  rw [hsame] at hin
  exact (mem_own.mp hin).1

theorem own_eq_nil_iff : own owner w rows = [] ↔ w ∉ rows.map owner := by
  simp [own, List.filter_eq_nil_iff]

section Tables

variable [DecidableEq κ] {key : ρ → κ} {t t' : Rows κ ρ key} {k : κ}

theorem find_of_own (hsame : own owner w t.rows = own owner w t'.rows) (h : t.find k = some r)
    (hw : owner r = w) : t'.find k = some r := by
  obtain ⟨hr, hk⟩ := Rows.find_eq_some.mp h
  exact Rows.find_eq_some.mpr ⟨mem_of_own hsame hr hw, hk⟩

end Tables

/-! ## An index that names the owner -/

section Index

variable {index : ρ → τ}

theorem mem_index_iff (hn : Names owner index) :
    index r ∈ rows.map index ↔ index r ∈ (own owner (owner r) rows).map index := by
  obtain ⟨g, hg⟩ := hn
  simp only [List.mem_map, mem_own]
  constructor
  · rintro ⟨r', hr', heq⟩
    exact ⟨r', ⟨hr', by rw [← hg, heq, hg]⟩, heq⟩
  · rintro ⟨r', ⟨hr', -⟩, heq⟩
    exact ⟨r', hr', heq⟩

theorem mem_index_congr (hn : Names owner index)
    (hsame : own owner (owner r) rows = own owner (owner r) rows') :
    index r ∈ rows.map index ↔ index r ∈ rows'.map index := by
  rw [mem_index_iff hn, hsame, ← mem_index_iff hn]

theorem nodup_index_iff (hn : Names owner index) :
    (rows.map index).Nodup ↔ ∀ w, ((own owner w rows).map index).Nodup := by
  constructor
  · intro h w
    exact h.sublist (List.filter_sublist.map _)
  · intro h
    induction rows with
    | nil => exact List.nodup_nil
    | cons r rows ih =>
      rw [List.map_cons, List.nodup_cons]
      constructor
      · have hfirst := h (owner r)
        rw [own, List.filter_cons_of_pos (by simp), List.map_cons, List.nodup_cons]
          at hfirst
        rw [mem_index_iff hn]
        exact hfirst.1
      · refine ih fun w => (h w).sublist ?_
        exact ((List.sublist_cons_self r rows).filter _).map _

/-- A change of rows of one owner keeps the index unique, or not, by what that owner has. -/
theorem nodup_map_iff (hn : Names owner index) (hsame : own owner w rows = own owner w rows')
    (hf : ∀ r, owner (f r) = owner r) (h : ∀ r ∈ rows, owner r ≠ w → f r = r)
    (h' : ∀ r ∈ rows', owner r ≠ w → f r = r)
    (hrows : (rows.map index).Nodup) (hrows' : (rows'.map index).Nodup) :
    ((rows.map f).map index).Nodup ↔ ((rows'.map f).map index).Nodup := by
  rw [nodup_index_iff hn, nodup_index_iff hn]
  refine forall_congr' fun w' => ?_
  by_cases hw : w' = w
  · rw [hw, own_map hf, own_map hf, hsame]
  · rw [own_map_of hf fun r hr hr' => h r hr (hr'.trans_ne hw),
      own_map_of hf fun r hr hr' => h' r hr (hr'.trans_ne hw)]
    exact iff_of_true ((nodup_index_iff hn).mp hrows w') ((nodup_index_iff hn).mp hrows' w')

end Index

end Store
