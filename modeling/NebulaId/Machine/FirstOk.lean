import Mathlib.Data.List.Basic

/-!
# Attempts and their first success

An attempt is a name with an outcome of type `Except ε α`. Attempts are made in the order of
a list, up to the first that succeeds.

* `firstOk`: the first success, with its name.
* `tried`: the attempts made, each with the mark of its success.
* `firstOk_eq_some_iff`, `firstOk_eq_none_iff`: the list around the first success.
* `tried_congr`: the attempts made depend on nothing but the marks.
* `late_tried_iff`: when some of the attempts are put off until all others have failed.
-/

namespace Machine

/-- Two attempts, of which the second depends on the first, succeed one after another. -/
theorem except_bind_eq_ok {ε α β : Type} {x : Except ε α} {f : α → Except ε β} {b : β} :
    (x >>= f) = .ok b ↔ ∃ a, x = .ok a ∧ f a = .ok b := by
  cases x with
  | error e => simp [bind, Except.bind]
  | ok a => simp [bind, Except.bind]

theorem except_map_eq_ok {ε α β : Type} {x : Except ε α} {f : α → β} {b : β} :
    x.map f = .ok b ↔ ∃ a, x = .ok a ∧ f a = b := by
  cases x with
  | error e => simp [Except.map]
  | ok a => simp [Except.map]

theorem except_mapError_eq_ok {ε ε' α : Type} {x : Except ε α} {f : ε → ε'} {a : α} :
    x.mapError f = .ok a ↔ x = .ok a := by
  cases x with
  | error e => simp [Except.mapError]
  | ok a => simp [Except.mapError]

/-- The second attempt is only made after a success of the first. -/
theorem except_bind_congr {ε α β : Type} {x : Except ε α} {f g : α → Except ε β}
    (h : ∀ a, x = .ok a → f a = g a) : (x >>= f) = (x >>= g) := by
  cases x with
  | error e => rfl
  | ok a => exact h a rfl

variable {ι ε α β : Type*}

def firstOk : List (ι × Except ε α) → Option (ι × α)
  | [] => none
  | (i, .ok x) :: _ => some (i, x)
  | (_, .error _) :: rest => firstOk rest

def tried : List (ι × Except ε α) → List (ι × Bool)
  | [] => []
  | (i, .ok _) :: _ => [(i, true)]
  | (i, .error _) :: rest => (i, false) :: tried rest

/-- The attempts with the marks of their success. -/
def marks (l : List (ι × Except ε α)) : List (ι × Bool) := l.map fun p => (p.1, p.2.isOk)

/-- No attempt of the list succeeds. -/
def AllFail (l : List (ι × Except ε α)) : Prop := ∀ p ∈ l, ∃ e, p.2 = .error e

theorem allFail_nil : AllFail ([] : List (ι × Except ε α)) := by
  intro p hp
  cases hp

theorem allFail_cons {i : ι} {e : ε} {l : List (ι × Except ε α)} :
    AllFail ((i, .error e) :: l) ↔ AllFail l := by
  constructor
  · intro h p hp
    exact h p (List.mem_cons_of_mem _ hp)
  · intro h p hp
    rcases List.mem_cons.mp hp with rfl | hp
    · exact ⟨e, rfl⟩
    · exact h p hp

theorem not_allFail_cons {i : ι} {x : α} {l : List (ι × Except ε α)} :
    ¬ AllFail ((i, .ok x) :: l) := by
  intro h
  obtain ⟨e, he⟩ := h _ List.mem_cons_self
  cases he

theorem firstOk_eq_some_iff {l : List (ι × Except ε α)} {i : ι} {x : α} :
    firstOk l = some (i, x) ↔ ∃ failed later, l = failed ++ (i, .ok x) :: later ∧ AllFail failed := by
  induction l with
  | nil => simp [firstOk]
  | cons p l ih =>
    obtain ⟨j, y | y⟩ := p
    · rw [firstOk, ih]
      constructor
      · rintro ⟨failed, later, rfl, hfail⟩
        exact ⟨(j, .error y) :: failed, later, rfl, allFail_cons.mpr hfail⟩
      · rintro ⟨failed, later, hl, hfail⟩
        cases failed with
        | nil => cases hl
        | cons q failed =>
          obtain ⟨rfl, rfl⟩ := List.cons.inj hl
          exact ⟨failed, later, rfl, allFail_cons.mp hfail⟩
    · rw [firstOk]
      constructor
      · intro h
        cases h
        exact ⟨[], l, rfl, allFail_nil⟩
      · rintro ⟨failed, later, hl, hfail⟩
        cases failed with
        | nil => cases hl; rfl
        | cons q failed =>
          obtain ⟨rfl, rfl⟩ := List.cons.inj hl
          exact absurd hfail not_allFail_cons

theorem firstOk_eq_none_iff {l : List (ι × Except ε α)} : firstOk l = none ↔ AllFail l := by
  induction l with
  | nil => exact iff_of_true rfl allFail_nil
  | cons p l ih =>
    obtain ⟨j, y | y⟩ := p
    · rw [firstOk, ih, allFail_cons]
    · exact iff_of_false (by simp [firstOk]) not_allFail_cons

/-- Something succeeds exactly when something is the first to succeed. -/
theorem firstOk_isSome_iff {l : List (ι × Except ε α)} :
    (∃ i x, firstOk l = some (i, x)) ↔ ∃ i x, (i, Except.ok x) ∈ l := by
  constructor
  · rintro ⟨i, x, h⟩
    obtain ⟨failed, later, rfl, -⟩ := firstOk_eq_some_iff.mp h
    exact ⟨i, x, List.mem_append_right _ List.mem_cons_self⟩
  · rintro ⟨i, x, hmem⟩
    cases h : firstOk l with
    | some p => exact ⟨p.1, p.2, rfl⟩
    | none =>
      obtain ⟨e, he⟩ := firstOk_eq_none_iff.mp h _ hmem
      cases he

theorem tried_of_split {failed later : List (ι × Except ε α)} {i : ι} {x : α}
    (hfail : AllFail failed) :
    tried (failed ++ (i, .ok x) :: later) = failed.map (fun p => (p.1, false)) ++ [(i, true)] := by
  induction failed with
  | nil => rfl
  | cons p failed ih =>
    obtain ⟨j, y | y⟩ := p
    · simp only [List.cons_append, tried, List.map_cons, ih (allFail_cons.mp hfail)]
    · exact absurd hfail not_allFail_cons

theorem tried_of_allFail {l : List (ι × Except ε α)} (hfail : AllFail l) :
    tried l = l.map fun p => (p.1, false) := by
  induction l with
  | nil => rfl
  | cons p l ih =>
    obtain ⟨j, y | y⟩ := p
    · simp only [tried, List.map_cons, ih (allFail_cons.mp hfail)]
    · exact absurd hfail not_allFail_cons

/-- An attempt is made exactly when all before it fail. -/
theorem tried_split {l : List (ι × Except ε α)} {before : List ι} {i : ι} :
    (∃ after, (tried l).map Prod.fst = before ++ i :: after) ↔
      ∃ failed outcome later, l = failed ++ (i, outcome) :: later ∧ AllFail failed ∧
        failed.map Prod.fst = before := by
  constructor
  · rintro ⟨after, hmade⟩
    induction l generalizing before with
    | nil => cases before <;> cases hmade
    | cons p l ih =>
      cases before with
      | nil =>
        obtain ⟨j, x | x⟩ := p
        · obtain ⟨rfl, -⟩ := List.cons.inj hmade
          exact ⟨[], .error x, l, rfl, allFail_nil, rfl⟩
        · obtain ⟨rfl, -⟩ := List.cons.inj hmade
          exact ⟨[], .ok x, l, rfl, allFail_nil, rfl⟩
      | cons k before =>
        obtain ⟨j, x | x⟩ := p
        · obtain ⟨rfl, hrest⟩ := List.cons.inj hmade
          obtain ⟨failed, outcome, later, rfl, hfail, rfl⟩ := ih hrest
          exact ⟨(j, .error x) :: failed, outcome, later, rfl, allFail_cons.mpr hfail, rfl⟩
        · obtain ⟨-, hrest⟩ := List.cons.inj hmade
          cases before <;> cases hrest
  · rintro ⟨failed, outcome, later, rfl, hfail, rfl⟩
    induction failed with
    | nil =>
      cases outcome with
      | error e => exact ⟨(tried later).map Prod.fst, rfl⟩
      | ok x => exact ⟨[], rfl⟩
    | cons p failed ih =>
      obtain ⟨j, y | y⟩ := p
      · obtain ⟨after, hmade⟩ := ih (allFail_cons.mp hfail)
        refine ⟨after, ?_⟩
        rw [List.cons_append, tried, List.map_cons, hmade]
        rfl
      · exact absurd hfail not_allFail_cons

/-- The first attempt is always made. -/
theorem head?_tried (l : List (ι × Except ε α)) :
    ((tried l).map Prod.fst).head? = (l.map Prod.fst).head? := by
  cases l with
  | nil => rfl
  | cons p l =>
    obtain ⟨j, x | x⟩ := p
    · rfl
    · rfl

/-- **Who is put off.** Attempts of the kind `late` are made after all others have failed, if and
only if something before the first of them succeeds, or all others come before it. -/
theorem late_tried_iff (late : ι → Bool) {l : List (ι × Except ε α)} :
    (∀ before i after, (tried l).map Prod.fst = before ++ i :: after → late i = true →
        ∀ p ∈ l, late p.1 = false → p.1 ∈ before) ↔
      (∃ p ∈ l.takeWhile fun p => !late p.1, p.2.isOk = true) ∨
        ∀ p ∈ l, late p.1 = false → p.1 ∈ (l.takeWhile fun p => !late p.1).map Prod.fst := by
  constructor
  · intro hlate
    by_cases hok : ∃ p ∈ l.takeWhile fun p => !late p.1, p.2.isOk = true
    · exact Or.inl hok
    · refine Or.inr fun p hp hearly => ?_
      have hfail : AllFail (l.takeWhile fun p => !late p.1) := by
        intro q hq
        obtain ⟨j, x | x⟩ := q
        · exact ⟨x, rfl⟩
        · exact absurd ⟨_, hq, rfl⟩ hok
      have hsplit := List.takeWhile_append_dropWhile (p := fun p => !late p.1) (l := l)
      cases hdrop : l.dropWhile fun p => !late p.1 with
      | nil =>
        rw [hdrop, List.append_nil] at hsplit
        rw [hsplit]
        exact List.mem_map_of_mem hp
      | cons q later =>
        have hlate' : late q.1 = true := by
          have hhead := List.head?_dropWhile_not (fun p => !late p.1) l
          rw [hdrop] at hhead
          simpa using hhead
        rw [hdrop] at hsplit
        obtain ⟨after, hmade⟩ := tried_split.mpr ⟨_, q.2, later, hsplit.symm, hfail, rfl⟩
        exact hlate _ q.1 after hmade hlate' p hp hearly
  · intro hcond before i after hmade hlate p hp hearly
    obtain ⟨failed, outcome, later, hl, hfail, rfl⟩ := tried_split.mp ⟨after, hmade⟩
    have hstart : l.takeWhile (fun p => !late p.1) <+: failed := by
      rw [hl]
      clear hl hfail hcond hp hmade
      induction failed with
      | nil => simp [hlate]
      | cons q failed ih =>
        rw [List.cons_append, List.takeWhile_cons]
        split
        · exact List.prefix_cons_inj q |>.mpr ih
        · exact List.nil_prefix
    rcases hcond with ⟨q, hq, hok⟩ | hall
    · obtain ⟨e, he⟩ := hfail q (hstart.subset hq)
      rw [he] at hok
      cases hok
    · exact (hstart.map Prod.fst).subset (hall p hp hearly)

theorem tried_congr {l : List (ι × Except ε α)} {l' : List (ι × Except ε β)}
    (h : marks l = marks l') : tried l = tried l' := by
  induction l generalizing l' with
  | nil =>
    cases l' with
    | nil => rfl
    | cons q l' => cases h
  | cons p l ih =>
    cases l' with
    | nil => cases h
    | cons q l' =>
      obtain ⟨hpq, hrest⟩ := List.cons.inj h
      obtain ⟨i, x | x⟩ := p <;> obtain ⟨j, y | y⟩ := q <;> cases hpq
      · simp only [tried, ih hrest]
      · rfl

end Machine
