import Mathlib.Data.List.Nodup
import Mathlib.Data.List.Range
import Mathlib.Logic.Relation
import Mathlib.Order.CompletePartialOrder
import Mathlib.Data.Set.Lattice
import Mathlib.Order.Interval.Set.Disjoint

/-!
# Ranges with a cursor

A pool holds half-open ranges of numbers, each under a key and with a cursor. A number is
issued by taking it at the cursor of a range, so what lies below a cursor is gone.

* `Step`: a range is added that is disjoint from the ranges of its key, or numbers are
  taken from a range that still holds them.
* `Inv.of_reaches`: from the empty pool on, no number is issued twice under a key, and each
  lies in a range of its key.
-/

namespace RangePool

structure Range (κ : Type*) where
  key : κ
  first : ℕ
  last : ℕ
  cursor : ℕ

def Range.ids {κ : Type*} (r : Range κ) : Set ℕ := Set.Ico r.first r.last

def Range.advance {κ : Type*} (r : Range κ) (count : ℕ) : Range κ :=
  { r with cursor := r.cursor + count }

/-- The ranges in the order they came, and the numbers issued so far. -/
@[ext] structure Pool (κ : Type*) where
  ranges : List (Range κ)
  issued : List (κ × ℕ)

variable {κ : Type*} {p p' : Pool κ} {r : Range κ} {i count : ℕ}

namespace Pool

def empty : Pool κ := ⟨[], []⟩

def add (p : Pool κ) (key : κ) (first last : ℕ) : Pool κ :=
  { p with ranges := p.ranges ++ [⟨key, first, last, first⟩] }

/-- Take `count` numbers at the cursor of the `i`-th range, which is `r`. -/
def take (p : Pool κ) (i : ℕ) (r : Range κ) (count : ℕ) : Pool κ where
  ranges := p.ranges.set i (r.advance count)
  issued := (List.range' r.cursor count).map (fun id => (r.key, id)) ++ p.issued

end Pool

inductive Step (p : Pool κ) : Pool κ → Prop
  | add (key : κ) (first last : ℕ)
      (hfresh : ∀ r ∈ p.ranges, r.key = key → Disjoint r.ids (Set.Ico first last)) :
      Step p (p.add key first last)
  | take (i : ℕ) (r : Range κ) (count : ℕ) (hr : p.ranges[i]? = some r)
      (hroom : r.cursor + count ≤ r.last) : Step p (p.take i r count)

def Reaches : Pool κ → Pool κ → Prop := Relation.ReflTransGen Step

/-- Every number issued lies below the cursor of the range that it came from. -/
structure Inv (p : Pool κ) : Prop where
  cursors : ∀ r ∈ p.ranges, r.first ≤ r.cursor ∧ r.cursor ≤ max r.first r.last
  apart : ∀ (i j : ℕ) (r r' : Range κ), p.ranges[i]? = some r → p.ranges[j]? = some r' → i ≠ j →
    r.key = r'.key → Disjoint r.ids r'.ids
  taken : ∀ x ∈ p.issued, ∃ (i : ℕ) (r : Range κ), p.ranges[i]? = some r ∧ r.key = x.1 ∧ x.2 ∈ r.ids ∧
    x.2 < r.cursor
  distinct : p.issued.Nodup

theorem inv_empty : Inv (Pool.empty : Pool κ) where
  cursors _ h := (List.not_mem_nil h).elim
  apart _ _ _ _ h := (List.not_mem_nil (List.mem_of_getElem? h)).elim
  taken _ h := (List.not_mem_nil h).elim
  distinct := List.nodup_nil

/-- The places of the pool after a range has been added. -/
theorem getElem?_add {key : κ} {first last : ℕ} (h : (p.add key first last).ranges[i]? = some r) :
    p.ranges[i]? = some r ∨ i = p.ranges.length ∧ r = ⟨key, first, last, first⟩ := by
  unfold Pool.add at h
  rcases Nat.lt_trichotomy i p.ranges.length with hlt | heq | hgt
  · rw [List.getElem?_append_left hlt] at h
    exact Or.inl h
  · rw [heq, List.getElem?_concat_length] at h
    cases h
    exact Or.inr ⟨heq, rfl⟩
  · rw [List.getElem?_eq_none (by simp; omega)] at h
    cases h

theorem Inv.add (h : Inv p) {key : κ} {first last : ℕ}
    (hfresh : ∀ r ∈ p.ranges, r.key = key → Disjoint r.ids (Set.Ico first last)) :
    Inv (p.add key first last) where
  cursors r hr := by
    rcases List.mem_append.mp hr with hr | hr
    · exact h.cursors r hr
    · rw [List.mem_singleton.mp hr]
      exact ⟨Nat.le_refl _, Nat.le_max_left _ _⟩
  apart i j r r' hi hj hij hkey := by
    rcases getElem?_add hi with hi | ⟨rfl, rfl⟩
    · rcases getElem?_add hj with hj | ⟨rfl, rfl⟩
      · exact h.apart i j r r' hi hj hij hkey
      · exact hfresh r (List.mem_of_getElem? hi) hkey
    · rcases getElem?_add hj with hj | ⟨rfl, rfl⟩
      · exact (hfresh r' (List.mem_of_getElem? hj) hkey.symm).symm
      · exact absurd rfl hij
  taken x hx := by
    obtain ⟨i, r, hi, hx⟩ := h.taken x hx
    have hil := (List.getElem?_eq_some_iff.mp hi).1
    exact ⟨i, r, (List.getElem?_append_left hil).trans hi, hx⟩
  distinct := h.distinct

/-- The places of the pool after numbers have been taken. -/
theorem getElem?_take {j : ℕ} {x : Range κ} (hr : p.ranges[i]? = some r)
    (hx : (p.take i r count).ranges[j]? = some x) :
    (j = i ∧ x = r.advance count) ∨ (j ≠ i ∧ p.ranges[j]? = some x) := by
  have hil := (List.getElem?_eq_some_iff.mp hr).1
  by_cases hji : j = i
  · subst hji
    rw [Pool.take, List.getElem?_set_self hil] at hx
    exact Or.inl ⟨rfl, (Option.some.inj hx).symm⟩
  · rw [Pool.take, List.getElem?_set_ne (Ne.symm hji)] at hx
    exact Or.inr ⟨hji, hx⟩

/-- Key and numbers of a place survive a take. -/
theorem getElem?_of_take {j : ℕ} {x : Range κ} (hr : p.ranges[i]? = some r)
    (hx : (p.take i r count).ranges[j]? = some x) :
    ∃ y, p.ranges[j]? = some y ∧ y.key = x.key ∧ y.ids = x.ids := by
  rcases getElem?_take hr hx with ⟨rfl, rfl⟩ | ⟨-, hx⟩
  · exact ⟨r, hr, rfl, rfl⟩
  · exact ⟨x, hx, rfl, rfl⟩

theorem Inv.take (h : Inv p) (hr : p.ranges[i]? = some r) (hroom : r.cursor + count ≤ r.last) :
    Inv (p.take i r count) := by
  have hil := (List.getElem?_eq_some_iff.mp hr).1
  have hnew : (p.take i r count).ranges[i]? = some (r.advance count) :=
    List.getElem?_set_self hil
  have hstart := (h.cursors r (List.mem_of_getElem? hr)).1
  have hids : ∀ id ∈ List.range' r.cursor count, id ∈ r.ids := by
    intro id hid
    obtain ⟨hlo, hhi⟩ := List.mem_range'_1.mp hid
    exact ⟨Nat.le_trans hstart hlo, Nat.lt_of_lt_of_le hhi hroom⟩
  refine ⟨?_, ?_, ?_, ?_⟩
  · intro x hx
    rcases List.mem_or_eq_of_mem_set hx with hx | rfl
    · exact h.cursors x hx
    · exact ⟨Nat.le_trans hstart (Nat.le_add_right _ _), Nat.le_trans hroom (Nat.le_max_right _ _)⟩
  · intro a b x y ha hb hab hkey
    obtain ⟨x', hx', hxk, hxi⟩ := getElem?_of_take hr ha
    obtain ⟨y', hy', hyk, hyi⟩ := getElem?_of_take hr hb
    rw [← hxi, ← hyi]
    exact h.apart a b x' y' hx' hy' hab (by rw [hxk, hyk, hkey])
  · intro x hx
    rcases List.mem_append.mp hx with hx | hx
    · obtain ⟨id, hid, rfl⟩ := List.mem_map.mp hx
      exact ⟨i, r.advance count, hnew, rfl, hids id hid, (List.mem_range'_1.mp hid).2⟩
    · obtain ⟨j, y, hy, hkey, hmem, hlt⟩ := h.taken x hx
      by_cases hji : j = i
      · subst hji
        obtain rfl := Option.some.inj (hr.symm.trans hy)
        exact ⟨j, _, hnew, hkey, hmem, Nat.lt_of_lt_of_le hlt (Nat.le_add_right _ _)⟩
      · exact ⟨j, y, (List.getElem?_set_ne (Ne.symm hji)).trans hy, hkey, hmem, hlt⟩
  · refine List.nodup_append.mpr ⟨?_, h.distinct, ?_⟩
    · exact List.Nodup.map (fun _ _ he => (Prod.mk.inj he).2) List.nodup_range'
    · rintro x hx _ hx' rfl
      obtain ⟨id, hid, rfl⟩ := List.mem_map.mp hx
      obtain ⟨j, y, hy, hkey, hmem, hlt⟩ := h.taken _ hx'
      by_cases hji : i = j
      · -- the same range: what was issued lies below the cursor
        subst hji
        obtain rfl := Option.some.inj (hr.symm.trans hy)
        exact absurd hlt (Nat.not_lt.mpr (List.mem_range'_1.mp hid).1)
      · exact Set.disjoint_left.mp (h.apart i j r y hr hy hji hkey.symm) (hids id hid) hmem

theorem Inv.step (h : Inv p) (hs : Step p p') : Inv p' := by
  cases hs with
  | add key first last hfresh => exact h.add hfresh
  | take i r count hr hroom => exact h.take hr hroom

theorem Inv.of_reaches (h : Reaches (Pool.empty : Pool κ) p) : Inv p := by
  induction h with
  | refl => exact inv_empty
  | tail _ hs ih => exact ih.step hs

end RangePool
