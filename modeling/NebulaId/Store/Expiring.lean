import Mathlib.Data.List.AList
import Mathlib.Data.Set.Finite.Lattice
import Mathlib.Order.Defs.LinearOrder

/-!
# Maps with expiry

An entry may have an instant from which it is gone. `asOf x` is the map that is left at the
instant `x`, and two maps are the `Same` at `x` when nothing that is left there differs.

* `Same.mono`: what is the same stays the same.
* `Same.put`, `Same.erase`: and does so under changes.
* `ofAList`: an association list as a map; its changes are those of the map.
-/

namespace Store

universe u

variable {K V T : Type u}

/-- A value, and the instant from which it is gone. -/
structure Timed (V T : Type u) where
  value : V
  expireAt : Option T
  deriving DecidableEq

/-- Not gone yet. -/
def Timed.Live [LT T] (x : T) (e : Timed V T) : Prop := ∀ t ∈ e.expireAt, x < t

instance [LT T] [DecidableLT T] (x : T) (e : Timed V T) : Decidable (e.Live x) :=
  inferInstanceAs (Decidable (∀ t ∈ e.expireAt, x < t))

theorem Timed.Live.of_le [Preorder T] {x y : T} {e : Timed V T} (hxy : x ≤ y) (h : e.Live y) :
    e.Live x := fun t ht => hxy.trans_lt (h t ht)

@[ext]
structure ExpiringMap (K V T : Type u) where
  entry : K → Option (Timed V T)
  finite : {k | entry k ≠ none}.Finite

namespace ExpiringMap

/-! ## Changes -/

variable {a b : ExpiringMap K V T} {k k' : K} {e : Timed V T}

def empty : ExpiringMap K V T := ⟨fun _ => none, by simp⟩

noncomputable def keys (a : ExpiringMap K V T) : Finset K := a.finite.toFinset

theorem mem_keys : k ∈ a.keys ↔ a.entry k ≠ none := Set.Finite.mem_toFinset _

section Changes

variable [DecidableEq K]

def put (a : ExpiringMap K V T) (k : K) (e : Timed V T) : ExpiringMap K V T where
  entry := Function.update a.entry k (some e)
  finite := (a.finite.insert k).subset fun k' hk' => by
    by_cases hkk' : k' = k
    · exact Or.inl hkk'
    · exact Or.inr (by simpa only [Set.mem_ofPred_eq, Function.update_of_ne hkk'] using hk')

def erase (a : ExpiringMap K V T) (k : K) : ExpiringMap K V T where
  entry := Function.update a.entry k none
  finite := a.finite.subset fun k' hk' => by
    by_cases hkk' : k' = k
    · exact absurd (by rw [hkk', Function.update_self]) hk'
    · simpa only [Set.mem_ofPred_eq, Function.update_of_ne hkk'] using hk'

theorem entry_put_self : (a.put k e).entry k = some e := Function.update_self ..

theorem entry_put_of_ne (h : k' ≠ k) : (a.put k e).entry k' = a.entry k' :=
  Function.update_of_ne h ..

theorem entry_erase_self : (a.erase k).entry k = none := Function.update_self ..

theorem entry_erase_of_ne (h : k' ≠ k) : (a.erase k).entry k' = a.entry k' :=
  Function.update_of_ne h ..

theorem put_erase_of_ne (h : k ≠ k') : (a.put k e).erase k' = (a.erase k').put k e :=
  ExpiringMap.ext (Function.update_comm h _ _ _)

end Changes

/-! ## What is left at an instant -/

section Instants

variable [LinearOrder T] {x y : T}

def asOf (x : T) (a : ExpiringMap K V T) : ExpiringMap K V T where
  entry k := (a.entry k).filter fun e => e.Live x
  finite := a.finite.subset fun k hk hnone => hk (by simp only [hnone, Option.filter_none])

/-- Nothing that is left at the instant differs. -/
def Same (x : T) (a b : ExpiringMap K V T) : Prop := a.asOf x = b.asOf x

theorem entry_asOf : (a.asOf x).entry k = (a.entry k).filter fun e => e.Live x := rfl

theorem asOf_asOf (hxy : x ≤ y) : (a.asOf x).asOf y = a.asOf y := by
  refine ExpiringMap.ext (funext fun k => ?_)
  rw [entry_asOf, entry_asOf, entry_asOf, Option.filter_filter]
  congr 1
  funext e
  by_cases hy : e.Live y
  · simp [hy, hy.of_le hxy]
  · simp [hy]

theorem Same.refl (a : ExpiringMap K V T) : Same x a a := rfl

theorem same_asOf : Same x a (a.asOf x) := (asOf_asOf le_rfl).symm

theorem Same.symm (h : Same x a b) : Same x b a := Eq.symm h

/-- What is the same stays the same. -/
theorem Same.mono (hxy : x ≤ y) (h : Same x a b) : Same y a b := by
  rw [Same, ← asOf_asOf hxy, h, asOf_asOf hxy]

theorem Same.entry_eq (h : Same x a b) (k : K) :
    ((a.entry k).filter fun e => e.Live x) = (b.entry k).filter fun e => e.Live x :=
  congrFun (congrArg entry h) k

theorem same_of_entry_eq (h : ∀ k, ((a.entry k).filter fun e => e.Live x) =
    (b.entry k).filter fun e => e.Live x) : Same x a b :=
  ExpiringMap.ext (funext h)

section Changes

variable [DecidableEq K]

theorem Same.put (h : Same x a b) (k : K) (e : Timed V T) : Same x (a.put k e) (b.put k e) := by
  refine same_of_entry_eq fun k' => ?_
  by_cases hk : k' = k
  · rw [hk, entry_put_self, entry_put_self]
  · rw [entry_put_of_ne hk, entry_put_of_ne hk, h.entry_eq]

theorem Same.erase (h : Same x a b) (k : K) : Same x (a.erase k) (b.erase k) := by
  refine same_of_entry_eq fun k' => ?_
  by_cases hk : k' = k
  · rw [hk, entry_erase_self, entry_erase_self]
  · rw [entry_erase_of_ne hk, entry_erase_of_ne hk, h.entry_eq]

end Changes

end Instants

/-! ## Association lists -/

variable [DecidableEq K] {m : AList fun _ : K => Timed V T}

def ofAList (m : AList fun _ : K => Timed V T) : ExpiringMap K V T where
  entry k := m.lookup k
  finite := m.keys.toFinset.finite_toSet.subset fun k hk => by
    have hmem := Option.isSome_iff_ne_none.mpr hk
    rw [AList.lookup_isSome, AList.mem_keys] at hmem
    exact Finset.mem_coe.mpr (List.mem_toFinset.mpr hmem)

theorem entry_ofAList : (ofAList m).entry k = m.lookup k := rfl

theorem ofAList_insert : ofAList (m.insert k e) = (ofAList m).put k e := by
  refine ExpiringMap.ext (funext fun k' => ?_)
  by_cases hk : k' = k
  · rw [hk, entry_put_self, entry_ofAList, AList.lookup_insert]
  · rw [entry_put_of_ne hk, entry_ofAList, AList.lookup_insert_ne hk, entry_ofAList]

theorem ofAList_erase : ofAList (m.erase k) = (ofAList m).erase k := by
  refine ExpiringMap.ext (funext fun k' => ?_)
  by_cases hk : k' = k
  · rw [hk, entry_erase_self, entry_ofAList, AList.lookup_erase]
  · rw [entry_erase_of_ne hk, entry_ofAList, AList.lookup_erase_ne hk, entry_ofAList]

end ExpiringMap

end Store
