import Mathlib.Logic.Function.Basic
import Mathlib.Tactic.Common

/-!
# A key store with leases

Keys are attached to leases, and a lease that runs out takes its keys along. A store
carries the proofs that every key has a live lease and that lease numbers are given out
only once.

* Operations: `tick`, `grant`, `putIfAbsent`, `delete`, `expire`, `revoke`.
* `OwnedBy owner s k a`: key `k` is attached to a lease that `owner` gives to `a`. A key
  has one owner (`OwnedBy.unique`), and the lemmas after it say which operations keep it.
-/

/-- The attached lease of every key, the deadlines of the live leases, the number of leases
granted so far and the time. -/
structure LeaseStore (κ : Type*) where
  entries : κ → Option ℕ
  deadline : ℕ → Option ℕ
  granted : ℕ
  now : ℕ
  attached : ∀ k l, entries k = some l → (deadline l).isSome = true
  numbered : ∀ l, (deadline l).isSome = true → l ≤ granted

namespace LeaseStore

variable {κ α : Type*}

def empty : LeaseStore κ where
  entries _ := none
  deadline _ := none
  granted := 0
  now := 0
  attached _ _ h := by cases h
  numbered _ h := by cases h

def tick (s : LeaseStore κ) : LeaseStore κ := { s with now := s.now + 1 }

/-- The number of the next lease. -/
def nextLease (s : LeaseStore κ) : ℕ := s.granted + 1

def grant (s : LeaseStore κ) (ttl : ℕ) : LeaseStore κ where
  entries := s.entries
  deadline := Function.update s.deadline s.nextLease (some (s.now + ttl))
  granted := s.nextLease
  now := s.now
  attached k l h := by
    have hlive := s.attached k l h
    by_cases hl : l = s.nextLease
    · simp [hl]
    · rwa [Function.update_of_ne hl]
  numbered l h := by
    by_cases hl : l = s.nextLease
    · exact Nat.le_of_eq hl
    · rw [Function.update_of_ne hl] at h
      exact Nat.le_trans (s.numbered l h) (Nat.le_succ _)

/-- The lease has run out but its keys are still there. -/
def due (s : LeaseStore κ) (l : ℕ) : Bool :=
  match s.deadline l with
  | some d => decide (d ≤ s.now)
  | none => false

def expire (s : LeaseStore κ) (l : ℕ) : LeaseStore κ where
  entries k := if s.entries k = some l then none else s.entries k
  deadline := Function.update s.deadline l none
  granted := s.granted
  now := s.now
  attached k l' h := by
    split at h
    · cases h
    · rename_i hne
      have hl : l' ≠ l := by
        rintro rfl
        exact hne h
      rw [Function.update_of_ne hl]
      exact s.attached k l' h
  numbered l' h := by
    by_cases hl : l' = l
    · rw [hl, Function.update_self] at h
      cases h
    · rw [Function.update_of_ne hl] at h
      exact s.numbered l' h

/-- Give a live lease back, with its keys. `none`: the lease is not live. -/
def revoke (s : LeaseStore κ) (l : ℕ) : Option (LeaseStore κ) :=
  if (s.deadline l).isSome then some (s.expire l) else none

variable [DecidableEq κ]

def delete (s : LeaseStore κ) (k : κ) : LeaseStore κ where
  entries := Function.update s.entries k none
  deadline := s.deadline
  granted := s.granted
  now := s.now
  attached k' l h := by
    by_cases hk : k' = k
    · rw [hk, Function.update_self] at h
      cases h
    · rw [Function.update_of_ne hk] at h
      exact s.attached k' l h
  numbered := s.numbered

/-- Put `k` with lease `l` unless the key is there. `none`: the lease is not live. -/
def putIfAbsent (s : LeaseStore κ) (k : κ) (l : ℕ) : Option (Bool × LeaseStore κ) :=
  if (s.entries k).isSome then some (false, s)
  else if h : (s.deadline l).isSome = true then
    some (true,
      { s with
        entries := Function.update s.entries k (some l)
        attached := fun k' l' h' => by
          by_cases hk : k' = k
          · rw [hk, Function.update_self] at h'
            cases h'
            exact h
          · rw [Function.update_of_ne hk] at h'
            exact s.attached k' l' h' })
  else none

variable {s s' : LeaseStore κ} {k k' : κ} {l : ℕ} {b : Bool}

omit [DecidableEq κ] in
theorem le_granted (h : s.entries k = some l) : l ≤ s.granted :=
  s.numbered l (s.attached k l h)

omit [DecidableEq κ] in
/-- The end of a lease takes its own keys and no others. -/
theorem expire_entries {l' : ℕ} (hk : s.entries k = some l') (hne : l' ≠ l) :
    (s.expire l).entries k = some l' := by
  have hother : s.entries k ≠ some l := by
    rw [hk]
    exact fun h => hne (Option.some.inj h)
  exact (if_neg hother).trans hk

omit [DecidableEq κ] in
theorem revoke_eq_some (h : s.revoke l = some s') : s' = s.expire l := by
  unfold revoke at h
  split at h <;> cases h
  rfl

/-- A successful put found the key absent and changes nothing else. -/
theorem putIfAbsent_true (h : s.putIfAbsent k l = some (true, s')) :
    s.entries k = none ∧ s'.entries = Function.update s.entries k (some l) ∧
      s'.granted = s.granted := by
  unfold putIfAbsent at h
  split at h
  · cases h
  · rename_i habsent
    split at h
    · cases h
      exact ⟨by simpa using habsent, rfl, rfl⟩
    · cases h

/-- A put keeps every entry there is. -/
theorem putIfAbsent_entries {l' : ℕ} (h : s.putIfAbsent k l = some (b, s'))
    (hk : s.entries k' = some l') : s'.entries k' = some l' ∧ s'.granted = s.granted := by
  unfold putIfAbsent at h
  split at h
  · cases h
    exact ⟨hk, rfl⟩
  · rename_i habsent
    split at h
    · cases h
      have hne : k' ≠ k := by
        rintro rfl
        rw [hk] at habsent
        exact habsent rfl
      exact ⟨(Function.update_of_ne hne _ _).trans hk, rfl⟩
    · cases h

theorem putIfAbsent_granted (h : s.putIfAbsent k l = some (b, s')) : s'.granted = s.granted := by
  unfold putIfAbsent at h
  split at h
  · cases h; rfl
  · split at h <;> cases h
    rfl

/-! ## Owners of keys -/

/-- Key `k` is attached to a lease of `a`. -/
def OwnedBy (owner : ℕ → α) (s : LeaseStore κ) (k : κ) (a : α) : Prop :=
  ∃ l, s.entries k = some l ∧ owner l = a

variable {owner : ℕ → α} {a a' : α}

omit [DecidableEq κ] in
theorem OwnedBy.unique (h : OwnedBy owner s k a) (h' : OwnedBy owner s k a') : a = a' := by
  obtain ⟨l, hl, rfl⟩ := h
  obtain ⟨l', hl', rfl⟩ := h'
  rw [hl] at hl'
  cases hl'
  rfl

omit [DecidableEq κ] in
theorem OwnedBy.ne_none (h : OwnedBy owner s k a) : s.entries k ≠ none := by
  obtain ⟨l, hl, -⟩ := h
  rw [hl]
  exact Option.some_ne_none l

omit [DecidableEq κ] in
/-- A new lease does not touch the owners of the keys. -/
theorem OwnedBy.grant (h : OwnedBy owner s k a) (ttl : ℕ) :
    OwnedBy (Function.update owner s.nextLease a') (s.grant ttl) k a := by
  obtain ⟨l, hl, ha⟩ := h
  have hne : l ≠ s.nextLease := by
    have := le_granted hl
    unfold nextLease
    omega
  exact ⟨l, hl, (Function.update_of_ne hne _ _).trans ha⟩

theorem OwnedBy.put (h : OwnedBy owner s k' a) (hput : s.putIfAbsent k l = some (b, s')) :
    OwnedBy owner s' k' a := by
  obtain ⟨l', hl, ha⟩ := h
  exact ⟨l', (putIfAbsent_entries hput hl).1, ha⟩

/-- Whoever puts a key owns it. -/
theorem ownedBy_put (hput : s.putIfAbsent k l = some (true, s')) (ha : owner l = a) :
    OwnedBy owner s' k a := by
  obtain ⟨-, he, -⟩ := putIfAbsent_true hput
  exact ⟨l, by rw [he, Function.update_self], ha⟩

theorem OwnedBy.delete (h : OwnedBy owner s k' a) (hne : k' ≠ k) :
    OwnedBy owner (s.delete k) k' a := by
  obtain ⟨l, hl, ha⟩ := h
  exact ⟨l, (Function.update_of_ne hne _ _).trans hl, ha⟩

omit [DecidableEq κ] in
theorem OwnedBy.expire (h : OwnedBy owner s k a) (hne : s.entries k ≠ some l) :
    OwnedBy owner (s.expire l) k a := by
  obtain ⟨l', hl, ha⟩ := h
  exact ⟨l', (if_neg hne).trans hl, ha⟩

end LeaseStore
