import Mathlib.Algebra.Order.Ring.Nat
import Mathlib.Tactic.Common

/-!
# Checked arithmetic

An operation on machine integers faults where its exact result leaves the type: a sum or a product
that does not fit, a difference below zero, a shift by the width of the word or more. Here a fault
is `none`, and what the wrapping operation yields is the value otherwise.

A program over these operations that may also throw is a term of `ExceptT ε Option`:

* `faults_bind_iff`: where a sequence of steps faults.
* `Matches`: a program whose results, where it does not fault, are those of another one that wraps;
  `Matches.bind` goes along a sequence.
-/

namespace Checked

variable {α β ε : Type}

/-- The value, where the operation stays in its type. -/
def keep (fits : Prop) [Decidable fits] (a : α) : Option α := if fits then some a else none

section Keep

variable {fits : Prop} [Decidable fits] {a b : α}

theorem keep_of (h : fits) : keep fits a = some a := if_pos h

@[simp] theorem keep_eq_none : keep fits a = none ↔ ¬ fits := by
  unfold keep
  split <;> simp_all

@[simp] theorem keep_eq_some : keep fits a = some b ↔ fits ∧ a = b := by
  unfold keep
  split <;> simp_all

end Keep

def addU8 (a b : UInt8) : Option UInt8 := keep (a.toNat + b.toNat < 2 ^ 8) (a + b)

def subU8 (a b : UInt8) : Option UInt8 := keep (b ≤ a) (a - b)

def mulU32 (a b : UInt32) : Option UInt32 := keep (a.toNat * b.toNat < 2 ^ 32) (a * b)

def subU64 (a b : UInt64) : Option UInt64 := keep (b ≤ a) (a - b)

/-- A shift of a `u64` by a `u8`. -/
def shlU64 (a : UInt64) (n : UInt8) : Option UInt64 := keep (n < 64) (a <<< n.toUInt64)

/-! ## Programs that fault or throw -/

/-- A checked operation as a step of a program. -/
def op (x : Option α) : ExceptT ε Option α := ExceptT.lift x

/-- A step that does not fault. -/
def pureStep (x : Except ε α) : ExceptT ε Option α := ExceptT.mk (some x)

def Faults (m : ExceptT ε Option α) : Prop := m.run = none

/-- Where the program does not fault it returns what the other one returns. -/
def Matches (m : ExceptT ε Option α) (e : Except ε α) : Prop := ∀ x, m.run = some x → e = x

variable {m : ExceptT ε Option α} {f : α → ExceptT ε Option β}

theorem run_bind (m : ExceptT ε Option α) (f : α → ExceptT ε Option β) : (m >>= f).run =
    m.run.bind fun x => match x with
      | .ok a => (f a).run
      | .error e => some (.error e) := by
  cases hm : m.run with
  | none => exact congrArg (fun x => Option.bind x (ExceptT.bindCont f)) hm
  | some x =>
    have h : (m >>= f).run = ExceptT.bindCont f x :=
      congrArg (fun x => Option.bind x (ExceptT.bindCont f)) hm
    rw [h]
    cases x <;> rfl

/-- A sequence faults in its first step, or after it. -/
theorem faults_bind_iff :
    Faults (m >>= f) ↔ Faults m ∨ ∃ a, m.run = some (.ok a) ∧ Faults (f a) := by
  unfold Faults
  rw [run_bind]
  cases m.run with
  | none => simp
  | some x => cases x <;> simp

@[simp] theorem faults_op_bind {x : Option α} :
    Faults ((op x : ExceptT ε Option α) >>= f) ↔ x = none ∨ ∃ a, x = some a ∧ Faults (f a) := by
  rw [faults_bind_iff]
  cases x with
  | none => exact iff_of_true (.inl rfl) (.inl rfl)
  | some a =>
    have hrun : (op (some a) : ExceptT ε Option α).run = some (.ok a) := rfl
    simp [Faults, hrun]

@[simp] theorem not_faults_pureStep {x : Except ε α} : ¬ Faults (pureStep x) :=
  Option.some_ne_none x

@[simp] theorem faults_pureStep_bind {x : Except ε α} :
    Faults (pureStep x >>= f) ↔ ∃ a, x = .ok a ∧ Faults (f a) := by
  rw [faults_bind_iff]
  have hrun : (pureStep x).run = some x := rfl
  simp [not_faults_pureStep, hrun]

theorem matches_pureStep (x : Except ε α) : Matches (pureStep x) x :=
  fun _ h => Option.some.inj h

theorem Matches.bind {e : Except ε α} {g : α → Except ε β} (h : Matches m e)
    (hf : ∀ a, Matches (f a) (g a)) : Matches (m >>= f) (e >>= g) := by
  intro x hx
  rw [run_bind] at hx
  obtain ⟨y, hy, hrest⟩ := Option.bind_eq_some_iff.mp hx
  rw [h y hy]
  cases y with
  | error err => exact Option.some.inj hrest
  | ok a => exact hf a x hrest

/-- A checked operation that yields a value goes on as the wrapping one. -/
theorem Matches.op_keep {fits : Prop} [Decidable fits] {a : α} {e : Except ε β}
    (hf : Matches (f a) e) : Matches (op (keep fits a) >>= f) e := by
  intro x hx
  rw [run_bind] at hx
  obtain ⟨y, hy, hrest⟩ := Option.bind_eq_some_iff.mp hx
  by_cases h : fits
  · rw [keep_of h] at hy
    cases Option.some.inj hy
    exact hf x hrest
  · rw [keep, if_neg h] at hy
    cases hy

end Checked
