import Mathlib.Data.List.TakeWhile
import Mathlib.Tactic.Common

/-!
# Readers

A reader takes a value from the front of a text and leaves the rest, or fails and takes nothing.

* `Reads P r`: the reader takes only characters with `P`; `Reads.bind` and `Reads.orElse` go along
  the ways to put readers together.
* `Reads.of_whole`: what is read to its end has only such characters.
-/

namespace Readers

variable {ι α β : Type}

abbrev Reader (ι α : Type) := List ι → Option (α × List ι)

namespace Reader

def pure (a : α) : Reader ι α := fun cs => some (a, cs)

def bind (r : Reader ι α) (f : α → Reader ι β) : Reader ι β := fun cs =>
  (r cs).bind fun x => f x.1 x.2

def orElse (r s : Reader ι α) : Reader ι α := fun cs => (r cs).or (s cs)

def map (f : α → β) (r : Reader ι α) : Reader ι β := r.bind fun a => pure (f a)

/-- One given character. -/
def given [DecidableEq ι] (c : ι) : Reader ι Unit
  | [] => none
  | d :: cs => if d = c then some ((), cs) else none

/-- The value of a text that is read to its end. -/
def whole (r : Reader ι α) (cs : List ι) : Option α :=
  match r cs with
  | some (a, []) => some a
  | _ => none

theorem bind_of_some {r : Reader ι α} {f : α → Reader ι β} {cs rest : List ι} {a : α}
    (h : r cs = some (a, rest)) : r.bind f cs = f a rest := by
  rw [bind, h, Option.bind_some]

theorem orElse_of_some {r s : Reader ι α} {cs : List ι} {x : α × List ι} (h : r cs = some x) :
    r.orElse s cs = some x := by
  rw [orElse, h, Option.some_or]

@[simp] theorem given_cons [DecidableEq ι] (c : ι) (cs : List ι) : given c (c :: cs) = some ((), cs) :=
  if_pos rfl

theorem whole_of_nil {r : Reader ι α} {cs : List ι} {a : α} (h : r cs = some (a, [])) :
    r.whole cs = some a := by
  rw [whole, h]

theorem whole_eq_some {r : Reader ι α} {cs : List ι} {a : α} (h : r.whole cs = some a) :
    r cs = some (a, []) := by
  unfold whole at h
  split at h
  · rename_i b hr
    cases h
    exact hr
  · cases h

end Reader

/-- What the reader takes are characters with `P`. -/
def Reads (P : ι → Prop) (r : Reader ι α) : Prop := ∀ cs a rest, r cs = some (a, rest) →
  ∃ taken, cs = taken ++ rest ∧ ∀ c ∈ taken, P c

namespace Reads

open Reader

variable {P : ι → Prop} {r s : Reader ι α} {f : α → Reader ι β}

theorem pure (a : α) : Reads P (Reader.pure a) := by
  intro cs b rest h
  cases h
  exact ⟨[], rfl, fun c hc => (List.not_mem_nil hc).elim⟩

theorem given [DecidableEq ι] {c : ι} (hc : P c) : Reads P (Reader.given c) := by
  intro cs a rest h
  cases cs with
  | nil => cases h
  | cons d cs =>
    by_cases hd : d = c
    · subst hd
      cases h.symm.trans (given_cons d cs)
      refine ⟨[d], rfl, fun e he => ?_⟩
      rwa [List.mem_singleton.mp he]
    · rw [Reader.given, if_neg hd] at h
      cases h

theorem bind (hr : Reads P r) (hf : ∀ a, Reads P (f a)) : Reads P (r.bind f) := by
  intro cs b rest h
  obtain ⟨⟨a, middle⟩, hfirst, hsecond⟩ := Option.bind_eq_some_iff.mp h
  obtain ⟨taken, rfl, htaken⟩ := hr cs a middle hfirst
  obtain ⟨more, rfl, hmore⟩ := hf a middle b rest hsecond
  refine ⟨taken ++ more, (List.append_assoc taken more rest).symm, fun c hc => ?_⟩
  exact (List.mem_append.mp hc).elim (htaken c) (hmore c)

theorem map (hr : Reads P r) (g : α → β) : Reads P (r.map g) := hr.bind fun a => pure (g a)

theorem orElse (hr : Reads P r) (hs : Reads P s) : Reads P (r.orElse s) := by
  intro cs a rest h
  unfold Reader.orElse at h
  rcases Option.or_eq_some_iff.mp h with h | ⟨-, h⟩
  · exact hr cs a rest h
  · exact hs cs a rest h

/-- A text that is read to its end is made of such characters. -/
theorem of_whole (hr : Reads P r) {cs : List ι} {a : α} (h : r.whole cs = some a) :
    ∀ c ∈ cs, P c := by
  obtain ⟨taken, rfl, htaken⟩ := hr cs a [] (whole_eq_some h)
  rwa [List.append_nil]

theorem whole_eq_none (hr : Reads P r) {cs : List ι} {c : ι} (hc : c ∈ cs) (hP : ¬ P c) :
    r.whole cs = none := by
  cases h : r.whole cs with
  | none => rfl
  | some a => exact absurd (hr.of_whole h c hc) hP

end Reads

end Readers
