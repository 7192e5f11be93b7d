import Mathlib.Data.List.DropRight
import Mathlib.Data.String.Basic
import Mathlib.Tactic.Common

/-!
# Texts

`str::trim` and the white space it takes away.

* `trim_between`: what white space surrounds is what is left of it.
* `trim_of_visible`: a text from a visible character to a visible character is still there.
-/

namespace NebulaId

/-- `char::is_whitespace` -/
def isWhitespace (c : Char) : Bool :=
  let n := c.toNat
  decide ((9 ≤ n ∧ n ≤ 13) ∨ n ∈ [0x20, 0x85, 0xA0, 0x1680, 0x2028, 0x2029, 0x202F, 0x205F, 0x3000] ∨
    (0x2000 ≤ n ∧ n ≤ 0x200A))

namespace Text

/-- `str::trim` -/
def trim (cs : List Char) : List Char := (cs.dropWhile isWhitespace).rdropWhile isWhitespace

/-- `splitn(2, c)` -/
def splitTwo (c : Char) (cs : List Char) : List (List Char) :=
  match cs.dropWhile (· ≠ c) with
  | [] => [cs]
  | _ :: rest => [cs.takeWhile (· ≠ c), rest]

/-- Nothing is left of white space, and only of white space. -/
theorem trim_eq_nil_iff {cs : List Char} : trim cs = [] ↔ ∀ c ∈ cs, isWhitespace c = true := by
  unfold trim
  rw [List.rdropWhile_eq_nil_iff]
  constructor
  · intro h
    have hdrop : cs.dropWhile isWhitespace = [] := by
      by_contra hne
      have hhead : isWhitespace ((cs.dropWhile isWhitespace).head hne) = false :=
        List.head_dropWhile_not isWhitespace hne
      rw [h _ (List.head_mem hne)] at hhead
      cases hhead
    exact List.dropWhile_eq_nil_iff.mp hdrop
  · intro h
    rw [List.dropWhile_eq_nil_iff.mpr h]
    exact List.forall_mem_nil _

/-- What white space surrounds is what is left of it. -/
theorem trim_between {before text after : List Char} (hbefore : ∀ c ∈ before, isWhitespace c = true)
    (hafter : ∀ c ∈ after, isWhitespace c = true) (htext : ∀ c ∈ text, isWhitespace c = false)
    (hne : text ≠ []) : trim (before ++ text ++ after) = text := by
  have hkept : ∀ l : List Char, l ≠ [] → (∀ c ∈ l, isWhitespace c = false) → ∀ rest,
      (l ++ rest).dropWhile isWhitespace = l ++ rest := by
    intro l hl hall rest
    obtain ⟨c, l', rfl⟩ := List.exists_cons_of_ne_nil hl
    refine List.dropWhile_cons_of_neg ?_
    rw [hall c List.mem_cons_self]
    exact Bool.false_ne_true
  rw [trim, List.append_assoc, List.dropWhile_append_of_pos hbefore, hkept text hne htext after,
    List.rdropWhile, List.reverse_append, List.dropWhile_append_of_pos, ← List.append_nil
      text.reverse, hkept text.reverse, List.append_nil, List.reverse_reverse]
  · exact fun h => hne (List.reverse_eq_nil_iff.mp h)
  · exact fun c hc => htext c (List.mem_reverse.mp hc)
  · exact fun c hc => hafter c (List.mem_reverse.mp hc)

/-- What stands before a visible character is kept with it. -/
theorem rdropWhile_append_of_neg {cs : List Char} {c : Char} (hc : isWhitespace c = false)
    (rest : List Char) : ∃ kept, (cs ++ c :: rest).rdropWhile isWhitespace = cs ++ c :: kept := by
  induction rest using List.reverseRecOn with
  | nil =>
    refine ⟨[], List.rdropWhile_concat_neg isWhitespace cs c ?_⟩
    rw [hc]
    exact Bool.false_ne_true
  | append_singleton rest d ih =>
    have hsplit : cs ++ c :: (rest ++ [d]) = (cs ++ c :: rest) ++ [d] := by
      rw [List.append_assoc, List.cons_append]
    rw [hsplit]
    by_cases hd : isWhitespace d = true
    · rw [List.rdropWhile_concat_pos isWhitespace _ d hd]
      exact ih
    · rw [List.rdropWhile_concat_neg isWhitespace _ d hd]
      exact ⟨rest ++ [d], hsplit.symm⟩

/-- A text from a visible character to a visible character is still there. -/
theorem trim_of_visible {b c : Char} (hb : isWhitespace b = false) (hc : isWhitespace c = false)
    (cs rest : List Char) : ∃ kept, trim (b :: cs ++ c :: rest) = b :: cs ++ c :: kept := by
  have hdrop : (b :: cs ++ c :: rest).dropWhile isWhitespace = b :: cs ++ c :: rest := by
    refine List.dropWhile_cons_of_neg ?_
    rw [hb]
    exact Bool.false_ne_true
  rw [trim, hdrop]
  exact rdropWhile_append_of_neg hc rest

theorem utf8Len_replicate (c : Char) (n : ℕ) :
    String.utf8Len (List.replicate n c) = n * c.utf8Size := by
  induction n with
  | zero => rw [List.replicate_zero, String.utf8Len_nil, Nat.zero_mul]
  | succ n ih => rw [List.replicate_succ, String.utf8Len_cons, ih, Nat.succ_mul]

end Text

end NebulaId
