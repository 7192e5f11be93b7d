import Mathlib.Computability.Language

/-!
# Glob patterns

The texts of a pattern are a language: the product of the languages of its letters, of which one
stands for any text and another for any letter.

* `mem_glob_many`, `mem_glob_one`, `mem_glob_letter`: the texts, from the first letter of the pattern.
* `mem_globLanguage`: the texts in pieces, one for each letter of the pattern.
-/

namespace Store

variable {α : Type*} [DecidableEq α] {many one c : α} {pattern text : List α}

/-- The texts of one letter. -/
def anyLetter (α : Type*) : Language α := Set.range List.singleton

/-- What one letter of a pattern stands for. -/
def globLetter (many one c : α) : Language α :=
  if c = many then ⊤ else if c = one then anyLetter α else {[c]}

def globLanguage (many one : α) (pattern : List α) : Language α :=
  (pattern.map (globLetter many one)).prod

theorem mem_glob_nil : text ∈ globLanguage many one [] ↔ text = [] := Language.mem_one text

theorem globLanguage_cons : globLanguage many one (c :: pattern) =
    globLetter many one c * globLanguage many one pattern := List.prod_cons

theorem mem_glob_many : text ∈ globLanguage many one (many :: pattern) ↔
    ∃ skip ≤ text.length, text.drop skip ∈ globLanguage many one pattern := by
  rw [globLanguage_cons, globLetter, if_pos rfl, Language.mem_mul]
  constructor
  · rintro ⟨before, -, rest, hrest, rfl⟩
    refine ⟨before.length, by simp, ?_⟩
    rwa [List.drop_left]
  · rintro ⟨skip, -, hrest⟩
    exact ⟨text.take skip, trivial, text.drop skip, hrest, List.take_append_drop skip text⟩

theorem mem_glob_one (h : one ≠ many) : text ∈ globLanguage many one (one :: pattern) ↔
    ∃ d rest, text = d :: rest ∧ rest ∈ globLanguage many one pattern := by
  rw [globLanguage_cons, globLetter, if_neg h, if_pos rfl, Language.mem_mul]
  constructor
  · rintro ⟨_, ⟨d, rfl⟩, rest, hrest, rfl⟩
    exact ⟨d, rest, rfl, hrest⟩
  · rintro ⟨d, rest, rfl, hrest⟩
    exact ⟨[d], ⟨d, rfl⟩, rest, hrest, rfl⟩

theorem mem_glob_letter (hmany : c ≠ many) (hone : c ≠ one) :
    text ∈ globLanguage many one (c :: pattern) ↔
      ∃ rest, text = c :: rest ∧ rest ∈ globLanguage many one pattern := by
  rw [globLanguage_cons, globLetter, if_neg hmany, if_neg hone, Language.mem_mul]
  constructor
  · rintro ⟨before, rfl, rest, hrest, rfl⟩
    exact ⟨rest, rfl, hrest⟩
  · rintro ⟨rest, rfl, hrest⟩
    exact ⟨[c], rfl, rest, hrest, rfl⟩

/-- The letter of the pattern takes the piece. -/
def Takes (many one c : α) (piece : List α) : Prop :=
  if c = many then True else if c = one then ∃ d, piece = [d] else piece = [c]

/-- The text can be split along the pattern. -/
def Splits (many one : α) (pattern text : List α) : Prop :=
  ∃ pieces, pieces.flatten = text ∧ List.Forall₂ (Takes many one) pattern pieces

theorem takes_iff {piece : List α} : Takes many one c piece ↔ piece ∈ globLetter many one c := by
  unfold Takes globLetter
  split
  · exact iff_of_true trivial trivial
  · split
    · exact ⟨fun ⟨d, h⟩ => ⟨d, h.symm⟩, fun ⟨d, h⟩ => ⟨d, h.symm⟩⟩
    · exact Iff.rfl

theorem mem_globLanguage :
    text ∈ globLanguage many one pattern ↔ Splits many one pattern text := by
  induction pattern generalizing text with
  | nil =>
    rw [mem_glob_nil]
    constructor
    · rintro rfl
      exact ⟨[], rfl, List.Forall₂.nil⟩
    · rintro ⟨pieces, rfl, hpieces⟩
      cases hpieces
      rfl
  | cons c rest ih =>
    rw [globLanguage_cons, Language.mem_mul]
    constructor
    · rintro ⟨piece, hpiece, tail, htail, rfl⟩
      obtain ⟨pieces, rfl, hpieces⟩ := ih.mp htail
      exact ⟨piece :: pieces, rfl, List.Forall₂.cons (takes_iff.mpr hpiece) hpieces⟩
    · rintro ⟨pieces, rfl, hpieces⟩
      cases hpieces with
      | @cons _ piece _ pieces hpiece hpieces =>
        exact ⟨piece, takes_iff.mp hpiece, pieces.flatten, ih.mpr ⟨pieces, rfl, hpieces⟩, rfl⟩

/-- One letter for any text is enough, and more do no harm. -/
theorem splits_many (text : List α) (n : ℕ) :
    Splits many one (List.replicate (n + 1) many) text := by
  have hnone : List.Forall₂ (Takes many one) (List.replicate n many) (List.replicate n []) := by
    induction n with
    | zero => exact List.Forall₂.nil
    | succ n ih => exact List.Forall₂.cons (by rw [Takes, if_pos rfl]; trivial) ih
  refine ⟨text :: List.replicate n [], ?_, ?_⟩
  · simp
  · exact List.Forall₂.cons (by rw [Takes, if_pos rfl]; trivial) hnone

end Store
