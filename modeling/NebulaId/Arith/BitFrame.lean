import Mathlib.Data.Nat.Bitwise
import Mathlib.Algebra.Order.Ring.Nat
import Mathlib.Tactic.Ring

/-!
# Words framed by a high and a low field

`word T high mid low` puts `high` at bit `T` and up, and ORs a fixed middle part and a low
part into the rest. The fields are not masked, so the middle may run over its neighbours.
For fields `high < 2 ^ (N - T)` and `low < 2 ^ S` of an `N`-bit word:

* `word_injective_iff`: the two fields can be read back exactly when `S ≤ T` and the
  middle stays within the bits `[S, T)`.
* `words_apart_iff`: two middles never give the same word exactly when they differ in one
  of the bits `[S, T)`, which neither field can reach.
* `word_lt_word`: with the middle inside its window the word grows with `(high, low)` in
  lexicographic order.
-/

namespace BitFrame

/-- Every set bit of `n` lies in the positions `[lo, hi)`. -/
def Within (lo hi n : ℕ) : Prop := ∀ i, n.testBit i = true → lo ≤ i ∧ i < hi

/-- `high` from bit `T` up, ORed with the middle and the low part. -/
def word (T high mid low : ℕ) : ℕ := (high <<< T) ||| mid ||| low

/-- The fields that fit an `N`-bit word with `S` low bits and the high field at bit `T`. -/
def Fits (N T S high low : ℕ) : Prop := high < 2 ^ (N - T) ∧ low < 2 ^ S

theorem testBit_word (T high mid low i : ℕ) :
    (word T high mid low).testBit i =
      (decide (T ≤ i) && high.testBit (i - T) || mid.testBit i || low.testBit i) := by
  simp only [word, Nat.testBit_or, Nat.testBit_shiftLeft, ge_iff_le]

/-! ## The window of the middle part -/

theorem Within.or {lo hi a b : ℕ} (ha : Within lo hi a) (hb : Within lo hi b) :
    Within lo hi (a ||| b) := by
  intro i hi'
  rw [Nat.testBit_or, Bool.or_eq_true] at hi'
  exact hi'.elim (ha i) (hb i)

theorem Within.mono {lo hi lo' hi' n : ℕ} (h : Within lo hi n) (hlo : lo' ≤ lo)
    (hhi : hi ≤ hi') : Within lo' hi' n := fun i hn =>
  ⟨hlo.trans (h i hn).1, (h i hn).2.trans_le hhi⟩

/-- A shifted field sits in the window it was given. -/
theorem within_shiftLeft {n k m : ℕ} (h : n < 2 ^ m) : Within k (k + m) (n <<< k) := by
  intro i hi
  rw [Nat.testBit_shiftLeft, Bool.and_eq_true, decide_eq_true_eq] at hi
  refine ⟨hi.1, ?_⟩
  by_contra hge
  have hlt : n < 2 ^ (i - k) := h.trans_le (Nat.pow_le_pow_right (by omega) (by omega))
  rw [Nat.testBit_lt_two_pow hlt] at hi
  exact Bool.false_ne_true hi.2

theorem Within.lt_two_pow {lo hi n : ℕ} (h : Within lo hi n) : n < 2 ^ hi := by
  apply Nat.lt_pow_two_of_testBit
  intro i hi'
  by_contra hne
  have := (h i (by simpa using hne)).2
  omega

theorem Within.dvd {lo hi n : ℕ} (h : Within lo hi n) : 2 ^ lo ∣ n := by
  refine ⟨n >>> lo, ?_⟩
  rw [Nat.mul_comm, ← Nat.shiftLeft_eq]
  apply Nat.eq_of_testBit_eq
  intro i
  rw [Nat.testBit_shiftLeft, Nat.testBit_shiftRight]
  by_cases hi' : lo ≤ i
  · simp [hi', Nat.add_sub_cancel' hi']
  · have : n.testBit i = false := by
      by_contra hne
      exact hi' (h i (by simpa using hne)).1
    simp [hi', this]

/-! ## Reading the fields back -/

/-- A bit of a small number is clear. -/
theorem testBit_of_lt {n k i : ℕ} (h : n < 2 ^ k) (hi : k ≤ i) : n.testBit i = false :=
  Nat.testBit_lt_two_pow (h.trans_le (Nat.pow_le_pow_right (by omega) hi))

/-- Inside the window only the middle part shows. -/
theorem testBit_word_window {N T S high mid low i : ℕ} (h : Fits N T S high low)
    (hS : S ≤ i) (hT : i < T) : (word T high mid low).testBit i = mid.testBit i := by
  rw [testBit_word, testBit_of_lt h.2 hS]
  simp [Nat.not_le.mpr hT]

theorem testBit_word_high {N T S high mid low i : ℕ} (h : Fits N T S high low)
    (hST : S ≤ T) (hmid : Within S T mid) (hi : T ≤ i) :
    (word T high mid low).testBit i = high.testBit (i - T) := by
  have hm : mid.testBit i = false := by
    by_contra hne
    have := (hmid i (by simpa using hne)).2
    omega
  rw [testBit_word, testBit_of_lt h.2 (hST.trans hi), hm]
  simp [hi]

theorem testBit_word_low {T S high mid low i : ℕ} (hST : S ≤ T) (hmid : Within S T mid)
    (hi : i < S) : (word T high mid low).testBit i = low.testBit i := by
  have hm : mid.testBit i = false := by
    by_contra hne
    have := (hmid i (by simpa using hne)).1
    omega
  rw [testBit_word, hm]
  simp [Nat.not_le.mpr (hi.trans_le hST)]

/-- A middle part inside its window leaves both fields readable. -/
theorem word_injective {N T S mid high low high' low' : ℕ} (hST : S ≤ T)
    (hmid : Within S T mid) (h : Fits N T S high low) (h' : Fits N T S high' low')
    (he : word T high mid low = word T high' mid low') : high = high' ∧ low = low' := by
  constructor
  · apply Nat.eq_of_testBit_eq
    intro i
    have hbit := congrArg (fun n => n.testBit (T + i)) he
    simpa [testBit_word_high h hST hmid, testBit_word_high h' hST hmid] using hbit
  · apply Nat.eq_of_testBit_eq
    intro i
    by_cases hi : i < S
    · have hbit := congrArg (fun n => n.testBit i) he
      simpa [testBit_word_low hST hmid hi] using hbit
    · rw [testBit_of_lt h.2 (by omega), testBit_of_lt h'.2 (by omega)]

theorem or_two_pow_of_testBit {n i : ℕ} (h : n.testBit i = true) : n ||| 2 ^ i = n := by
  apply Nat.eq_of_testBit_eq
  intro j
  rw [Nat.testBit_or, Nat.testBit_two_pow]
  by_cases hij : i = j
  · subst hij
    simp [h]
  · simp [hij]

/-- **Reading back.** The high and the low field of every word with this middle part can
be recovered exactly when the middle part stays inside its window. -/
theorem word_injective_iff {N T S mid : ℕ} (hTN : T < N) (hmid : mid < 2 ^ N) :
    (∀ high low high' low', Fits N T S high low → Fits N T S high' low' →
      word T high mid low = word T high' mid low' → high = high' ∧ low = low') ↔
      S ≤ T ∧ Within S T mid := by
  refine ⟨fun h => ?_, fun ⟨hST, hw⟩ _ _ _ _ hf hf' he => word_injective hST hw hf hf' he⟩
  have hzero : Fits N T S 0 0 := ⟨Nat.two_pow_pos _, Nat.two_pow_pos _⟩
  have hST : S ≤ T := by
    by_contra hlt
    have h1 : Fits N T S 1 0 := ⟨Nat.one_lt_two_pow (by omega), Nat.two_pow_pos _⟩
    have h2 : Fits N T S 0 (2 ^ T) :=
      ⟨Nat.two_pow_pos _, Nat.pow_lt_pow_right (by omega) (by omega)⟩
    have := h 1 0 0 (2 ^ T) h1 h2 (by simp [word, Nat.one_shiftLeft, Nat.lor_comm])
    omega
  refine ⟨hST, fun i hi => ?_⟩
  by_contra hout
  by_cases hlow : i < S
  · -- the middle covers a bit of the low field
    have h1 : Fits N T S 0 (2 ^ i) :=
      ⟨Nat.two_pow_pos _, Nat.pow_lt_pow_right (by omega) hlow⟩
    have := h 0 (2 ^ i) 0 0 h1 hzero (by simp [word, or_two_pow_of_testBit hi])
    have := Nat.two_pow_pos i
    omega
  · -- the middle covers a bit of the high field
    have hiN : i < N := by
      by_contra hge
      rw [testBit_of_lt hmid (by omega)] at hi
      exact Bool.false_ne_true hi
    have h1 : Fits N T S (2 ^ (i - T)) 0 :=
      ⟨Nat.pow_lt_pow_right (by omega) (by omega), Nat.two_pow_pos _⟩
    have he : word T (2 ^ (i - T)) mid 0 = word T 0 mid 0 := by
      have hsh : 2 ^ (i - T) <<< T = 2 ^ i := by
        rw [Nat.shiftLeft_eq, ← Nat.pow_add, Nat.sub_add_cancel (by omega)]
      simp only [word, hsh, Nat.zero_shiftLeft, Nat.zero_or, Nat.or_zero]
      rw [Nat.lor_comm, or_two_pow_of_testBit hi]
    have := (h _ 0 0 0 h1 hzero he).1
    have := Nat.two_pow_pos (i - T)
    omega

/-- **Keeping apart.** Two middle parts never give the same word exactly when they differ
in a bit that neither the high nor the low field can reach. -/
theorem words_apart_iff {N T S mid mid' : ℕ} (hmid : mid < 2 ^ N) (hmid' : mid' < 2 ^ N) :
    (∀ high low high' low', Fits N T S high low → Fits N T S high' low' →
      word T high mid low ≠ word T high' mid' low') ↔
      ∃ i, S ≤ i ∧ i < T ∧ mid.testBit i ≠ mid'.testBit i := by
  constructor
  · intro h
    by_contra hall
    have hagree : ∀ i, S ≤ i → i < T → mid.testBit i = mid'.testBit i := by
      intro i hS hT
      by_contra hne
      exact hall ⟨i, hS, hT, hne⟩
    -- fill both reachable fields with ones: only the window is left to tell them apart
    have hf : Fits N T S (2 ^ (N - T) - 1) (2 ^ S - 1) :=
      ⟨Nat.sub_lt (Nat.two_pow_pos _) Nat.one_pos, Nat.sub_lt (Nat.two_pow_pos _) Nat.one_pos⟩
    refine h _ _ _ _ hf hf (Nat.eq_of_testBit_eq fun i => ?_)
    simp only [testBit_word, Nat.testBit_two_pow_sub_one]
    by_cases hS : i < S
    · simp [hS]
    · by_cases hT : T ≤ i
      · by_cases hN : i < N
        · simp [hT, show i - T < N - T by omega]
        · rw [testBit_of_lt hmid (by omega), testBit_of_lt hmid' (by omega)]
      · rw [hagree i (by omega) (by omega)]
  · rintro ⟨i, hS, hT, hne⟩ high low high' low' hf hf' he
    apply hne
    rw [← testBit_word_window hf hS hT, he, testBit_word_window hf' hS hT]

/-! ## The order of words -/

theorem word_eq_add {T S high mid low : ℕ} (hST : S ≤ T) (hmid : Within S T mid)
    (hlow : low < 2 ^ S) : word T high mid low = high * 2 ^ T + mid + low := by
  obtain ⟨m, rfl⟩ := hmid.dvd
  have h1 : (high <<< T) ||| 2 ^ S * m = high * 2 ^ T + 2 ^ S * m := by
    rw [← Nat.shiftLeft_add_eq_or_of_lt hmid.lt_two_pow, Nat.shiftLeft_eq]
  have h2 : high * 2 ^ T + 2 ^ S * m = (high * 2 ^ (T - S) + m) <<< S := by
    rw [Nat.shiftLeft_eq, Nat.add_mul, Nat.mul_assoc, ← Nat.pow_add, Nat.sub_add_cancel hST,
      Nat.mul_comm m]
  rw [word, h1, h2, ← Nat.shiftLeft_add_eq_or_of_lt hlow]

/-- The middle and the low part stay below the high field. -/
theorem mid_add_low_lt {T S mid low : ℕ} (hST : S ≤ T) (hmid : Within S T mid)
    (hlow : low < 2 ^ S) : mid + low < 2 ^ T := by
  obtain ⟨m, rfl⟩ := hmid.dvd
  have hT : 2 ^ T = 2 ^ S * 2 ^ (T - S) := by rw [← Nat.pow_add, Nat.add_sub_cancel' hST]
  have hm : m < 2 ^ (T - S) := by
    have := hmid.lt_two_pow
    rw [hT] at this
    exact Nat.lt_of_mul_lt_mul_left this
  calc 2 ^ S * m + low < 2 ^ S * m + 2 ^ S := by omega
    _ = 2 ^ S * (m + 1) := by ring
    _ ≤ 2 ^ T := by rw [hT]; exact Nat.mul_le_mul_left _ hm

/-- The word grows with the pair of its fields in lexicographic order. -/
theorem word_lt_word {T S mid high low high' low' : ℕ} (hST : S ≤ T)
    (hmid : Within S T mid) (hlow : low < 2 ^ S) (hlow' : low' < 2 ^ S)
    (h : high < high' ∨ high = high' ∧ low < low') :
    word T high mid low < word T high' mid low' := by
  rw [word_eq_add hST hmid hlow, word_eq_add hST hmid hlow']
  rcases h with hlt | ⟨rfl, hlt⟩
  · have hb := mid_add_low_lt hST hmid hlow
    have hm : (high + 1) * 2 ^ T ≤ high' * 2 ^ T := Nat.mul_le_mul_right _ hlt
    rw [Nat.add_mul, Nat.one_mul] at hm
    omega
  · omega

end BitFrame
