import NebulaId.Machine.Run
import NebulaId.Segment.Buffer
import NebulaId.Store.Timeline

/-!
# The load rate that the step goes by (`core/algorithm/segment.rs`)

The loader of a segment counts its calls in 60 slots, one for each second since its window was
opened, and takes the average over the seconds so far; `calculateStep` goes by it. The first call
60 seconds after that, or later, empties the slots and opens a new window: the calls of the old one
are forgotten at once.

* `Holds`: the slots hold the calls of each second since the window was opened.
* `recordAndGetQps_iff`: when a call returns the average over the last 60 seconds.
-/

namespace NebulaId

namespace Loader

open Machine Timeline

/-- `DEFAULT_QPS_BASELINE` -/
def defaultQpsBaseline : UInt64 := 1000

/-- `WINDOW_SIZE` -/
def windowSize : ℕ := 60

/-- `Iterator::rposition`: the index of the last element that meets `p`. -/
def rposition {α : Type*} (p : α → Bool) : List α → Option ℕ
  | [] => none
  | a :: l => match rposition p l with
    | some i => some (i + 1)
    | none => if p a then some 0 else none

structure QpsWindow where
  counters : List UInt64
  startSecond : UInt64

namespace QpsWindow

def new (startSecond : UInt64) : QpsWindow := ⟨List.replicate windowSize 0, startSecond⟩

/-- `record_and_get_qps`, which holds the mutex of the window from start to end. -/
def recordAndGetQps (w : QpsWindow) (now : UInt64) : UInt64 × QpsWindow :=
  let elapsed := (saturatingSub now w.startSecond).toNat
  if elapsed ≥ windowSize then
    (defaultQpsBaseline, ⟨(w.counters.map fun _ => 0).set 0 1, now⟩)
  else
    let currentSlot := elapsed % windowSize
    let counters := w.counters.modify currentSlot (· + 1)
    let totalCount := counters.foldl (· + ·) 0
    let activeSlots := ((rposition (fun c => c > 0) counters).map (· + 1)).getD 1
    let avgSecs := UInt64.ofNat (max activeSlots 1)
    let qps := totalCount / avgSecs
    (max qps defaultQpsBaseline, { w with counters })

end QpsWindow

/-! ## Slots -/

section Slots

variable {log : List (ℕ × ℕ)} {start now n k : ℕ}

theorem rposition_eq_none {α : Type*} {p : α → Bool} {l : List α} (h : ∀ a ∈ l, ¬ p a) :
    rposition p l = none := by
  induction l with
  | nil => rfl
  | cons a l ih =>
    rw [rposition, ih fun b hb => h b (List.mem_cons_of_mem _ hb)]
    exact if_neg (h a List.mem_cons_self)

theorem rposition_map_range {α : Type*} {p : α → Bool} (f : ℕ → α) (hk : k < n) (hp : p (f k))
    (hnot : ∀ j, k < j → ¬ p (f j)) : rposition p ((List.range n).map f) = some k := by
  induction n generalizing k f with
  | zero => exact absurd hk (Nat.not_lt_zero k)
  | succ n ih =>
    rw [List.range_succ_eq_map, List.map_cons, List.map_map, rposition]
    cases k with
    | zero =>
      have hnone : rposition p ((List.range n).map (f ∘ Nat.succ)) = none := by
        refine rposition_eq_none fun a ha => ?_
        obtain ⟨j, -, rfl⟩ := List.mem_map.mp ha
        exact hnot (j + 1) (Nat.succ_pos j)
      rw [hnone]
      exact if_pos hp
    | succ k =>
      have hrest := ih (f ∘ Nat.succ) (Nat.lt_of_succ_lt_succ hk) hp
        fun j hj => hnot (j + 1) (Nat.succ_lt_succ hj)
      rw [hrest]

theorem foldl_ofNat (l : List ℕ) :
    (l.map UInt64.ofNat).foldl (· + ·) 0 = UInt64.ofNat l.sum := by
  suffices h : ∀ acc, (l.map UInt64.ofNat).foldl (· + ·) acc = acc + UInt64.ofNat l.sum from
    (h 0).trans (UInt64.zero_add _)
  induction l with
  | nil => exact fun acc => (UInt64.add_zero acc).symm
  | cons a l ih =>
    intro acc
    rw [List.map_cons, List.foldl_cons, ih, List.sum_cons, UInt64.ofNat_add, UInt64.add_assoc]

/-- One entry of a table changes. -/
theorem modify_map_range {α : Type*} {f g : ℕ → α} {h : α → α} (hk : h (f k) = g k)
    (hne : ∀ j, j ≠ k → f j = g j) :
    ((List.range n).map f).modify k h = (List.range n).map g := by
  refine List.ext_getElem? fun j => ?_
  rw [List.getElem?_modify, List.getElem?_map, List.getElem?_map]
  cases hj : (List.range n)[j]? with
  | none => rfl
  | some i =>
    obtain ⟨hlt, rfl⟩ := List.getElem?_eq_some_iff.mp hj
    rw [List.getElem_range]
    refine congrArg some ?_
    by_cases hkj : k = j
    · subst hkj
      exact (if_pos rfl).trans hk
    · exact (if_neg hkj).trans (hne j (Ne.symm hkj))

/-- The calls of each second from `start` on; a counter wraps. -/
def counters (log : List (ℕ × ℕ)) (start : ℕ) : List UInt64 :=
  (List.range windowSize).map fun i => UInt64.ofNat (inSecond log (start + i))

theorem modify_counters (hle : start ≤ now) :
    (counters log start).modify (now - start) (· + 1) = counters ((now, 1) :: log) start := by
  refine modify_map_range ?_ fun j hj => ?_
  · have hnow : start + (now - start) = now := by omega
    rw [hnow, inSecond_cons_self, Nat.add_comm, UInt64.ofNat_add]
    rfl
  · rw [inSecond_cons_ne (by omega)]

/-- The slots of a window that the present call opens. -/
theorem reset_counters (l : List UInt64) (hl : l.length = windowSize)
    (hold : ∀ e ∈ log, e.1 < now) :
    (l.map fun _ => 0).set 0 1 = counters ((now, 1) :: log) now := by
  have hzero : counters log now = List.replicate windowSize 0 := by
    rw [counters, ← List.length_range (n := windowSize), ← List.map_const']
    refine List.map_congr_left fun i _ => ?_
    rw [inSecond_eq_zero fun e he => (by have := hold e he; omega)]
    rfl
  rw [← modify_counters (Nat.le_refl now), hzero, List.map_const', hl, Nat.sub_self]
  rfl

theorem length_counters : (counters log start).length = windowSize := by
  rw [counters, List.length_map, List.length_range]

/-- The slots together are the calls of their seconds. -/
theorem foldl_counters : (counters log start).foldl (· + ·) 0 =
    UInt64.ofNat (between log start (start + windowSize)) := by
  have hmap : counters log start =
      ((List.range windowSize).map fun i => inSecond log (start + i)).map UInt64.ofNat := by
    rw [counters, List.map_map]
    rfl
  rw [hmap, foldl_ofNat, sum_inSecond]

/-- The last slot that is not empty is that of the present second. -/
theorem rposition_counters (hk : now - start < windowSize) (hle : start ≤ now)
    (hpast : ∀ e ∈ log, e.1 ≤ now) (hpos : 0 < inSecond log now)
    (hfew : inSecond log now < 2 ^ 64) :
    rposition (fun c => c > 0) (counters log start) = some (now - start) := by
  refine rposition_map_range _ hk ?_ fun j hj => ?_
  · have hnow : start + (now - start) = now := by omega
    have hword : (UInt64.ofNat (inSecond log now)).toNat = inSecond log now :=
      UInt64.toNat_ofNat_of_lt hfew
    rw [hnow, decide_eq_true_eq, gt_iff_lt, UInt64.lt_iff_toNat_lt, hword]
    exact hpos
  · rw [inSecond_eq_zero fun e he => (by have := hpast e he; omega)]
    decide

/-- The slots add up to the calls since `start`. -/
theorem toNat_foldl_counters (hk : now - start < windowSize) (hle : start ≤ now)
    (hpast : ∀ e ∈ log, e.1 ≤ now) (hfew : between log start (now + 1) < 2 ^ 64) :
    ((counters log start).foldl (· + ·) 0).toNat = between log start (now + 1) := by
  have hrest : between log (now + 1) (start + windowSize) = 0 :=
    between_eq_zero fun e he => Or.inl (Nat.lt_succ_of_le (hpast e he))
  have hparts : between log start (now + 1) + between log (now + 1) (start + windowSize) =
      between log start (start + windowSize) := between_add (by omega) (by omega)
  rw [foldl_counters, ← hparts, hrest, Nat.add_zero]
  exact UInt64.toNat_ofNat_of_lt hfew

/-- What `record_and_get_qps` makes of the slots when the last call is the present one. -/
theorem toNat_average_counters (hk : now - start < windowSize) (hle : start ≤ now)
    (hpast : ∀ e ∈ log, e.1 ≤ now) (hpos : 0 < inSecond log now)
    (hfew : between log start (now + 1) < 2 ^ 64) :
    ((counters log start).foldl (· + ·) 0 / UInt64.ofNat
        (max (((rposition (fun c => c > 0) (counters log start)).map (· + 1)).getD 1) 1)).toNat =
      between log start (now + 1) / (now - start + 1) := by
  have hcurrent : inSecond log now ≤ between log start (now + 1) :=
    inSecond_le_between hle (Nat.lt_succ_self now)
  have hactive := rposition_counters hk hle hpast hpos (hcurrent.trans_lt hfew)
  have hsmall : now - start + 1 < 2 ^ 64 :=
    Nat.lt_of_le_of_lt (Nat.succ_le_of_lt hk) (by decide)
  have hsecs : (UInt64.ofNat (now - start + 1)).toNat = now - start + 1 :=
    UInt64.toNat_ofNat_of_lt hsmall
  rw [hactive, Option.map_some, Option.getD_some, Nat.max_eq_left (Nat.succ_pos _),
    UInt64.toNat_div, toNat_foldl_counters hk hle hpast hfew, hsecs]

end Slots

/-! ## Runs -/

/-- A window, the latest reading of the clock, and the calls, newest first. -/
structure LoadRun where
  window : QpsWindow
  clock : UInt64
  log : List (ℕ × ℕ)

namespace LoadRun

def new (now : UInt64) : LoadRun := ⟨.new now, now, []⟩

/-- The calls with one at `now`. -/
def called (r : LoadRun) (now : UInt64) : List (ℕ × ℕ) := (now.toNat, 1) :: r.log

/-- A call of `record_and_get_qps`; the clock does not go back. -/
def step (r : LoadRun) (now : UInt64) : Option LoadRun :=
  if now < r.clock then none else some ⟨(r.window.recordAndGetQps now).2, now, r.called now⟩

/-- When the window was opened that a call at `now` is counted in. -/
def opened (w : QpsWindow) (now : UInt64) : ℕ :=
  if windowSize ≤ now.toNat - w.startSecond.toNat then now.toNat else w.startSecond.toNat

/-- The slots hold the calls of each second since the window was opened. -/
structure Holds (r : LoadRun) : Prop where
  start : r.window.startSecond.toNat ≤ r.clock.toNat
  past : ∀ e ∈ r.log, e.1 ≤ r.clock.toNat
  within : ∀ e ∈ r.log, e.1 < r.window.startSecond.toNat + windowSize
  slots : r.window.counters = counters r.log r.window.startSecond.toNat

theorem Holds.new (now : UInt64) : Holds (LoadRun.new now) where
  start := Nat.le_refl _
  past e he := by cases he
  within e he := by cases he
  slots := rfl

section Holds

variable {r r' : LoadRun} {now : UInt64}

/-- What a call leaves of the window. -/
theorem Holds.window_eq (h : Holds r) (hnow : r.clock.toNat ≤ now.toNat) :
    (r.window.recordAndGetQps now).2.startSecond.toNat = opened r.window now ∧
      (r.window.recordAndGetQps now).2.counters =
        counters (r.called now) (opened r.window now) := by
  have hstart := h.start.trans hnow
  unfold QpsWindow.recordAndGetQps opened
  simp only [toNat_saturatingSub, ge_iff_le]
  split
  · rename_i hlong
    refine ⟨rfl, ?_⟩
    rw [h.slots]
    refine reset_counters _ length_counters fun e he => ?_
    have hopen := h.within e he
    omega
  · rename_i hshort
    refine ⟨rfl, ?_⟩
    rw [h.slots, Nat.mod_eq_of_lt (Nat.not_le.mp hshort)]
    exact modify_counters hstart

theorem opened_le (h : Holds r) (hnow : r.clock.toNat ≤ now.toNat) :
    opened r.window now ≤ now.toNat ∧ now.toNat - opened r.window now < windowSize := by
  have hstart := h.start.trans hnow
  unfold opened
  split
  · exact ⟨Nat.le_refl _, by rw [Nat.sub_self]; decide⟩
  · rename_i hshort
    exact ⟨hstart, Nat.not_le.mp hshort⟩

theorem Holds.called_le (h : Holds r) (hnow : r.clock.toNat ≤ now.toNat) :
    ∀ e ∈ r.called now, e.1 ≤ now.toNat := by
  intro e he
  rcases List.mem_cons.mp he with rfl | he
  · exact Nat.le_refl _
  · exact (h.past e he).trans hnow

theorem Holds.step (h : Holds r) (hs : r.step now = some r') : Holds r' := by
  unfold LoadRun.step at hs
  split at hs
  · cases hs
  · rename_i hclock
    cases hs
    have hnow := UInt64.le_iff_toNat_le.mp (UInt64.not_lt.mp hclock)
    obtain ⟨hstart, hslots⟩ := h.window_eq hnow
    obtain ⟨hle, hsize⟩ := opened_le h hnow
    have hpast := h.called_le hnow
    refine ⟨hstart.trans_le hle, hpast, fun e he => ?_, ?_⟩
    · have hle' := hpast e he
      rw [hstart]
      omega
    · rw [hstart]
      exact hslots

theorem Holds.of_reaches {start : UInt64} (h : Reaches LoadRun.step Free (LoadRun.new start) r) :
    Holds r :=
  h.invariant (Holds.new start) fun _ _ _ hi _ hs => hi.step hs

end Holds

/-! ## What a call returns -/

/-- The calls for each second since the window was opened. -/
def windowLoad (r : LoadRun) (now : UInt64) : ℕ :=
  between (r.called now) (opened r.window now) (now.toNat + 1) /
    (now.toNat - opened r.window now + 1)

section Answer

variable {r : LoadRun} {now : UInt64}

theorem toNat_max (a b : UInt64) : (max a b).toNat = max a.toNat b.toNat := by
  have hmax : max a b = if a ≤ b then b else a := rfl
  rw [hmax]
  split
  · rename_i hle
    exact (max_eq_right (UInt64.le_iff_toNat_le.mp hle)).symm
  · rename_i hlt
    exact (max_eq_left (UInt64.le_iff_toNat_le.mp (UInt64.le_of_lt (UInt64.not_le.mp hlt)))).symm

/-- A call returns the average since the window was opened, or the baseline. -/
theorem Holds.answer_eq (h : Holds r) (hnow : r.clock.toNat ≤ now.toNat)
    (hfew : between (r.called now) (opened r.window now) (now.toNat + 1) < 2 ^ 64) :
    (r.window.recordAndGetQps now).1.toNat = max (r.windowLoad now) 1000 := by
  have hstart := h.start.trans hnow
  have hself : inSecond (r.called now) now.toNat = 1 + inSecond r.log now.toNat :=
    inSecond_cons_self
  unfold windowLoad
  unfold QpsWindow.recordAndGetQps
  simp only [toNat_saturatingSub, ge_iff_le]
  split
  · rename_i hlong
    have hopened : opened r.window now = now.toNat := if_pos hlong
    have hold : inSecond r.log now.toNat = 0 := inSecond_eq_zero fun e he => by
      have hwithin := h.within e he
      omega
    have hone : between (r.called now) now.toNat (now.toNat + 1) = 1 := by
      rw [hold] at hself
      exact hself
    rw [hopened, hone, Nat.sub_self]
    rfl
  · rename_i hshort
    have hslot := Nat.not_le.mp hshort
    have hopened : opened r.window now = r.window.startSecond.toNat := if_neg hshort
    have hslots : (counters r.log r.window.startSecond.toNat).modify
        (now.toNat - r.window.startSecond.toNat) (· + 1) =
          counters (r.called now) r.window.startSecond.toNat := modify_counters hstart
    rw [hopened] at hfew ⊢
    rw [h.slots, Nat.mod_eq_of_lt hslot, hslots, toNat_max,
      toNat_average_counters hslot hstart (h.called_le hnow) (by omega) hfew]
    rfl

/-- The second of the first call. -/
def firstCall (log : List (ℕ × ℕ)) (s : ℕ) : ℕ := log.foldr (fun e first => min e.1 first) s

/-- The calls of the last 60 seconds, or since the first call, for each of these seconds. -/
def recentLoad (log : List (ℕ × ℕ)) (s : ℕ) : ℕ :=
  between log (s + 1 - windowSize) (s + 1) / min windowSize (s - firstCall log s + 1)

/-- Both averages come to as many calls a second, or neither exceeds the baseline. -/
def SameLoad (r : LoadRun) (now : UInt64) : Prop :=
  r.windowLoad now = recentLoad (r.called now) now.toNat ∨
    r.windowLoad now ≤ 1000 ∧ recentLoad (r.called now) now.toNat ≤ 1000

theorem firstCall_le {log : List (ℕ × ℕ)} {s : ℕ} : ∀ e ∈ log, firstCall log s ≤ e.1 := by
  induction log with
  | nil => exact fun e he => absurd he List.not_mem_nil
  | cons x log ih =>
    intro e he
    rw [firstCall, List.foldr_cons]
    rcases List.mem_cons.mp he with rfl | he
    · exact Nat.min_le_left _ _
    · exact (Nat.min_le_right _ _).trans (ih e he)

theorem between_firstCall (log : List (ℕ × ℕ)) (s lo hi : ℕ) :
    between log (max lo (firstCall log s)) hi = between log lo hi := by
  refine between_congr_left fun e he => ?_
  rw [Nat.max_le]
  exact and_iff_left (firstCall_le e he)

/-- The averages are the same as long as the window is open that was opened in the second of the
first call. -/
theorem sameLoad_of_first (h : Holds r) (hnow : r.clock.toNat ≤ now.toNat)
    (hfirst : opened r.window now = firstCall (r.called now) now.toNat) : r.SameLoad now := by
  obtain ⟨hle, hsize⟩ := opened_le h hnow
  have hstart : now.toNat + 1 - windowSize ≤ opened r.window now := by omega
  have hsecs : min windowSize (now.toNat - opened r.window now + 1) =
      now.toNat - opened r.window now + 1 := Nat.min_eq_right hsize
  refine Or.inl ?_
  rw [windowLoad, recentLoad, ← hfirst, hsecs,
    ← between_firstCall _ now.toNat (now.toNat + 1 - windowSize), ← hfirst, Nat.max_eq_right hstart]

/-- So they are when no second has more calls than the baseline. -/
theorem sameLoad_of_light (h : Holds r) (hnow : r.clock.toNat ≤ now.toNat)
    (hlight : ∀ s, inSecond (r.called now) s ≤ 1000) : r.SameLoad now := by
  obtain ⟨hle, hsize⟩ := opened_le h hnow
  have hfirst : firstCall (r.called now) now.toNat ≤ now.toNat := firstCall_le _ List.mem_cons_self
  have hbound : ∀ lo, lo ≤ now.toNat →
      between (r.called now) lo (now.toNat + 1) ≤ 1000 * (now.toNat - lo + 1) := by
    intro lo hlo
    have hmul := between_le_mul hlight lo (now.toNat - lo + 1)
    have hend : lo + (now.toNat - lo + 1) = now.toNat + 1 := by omega
    rwa [hend] at hmul
  refine Or.inr ⟨?_, ?_⟩
  · exact Nat.div_le_of_le_mul ((hbound _ hle).trans_eq (Nat.mul_comm _ _))
  · have hsecs : min windowSize (now.toNat - firstCall (r.called now) now.toNat + 1) = now.toNat -
        max (now.toNat + 1 - windowSize) (firstCall (r.called now) now.toNat) + 1 := by
      have hsixty : windowSize = 60 := rfl
      omega
    rw [recentLoad, ← between_firstCall _ now.toNat, hsecs]
    refine Nat.div_le_of_le_mul ((hbound _ ?_).trans_eq (Nat.mul_comm _ _))
    have hsixty : windowSize = 60 := rfl
    omega

/-- In every run a call returns the average over the last 60 seconds, or the baseline where that
is larger, exactly when that average and the one since the window was opened are the same load; so
they are in the window that was opened in the second of the first call, and as long as no second
has more calls than the baseline. -/
theorem recordAndGetQps_iff {start : UInt64}
    (h : Reaches LoadRun.step Free (LoadRun.new start) r) (hnow : r.clock ≤ now)
    (hfew : between (r.called now) (opened r.window now) (now.toNat + 1) < 2 ^ 64) :
    ((r.window.recordAndGetQps now).1.toNat = max (recentLoad (r.called now) now.toNat) 1000 ↔
        r.SameLoad now) ∧
      (opened r.window now = firstCall (r.called now) now.toNat → r.SameLoad now) ∧
      ((∀ s, inSecond (r.called now) s ≤ 1000) → r.SameLoad now) := by
  have hholds := Holds.of_reaches h
  have hle := UInt64.le_iff_toNat_le.mp hnow
  refine ⟨?_, sameLoad_of_first hholds hle, sameLoad_of_light hholds hle⟩
  rw [hholds.answer_eq hle hfew, SameLoad]
  omega

/-- The second call of a window that was opened before the first one. -/
theorem recordAndGetQps_iff_second_call :
    ∃ r, Reaches LoadRun.step Free (LoadRun.new 7) r ∧ r.log = [(8, 1)] ∧
      (r.window.recordAndGetQps 9).1.toNat = max (recentLoad (r.called 9) 9) 1000 := by
  have hstep : (LoadRun.new 7).step 8 =
      some ⟨((LoadRun.new 7).window.recordAndGetQps 8).2, 8, [(8, 1)]⟩ := rfl
  have hreach : Reaches LoadRun.step Free (LoadRun.new 7) _ := Reaches.single trivial hstep
  have hsame := recordAndGetQps_iff hreach (by decide : (8 : UInt64) ≤ 9) (by decide)
  exact ⟨_, hreach, rfl, hsame.1.mpr (Or.inr ⟨by decide, by decide⟩)⟩

end Answer

/-! ## Steady traffic -/

/-- So many calls in each of the seconds `0, .., n - 1`, newest first. -/
def steady (rate : ℕ) : ℕ → List (ℕ × ℕ)
  | 0 => []
  | n + 1 => List.replicate rate (n, 1) ++ steady rate n

section Steady

variable {r : LoadRun} {now : UInt64} {rate n : ℕ}

theorem between_replicate_append (log : List (ℕ × ℕ)) (k t lo hi : ℕ) :
    between (List.replicate k (t, 1) ++ log) lo hi =
      (if lo ≤ t ∧ t < hi then k else 0) + between log lo hi := by
  induction k with
  | zero => simp
  | succ k ih =>
    rw [List.replicate_succ, List.cons_append, between_cons, ih]
    split_ifs <;> omega

theorem between_steady {lo hi : ℕ} (hhi : n ≤ hi) :
    between (steady rate n) lo hi = rate * (n - lo) := by
  induction n with
  | zero =>
    rw [Nat.zero_sub]
    rfl
  | succ n ih =>
    rw [steady, between_replicate_append, ih (by omega)]
    rcases Nat.lt_or_ge n lo with hlt | hle
    · have hnone : n - lo = 0 := by omega
      have hzero : n + 1 - lo = 0 := by omega
      rw [if_neg (by omega), hnone, hzero, Nat.zero_add]
    · rw [if_pos ⟨hle, by omega⟩, Nat.succ_sub hle, Nat.mul_succ, Nat.add_comm]

theorem mem_steady (hrate : 0 < rate) (n : ℕ) : (0, 1) ∈ steady rate (n + 1) := by
  induction n with
  | zero => exact List.mem_append_left _ (List.mem_replicate.mpr ⟨hrate.ne', rfl⟩)
  | succ n ih => exact List.mem_append_right _ ih

/-- Calls in one second while the window stays open. -/
theorem reaches_calls (hclock : r.clock ≤ now)
    (hopen : now.toNat - r.window.startSecond.toNat < windowSize) (k : ℕ) :
    ∃ r', Reaches LoadRun.step Free r r' ∧ r'.log = List.replicate k (now.toNat, 1) ++ r.log ∧
      r'.clock ≤ now ∧ r'.window.startSecond = r.window.startSecond := by
  induction k with
  | zero => exact ⟨r, Reaches.refl r, rfl, hclock, rfl⟩
  | succ k ih =>
    obtain ⟨r', hreach, hlog, hclock', hstart⟩ := ih
    have hstep : r'.step now = some ⟨(r'.window.recordAndGetQps now).2, now, r'.called now⟩ :=
      if_neg (UInt64.not_lt.mpr hclock')
    refine ⟨_, hreach.trans (Reaches.single trivial hstep), ?_, UInt64.le_refl now, ?_⟩
    · rw [called, hlog]
      rfl
    · unfold QpsWindow.recordAndGetQps
      simp only [toNat_saturatingSub, ge_iff_le, hstart]
      rw [if_neg (Nat.not_le.mpr hopen)]

theorem reaches_steady (rate : ℕ) (hn : n ≤ windowSize) :
    ∃ r, Reaches LoadRun.step Free (LoadRun.new 0) r ∧ r.log = steady rate n ∧
      r.clock.toNat ≤ n ∧ r.window.startSecond = 0 := by
  induction n with
  | zero => exact ⟨LoadRun.new 0, Reaches.refl _, rfl, Nat.le_refl 0, rfl⟩
  | succ n ih =>
    obtain ⟨r, hreach, hlog, hclock, hstart⟩ := ih (Nat.le_of_succ_le hn)
    have hword : (UInt64.ofNat n).toNat = n :=
      UInt64.toNat_ofNat_of_lt (Nat.lt_of_lt_of_le hn (by decide))
    have hnow : r.clock ≤ UInt64.ofNat n := by
      rw [UInt64.le_iff_toNat_le, hword]
      exact hclock
    have hopen : (UInt64.ofNat n).toNat - r.window.startSecond.toNat < windowSize := by
      rw [hword]
      exact (Nat.sub_le _ _).trans_lt hn
    obtain ⟨r', hreach', hlog', hclock', hstart'⟩ := reaches_calls hnow hopen rate
    refine ⟨r', hreach.trans hreach', ?_, ?_, hstart'.trans hstart⟩
    · rw [hlog', hword, hlog]
      rfl
    · rw [UInt64.le_iff_toNat_le, hword] at hclock'
      exact Nat.le_succ_of_le hclock'

/-- Two thousand calls in each second of the first minute; the first call of the next minute
returns the baseline. -/
theorem recordAndGetQps_steady : ∃ r, Reaches LoadRun.step Free (LoadRun.new 0) r ∧
    r.log = steady 2000 60 ∧ r.clock ≤ 60 ∧ (r.window.recordAndGetQps 60).1 = 1000 ∧
    max (recentLoad (r.called 60) 60) 1000 = 1966 := by
  obtain ⟨r, hreach, hlog, hclock, hstart⟩ := reaches_steady 2000 (Nat.le_refl windowSize)
  have hlong : windowSize ≤ (saturatingSub 60 r.window.startSecond).toNat := by
    rw [hstart]
    decide
  refine ⟨r, hreach, hlog, UInt64.le_iff_toNat_le.mpr hclock, ?_, ?_⟩
  · exact congrArg Prod.fst (if_pos hlong)
  · have hfirst : firstCall (r.called 60) 60 = 0 := by
      refine Nat.le_zero.mp (firstCall_le (0, 1) ?_)
      rw [called, hlog]
      exact List.mem_cons_of_mem _ (mem_steady (by decide) 59)
    have hcount : between (r.called 60) 1 61 = 118001 := by
      rw [called, hlog, between_cons, between_steady (by decide)]
      rfl
    rw [recentLoad, hfirst]
    show max (between (r.called 60) 1 61 / 60) 1000 = 1966
    rw [hcount]
    rfl

end Steady

end LoadRun

end Loader

end NebulaId
