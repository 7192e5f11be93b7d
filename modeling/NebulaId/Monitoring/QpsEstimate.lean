import NebulaId.Machine.Run
import NebulaId.Store.Timeline
import NebulaId.Types.Id

/-!
# The QPS estimate of the metrics (`core/types/metrics.rs`)

`QpsWindow` counts the requests of the current second and of the one before it. The counters are
rolled over by the next `record` or `record_batch` in a later second: `get_qps` does not read the
clock, and a second without requests is skipped. So the counters stand for the latest two seconds
in which a call has recorded, whenever these were.

* `Tracks`: what the counters hold in every state of a run.
* `getQps_eq_iff`: when the estimate is that of the last two seconds.
-/

namespace NebulaId

namespace Metrics

open Machine Timeline

structure QpsWindow where
  currentSecondCount : UInt64
  lastSecondCount : UInt64
  currentSecond : UInt64

namespace QpsWindow

def new (nowSecs : UInt64) : QpsWindow := ⟨0, 0, nowSecs⟩

/-- The first part of `record` and of `record_batch`; `fails` when the exchange of the second,
which is a weak one, fails for no reason. -/
def rollOver (w : QpsWindow) (nowSecs : UInt64) (fails : Bool) : QpsWindow :=
  let storedSec := w.currentSecond
  if nowSecs = storedSec then w
  else
    let w := if fails then w else { w with currentSecond := nowSecs }
    if nowSecs > storedSec then
      { w with currentSecondCount := 0, lastSecondCount := w.currentSecondCount }
    else w

def record (w : QpsWindow) (nowSecs : UInt64) (fails : Bool) : QpsWindow :=
  let w := w.rollOver nowSecs fails
  { w with currentSecondCount := w.currentSecondCount + 1 }

def recordBatch (w : QpsWindow) (nowSecs : UInt64) (fails : Bool) (count : UInt64) : QpsWindow :=
  let w := w.rollOver nowSecs fails
  { w with currentSecondCount := w.currentSecondCount + count }

def getQps (w : QpsWindow) : UInt64 := (w.currentSecondCount * 7 + w.lastSecondCount * 3) / 10

end QpsWindow

/-- A window, the latest reading of the clock, and what has been recorded, newest first. -/
structure QpsRun where
  window : QpsWindow
  clock : UInt64
  log : List (ℕ × ℕ)

inductive QpsCall where
  | record (nowSecs : UInt64) (fails : Bool)
  | recordBatch (nowSecs : UInt64) (fails : Bool) (count : UInt64)
  | getQps (nowSecs : UInt64)

def QpsCall.nowSecs : QpsCall → UInt64
  | record nowSecs _ => nowSecs
  | recordBatch nowSecs _ _ => nowSecs
  | getQps nowSecs => nowSecs

namespace QpsRun

def new (nowSecs : UInt64) : QpsRun := ⟨.new nowSecs, nowSecs, []⟩

/-- The clock does not go back. -/
def step (r : QpsRun) (call : QpsCall) : Option QpsRun :=
  if call.nowSecs < r.clock then none
  else match call with
    | .record nowSecs fails =>
      some ⟨r.window.record nowSecs fails, nowSecs, (nowSecs.toNat, 1) :: r.log⟩
    | .recordBatch nowSecs fails count =>
      some ⟨r.window.recordBatch nowSecs fails count, nowSecs,
        (nowSecs.toNat, count.toNat) :: r.log⟩
    | .getQps nowSecs => some { r with clock := nowSecs }

/-- The exchange does not fail in a new second, and the weighted sum stays in `u64`. -/
def Regular (w : QpsWindow) (nowSecs : UInt64) (fails : Bool) (count : UInt64) : Prop :=
  (nowSecs ≠ w.currentSecond → fails = false) ∧
    (if nowSecs = w.currentSecond then
        7 * (w.currentSecondCount.toNat + count.toNat) + 3 * w.lastSecondCount.toNat
      else 7 * count.toNat + 3 * w.currentSecondCount.toNat) < 2 ^ 64

def Sound (r : QpsRun) : QpsCall → Prop
  | .record nowSecs fails => Regular r.window nowSecs fails 1
  | .recordBatch nowSecs fails count => Regular r.window nowSecs fails count
  | .getQps _ => True

instance (w : QpsWindow) (nowSecs : UInt64) (fails : Bool) (count : UInt64) :
    Decidable (Regular w nowSecs fails count) := inferInstanceAs (Decidable (_ ∧ _))

instance (r : QpsRun) (call : QpsCall) : Decidable (Sound r call) :=
  match call with
  | .record nowSecs fails => inferInstanceAs (Decidable (Regular r.window nowSecs fails 1))
  | .recordBatch nowSecs fails count =>
    inferInstanceAs (Decidable (Regular r.window nowSecs fails count))
  | .getQps _ => inferInstanceAs (Decidable True)

/-! ## What is recorded -/

/-- The requests of the latest second before `t` in which a call has recorded. -/
def countBefore (log : List (ℕ × ℕ)) (t : ℕ) : ℕ :=
  (log.find? fun e => e.1 < t).elim 0 fun e => inSecond log e.1

variable {log : List (ℕ × ℕ)} {s t u n p : ℕ}

theorem countBefore_cons_of_le (h : t ≤ u) :
    countBefore ((u, n) :: log) t = countBefore log t := by
  unfold countBefore
  rw [List.find?_cons_of_neg (by simpa using h)]
  cases hfind : log.find? fun e => e.1 < t with
  | none => rfl
  | some e =>
    have hlt : e.1 < t := by simpa using List.find?_some hfind
    exact inSecond_cons_ne (by omega)

/-- In a log that goes back in time the second before `t` is the latest one before it. -/
theorem countBefore_of_mem (hs : log.Pairwise fun a b => b.1 ≤ a.1) (hp : ∃ e ∈ log, e.1 = p)
    (hnone : ∀ e ∈ log, e.1 ≤ p ∨ t ≤ e.1) (hlt : p < t) : countBefore log t = inSecond log p := by
  induction log with
  | nil =>
    obtain ⟨e, he, -⟩ := hp
    cases he
  | cons e log ih =>
    obtain ⟨u, n⟩ := e
    obtain ⟨hu, hlog⟩ := List.pairwise_cons.mp hs
    rcases hnone _ List.mem_cons_self with hle | hge
    · have hup : u = p := by
        obtain ⟨f, hf, rfl⟩ := hp
        rcases List.mem_cons.mp hf with rfl | hf
        · rfl
        · exact Nat.le_antisymm hle (hu f hf)
      subst hup
      unfold countBefore
      rw [List.find?_cons_of_pos (by simpa using hlt)]
      rfl
    · have hrest : ∃ e ∈ log, e.1 = p := by
        obtain ⟨f, hf, rfl⟩ := hp
        rcases List.mem_cons.mp hf with rfl | hf
        · exact absurd hge (Nat.not_le.mpr hlt)
        · exact ⟨f, hf, rfl⟩
      rw [countBefore_cons_of_le hge, ih hlog hrest fun e he => hnone e (List.mem_cons_of_mem _ he)]
      exact (inSecond_cons_ne (by omega)).symm

/-- The counters hold the latest second of the log and the one before it. -/
structure Tracks (r : QpsRun) : Prop where
  clock : r.window.currentSecond.toNat ≤ r.clock.toNat
  past : ∀ e ∈ r.log, e.1 ≤ r.window.currentSecond.toNat
  latest : ∀ e ∈ r.log.head?, e.1 = r.window.currentSecond.toNat
  sorted : r.log.Pairwise fun a b => b.1 ≤ a.1
  current : r.window.currentSecondCount.toNat = inSecond r.log r.window.currentSecond.toNat
  last : r.window.lastSecondCount.toNat = countBefore r.log r.window.currentSecond.toNat
  fits : 7 * r.window.currentSecondCount.toNat + 3 * r.window.lastSecondCount.toNat < 2 ^ 64

section Tracks

variable {r r' : QpsRun} {nowSecs count : UInt64} {fails : Bool}

theorem Tracks.new (nowSecs : UInt64) : Tracks (QpsRun.new nowSecs) where
  clock := Nat.le_refl _
  past e he := by cases he
  latest e he := by cases he
  sorted := List.Pairwise.nil
  current := rfl
  last := rfl
  fits := Nat.two_pow_pos 64

/-- What is recorded in the second of the latest call is added to it. -/
theorem Tracks.same (h : Tracks r) (hnow : nowSecs = r.window.currentSecond)
    (hfits : 7 * (r.window.currentSecondCount.toNat + count.toNat) +
      3 * r.window.lastSecondCount.toNat < 2 ^ 64) :
    Tracks ⟨r.window.recordBatch nowSecs fails count, nowSecs,
      (nowSecs.toNat, count.toNat) :: r.log⟩ := by
  subst hnow
  have hroll : r.window.rollOver r.window.currentSecond fails = r.window := if_pos rfl
  have hsum : (r.window.currentSecondCount + count).toNat =
      r.window.currentSecondCount.toNat + count.toNat := by
    rw [UInt64.toNat_add, Nat.mod_eq_of_lt (by omega)]
  simp only [QpsWindow.recordBatch, hroll]
  refine ⟨Nat.le_refl _, ?_, ?_, List.pairwise_cons.mpr ⟨h.past, h.sorted⟩, ?_, ?_, ?_⟩
  · intro e he
    rcases List.mem_cons.mp he with rfl | he
    · exact Nat.le_refl _
    · exact h.past e he
  · intro e he
    cases he
    rfl
  · rw [hsum, inSecond_cons_self, h.current, Nat.add_comm]
  · rw [countBefore_cons_of_le (Nat.le_refl _)]
    exact h.last
  · rw [hsum]
    exact hfits

/-- The first call in a later second moves the counters on. -/
theorem Tracks.later (h : Tracks r) (hnow : r.window.currentSecond.toNat < nowSecs.toNat)
    (hfits : 7 * count.toNat + 3 * r.window.currentSecondCount.toNat < 2 ^ 64) :
    Tracks ⟨r.window.recordBatch nowSecs false count, nowSecs,
      (nowSecs.toNat, count.toNat) :: r.log⟩ := by
  have hlt : nowSecs > r.window.currentSecond := UInt64.lt_iff_toNat_lt.mpr hnow
  have hne : nowSecs ≠ r.window.currentSecond := by
    rintro rfl
    exact Nat.lt_irrefl _ hnow
  have hroll : r.window.rollOver nowSecs false = ⟨0, r.window.currentSecondCount, nowSecs⟩ := by
    simp only [QpsWindow.rollOver, if_neg hne, Bool.false_eq_true, if_false, if_pos hlt]
  have hold : ∀ e ∈ r.log, e.1 < nowSecs.toNat := fun e he => (h.past e he).trans_lt hnow
  simp only [QpsWindow.recordBatch, hroll, UInt64.zero_add]
  refine ⟨Nat.le_refl _, ?_, ?_, List.pairwise_cons.mpr ⟨?_, h.sorted⟩, ?_, ?_, hfits⟩
  · intro e he
    rcases List.mem_cons.mp he with rfl | he
    · exact Nat.le_refl _
    · exact (hold e he).le
  · intro e he
    cases he
    rfl
  · exact fun e he => (hold e he).le
  · rw [inSecond_cons_self, inSecond_eq_zero fun e he => (hold e he).ne, Nat.add_zero]
  · rw [countBefore_cons_of_le (Nat.le_refl _), h.current]
    cases hlog : r.log with
    | nil => rfl
    | cons e log =>
      have hlatest := h.latest e (by rw [hlog]; rfl)
      have hbefore : e.1 < nowSecs.toNat := hlatest.trans_lt hnow
      rw [countBefore, List.find?_cons_of_pos (by simpa using hbefore), ← hlatest]
      rfl

theorem Tracks.record (h : Tracks r) (hclock : ¬ nowSecs < r.clock)
    (hreg : Regular r.window nowSecs fails count) :
    Tracks ⟨r.window.recordBatch nowSecs fails count, nowSecs,
      (nowSecs.toNat, count.toNat) :: r.log⟩ := by
  obtain ⟨hexchange, hfits⟩ := hreg
  have hle : r.window.currentSecond.toNat ≤ nowSecs.toNat :=
    h.clock.trans (UInt64.le_iff_toNat_le.mp (UInt64.not_lt.mp hclock))
  by_cases hnow : nowSecs = r.window.currentSecond
  · rw [if_pos hnow] at hfits
    exact h.same hnow hfits
  · rw [if_neg hnow] at hfits
    rw [hexchange hnow]
    refine h.later (Nat.lt_of_le_of_ne hle fun heq => hnow ?_) hfits
    exact (UInt64.toNat_inj.mp heq).symm

theorem Tracks.step {call : QpsCall} (h : Tracks r) (hsound : Sound r call)
    (hs : r.step call = some r') : Tracks r' := by
  unfold QpsRun.step at hs
  split at hs
  · cases hs
  · rename_i hclock
    cases call with
    | record nowSecs fails =>
      cases hs
      have hone : Tracks ⟨r.window.recordBatch nowSecs fails 1, nowSecs,
          (nowSecs.toNat, (1 : UInt64).toNat) :: r.log⟩ := h.record hclock hsound
      exact hone
    | recordBatch nowSecs fails count =>
      cases hs
      exact h.record hclock hsound
    | getQps nowSecs =>
      cases hs
      have hle := UInt64.le_iff_toNat_le.mp (UInt64.not_lt.mp hclock)
      exact { h with clock := h.clock.trans hle }

theorem Tracks.of_reaches (h : Reaches QpsRun.step Sound (QpsRun.new nowSecs) r) : Tracks r :=
  h.invariant (Tracks.new nowSecs) fun _ _ _ hi hsound hs => hi.step hsound hs

end Tracks

/-! ## The estimate -/

/-- The requests of second `s`, with weight 7, and of the second before it, with weight 3. -/
def weighted (log : List (ℕ × ℕ)) (s : ℕ) : ℕ := 7 * inSecond log s + 3 * between log (s - 1) s

/-- The weight of the requests that the counters hold in second `s` although they are older than
what each of them stands for. -/
def stale : List (ℕ × ℕ) → ℕ → ℕ
  | [], _ => 0
  | (t, n) :: log, s =>
    if s = t then
      if ∃ e ∈ log, e.1 + 1 = s then 0 else 3 * countBefore ((t, n) :: log) t
    else if s = t + 1 then
      4 * inSecond ((t, n) :: log) t + 3 * countBefore ((t, n) :: log) t
    else 7 * inSecond ((t, n) :: log) t + 3 * countBefore ((t, n) :: log) t

theorem Tracks.toNat_getQps {r : QpsRun} (h : Tracks r) : r.window.getQps.toNat =
    (7 * inSecond r.log r.window.currentSecond.toNat +
      3 * countBefore r.log r.window.currentSecond.toNat) / 10 := by
  have hfits := h.fits
  have hseven : (r.window.currentSecondCount * 7).toNat =
      7 * r.window.currentSecondCount.toNat := by
    rw [UInt64.toNat_mul, Nat.mul_comm]
    exact Nat.mod_eq_of_lt (by show 7 * _ < _; omega)
  have hthree : (r.window.lastSecondCount * 3).toNat = 3 * r.window.lastSecondCount.toNat := by
    rw [UInt64.toNat_mul, Nat.mul_comm]
    exact Nat.mod_eq_of_lt (by show 3 * _ < _; omega)
  rw [QpsWindow.getQps, UInt64.toNat_div, UInt64.toNat_add, hseven, hthree,
    Nat.mod_eq_of_lt hfits, h.current, h.last]
  rfl

section Weights

/-- A read in the second of the latest call: the other counter may be out of date. -/
theorem weight_now (hs : ((t, n) :: log).Pairwise fun a b => b.1 ≤ a.1) :
    7 * inSecond ((t, n) :: log) t + 3 * countBefore ((t, n) :: log) t =
      weighted ((t, n) :: log) t + stale ((t, n) :: log) t := by
  rw [weighted, stale, if_pos rfl]
  by_cases hprev : ∃ e ∈ log, e.1 + 1 = t
  · obtain ⟨e, he, rfl⟩ := hprev
    have hbefore : countBefore ((e.1 + 1, n) :: log) (e.1 + 1) =
        inSecond ((e.1 + 1, n) :: log) e.1 := by
      refine countBefore_of_mem hs ⟨e, List.mem_cons_of_mem _ he, rfl⟩ ?_ (Nat.lt_succ_self _)
      intro f _
      omega
    rw [hbefore, if_pos ⟨e, he, rfl⟩, Nat.add_sub_cancel]
    rfl
  · have hzero : between ((t, n) :: log) (t - 1) t = 0 := by
      refine between_eq_zero fun f hf => ?_
      rcases List.mem_cons.mp hf with rfl | hf
      · exact Or.inr (Nat.le_refl _)
      · have hne : f.1 + 1 ≠ t := fun heq => hprev ⟨f, hf, heq⟩
        omega
    rw [hzero, if_neg hprev]
    omega

/-- A read in the second after it: the latest requests count as if they had just come in. -/
theorem weight_next (hpast : ∀ e ∈ (t, n) :: log, e.1 ≤ t) :
    7 * inSecond ((t, n) :: log) t + 3 * countBefore ((t, n) :: log) t =
      weighted ((t, n) :: log) (t + 1) + stale ((t, n) :: log) (t + 1) := by
  have hzero : inSecond ((t, n) :: log) (t + 1) = 0 := by
    refine inSecond_eq_zero fun f hf => ?_
    have hle := hpast f hf
    omega
  have hsecond : between ((t, n) :: log) (t + 1 - 1) (t + 1) = inSecond ((t, n) :: log) t := by
    rw [Nat.add_sub_cancel]
    rfl
  rw [weighted, stale, if_neg (Nat.succ_ne_self t), if_pos rfl, hzero, hsecond]
  omega

/-- A read later than that: all that the counters hold is stale. -/
theorem weight_idle (hpast : ∀ e ∈ (t, n) :: log, e.1 ≤ t) (hlt : t + 1 < s) :
    7 * inSecond ((t, n) :: log) t + 3 * countBefore ((t, n) :: log) t =
      weighted ((t, n) :: log) s + stale ((t, n) :: log) s := by
  have hzero : inSecond ((t, n) :: log) s = 0 := by
    refine inSecond_eq_zero fun f hf => ?_
    have hle := hpast f hf
    omega
  have hsecond : between ((t, n) :: log) (s - 1) s = 0 := by
    refine between_eq_zero fun f hf => ?_
    have hle := hpast f hf
    omega
  rw [weighted, stale, if_neg (by omega), if_neg (by omega), hzero, hsecond]
  omega

/-- The counters hold the requests that they stand for and the stale ones. -/
theorem Tracks.weight_eq {r : QpsRun} (h : Tracks r) (hs : r.window.currentSecond.toNat ≤ s) :
    7 * inSecond r.log r.window.currentSecond.toNat +
        3 * countBefore r.log r.window.currentSecond.toNat =
      weighted r.log s + stale r.log s := by
  have hpast := h.past
  have hsorted := h.sorted
  have hlatest := h.latest
  cases hlog : r.log with
  | nil => rfl
  | cons e log =>
    obtain ⟨t, n⟩ := e
    rw [hlog] at hpast hsorted hlatest
    have ht : t = r.window.currentSecond.toNat := hlatest (t, n) rfl
    rw [← ht] at hpast hs ⊢
    rcases Nat.lt_or_ge (t + 1) s with hlt | hge
    · exact weight_idle hpast hlt
    · rcases Nat.lt_or_ge t s with hlt | hle
      · have hnext : s = t + 1 := Nat.le_antisymm hge hlt
        rw [hnext]
        exact weight_next hpast
      · rw [Nat.le_antisymm hle hs]
        exact weight_now hsorted

end Weights

/-- In every run whose calls of `record` and `record_batch` are sound, what `get_qps` returns in
second `s` is the weighted average of that second and the one before it exactly when the stale
requests do not carry over the next multiple of ten. -/
theorem getQps_eq_iff {nowSecs s : UInt64} {r : QpsRun}
    (h : Reaches QpsRun.step Sound (QpsRun.new nowSecs) r) (hs : r.clock ≤ s) :
    r.window.getQps.toNat = weighted r.log s.toNat / 10 ↔
      weighted r.log s.toNat % 10 + stale r.log s.toNat < 10 := by
  have htracks := Tracks.of_reaches h
  have hclock : r.window.currentSecond.toNat ≤ s.toNat :=
    htracks.clock.trans (UInt64.le_iff_toNat_le.mp hs)
  rw [htracks.toNat_getQps, htracks.weight_eq hclock]
  omega

/-- One request in second 3 and five in second 4, read in second 4. -/
theorem getQps_eq_iff_two_seconds : ∃ r, Reaches QpsRun.step Sound (QpsRun.new 3) r ∧
    r.window.getQps.toNat = weighted r.log 4 / 10 ∧ weighted r.log 4 = 38 := by
  let last : QpsRun := ⟨⟨5, 1, 4⟩, 4, [(4, 5), (3, 1)]⟩
  have hrun : runWhile QpsRun.step Sound (QpsRun.new 3)
      [.record 3 false, .recordBatch 4 false 5, .getQps 4] = some last := rfl
  have hreaches := reaches_of_runWhile hrun
  have hclock : last.clock ≤ 4 := UInt64.le_refl 4
  exact ⟨last, hreaches, (getQps_eq_iff hreaches hclock).mpr (by decide), rfl⟩

/-- Ten requests in second 0 are still seven a second in second 5. -/
theorem getQps_after_idle : ∃ r, Reaches QpsRun.step Sound (QpsRun.new 0) r ∧ r.clock ≤ 5 ∧
    weighted r.log 5 / 10 = 0 ∧ r.window.getQps = 7 := by
  let last : QpsRun := ⟨⟨10, 0, 0⟩, 5, [(0, 10)]⟩
  have hrun : runWhile QpsRun.step Sound (QpsRun.new 0) [.recordBatch 0 false 10, .getQps 5] =
      some last := rfl
  exact ⟨last, reaches_of_runWhile hrun, UInt64.le_refl 5, by decide, by decide⟩

end QpsRun

end Metrics

end NebulaId
