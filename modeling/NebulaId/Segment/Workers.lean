import NebulaId.Machine.Executor
import NebulaId.Segment.LoadingFlag

/-!
# Workers that wait for a segment (`core/algorithm/segment.rs`)

The calls are tasks of an executor. A call that finds the flag set goes round in a loop until it is
cleared, and keeps its worker; the call that has set it waits for the loader without one, and needs
one again to clear it.

* `load_unblocked_iff`: the workers cannot all be lost that way if and only if no more calls than
  workers are alive at a time.
* `blocked_forever`: and if they are, they stay so.
* `one_worker_blocked`: one worker and two calls.
-/

namespace NebulaId

open Machine

/-- The calls as tasks; the await is that of `load_segment`. -/
def segmentCalls (below : UInt64 → UInt64 → Bool) : AsyncProgram SharedSegments Task Input where
  step := segmentStep below
  done
    | .idle => true
    | _ => false
  waits p := p.loading.isSome

def noWork (W : ℕ) : Executor W SharedSegments Task := ⟨noCalls, fun _ => none⟩

/-- Each worker runs a call that waits for a flag to be cleared, and each call that holds a flag
waits for the loader without a worker. -/
structure Blocked {W : ℕ} (e : Executor W SharedSegments Task) : Prop where
  spinning : ∀ k, ∃ i ctx tries, e.workers k = some i ∧
    e.world.threads i = .generate ctx tries .isLoading ∧ e.world.shared.flagged ctx.key = true
  suspended : ∀ j key, (e.world.threads j).flag = some key →
    (e.world.threads j).loading.isSome = true ∧ ∀ k, e.workers k ≠ some j

variable {below : UInt64 → UInt64 → Bool} {W n : ℕ} {e e' : Executor W SharedSegments Task}

theorem apart_noWork : Executor.Apart (segmentCalls below) (noWork W) where
  single _ _ _ h := by cases h
  busy _ _ h := by cases h

theorem atMost_noWork : Executor.AtMost (segmentCalls below) n (noWork W) :=
  ⟨∅, Nat.zero_le n, fun _ h => by cases h⟩

/-- With no more calls than workers there is a worker left. -/
theorem unblocked_of_le (hW : 1 ≤ W) (hn : n ≤ W)
    (h : Reaches (Executor.step (segmentCalls below)) (Executor.Room (segmentCalls below) n)
      (noWork W) e) : ¬ Blocked e := by
  intro hblocked
  obtain ⟨hapart, hmost⟩ := Executor.reaches_room h apart_noWork atMost_noWork
  obtain ⟨-, ctx, -, -, -, hset⟩ := hblocked.spinning ⟨0, hW⟩
  obtain ⟨j, hj⟩ := (held_of_reaches (Executor.world_reaches h)).2 ctx.key hset
  have halive : (segmentCalls below).done (e.world.threads j) = false := by
    cases hp : e.world.threads j with
    | idle =>
      rw [hp] at hj
      cases hj
    | generate ctx tries next => rfl
    | batchGenerate ctx size fits next => rfl
  have hbusy : ∀ k, ∃ i, e.workers k = some i := by
    intro k
    obtain ⟨i, -, -, hi, -⟩ := hblocked.spinning k
    exact ⟨i, hi⟩
  have hlt := Executor.lt_of_busy hapart hmost hbusy halive (hblocked.suspended j ctx.key hj).2
  omega

/-! ## Nothing gets out of it -/

/-- A call that waits for a flag stays where it is as long as the flag is set. -/
theorem generateStep_isLoading {input : Input} {m : SharedSegments} {ctx : GenerateContext}
    {tries : ℕ} {r : SharedSegments × Task} (hset : m.flagged ctx.key = true)
    (h : generateStep below input m ctx tries .isLoading = some r) :
    r = (m, .generate ctx tries .isLoading) := by
  obtain ⟨b, hb, rfl⟩ := Option.map_eq_some_iff.mp h
  rw [SharedSegments.flagged_of_buffer hb] at hset
  rw [if_pos hset]

/-- A call that begins changes nothing, and holds no flag. -/
theorem segmentStep_idle {i : ℕ} {input : Input} {m : SharedSegments} {r : SharedSegments × Task}
    (h : segmentStep below i input m .idle = some r) : r.1 = m ∧ r.2.flag = none := by
  cases input with
  | generate ctx =>
    cases h
    exact ⟨rfl, rfl⟩
  | batchGenerate ctx size =>
    obtain ⟨fits, h⟩ := Option.dite_none_right_eq_some.mp h
    cases h
    exact ⟨rfl, rfl⟩
  | proceed => cases h
  | reply result => cases h

theorem done_iff {p : Task} : (segmentCalls below).done p = true ↔ p = .idle := by
  cases p with
  | idle => exact iff_of_true rfl rfl
  | generate ctx tries next => exact iff_of_false Bool.false_ne_true (by simp)
  | batchGenerate ctx size fits next => exact iff_of_false Bool.false_ne_true (by simp)

theorem Blocked.step {act : ExecutorAct W Input} (hblocked : Blocked e)
    (h : Executor.step (segmentCalls below) e act = some e') : Blocked e' := by
  rcases Executor.step_cases h with ⟨i, input, w, -, hdone, hw, rfl⟩ | ⟨k, i, -, hfree, -⟩ |
    ⟨k, i, input, w, -, hk, hw, rfl⟩ | ⟨k, i, -, hk, hwaits, -⟩
  · -- a new call: nobody has moved, and nothing has changed
    obtain ⟨m, p, hs, rfl⟩ := World.step_eq_some.mp hw
    rw [done_iff] at hdone
    rw [hdone] at hs
    have hbegin : segmentStep below i input e.world.shared .idle = some (m, p) := hs
    obtain ⟨hm, hflag⟩ : m = e.world.shared ∧ p.flag = none := segmentStep_idle hbegin
    refine ⟨fun k => ?_, fun j key hj => ?_⟩
    · obtain ⟨j, ctx, tries, hk, hj, hset⟩ := hblocked.spinning k
      have hne : j ≠ i := by
        rintro rfl
        rw [hdone] at hj
        cases hj
      exact ⟨j, ctx, tries, hk, (Function.update_of_ne hne _ _).trans hj, by rw [hm]; exact hset⟩
    · dsimp only at hj ⊢
      by_cases hji : j = i
      · rw [hji, Function.update_self, hflag] at hj
        cases hj
      · rw [Function.update_of_ne hji] at hj ⊢
        exact hblocked.suspended j key hj
  · obtain ⟨j, -, -, hk, -⟩ := hblocked.spinning k
    rw [hfree] at hk
    cases hk
  · obtain ⟨j, ctx, tries, hk', hj, hset⟩ := hblocked.spinning k
    obtain rfl := Option.some.inj (hk.symm.trans hk')
    obtain ⟨m, p, hs, rfl⟩ := World.step_eq_some.mp hw
    rw [hj] at hs
    have hwait : generateStep below input e.world.shared ctx tries .isLoading = some (m, p) := hs
    obtain ⟨rfl, rfl⟩ := Prod.mk.inj (generateStep_isLoading hset hwait)
    rw [← hj, Function.update_eq_self, hj]
    exact hblocked
  · obtain ⟨j, ctx, tries, hk', hj, -⟩ := hblocked.spinning k
    obtain rfl := Option.some.inj (hk.symm.trans hk')
    rw [hj] at hwaits
    cases hwaits

/-- **No way out**: once the workers are lost they stay lost. -/
theorem blocked_forever (hblocked : Blocked e)
    (h : Reaches (Executor.step (segmentCalls below)) Free e e') : Blocked e' :=
  h.invariant (I := Blocked) hblocked fun _ _ _ hb _ hstep => hb.step hstep

/-! ## More calls than workers -/

def waitingCtx : GenerateContext := ⟨"w", "g", "t"⟩

/-- One buffer, with its first segment and the flag set. -/
def loadingMemory : SharedSegments :=
  (SharedSegments.new.create "w:t").setBuffer "w:t" ⟨0, none, true⟩

/-- The first call waits for the loader, and `m` calls wait for its flag, each on a worker. -/
def spinningCalls (W m : ℕ) : Executor W SharedSegments Task where
  world := ⟨loadingMemory, fun i => if i = 0 then .generate waitingCtx 0 .loadSegment
    else if i ≤ m then .generate waitingCtx 0 .isLoading else .idle⟩
  workers k := if k.val < m then some (k.val + 1) else none

theorem blocked_spinningCalls (W : ℕ) : Blocked (spinningCalls W W) where
  spinning k := by
    have hk := k.isLt
    have hset : loadingMemory.flagged waitingCtx.key = true := by decide +kernel
    refine ⟨k.val + 1, waitingCtx, 0, if_pos hk, ?_, hset⟩
    dsimp only [spinningCalls]
    rw [if_neg (by omega), if_pos (by omega)]
  suspended j key hj := by
    dsimp only [spinningCalls] at hj ⊢
    split at hj
    · rename_i hzero
      subst hzero
      refine ⟨rfl, fun k hk => ?_⟩
      rw [if_pos k.isLt] at hk
      cases hk
    · split at hj <;> cases hj

/-- A new call is taken by a free worker, which runs it for a while. -/
theorem reaches_call {k : Fin W} {i : ℕ} {ctx : GenerateContext} {inputs : List Input}
    {m' : SharedSegments} {p' : Task} (hidle : e.world.threads i = .idle)
    (hfree : e.workers k = none) (hnone : ∀ k', e.workers k' ≠ some i)
    (hroom : Executor.Room (segmentCalls below) n e (.spawn i (.generate ctx)))
    (h : World.runThread (segmentStep below) (fun p => (segmentCalls below).done p = false) i
      e.world.shared (.generate ctx 0 .findBuffer) inputs = some (m', p'))
    (halive : (segmentCalls below).done p' = false) :
    Reaches (Executor.step (segmentCalls below)) (Executor.Room (segmentCalls below) n) e
      ⟨⟨m', Function.update e.world.threads i p'⟩, Function.update e.workers k (some i)⟩ := by
  let begun : World SharedSegments Task :=
    ⟨e.world.shared, Function.update e.world.threads i (.generate ctx 0 .findBuffer)⟩
  have hself : begun.threads i = .generate ctx 0 .findBuffer := Function.update_self ..
  have hbegin : World.step (segmentStep below) e.world (i, .generate ctx) = some begun :=
    World.step_eq_some.mpr ⟨_, _, by rw [hidle]; rfl, rfl⟩
  have hspawn : Executor.step (segmentCalls below) e (.spawn i (.generate ctx)) =
      some ⟨begun, e.workers⟩ := Executor.step_spawn (by rw [hidle]; rfl) hbegin
  have htake : Executor.step (segmentCalls below) ⟨begun, e.workers⟩ (.take k i) =
      some ⟨begun, Function.update e.workers k (some i)⟩ :=
    Executor.step_take hfree (by rw [hself]; rfl) hnone
  have hwork : Reaches (Executor.step (segmentCalls below)) (Executor.Room (segmentCalls below) n)
      ⟨begun, Function.update e.workers k (some i)⟩
      ⟨⟨m', Function.update begun.threads i p'⟩, Function.update e.workers k (some i)⟩ :=
    Executor.reaches_work (fun _ _ _ => trivial) (Function.update_self k (some i) e.workers)
      (by rw [hself]; exact h) halive
  dsimp only [begun] at hwork
  rw [Function.update_idem] at hwork
  exact Reaches.cons hroom hspawn (Reaches.cons (a := .take k i) trivial htake hwork)

/-- The first call finds nothing, sets the flag and waits for the loader. -/
theorem reaches_first (hW : 1 ≤ W) (hn : 1 ≤ n) :
    Reaches (Executor.step (segmentCalls below)) (Executor.Room (segmentCalls below) n) (noWork W)
      (spinningCalls W 0) := by
  let k : Fin W := ⟨0, hW⟩
  have hroom : Executor.Room (segmentCalls below) n (noWork W) (.spawn 0 (.generate waitingCtx)) :=
    ⟨∅, hn, fun _ h => by cases h⟩
  have hwork : World.runThread (segmentStep below) (fun p => (segmentCalls below).done p = false) 0
      .new (.generate waitingCtx 0 .findBuffer) (List.replicate 8 .proceed) =
        some (loadingMemory, .generate waitingCtx 0 .loadSegment) := rfl
  have hcall := reaches_call (e := noWork W) (k := k) rfl rfl (fun _ h => by cases h) hroom hwork rfl
  have hthreads : Function.update (noWork W).world.threads 0 (.generate waitingCtx 0 .loadSegment) =
      (spinningCalls W 0).world.threads := by
    funext i
    by_cases hi : i = 0
    · subst hi
      rfl
    · rw [Function.update_of_ne hi]
      dsimp only [spinningCalls]
      rw [if_neg hi, if_neg (by omega)]
      rfl
  have hworkers : Function.update (Function.update (noWork W).workers k (some 0)) k none =
      (spinningCalls W 0).workers := by
    rw [Function.update_idem]
    exact Function.update_eq_self k (noWork W).workers
  rw [hthreads] at hcall
  have htaken : Function.update (noWork W).workers k (some 0) k = some 0 :=
    Function.update_self k (some 0) (noWork W).workers
  have hsuspend : Executor.step (segmentCalls below)
      ⟨(spinningCalls W 0).world, Function.update (noWork W).workers k (some 0)⟩ (.suspend k) =
        some ⟨(spinningCalls W 0).world,
          Function.update (Function.update (noWork W).workers k (some 0)) k none⟩ :=
    Executor.step_suspend htaken rfl
  rw [hworkers] at hsuspend
  exact hcall.trans (Reaches.single (a := .suspend k) trivial hsuspend)

/-- One more call finds the flag set, and the next worker is lost. -/
theorem reaches_next {m : ℕ} (hm : m < W) (hn : m + 1 < n) :
    Reaches (Executor.step (segmentCalls below)) (Executor.Room (segmentCalls below) n)
      (spinningCalls W m) (spinningCalls W (m + 1)) := by
  let k : Fin W := ⟨m, hm⟩
  have hidle : (spinningCalls W m).world.threads (m + 1) = .idle := by
    dsimp only [spinningCalls]
    rw [if_neg (by omega), if_neg (by omega)]
  have hfree : (spinningCalls W m).workers k = none := if_neg (Nat.lt_irrefl m)
  have hnone : ∀ k', (spinningCalls W m).workers k' ≠ some (m + 1) := by
    intro k' hk'
    obtain ⟨hlt, heq⟩ := Option.ite_none_right_eq_some.mp hk'
    have := Option.some.inj heq
    omega
  have hroom : Executor.Room (segmentCalls below) n (spinningCalls W m)
      (.spawn (m + 1) (.generate waitingCtx)) := by
    refine ⟨Finset.range (m + 1), by rwa [Finset.card_range], fun i hi => ?_⟩
    by_contra hout
    rw [Finset.mem_range] at hout
    dsimp only [spinningCalls] at hi
    rw [if_neg (by omega), if_neg (by omega)] at hi
    cases hi
  have hwork : World.runThread (segmentStep below) (fun p => (segmentCalls below).done p = false)
      (m + 1) loadingMemory (.generate waitingCtx 0 .findBuffer) (List.replicate 7 .proceed) =
        some (loadingMemory, .generate waitingCtx 0 .isLoading) := rfl
  have hcall := reaches_call (k := k) hidle hfree hnone hroom hwork rfl
  have hthreads : Function.update (spinningCalls W m).world.threads (m + 1)
      (.generate waitingCtx 0 .isLoading) = (spinningCalls W (m + 1)).world.threads := by
    funext i
    by_cases hi : i = m + 1
    · subst hi
      rw [Function.update_self]
      dsimp only [spinningCalls]
      rw [if_neg (by omega), if_pos (Nat.le_refl _)]
    · rw [Function.update_of_ne hi]
      dsimp only [spinningCalls]
      by_cases hle : i ≤ m
      · rw [if_pos hle, if_pos (show i ≤ m + 1 by omega)]
      · rw [if_neg hle, if_neg (show ¬ i ≤ m + 1 by omega)]
  have hworkers : Function.update (spinningCalls W m).workers k (some (m + 1)) =
      (spinningCalls W (m + 1)).workers := by
    funext k'
    by_cases hk : k' = k
    · subst hk
      rw [Function.update_self]
      exact (if_pos (Nat.lt_succ_self m)).symm
    · have hne : k'.val ≠ m := fun heq => hk (Fin.ext heq)
      rw [Function.update_of_ne hk]
      dsimp only [spinningCalls]
      by_cases hlt : k'.val < m
      · rw [if_pos hlt, if_pos (show k'.val < m + 1 by omega)]
      · rw [if_neg hlt, if_neg (show ¬ k'.val < m + 1 by omega)]
  rw [hthreads, hworkers] at hcall
  exact hcall

/-- With more calls than workers all workers can be lost. -/
theorem reaches_blocked (below : UInt64 → UInt64 → Bool) (hW : 1 ≤ W) (hn : W < n) :
    Reaches (Executor.step (segmentCalls below)) (Executor.Room (segmentCalls below) n) (noWork W)
      (spinningCalls W W) := by
  have hall : ∀ m ≤ W, Reaches (Executor.step (segmentCalls below))
      (Executor.Room (segmentCalls below) n) (noWork W) (spinningCalls W m) := by
    intro m
    induction m with
    | zero => exact fun _ => reaches_first hW (by omega)
    | succ m ih => exact fun hm => (ih (by omega)).trans (reaches_next (by omega) (by omega))
  exact hall W (Nat.le_refl W)

/-- **Workers and calls.** The workers cannot all be lost to waiting calls if and only if no more
calls than workers are alive at a time. -/
theorem load_unblocked_iff (below : UInt64 → UInt64 → Bool) (n : ℕ) (hW : 1 ≤ W) :
    (∀ e, Reaches (Executor.step (segmentCalls below)) (Executor.Room (segmentCalls below) n)
      (noWork W) e → ¬ Blocked e) ↔ n ≤ W := by
  constructor
  · intro hsafe
    by_contra hn
    exact hsafe _ (reaches_blocked below hW (Nat.lt_of_not_le hn)) (blocked_spinningCalls W)
  · intro hn e he
    exact unblocked_of_le hW hn he

/-- Two calls on two workers. -/
theorem two_workers_unblocked : ¬ ∃ e : Executor 2 SharedSegments Task,
    Reaches (Executor.step (segmentCalls belowTenth)) (Executor.Room (segmentCalls belowTenth) 2)
      (noWork 2) e ∧ Blocked e := by
  rintro ⟨e, he, hblocked⟩
  exact (load_unblocked_iff belowTenth 2 (by decide)).mpr (Nat.le_refl 2) e he hblocked

/-- One worker and two calls. -/
theorem one_worker_blocked : ∃ e : Executor 1 SharedSegments Task,
    Reaches (Executor.step (segmentCalls belowTenth)) Free (noWork 1) e ∧ Blocked e :=
  ⟨spinningCalls 1 1, (reaches_blocked belowTenth (n := 2) (by decide) (by decide)).free,
    blocked_spinningCalls 1⟩

end NebulaId
