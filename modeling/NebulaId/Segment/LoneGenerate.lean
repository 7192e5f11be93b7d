import NebulaId.Config.AppConfig
import NebulaId.Segment.Alone

/-!
# An id without other calls on its key (`core/algorithm/segment.rs`)

A call of `generate` makes three passes. A pass that finds the segment in use exhausted loads a new
one, if what is left of the old one is less than the switch threshold. At the threshold 0 it is
not, although nothing is left.

* `generate_served_iff`: the call returns an id if and only if the segment in use has one or is
  empty, or the threshold is greater than 0.
* `generate_not_served`: an accepted configuration, and a key that has no more ids.
-/

namespace NebulaId

open Machine

variable {below : UInt64 → UInt64 → Bool} {loads : ℕ → Result SegmentData} {m : SharedSegments}
  {b : DoubleBuffer} {s : Segment} {k tries : ℕ} {Q : Answer → Prop} {ctx : GenerateContext}

/-- Nothing is loaded ahead, and nobody loads. -/
structure AtRest (m : SharedSegments) (key : String) (b : DoubleBuffer) (s : Segment) : Prop
    extends Holds m key b s none where
  clear : b.loading = false

theorem AtRest.elsewhere {m' : SharedSegments} {key : String} (h : AtRest m key b s)
    (hE : Elsewhere key m m') : AtRest m' key b s :=
  ⟨h.toHolds.elsewhere hE, h.clear⟩

theorem AtRest.next_eq_none {key : String} (h : AtRest m key b s) : b.next = none := by
  by_contra hne
  obtain ⟨j, hj⟩ := Option.ne_none_iff_exists'.mp hne
  obtain ⟨x, hx, -⟩ := h.ahead j hj
  cases hx

/-- The call is at this place of its code, and its key is at rest with this segment in use. -/
def GenerateAt (ctx : GenerateContext) (p : Task) (k : ℕ) (s : Segment) (m : SharedSegments)
    (c : ℕ × Task) : Prop :=
  c = (k, p) ∧ ∃ b, AtRest m ctx.key b s

theorem generate_begins (hm : PointsToSegments m ctx.key)
    (hrest : ∀ b, m.buffers ctx.key = some b → b.next = none ∧ b.loading = false) :
    ComesTo below loads ctx.key
      (GenerateAt ctx (.generate ctx 0 .getCurrent) k (m.currentSegment ctx.key)) m k
      (.generate ctx 0 .findBuffer) := by
  cases hb : m.buffers ctx.key with
  | some b =>
    obtain ⟨hnext, hclear⟩ := hrest b hb
    have hholds := holds_of_buffer hm hb
    rw [hholds.empty hnext] at hholds
    have hat : AtRest m ctx.key b (m.currentSegment ctx.key) := ⟨hholds, hclear⟩
    refine .proceed rfl fun m₁ h₁ => ⟨m₁, .generate ctx 0 .getCurrent, ?_, nofun,
      Or.inl ⟨rfl, b, hat.elsewhere h₁⟩⟩
    have hsome : (m₁.buffers ctx.key).isSome = true := by
      rw [h₁.buffer, hb]
      rfl
    exact congrArg (fun op => some (m₁, Task.generate ctx 0 op)) (if_pos hsome)
  | none =>
    rw [(segments_of_none hb).1]
    have hnone : ∀ m₁, Elsewhere ctx.key m m₁ → ¬ (m₁.buffers ctx.key).isSome = true := by
      intro m₁ h₁
      rw [h₁.buffer, hb]
      exact Bool.false_ne_true
    refine .proceed rfl fun m₁ h₁ => ⟨m₁, .generate ctx 0 .insertBuffer, ?_, nofun, Or.inr ?_⟩
    · exact congrArg (fun op => some (m₁, Task.generate ctx 0 op)) (if_neg (hnone m₁ h₁))
    refine .proceed rfl fun m₂ h₂ => ⟨m₂.create ctx.key, .generate ctx 0 .getCurrent, ?_, nofun,
      Or.inl ⟨rfl, _, holds_create ctx.key, rfl⟩⟩
    exact congrArg (fun m => some (m, Task.generate ctx 0 .getCurrent))
      (if_neg (hnone m₂ (h₁.trans h₂)))

/-! ## A pass -/

theorem generate_consumes {start stop : UInt64} {s' : Segment} (h : AtRest m ctx.key b s)
    (hs : s.tryConsume 1 = (some (start, stop), s')) (hQ : Q (.generate (.ok (Id.ofU64 start)))) :
    Returns below loads ctx.key Q m k (.generate ctx tries .getCurrent) := by
  have hread : ComesTo below loads ctx.key (fun m c =>
      c = (k, .generate ctx tries (.tryConsume b.current)) ∧ AtRest m ctx.key b s) m k
      (.generate ctx tries .getCurrent) := by
    refine .proceed rfl fun m₁ h₁ => ?_
    replace h := h.elsewhere h₁
    exact ⟨m₁, _, Option.map_eq_some_iff.mpr ⟨b, h.buffer, rfl⟩, nofun, Or.inl ⟨rfl, h⟩⟩
  refine hread.ends ?_
  rintro m₁ _ ⟨rfl, hs₁⟩
  refine Returns.answer rfl fun m₂ h₂ => ⟨m₂.setSegment b.current (ctx.key, s'), _, ?_, hQ⟩
  refine Option.map_eq_some_iff.mpr ⟨_, (hs₁.elsewhere h₂).current, ?_⟩
  dsimp only
  rw [hs]

theorem generate_refuses (h : AtRest m ctx.key b s) (hs : s.tryConsume 1 = (none, s)) :
    ComesTo below loads ctx.key (GenerateAt ctx
      (if s.needSwitch below then .generate ctx tries .getNext else retry ctx tries) k s) m k
      (.generate ctx tries .getCurrent) := by
  refine .proceed rfl fun m₁ h₁ => ?_
  replace h := h.elsewhere h₁
  refine ⟨m₁, _, Option.map_eq_some_iff.mpr ⟨b, h.buffer, rfl⟩, nofun, Or.inr ?_⟩
  refine .proceed rfl fun m₂ h₂ => ?_
  replace h := h.elsewhere h₂
  refine ⟨m₂, .generate ctx tries .needSwitch,
    Option.map_eq_some_iff.mpr ⟨_, h.current, ?_⟩, nofun, Or.inr ?_⟩
  · dsimp only
    rw [hs]
  refine .proceed rfl fun m₃ h₃ => ?_
  replace h := h.elsewhere h₃
  refine ⟨m₃, _, Option.map_eq_some_iff.mpr ⟨b, h.buffer, rfl⟩, nofun, Or.inr ?_⟩
  refine .proceed rfl fun m₄ h₄ => ?_
  replace h := h.elsewhere h₄
  refine ⟨m₄, _, Option.map_eq_some_iff.mpr ⟨_, h.current, rfl⟩, ?_, Or.inl ⟨rfl, b, h⟩⟩
  split <;> simp [retry]

/-- A swap puts the next segment in use. -/
theorem generate_swaps {x : Segment} (h : Holds m ctx.key b s (some x))
    (hclear : b.loading = false) :
    ComesTo below loads ctx.key (GenerateAt ctx (retry ctx tries) k x) m k
      (.generate ctx tries .swap) := by
  refine .proceed rfl fun m₁ h₁ => ?_
  replace h := h.elsewhere h₁
  obtain ⟨j, hj⟩ := Option.ne_none_iff_exists'.mp fun hnone => nomatch h.empty hnone
  refine ⟨m₁.setBuffer ctx.key { b with next := none }, .generate ctx tries (.storeCurrent j),
    Option.map_eq_some_iff.mpr ⟨b, h.buffer, ?_⟩, nofun, Or.inr ?_⟩
  · rw [hj]
  obtain ⟨x', hx, hheap⟩ := h.ahead j hj
  obtain rfl := Option.some.inj hx
  refine .proceed rfl fun m₂ h₂ => ?_
  have hbuffer : m₂.buffers ctx.key = some { b with next := none } :=
    h₂.buffer.trans (Function.update_self ..)
  refine ⟨_, _, Option.map_eq_some_iff.mpr ⟨_, hbuffer, rfl⟩, by simp [retry],
    Or.inl ⟨rfl, ⟨j, none, b.loading⟩, ⟨?_, hclear⟩⟩⟩
  exact ⟨Function.update_self .., h₂.segments j x hheap, nofun, fun _ => rfl⟩

/-- The call takes the flag, loads, clears the flag and puts the new segment in use. -/
theorem generate_loads {d : SegmentData} (hload : loads k = .ok d) (h : AtRest m ctx.key b s) :
    ComesTo below loads ctx.key
      (GenerateAt ctx (retry ctx tries) (k + 1) (Segment.new d.startId d.maxId d.step)) m k
      (.generate ctx tries .getNext) := by
  refine .proceed rfl fun m₁ h₁ => ?_
  replace h := h.elsewhere h₁
  refine ⟨m₁, .generate ctx tries .tryStartLoading,
    Option.map_eq_some_iff.mpr ⟨b, h.buffer, ?_⟩, nofun, Or.inr ?_⟩
  · rw [h.next_eq_none]
    rfl
  refine .proceed rfl fun m₂ h₂ => ?_
  replace h := h.elsewhere h₂
  refine ⟨m₂.setBuffer ctx.key { b with loading := true }, .generate ctx tries .loadSegment,
    Option.map_eq_some_iff.mpr ⟨b, h.buffer, ?_⟩, nofun, Or.inr ?_⟩
  · rw [h.clear]
    rfl
  have hset := h.toHolds.flag true
  refine .load rfl fun m₃ h₃ => ?_
  replace hset := hset.elsewhere h₃
  refine ⟨m₃.load ctx.key d, .generate ctx tries (.finishLoading (.ok m₃.heap.length)), ?_, nofun,
    Or.inr ?_⟩
  · rw [hload]
    rfl
  obtain ⟨hcurrent, hlast⟩ := hset.load d
  refine .proceed rfl fun m₄ h₄ => ?_
  have hb₄ : m₄.buffers ctx.key = some { b with loading := true } := h₄.buffer.trans hset.buffer
  replace hcurrent := h₄.segments _ s hcurrent
  replace hlast := h₄.segments _ _ hlast
  refine ⟨m₄.setBuffer ctx.key { b with loading := false },
    .generate ctx tries (.setNext m₃.heap.length),
    Option.map_eq_some_iff.mpr ⟨_, hb₄, rfl⟩, nofun, Or.inr ?_⟩
  refine .proceed rfl fun m₅ h₅ => ?_
  have hb₅ : m₅.buffers ctx.key = some { b with loading := false } :=
    h₅.buffer.trans (Function.update_self ..)
  have hnext := holds_setNext (b := { b with loading := false }) (h₅.segments _ s hcurrent)
    (h₅.segments _ _ hlast)
  exact ⟨_, _, Option.map_eq_some_iff.mpr ⟨_, hb₅, rfl⟩, nofun, Or.inr (generate_swaps hnext rfl)⟩

theorem generate_exhausted (h : AtRest m ctx.key b s)
    (hQ : Q (.generate (.error (.segmentExhausted s.maxId)))) :
    Returns below loads ctx.key Q m k (.generate ctx tries .getExhausted) := by
  have hread : ComesTo below loads ctx.key (fun m c =>
      c = (k, .generate ctx tries (.lockExhausted b.current)) ∧ AtRest m ctx.key b s) m k
      (.generate ctx tries .getExhausted) := by
    refine .proceed rfl fun m₁ h₁ => ?_
    replace h := h.elsewhere h₁
    exact ⟨m₁, _, Option.map_eq_some_iff.mpr ⟨b, h.buffer, rfl⟩, nofun, Or.inl ⟨rfl, h⟩⟩
  refine hread.ends ?_
  rintro m₁ _ ⟨rfl, hs₁⟩
  refine Returns.answer rfl fun m₂ h₂ => ⟨m₂, _, ?_, hQ⟩
  exact Option.map_eq_some_iff.mpr ⟨_, (hs₁.elsewhere h₂).current, rfl⟩

/-! ## The passes together -/

def Generated (a : Answer) : Prop := ∃ id, a = .generate (.ok id)

def NotGenerated (a : Answer) : Prop := ∃ e, a = .generate (.error e)

/-- A segment that has no id and is not switched is the same in every pass. -/
theorem generate_stuck (hs : s.tryConsume 1 = (none, s)) (hstay : s.needSwitch below = false)
    (n : ℕ) {tries : ℕ} (htries : tries + n + 1 = 3) {m : SharedSegments} {b : DoubleBuffer}
    (h : AtRest m ctx.key b s) :
    Returns below loads ctx.key NotGenerated m k (.generate ctx tries .getCurrent) := by
  induction n generalizing tries m b with
  | zero =>
    refine (generate_refuses h hs).ends ?_
    rintro m₁ _ ⟨rfl, b₁, h₁⟩
    have hlast : retry ctx tries = .generate ctx (tries + 1) .getExhausted :=
      congrArg (Task.generate ctx (tries + 1)) (if_neg (by omega))
    rw [hstay, if_neg Bool.false_ne_true, hlast]
    exact generate_exhausted h₁ ⟨_, rfl⟩
  | succ n ih =>
    refine (generate_refuses h hs).ends ?_
    rintro m₁ _ ⟨rfl, b₁, h₁⟩
    have hagain : retry ctx tries = .generate ctx (tries + 1) .getCurrent :=
      congrArg (Task.generate ctx (tries + 1)) (if_pos (by omega))
    rw [hstay, if_neg Bool.false_ne_true, hagain]
    exact ih (by omega) h₁

/-- The segment has an id, or is to be switched. -/
def Gives (below : UInt64 → UInt64 → Bool) (s : Segment) : Prop :=
  (s.tryConsume 1).1.isSome ∨ s.needSwitch below = true

theorem generate_given (hloads : ∀ k, ∃ d, loads k = .ok d ∧ d.startId < d.maxId)
    (h : AtRest m ctx.key b s) (hs : Gives below s) :
    Returns below loads ctx.key Generated m k (.generate ctx 0 .getCurrent) := by
  cases hc : s.tryConsume 1 with
  | mk r s' =>
    cases r with
    | some range => exact generate_consumes h hc ⟨_, rfl⟩
    | none =>
      have hrefused : s.tryConsume 1 = (none, s) := Segment.tryConsume_refused (by rw [hc]; simp)
      have hneed : s.needSwitch below = true := hs.resolve_left (by rw [hc]; simp)
      obtain ⟨d, hd, hlt⟩ := hloads k
      refine (generate_refuses h hrefused).ends ?_
      rintro m₁ _ ⟨rfl, b₁, h₁⟩
      rw [if_pos hneed]
      refine (generate_loads hd h₁).ends ?_
      rintro m₂ _ ⟨rfl, b₂, h₂⟩
      -- the second pass finds the new segment
      have hfit : (Segment.new d.startId d.maxId d.step).currentId.toNat + (1 : UInt64).toNat ≤
          (Segment.new d.startId d.maxId d.step).maxId.toNat := UInt64.lt_iff_toNat_lt.mp hlt
      exact generate_consumes h₂ (Segment.tryConsume_fitting hfit).1 ⟨_, rfl⟩

theorem generate_not_given (h : AtRest m ctx.key b s) (hs : ¬ Gives below s) :
    Returns below loads ctx.key NotGenerated m k (.generate ctx 0 .getCurrent) := by
  obtain ⟨hconsume, hneed⟩ := not_or.mp hs
  exact generate_stuck (Segment.tryConsume_refused hconsume) (Bool.eq_false_of_not_eq_true hneed) 2
    rfl h

/-! ## The switch threshold -/

/-- `need_switch` compares the quotient of the two numbers with the threshold. -/
def belowThreshold (quotient : UInt64 → UInt64 → F64) (threshold : F64) (remaining total : UInt64) :
    Bool :=
  (quotient remaining total).lt threshold

/-- Of a segment that has no id nothing remains. -/
theorem remaining_of_refused (hs : ¬ (s.tryConsume 1).1.isSome) : s.remaining = 0 := by
  have hlt : s.maxId < s.currentId + 1 := by
    by_contra hle
    refine hs ?_
    unfold Segment.tryConsume
    rw [if_neg hle]
    rfl
  refine if_pos (UInt64.le_iff_toNat_le.mpr ?_)
  rw [UInt64.lt_iff_toNat_lt, UInt64.toNat_add, show (1 : UInt64).toNat = 1 from rfl] at hlt
  have := Nat.mod_le (s.currentId.toNat + 1) (2 ^ 64)
  omega

theorem gives_iff {quotient : UInt64 → UInt64 → F64} {threshold : F64}
    (hzero : ∀ total, total ≠ 0 → quotient 0 total = .finite 0) :
    Gives (belowThreshold quotient threshold) s ↔
      s.currentId + 1 ≤ s.maxId ∨ s.maxId = s.startId ∨ F64.lt (.finite 0) threshold = true := by
  by_cases hs : (s.tryConsume 1).1.isSome
  · refine iff_of_true (Or.inl hs) (Or.inl ?_)
    by_contra hle
    unfold Segment.tryConsume at hs
    rw [if_pos (UInt64.not_le.mp hle)] at hs
    cases hs
  · have hle : ¬ s.currentId + 1 ≤ s.maxId := by
      intro hle
      unfold Segment.tryConsume at hs
      rw [if_neg (UInt64.not_lt.mpr hle)] at hs
      exact hs rfl
    unfold Gives
    rw [or_iff_right hs, or_iff_right hle]
    unfold Segment.needSwitch
    dsimp only
    rw [remaining_of_refused hs]
    have hsub : s.maxId - s.startId = 0 ↔ s.maxId = s.startId := by
      rw [UInt64.sub_eq_iff_eq_add, UInt64.zero_add]
    by_cases htotal : s.maxId - s.startId = 0
    · exact iff_of_true (if_pos htotal) (Or.inl (hsub.mp htotal))
    · rw [if_neg htotal, or_iff_right fun heq => htotal (hsub.mpr heq)]
      unfold belowThreshold
      rw [hzero _ htotal]

/-- **Ids are served.** With a loader that always has a segment with an id, a call that finds its
key at rest returns an id if and only if the segment in use has one or is empty, or the threshold is
greater than 0. The quotient of 0 and a positive number is 0. -/
theorem generate_served_iff (quotient : UInt64 → UInt64 → F64)
    (hzero : ∀ total, total ≠ 0 → quotient 0 total = .finite 0) (threshold : F64)
    (loads : ℕ → Result SegmentData) {w : World SharedSegments Task} (ctx : GenerateContext)
    (hw : Reaches (World.step (segmentStep (belowThreshold quotient threshold))) Free noCalls w)
    (hquiet : Quiet w ctx.key) (hloads : ∀ k, ∃ d, loads k = .ok d ∧ d.startId < d.maxId) :
    Returns (belowThreshold quotient threshold) loads ctx.key Generated w.shared 0
        (.generate ctx 0 .findBuffer) ↔
      (w.shared.currentSegment ctx.key).currentId + 1 ≤ (w.shared.currentSegment ctx.key).maxId ∨
        (w.shared.currentSegment ctx.key).maxId = (w.shared.currentSegment ctx.key).startId ∨
        F64.lt (.finite 0) threshold = true := by
  have hbegins : ComesTo (belowThreshold quotient threshold) loads ctx.key
      (GenerateAt ctx (.generate ctx 0 .getCurrent) 0 (w.shared.currentSegment ctx.key)) w.shared 0
      (.generate ctx 0 .findBuffer) :=
    generate_begins (pointsToSegments_of_reaches hw _) fun b hb => quiet_buffer hw hquiet hb
  rw [← gives_iff hzero]
  constructor
  · intro hserved
    by_contra hs
    have hfails : Returns (belowThreshold quotient threshold) loads ctx.key NotGenerated w.shared 0
        (.generate ctx 0 .findBuffer) := by
      refine hbegins.ends ?_
      rintro m₁ _ ⟨rfl, b₁, h₁⟩
      exact generate_not_given h₁ hs
    obtain ⟨a, ⟨id, rfl⟩, e, he⟩ := hserved.exclusive hfails
    cases he
  · intro hs
    refine hbegins.ends ?_
    rintro m₁ _ ⟨rfl, b₁, h₁⟩
    exact generate_given hloads h₁ hs

/-- An accepted threshold that is not greater than 0 is 0, or not a number. -/
theorem zero_of_accepted {c : Config} (hc : c.Accepted)
    (h : F64.lt (.finite 0) c.algorithm.segment.switchThreshold = false) :
    c.algorithm.segment.switchThreshold = .finite 0 ∨
      c.algorithm.segment.switchThreshold = .nan := by
  obtain ⟨_, _, _, _, _, _, _, _, _, _, ⟨hlow, hhigh⟩, _⟩ := Config.accepted_iff.mp hc
  cases hq : c.algorithm.segment.switchThreshold with
  | nan => exact Or.inr rfl
  | negInf =>
    rw [hq] at hlow
    cases hlow
  | posInf =>
    rw [hq] at hhigh
    cases hhigh
  | finite q =>
    rw [hq] at h hlow
    have hle : q ≤ 0 := not_lt.mp (of_decide_eq_false h)
    have hge : 0 ≤ q := not_lt.mp (of_decide_eq_false hlow)
    exact Or.inl (congrArg F64.finite (le_antisymm hle hge))

/-- The quotient without rounding. -/
def exactQuotient (a b : UInt64) : F64 := .finite (a.toNat / b.toNat)

/-- The first id of a key, at any threshold. -/
theorem first_id_served : Returns (belowThreshold exactQuotient (.finite 0))
    (fun _ => .ok ⟨1, 2, 1, 0⟩) "w:t" Generated noCalls.shared 0
    (.generate ⟨"w", "g", "t"⟩ 0 .findBuffer) :=
  (generate_served_iff exactQuotient (fun total _ => congrArg F64.finite (zero_div _)) (.finite 0) _
    ⟨"w", "g", "t"⟩ (Reaches.refl noCalls) (fun i h => by cases h)
    fun _ => ⟨_, rfl, by decide⟩).mpr (Or.inr (Or.inl rfl))

/-- At the threshold 0 the second id is never loaded. -/
theorem generate_not_served : ∃ c : Config, c.Accepted ∧ ∃ w,
    Reaches (World.step (segmentStep (belowThreshold exactQuotient
      c.algorithm.segment.switchThreshold))) Free noCalls w ∧ Quiet w "w:t" ∧
    ¬ Returns (belowThreshold exactQuotient c.algorithm.segment.switchThreshold)
      (fun _ => .ok ⟨2, 3, 1, 0⟩) "w:t" Generated w.shared 0
      (.generate ⟨"w", "g", "t"⟩ 0 .findBuffer) := by
  let c : Config := { Config.default with
    algorithm := { Config.default.algorithm with
      segment := { Config.default.algorithm.segment with switchThreshold := .finite 0 } } }
  let acts : List (ℕ × Input) := (0, .generate ⟨"w", "g", "t"⟩) :: List.replicate 8 (0, .proceed) ++
    (0, .reply (.ok ⟨1, 2, 1, 0⟩)) :: List.replicate 6 (0, .proceed)
  have hrun : ((run (World.step (segmentStep (belowThreshold exactQuotient (.finite 0)))) noCalls
      acts).map fun w => ((w.threads 0).key, (w.shared.currentSegment "w:t").currentId,
        (w.shared.currentSegment "w:t").maxId, (w.shared.currentSegment "w:t").startId)) =
      some (none, 2, 2, 1) := by
    decide +kernel
  obtain ⟨w, hw, heq⟩ := Option.map_eq_some_iff.mp hrun
  obtain ⟨hkey, heq⟩ := Prod.mk.inj heq
  obtain ⟨hcurrent, heq⟩ := Prod.mk.inj heq
  obtain ⟨hmax, hstart⟩ := Prod.mk.inj heq
  have hquiet : Quiet w "w:t" := quiet_of_run (by decide) hw hkey
  refine ⟨c, by decide +kernel, w, reaches_of_run hw, hquiet, fun hserved => ?_⟩
  have hgives := (generate_served_iff exactQuotient
    (fun total _ => congrArg F64.finite (zero_div _)) (.finite 0) _ ⟨"w", "g", "t"⟩
    (reaches_of_run hw) hquiet fun _ => ⟨_, rfl, by decide⟩).mp hserved
  have hname : GenerateContext.key ⟨"w", "g", "t"⟩ = "w:t" := by decide
  rw [hname, hcurrent, hmax, hstart] at hgives
  revert hgives
  decide

end NebulaId
