import NebulaId.Machine.Along
import NebulaId.Segment.Distinct

/-!
# The loading flag (`core/algorithm/segment.rs`)

`generate` sets the flag of a buffer before it waits for the loader, and clears it afterwards. A
call that waits may be dropped, and nothing else clears the flag for it.

* `segmentStep_flag`: what a step does to the flags.
* `flag_held_iff`: along a run, each flag that is set is held by a call if and only if no call that
  holds one is dropped.
* `orphaned_forever`: a flag that nobody holds stays set.
* `flag_orphaned`: a run with such a flag.
-/

namespace NebulaId

open Machine

/-- A call moves, or it is dropped where it waits for the loader. -/
inductive CallEvent where
  | move (i : ℕ) (input : Input)
  | drop (i : ℕ)

def callStep (below : UInt64 → UInt64 → Bool) (w : World SharedSegments Task) :
    CallEvent → Option (World SharedSegments Task)
  | .move i input => World.step (segmentStep below) w (i, input)
  | .drop i => (w.threads i).loading.map fun _ => ⟨w.shared, Function.update w.threads i .idle⟩

/-- The key of the buffer whose flag the call has set and not cleared yet. -/
def Task.flag : Task → Option String
  | .generate ctx _ .loadSegment | .generate ctx _ (.finishLoading _) => some ctx.key
  | _ => none

namespace SharedSegments

variable {m : SharedSegments} {key : String} {b b' : DoubleBuffer}

/-- `is_loading` of the buffer under the key. -/
def flagged (m : SharedSegments) (key : String) : Bool :=
  ((m.buffers key).map DoubleBuffer.loading).getD false

theorem flagged_of_buffer (hb : m.buffers key = some b) : m.flagged key = b.loading := by
  unfold flagged
  rw [hb]
  rfl

theorem flagged_setBuffer (m : SharedSegments) (key : String) (b : DoubleBuffer) :
    (m.setBuffer key b).flagged = Function.update m.flagged key b.loading := by
  funext k
  unfold flagged setBuffer
  dsimp only
  by_cases hk : k = key
  · subst hk
    rw [Function.update_self, Function.update_self]
    rfl
  · rw [Function.update_of_ne hk, Function.update_of_ne hk]

/-- The flag stays as it is with the other fields of the buffer. -/
theorem flagged_setBuffer_keep (hb : m.buffers key = some b) (hkeep : b'.loading = b.loading) :
    (m.setBuffer key b').flagged = m.flagged := by
  rw [flagged_setBuffer, hkeep, ← flagged_of_buffer hb]
  exact Function.update_eq_self key m.flagged

theorem flagged_create (hnone : m.buffers key = none) : (m.create key).flagged = m.flagged := by
  have hfree : m.flagged key = false := by
    unfold flagged
    rw [hnone]
    rfl
  have hset : (m.create key).flagged = (m.setBuffer key ⟨m.heap.length, none, false⟩).flagged := rfl
  rw [hset, flagged_setBuffer, ← hfree]
  exact Function.update_eq_self key m.flagged

end SharedSegments

/-! ## What a step does to the flags -/

/-- A step keeps the flags, or takes one that is free, or clears the one that the call holds. -/
inductive FlagMove (m : SharedSegments) (p : Task) (m' : SharedSegments) (p' : Task) : Prop
  | keep (hm : m'.flagged = m.flagged) (hp : p'.flag = p.flag)
  | take (key : String) (hfree : m.flagged key = false)
      (hm : m'.flagged = Function.update m.flagged key true) (hp : p.flag = none)
      (hp' : p'.flag = some key)
  | clear (key : String) (hm : m'.flagged = Function.update m.flagged key false)
      (hp : p.flag = some key) (hp' : p'.flag = none)

variable {below : UInt64 → UInt64 → Bool} {input : Input} {m m' : SharedSegments} {p p' : Task}

theorem flag_retry (ctx : GenerateContext) (tries : ℕ) : (retry ctx tries).flag = none := by
  unfold retry
  split <;> rfl

theorem generateStep_flag {ctx : GenerateContext} {tries : ℕ} {next : Next}
    (h : generateStep below input m ctx tries next = some (m', p')) :
    FlagMove m (.generate ctx tries next) m' p' := by
  cases next with
  | findBuffer =>
    cases h
    exact .keep rfl (by split <;> rfl)
  | insertBuffer =>
    cases h
    split
    · exact .keep rfl rfl
    · have hnone : m.buffers ctx.key = none := by simpa using ‹¬ (m.buffers ctx.key).isSome›
      exact .keep (SharedSegments.flagged_create hnone) rfl
  | getCurrent | needSwitch | getExhausted =>
    obtain ⟨b, hb, he⟩ := Option.map_eq_some_iff.mp h
    cases he
    exact .keep rfl rfl
  | tryConsume i =>
    obtain ⟨c, hc, he⟩ := Option.map_eq_some_iff.mp h
    split at he <;> cases he <;> exact .keep rfl rfl
  | needSwitchLock i =>
    obtain ⟨c, hc, he⟩ := Option.map_eq_some_iff.mp h
    cases he
    refine .keep rfl ?_
    split
    · rfl
    · exact flag_retry ctx tries
  | getNext =>
    obtain ⟨b, hb, he⟩ := Option.map_eq_some_iff.mp h
    cases he
    exact .keep rfl (by split <;> rfl)
  | swap =>
    obtain ⟨b, hb, he⟩ := Option.map_eq_some_iff.mp h
    split at he <;> cases he
    · exact .keep (SharedSegments.flagged_setBuffer_keep hb rfl) rfl
    · exact .keep rfl (flag_retry ctx tries)
  | storeCurrent i =>
    obtain ⟨b, hb, he⟩ := Option.map_eq_some_iff.mp h
    cases he
    exact .keep (SharedSegments.flagged_setBuffer_keep hb rfl) (flag_retry ctx tries)
  | tryStartLoading =>
    obtain ⟨b, hb, he⟩ := Option.map_eq_some_iff.mp h
    split at he <;> cases he
    · exact .keep rfl rfl
    · rename_i hfree
      refine .take ctx.key ?_ (SharedSegments.flagged_setBuffer m ctx.key _) rfl rfl
      rw [SharedSegments.flagged_of_buffer hb]
      exact Bool.not_eq_true _ |>.mp hfree
  | loadSegment =>
    unfold generateStep at h
    dsimp only at h
    split at h <;> cases h <;> exact .keep rfl rfl
  | finishLoading loaded =>
    obtain ⟨b, hb, he⟩ := Option.map_eq_some_iff.mp h
    dsimp only at he
    split at he <;> cases he <;>
      exact .clear ctx.key (SharedSegments.flagged_setBuffer m ctx.key _) rfl rfl
  | setNext i =>
    obtain ⟨b, hb, he⟩ := Option.map_eq_some_iff.mp h
    cases he
    exact .keep (SharedSegments.flagged_setBuffer_keep hb rfl) rfl
  | isLoading =>
    obtain ⟨b, hb, he⟩ := Option.map_eq_some_iff.mp h
    cases he
    exact .keep rfl (by split <;> rfl)
  | getNextAgain =>
    obtain ⟨b, hb, he⟩ := Option.map_eq_some_iff.mp h
    cases he
    refine .keep rfl ?_
    split
    · rfl
    · exact flag_retry ctx tries
  | lockExhausted i =>
    obtain ⟨c, hc, he⟩ := Option.map_eq_some_iff.mp h
    cases he
    exact .keep rfl rfl

theorem batchGenerateStep_flag {ctx : GenerateContext} {size : UInt64} {fits : CapacityFits size}
    {next : Next} (h : batchGenerateStep below input m ctx size fits next = some (m', p')) :
    FlagMove m (.batchGenerate ctx size fits next) m' p' := by
  cases next with
  | findBuffer =>
    cases h
    exact .keep rfl rfl
  | insertBuffer =>
    cases h
    split
    · exact .keep rfl rfl
    · have hnone : m.buffers ctx.key = none := by simpa using ‹¬ (m.buffers ctx.key).isSome›
      exact .keep (SharedSegments.flagged_create hnone) rfl
  | getCurrent | needSwitch | getNext | getExhausted =>
    obtain ⟨b, hb, he⟩ := Option.map_eq_some_iff.mp h
    cases he
    exact .keep rfl rfl
  | tryConsume i =>
    obtain ⟨c, hc, he⟩ := Option.map_eq_some_iff.mp h
    dsimp only at he
    split at he
    · split at he <;> cases he <;> exact .keep rfl rfl
    · cases he
      exact .keep rfl rfl
  | needSwitchLock i | lockExhausted i =>
    obtain ⟨c, hc, he⟩ := Option.map_eq_some_iff.mp h
    cases he
    exact .keep rfl rfl
  | loadSegment =>
    unfold batchGenerateStep at h
    dsimp only at h
    split at h <;> cases h <;> exact .keep rfl rfl
  | setNext i | storeCurrent i =>
    obtain ⟨b, hb, he⟩ := Option.map_eq_some_iff.mp h
    cases he
    exact .keep (SharedSegments.flagged_setBuffer_keep hb rfl) rfl
  | swap =>
    obtain ⟨b, hb, he⟩ := Option.map_eq_some_iff.mp h
    split at he <;> cases he
    · exact .keep (SharedSegments.flagged_setBuffer_keep hb rfl) rfl
    · exact .keep rfl rfl
  | tryStartLoading | finishLoading loaded | isLoading | getNextAgain => cases h

theorem segmentStep_flag {i : ℕ} (h : segmentStep below i input m p = some (m', p')) :
    FlagMove m p m' p' := by
  cases p with
  | idle =>
    cases input with
    | generate ctx =>
      cases h
      exact .keep rfl rfl
    | batchGenerate ctx size =>
      unfold segmentStep at h
      dsimp only at h
      split at h <;> cases h
      exact .keep rfl rfl
    | proceed => cases h
    | reply result => cases h
  | generate ctx tries next => exact generateStep_flag h
  | batchGenerate ctx size fits next => exact batchGenerateStep_flag h

/-! ## Who holds a flag -/

/-- A call that holds a flag finds it set, and no other call holds it. -/
structure FlagsApart (w : World SharedSegments Task) : Prop where
  set : ∀ i key, (w.threads i).flag = some key → w.shared.flagged key = true
  single : ∀ i j key, (w.threads i).flag = some key → (w.threads j).flag = some key → i = j

/-- Steps of its own, after any reply of the loader, take the call to where it clears the flag. -/
def WillClear (below : UInt64 → UInt64 → Bool) (w : World SharedSegments Task) (i : ℕ)
    (key : String) : Prop :=
  ∀ result, ∃ inputs : List Input, (∀ input ∈ inputs, input = .reply result ∨ input = .proceed) ∧
    ∃ w', run (callStep below) w (inputs.map (.move i)) = some w' ∧ w'.shared.flagged key = false

def FlagHeld (below : UInt64 → UInt64 → Bool) (w : World SharedSegments Task) : Prop :=
  ∀ key, w.shared.flagged key = true → ∃ i, (w.threads i).flag = some key ∧ WillClear below w i key

/-- Set, and held by nobody. -/
def Orphaned (w : World SharedSegments Task) (key : String) : Prop :=
  w.shared.flagged key = true ∧ ∀ j, (w.threads j).flag ≠ some key

/-- No call that holds a flag is dropped. -/
def DropsNoFlag (w : World SharedSegments Task) : CallEvent → Prop
  | .move _ _ => True
  | .drop i => (w.threads i).flag = none

instance (w : World SharedSegments Task) : DecidablePred (DropsNoFlag w)
  | .move _ _ => isTrue trivial
  | .drop i => inferInstanceAs (Decidable ((w.threads i).flag = none))

variable {w w' : World SharedSegments Task} {key : String} {i : ℕ} {e : CallEvent}

theorem flagsApart_noCalls : FlagsApart noCalls where
  set _ _ h := by cases h
  single _ _ _ h := by cases h

/-- The flag of each thread after the step of one. -/
theorem flag_update {sh : SharedSegments} {j : ℕ} :
    ((World.mk sh (Function.update w.threads i p')).threads j).flag =
      if j = i then p'.flag else (w.threads j).flag := by
  dsimp only
  by_cases hj : j = i
  · subst hj
    rw [Function.update_self, if_pos rfl]
  · rw [Function.update_of_ne hj, if_neg hj]

/-- Calls that hold no more flags than before, and find them set. -/
theorem FlagsApart.fewer (h : FlagsApart w)
    (hold : ∀ j k, (w'.threads j).flag = some k → (w.threads j).flag = some k)
    (hset : ∀ j k, (w'.threads j).flag = some k → w'.shared.flagged k = true) : FlagsApart w' :=
  ⟨hset, fun j j' k hj hj' => h.single j j' k (hold j k hj) (hold j' k hj')⟩

theorem FlagsApart.move (h : FlagsApart w) (hmove : FlagMove w.shared (w.threads i) m' p') :
    FlagsApart ⟨m', Function.update w.threads i p'⟩ := by
  cases hmove with
  | keep hm hp =>
    have hold : ∀ j k, ((World.mk m' (Function.update w.threads i p')).threads j).flag = some k →
        (w.threads j).flag = some k := by
      intro j k hj
      rw [flag_update] at hj
      split at hj
      · rename_i hji
        rw [hji, ← hp, hj]
      · exact hj
    exact h.fewer hold fun j k hj => (congrFun hm k).trans (h.set j k (hold j k hj))
  | take key hfree hm hp hp' =>
    -- whoever holds a flag already holds another one
    have hother : ∀ j k, (w.threads j).flag = some k → k ≠ key := by
      rintro j k hj rfl
      rw [h.set j k hj] at hfree
      cases hfree
    refine ⟨fun j k hj => ?_, fun j j' k hj hj' => ?_⟩
    · rw [flag_update] at hj
      dsimp only
      rw [hm]
      split at hj
      · rw [hp'] at hj
        cases hj
        exact Function.update_self _ _ _
      · rw [Function.update_of_ne (hother j k hj)]
        exact h.set j k hj
    · rw [flag_update] at hj hj'
      split at hj <;> split at hj'
      · rename_i hji hji'
        exact hji.trans hji'.symm
      · rw [hp'] at hj
        cases hj
        exact absurd rfl (hother j' key hj')
      · rw [hp'] at hj'
        cases hj'
        exact absurd rfl (hother j key hj)
      · exact h.single j j' k hj hj'
  | clear key hm hp hp' =>
    have hold : ∀ j k, ((World.mk m' (Function.update w.threads i p')).threads j).flag = some k →
        j ≠ i ∧ (w.threads j).flag = some k := by
      intro j k hj
      rw [flag_update] at hj
      split at hj
      · rw [hp'] at hj
        cases hj
      · exact ⟨‹_›, hj⟩
    refine h.fewer (fun j k hj => (hold j k hj).2) fun j k hj => ?_
    obtain ⟨hji, hj⟩ := hold j k hj
    have hk : k ≠ key := by
      rintro rfl
      exact hji (h.single j i k hj hp)
    dsimp only
    rw [hm, Function.update_of_ne hk]
    exact h.set j k hj

theorem FlagsApart.step (h : FlagsApart w) (hstep : callStep below w e = some w') :
    FlagsApart w' := by
  cases e with
  | move i input =>
    obtain ⟨m, p, hs, rfl⟩ := World.step_eq_some.mp hstep
    exact h.move (segmentStep_flag hs)
  | drop i =>
    obtain ⟨key, -, rfl⟩ := Option.map_eq_some_iff.mp hstep
    have hold : ∀ j k, ((World.mk w.shared (Function.update w.threads i .idle)).threads j).flag =
        some k → (w.threads j).flag = some k := by
      intro j k hj
      rw [flag_update] at hj
      split at hj
      · cases hj
      · exact hj
    exact h.fewer hold fun j k hj => h.set j k (hold j k hj)

/-! ## Runs -/

/-- The buffer of a flag that is set. -/
theorem exists_buffer (hset : m.flagged key = true) : ∃ b, m.buffers key = some b := by
  unfold SharedSegments.flagged at hset
  cases hb : m.buffers key with
  | none =>
    rw [hb] at hset
    cases hset
  | some b => exact ⟨b, rfl⟩

theorem flagged_finishLoading (below : UInt64 → UInt64 → Bool) (i : ℕ) {ctx : GenerateContext}
    (tries : ℕ) (loaded : Result ℕ) (hset : m.flagged ctx.key = true) :
    ∃ m' p', segmentStep below i .proceed m (.generate ctx tries (.finishLoading loaded)) =
      some (m', p') ∧ m'.flagged ctx.key = false := by
  obtain ⟨b, hb⟩ := exists_buffer hset
  cases loaded with
  | ok j =>
    refine ⟨m.setBuffer ctx.key { b with loading := false }, .generate ctx tries (.setNext j), ?_, ?_⟩
    · exact Option.map_eq_some_iff.mpr ⟨b, hb, rfl⟩
    · rw [SharedSegments.flagged_setBuffer, Function.update_self]
  | error e =>
    refine ⟨(m.setBuffer ctx.key { b with loading := false }).answer ctx.key
      (.generate (.error e)), .idle, ?_, ?_⟩
    · exact Option.map_eq_some_iff.mpr ⟨b, hb, rfl⟩
    · have hanswer : ∀ m : SharedSegments, ∀ a, (m.answer ctx.key a).flagged = m.flagged :=
        fun _ _ => rfl
      rw [hanswer, SharedSegments.flagged_setBuffer, Function.update_self]

theorem callStep_move {input : Input} (hp : w.threads i = p)
    (hs : segmentStep below i input w.shared p = some (m', p')) :
    callStep below w (.move i input) = some ⟨m', Function.update w.threads i p'⟩ :=
  World.step_eq_some.mpr ⟨m', p', by rw [hp, hs], rfl⟩

/-- **Who holds a flag clears it.** -/
theorem willClear_of_flag (hset : w.shared.flagged key = true) (hi : (w.threads i).flag = some key) :
    WillClear below w i key := by
  intro result
  cases hp : w.threads i with
  | idle =>
    rw [hp] at hi
    cases hi
  | batchGenerate ctx size fits next =>
    rw [hp] at hi
    cases hi
  | generate ctx tries next =>
    rw [hp] at hi
    cases next with
    | finishLoading loaded =>
      cases hi
      obtain ⟨m', p', hs, hclear⟩ := flagged_finishLoading below i tries loaded hset
      refine ⟨[.proceed], by simp, ⟨m', Function.update w.threads i p'⟩, ?_, hclear⟩
      rw [List.map_singleton, run_cons, callStep_move hp hs]
      rfl
    | loadSegment =>
      cases hi
      -- the reply leaves the flags alone
      obtain ⟨m₁, loaded, hreply, hflags⟩ : ∃ m₁ loaded, segmentStep below i (.reply result) w.shared
          (.generate ctx tries .loadSegment) = some (m₁, .generate ctx tries (.finishLoading loaded)) ∧
            m₁.flagged = w.shared.flagged := by
        cases result with
        | ok d => exact ⟨_, _, rfl, rfl⟩
        | error e => exact ⟨_, _, rfl, rfl⟩
      obtain ⟨m', p', hs, hclear⟩ := flagged_finishLoading below i tries loaded
        ((congrFun hflags ctx.key).trans hset)
      let w₁ : World SharedSegments Task :=
        ⟨m₁, Function.update w.threads i (.generate ctx tries (.finishLoading loaded))⟩
      refine ⟨[.reply result, .proceed], by simp, ⟨m', Function.update w₁.threads i p'⟩, ?_, hclear⟩
      have hfirst : callStep below w (.move i (.reply result)) = some w₁ := callStep_move hp hreply
      have hsecond : callStep below w₁ (.move i .proceed) =
          some ⟨m', Function.update w₁.threads i p'⟩ :=
        callStep_move (Function.update_self _ _ _) hs
      rw [List.map_cons, run_cons, hfirst, Option.bind_some, List.map_singleton, run_cons, hsecond]
      rfl
    | _ => cases hi

theorem flagHeld_iff : FlagHeld below w ↔
    ∀ key, w.shared.flagged key = true → ∃ i, (w.threads i).flag = some key := by
  constructor
  · intro h key hkey
    obtain ⟨i, hi, -⟩ := h key hkey
    exact ⟨i, hi⟩
  · intro h key hkey
    obtain ⟨i, hi⟩ := h key hkey
    exact ⟨i, hi, willClear_of_flag hkey hi⟩

/-- What a move of a call does to who holds the flags. -/
theorem held_move (hmove : FlagMove w.shared (w.threads i) m' p')
    (hheld : ∀ key, w.shared.flagged key = true → ∃ j, (w.threads j).flag = some key)
    (hkey : m'.flagged key = true) :
    ∃ j, ((World.mk m' (Function.update w.threads i p')).threads j).flag = some key := by
  cases hmove with
  | keep hm hp =>
    obtain ⟨j, hj⟩ := hheld key ((congrFun hm key).symm.trans hkey)
    refine ⟨j, ?_⟩
    rw [flag_update]
    split
    · rename_i hji
      rw [hp, ← hji, hj]
    · exact hj
  | take key' hfree hm hp hp' =>
    by_cases hk : key = key'
    · refine ⟨i, ?_⟩
      rw [flag_update, if_pos rfl, hp', hk]
    · rw [hm, Function.update_of_ne hk] at hkey
      obtain ⟨j, hj⟩ := hheld key hkey
      refine ⟨j, ?_⟩
      rw [flag_update, if_neg, hj]
      rintro rfl
      rw [hp] at hj
      cases hj
  | clear key' hm hp hp' =>
    have hk : key ≠ key' := by
      rintro rfl
      rw [hm, Function.update_self] at hkey
      cases hkey
    rw [hm, Function.update_of_ne hk] at hkey
    obtain ⟨j, hj⟩ := hheld key hkey
    refine ⟨j, ?_⟩
    rw [flag_update, if_neg, hj]
    rintro rfl
    rw [hp] at hj
    cases hj
    exact hk rfl

/-- The flag of a call that is dropped is held by nobody. -/
theorem orphaned_of_drop (h : FlagsApart w) (hi : (w.threads i).flag = some key)
    (hstep : callStep below w (.drop i) = some w') : Orphaned w' key := by
  obtain ⟨_, -, rfl⟩ := Option.map_eq_some_iff.mp hstep
  refine ⟨h.set i key hi, fun j hj => ?_⟩
  rw [flag_update] at hj
  split at hj
  · cases hj
  · exact ‹¬ j = i› (h.single j i key hj hi)

/-- **One step** keeps every flag held, unless it drops the call that holds one. -/
theorem flagHeld_step_iff (h : FlagsApart w) (hheld : FlagHeld below w)
    (hstep : callStep below w e = some w') : FlagHeld below w' ↔ DropsNoFlag w e := by
  rw [flagHeld_iff] at hheld ⊢
  cases e with
  | move i input =>
    refine iff_of_true (fun key hkey => ?_) trivial
    obtain ⟨m, p, hs, rfl⟩ := World.step_eq_some.mp hstep
    exact held_move (segmentStep_flag hs) hheld hkey
  | drop i =>
    constructor
    · intro hafter
      by_contra hflag
      obtain ⟨key, hi⟩ := Option.ne_none_iff_exists'.mp hflag
      obtain ⟨hset, hnone⟩ := orphaned_of_drop h hi hstep
      obtain ⟨j, hj⟩ := hafter key hset
      exact hnone j hj
    · intro hnone key hkey
      obtain ⟨_, -, rfl⟩ := Option.map_eq_some_iff.mp hstep
      obtain ⟨j, hj⟩ := hheld key hkey
      refine ⟨j, ?_⟩
      rw [flag_update, if_neg, hj]
      rintro rfl
      rw [show (w.threads j).flag = none from hnone] at hj
      cases hj

/-- As long as no call is dropped, every flag that is set is held. -/
theorem held_of_reaches (h : Reaches (World.step (segmentStep below)) Free noCalls w) :
    FlagsApart w ∧ ∀ key, w.shared.flagged key = true → ∃ i, (w.threads i).flag = some key := by
  refine h.invariant (I := fun w => FlagsApart w ∧
    ∀ key, w.shared.flagged key = true → ∃ i, (w.threads i).flag = some key)
    ⟨flagsApart_noCalls, fun key hkey => by cases hkey⟩ ?_
  rintro w ⟨i, input⟩ w' ⟨hapart, hheld⟩ - hstep
  obtain ⟨m, p, hs, rfl⟩ := World.step_eq_some.mp hstep
  have hmove := segmentStep_flag hs
  exact ⟨hapart.move hmove, fun key hkey => held_move hmove hheld hkey⟩

/-- **Flags are held** along a run if and only if no call that holds one is dropped. -/
theorem flag_held_iff (below : UInt64 → UInt64 → Bool) (events : List CallEvent) :
    EachStep (callStep below) (fun _ _ w' => FlagHeld below w') noCalls events ↔
      EachStep (callStep below) (fun w e _ => DropsNoFlag w e) noCalls events := by
  have hstart : FlagHeld below noCalls := fun key hkey => by cases hkey
  refine eachStep_iff_of_invariants hstart flagsApart_noCalls ?_ ?_
  · intro w e w' h hstep
    exact h.step hstep
  · intro w e w' h hheld hstep
    exact flagHeld_step_iff h hheld hstep

theorem Orphaned.step (h : Orphaned w key) (hstep : callStep below w e = some w') :
    Orphaned w' key := by
  obtain ⟨hset, hnone⟩ := h
  cases e with
  | move i input =>
    obtain ⟨m, p, hs, rfl⟩ := World.step_eq_some.mp hstep
    -- no call takes the flag or clears it
    obtain ⟨hset', hp⟩ : m.flagged key = true ∧ p.flag ≠ some key := by
      cases segmentStep_flag hs with
      | keep hm hp =>
        rw [hp]
        exact ⟨(congrFun hm key).trans hset, hnone i⟩
      | take key' hfree hm hp hp' =>
        have hne : key ≠ key' := by
          rintro rfl
          rw [hset] at hfree
          cases hfree
        rw [hm, Function.update_of_ne hne, hp']
        exact ⟨hset, fun heq => hne (Option.some.inj heq).symm⟩
      | clear key' hm hp hp' =>
        have hne : key ≠ key' := by
          rintro rfl
          exact hnone i hp
        rw [hm, Function.update_of_ne hne, hp']
        exact ⟨hset, by simp⟩
    refine ⟨hset', fun j hj => ?_⟩
    rw [flag_update] at hj
    split at hj
    · exact hp hj
    · exact hnone j hj
  | drop i =>
    obtain ⟨_, -, rfl⟩ := Option.map_eq_some_iff.mp hstep
    refine ⟨hset, fun j hj => ?_⟩
    rw [flag_update] at hj
    split at hj
    · cases hj
    · exact hnone j hj

/-- **A flag that nobody holds** is never cleared. -/
theorem orphaned_forever (h : Orphaned w key) (hreach : Reaches (callStep below) Free w w') :
    Orphaned w' key :=
  hreach.invariant (I := fun w => Orphaned w key) h fun _ _ _ ho _ hstep => ho.step hstep

/-- A call is dropped while it waits for the loader. -/
theorem flag_orphaned : ∃ w, Reaches (callStep belowTenth) Free noCalls w ∧
    Orphaned w "w:t" ∧ ¬ FlagHeld belowTenth w := by
  let events : List CallEvent :=
    .move 0 (.generate ⟨"w", "g", "t"⟩) :: List.replicate 8 (.move 0 .proceed)
  have hrun : ((run (callStep belowTenth) noCalls events).bind fun w =>
      (callStep belowTenth w (.drop 0)).map fun _ => (w.threads 0).flag) = some (some "w:t") := by
    decide +kernel
  obtain ⟨w, hw, hdrop⟩ := Option.bind_eq_some_iff.mp hrun
  obtain ⟨w', hw', hflag⟩ := Option.map_eq_some_iff.mp hdrop
  have hreach := reaches_of_run hw
  have hapart : FlagsApart w := hreach.invariant (I := FlagsApart) flagsApart_noCalls
    fun _ _ _ h _ hstep => h.step hstep
  have horphan : Orphaned w' "w:t" := orphaned_of_drop hapart hflag hw'
  refine ⟨w', hreach.trans (Reaches.single trivial hw'), horphan, fun hheld => ?_⟩
  obtain ⟨j, hj, -⟩ := hheld "w:t" horphan.1
  exact horphan.2 j hj

end NebulaId
