import NebulaId.Algorithm.Router
import NebulaId.Segment.Frame

/-!
# Biz tags that share a name or a buffer (`core/algorithm/router.rs`, `segment.rs`)

The schema tells biz tags apart by workspace, group and name. The routing table is keyed by
the name alone, and the buffer of a tag by the text `workspace:name`. A run is a list of
requests to one router, each with the router before and after it in the history.

* `Isolated`: no operation on one of two tags changes the algorithm of the other, and no
  buffer serves both.
* `Apart`: the condition on one operation.
* `isolated_cons_iff`: an operation keeps two tags isolated exactly when it keeps them apart.
* `apart_isolated`: so does every run of such operations; and the calls of a tag with another
  key leave a buffer alone under every interleaving.
* `tags_conflated`: two runs in which tags of different workspaces disturb each other.
-/

namespace NebulaId

open Machine

structure BizTag where
  workspace : String
  group : String
  name : String
  deriving DecidableEq

def BizTag.ctx (tag : BizTag) : GenerateContext := ⟨tag.workspace, tag.group, tag.name⟩

/-- The requests; `requested` is the algorithm that a request may name. -/
inductive TagOp where
  | setAlgorithm (tag : BizTag) (algorithm : AlgorithmType)
  | generate (tag : BizTag) (requested : Option AlgorithmType)
  | batchGenerate (tag : BizTag) (requested : Option AlgorithmType) (size : ℕ)

namespace TagOp

def tag : TagOp → BizTag
  | .setAlgorithm tag _ | .generate tag _ | .batchGenerate tag _ _ => tag

/-- Whether ids are returned, and the router afterwards. -/
def exec (r : AlgorithmRouter) : TagOp → Bool × AlgorithmRouter
  | .setAlgorithm tag algorithm => (false, r.setAlgorithm tag.name algorithm)
  | .generate tag requested =>
    let out := match requested with
      | some algorithm => r.generateWithAlgorithm algorithm tag.workspace tag.group tag.name
      | none => r.generate tag.ctx
    (out.1.isOk, out.2)
  | .batchGenerate tag requested size =>
    let out := match requested with
      | some algorithm =>
        r.batchGenerateWithAlgorithm algorithm tag.workspace tag.group tag.name size
      | none => r.batchGenerate tag.ctx size
    (out.1.isOk, out.2)

/-- The first of the calls that succeeds is one of Segment. -/
def ServedBySegment (r : AlgorithmRouter) : TagOp → Prop
  | .setAlgorithm _ _ => False
  | .generate tag requested =>
    ∃ id, firstOk (r.candidates (AlgorithmRouter.askOne tag.ctx)
      (requested.getD (r.getAlgorithm tag.ctx))) = some (.segment, id)
  | .batchGenerate tag requested size =>
    ∃ batch, firstOk (r.candidates (AlgorithmRouter.askBatch tag.ctx size)
      (requested.getD (r.getAlgorithm tag.ctx))) = some (.segment, batch)

end TagOp

structure TagEvent where
  before : AlgorithmRouter
  op : TagOp
  answered : Bool
  after : AlgorithmRouter

/-- The key of the buffer that the ids of the answer come from, when Segment has made them. -/
def TagEvent.consumes (e : TagEvent) : Option String :=
  if e.answered = true ∧ e.after.calls.getLast? = some .segment then some e.op.tag.ctx.key else none

structure TagState where
  router : AlgorithmRouter
  history : List TagEvent

namespace TagState

def start (r : AlgorithmRouter) : TagState := ⟨r, []⟩

def event (s : TagState) (op : TagOp) : TagEvent :=
  ⟨s.router, op, (op.exec s.router).1, (op.exec s.router).2⟩

def step (s : TagState) (op : TagOp) : Option TagState :=
  some ⟨(op.exec s.router).2, s.event op :: s.history⟩

/-- No operation on the first tag changes the algorithm of the second or consumes from a
buffer that the second consumes from. -/
structure Undisturbed (t u : BizTag) (history : List TagEvent) : Prop where
  route : ∀ e ∈ history, e.op.tag = t → e.after.getAlgorithm u.ctx = e.before.getAlgorithm u.ctx
  buffer : ∀ e ∈ history, ∀ e' ∈ history, e.op.tag = t → e'.op.tag = u →
    ∀ key, e.consumes = some key → e'.consumes ≠ some key

def Isolated (t u : BizTag) (history : List TagEvent) : Prop :=
  Undisturbed t u history ∧ Undisturbed u t history

/-- The operation is no `set_algorithm` for the name of the tag, or sets what the tag already
has; and it is not served from the buffer of the tag, or the tag has not been. -/
def Leaves (u : BizTag) (s : TagState) (op : TagOp) : Prop :=
  (∀ algorithm, op = .setAlgorithm op.tag algorithm → op.tag.name = u.name →
    s.router.getAlgorithm u.ctx = algorithm) ∧
  (op.ServedBySegment s.router → op.tag.ctx.key = u.ctx.key →
    ∀ e ∈ s.history, e.op.tag = u → e.consumes = none)

/-- An operation on one of the tags leaves the other. -/
def Apart (t u : BizTag) (s : TagState) (op : TagOp) : Prop :=
  (op.tag = t → Leaves u s op) ∧ (op.tag = u → Leaves t s op)

variable {s : TagState} {op : TagOp} {t u : BizTag} {key : String} {e : TagEvent}

theorem exec_generate (r : AlgorithmRouter) (tag : BizTag) (requested : Option AlgorithmType) :
    (TagOp.generate tag requested).exec r =
      let out := r.withAlgorithm (AlgorithmRouter.askOne tag.ctx)
        (requested.getD (r.getAlgorithm tag.ctx))
      (out.1.isOk, out.2) := by
  cases requested with
  | none => rfl
  | some algorithm => rfl

theorem exec_batchGenerate (r : AlgorithmRouter) (tag : BizTag) (requested : Option AlgorithmType)
    (size : ℕ) :
    (TagOp.batchGenerate tag requested size).exec r =
      let out := r.withAlgorithm (AlgorithmRouter.askBatch tag.ctx size)
        (requested.getD (r.getAlgorithm tag.ctx))
      (out.1.isOk, out.2) := by
  cases requested with
  | none => rfl
  | some algorithm => rfl

theorem consumes_eq_some : e.consumes = some key ↔
    (e.answered = true ∧ e.after.calls.getLast? = some .segment) ∧ key = e.op.tag.ctx.key := by
  unfold TagEvent.consumes
  split
  · simp [*, eq_comm]
  · simp [*]

/-- A request consumes from the buffer of its tag exactly when Segment is the first to
succeed. -/
theorem event_consumes : (s.event op).consumes = some key ↔
    op.ServedBySegment s.router ∧ key = op.tag.ctx.key := by
  rw [consumes_eq_some]
  refine and_congr_left' ?_
  cases op with
  | setAlgorithm tag algorithm =>
    exact iff_of_false (by rintro ⟨h, -⟩; cases h) id
  | generate tag requested =>
    simp only [event, exec_generate]
    exact AlgorithmRouter.withAlgorithm_answered_iff
  | batchGenerate tag requested size =>
    simp only [event, exec_batchGenerate]
    exact AlgorithmRouter.withAlgorithm_answered_iff

/-- The calls of a request change no route. -/
theorem getAlgorithm_withAlgorithm {α : Type} (r : AlgorithmRouter)
    (ask : IdAlgorithm → ℕ → Result α) (algorithm : AlgorithmType) (ctx : GenerateContext) :
    (r.withAlgorithm ask algorithm).2.getAlgorithm ctx = r.getAlgorithm ctx := by
  rw [AlgorithmRouter.withAlgorithm_eq]
  rfl

theorem getAlgorithm_setAlgorithm (r : AlgorithmRouter) (bizTag : String)
    (algorithm : AlgorithmType) (ctx : GenerateContext) :
    (r.setAlgorithm bizTag algorithm).getAlgorithm ctx =
      if bizTag = ctx.bizTag then algorithm else r.getAlgorithm ctx := by
  unfold AlgorithmRouter.getAlgorithm AlgorithmRouter.setAlgorithm
  split
  · subst bizTag
    simp
  · simp [Function.update_of_ne (Ne.symm ‹_›)]

/-- An operation keeps the algorithm of a tag exactly when it sets no other one for its
name. -/
theorem event_route : (s.event op).after.getAlgorithm u.ctx = s.router.getAlgorithm u.ctx ↔
    ∀ algorithm, op = .setAlgorithm op.tag algorithm → op.tag.name = u.name →
      s.router.getAlgorithm u.ctx = algorithm := by
  cases op with
  | setAlgorithm tag algorithm =>
    simp only [event, TagOp.exec, TagOp.tag, getAlgorithm_setAlgorithm, TagOp.setAlgorithm.injEq,
      true_and, forall_eq', BizTag.ctx]
    split
    · simp [*, eq_comm]
    · simp [*]
  | generate tag requested =>
    simp only [event, exec_generate]
    exact iff_of_true (getAlgorithm_withAlgorithm _ _ _ _) (by rintro _ ⟨⟩)
  | batchGenerate tag requested size =>
    simp only [event, exec_batchGenerate]
    exact iff_of_true (getAlgorithm_withAlgorithm _ _ _ _) (by rintro _ ⟨⟩)

/-- The buffers of the earlier requests of a tag and of the request at hand. -/
theorem buffer_apart_iff :
    (∀ e ∈ s.history, e.op.tag = u → ∀ key, (s.event op).consumes = some key →
      e.consumes ≠ some key) ↔
    (op.ServedBySegment s.router → op.tag.ctx.key = u.ctx.key →
      ∀ e ∈ s.history, e.op.tag = u → e.consumes = none) := by
  constructor
  · intro h hserved hkey e he htag
    cases hconsumes : e.consumes with
    | none => rfl
    | some key =>
      obtain ⟨-, hown⟩ := consumes_eq_some.mp hconsumes
      have hshared : (s.event op).consumes = some key :=
        event_consumes.mpr ⟨hserved, by rw [hown, htag, hkey]⟩
      exact absurd hconsumes (h e he htag key hshared)
  · intro h e he htag key hevent hconsumes
    obtain ⟨hserved, hkey⟩ := event_consumes.mp hevent
    obtain ⟨-, hown⟩ := consumes_eq_some.mp hconsumes
    rw [htag] at hown
    rw [h hserved (hkey.symm.trans hown) e he htag] at hconsumes
    cases hconsumes

theorem undisturbed_nil (t u : BizTag) : Undisturbed t u [] :=
  ⟨fun _ he => (List.not_mem_nil he).elim, fun _ he => (List.not_mem_nil he).elim⟩

theorem Undisturbed.cons (hne : t ≠ u) (h : Undisturbed t u s.history)
    (hfirst : op.tag = t → Leaves u s op) (hsecond : op.tag = u → Leaves t s op) :
    Undisturbed t u (s.event op :: s.history) where
  route := by
    intro e he htag
    rcases List.mem_cons.mp he with rfl | he
    · exact event_route.mpr (hfirst htag).1
    · exact h.route e he htag
  buffer := by
    intro e he e' he' htag htag' key hconsumes hconsumes'
    rcases List.mem_cons.mp he with rfl | he <;> rcases List.mem_cons.mp he' with rfl | he'
    · exact hne (htag.symm.trans htag')
    · exact buffer_apart_iff.mpr (hfirst htag).2 e' he' htag' key hconsumes hconsumes'
    · exact buffer_apart_iff.mpr (hsecond htag').2 e he htag key hconsumes' hconsumes
    · exact h.buffer e he e' he' htag htag' key hconsumes hconsumes'

theorem Undisturbed.of_cons (h : Undisturbed t u (s.event op :: s.history)) :
    Undisturbed t u s.history ∧ (op.tag = t → Leaves u s op) := by
  refine ⟨⟨fun e he => h.route e (List.mem_cons_of_mem _ he), fun e he e' he' =>
    h.buffer e (List.mem_cons_of_mem _ he) e' (List.mem_cons_of_mem _ he')⟩, fun htag => ⟨?_, ?_⟩⟩
  · exact event_route.mp (h.route _ List.mem_cons_self htag)
  · refine buffer_apart_iff.mp fun e he hu => ?_
    exact h.buffer _ List.mem_cons_self e (List.mem_cons_of_mem _ he) htag hu

/-- **One operation** keeps two tags isolated exactly when it keeps them apart. -/
theorem isolated_cons_iff (hne : t ≠ u) :
    Isolated t u (s.event op :: s.history) ↔ Isolated t u s.history ∧ Apart t u s op := by
  constructor
  · rintro ⟨ht, hu⟩
    exact ⟨⟨ht.of_cons.1, hu.of_cons.1⟩, ht.of_cons.2, hu.of_cons.2⟩
  · rintro ⟨⟨ht, hu⟩, hfirst, hsecond⟩
    exact ⟨ht.cons hne hfirst hsecond, hu.cons hne.symm hsecond hfirst⟩

/-- **Every run** of operations that keep two tags apart keeps them isolated: none changes the
algorithm of the other tag or consumes from a buffer that the other consumes from. Under
every interleaving a call made for a tag leaves the buffer and the segments of another key as
they are. -/
theorem apart_isolated {r : AlgorithmRouter} (below : UInt64 → UInt64 → Bool) (hne : t ≠ u)
    (h : Reaches step (Apart t u) (start r) s) :
    Isolated t u s.history ∧
      ∀ w i input w', Reaches (World.step (segmentStep below)) Free noCalls w →
        World.step (segmentStep below) w (i, input) = some w' →
        (w.threads i).key = some t.ctx.key → t.ctx.key ≠ u.ctx.key →
        w'.shared.buffers u.ctx.key = w.shared.buffers u.ctx.key ∧
          ∀ (j : ℕ) segment, w.shared.heap[j]? = some (u.ctx.key, segment) →
            w'.shared.heap[j]? = some (u.ctx.key, segment) := by
  constructor
  · refine h.invariant (I := fun s => Isolated t u s.history) ?_ ?_
    · exact ⟨undisturbed_nil t u, undisturbed_nil u t⟩
    · rintro s op s' hs hapart ⟨⟩
      exact (isolated_cons_iff hne).mpr ⟨hs, hapart⟩
  · intro w i input w' hw hstep hcall hkeys
    have hinv : SegmentsInv w := hw.invariant segmentsInv_noCalls fun _ _ _ h _ => segmentsInv_step h
    obtain ⟨m, p, hs, rfl⟩ := World.step_eq_some.mp hstep
    refine segmentStep_frame (hinv.thread i) ?_ hs
    rw [hcall]
    exact fun hk => hkeys (Option.some.inj hk)

theorem takeWhile_colon {x : List Char} (hx : ':' ∉ x) (y : List Char) :
    (x ++ ':' :: y).takeWhile (· != ':') = x := by
  rw [List.takeWhile_append_of_pos]
  · simp
  · intro c hc
    rw [bne_iff_ne]
    rintro rfl
    exact hx hc

/-- A workspace without a colon can be read off the key. -/
theorem key_eq_iff (ht : ':' ∉ t.workspace.toList) (hu : ':' ∉ u.workspace.toList) :
    t.ctx.key = u.ctx.key ↔ t.workspace = u.workspace ∧ t.name = u.name := by
  have hkey : ∀ tag : BizTag, tag.ctx.key.toList = tag.workspace.toList ++ ':' :: tag.name.toList := by
    intro tag
    simp [GenerateContext.key, BizTag.ctx]
  constructor
  · intro h
    have hlist : t.workspace.toList ++ ':' :: t.name.toList =
        u.workspace.toList ++ ':' :: u.name.toList := by
      rw [← hkey, ← hkey, h]
    have hworkspace : t.workspace.toList = u.workspace.toList := by
      rw [← takeWhile_colon ht t.name.toList, hlist, takeWhile_colon hu]
    rw [hworkspace] at hlist
    have hname := List.cons.inj (List.append_cancel_left hlist)
    exact ⟨String.toList_inj.mp hworkspace, String.toList_inj.mp hname.2⟩
  · rintro ⟨hworkspace, hname⟩
    rw [← String.toList_inj, hkey, hkey, hworkspace, hname]

/-- Tags with different names and different keys are kept apart by every operation. -/
theorem apart_of_ne (hname : t.name ≠ u.name) (hkey : t.ctx.key ≠ u.ctx.key) : Apart t u s op := by
  refine ⟨?_, ?_⟩
  · rintro rfl
    exact ⟨fun _ _ h => absurd h hname, fun _ h => absurd h hkey⟩
  · rintro rfl
    exact ⟨fun _ _ h => absurd h.symm hname, fun _ h => absurd h.symm hkey⟩

/-- The default router with a Segment algorithm alone. -/
def segmentOnly : AlgorithmRouter :=
  (AlgorithmRouter.new .default).register .segment
    ⟨fun turn _ => .ok (Id.fromU128 (.ofNat 128 turn)),
      fun turn _ _ => .ok ⟨[Id.fromU128 (.ofNat 128 turn)], .segment, ""⟩⟩

/-- The orders of one workspace are routed to Snowflake, and two workspaces take ids. -/
theorem orders_isolated : ∃ s,
    Reaches step (Apart ⟨"a", "g", "orders"⟩ ⟨"b", "g", "payments"⟩) (start segmentOnly) s ∧
      s.history.length = 3 ∧ Isolated ⟨"a", "g", "orders"⟩ ⟨"b", "g", "payments"⟩ s.history := by
  have hapart : ∀ s op, Apart ⟨"a", "g", "orders"⟩ ⟨"b", "g", "payments"⟩ s op :=
    fun s op => apart_of_ne (by decide) (by decide)
  have hrun : Reaches step (Apart ⟨"a", "g", "orders"⟩ ⟨"b", "g", "payments"⟩) (start segmentOnly) _ :=
    Reaches.cons (a := .setAlgorithm ⟨"a", "g", "orders"⟩ .snowflake) (hapart _ _) rfl
      (Reaches.cons (a := .generate ⟨"a", "g", "orders"⟩ none) (hapart _ _) rfl
        (Reaches.single (a := .generate ⟨"b", "g", "payments"⟩ none) (hapart _ _) rfl))
  exact ⟨_, hrun, rfl, (apart_isolated belowTenth (by decide) hrun).1⟩

/-- Setting the algorithm of `orders` in one workspace changes that of `orders` in another. The
workspaces `a:b` and `a` share a buffer through their tags `c` and `b:c`. -/
theorem tags_conflated :
    (∃ t u s, t.workspace ≠ u.workspace ∧ t.ctx.key ≠ u.ctx.key ∧
      Reaches step Free (start segmentOnly) s ∧ ¬ Isolated t u s.history) ∧
    ∃ t u s, t.workspace ≠ u.workspace ∧ t.name ≠ u.name ∧ t.ctx.key = u.ctx.key ∧
      Reaches step Free (start segmentOnly) s ∧ ¬ Isolated t u s.history := by
  constructor
  · refine ⟨⟨"a", "g", "orders"⟩, ⟨"b", "g", "orders"⟩, _, by decide, by decide,
      Reaches.single (a := .setAlgorithm ⟨"a", "g", "orders"⟩ .uuidV7) trivial rfl, ?_⟩
    rintro ⟨h, -⟩
    cases (h.route _ List.mem_cons_self rfl : AlgorithmType.uuidV7 = .segment)
  · refine ⟨⟨"a:b", "g", "c"⟩, ⟨"a", "g", "b:c"⟩, _, by decide, by decide, by decide,
      Reaches.cons (a := .generate ⟨"a:b", "g", "c"⟩ none) trivial rfl
        (Reaches.single (a := .generate ⟨"a", "g", "b:c"⟩ none) trivial rfl), ?_⟩
    rintro ⟨h, -⟩
    exact h.buffer _ (List.mem_cons_of_mem _ List.mem_cons_self) _ List.mem_cons_self rfl rfl
      "a:b:c" rfl rfl

end TagState

end NebulaId
