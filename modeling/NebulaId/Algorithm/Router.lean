import NebulaId.Algorithm.Degradation
import NebulaId.Config.AppConfig
import NebulaId.Machine.FirstOk

/-!
# The algorithm router (`core/algorithm/router.rs`)

A request names an algorithm, or the routing table names one for its tag. The router calls
it, and after a failure the members of the fallback chain in order, up to the first that
succeeds. An algorithm that is not in the table is passed over. Every call is followed by a
`record_generation_result`.

The answers of an algorithm are a function of the number of calls made before, so they may
be any. `calls` is the history.

* `withAlgorithm`: the loop, for one id or a batch of them.
* `withAlgorithm_eq`: the loop finds the first success among the outcomes of the calls that
  it may make.
* `fallback_served`: what a request answers, calls and records, for one id and for a batch.
* `unregistered_all_fail`: with an algorithm that is not in the table there is no error of
  its own to return.
-/

namespace NebulaId

open Machine

/-- The two methods of an algorithm; the first argument is the number of calls that the
router has made before. -/
structure IdAlgorithm where
  generate : ℕ → GenerateContext → Result Id
  batchGenerate : ℕ → GenerateContext → ℕ → Result IdBatch

structure AlgorithmRouter where
  config : Config
  algorithms : AlgorithmType → Option IdAlgorithm
  fallbackChain : List AlgorithmType
  currentAlgorithm : String → Option AlgorithmType
  degradationManager : DegradationManager
  calls : List AlgorithmType

namespace AlgorithmRouter

variable {α : Type}

/-- The chain that `new` builds for a default algorithm. -/
def fallbacksOf : AlgorithmType → List AlgorithmType
  | .segment => [.snowflake, .uuidV7, .uuidV4]
  | .snowflake => [.uuidV7, .uuidV4]
  | .uuidV7 | .uuidV4 => []

def new (config : Config) : AlgorithmRouter :=
  let primaryAlgorithm := config.algorithm.getDefaultAlgorithm
  { config := config
    algorithms := fun _ => none
    fallbackChain := fallbacksOf primaryAlgorithm
    currentAlgorithm := fun _ => none
    degradationManager :=
      { DegradationManager.new .default with
        primaryAlgorithm := primaryAlgorithm, fallbackChain := fallbacksOf primaryAlgorithm }
    calls := [] }

/-- An algorithm that was built enters the table and the degradation manager. -/
def register (r : AlgorithmRouter) (algType : AlgorithmType) (alg : IdAlgorithm) :
    AlgorithmRouter :=
  { r with
    algorithms := Function.update r.algorithms algType (some alg)
    degradationManager := r.degradationManager.registerAlgorithm algType }

def getAlgorithm (r : AlgorithmRouter) (ctx : GenerateContext) : AlgorithmType :=
  (r.currentAlgorithm ctx.bizTag).getD r.config.algorithm.getDefaultAlgorithm

def setAlgorithm (r : AlgorithmRouter) (bizTag : String) (algorithm : AlgorithmType) :
    AlgorithmRouter :=
  { r with currentAlgorithm := Function.update r.currentAlgorithm bizTag (some algorithm) }

def getAlgorithmName (r : AlgorithmRouter) (_workspace _group bizTag : String) : Result String :=
  match r.currentAlgorithm bizTag with
  | some alg => .ok alg.display
  | none => .ok r.config.algorithm.getDefaultAlgorithm.display

/-- One call of an algorithm, and the record of its outcome. -/
def attempt (r : AlgorithmRouter) (algType : AlgorithmType) (answer : ℕ → Result α) :
    Result α × AlgorithmRouter :=
  let result := answer r.calls.length
  (result,
    { r with
      calls := r.calls ++ [algType]
      degradationManager := r.degradationManager.recordGenerationResult algType result.isOk })

/-- `for fallback in &self.fallback_chain` -/
def tryFallbacks (ask : IdAlgorithm → ℕ → Result α) :
    List AlgorithmType → AlgorithmRouter → Option α × AlgorithmRouter
  | [], r => (none, r)
  | fallback :: rest, r =>
    match r.algorithms fallback with
    | none => tryFallbacks ask rest r
    | some fallbackAlg =>
      match r.attempt fallback (ask fallbackAlg) with
      | (.ok id, r) => (some id, r)
      | (.error _, r) => tryFallbacks ask rest r

/-- The body that the two functions below have in common. -/
def withAlgorithm (ask : IdAlgorithm → ℕ → Result α) (r : AlgorithmRouter)
    (algorithm : AlgorithmType) : Result α × AlgorithmRouter :=
  match r.algorithms algorithm with
  | some alg =>
    match r.attempt algorithm (ask alg) with
    | (.ok id, r) => (.ok id, r)
    | (.error e, r) =>
      match tryFallbacks ask r.fallbackChain r with
      | (some id, r) => (.ok id, r)
      | (none, r) => (.error e, r)
  | none =>
    match tryFallbacks ask r.fallbackChain r with
    | (some id, r) => (.ok id, r)
    | (none, r) => (.error (.internalError "All algorithms failed"), r)

def askOne (ctx : GenerateContext) (alg : IdAlgorithm) (turn : ℕ) : Result Id :=
  alg.generate turn ctx

def askBatch (ctx : GenerateContext) (size : ℕ) (alg : IdAlgorithm) (turn : ℕ) : Result IdBatch :=
  alg.batchGenerate turn ctx size

def generateWithAlgorithmInternal (r : AlgorithmRouter) (algorithm : AlgorithmType)
    (ctx : GenerateContext) : Result Id × AlgorithmRouter :=
  r.withAlgorithm (askOne ctx) algorithm

def batchGenerateWithAlgorithmInternal (r : AlgorithmRouter) (algorithm : AlgorithmType)
    (ctx : GenerateContext) (size : ℕ) : Result IdBatch × AlgorithmRouter :=
  r.withAlgorithm (askBatch ctx size) algorithm

def generate (r : AlgorithmRouter) (ctx : GenerateContext) : Result Id × AlgorithmRouter :=
  r.generateWithAlgorithmInternal (r.getAlgorithm ctx) ctx

def batchGenerate (r : AlgorithmRouter) (ctx : GenerateContext) (size : ℕ) :
    Result IdBatch × AlgorithmRouter :=
  r.batchGenerateWithAlgorithmInternal (r.getAlgorithm ctx) ctx size

def generateWithAlgorithm (r : AlgorithmRouter) (algorithm : AlgorithmType)
    (workspace group bizTag : String) : Result Id × AlgorithmRouter :=
  r.generateWithAlgorithmInternal algorithm ⟨workspace, group, bizTag⟩

def batchGenerateWithAlgorithm (r : AlgorithmRouter) (algorithm : AlgorithmType)
    (workspace group bizTag : String) (size : ℕ) : Result IdBatch × AlgorithmRouter :=
  r.batchGenerateWithAlgorithmInternal algorithm ⟨workspace, group, bizTag⟩ size

/-- The outcomes of the calls that a request may come to make: those of the algorithms of a
list that are in a table, in order, each in its turn. -/
def outcomes (ask : IdAlgorithm → ℕ → Result α) (algorithms : AlgorithmType → Option IdAlgorithm) :
    List AlgorithmType → ℕ → List (AlgorithmType × Result α)
  | [], _ => []
  | algType :: rest, turn =>
    match algorithms algType with
    | none => outcomes ask algorithms rest turn
    | some alg => (algType, ask alg turn) :: outcomes ask algorithms rest (turn + 1)

/-- The outcomes for a requested algorithm, then the chain. -/
def candidates (r : AlgorithmRouter) (ask : IdAlgorithm → ℕ → Result α)
    (algorithm : AlgorithmType) : List (AlgorithmType × Result α) :=
  outcomes ask r.algorithms (algorithm :: r.fallbackChain) r.calls.length

/-- What the calls made leave of the router, each with the mark of its success. -/
def recorded (r : AlgorithmRouter) (made : List (AlgorithmType × Bool)) : AlgorithmRouter :=
  { r with
    calls := r.calls ++ made.map Prod.fst
    degradationManager :=
      made.foldl (fun m p => m.recordGenerationResult p.1 p.2) r.degradationManager }

/-- What a request answers, and what it leaves of the router. -/
structure Served (r : AlgorithmRouter) (ask : IdAlgorithm → ℕ → Result α)
    (algorithm : AlgorithmType) (out : Result α × AlgorithmRouter) : Prop where
  ok_iff : (∃ id, out.1 = .ok id) ↔ ∃ algType id, (algType, .ok id) ∈ r.candidates ask algorithm
  first : ∀ failed algType id later,
    r.candidates ask algorithm = failed ++ (algType, .ok id) :: later → AllFail failed →
      out = (.ok id, r.recorded (failed.map (fun p => (p.1, false)) ++ [(algType, true)]))
  allFail : AllFail (r.candidates ask algorithm) →
    out.2 = r.recorded ((r.candidates ask algorithm).map fun p => (p.1, false)) ∧
      match r.algorithms algorithm with
      | some alg => ∃ e, ask alg r.calls.length = .error e ∧ out.1 = .error e
      | none => out.1 = .error (.internalError "All algorithms failed")

@[simp] theorem recorded_nil (r : AlgorithmRouter) : r.recorded [] = r := by
  simp [recorded]

@[simp] theorem recorded_recorded (r : AlgorithmRouter) (p : AlgorithmType × Bool)
    (made : List (AlgorithmType × Bool)) :
    (r.recorded [p]).recorded made = r.recorded (p :: made) := by
  simp [recorded]

/-- After one call the rest of a list is one turn later. -/
@[simp] theorem outcomes_recorded (ask : IdAlgorithm → ℕ → Result α) (r : AlgorithmRouter)
    (p : AlgorithmType × Bool) (chain : List AlgorithmType) :
    outcomes ask (r.recorded [p]).algorithms chain (r.recorded [p]).calls.length =
      outcomes ask r.algorithms chain (r.calls.length + 1) := by
  simp [recorded]

theorem attempt_ok {r : AlgorithmRouter} {algType : AlgorithmType} {answer : ℕ → Result α} {id : α}
    (h : answer r.calls.length = .ok id) :
    r.attempt algType answer = (.ok id, r.recorded [(algType, true)]) := by
  simp only [attempt, h]
  rfl

theorem attempt_error {r : AlgorithmRouter} {algType : AlgorithmType} {answer : ℕ → Result α}
    {e : CoreError} (h : answer r.calls.length = .error e) :
    r.attempt algType answer = (.error e, r.recorded [(algType, false)]) := by
  simp only [attempt, h]
  rfl

theorem candidates_of_none {ask : IdAlgorithm → ℕ → Result α} {r : AlgorithmRouter}
    {algorithm : AlgorithmType} (halg : r.algorithms algorithm = none) :
    r.candidates ask algorithm = outcomes ask r.algorithms r.fallbackChain r.calls.length := by
  simp only [candidates, outcomes, halg]

theorem candidates_of_some {ask : IdAlgorithm → ℕ → Result α} {r : AlgorithmRouter}
    {algorithm : AlgorithmType} {alg : IdAlgorithm} (halg : r.algorithms algorithm = some alg) :
    r.candidates ask algorithm = (algorithm, ask alg r.calls.length) ::
      outcomes ask r.algorithms r.fallbackChain (r.calls.length + 1) := by
  simp only [candidates, outcomes, halg]

/-- The calls that a request may make go to the algorithms of the table. -/
theorem outcomes_map_fst (ask : IdAlgorithm → ℕ → Result α)
    (algorithms : AlgorithmType → Option IdAlgorithm) (chain : List AlgorithmType) (turn : ℕ) :
    (outcomes ask algorithms chain turn).map Prod.fst =
      chain.filter fun algType => (algorithms algType).isSome := by
  induction chain generalizing turn with
  | nil => rfl
  | cons algType rest ih =>
    cases h : algorithms algType with
    | none => simp [outcomes, h, ih]
    | some alg => simp [outcomes, h, ih]

/-- An outcome comes from the algorithm of its name, in its turn. -/
theorem outcomes_split {ask : IdAlgorithm → ℕ → Result α}
    {algorithms : AlgorithmType → Option IdAlgorithm} {chain : List AlgorithmType} {turn : ℕ}
    {failed later : List (AlgorithmType × Result α)} {algType : AlgorithmType} {x : Result α}
    (h : outcomes ask algorithms chain turn = failed ++ (algType, x) :: later) :
    ∃ alg, algorithms algType = some alg ∧ ask alg (turn + failed.length) = x := by
  induction chain generalizing turn failed with
  | nil =>
    have hnil : [] = failed ++ (algType, x) :: later := h
    exact absurd hnil.symm (List.append_ne_nil_of_right_ne_nil failed (List.cons_ne_nil _ _))
  | cons first rest ih =>
    rw [outcomes] at h
    split at h
    · exact ih h
    · rename_i alg halg
      cases failed with
      | nil =>
        obtain ⟨hhead, -⟩ := List.cons.inj h
        cases hhead
        exact ⟨alg, halg, rfl⟩
      | cons p failed =>
        obtain ⟨-, htail⟩ := List.cons.inj h
        obtain ⟨alg', halg', hx⟩ := ih htail
        refine ⟨alg', halg', ?_⟩
        rw [List.length_cons, Nat.add_comm failed.length, ← Nat.add_assoc]
        exact hx

/-- The loop over the chain finds the first success. -/
theorem tryFallbacks_eq (ask : IdAlgorithm → ℕ → Result α) (chain : List AlgorithmType)
    (r : AlgorithmRouter) :
    tryFallbacks ask chain r =
      ((firstOk (outcomes ask r.algorithms chain r.calls.length)).map Prod.snd,
        r.recorded (tried (outcomes ask r.algorithms chain r.calls.length))) := by
  induction chain generalizing r with
  | nil => simp [tryFallbacks, outcomes, firstOk, tried]
  | cons fallback rest ih =>
    cases halg : r.algorithms fallback with
    | none => simp only [tryFallbacks, outcomes, halg, ih]
    | some alg =>
      cases hanswer : ask alg r.calls.length with
      | ok id => simp [tryFallbacks, outcomes, halg, attempt_ok hanswer, hanswer, firstOk, tried]
      | error e =>
        simp only [tryFallbacks, outcomes, halg, attempt_error hanswer, hanswer, firstOk, tried]
        rw [ih, outcomes_recorded, recorded_recorded]

/-- The loop finds the first success among the requested algorithm and the chain. -/
theorem withAlgorithm_eq (ask : IdAlgorithm → ℕ → Result α) (r : AlgorithmRouter)
    (algorithm : AlgorithmType) :
    r.withAlgorithm ask algorithm =
      (match firstOk (r.candidates ask algorithm) with
        | some p => .ok p.2
        | none => match r.algorithms algorithm with
          | some alg => ask alg r.calls.length
          | none => .error (.internalError "All algorithms failed"),
        r.recorded (tried (r.candidates ask algorithm))) := by
  cases halg : r.algorithms algorithm with
  | none =>
    simp only [withAlgorithm, candidates_of_none halg, halg, tryFallbacks_eq]
    cases firstOk (outcomes ask r.algorithms r.fallbackChain r.calls.length) with
    | none => rfl
    | some p => rfl
  | some alg =>
    rw [candidates_of_some halg]
    cases hanswer : ask alg r.calls.length with
    | ok id => simp [withAlgorithm, halg, attempt_ok hanswer, firstOk, tried]
    | error e =>
      have hchain : (r.recorded [(algorithm, false)]).fallbackChain = r.fallbackChain := rfl
      simp only [withAlgorithm, halg, hanswer, attempt_error hanswer, firstOk, tried]
      rw [tryFallbacks_eq, hchain, outcomes_recorded, recorded_recorded]
      cases firstOk (outcomes ask r.algorithms r.fallbackChain (r.calls.length + 1)) with
      | none => rfl
      | some p => rfl

/-- When all calls fail, so does that of the requested algorithm. -/
theorem error_of_allFail {ask : IdAlgorithm → ℕ → Result α} {r : AlgorithmRouter}
    {algorithm : AlgorithmType} {alg : IdAlgorithm} (h : AllFail (r.candidates ask algorithm))
    (halg : r.algorithms algorithm = some alg) : ∃ e, ask alg r.calls.length = .error e := by
  refine h (algorithm, ask alg r.calls.length) ?_
  rw [candidates_of_some halg]
  exact List.mem_cons_self

theorem served (ask : IdAlgorithm → ℕ → Result α) (r : AlgorithmRouter)
    (algorithm : AlgorithmType) : Served r ask algorithm (r.withAlgorithm ask algorithm) where
  ok_iff := by
    rw [withAlgorithm_eq, ← firstOk_isSome_iff]
    cases h : firstOk (r.candidates ask algorithm) with
    | some p => exact iff_of_true ⟨p.2, rfl⟩ ⟨p.1, p.2, rfl⟩
    | none =>
      refine iff_of_false ?_ (by rintro ⟨_, _, h⟩; cases h)
      cases halg : r.algorithms algorithm with
      | none => rintro ⟨id, hid⟩; cases hid
      | some alg =>
        obtain ⟨e, he⟩ := error_of_allFail (firstOk_eq_none_iff.mp h) halg
        rintro ⟨id, hid⟩
        cases he.symm.trans hid
  first := by
    intro failed algType id later hsplit hfail
    have hfirst : firstOk (r.candidates ask algorithm) = some (algType, id) :=
      firstOk_eq_some_iff.mpr ⟨failed, later, hsplit, hfail⟩
    rw [withAlgorithm_eq, hfirst, hsplit, tried_of_split hfail]
  allFail := by
    intro hfail
    rw [withAlgorithm_eq, firstOk_eq_none_iff.mpr hfail, tried_of_allFail hfail]
    refine ⟨rfl, ?_⟩
    cases halg : r.algorithms algorithm with
    | none => rfl
    | some alg =>
      obtain ⟨e, he⟩ := error_of_allFail hfail halg
      exact ⟨e, he, he⟩

/-- The algorithms called depend on nothing but which calls succeed. -/
theorem withAlgorithm_congr {β : Type} {ask : IdAlgorithm → ℕ → Result α}
    {ask' : IdAlgorithm → ℕ → Result β} {r : AlgorithmRouter} {algorithm : AlgorithmType}
    (h : marks (r.candidates ask algorithm) = marks (r.candidates ask' algorithm)) :
    (r.withAlgorithm ask algorithm).2 = (r.withAlgorithm ask' algorithm).2 := by
  rw [withAlgorithm_eq, withAlgorithm_eq, tried_congr h]

/-- The call that made the answer is the last one. -/
theorem withAlgorithm_ok {ask : IdAlgorithm → ℕ → Result α} {r : AlgorithmRouter}
    {algorithm : AlgorithmType} {id : α} (h : (r.withAlgorithm ask algorithm).1 = .ok id) :
    ∃ algType, firstOk (r.candidates ask algorithm) = some (algType, id) ∧
      (r.withAlgorithm ask algorithm).2.calls.getLast? = some algType := by
  obtain ⟨algType, x, hmem⟩ := (served ask r algorithm).ok_iff.mp ⟨id, h⟩
  obtain ⟨algType, x, hfirst⟩ := firstOk_isSome_iff.mpr ⟨algType, x, hmem⟩
  obtain ⟨failed, later, hsplit, hfail⟩ := firstOk_eq_some_iff.mp hfirst
  have hout := (served ask r algorithm).first failed algType x later hsplit hfail
  rw [hout] at h ⊢
  cases h
  refine ⟨algType, hfirst, ?_⟩
  simp [recorded]

/-- Who answers is who is the first to succeed. -/
theorem withAlgorithm_answered_iff {ask : IdAlgorithm → ℕ → Result α} {r : AlgorithmRouter}
    {algorithm algType : AlgorithmType} :
    ((r.withAlgorithm ask algorithm).1.isOk = true ∧
        (r.withAlgorithm ask algorithm).2.calls.getLast? = some algType) ↔
      ∃ id, firstOk (r.candidates ask algorithm) = some (algType, id) := by
  constructor
  · rintro ⟨hok, hlast⟩
    cases hanswer : (r.withAlgorithm ask algorithm).1 with
    | error e =>
      rw [hanswer] at hok
      cases hok
    | ok id =>
      obtain ⟨other, hfirst, hother⟩ := withAlgorithm_ok hanswer
      cases hother.symm.trans hlast
      exact ⟨id, hfirst⟩
  · rintro ⟨id, hfirst⟩
    obtain ⟨failed, later, hsplit, hfail⟩ := firstOk_eq_some_iff.mp hfirst
    rw [(served ask r algorithm).first failed algType id later hsplit hfail]
    exact ⟨rfl, by simp [recorded]⟩

/-- Both paths serve a request: the first success among the algorithms of the table, the
requested one first and then the chain in order, is the answer, every call is recorded with
its outcome, and nothing is called after it. When all fail, the error is that of the
requested algorithm if it is in the table. On the same outcomes the paths make the same calls
and records. -/
theorem fallback_served (r : AlgorithmRouter) (algorithm : AlgorithmType) (ctx : GenerateContext)
    (size : ℕ) :
    (r.candidates (askOne ctx) algorithm).map Prod.fst =
        (algorithm :: r.fallbackChain).filter (fun algType => (r.algorithms algType).isSome) ∧
      Served r (askOne ctx) algorithm (r.generateWithAlgorithmInternal algorithm ctx) ∧
      Served r (askBatch ctx size) algorithm
        (r.batchGenerateWithAlgorithmInternal algorithm ctx size) ∧
      (marks (r.candidates (askOne ctx) algorithm) =
          marks (r.candidates (askBatch ctx size) algorithm) →
        (r.generateWithAlgorithmInternal algorithm ctx).2 =
          (r.batchGenerateWithAlgorithmInternal algorithm ctx size).2) :=
  ⟨outcomes_map_fst _ _ _ _, served _ _ _, served _ _ _, withAlgorithm_congr⟩

/-- A router with nothing but a Snowflake algorithm whose clock has moved backward. -/
def snowflakeOnly : AlgorithmRouter :=
  (new .default).register .snowflake
    ⟨fun _ _ => .error (.clockMovedBackward 5), fun _ _ _ => .error (.clockMovedBackward 5)⟩

/-- Segment is requested and is not in the table, and Snowflake fails: the error returned is
not that of Segment, which has made no call. -/
theorem unregistered_all_fail :
    ¬ ∀ (r : AlgorithmRouter) (algorithm : AlgorithmType) (ctx : GenerateContext),
      AllFail (r.candidates (askOne ctx) algorithm) →
        ∃ alg e, r.algorithms algorithm = some alg ∧ alg.generate r.calls.length ctx = .error e ∧
          (r.generateWithAlgorithmInternal algorithm ctx).1 = .error e := by
  intro h
  have hfail : AllFail (snowflakeOnly.candidates (askOne ⟨"w", "g", "t"⟩) .segment) := by
    have hcandidates : snowflakeOnly.candidates (askOne ⟨"w", "g", "t"⟩) .segment =
        [(.snowflake, .error (.clockMovedBackward 5))] := rfl
    rw [hcandidates]
    exact allFail_cons.mpr allFail_nil
  obtain ⟨alg, -, halg, -, -⟩ := h snowflakeOnly .segment ⟨"w", "g", "t"⟩ hfail
  cases halg

end AlgorithmRouter

end NebulaId
