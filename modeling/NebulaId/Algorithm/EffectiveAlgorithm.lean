import NebulaId.Algorithm.Router

/-!
# The router and the effective algorithm (`core/algorithm/router.rs`, `degradation_manager.rs`)

The degradation manager names an effective algorithm, which the router never asks for: a request
goes to the routed algorithm and then down the chain, whatever is marked degraded. The calls of a
request are those that it adds to the history of the router.

* `avoids_iff`: when a request for a degraded algorithm goes to the effective one first and to a
  degraded one last.
* `steered_iff_of_registered`: when the routed algorithm is in the table, only if it is itself the
  effective one and nobody in the chain is healthy.
* `degraded_first`: five failures later the failing algorithm is still called first.
-/

namespace NebulaId

open Machine

namespace AlgorithmRouter

/-! ## Runs -/

/-- What happens to a router: requests with and without an algorithm, and the manager's own life. -/
inductive Op where
  | register (algType : AlgorithmType) (alg : IdAlgorithm)
  | setAlgorithm (bizTag : String) (algorithm : AlgorithmType)
  | generate (ctx : GenerateContext)
  | batchGenerate (ctx : GenerateContext) (size : ℕ)
  | generateWithAlgorithm (algorithm : AlgorithmType) (ctx : GenerateContext)
  | batchGenerateWithAlgorithm (algorithm : AlgorithmType) (ctx : GenerateContext) (size : ℕ)
  | manage (op : DegradationOp)

def step (r : AlgorithmRouter) : Op → Option AlgorithmRouter
  | .register algType alg => some (r.register algType alg)
  | .setAlgorithm bizTag algorithm => some (r.setAlgorithm bizTag algorithm)
  | .generate ctx => some (r.generate ctx).2
  | .batchGenerate ctx size => some (r.batchGenerate ctx size).2
  | .generateWithAlgorithm algorithm ctx =>
    some (r.generateWithAlgorithm algorithm ctx.workspaceId ctx.groupId ctx.bizTag).2
  | .batchGenerateWithAlgorithm algorithm ctx size =>
    some (r.batchGenerateWithAlgorithm algorithm ctx.workspaceId ctx.groupId ctx.bizTag size).2
  | .manage op => (r.degradationManager.step op).map fun m => { r with degradationManager := m }

variable {α : Type} {r : AlgorithmRouter} {ask : IdAlgorithm → ℕ → Result α}
  {algorithm : AlgorithmType}

/-! ## Calls of one request -/

/-- The algorithm has been called before in this request, and has failed. -/
def HasFailed (r : AlgorithmRouter) (ask : IdAlgorithm → ℕ → Result α) (before : List AlgorithmType)
    (algType : AlgorithmType) : Prop :=
  ∃ i alg e, before[i]? = some algType ∧ r.algorithms algType = some alg ∧
    ask alg (r.calls.length + i) = .error e

/-- The request calls the effective algorithm first, and a degraded one only when every healthy one
of the chain that is in the table has failed. -/
structure Avoids (r : AlgorithmRouter) (ask : IdAlgorithm → ℕ → Result α)
    (made : List AlgorithmType) : Prop where
  first : made.head? = some r.degradationManager.getEffectiveAlgorithm
  last : ∀ before algType after, made = before ++ algType :: after →
    r.degradationManager.degraded algType = true →
    ∀ fallback ∈ r.fallbackChain, (r.algorithms fallback).isSome = true →
      r.degradationManager.degraded fallback = false → r.HasFailed ask before fallback

/-- A request whose algorithm is degraded. -/
def AvoidsDegraded (r : AlgorithmRouter) (ask : IdAlgorithm → ℕ → Result α)
    (algorithm : AlgorithmType) : Prop :=
  r.degradationManager.degraded algorithm = true →
    ∃ made, (r.withAlgorithm ask algorithm).2.calls = r.calls ++ made ∧ r.Avoids ask made

/-- The first algorithm that is in the table is the effective one; and either one before the first
degraded one succeeds, or all healthy ones come before it. -/
def Steered (r : AlgorithmRouter) (ask : IdAlgorithm → ℕ → Result α) (algorithm : AlgorithmType) :
    Prop :=
  ((algorithm :: r.fallbackChain).filter fun algType => (r.algorithms algType).isSome).head? =
      some r.degradationManager.getEffectiveAlgorithm ∧
    ((∃ p ∈ (r.candidates ask algorithm).takeWhile fun p => !r.degradationManager.degraded p.1,
        p.2.isOk = true) ∨
      ∀ p ∈ r.candidates ask algorithm, r.degradationManager.degraded p.1 = false →
        p.1 ∈ ((r.candidates ask algorithm).takeWhile fun p =>
          !r.degradationManager.degraded p.1).map Prod.fst)

theorem calls_withAlgorithm (r : AlgorithmRouter) (ask : IdAlgorithm → ℕ → Result α)
    (algorithm : AlgorithmType) : (r.withAlgorithm ask algorithm).2.calls =
      r.calls ++ (tried (r.candidates ask algorithm)).map Prod.fst := by
  rw [withAlgorithm_eq]
  rfl

/-- Each outcome is that of a call in its turn. -/
theorem outcomes_getElem? {algorithms : AlgorithmType → Option IdAlgorithm}
    {chain : List AlgorithmType} {turn i : ℕ} {p : AlgorithmType × Result α}
    (h : (outcomes ask algorithms chain turn)[i]? = some p) :
    ∃ alg, algorithms p.1 = some alg ∧ p.2 = ask alg (turn + i) := by
  induction chain generalizing turn i with
  | nil => cases h
  | cons algType rest ih =>
    rw [outcomes] at h
    cases halg : algorithms algType with
    | none =>
      rw [halg] at h
      exact ih h
    | some alg =>
      rw [halg] at h
      cases i with
      | zero =>
        cases h
        exact ⟨alg, halg, rfl⟩
      | succ i =>
        obtain ⟨alg', halg', hout⟩ := ih h
        exact ⟨alg', halg', by rw [hout, Nat.add_assoc, Nat.add_comm 1 i]⟩

theorem candidates_map_fst : (r.candidates ask algorithm).map Prod.fst =
    (algorithm :: r.fallbackChain).filter fun algType => (r.algorithms algType).isSome :=
  outcomes_map_fst _ _ _ _

/-- Of the calls that were made before another one each has failed. -/
theorem hasFailed_iff {before after : List AlgorithmType} {algType fallback : AlgorithmType}
    (hmade : (tried (r.candidates ask algorithm)).map Prod.fst = before ++ algType :: after) :
    r.HasFailed ask before fallback ↔ fallback ∈ before := by
  constructor
  · rintro ⟨i, -, -, hget, -, -⟩
    exact List.mem_of_getElem? hget
  · intro hmem
    obtain ⟨failed, outcome, later, hl, hfail, rfl⟩ := tried_split.mp ⟨after, hmade⟩
    obtain ⟨i, hget⟩ := List.mem_iff_getElem?.mp hmem
    rw [List.getElem?_map, Option.map_eq_some_iff] at hget
    obtain ⟨p, hp, rfl⟩ := hget
    have hcandidate : (r.candidates ask algorithm)[i]? = some p := by
      rw [hl, List.getElem?_append_left (List.getElem?_eq_some_iff.mp hp).1, hp]
    obtain ⟨alg, halg, hout⟩ := outcomes_getElem? hcandidate
    obtain ⟨e, he⟩ := hfail p (List.mem_of_getElem? hp)
    exact ⟨i, alg, e, by rw [List.getElem?_map, hp]; rfl, halg, hout.symm.trans he⟩

/-- The healthy ones of the chain are the healthy ones among the candidates. -/
theorem healthy_fallback_iff (hdegraded : r.degradationManager.degraded algorithm = true)
    {before : List AlgorithmType} :
    (∀ fallback ∈ r.fallbackChain, (r.algorithms fallback).isSome = true →
        r.degradationManager.degraded fallback = false → fallback ∈ before) ↔
      ∀ p ∈ r.candidates ask algorithm, r.degradationManager.degraded p.1 = false →
        p.1 ∈ before := by
  constructor
  · intro hall p hp hhealthy
    have hmem : p.1 ∈ (r.candidates ask algorithm).map Prod.fst := List.mem_map_of_mem hp
    rw [candidates_map_fst] at hmem
    obtain ⟨hchain, hregistered⟩ := List.mem_filter.mp hmem
    rcases List.mem_cons.mp hchain with heq | hchain
    · rw [heq, hdegraded] at hhealthy
      cases hhealthy
    · exact hall p.1 hchain hregistered hhealthy
  · intro hall fallback hchain hregistered hhealthy
    have hmem : fallback ∈ (r.candidates ask algorithm).map Prod.fst := by
      rw [candidates_map_fst]
      exact List.mem_filter.mpr ⟨List.mem_cons_of_mem _ hchain, hregistered⟩
    obtain ⟨p, hp, rfl⟩ := List.mem_map.mp hmem
    exact hall p hp hhealthy

theorem avoids_tried_iff (hdegraded : r.degradationManager.degraded algorithm = true) :
    r.Avoids ask ((tried (r.candidates ask algorithm)).map Prod.fst) ↔ r.Steered ask algorithm := by
  have hlast := late_tried_iff r.degradationManager.degraded (l := r.candidates ask algorithm)
  have hhead := head?_tried (r.candidates ask algorithm)
  rw [candidates_map_fst] at hhead
  constructor
  · intro h
    refine ⟨hhead.symm.trans h.first, hlast.mp fun before algType after hmade hlate => ?_⟩
    refine (healthy_fallback_iff hdegraded).mp fun fallback hchain hregistered hhealthy => ?_
    exact (hasFailed_iff hmade).mp
      (h.last before algType after hmade hlate fallback hchain hregistered hhealthy)
  · intro ⟨hfirst, hcond⟩
    refine ⟨hhead.trans hfirst, fun before algType after hmade hlate fallback hchain => ?_⟩
    intro hregistered hhealthy
    refine (hasFailed_iff hmade).mpr ?_
    exact (healthy_fallback_iff hdegraded).mpr
      (hlast.mpr hcond before algType after hmade hlate) fallback hchain hregistered hhealthy

theorem avoidsDegraded_iff (r : AlgorithmRouter) (ask : IdAlgorithm → ℕ → Result α)
    (algorithm : AlgorithmType) : r.AvoidsDegraded ask algorithm ↔
      (r.degradationManager.degraded algorithm = true → r.Steered ask algorithm) := by
  refine imp_congr_right fun hdegraded => ?_
  rw [← avoids_tried_iff hdegraded, calls_withAlgorithm]
  constructor
  · rintro ⟨made, hmade, havoids⟩
    rwa [List.append_cancel_left hmade]
  · intro havoids
    exact ⟨_, rfl, havoids⟩

/-- A degraded algorithm in the table is called whoever is healthy. -/
theorem steered_iff_of_registered (hdegraded : r.degradationManager.degraded algorithm = true)
    {alg : IdAlgorithm} (halg : r.algorithms algorithm = some alg) : r.Steered ask algorithm ↔
      r.degradationManager.getEffectiveAlgorithm = algorithm ∧
        ∀ fallback ∈ r.fallbackChain, (r.algorithms fallback).isSome = true →
          r.degradationManager.degraded fallback = true := by
  have hnone : ((r.candidates ask algorithm).takeWhile fun p =>
      !r.degradationManager.degraded p.1) = [] := by
    rw [candidates_of_some halg, List.takeWhile_cons, hdegraded]
    rfl
  have hhealthy : (∀ fallback ∈ r.fallbackChain, (r.algorithms fallback).isSome = true →
      r.degradationManager.degraded fallback = false → fallback ∈ []) ↔
      ∀ p ∈ r.candidates ask algorithm, r.degradationManager.degraded p.1 = false → p.1 ∈ [] :=
    healthy_fallback_iff hdegraded
  rw [Steered, hnone, List.map_nil, ← hhealthy, List.filter_cons_of_pos (by rw [halg]; rfl)]
  constructor
  · rintro ⟨hfirst, ⟨p, hp, -⟩ | hall⟩
    · cases hp
    · refine ⟨(Option.some.inj hfirst).symm, fun fallback hchain hregistered => ?_⟩
      by_contra hne
      cases hall fallback hchain hregistered (Bool.eq_false_iff.mpr hne)
  · intro ⟨heq, hall⟩
    refine ⟨congrArg some heq.symm, Or.inr fun fallback hchain hregistered hhealthy => ?_⟩
    rw [hall fallback hchain hregistered] at hhealthy
    cases hhealthy

/-- **Traffic avoids degraded algorithms** exactly when a request whose routed algorithm is degraded
is steered, for one id and for a batch of them. -/
theorem avoids_iff (r : AlgorithmRouter) (ctx : GenerateContext) (size : ℕ) :
    (r.AvoidsDegraded (askOne ctx) (r.getAlgorithm ctx) ↔
      (r.degradationManager.degraded (r.getAlgorithm ctx) = true →
        r.Steered (askOne ctx) (r.getAlgorithm ctx))) ∧
    (r.AvoidsDegraded (askBatch ctx size) (r.getAlgorithm ctx) ↔
      (r.degradationManager.degraded (r.getAlgorithm ctx) = true →
        r.Steered (askBatch ctx size) (r.getAlgorithm ctx))) :=
  ⟨avoidsDegraded_iff _ _ _, avoidsDegraded_iff _ _ _⟩

/-- The database of Segment is gone, and five requests have found out. -/
def fiveFailures : List Op :=
  [.register .segment ⟨fun _ _ => .error (.databaseError "pool timed out"),
      fun _ _ _ => .error (.databaseError "pool timed out")⟩,
    .register .snowflake ⟨fun turn _ => .ok (Id.fromU128 (.ofNat 128 turn)),
      fun turn _ _ => .ok ⟨[Id.fromU128 (.ofNat 128 turn)], .snowflake, ""⟩⟩] ++
    List.replicate 5 (.generate ⟨"w", "g", "t"⟩)

/-- The manager has taken Snowflake for the effective algorithm, and Segment is called first. -/
theorem degraded_first : ∃ r, Reaches step Free (new .default) r ∧
    r.degradationManager.getEffectiveAlgorithm = .snowflake ∧
    ¬ r.AvoidsDegraded (askOne ⟨"w", "g", "t"⟩) (r.getAlgorithm ⟨"w", "g", "t"⟩) := by
  obtain ⟨r, hrun⟩ : ∃ r, run step (new .default) fiveFailures = some r := ⟨_, rfl⟩
  have hstate : (run step (new .default) fiveFailures).map (fun r =>
      (r.degradationManager.getEffectiveAlgorithm, r.degradationManager.degraded .segment,
        r.getAlgorithm ⟨"w", "g", "t"⟩, (r.algorithms .segment).isSome)) =
      some (.snowflake, true, .segment, true) := by
    decide +kernel
  rw [hrun] at hstate
  simp only [Option.map_some, Option.some.injEq, Prod.mk.injEq] at hstate
  obtain ⟨heff, hdegraded, halg, hsegment⟩ := hstate
  refine ⟨r, reaches_of_run hrun, heff, fun havoids => ?_⟩
  rw [halg, avoidsDegraded_iff] at havoids
  obtain ⟨alg, halg⟩ := Option.isSome_iff_exists.mp hsegment
  have hsame := ((steered_iff_of_registered hdegraded halg).mp (havoids hdegraded)).1
  rw [heff] at hsame
  cases hsame

end AlgorithmRouter

end NebulaId
