import NebulaId.Algorithm.Router

/-!
# The handlers that generate ids (`server/handlers/id_handlers.rs`)

`generate` and `batch_generate` ask the router for ids and answer with them and with the name
of an algorithm. The name is that of the requested algorithm or comes from the routing table;
the batch handler looks at the routing table only. The algorithm that made the ids is found
in the router's history: its call is the last one.

* `CallsNamed`: the condition on a request under which the name is right.
* `names_producer_iff`: a response names the algorithm that made its ids exactly when the
  condition holds, for both handlers.
* `segment_named_for_snowflake`: a Snowflake id under the name of Segment.
-/

namespace NebulaId

open Machine

structure ApiMetrics where
  totalRequests : UInt64
  successfulGenerations : UInt64
  failedGenerations : UInt64
  totalIdsGenerated : UInt64
  avgLatencyMs : UInt64
  totalLatencyMs : UInt64

namespace ApiMetrics

def zero : ApiMetrics := ⟨0, 0, 0, 0, 0, 0⟩

def failed (m : ApiMetrics) : ApiMetrics :=
  { m with failedGenerations := m.failedGenerations + 1 }

/-- The counters of a request that was answered with so many ids. -/
def succeeded (m : ApiMetrics) (ids : ℕ) (latencyMs : UInt64) : ApiMetrics :=
  let totalReqs := m.totalRequests + 1
  let totalLatency := m.totalLatencyMs + latencyMs
  { m with
    totalRequests := totalReqs
    successfulGenerations := m.successfulGenerations + 1
    totalIdsGenerated := m.totalIdsGenerated + UInt64.ofNat ids
    totalLatencyMs := totalLatency
    avgLatencyMs := if totalReqs = 0 then latencyMs else totalLatency / totalReqs }

end ApiMetrics

structure ApiHandlers where
  idGenerator : AlgorithmRouter
  metrics : ApiMetrics
  /-- `config_service.get_batch_max_size()` -/
  batchMaxSize : UInt32

structure GenerateRequest where
  workspace : String
  group : String
  bizTag : String
  algorithm : Option String

structure BatchGenerateRequest where
  workspace : String
  group : String
  bizTag : String
  size : Option ℕ
  algorithm : Option String

structure GenerateResponse where
  id : String
  algorithm : String
  timestamp : String

structure BatchGenerateResponse where
  ids : List String
  size : ℕ
  algorithm : String
  timestamp : String

/-- `alg_str.parse()?`, when the request has an algorithm. -/
def parseAlgorithm : Option String → Result (Option AlgorithmType)
  | none => .ok none
  | some algStr => (AlgorithmType.fromStr algStr).map some

/-- What a handler reads once the ids are there: the routing table, which other requests may
have changed, the time since its start and the clock. -/
structure AtEnd where
  currentAlgorithm : String → Option AlgorithmType
  latencyMs : UInt64
  timestamp : String

namespace ApiHandlers

/-- The handlers once the router has been used. -/
def routed (h : ApiHandlers) (router : AlgorithmRouter) (atEnd : AtEnd) : ApiHandlers :=
  { h with idGenerator := { router with currentAlgorithm := atEnd.currentAlgorithm } }

def generate (h : ApiHandlers) (atEnd : AtEnd) (req : GenerateRequest) :
    Result GenerateResponse × ApiHandlers :=
  match parseAlgorithm req.algorithm with
  | .error e => (.error e, h)
  | .ok parsedAlgorithm =>
    let (result, router) := match parsedAlgorithm with
      | some algorithm =>
        h.idGenerator.generateWithAlgorithm algorithm req.workspace req.group req.bizTag
      | none => h.idGenerator.generate ⟨req.workspace, req.group, req.bizTag⟩
    let h := h.routed router atEnd
    match result with
    | .error e => (.error e, { h with metrics := h.metrics.failed })
    | .ok id =>
      let algorithmName := match parsedAlgorithm with
        | some parsed => parsed.display
        | none => match h.idGenerator.getAlgorithmName req.workspace req.group req.bizTag with
          | .ok name => name
          | .error _ => "segment"
      (.ok ⟨id.display, algorithmName, atEnd.timestamp⟩,
        { h with metrics := h.metrics.succeeded 1 atEnd.latencyMs })

/-- `t` finds the text for a key and its arguments in the current language. -/
def batchGenerate (t : String → List (String × String) → String) (h : ApiHandlers) (atEnd : AtEnd)
    (req : BatchGenerateRequest) : Result BatchGenerateResponse × ApiHandlers :=
  let maxBatchSize := h.batchMaxSize
  let size := req.size.getD 10
  if size = 0 then
    (.error (.invalidInput (t "api.error.handlers.id_handlers.batch_size_zero" [])), h)
  else if size > maxBatchSize.toNat then
    (.error (.invalidInput (t "api.error.handlers.id_handlers.batch_size_exceeds_max"
      [("size", toString size), ("max", toString maxBatchSize)])), h)
  else match parseAlgorithm req.algorithm with
    | .error e => (.error e, h)
    | .ok parsedAlgorithm =>
      let (result, router) := match parsedAlgorithm with
        | some algorithm =>
          h.idGenerator.batchGenerateWithAlgorithm algorithm req.workspace req.group req.bizTag size
        | none => h.idGenerator.batchGenerate ⟨req.workspace, req.group, req.bizTag⟩ size
      let h := h.routed router atEnd
      match result.map IdBatch.ids with
      | .error e => (.error e, { h with metrics := h.metrics.failed })
      | .ok ids =>
        let algorithmName :=
          match h.idGenerator.getAlgorithmName req.workspace req.group req.bizTag with
          | .ok name => name
          | .error _ => ""
        (.ok ⟨ids.map Id.display, ids.length, algorithmName, atEnd.timestamp⟩,
          { h with metrics := h.metrics.succeeded ids.length atEnd.latencyMs })

end ApiHandlers

/-- If one of the calls succeeds, the first that does is a call of the named algorithm. -/
def FirstIs {α : Type} (l : List (AlgorithmType × Result α)) (named : AlgorithmType) : Prop :=
  ∀ algType id, firstOk l = some (algType, id) → algType = named

/-- The call of the algorithm asked for succeeds and is the one named; or it fails or is not
made, and the first member of the chain that succeeds, if there is one, is the one named. -/
def CallsNamed {α : Type} (r : AlgorithmRouter) (ask : IdAlgorithm → ℕ → Result α)
    (asked named : AlgorithmType) : Prop :=
  match r.algorithms asked with
  | some alg => match ask alg r.calls.length with
    | .ok _ => asked = named
    | .error _ =>
      FirstIs (AlgorithmRouter.outcomes ask r.algorithms r.fallbackChain (r.calls.length + 1)) named
  | none => FirstIs (AlgorithmRouter.outcomes ask r.algorithms r.fallbackChain r.calls.length) named

/-- The algorithm that the routing table gives at the end. -/
def AtEnd.algorithm (e : AtEnd) (r : AlgorithmRouter) (bizTag : String) : AlgorithmType :=
  (e.currentAlgorithm bizTag).getD r.config.algorithm.getDefaultAlgorithm

/-- The name is that of the algorithm called last, the one that made the ids. -/
def NamesProducer (name : String) (r : AlgorithmRouter) : Prop :=
  ∃ algType, r.calls.getLast? = some algType ∧ name = algType.display

theorem callsNamed_iff {α : Type} {r : AlgorithmRouter} {ask : IdAlgorithm → ℕ → Result α}
    {asked named : AlgorithmType} :
    CallsNamed r ask asked named ↔ FirstIs (r.candidates ask asked) named := by
  unfold CallsNamed
  cases halg : r.algorithms asked with
  | none => rw [AlgorithmRouter.candidates_of_none halg]
  | some alg =>
    rw [AlgorithmRouter.candidates_of_some halg]
    cases hanswer : ask alg r.calls.length with
    | error e =>
      simp only [hanswer]
      rfl
    | ok id =>
      simp only [hanswer]
      constructor
      · rintro rfl algType x hfirst
        cases hfirst
        rfl
      · intro h
        exact h asked id rfl

/-- The name of an algorithm is that of the producer of every answer exactly when the calls
go so. -/
theorem namesProducer_iff {α : Type} (r : AlgorithmRouter) (ask : IdAlgorithm → ℕ → Result α)
    (asked named : AlgorithmType) :
    (∀ id, (r.withAlgorithm ask asked).1 = .ok id →
      NamesProducer named.display (r.withAlgorithm ask asked).2) ↔ CallsNamed r ask asked named := by
  rw [callsNamed_iff]
  constructor
  · intro h algType id hfirst
    obtain ⟨failed, later, hsplit, hfail⟩ := firstOk_eq_some_iff.mp hfirst
    have hout := (AlgorithmRouter.served ask r asked).first failed algType id later hsplit hfail
    have hok : (r.withAlgorithm ask asked).1 = .ok id := by rw [hout]
    obtain ⟨other, hlast, hname⟩ := h id hok
    obtain ⟨algType', hfirst', hlast'⟩ := AlgorithmRouter.withAlgorithm_ok hok
    cases hfirst.symm.trans hfirst'
    cases hlast.symm.trans hlast'
    exact (AlgorithmType.display_injective hname).symm
  · intro h id hok
    obtain ⟨algType, hfirst, hlast⟩ := AlgorithmRouter.withAlgorithm_ok hok
    refine ⟨algType, hlast, ?_⟩
    rw [h algType id hfirst]

/-- The same for a response that is made from the router's answer. -/
theorem response_namesProducer_iff {α β : Type} {r : AlgorithmRouter}
    {ask : IdAlgorithm → ℕ → Result α} {asked named : AlgorithmType} {result : Result β}
    {router : AlgorithmRouter} {response : α → β} (name : β → String)
    (hresult : result = (r.withAlgorithm ask asked).1.map response)
    (hcalls : router.calls = (r.withAlgorithm ask asked).2.calls)
    (hname : ∀ id, name (response id) = named.display) :
    (∀ res, result = .ok res → NamesProducer (name res) router) ↔ CallsNamed r ask asked named := by
  rw [← namesProducer_iff]
  constructor
  · intro hall id hok
    obtain ⟨algType, hlast, hdisplay⟩ := hall (response id) (by rw [hresult, hok]; rfl)
    exact ⟨algType, by rw [← hcalls, hlast], by rw [← hname id, hdisplay]⟩
  · intro hall res hres
    cases hok : (r.withAlgorithm ask asked).1 with
    | error e =>
      rw [hresult, hok] at hres
      cases hres
    | ok id =>
      rw [hresult, hok] at hres
      cases hres
      obtain ⟨algType, hlast, hdisplay⟩ := hall id hok
      exact ⟨algType, by rw [hcalls, hlast], by rw [hname id, hdisplay]⟩

namespace ApiHandlers

theorem getAlgorithmName_routed (h : ApiHandlers) (router : AlgorithmRouter) (atEnd : AtEnd)
    (workspace group bizTag : String) :
    (h.routed router atEnd).idGenerator.getAlgorithmName workspace group bizTag =
      .ok (atEnd.algorithm router bizTag).display := by
  simp only [routed, AlgorithmRouter.getAlgorithmName, AtEnd.algorithm]
  cases atEnd.currentAlgorithm bizTag with
  | none => rfl
  | some alg => rfl

theorem algorithm_withAlgorithm {α : Type} (atEnd : AtEnd) (r : AlgorithmRouter)
    (ask : IdAlgorithm → ℕ → Result α) (asked : AlgorithmType) (bizTag : String) :
    atEnd.algorithm (r.withAlgorithm ask asked).2 bizTag = atEnd.algorithm r bizTag := by
  rw [AlgorithmRouter.withAlgorithm_eq]
  rfl

/-- A request whose algorithm is parsed is answered as the router answers, under the name of
the algorithm requested or routed. -/
theorem generate_parsed (h : ApiHandlers) (atEnd : AtEnd) (req : GenerateRequest)
    {parsed : Option AlgorithmType} (hparsed : parseAlgorithm req.algorithm = .ok parsed) :
    let ctx : GenerateContext := ⟨req.workspace, req.group, req.bizTag⟩
    let out := h.idGenerator.withAlgorithm (AlgorithmRouter.askOne ctx)
      (parsed.getD (h.idGenerator.getAlgorithm ctx))
    (h.generate atEnd req).1 = out.1.map (fun id => ⟨id.display,
        (parsed.getD (atEnd.algorithm h.idGenerator req.bizTag)).display, atEnd.timestamp⟩) ∧
      (h.generate atEnd req).2.idGenerator.calls = out.2.calls := by
  intro ctx out
  have hname : atEnd.algorithm out.2 req.bizTag = atEnd.algorithm h.idGenerator req.bizTag :=
    algorithm_withAlgorithm _ _ _ _ _
  unfold generate
  rw [hparsed]
  cases parsed with
  | some algorithm =>
    have hrouter : h.idGenerator.generateWithAlgorithm algorithm req.workspace req.group req.bizTag = out := rfl
    simp only [hrouter]
    obtain ⟨result, router⟩ := out
    cases result with
    | error e => exact ⟨rfl, rfl⟩
    | ok id => exact ⟨rfl, rfl⟩
  | none =>
    have hrouter : h.idGenerator.generate ⟨req.workspace, req.group, req.bizTag⟩ = out := rfl
    simp only [hrouter, getAlgorithmName_routed, hname]
    obtain ⟨result, router⟩ := out
    cases result with
    | error e => exact ⟨rfl, rfl⟩
    | ok id => exact ⟨rfl, rfl⟩

/-- A batch is named after the routing table. -/
theorem batchGenerate_parsed (t : String → List (String × String) → String) (h : ApiHandlers)
    (atEnd : AtEnd) (req : BatchGenerateRequest) {parsed : Option AlgorithmType}
    (hzero : req.size.getD 10 ≠ 0) (hmax : req.size.getD 10 ≤ h.batchMaxSize.toNat)
    (hparsed : parseAlgorithm req.algorithm = .ok parsed) :
    let ctx : GenerateContext := ⟨req.workspace, req.group, req.bizTag⟩
    let out := h.idGenerator.withAlgorithm (AlgorithmRouter.askBatch ctx (req.size.getD 10))
      (parsed.getD (h.idGenerator.getAlgorithm ctx))
    (h.batchGenerate t atEnd req).1 = out.1.map (fun batch => ⟨batch.ids.map Id.display,
        batch.ids.length, (atEnd.algorithm h.idGenerator req.bizTag).display, atEnd.timestamp⟩) ∧
      (h.batchGenerate t atEnd req).2.idGenerator.calls = out.2.calls := by
  intro ctx out
  have hname : atEnd.algorithm out.2 req.bizTag = atEnd.algorithm h.idGenerator req.bizTag :=
    algorithm_withAlgorithm _ _ _ _ _
  unfold batchGenerate
  simp only [if_neg hzero, if_neg (Nat.not_lt.mpr hmax), hparsed]
  cases parsed with
  | some algorithm =>
    have hrouter : h.idGenerator.batchGenerateWithAlgorithm algorithm req.workspace req.group
        req.bizTag (req.size.getD 10) = out := rfl
    simp only [hrouter, getAlgorithmName_routed, hname]
    obtain ⟨result, router⟩ := out
    cases result with
    | error e => exact ⟨rfl, rfl⟩
    | ok batch => exact ⟨rfl, rfl⟩
  | none =>
    have hrouter : h.idGenerator.batchGenerate ⟨req.workspace, req.group, req.bizTag⟩
        (req.size.getD 10) = out := rfl
    simp only [hrouter, getAlgorithmName_routed, hname]
    obtain ⟨result, router⟩ := out
    cases result with
    | error e => exact ⟨rfl, rfl⟩
    | ok batch => exact ⟨rfl, rfl⟩

/-- The answers of a batch request that the handler refuses itself are errors. -/
theorem batchGenerate_refused (t : String → List (String × String) → String) (h : ApiHandlers)
    (atEnd : AtEnd) (req : BatchGenerateRequest)
    (hsize : req.size.getD 10 = 0 ∨ h.batchMaxSize.toNat < req.size.getD 10) :
    ∃ e, (h.batchGenerate t atEnd req).1 = .error e := by
  unfold batchGenerate
  by_cases hzero : req.size.getD 10 = 0
  · exact ⟨_, by rw [if_pos hzero]⟩
  · have hmax : h.batchMaxSize.toNat < req.size.getD 10 := hsize.resolve_left hzero
    exact ⟨_, by rw [if_neg hzero, if_pos hmax]⟩

/-- A response to either request names the algorithm that made its ids exactly when the calls
go so: for `generate` the name is that of the algorithm requested or routed, for
`batch_generate` always that of the algorithm routed. -/
theorem names_producer_iff (t : String → List (String × String) → String) (h : ApiHandlers)
    (atEnd : AtEnd) (req : GenerateRequest) (batchReq : BatchGenerateRequest) :
    ((∀ res, (h.generate atEnd req).1 = .ok res →
        NamesProducer res.algorithm (h.generate atEnd req).2.idGenerator) ↔
      ∀ parsed, parseAlgorithm req.algorithm = .ok parsed →
        CallsNamed h.idGenerator (AlgorithmRouter.askOne ⟨req.workspace, req.group, req.bizTag⟩)
          (parsed.getD (h.idGenerator.getAlgorithm ⟨req.workspace, req.group, req.bizTag⟩))
          (parsed.getD (atEnd.algorithm h.idGenerator req.bizTag))) ∧
    ((∀ res, (h.batchGenerate t atEnd batchReq).1 = .ok res →
        NamesProducer res.algorithm (h.batchGenerate t atEnd batchReq).2.idGenerator) ↔
      ∀ parsed, parseAlgorithm batchReq.algorithm = .ok parsed → batchReq.size.getD 10 ≠ 0 →
        batchReq.size.getD 10 ≤ h.batchMaxSize.toNat →
        CallsNamed h.idGenerator
          (AlgorithmRouter.askBatch ⟨batchReq.workspace, batchReq.group, batchReq.bizTag⟩
            (batchReq.size.getD 10))
          (parsed.getD
            (h.idGenerator.getAlgorithm ⟨batchReq.workspace, batchReq.group, batchReq.bizTag⟩))
          (atEnd.algorithm h.idGenerator batchReq.bizTag)) := by
  constructor
  · cases hparsed : parseAlgorithm req.algorithm with
    | error e =>
      have hout : (h.generate atEnd req).1 = .error e := by simp only [generate, hparsed]
      exact iff_of_true (by rw [hout]; rintro res ⟨⟩) (by rintro parsed ⟨⟩)
    | ok parsed =>
      obtain ⟨hresult, hcalls⟩ := generate_parsed h atEnd req hparsed
      rw [response_namesProducer_iff GenerateResponse.algorithm hresult hcalls fun _ => rfl]
      constructor
      · rintro hcond _ ⟨⟩
        exact hcond
      · intro hcond
        exact hcond parsed rfl
  · by_cases hsize : batchReq.size.getD 10 = 0 ∨ h.batchMaxSize.toNat < batchReq.size.getD 10
    · obtain ⟨e, hout⟩ := batchGenerate_refused t h atEnd batchReq hsize
      refine iff_of_true (by rw [hout]; rintro res ⟨⟩) ?_
      intro parsed _ hzero hmax
      exact absurd hsize (by omega)
    · obtain ⟨hzero, hmax⟩ := not_or.mp hsize
      have hmax := Nat.not_lt.mp hmax
      cases hparsed : parseAlgorithm batchReq.algorithm with
      | error e =>
        have hout : (h.batchGenerate t atEnd batchReq).1 = .error e := by
          simp only [batchGenerate, if_neg hzero, if_neg (Nat.not_lt.mpr hmax), hparsed]
        exact iff_of_true (by rw [hout]; rintro res ⟨⟩) (by rintro parsed ⟨⟩)
      | ok parsed =>
        obtain ⟨hresult, hcalls⟩ := batchGenerate_parsed t h atEnd batchReq hzero hmax hparsed
        rw [response_namesProducer_iff BatchGenerateResponse.algorithm hresult hcalls fun _ => rfl]
        constructor
        · rintro hcond _ ⟨⟩ - -
          exact hcond
        · intro hcond
          exact hcond parsed rfl hzero hmax

/-- The default router with a Segment algorithm that has lost its database, and Snowflake. -/
def segmentDown : ApiHandlers where
  idGenerator := ((AlgorithmRouter.new .default).register .segment
      ⟨fun _ _ => .error (.databaseError "pool timed out"),
        fun _ _ _ => .error (.databaseError "pool timed out")⟩).register .snowflake
      ⟨fun turn _ => .ok (Id.fromU128 (.ofNat 128 turn)),
        fun turn _ _ => .ok ⟨[Id.fromU128 (.ofNat 128 turn)], .snowflake, ""⟩⟩
  metrics := .zero
  batchMaxSize := 100

/-- No route is set. -/
def atNoon : AtEnd := ⟨fun _ => none, 0, "2026-01-01T12:00:00+00:00"⟩

/-- A request without an algorithm falls back to Snowflake and gets its id under the name of
Segment; a batch that asks for Snowflake, and is made by it, is named after Segment too. -/
theorem segment_named_for_snowflake :
    (¬ ∀ (h : ApiHandlers) (atEnd : AtEnd) (req : GenerateRequest) (res : GenerateResponse),
      (h.generate atEnd req).1 = .ok res →
        NamesProducer res.algorithm (h.generate atEnd req).2.idGenerator) ∧
    ¬ ∀ (t : String → List (String × String) → String) (h : ApiHandlers) (atEnd : AtEnd)
      (req : BatchGenerateRequest) (res : BatchGenerateResponse),
      (h.batchGenerate t atEnd req).1 = .ok res →
        NamesProducer res.algorithm (h.batchGenerate t atEnd req).2.idGenerator := by
  have hne : ∀ algType : AlgorithmType, some .snowflake = some algType →
      AlgorithmType.segment.display ≠ algType.display := by
    rintro algType ⟨⟩ hname
    cases AlgorithmType.display_injective hname
  constructor
  · intro hall
    obtain ⟨algType, hlast, hname⟩ := hall segmentDown atNoon
      ⟨"w", "g", "t", none⟩ ⟨"1", "segment", atNoon.timestamp⟩ rfl
    exact hne algType hlast hname
  · intro hall
    obtain ⟨algType, hlast, hname⟩ := hall (fun key _ => key) segmentDown
      atNoon ⟨"w", "g", "t", some 1, some "snowflake"⟩ ⟨["0"], 1, "segment", atNoon.timestamp⟩ rfl
    exact hne algType hlast hname

end ApiHandlers

end NebulaId
