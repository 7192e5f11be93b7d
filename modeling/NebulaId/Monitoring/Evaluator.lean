import NebulaId.Monitoring.Alerts
import NebulaId.Types.Floats
import NebulaId.Types.Numbers
import NebulaId.Types.Texts

/-!
# The evaluator of alert rules (`core/monitoring/core.rs`)

`DefaultEvaluator` goes by the first words of an expression. Rates and latencies are rational
numbers. `parse_threshold` looks for the name of the metric and a pair of braces behind it: the
pattern is written as a format string, and the braces are its second argument.

* `evaluate_of_comparison`: behind a metric and a comparison sign no threshold is found.
* `threshold_means_iff`: when the evaluation of a threshold expression means what it says.
-/

namespace NebulaId

structure AlgorithmMetrics where
  p99LatencyNs : UInt64
  p999LatencyNs : UInt64
  cacheHitRate : UInt64

structure MetricsSnapshot where
  p99LatencyMs : ℚ
  cacheHitRate : ℚ

namespace AlgorithmMetrics

def getP99LatencyMs (m : AlgorithmMetrics) : ℚ := m.p99LatencyNs.toNat / 1000000

def getCacheHitRate (m : AlgorithmMetrics) : ℚ := m.cacheHitRate.toNat / 100

def snapshot (m : AlgorithmMetrics) : MetricsSnapshot := ⟨m.getP99LatencyMs, m.getCacheHitRate⟩

end AlgorithmMetrics

/-- The values of the map of the algorithms stand in its order. -/
structure GlobalMetrics where
  algorithms : List AlgorithmMetrics
  activeConnections : UInt32
  totalRequests : UInt64
  totalErrors : UInt64

namespace GlobalMetrics

def getAllSnapshots (m : GlobalMetrics) : List MetricsSnapshot :=
  m.algorithms.map AlgorithmMetrics.snapshot

/-- The greatest of the latencies, each cut to whole milliseconds. -/
def maxLatencyMs (m : GlobalMetrics) : UInt64 :=
  ((m.getAllSnapshots.map fun s => UInt64.ofNat ⌊s.p99LatencyMs⌋₊).max?).getD 0

def maxLatency (m : GlobalMetrics) : ℚ :=
  ((m.getAllSnapshots.map MetricsSnapshot.p99LatencyMs).max?).getD 0

def minHitRate (m : GlobalMetrics) : ℚ :=
  ((m.getAllSnapshots.map MetricsSnapshot.cacheHitRate).min?).getD 100

def errorRate (m : GlobalMetrics) : ℚ :=
  if 0 < m.totalRequests then (m.totalErrors.toNat / m.totalRequests.toNat : ℚ) * 100 else 0

end GlobalMetrics

/-- Two decimals, as `{:.2}` writes them. -/
def twoDecimals (q : ℚ) : String :=
  let hundredths := (F32.roundEven (q * 100)).toNat
  toString (hundredths / 100) ++ "." ++ toString (hundredths % 100 / 10) ++
    toString (hundredths % 10)

example : twoDecimals (1 / 8) = "0.12" ∧ twoDecimals (2001 / 20) = "100.05" := by decide +kernel

namespace DefaultEvaluator

/-- `format!("\x7b\x7d \x7b\x7d ", metric_name, "\x7b\x7d")` -/
def pattern (metricName : String) : List Char := (metricName ++ " \x7b\x7d ").toList

def parseThreshold {T : Type} (parse : List Char → Option T) (expression : List Char)
    (metricName : String) : Option (T × T) :=
  (expression.dropPrefix? (pattern metricName)).bind fun rest =>
    match Text.splitTwo ' ' rest with
    | [value, threshold] => (parse threshold).bind fun threshold =>
      (parse value).map fun value => (value, threshold)
    | _ => none

def parseU64 (cs : List Char) : Option UInt64 := NebulaId.parseU64 (String.ofList cs)

def parseU32 (cs : List Char) : Option UInt32 :=
  (parseUnsigned (2 ^ 32) (String.ofList cs)).map UInt32.ofNat

/-- `e.starts_with(words)` -/
def startsWith (words : String) (e : List Char) : Bool := words.toList.isPrefixOf e

def evaluate (rule : AlertRule) (m : GlobalMetrics) : Bool × Option String :=
  let e := Text.trim rule.expression.toList
  if startsWith "id_generation_failed" e then
    (decide (0 < m.totalErrors), some (toString m.totalErrors))
  else if startsWith "id_generation_qps" e then
    match parseThreshold parseU64 e "id_generation_qps" with
    | some (_, threshold) => (decide (threshold ≤ m.totalRequests),
        some ("current_qps: " ++ toString m.totalRequests))
    | none => (false, none)
  else if startsWith "latency_ms > " e then
    match parseThreshold parseU64 e "latency_ms" with
    | some (_, threshold) => (decide (threshold < m.maxLatencyMs),
        some ("p99_latency_ms: " ++ toString m.maxLatencyMs))
    | none => (false, none)
  else if startsWith "latency_p99 > " e then
    match parseThreshold F64.fromStr e "latency_p99" with
    | some (_, threshold) => (threshold.lt (.finite m.maxLatency),
        some ("p99_latency_ms: " ++ twoDecimals m.maxLatency))
    | none => (false, none)
  else if startsWith "cache_hit_rate < " e then
    match parseThreshold F64.fromStr e "cache_hit_rate" with
    | some (_, threshold) => (F64.lt (.finite m.minHitRate) threshold,
        some ("hit_rate: " ++ twoDecimals m.minHitRate ++ "%"))
    | none => (false, none)
  else if startsWith "segment_exhausted" e then (true, some "segment_buffer_exhausted")
  else if startsWith "clock_backward" e then
    if m.algorithms.any fun alg => decide (0 < alg.p999LatencyNs) then
      (true, some "clock_backward_detected")
    else (false, none)
  else if startsWith "active_connections > " e then
    match parseThreshold parseU32 e "active_connections" with
    | some (_, threshold) => (decide (threshold < m.activeConnections),
        some ("connections: " ++ toString m.activeConnections))
    | none => (false, none)
  else if startsWith "error_rate > " e then
    match parseThreshold F64.fromStr e "error_rate" with
    | some (_, threshold) => (threshold.lt (.finite m.errorRate),
        some ("error_rate: " ++ twoDecimals m.errorRate ++ "%"))
    | none => (false, none)
  else (false, none)

/-! ## Words that part ways -/

/-- Neither text begins with the other. -/
def PartWays (words other : List Char) : Prop := ¬ words <+: other ∧ ¬ other <+: words

instance (words other : List Char) : Decidable (PartWays words other) :=
  inferInstanceAs (Decidable (_ ∧ _))

theorem PartWays.not_prefix {words head : List Char} (h : PartWays words head) (rest : List Char) :
    ¬ words <+: head ++ rest := fun hwords =>
  (List.prefix_or_prefix_of_prefix hwords (List.prefix_append head rest)).elim h.1 h.2

theorem startsWith_of_partWays {words : String} {head : List Char} (h : PartWays words.toList head)
    (rest : List Char) : startsWith words (head ++ rest) = false := by
  rw [startsWith, Bool.eq_false_iff, ne_eq, List.isPrefixOf_iff_prefix]
  exact h.not_prefix rest

theorem parseThreshold_of_apart {T : Type} (parse : List Char → Option T) {metricName : String}
    {head : List Char} (h : PartWays (pattern metricName) head) (rest : List Char) :
    parseThreshold parse (head ++ rest) metricName = none := by
  have hnone : (head ++ rest).dropPrefix? (pattern metricName) = none := by
    cases hdrop : (head ++ rest).dropPrefix? (pattern metricName) with
    | none => rfl
    | some tail =>
      obtain ⟨words, htext, hwords⟩ := List.dropPrefix?_eq_some_iff.mp hdrop
      rw [eq_of_beq hwords] at htext
      exact absurd ⟨tail, htext.symm⟩ (h.not_prefix rest)
  rw [parseThreshold, hnone, Option.bind_none]

/-! ## Threshold expressions -/

end DefaultEvaluator

open DefaultEvaluator

/-- `metric > t`, and `cache_hit_rate < t`. -/
inductive ThresholdForm where
  | latencyMs
  | latencyP99
  | errorRate
  | activeConnections
  | cacheHitRate
  deriving DecidableEq

namespace ThresholdForm

def metricName : ThresholdForm → String
  | latencyMs => "latency_ms"
  | latencyP99 => "latency_p99"
  | errorRate => "error_rate"
  | activeConnections => "active_connections"
  | cacheHitRate => "cache_hit_rate"

def comparison : ThresholdForm → String
  | cacheHitRate => " <"
  | _ => " >"

/-- A threshold in the number type of the metric. -/
def parse (form : ThresholdForm) (cs : List Char) : Option ℚ :=
  match form with
  | latencyMs => (DefaultEvaluator.parseU64 cs).map fun t => (t.toNat : ℚ)
  | activeConnections => (parseU32 cs).map fun t => (t.toNat : ℚ)
  | _ => (F64.fromStr cs).bind fun t => match t with
    | .finite q => some q
    | _ => none

/-- The metric, over all the algorithms. -/
def metric (form : ThresholdForm) (m : GlobalMetrics) : ℚ :=
  match form with
  | latencyMs => m.maxLatencyMs.toNat
  | latencyP99 => m.maxLatency
  | errorRate => m.errorRate
  | activeConnections => m.activeConnections.toNat
  | cacheHitRate => m.minHitRate

/-- The metric stands in the relation of the expression to the threshold. -/
def Stands (form : ThresholdForm) (m : GlobalMetrics) (t : ℚ) : Prop :=
  match form with
  | cacheHitRate => form.metric m < t
  | _ => t < form.metric m

instance (form : ThresholdForm) (m : GlobalMetrics) (t : ℚ) : Decidable (form.Stands m t) := by
  cases form <;> exact Rat.instDecidableLt _ _

/-- A text that writes a threshold for the metric. -/
structure Threshold (form : ThresholdForm) where
  text : String
  value : ℚ
  written : form.parse text.toList = some value

def expression (form : ThresholdForm) (t : form.Threshold) : String :=
  form.metricName ++ form.comparison ++ " " ++ t.text

/-- The metric and the comparison sign. -/
def head (form : ThresholdForm) : List Char := (form.metricName ++ form.comparison).toList

/-- They part ways with the pattern of every metric, and with the words of the rules that need no
threshold. -/
theorem apart_head (form : ThresholdForm) :
    (∀ name ∈ ["id_generation_qps", "latency_ms", "latency_p99", "cache_hit_rate",
        "active_connections", "error_rate"], PartWays (pattern name) form.head) ∧
      ∀ words ∈ ["id_generation_failed", "id_generation_qps", "segment_exhausted",
        "clock_backward"], PartWays words.toList form.head := by
  cases form <;> decide

/-- Trimming leaves them. -/
theorem trim_expression (form : ThresholdForm) (t : form.Threshold) :
    ∃ kept, Text.trim (form.expression t).toList = form.head ++ kept := by
  have htext : ∀ (b c : Char) (cs : List Char), isWhitespace b = false → isWhitespace c = false →
      form.head = b :: cs ++ [c] →
        ∃ kept, Text.trim (form.expression t).toList = form.head ++ kept := by
    intro b c cs hb hc hhead
    obtain ⟨kept, htrim⟩ := Text.trim_of_visible hb hc cs (" ".toList ++ t.text.toList)
    refine ⟨kept, ?_⟩
    have hexpr : (form.expression t).toList = b :: cs ++ c :: (" ".toList ++ t.text.toList) := by
      rw [expression, String.toList_append, String.toList_append]
      rw [head] at hhead
      rw [hhead, List.append_assoc, List.append_assoc, List.singleton_append]
    rw [hexpr, htrim, hhead, List.append_assoc, List.singleton_append]
  cases form with
  | latencyMs => exact htext 'l' '>' "atency_ms ".toList (by decide) (by decide) (by decide)
  | latencyP99 => exact htext 'l' '>' "atency_p99 ".toList (by decide) (by decide) (by decide)
  | errorRate => exact htext 'e' '>' "rror_rate ".toList (by decide) (by decide) (by decide)
  | activeConnections =>
    exact htext 'a' '>' "ctive_connections ".toList (by decide) (by decide) (by decide)
  | cacheHitRate => exact htext 'c' '<' "ache_hit_rate ".toList (by decide) (by decide) (by decide)

end ThresholdForm

namespace DefaultEvaluator

/-- Behind a metric and a comparison sign no threshold is found, and nothing fires. -/
theorem evaluate_of_comparison {rule : AlertRule} {form : ThresholdForm} {t : form.Threshold}
    (hrule : rule.expression = form.expression t) (m : GlobalMetrics) :
    evaluate rule m = (false, none) := by
  obtain ⟨kept, htrim⟩ := form.trim_expression t
  obtain ⟨hpatterns, hwords⟩ := form.apart_head
  have hparse : ∀ {T : Type} (parse : List Char → Option T) (name : String),
      name ∈ ["id_generation_qps", "latency_ms", "latency_p99", "cache_hit_rate",
        "active_connections", "error_rate"] →
      parseThreshold parse (form.head ++ kept) name = none := fun parse name hname =>
    parseThreshold_of_apart parse (hpatterns name hname) kept
  have hstart : ∀ words ∈ ["id_generation_failed", "id_generation_qps", "segment_exhausted",
      "clock_backward"], startsWith words (form.head ++ kept) = false := fun words hmem =>
    startsWith_of_partWays (hwords words hmem) kept
  rw [evaluate, hrule, htrim, hstart "id_generation_failed" (by simp),
    hstart "id_generation_qps" (by simp), hstart "segment_exhausted" (by simp),
    hstart "clock_backward" (by simp), hparse parseU64 "latency_ms" (by simp),
    hparse F64.fromStr "latency_p99" (by simp), hparse F64.fromStr "cache_hit_rate" (by simp),
    hparse parseU32 "active_connections" (by simp), hparse F64.fromStr "error_rate" (by simp)]
  simp only [Bool.false_eq_true, if_false, ite_self]

/-- A threshold expression means what it says only where it does not say that the rule fires. -/
theorem threshold_means_iff (rule : AlertRule) (m : GlobalMetrics) (form : ThresholdForm)
    (t : form.Threshold) :
    ((evaluate { rule with expression := form.expression t } m).1 = true ↔
      form.Stands m t.value) ↔ ¬ form.Stands m t.value := by
  have hquiet : evaluate { rule with expression := form.expression t } m = (false, none) :=
    evaluate_of_comparison rfl m
  rw [hquiet, Bool.false_eq_true, false_iff]

/-- The rule of the default configuration, at a latency of 200 ms. -/
theorem high_latency_silent :
    let rule : AlertRule := ⟨"high_latency", "latency_p99 > 100", 60, .warning, fun _ => none,
      fun name => if name = "summary" then some "P99 latency exceeds 100ms" else none, true⟩
    let m : GlobalMetrics := ⟨[⟨200000000, 200000000, 9900⟩], 0, 0, 0⟩
    ThresholdForm.latencyP99.parse "100".toList = some 100 ∧
      ThresholdForm.latencyP99.Stands m 100 ∧ evaluate rule m = (false, none) := by
  decide +kernel

end DefaultEvaluator

end NebulaId
