import Mathlib.Algebra.Order.Ring.Nat
import NebulaId.Arith.NearestRank
import NebulaId.Types.Id

/-!
# Latency percentiles (`core/types/metrics.rs`)

`record_latency` keeps three values that are named after the 50th, the 99th and the 99.9th
percentile. It replaces each of them by a latency that is larger, so all three are the largest
latency so far (`recorded_top`). Alerts on `latency_p99` read them.

* `percentiles_iff`: when the three values are the percentiles of the latencies so far, or of the
  last ones.
-/

namespace NebulaId

open NearestRank

/-- The fields of `AlgorithmMetrics` that `record_latency` uses. -/
structure LatencyMetrics where
  currentQps : UInt64
  p50LatencyNs : UInt64
  p99LatencyNs : UInt64
  p999LatencyNs : UInt64

namespace LatencyMetrics

def new : LatencyMetrics := ⟨0, 0, 0, 0⟩

def recordLatency (m : LatencyMetrics) (latencyNs : UInt64) : LatencyMetrics :=
  let m := { m with currentQps := m.currentQps + 1 }
  let m := if latencyNs > m.p50LatencyNs ∨ m.p50LatencyNs = 0 then
      { m with p50LatencyNs := latencyNs } else m
  let m := if latencyNs > m.p99LatencyNs then { m with p99LatencyNs := latencyNs } else m
  if latencyNs > m.p999LatencyNs then { m with p999LatencyNs := latencyNs } else m

/-- Fresh metrics after these latencies. -/
def recorded (latencies : List UInt64) : LatencyMetrics := latencies.foldl recordLatency new

/-- The largest latency; zero when there is none. -/
def largest (latencies : List UInt64) : ℕ := latencies.foldl (fun top ns => max top ns.toNat) 0

/-- All three values are `top`. -/
structure Top (m : LatencyMetrics) (top : ℕ) : Prop where
  p50 : m.p50LatencyNs.toNat = top
  p99 : m.p99LatencyNs.toNat = top
  p999 : m.p999LatencyNs.toNat = top

variable {m : LatencyMetrics} {top : ℕ}

/-- A larger latency, or any latency where the value is zero, becomes the maximum. -/
theorem toNat_replaced {value ns : UInt64} {replaces : Prop} [Decidable replaces]
    (hmore : ns > value → replaces) (hless : replaces → ns > value ∨ value = 0) :
    (if replaces then ns else value).toNat = max value.toNat ns.toNat := by
  split
  · rename_i hr
    rcases hless hr with hgt | rfl
    · exact (max_eq_right (UInt64.lt_iff_toNat_lt.mp hgt).le).symm
    · exact (max_eq_right (Nat.zero_le _)).symm
  · rename_i hr
    have hle : ns ≤ value := UInt64.not_lt.mp fun hgt => hr (hmore hgt)
    exact (max_eq_left (UInt64.le_iff_toNat_le.mp hle)).symm

theorem Top.recordLatency (h : Top m top) (ns : UInt64) :
    Top (m.recordLatency ns) (max top ns.toNat) := by
  have hp50 : (m.recordLatency ns).p50LatencyNs =
      if ns > m.p50LatencyNs ∨ m.p50LatencyNs = 0 then ns else m.p50LatencyNs := by
    unfold LatencyMetrics.recordLatency
    grind
  have hp99 : (m.recordLatency ns).p99LatencyNs =
      if ns > m.p99LatencyNs then ns else m.p99LatencyNs := by
    unfold LatencyMetrics.recordLatency
    grind
  have hp999 : (m.recordLatency ns).p999LatencyNs =
      if ns > m.p999LatencyNs then ns else m.p999LatencyNs := by
    unfold LatencyMetrics.recordLatency
    grind
  refine ⟨?_, ?_, ?_⟩
  · rw [hp50, toNat_replaced Or.inl id, h.p50]
  · rw [hp99, toNat_replaced id Or.inl, h.p99]
  · rw [hp999, toNat_replaced id Or.inl, h.p999]

theorem recorded_top (latencies : List UInt64) : Top (recorded latencies) (largest latencies) := by
  suffices h : ∀ m top, Top m top → Top (latencies.foldl LatencyMetrics.recordLatency m)
      (latencies.foldl (fun top ns => max top ns.toNat) top) from h new 0 ⟨rfl, rfl, rfl⟩
  induction latencies with
  | nil => exact fun _ _ h => h
  | cons ns latencies ih => exact fun m top h => ih _ _ (h.recordLatency ns)

theorem le_largest {latencies : List UInt64} {ns : UInt64} (h : ns ∈ latencies) :
    ns.toNat ≤ largest latencies := by
  suffices hacc : ∀ top, ns.toNat ≤ top ∨ ns ∈ latencies →
      ns.toNat ≤ latencies.foldl (fun top ns => max top ns.toNat) top from hacc 0 (Or.inr h)
  clear h
  induction latencies with
  | nil =>
    intro top hin
    rcases hin with hle | hmem
    · exact hle
    · cases hmem
  | cons x latencies ih =>
    intro top hin
    rw [List.foldl_cons]
    refine ih _ ?_
    rcases hin with hle | hmem
    · exact Or.inl (hle.trans (le_max_left _ _))
    · rcases List.mem_cons.mp hmem with rfl | hmem
      · exact Or.inl (le_max_right _ _)
      · exact Or.inr hmem

/-! ## Percentiles -/

/-- The values are the nearest-rank percentiles of these latencies. -/
def Percentiles (m : LatencyMetrics) (latencies : List UInt64) : Prop :=
  percentile 50 100 (latencies.map UInt64.toNat) = some m.p50LatencyNs.toNat ∧
    percentile 99 100 (latencies.map UInt64.toNat) = some m.p99LatencyNs.toNat ∧
    percentile 999 1000 (latencies.map UInt64.toNat) = some m.p999LatencyNs.toNat

/-- The last latencies, so many or all there are. -/
def recent (width : ℕ) (latencies : List UInt64) : List UInt64 :=
  latencies.drop (latencies.length - width)

/-- Of these latencies fewer than half, rounded up, are below `top`. -/
def MostlyAt (top : ℕ) (latencies : List UInt64) : Prop :=
  latencies.countP (fun ns => ns.toNat < top) < (latencies.length + 1) / 2

instance (top : ℕ) (latencies : List UInt64) : Decidable (MostlyAt top latencies) :=
  inferInstanceAs (Decidable (_ < _))

/-- The largest latency is the median of some of the latencies, and then each higher percentile,
when half of them come up to it. -/
theorem percentiles_of_top {latencies : List UInt64} (hm : Top m top) (hne : latencies ≠ [])
    (htop : ∀ ns ∈ latencies, ns.toNat ≤ top) :
    m.Percentiles latencies ↔ MostlyAt top latencies := by
  have hmap : latencies.map UInt64.toNat ≠ [] := fun h => hne (List.map_eq_nil_iff.mp h)
  have hle : ∀ x ∈ latencies.map UInt64.toNat, x ≤ top := by
    intro x hx
    obtain ⟨ns, hns, rfl⟩ := List.mem_map.mp hx
    exact htop ns hns
  rw [Percentiles, hm.p50, hm.p99, hm.p999, percentile_eq_top_iff (by decide) (by decide) hmap hle,
    percentile_eq_top_iff (by decide) (by decide) hmap hle,
    percentile_eq_top_iff (by decide) (by decide) hmap hle, List.countP_map, List.length_map]
  simp only [MostlyAt, nearestRank, Function.comp_def]
  omega

theorem recent_ne_nil {latencies : List UInt64} (hne : latencies ≠ []) (width : ℕ) :
    recent (width + 1) latencies ≠ [] := by
  have hpos : 0 < latencies.length := List.length_pos_iff.mpr hne
  rw [recent, ne_eq, List.drop_eq_nil_iff]
  omega

/-- After each call the three values are the percentiles of the latencies so far exactly when
these are mostly at the largest one, and those of the last latencies exactly when these are mostly
at the largest one so far. -/
theorem percentiles_iff (latencies : List UInt64) (latest : UInt64) :
    ((recorded (latencies ++ [latest])).Percentiles (latencies ++ [latest]) ↔
      MostlyAt (largest (latencies ++ [latest])) (latencies ++ [latest])) ∧
    ∀ width, (recorded (latencies ++ [latest])).Percentiles
        (recent (width + 1) (latencies ++ [latest])) ↔
      MostlyAt (largest (latencies ++ [latest])) (recent (width + 1) (latencies ++ [latest])) := by
  have hne : latencies ++ [latest] ≠ [] := List.append_ne_nil_of_right_ne_nil _ (by simp)
  have htop := recorded_top (latencies ++ [latest])
  refine ⟨percentiles_of_top htop hne fun ns hns => le_largest hns, fun width => ?_⟩
  exact percentiles_of_top htop (recent_ne_nil hne width)
    fun ns hns => le_largest (List.mem_of_mem_drop hns)

/-- One slow request and then a thousand fast ones. -/
def outlier : List UInt64 := 10 :: List.replicate 1000 1

theorem countP_replicate_one (n : ℕ) :
    (List.replicate n (1 : UInt64)).countP (fun ns => ns.toNat < 10) = n := by
  rw [List.countP_replicate]
  rfl

theorem largest_outlier : largest outlier = 10 := by
  have h : ∀ n, (List.replicate n (1 : UInt64)).foldl (fun top ns => max top ns.toNat) 10 = 10 := by
    intro n
    induction n with
    | zero => rfl
    | succ n ih => exact ih
  have hten : max 0 (10 : UInt64).toNat = 10 := rfl
  rw [largest, outlier, List.foldl_cons, hten, h]

theorem not_mostlyAt_outlier : ¬ MostlyAt 10 outlier := by
  unfold MostlyAt outlier
  rw [List.countP_cons, countP_replicate_one, List.length_cons, List.length_replicate]
  decide

theorem not_mostlyAt_recent_outlier (width : ℕ) : ¬ MostlyAt 10 (recent (width + 1) outlier) := by
  rcases Nat.lt_or_ge width 1000 with hlt | hge
  · -- the window has left the slow request behind
    have hrecent : recent (width + 1) outlier = List.replicate (width + 1) 1 := by
      have hlength : outlier.length - (width + 1) = (999 - width) + 1 := by
        rw [outlier, List.length_cons, List.length_replicate]
        omega
      have hfast : 1000 - (999 - width) = width + 1 := by omega
      rw [recent, hlength, outlier, List.drop_succ_cons, List.drop_replicate, hfast]
    rw [MostlyAt, hrecent, countP_replicate_one, List.length_replicate]
    omega
  · have hrecent : recent (width + 1) outlier = outlier := by
      have hlength : outlier.length - (width + 1) = 0 := by
        rw [outlier, List.length_cons, List.length_replicate]
        omega
      rw [recent, hlength, List.drop_zero]
    rw [hrecent]
    exact not_mostlyAt_outlier

/-- The values stay at the slow request, whatever the window, and an alert on the 99th percentile
stays with them. -/
theorem not_percentiles_outlier :
    ¬ (recorded outlier).Percentiles outlier ∧
      (¬ ∃ width, (recorded outlier).Percentiles (recent (width + 1) outlier)) ∧
      (recorded outlier).p99LatencyNs = 10 ∧
      percentile 99 100 (outlier.map UInt64.toNat) = some 1 := by
  have htop : Top (recorded outlier) 10 := largest_outlier ▸ recorded_top outlier
  have hne : outlier ≠ [] := List.cons_ne_nil _ _
  have hle : ∀ ns ∈ outlier, ns.toNat ≤ 10 := fun ns hns => largest_outlier ▸ le_largest hns
  refine ⟨?_, ?_, UInt64.toNat_inj.mp htop.p99, ?_⟩
  · rw [percentiles_of_top htop hne hle]
    exact not_mostlyAt_outlier
  · rintro ⟨width, hwidth⟩
    rw [percentiles_of_top htop (recent_ne_nil hne width)
      fun ns hns => hle ns (List.mem_of_mem_drop hns)] at hwidth
    exact not_mostlyAt_recent_outlier width hwidth
  · rw [percentile, outlier, List.map_cons, List.map_replicate, List.length_cons,
      List.length_replicate, ranked_eq_some_iff (by decide), List.countP_cons, List.countP_cons,
      List.countP_replicate, List.countP_replicate]
    decide

end LatencyMetrics

end NebulaId
