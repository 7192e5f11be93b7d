import NebulaId.Segment.Distinct

/-!
# The loader that is installed (`DefaultSegmentLoader`)

`SegmentFactory::build` keeps the loader that `SegmentAlgorithm::new` installs. It makes
10000 ids of every second of the clock the base of a segment of a million ids.

* `same_second_twice`: two calls that load in the same second return the same id.
* `spaced_iff_disjoint`: the ranges of any list of clock readings are disjoint exactly when
  the readings are spaced; for clocks of this age this means 100 seconds
  (`spaced_iff_seconds`). The ids of an algorithm with spaced readings are distinct.
-/

namespace NebulaId

open Machine

namespace DefaultSegmentLoader

/-- The segment of a clock reading in seconds. -/
def segmentAt (timestamp : UInt64) : SegmentData :=
  let baseId := timestamp * 10000
  ⟨baseId, baseId + 1000000, 1000, 0⟩

/-- `load_segment`; the reading is the time since the epoch, or the error of a clock that
stands before it. -/
def loadSegment (reading : Except String UInt64) : Result SegmentData :=
  match reading with
  | .ok timestamp => .ok (segmentAt timestamp)
  | .error e => .error (.internalError ("Failed to get system time: " ++ e))

/-- The ranges that a sequence of loads returns. -/
def ranges (readings : List (Except String UInt64)) : List SegmentData :=
  readings.filterMap fun reading => (loadSegment reading).toOption

/-- The seconds that a sequence of loads sees. -/
def seconds (readings : List (Except String UInt64)) : List UInt64 :=
  readings.filterMap fun reading => reading.toOption

def base (timestamp : UInt64) : ℕ := timestamp.toNat * 10000 % 2 ^ 64

/-- The bases lie a segment apart, or a segment at the end of the `u64` numbers is empty. -/
def Spaced (t t' : UInt64) : Prop :=
  base t + 1000000 ≤ base t' ∨ base t' + 1000000 ≤ base t ∨
    2 ^ 64 ≤ base t + 1000000 ∨ 2 ^ 64 ≤ base t' + 1000000

/-- Two batches, each of which loads a segment before the other has one. -/
theorem same_second_twice :
    ¬ (ranges [.ok 1700000000, .ok 1700000000]).Pairwise (fun d d' => Disjoint d.ids d'.ids) ∧
      ∃ w, Reaches (World.step (segmentStep belowTenth)) Free noCalls w ∧
        w.shared.loaded = [("w:t", segmentAt 1700000000), ("w:t", segmentAt 1700000000)] ∧
        ¬ w.shared.issued.Nodup := by
  constructor
  · intro hdisjoint
    have hpair := (List.pairwise_cons.mp hdisjoint).1 _ List.mem_cons_self
    have hmem : 17000000000000 ∈ (segmentAt 1700000000).ids := ⟨by decide, by decide⟩
    exact Set.disjoint_left.mp hpair hmem hmem
  · let ops : List (List (ℕ × Input)) :=
      [[(0, .batchGenerate ⟨"w", "g", "t"⟩ 1), (1, .batchGenerate ⟨"w", "g", "t"⟩ 1)],
        List.replicate 7 (0, .proceed), List.replicate 6 (1, .proceed),
        [(0, .reply (loadSegment (.ok 1700000000))), (1, .reply (loadSegment (.ok 1700000000)))],
        List.replicate 5 (0, .proceed), List.replicate 5 (1, .proceed)]
    have hrun : ((run (World.step (segmentStep belowTenth)) noCalls ops.flatten).map
        fun w => (w.shared.loaded, w.shared.issued)) =
        some ([("w:t", segmentAt 1700000000), ("w:t", segmentAt 1700000000)],
          [("w:t", Id.ofU64 17000000000000), ("w:t", Id.ofU64 17000000000000)]) := by
      decide +kernel
    obtain ⟨w, hw, he⟩ := Option.map_eq_some_iff.mp hrun
    obtain ⟨hloaded, hissued⟩ := Prod.mk.inj he
    refine ⟨w, reaches_of_run hw, hloaded, ?_⟩
    rw [hissued]
    exact fun hnodup => (List.nodup_cons.mp hnodup).1 List.mem_cons_self

variable {t t' : UInt64}

theorem ranges_eq_map (readings : List (Except String UInt64)) :
    ranges readings = (seconds readings).map segmentAt := by
  unfold ranges seconds
  rw [List.map_filterMap]
  apply List.filterMap_congr
  intro reading _
  cases reading <;> rfl

theorem toNat_startId (t : UInt64) : (segmentAt t).startId.toNat = base t :=
  UInt64.toNat_mul ..

theorem toNat_maxId (t : UInt64) :
    (segmentAt t).maxId.toNat = (base t + 1000000) % 2 ^ 64 := by
  rw [← toNat_startId]
  exact UInt64.toNat_add ..

/-- Two segments are disjoint exactly when their readings are spaced. -/
theorem disjoint_iff_spaced : Disjoint (segmentAt t).ids (segmentAt t').ids ↔ Spaced t t' := by
  have hlt : base t < 2 ^ 64 := Nat.mod_lt _ (by decide)
  have hlt' : base t' < 2 ^ 64 := Nat.mod_lt _ (by decide)
  unfold SegmentData.ids Spaced
  rw [Set.Ico_disjoint_Ico, toNat_startId, toNat_startId, toNat_maxId, toNat_maxId]
  omega

/-- While no sum wraps, spaced readings are 100 seconds apart. -/
theorem spaced_iff_seconds (h : t.toNat * 10000 + 1000000 < 2 ^ 64)
    (h' : t'.toNat * 10000 + 1000000 < 2 ^ 64) :
    Spaced t t' ↔ t.toNat + 100 ≤ t'.toNat ∨ t'.toNat + 100 ≤ t.toNat := by
  have hbase : base t = t.toNat * 10000 := by
    unfold base
    omega
  have hbase' : base t' = t'.toNat * 10000 := by
    unfold base
    omega
  unfold Spaced
  rw [hbase, hbase']
  omega

theorem ranges_disjoint_iff (readings : List (Except String UInt64)) :
    (ranges readings).Pairwise (fun d d' => Disjoint d.ids d'.ids) ↔
      (seconds readings).Pairwise Spaced := by
  rw [ranges_eq_map, List.pairwise_map]
  simp only [disjoint_iff_spaced]

theorem loadsDisjoint_of_spaced {reads : List (String × UInt64)}
    (hspaced : reads.Pairwise fun x y => x.1 = y.1 → Spaced x.2 y.2) :
    LoadsDisjoint (reads.map fun x => (x.1, segmentAt x.2)) := by
  refine List.pairwise_map.mpr (hspaced.imp fun hxy hkey => ?_)
  exact disjoint_iff_spaced.mpr (hxy hkey)

/-- The clock leaves room for the largest batch, as it does for 56 million years. -/
def ClockLow (t : UInt64) : Prop := t.toNat * 10000 + 1000000 + 2 ^ 59 ≤ 2 ^ 64

theorem loadsLow_of_clock {reads : List (String × UInt64)} (hlow : ∀ x ∈ reads, ClockLow x.2) :
    LoadsLow (reads.map fun x => (x.1, segmentAt x.2)) := by
  intro y hy
  obtain ⟨x, hx, rfl⟩ := List.mem_map.mp hy
  have hclock := hlow x hx
  have hbase : base x.2 ≤ x.2.toNat * 10000 := Nat.mod_le _ _
  unfold ClockLow at hclock
  rw [toNat_startId, toNat_maxId]
  omega

/-- **Spaced readings.** The ranges of a sequence of loads are disjoint exactly when the clock
readings are spaced; and when those of an algorithm are, for each key, its ids are distinct. -/
theorem spaced_iff_disjoint (readings : List (Except String UInt64)) :
    ((ranges readings).Pairwise (fun d d' => Disjoint d.ids d'.ids) ↔
      (seconds readings).Pairwise Spaced) ∧
      ∀ (below : UInt64 → UInt64 → Bool) (w : World SharedSegments Task)
        (reads : List (String × UInt64)),
        Reaches (World.step (segmentStep below)) Free noCalls w →
        w.shared.loaded = reads.map (fun x => (x.1, segmentAt x.2)) →
        (∀ x ∈ reads, ClockLow x.2) →
        reads.Pairwise (fun x y => x.1 = y.1 → Spaced x.2 y.2) → w.shared.issued.Nodup := by
  refine ⟨ranges_disjoint_iff readings, fun below w reads h hloaded hlow hspaced => ?_⟩
  have hd := loadsDisjoint_of_spaced hspaced
  have hroom := loadsLow_of_clock hlow
  rw [← hloaded] at hd hroom
  exact (low_ids_distinct h hd hroom).1

/-- Two loads of one key 100 seconds apart. -/
theorem spaced_iff_disjoint_two :
    (ranges [.ok 1700000000, .ok 1700000100]).Pairwise (fun d d' => Disjoint d.ids d'.ids) ∧
      ∃ w, Reaches (World.step (segmentStep belowTenth)) Free noCalls w ∧
        w.shared.issued.length = 2 ∧ w.shared.issued.Nodup := by
  have hspaced : Spaced 1700000000 1700000100 := Or.inl (by decide)
  constructor
  · exact (spaced_iff_disjoint _).1.mpr (List.pairwise_pair.mpr hspaced)
  · let ops : List (List (ℕ × Input)) :=
      [[(0, .batchGenerate ⟨"w", "g", "t"⟩ 1), (1, .batchGenerate ⟨"w", "g", "t"⟩ 1)],
        List.replicate 7 (0, .proceed), List.replicate 6 (1, .proceed),
        [(0, .reply (loadSegment (.ok 1700000000))), (1, .reply (loadSegment (.ok 1700000100)))],
        List.replicate 5 (0, .proceed), List.replicate 5 (1, .proceed)]
    have hrun : ((run (World.step (segmentStep belowTenth)) noCalls ops.flatten).map
        fun w => (w.shared.loaded, w.shared.issued.length)) =
        some ([("w:t", segmentAt 1700000100), ("w:t", segmentAt 1700000000)], 2) := by
      decide +kernel
    obtain ⟨w, hw, he⟩ := Option.map_eq_some_iff.mp hrun
    obtain ⟨hloaded, hissued⟩ := Prod.mk.inj he
    have hlow : ∀ x ∈ [("w:t", (1700000100 : UInt64)), ("w:t", 1700000000)], ClockLow x.2 := by
      unfold ClockLow
      decide
    have hreach := reaches_of_run hw
    refine ⟨w, hreach, hissued, ?_⟩
    exact (spaced_iff_disjoint []).2 belowTenth w [("w:t", 1700000100), ("w:t", 1700000000)] hreach
      hloaded hlow (List.pairwise_pair.mpr fun _ => Or.inr (Or.inl (by decide)))

end DefaultSegmentLoader

end NebulaId
