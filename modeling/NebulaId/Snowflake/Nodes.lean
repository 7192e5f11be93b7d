import NebulaId.Snowflake.ConstructId

/-!
# Ids of different nodes

A node is a pair of a datacenter id and a worker id. `Config::validate` lets every
datacenter id up to 31 and every worker id through, whatever widths the layout has, and
`construct_id` ORs both without a mask.

* `readsBack_iff`: one node never repeats an id over its field values exactly when its
  node part is clear of the neighbouring fields.
* `apart_iff`: two nodes of one layout never meet exactly when their node parts differ in
  a bit between the sequence and the timestamp.
* `accepted_neverCollide_iff` puts both together for accepted configurations.
* `layout_safe_iff`: a layout is safe for every node that the validator lets through
  exactly when it leaves 8 bits to the worker id and 5 to the datacenter id.
-/

namespace NebulaId

open BitFrame

namespace SnowflakeAlgorithm

/-- `construct_id` is injective on the field values in range. -/
def ReadsBack (a : SnowflakeAlgorithm) : Prop :=
  ∀ ts seq ts' seq', InRange a.config ts seq → InRange a.config ts' seq' →
    a.constructId ts seq = a.constructId ts' seq' → ts = ts' ∧ seq = seq'

/-- No id of the one is an id of the other. -/
def Apart (a b : SnowflakeAlgorithm) : Prop :=
  ∀ ts seq ts' seq', InRange a.config ts seq → InRange b.config ts' seq' →
    a.constructId ts seq ≠ b.constructId ts' seq'

/-- The node parts differ in a bit that no timestamp and no sequence can reach. -/
def NodesDiffer (a b : SnowflakeAlgorithm) : Prop :=
  ∃ i, a.config.workerShift ≤ i ∧ i < a.config.timestampShift ∧
    a.nodePart.testBit i ≠ b.nodePart.testBit i

variable {a b : SnowflakeAlgorithm}

theorem timestampShift_lt (c : SnowflakeAlgorithmConfig) : c.timestampShift < 64 :=
  Nat.mod_lt _ (by omega)

theorem readsBack_iff (hc : a.config.totalBits.toNat < 64) : a.ReadsBack ↔ a.NodeClear := by
  constructor
  · intro h
    refine (word_injective_iff (timestampShift_lt a.config) a.nodePart_lt).mp ?_
    intro t q t' q' hf hf' he
    obtain ⟨hr, ht, hq⟩ := inRange_of_fits hc hf
    obtain ⟨hr', ht', hq'⟩ := inRange_of_fits hc hf'
    have hid := (constructId_eq_iff hc hc hr hr').mpr (by rw [ht, hq, ht', hq']; exact he)
    obtain ⟨h1, h2⟩ := h _ _ _ _ hr hr' hid
    exact ⟨by rw [← ht, ← ht', h1], by rw [← hq, ← hq', h2]⟩
  · intro h ts seq ts' seq' hr hr' he
    exact h.constructId_injective hc hr hr' he

theorem apart_iff (hl : a.config.SameLayout b.config) (hc : a.config.totalBits.toNat < 64) :
    a.Apart b ↔ a.NodesDiffer b := by
  obtain ⟨hS, -, hT, hbits⟩ := hl.shifts
  have hc' : b.config.totalBits.toNat < 64 := hbits ▸ hc
  refine Iff.trans ?_ (words_apart_iff a.nodePart_lt b.nodePart_lt)
  constructor
  · intro h t q t' q' hf hf' he
    obtain ⟨hr, ht, hq⟩ := inRange_of_fits hc hf
    rw [hS, hT] at hf'
    obtain ⟨hr', ht', hq'⟩ := inRange_of_fits hc' hf'
    refine h _ _ _ _ hr hr' ((constructId_eq_iff hc hc' hr hr').mpr ?_)
    rw [ht, hq, ht', hq', ← hT]
    exact he
  · intro h ts seq ts' seq' hr hr' he
    have hf' := hr'.fits hc'
    rw [← hS, ← hT] at hf'
    refine h _ _ _ _ (hr.fits hc) hf' ?_
    rw [(constructId_eq_iff hc hc' hr hr').mp he, hT]

/-- Neither of the two nodes repeats an id, and different nodes share none. -/
structure NeverCollide (a b : SnowflakeAlgorithm) : Prop where
  readsBack : a.ReadsBack
  readsBack' : b.ReadsBack
  apart : (a.datacenterId, a.workerId) ≠ (b.datacenterId, b.workerId) → a.Apart b

theorem neverCollide_iff (hl : a.config.SameLayout b.config)
    (hc : a.config.totalBits.toNat < 64) :
    NeverCollide a b ↔ a.NodeClear ∧ b.NodeClear ∧
      ((a.datacenterId, a.workerId) ≠ (b.datacenterId, b.workerId) → a.NodesDiffer b) := by
  have hc' : b.config.totalBits.toNat < 64 := hl.shifts.2.2.2 ▸ hc
  constructor
  · rintro ⟨h1, h2, h3⟩
    exact ⟨(readsBack_iff hc).mp h1, (readsBack_iff hc').mp h2,
      fun hne => (apart_iff hl hc).mp (h3 hne)⟩
  · rintro ⟨h1, h2, h3⟩
    exact ⟨(readsBack_iff hc).mpr h1, (readsBack_iff hc').mpr h2,
      fun hne => (apart_iff hl hc).mpr (h3 hne)⟩

end SnowflakeAlgorithm

open SnowflakeAlgorithm

namespace Config

/-- **When accepted nodes never collide.** -/
theorem accepted_neverCollide_iff {c c' : Config} (hc : c.Accepted) (_ : c'.Accepted)
    (hl : c.algorithm.snowflake.SameLayout c'.algorithm.snowflake) :
    NeverCollide (build c) (build c') ↔ (build c).NodeClear ∧ (build c').NodeClear ∧
      ((c.app.dcId, c.app.workerId) ≠ (c'.app.dcId, c'.app.workerId) →
        (build c).NodesDiffer (build c')) :=
  SnowflakeAlgorithm.neverCollide_iff hl (totalBits_lt_of_validate hc)

def withNode (c : Config) (dcId workerId : UInt8) : Config :=
  { c with app := { c.app with dcId := dcId, workerId := workerId } }

/-- In the default layout the datacenter ids 0 and 5 stay apart. -/
theorem neverCollide_default : NeverCollide (build .default) (build (withNode .default 5 0)) := by
  have hc : Config.default.Accepted := by decide +kernel
  have hc' : (withNode .default 5 0).Accepted := by decide +kernel
  refine (accepted_neverCollide_iff hc hc' ⟨rfl, rfl, rfl⟩).mpr ⟨nodeClear_of_fits (by decide) ⟨by decide, by decide⟩,
    nodeClear_of_fits (by decide) ⟨by decide, by decide⟩, fun _ => ⟨18, ?_⟩⟩
  decide +kernel

/-- Datacenter 8 passes the validator, but its bit is the lowest bit of the timestamp. -/
theorem datacenter_eight_collides :
    (withNode .default 8 0).Accepted ∧ Config.default.Accepted ∧
      ¬ NeverCollide (build (withNode .default 8 0)) (build .default) := by
  refine ⟨by decide +kernel, by decide +kernel, fun h => ?_⟩
  have hne := h.apart (by decide) 0 0 1 0 ⟨by decide, by decide⟩ ⟨by decide, by decide⟩
  exact hne (by decide)

/-! ## Layouts that are safe for every accepted node -/

theorem toNat_ofNat_two_pow {k : ℕ} (hk : k < 8) : (UInt8.ofNat (2 ^ k)).toNat = 2 ^ k :=
  UInt8.toNat_ofNat_of_lt' (Nat.pow_lt_pow_right (by omega) hk)

theorem accepted_withNode {c : Config} (hc : c.Accepted) {dcId : UInt8} (hdc : dcId ≤ 31)
    (workerId : UInt8) : (c.withNode dcId workerId).Accepted := by
  obtain ⟨h1, h2, -, h4⟩ := accepted_iff.mp hc
  exact accepted_iff.mpr ⟨h1, h2, hdc, h4⟩

/-- A layout with 8 bits for the worker id and 5 for the datacenter id. -/
def WideLayout (c : SnowflakeAlgorithmConfig) : Prop :=
  c.workerShift + 8 ≤ c.datacenterShift ∧ c.datacenterShift + 5 ≤ c.timestampShift

section Wide

variable {a b : SnowflakeAlgorithm} (hw : WideLayout a.config) (ha : a.datacenterId.toNat < 2 ^ 5)

include hw ha

theorem nodePart_of_wide : a.nodePart = (a.datacenterId.toNat <<< a.config.datacenterShift) |||
    (a.workerId.toNat <<< a.config.workerShift) := by
  obtain ⟨h1, h2⟩ := hw
  have hT := timestampShift_lt a.config
  have hlt : ∀ {lo hi n}, Within lo hi n → hi ≤ 64 → n % 2 ^ 64 = n := fun hn hi =>
    Nat.mod_eq_of_lt (hn.lt_two_pow.trans_le (Nat.pow_le_pow_right (by omega) hi))
  rw [nodePart_eq, hlt (within_shiftLeft ha) (by omega),
    hlt (within_shiftLeft (m := 8) a.workerId.toNat_lt) (by omega)]

theorem nodeClear_of_wide : a.NodeClear := by
  obtain ⟨h1, h2⟩ := id hw
  refine ⟨by omega, ?_⟩
  rw [nodePart_of_wide hw ha]
  exact ((within_shiftLeft ha).mono (by omega) h2).or
    ((within_shiftLeft (m := 8) a.workerId.toNat_lt).mono le_rfl (by omega))

theorem testBit_nodePart_datacenter (i : ℕ) :
    a.nodePart.testBit (a.config.datacenterShift + i) = a.datacenterId.toNat.testBit i := by
  have hwk : a.workerId.toNat.testBit (a.config.datacenterShift + i - a.config.workerShift) =
      false := testBit_of_lt (k := 8) a.workerId.toNat_lt (by have := hw.1; omega)
  rw [nodePart_of_wide hw ha, Nat.testBit_or, Nat.testBit_shiftLeft, Nat.testBit_shiftLeft, hwk]
  simp

theorem testBit_nodePart_worker {i : ℕ} (hi : i < 8) :
    a.nodePart.testBit (a.config.workerShift + i) = a.workerId.toNat.testBit i := by
  have hlow : ¬ a.config.datacenterShift ≤ a.config.workerShift + i := by
    have := hw.1
    omega
  rw [nodePart_of_wide hw ha, Nat.testBit_or, Nat.testBit_shiftLeft, Nat.testBit_shiftLeft]
  simp [hlow]

end Wide

theorem nodesDiffer_of_wide {a b : SnowflakeAlgorithm} (hl : a.config = b.config)
    (hw : WideLayout a.config) (ha : a.datacenterId.toNat < 2 ^ 5)
    (hb : b.datacenterId.toNat < 2 ^ 5)
    (hne : (a.datacenterId, a.workerId) ≠ (b.datacenterId, b.workerId)) : a.NodesDiffer b := by
  obtain ⟨h1, h2⟩ := id hw
  by_contra hall
  have hagree : ∀ i, a.config.workerShift ≤ i → i < a.config.timestampShift →
      a.nodePart.testBit i = b.nodePart.testBit i := fun i hS hT => by
    by_contra hbit
    exact hall ⟨i, hS, hT, hbit⟩
  apply hne
  have hdc : a.datacenterId.toNat = b.datacenterId.toNat := by
    refine Nat.eq_of_testBit_eq fun i => ?_
    by_cases hi : i < 5
    · rw [← testBit_nodePart_datacenter hw ha, ← testBit_nodePart_datacenter (hl ▸ hw) hb, ← hl]
      exact hagree _ (by omega) (by omega)
    · rw [testBit_of_lt ha (by omega), testBit_of_lt hb (by omega)]
  have hwk : a.workerId.toNat = b.workerId.toNat := by
    refine Nat.eq_of_testBit_eq fun i => ?_
    by_cases hi : i < 8
    · rw [← testBit_nodePart_worker hw ha hi, ← testBit_nodePart_worker (hl ▸ hw) hb hi, ← hl]
      exact hagree _ (by omega) (by omega)
    · rw [testBit_of_lt (k := 8) a.workerId.toNat_lt (by omega),
        testBit_of_lt (k := 8) b.workerId.toNat_lt (by omega)]
  exact Prod.ext (UInt8.toNat_inj.mp hdc) (UInt8.toNat_inj.mp hwk)

theorem nodePart_datacenter (c : Config) {k : ℕ} (hk : k < 8)
    (h : c.algorithm.snowflake.datacenterShift + k < 64) :
    (build (c.withNode (.ofNat (2 ^ k)) 0)).nodePart =
      2 ^ (c.algorithm.snowflake.datacenterShift + k) := by
  have hlt := Nat.pow_lt_pow_right (a := 2) (by omega) h
  rw [nodePart_eq]
  change ((UInt8.ofNat (2 ^ k)).toNat <<< c.algorithm.snowflake.datacenterShift % 2 ^ 64) |||
    (0 <<< c.algorithm.snowflake.workerShift % 2 ^ 64) = _
  rw [toNat_ofNat_two_pow hk, Nat.shiftLeft_eq, ← Nat.pow_add, Nat.add_comm k,
    Nat.mod_eq_of_lt hlt]
  simp

theorem nodePart_worker (c : Config) {k : ℕ} (hk : k < 8)
    (h : c.algorithm.snowflake.workerShift + k < 64) :
    (build (c.withNode 0 (.ofNat (2 ^ k)))).nodePart =
      2 ^ (c.algorithm.snowflake.workerShift + k) := by
  have hlt := Nat.pow_lt_pow_right (a := 2) (by omega) h
  rw [nodePart_eq]
  change (0 <<< c.algorithm.snowflake.datacenterShift % 2 ^ 64) |||
    ((UInt8.ofNat (2 ^ k)).toNat <<< c.algorithm.snowflake.workerShift % 2 ^ 64) = _
  rw [toNat_ofNat_two_pow hk, Nat.zero_shiftLeft, Nat.shiftLeft_eq, ← Nat.pow_add,
    Nat.add_comm k, Nat.mod_eq_of_lt hlt]
  simp

/-- **Safe layouts.** All the nodes that the validator lets through keep apart exactly in
the layouts with room for 8 worker bits and 5 datacenter bits. -/
theorem layout_safe_iff {c : Config} (hc : c.Accepted) :
    (∀ dcId workerId dcId' workerId', (c.withNode dcId workerId).Accepted →
      (c.withNode dcId' workerId').Accepted →
      NeverCollide (build (c.withNode dcId workerId)) (build (c.withNode dcId' workerId'))) ↔
      WideLayout c.algorithm.snowflake := by
  have hbits := totalBits_lt_of_validate hc
  have hiff : ∀ dcId workerId dcId' workerId',
      NeverCollide (build (c.withNode dcId workerId)) (build (c.withNode dcId' workerId')) ↔ _ :=
    fun _ _ _ _ => neverCollide_iff ⟨rfl, rfl, rfl⟩ hbits
  constructor
  · intro h
    have hclear : ∀ dcId workerId, dcId ≤ 31 → (build (c.withNode dcId workerId)).NodeClear :=
      fun dcId workerId hdc =>
        have hnode := accepted_withNode hc hdc workerId
        ((hiff _ _ _ _).mp (h dcId workerId dcId workerId hnode hnode)).1
    have hT := timestampShift_lt c.algorithm.snowflake
    have hW : c.algorithm.snowflake.datacenterShift < 64 := Nat.mod_lt _ (by omega)
    -- a datacenter bit that the word can hold must lie between sequence and timestamp
    have hbit : ∀ k, k < 5 → c.algorithm.snowflake.datacenterShift + k < 64 →
        c.algorithm.snowflake.workerShift ≤ c.algorithm.snowflake.datacenterShift + k ∧
          c.algorithm.snowflake.datacenterShift + k < c.algorithm.snowflake.timestampShift := by
      intro k hk hlt
      have hle : UInt8.ofNat (2 ^ k) ≤ 31 := by
        rw [UInt8.le_iff_toNat_le, toNat_ofNat_two_pow (by omega)]
        have := Nat.pow_le_pow_right (n := 2) (by omega) (show k ≤ 4 by omega)
        exact this.trans (by decide)
      refine (hclear _ 0 hle).2 _ ?_
      rw [nodePart_datacenter c (by omega) hlt]
      exact Nat.testBit_two_pow_self
    have hdc : c.algorithm.snowflake.datacenterShift + 5 ≤
        c.algorithm.snowflake.timestampShift := by
      have h1 := hbit (min 4 (63 - c.algorithm.snowflake.datacenterShift)) (by omega) (by omega)
      omega
    refine ⟨?_, hdc⟩
    -- with fewer worker bits a worker and a datacenter share a bit
    by_contra hlt
    have hS := (hbit 0 (by omega) (by omega)).1
    obtain ⟨j, hj⟩ := Nat.exists_eq_add_of_le hS
    have hparts : (build (c.withNode (.ofNat (2 ^ 0)) 0)).nodePart =
        (build (c.withNode 0 (.ofNat (2 ^ j)))).nodePart := by
      rw [nodePart_datacenter c (by omega) (by omega), nodePart_worker c (by omega) (by omega), hj]
    obtain ⟨-, -, hdiffer⟩ :=
      (hiff _ _ _ _).mp (h (.ofNat (2 ^ 0)) 0 0 (.ofNat (2 ^ j))
        (accepted_withNode hc (by decide) 0) (accepted_withNode hc (by decide) _))
    have hdc : (1 : UInt8) ≠ 0 := by decide
    obtain ⟨i, -, -, hne⟩ := hdiffer fun he => hdc (congrArg Prod.fst he)
    exact hne (congrArg (fun n => n.testBit i) hparts)
  · intro hw dcId workerId dcId' workerId' hnode hnode'
    have hdc : dcId.toNat < 2 ^ 5 := Nat.lt_succ_of_le (dcId_le_of_validate hnode)
    have hdc' : dcId'.toNat < 2 ^ 5 := Nat.lt_succ_of_le (dcId_le_of_validate hnode')
    have hw1 : WideLayout (build (c.withNode dcId workerId)).config := hw
    have hw2 : WideLayout (build (c.withNode dcId' workerId')).config := hw
    exact (hiff _ _ _ _).mpr ⟨nodeClear_of_wide hw1 hdc, nodeClear_of_wide hw2 hdc',
      nodesDiffer_of_wide rfl hw1 hdc hdc'⟩

end Config

end NebulaId
