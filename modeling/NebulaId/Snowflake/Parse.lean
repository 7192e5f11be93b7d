import NebulaId.Snowflake.ConstructId

/-!
# Parsing Snowflake ids (`server/handlers/id_handlers.rs`)

`extractSnowflakeMetadata` takes an id apart with the fixed widths 10, 8 and 3, whatever
layout built the id. `toNat_extract` reads its fields off the id as a number;
`parse_construct_iff` says for which accepted layouts it undoes `construct_id`.
-/

namespace NebulaId

open BitFrame

structure IdMetadataResponse where
  timestamp : UInt64
  datacenterId : UInt8
  workerId : UInt16
  sequence : UInt16
  algorithm : String
  bizTag : String
  deriving DecidableEq

def parseSequenceBits : ℕ := 10

def parseWorkerIdBits : ℕ := 8

def parseDatacenterIdBits : ℕ := 3

def extractSnowflakeMetadata (id : Id) : IdMetadataResponse :=
  let value := id.asU128
  let sequenceMask : BitVec 128 := ((1 : BitVec 128) <<< parseSequenceBits) - 1
  let workerMask : BitVec 128 := ((1 : BitVec 128) <<< parseWorkerIdBits) - 1
  let datacenterMask : BitVec 128 := ((1 : BitVec 128) <<< parseDatacenterIdBits) - 1
  let workerShift := parseSequenceBits
  let datacenterShift := parseSequenceBits + parseWorkerIdBits
  let timestampShift := parseSequenceBits + parseWorkerIdBits + parseDatacenterIdBits
  { timestamp := .ofBitVec ((value >>> timestampShift).setWidth 64)
    datacenterId := .ofBitVec (((value >>> datacenterShift) &&& datacenterMask).setWidth 8)
    workerId := .ofBitVec (((value >>> workerShift) &&& workerMask).setWidth 16)
    sequence := .ofBitVec ((value &&& sequenceMask).setWidth 16)
    algorithm := "snowflake"
    bizTag := "" }

namespace SnowflakeAlgorithm

/-- The parsed fields are the ones the id was built from. -/
structure ParsesTo (a : SnowflakeAlgorithm) (timestamp sequence : UInt64)
    (m : IdMetadataResponse) : Prop where
  timestamp : m.timestamp = timestamp
  datacenterId : m.datacenterId = a.datacenterId
  workerId : m.workerId.toNat = a.workerId.toNat
  sequence : m.sequence.toNat = sequence.toNat

/-- Parsing undoes `construct_id` on all field values of a layout. -/
def ParseUndoes (c : SnowflakeAlgorithmConfig) : Prop :=
  ∀ a : SnowflakeAlgorithm, a.config = c → a.NodeFits → ∀ ts seq, InRange c ts seq →
    a.ParsesTo ts seq (extractSnowflakeMetadata (a.constructId ts seq))

/-- The layouts that put every field where the parser looks for it. -/
def ParserLayout (c : SnowflakeAlgorithmConfig) : Prop :=
  c.sequenceBits.toNat % 64 = 10 ∧
    ((c.datacenterIdBits.toNat % 64 = 3 ∧ c.workerIdBits.toNat % 64 = 8) ∨
      (c.datacenterIdBits.toNat % 64 = 0 ∧ c.workerIdBits.toNat % 64 = 11))

variable {a : SnowflakeAlgorithm} {ts seq : UInt64}

/-! ## The parser on numbers -/

theorem toNat_and_low (value : BitVec 128) {k : ℕ} (hk : k < 128) :
    (value &&& (((1 : BitVec 128) <<< k) - 1)).toNat = value.toNat % 2 ^ k := by
  have hlt : 2 ^ k < 2 ^ 128 := Nat.pow_lt_pow_right (by omega) hk
  have hone : ((1 : BitVec 128) <<< k).toNat = 2 ^ k := by
    rw [BitVec.toNat_shiftLeft, show (1 : BitVec 128).toNat = 1 from rfl, Nat.one_shiftLeft,
      Nat.mod_eq_of_lt hlt]
  have hle : (1 : BitVec 128) ≤ (1 : BitVec 128) <<< k := by
    rw [BitVec.le_def, hone]
    exact Nat.one_le_two_pow
  rw [BitVec.toNat_and, BitVec.toNat_sub_of_le hle, hone]
  exact Nat.and_two_pow_sub_one_eq_mod _ _

theorem toNat_extract (id : Id) :
    (extractSnowflakeMetadata id).timestamp.toNat = id.asU128.toNat / 2 ^ 21 % 2 ^ 64 ∧
    (extractSnowflakeMetadata id).datacenterId.toNat = id.asU128.toNat / 2 ^ 18 % 2 ^ 3 ∧
    (extractSnowflakeMetadata id).workerId.toNat = id.asU128.toNat / 2 ^ 10 % 2 ^ 8 ∧
    (extractSnowflakeMetadata id).sequence.toNat = id.asU128.toNat % 2 ^ 10 := by
  simp only [extractSnowflakeMetadata, parseSequenceBits, parseWorkerIdBits,
    parseDatacenterIdBits, UInt64.toNat_ofBitVec, UInt16.toNat_ofBitVec, UInt8.toNat_ofBitVec,
    BitVec.toNat_setWidth, toNat_and_low _ (show 10 < 128 by omega),
    toNat_and_low _ (show 8 < 128 by omega), toNat_and_low _ (show 3 < 128 by omega),
    BitVec.toNat_ushiftRight, Nat.shiftRight_eq_div_pow]
  refine ⟨trivial, ?_, ?_, ?_⟩ <;> exact Nat.mod_eq_of_lt (by omega)

theorem parsesTo_iff : a.ParsesTo ts seq (extractSnowflakeMetadata (a.constructId ts seq)) ↔
    (a.constructId ts seq).asU128.toNat / 2 ^ 21 % 2 ^ 64 = ts.toNat ∧
    (a.constructId ts seq).asU128.toNat / 2 ^ 18 % 2 ^ 3 = a.datacenterId.toNat ∧
    (a.constructId ts seq).asU128.toNat / 2 ^ 10 % 2 ^ 8 = a.workerId.toNat ∧
    (a.constructId ts seq).asU128.toNat % 2 ^ 10 = seq.toNat := by
  obtain ⟨h1, h2, h3, h4⟩ := toNat_extract (a.constructId ts seq)
  rw [← h1, ← h2, ← h3, ← h4, UInt64.toNat_inj, UInt8.toNat_inj]
  exact ⟨fun ⟨a, b, c, d⟩ => ⟨a, b, c, d⟩, fun ⟨a, b, c, d⟩ => ⟨a, b, c, d⟩⟩

/-! ## The layouts the parser can read -/

theorem ParserLayout.shifts {c : SnowflakeAlgorithmConfig} (h : ParserLayout c)
    (hc : c.totalBits.toNat < 64) : c.workerShift = 10 ∧ c.timestampShift = 21 ∧
      (c.datacenterShift = 18 ∨ c.datacenterIdBits.toNat % 64 = 0) := by
  obtain ⟨hs, hdw⟩ := h
  have hbits := hc
  rw [SnowflakeAlgorithmConfig.totalBits, UInt8.toNat_add, UInt8.toNat_add] at hbits
  simp only [SnowflakeAlgorithmConfig.workerShift, SnowflakeAlgorithmConfig.timestampShift,
    SnowflakeAlgorithmConfig.datacenterShift, SnowflakeAlgorithmConfig.totalBits,
    UInt8.toNat_add]
  omega

/-- The node part of such a layout is the datacenter id over eight bits of worker id. -/
theorem nodePart_of_parserLayout (hc : a.config.totalBits.toNat < 64)
    (hl : ParserLayout a.config) (hn : a.NodeFits) : a.datacenterId.toNat < 2 ^ 3 ∧
      a.nodePart = (a.datacenterId.toNat <<< 18) ||| (a.workerId.toNat <<< 10) := by
  obtain ⟨hS, hT, hW⟩ := hl.shifts hc
  have hwk := a.workerId.toNat_lt
  have hd : a.datacenterId.toNat < 2 ^ (a.config.datacenterIdBits.toNat % 64) := by
    have hle := UInt64.le_iff_toNat_le.mp hn.1
    rw [UInt8.toNat_toUInt64] at hle
    exact SnowflakeAlgorithmConfig.toNat_le_fieldMask.mp hle
  have hw : a.workerId.toNat <<< 10 % 2 ^ 64 = a.workerId.toNat <<< 10 := by
    rw [Nat.shiftLeft_eq]
    omega
  rw [nodePart_eq, hS, hw]
  rcases hl.2 with ⟨hd3, hw8⟩ | ⟨hd0, -⟩
  · rw [hd3] at hd
    rcases hW with hW | h0
    · have hdc : a.datacenterId.toNat <<< 18 % 2 ^ 64 = a.datacenterId.toNat <<< 18 := by
        rw [Nat.shiftLeft_eq]
        omega
      exact ⟨hd, by rw [hW, hdc]⟩
    · omega
  · rw [hd0, Nat.pow_zero, Nat.lt_one_iff] at hd
    rw [hd, Nat.zero_shiftLeft, Nat.zero_shiftLeft]
    exact ⟨by omega, rfl⟩

theorem toNat_constructId_of_parserLayout (hc : a.config.totalBits.toNat < 64)
    (hl : ParserLayout a.config) (hn : a.NodeFits) (h : InRange a.config ts seq) :
    (a.constructId ts seq).asU128.toNat =
      ts.toNat * 2 ^ 21 + (a.datacenterId.toNat * 2 ^ 18 + a.workerId.toNat * 2 ^ 10) +
        seq.toNat := by
  obtain ⟨hS, hT, -⟩ := hl.shifts hc
  obtain ⟨hdc, hpart⟩ := nodePart_of_parserLayout hc hl hn
  have hwk := a.workerId.toNat_lt
  have hd := (within_shiftLeft (k := 18) hdc).mono (show 10 ≤ 18 by omega) (Nat.le_refl 21)
  have hw := (within_shiftLeft (k := 10) (m := 8) hwk).mono le_rfl (show 18 ≤ 21 by omega)
  have hsum : (a.datacenterId.toNat <<< 18) ||| (a.workerId.toNat <<< 10) =
      a.datacenterId.toNat * 2 ^ 18 + a.workerId.toNat * 2 ^ 10 := by
    rw [← Nat.shiftLeft_add_eq_or_of_lt, Nat.shiftLeft_eq, Nat.shiftLeft_eq]
    rw [Nat.shiftLeft_eq]
    omega
  have hseq : seq.toNat < 2 ^ 10 := hS ▸ (h.fits hc).2
  rw [toNat_constructId hc h, hT, hpart, word_eq_add (by omega) (hd.or hw) hseq, hsum]

theorem parseUndoes_of_parserLayout {c : SnowflakeAlgorithmConfig} (hc : c.totalBits.toNat < 64)
    (hl : ParserLayout c) : ParseUndoes c := by
  rintro a rfl hn ts seq h
  obtain ⟨hS, hT, -⟩ := hl.shifts hc
  have hwk := a.workerId.toNat_lt
  have hdc := (nodePart_of_parserLayout hc hl hn).1
  have hts := (h.fits hc).1
  have hseq := (h.fits hc).2
  rw [hT] at hts
  rw [hS] at hseq
  rw [parsesTo_iff, toNat_constructId_of_parserLayout hc hl hn h]
  omega

/-- The place of a single bit can be read off the field that shows it. -/
theorem eq_of_two_pow_div_mod {k j m : ℕ} (h : 2 ^ k / 2 ^ j % 2 ^ m = 1) : k = j := by
  rcases Nat.lt_trichotomy k j with hlt | rfl | hlt
  · rw [Nat.div_eq_of_lt (Nat.pow_lt_pow_right (by omega) hlt), Nat.zero_mod] at h
    omega
  · rfl
  · obtain ⟨i, rfl⟩ := Nat.exists_eq_add_of_lt hlt
    rw [Nat.add_assoc, Nat.pow_add, Nat.mul_div_cancel_left _ (Nat.two_pow_pos _),
      Nat.pow_succ] at h
    cases m with
    | zero => rw [Nat.pow_zero, Nat.mod_one] at h; omega
    | succ m => rw [Nat.pow_succ, Nat.mul_mod_mul_right] at h; omega

/-- A generator of the layout for the given node. -/
def probe (c : SnowflakeAlgorithmConfig) (datacenterId workerId : UInt8) : SnowflakeAlgorithm :=
  { new datacenterId workerId with config := c }

theorem toNat_constructId_probe {c : SnowflakeAlgorithmConfig} (hc : c.totalBits.toNat < 64)
    {dc wk : UInt8} (h : InRange c ts seq) : ((probe c dc wk).constructId ts seq).asU128.toNat =
      word c.timestampShift ts.toNat ((dc.toNat <<< c.datacenterShift % 2 ^ 64) |||
        (wk.toNat <<< c.workerShift % 2 ^ 64)) seq.toNat := by
  rw [toNat_constructId (a := probe c dc wk) hc h, nodePart_eq]
  rfl

theorem one_le_fieldMask {bits : UInt8} (h : bits.toNat % 64 ≠ 0) :
    (1 : UInt8).toUInt64 ≤ SnowflakeAlgorithmConfig.fieldMask bits := by
  rw [UInt64.le_iff_toNat_le]
  exact SnowflakeAlgorithmConfig.toNat_le_fieldMask.mpr (Nat.one_lt_two_pow h)

theorem two_pow_mod_of_lt {k : ℕ} (h : k < 64) : 2 ^ k % 2 ^ 64 = 2 ^ k :=
  Nat.mod_eq_of_lt (Nat.pow_lt_pow_right (by omega) h)

/-- Ids with a single field set give away the place of that field. -/
theorem parserLayout_of_parseUndoes {c : SnowflakeAlgorithmConfig}
    (hc : c.totalBits.toNat < 64) (h : ParseUndoes c) : ParserLayout c := by
  have hzero : (0 : UInt8).toUInt64 ≤ c.datacenterIdMask ∧ (0 : UInt8).toUInt64 ≤ c.workerIdMask :=
    ⟨UInt64.zero_le, UInt64.zero_le⟩
  have hSlt : c.workerShift < 64 := Nat.mod_lt _ (by omega)
  have hWlt : c.datacenterShift < 64 := Nat.mod_lt _ (by omega)
  have hTlt : c.timestampShift < 64 := Nat.mod_lt _ (by omega)
  have hnil : Fits 64 c.timestampShift c.workerShift 0 0 :=
    ⟨Nat.two_pow_pos _, Nat.two_pow_pos _⟩
  have hT : c.timestampShift = 21 := by
    have hone : Fits 64 c.timestampShift c.workerShift 1 0 :=
      ⟨Nat.one_lt_two_pow (by omega), Nat.two_pow_pos _⟩
    obtain ⟨hr, ht, hq⟩ := inRange_of_fits hc hone
    have hp := (parsesTo_iff.mp (h (probe c 0 0) rfl hzero _ _ hr)).1
    rw [toNat_constructId_probe hc hr, ht, hq] at hp
    simp only [word, UInt8.toNat_zero, Nat.zero_shiftLeft, Nat.zero_mod, Nat.or_zero,
      Nat.one_shiftLeft] at hp
    exact eq_of_two_pow_div_mod hp
  have hS : c.workerShift ≤ 10 := by
    have hfull : Fits 64 c.timestampShift c.workerShift 0 (2 ^ c.workerShift - 1) :=
      ⟨Nat.two_pow_pos _, Nat.sub_lt (Nat.two_pow_pos _) Nat.one_pos⟩
    obtain ⟨hr, ht, hq⟩ := inRange_of_fits hc hfull
    have hp := (parsesTo_iff.mp (h (probe c 0 0) rfl hzero _ _ hr)).2.2.2
    rw [toNat_constructId_probe hc hr, ht, hq] at hp
    simp only [word, UInt8.toNat_zero, Nat.zero_shiftLeft, Nat.zero_mod, Nat.zero_or] at hp
    have hlt := Nat.mod_lt (2 ^ c.workerShift - 1) (Nat.two_pow_pos 10)
    by_contra hge
    have := Nat.pow_le_pow_right (n := 2) (by omega) (show 11 ≤ c.workerShift by omega)
    omega
  have hwk : c.workerIdBits.toNat % 64 ≠ 0 → c.workerShift = 10 := by
    intro hne
    obtain ⟨hr, ht, -⟩ := inRange_of_fits hc hnil
    have hp := (parsesTo_iff.mp (h (probe c 0 1) rfl ⟨hzero.1, one_le_fieldMask hne⟩ _ _ hr)).2.2.1
    rw [toNat_constructId_probe hc hr, ht] at hp
    simp only [word, UInt8.toNat_zero, Nat.zero_shiftLeft, Nat.zero_mod, Nat.or_zero, Nat.zero_or,
      show (1 : UInt8).toNat = 1 from rfl, Nat.one_shiftLeft, two_pow_mod_of_lt hSlt] at hp
    exact eq_of_two_pow_div_mod hp
  have hdc : c.datacenterIdBits.toNat % 64 ≠ 0 → c.datacenterShift = 18 := by
    intro hne
    obtain ⟨hr, ht, -⟩ := inRange_of_fits hc hnil
    have hp := (parsesTo_iff.mp (h (probe c 1 0) rfl ⟨one_le_fieldMask hne, hzero.2⟩ _ _ hr)).2.1
    rw [toNat_constructId_probe hc hr, ht] at hp
    simp only [word, UInt8.toNat_zero, Nat.zero_shiftLeft, Nat.zero_mod, Nat.or_zero, Nat.zero_or,
      show (1 : UInt8).toNat = 1 from rfl, Nat.one_shiftLeft, two_pow_mod_of_lt hWlt] at hp
    exact eq_of_two_pow_div_mod hp
  simp only [ParserLayout, SnowflakeAlgorithmConfig.workerShift,
    SnowflakeAlgorithmConfig.timestampShift, SnowflakeAlgorithmConfig.datacenterShift,
    SnowflakeAlgorithmConfig.totalBits, UInt8.toNat_add] at hc hT hS hwk hdc ⊢
  omega

end SnowflakeAlgorithm

namespace Config

open SnowflakeAlgorithm

/-- **When parsing undoes generation.** -/
theorem parseUndoes_iff {c : Config} (hc : c.Accepted) :
    ParseUndoes c.algorithm.snowflake ↔ ParserLayout c.algorithm.snowflake :=
  ⟨parserLayout_of_parseUndoes (totalBits_lt_of_validate hc),
    parseUndoes_of_parserLayout (totalBits_lt_of_validate hc)⟩

/-- The default layout is one the parser can read. -/
theorem parseUndoes_default : ParseUndoes Config.default.algorithm.snowflake :=
  (parseUndoes_iff (by decide +kernel)).mpr ⟨rfl, Or.inl ⟨rfl, rfl⟩⟩

/-- The usual layout with 5 datacenter, 5 worker and 12 sequence bits. -/
def fiveFiveTwelve : Config :=
  { Config.default with
    algorithm := { Config.default.algorithm with snowflake := ⟨5, 5, 12, 1000⟩ } }

/-- Sequence 1024 of that layout is read as worker 1 with sequence 0. -/
theorem fiveFiveTwelve_misread : fiveFiveTwelve.Accepted ∧
    InRange fiveFiveTwelve.algorithm.snowflake 0 1024 ∧
    extractSnowflakeMetadata ((build fiveFiveTwelve).constructId 0 1024) =
      ⟨0, 0, 1, 0, "snowflake", ""⟩ ∧
    ¬ ParseUndoes fiveFiveTwelve.algorithm.snowflake := by
  refine ⟨by decide +kernel, ⟨by decide, by decide⟩, rfl, fun h => ?_⟩
  have hp := h (build fiveFiveTwelve) rfl ⟨by decide, by decide⟩ 0 1024 ⟨by decide, by decide⟩
  exact absurd hp.sequence (by decide)

end Config

end NebulaId
