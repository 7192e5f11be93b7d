import Mathlib.Algebra.Order.Ring.Nat
import NebulaId.Server.ClientIp
import NebulaId.Types.Readers

/-!
# Addresses in texts, and blocks of addresses

`IpAddr::from_str` reads four decimal octets, or groups of hexadecimal digits with a run of zeros
left out and the last two groups as octets or not. `is_blocked_ip` of `core/monitoring/core.rs`
goes by octets and segments; a block of addresses is a range of numbers.

* `fromStr_displayV4`: a dotted address is read back.
* `fromStr_eq_none`: a text with any other character is no address.
* `isBlockedIp_v4_iff`: an IPv4 address is blocked exactly when it lies in one of the blocks that
  `is_blocked_ip` names.
-/

namespace NebulaId

open Readers

namespace IpAddr

/-! ## Reading an address -/

/-- `char::to_digit` -/
def toDigit (radix : ℕ) (c : Char) : Option ℕ :=
  let value :=
    if c.isDigit then c.toNat - 48
    else if 'a' ≤ c ∧ c ≤ 'f' then c.toNat - 87
    else if 'A' ≤ c ∧ c ≤ 'F' then c.toNat - 55
    else radix
  if value < radix then some value else none

def isDigitOf (radix : ℕ) (c : Char) : Bool := (toDigit radix c).isSome

/-- `read_number`: no more digits than `maxDigits`. -/
def readNumber (radix maxDigits : ℕ) (allowZeroPrefix : Bool) (bound : ℕ) : Reader Char ℕ :=
  fun cs =>
    let digits := cs.takeWhile (isDigitOf radix)
    let value := digits.foldl (fun n c => n * radix + (toDigit radix c).getD 0) 0
    if digits.length = 0 ∨ maxDigits < digits.length ∨ bound ≤ value ∨
        (allowZeroPrefix = false ∧ digits.head? = some '0' ∧ 1 < digits.length) then none
    else some (value, cs.dropWhile (isDigitOf radix))

def readSeparator {α : Type} (sep : Char) (index : ℕ) (r : Reader Char α) : Reader Char α :=
  if 0 < index then (Reader.given sep).bind fun _ => r else r

def readOctet : Reader Char UInt8 := (readNumber 10 3 false 256).map UInt8.ofNat

def readGroup : Reader Char UInt16 := (readNumber 16 4 true 65536).map UInt16.ofNat

def readIpv4Addr : Reader Char (UInt8 × UInt8 × UInt8 × UInt8) :=
  (readSeparator '.' 0 readOctet).bind fun a =>
    (readSeparator '.' 1 readOctet).bind fun b =>
      (readSeparator '.' 2 readOctet).bind fun c =>
        (readSeparator '.' 3 readOctet).map fun d => (a, b, c, d)

def bigEndian (high low : UInt8) : UInt16 := high.toUInt16 <<< 8 ||| low.toUInt16

/-- Two groups as the octets of an IPv4 address; there must be room for both. -/
def readEmbedded (index left : ℕ) : Reader Char (List UInt16 × Bool) :=
  if 0 < left then (readSeparator ':' index readIpv4Addr).map fun (a, b, c, d) =>
    ([bigEndian a b, bigEndian c d], true)
  else fun _ => none

/-- `read_groups`: as many groups as there are, and whether an IPv4 address ends them. -/
def readGroups : ℕ → ℕ → Reader Char (List UInt16 × Bool)
  | _, 0 => Reader.pure ([], false)
  | index, left + 1 =>
    ((readEmbedded index left).orElse
      ((readSeparator ':' index readGroup).bind fun group =>
        (readGroups (index + 1) left).map fun (groups, ipv4) => (group :: groups, ipv4))).orElse
      (Reader.pure ([], false))

def readIpv6Addr : Reader Char (List UInt16) :=
  (readGroups 0 8).bind fun (head, headIpv4) =>
    if head.length = 8 then Reader.pure head
    else if headIpv4 then fun _ => none
    else
      (Reader.given ':').bind fun _ => (Reader.given ':').bind fun _ =>
        (readGroups 0 (8 - (head.length + 1))).map fun (tail, _) =>
          head ++ List.replicate (8 - head.length - tail.length) 0 ++ tail

def ofSegments (segments : List UInt16) : IpAddr := .v6 (Vector.ofFn fun i => segments.getD i 0)

def readIpAddr : Reader Char IpAddr :=
  (readIpv4Addr.map fun (a, b, c, d) => IpAddr.v4 a b c d).orElse (readIpv6Addr.map ofSegments)

/-- `IpAddr::from_str` -/
def fromStr (cs : List Char) : Option IpAddr := readIpAddr.whole cs

example : fromStr "10.0.0.1".toList = some (.v4 10 0 0 1) ∧ fromStr "10.0.0.01".toList = none ∧
    fromStr "::1".toList = some (.v6 #v[0, 0, 0, 0, 0, 0, 0, 1]) ∧
    fromStr "::ffff:10.0.0.1".toList = some (.v6 #v[0, 0, 0, 0, 0, 0xffff, 0x0a00, 1]) ∧
    fromStr "fe80::1:2:3:4:5:6:7".toList = none := by decide +kernel

/-! ## The characters of an address -/

/-- A hexadecimal digit, a point or a colon. -/
def IsPart (c : Char) : Prop := isDigitOf 16 c = true ∨ c = '.' ∨ c = ':'

instance (c : Char) : Decidable (IsPart c) := inferInstanceAs (Decidable (_ ∨ _))

theorem isDigitOf_mono {radix : ℕ} (h : radix ≤ 16) {c : Char} (hc : isDigitOf radix c = true) :
    isDigitOf 16 c = true := by
  unfold isDigitOf toDigit at hc ⊢
  simp only [Option.isSome_ite] at hc ⊢
  split_ifs at hc ⊢ <;> omega

theorem reads_readNumber {radix : ℕ} (h : radix ≤ 16) (maxDigits : ℕ) (allowZeroPrefix : Bool)
    (bound : ℕ) : Reads IsPart (readNumber radix maxDigits allowZeroPrefix bound) := by
  intro cs n rest hread
  unfold readNumber at hread
  dsimp only at hread
  split at hread
  · cases hread
  · cases hread
    refine ⟨_, List.takeWhile_append_dropWhile.symm, fun c hc => ?_⟩
    exact .inl (isDigitOf_mono h (List.mem_takeWhile_imp hc))

theorem reads_readSeparator {α : Type} {sep : Char} (hsep : IsPart sep) (index : ℕ)
    {r : Reader Char α} (hr : Reads IsPart r) : Reads IsPart (readSeparator sep index r) := by
  unfold readSeparator
  split
  · exact (Reads.given hsep).bind fun _ => hr
  · exact hr

theorem reads_fail {α : Type} : Reads IsPart (fun _ => none : Reader Char α) := by
  intro cs a rest h
  cases h

theorem isPart_point : IsPart '.' := .inr (.inl rfl)

theorem isPart_colon : IsPart ':' := .inr (.inr rfl)

theorem reads_readOctet : Reads IsPart readOctet :=
  (reads_readNumber (by decide) 3 false 256).map UInt8.ofNat

theorem reads_readGroup : Reads IsPart readGroup :=
  (reads_readNumber (by decide) 4 true 65536).map UInt16.ofNat

theorem reads_readIpv4Addr : Reads IsPart readIpv4Addr := by
  have hoctet : ∀ index, Reads IsPart (readSeparator '.' index readOctet) := fun index =>
    reads_readSeparator isPart_point index reads_readOctet
  apply (hoctet 0).bind
  intro a
  apply (hoctet 1).bind
  intro b
  apply (hoctet 2).bind
  intro c
  exact (hoctet 3).map _

theorem reads_readEmbedded (index left : ℕ) : Reads IsPart (readEmbedded index left) := by
  unfold readEmbedded
  split
  · exact (reads_readSeparator isPart_colon index reads_readIpv4Addr).map _
  · exact reads_fail

theorem reads_readGroups (index left : ℕ) : Reads IsPart (readGroups index left) := by
  induction left generalizing index with
  | zero => exact Reads.pure _
  | succ left ih =>
    apply Reads.orElse _ (Reads.pure _)
    apply (reads_readEmbedded index left).orElse
    apply (reads_readSeparator isPart_colon index reads_readGroup).bind
    exact fun group => (ih (index + 1)).map _

theorem reads_readIpv6Addr : Reads IsPart readIpv6Addr := by
  apply (reads_readGroups 0 8).bind
  rintro ⟨head, headIpv4⟩
  dsimp only
  split
  · exact Reads.pure _
  · split
    · exact reads_fail
    · apply (Reads.given isPart_colon).bind
      intro _
      apply (Reads.given isPart_colon).bind
      exact fun _ => (reads_readGroups 0 _).map _

theorem reads_readIpAddr : Reads IsPart readIpAddr :=
  (reads_readIpv4Addr.map _).orElse (reads_readIpv6Addr.map _)

/-- A text with any other character is no address. -/
theorem fromStr_eq_none {cs : List Char} {c : Char} (hc : c ∈ cs) (hpart : ¬ IsPart c) :
    fromStr cs = none := reads_readIpAddr.whole_eq_none hc hpart

/-! ## A dotted address -/

/-- The decimal digits of an octet, as `read_number` looks at them. -/
theorem decimal_octet (n : UInt8) : (∀ c ∈ decimal n, isDigitOf 10 c = true) ∧
    (decimal n).length ≠ 0 ∧ (decimal n).length ≤ 3 ∧
    ((decimal n).head? = some '0' → (decimal n).length ≤ 1) ∧
    (decimal n).foldl (fun n c => n * 10 + (toDigit 10 c).getD 0) 0 = n.toNat := by
  have hall : ∀ m < 256, (Nat.toDigits 10 m).all (isDigitOf 10) = true ∧
      (Nat.toDigits 10 m).length ≠ 0 ∧ (Nat.toDigits 10 m).length ≤ 3 ∧
      ((Nat.toDigits 10 m).head? = some '0' → (Nat.toDigits 10 m).length ≤ 1) ∧
      (Nat.toDigits 10 m).foldl (fun n c => n * 10 + (toDigit 10 c).getD 0) 0 = m := by
    decide +kernel
  obtain ⟨hdigits, hrest⟩ := hall n.toNat n.toNat_lt
  exact ⟨List.all_eq_true.mp hdigits, hrest⟩

theorem readOctet_decimal (n : UInt8) {rest : List Char}
    (hrest : ∀ c ∈ rest.head?, isDigitOf 10 c = false) :
    readOctet (decimal n ++ rest) = some (n, rest) := by
  obtain ⟨hdigits, hne, hlength, hzero, hvalue⟩ := decimal_octet n
  have htake : (decimal n ++ rest).takeWhile (isDigitOf 10) = decimal n := by
    rw [List.takeWhile_append_of_pos hdigits]
    cases rest with
    | nil => exact List.append_nil _
    | cons c rest =>
      rw [List.takeWhile_cons_of_neg, List.append_nil]
      rw [hrest c rfl]
      exact Bool.false_ne_true
  have hdrop : (decimal n ++ rest).dropWhile (isDigitOf 10) = rest := by
    rw [List.dropWhile_append_of_pos hdigits]
    cases rest with
    | nil => rfl
    | cons c rest =>
      rw [List.dropWhile_cons_of_neg]
      rw [hrest c rfl]
      exact Bool.false_ne_true
  have hnumber : readNumber 10 3 false 256 (decimal n ++ rest) = some (n.toNat, rest) := by
    unfold readNumber
    dsimp only
    rw [htake, hdrop, hvalue, if_neg]
    rintro (h | h | h | ⟨-, h, hlong⟩)
    · exact hne h
    · omega
    · exact absurd n.toNat_lt (by omega)
    · have := hzero h
      omega
  rw [readOctet, Reader.map, Reader.bind_of_some hnumber, Reader.pure, UInt8.ofNat_toNat]

/-- A dotted address is read back. -/
theorem fromStr_displayV4 (a b c d : UInt8) : fromStr (displayV4 a b c d) = some (.v4 a b c d) := by
  have hpoint : ∀ rest : List Char, ∀ e ∈ ('.' :: rest).head?, isDigitOf 10 e = false := by
    rintro rest e he
    cases Option.mem_some.mp he
    decide
  have hlater : ∀ (index : ℕ) (n : UInt8) (rest : List Char), 0 < index →
      (∀ e ∈ rest.head?, isDigitOf 10 e = false) →
      readSeparator '.' index readOctet ('.' :: (decimal n ++ rest)) = some (n, rest) := by
    intro index n rest hindex hrest
    rw [readSeparator, if_pos hindex, Reader.bind_of_some (Reader.given_cons '.' _)]
    exact readOctet_decimal n hrest
  have hfirst : readSeparator '.' 0 readOctet = readOctet := if_neg (lt_irrefl 0)
  have hlast : decimal d = decimal d ++ [] := (List.append_nil _).symm
  have hread : readIpv4Addr (displayV4 a b c d) = some ((a, b, c, d), []) := by
    unfold readIpv4Addr displayV4
    rw [hfirst, Reader.bind_of_some (readOctet_decimal a (hpoint _)),
      Reader.bind_of_some (hlater 1 b _ Nat.one_pos (hpoint _)),
      Reader.bind_of_some (hlater 2 c _ (by omega) (hpoint _)), Reader.map, hlast,
      Reader.bind_of_some (hlater 3 d [] (by omega) fun e he => (Option.not_mem_none e he).elim)]
    rfl
  apply Reader.whole_of_nil
  apply Reader.orElse_of_some
  rw [Reader.map, Reader.bind_of_some hread]
  rfl

end IpAddr

/-! ## Blocks of addresses -/

/-- A block of 2 to the `free` addresses. -/
structure Block where
  network : ℕ
  free : ℕ

namespace Block

/-- The addresses that share the bits of the network. -/
def Contains (b : Block) (n : ℕ) : Prop := n / 2 ^ b.free = b.network / 2 ^ b.free

instance (b : Block) (n : ℕ) : Decidable (b.Contains n) := inferInstanceAs (Decidable (_ = _))

/-- A block of IPv4 addresses by its first two octets. -/
def v4 (a b free : ℕ) : Block := ⟨a * 2 ^ 24 + b * 2 ^ 16, free⟩

/-- A block of IPv6 addresses by its first group. -/
def v6 (group free : ℕ) : Block := ⟨group * 2 ^ 112, free⟩

end Block

namespace IpAddr

/-- The address as a number. -/
def number : IpAddr → ℕ
  | .v4 a b c d => ((a.toNat * 256 + b.toNat) * 256 + c.toNat) * 256 + d.toNat
  | .v6 segments => segments.toList.foldl (fun n segment => n * 65536 + segment.toNat) 0

/-- Loopback, private, link-local, unspecified, broadcast and the shared space of carriers. -/
def guardedV4 : List Block :=
  [.v4 127 0 24, .v4 10 0 24, .v4 172 16 20, .v4 192 168 16, .v4 169 254 16, .v4 0 0 0,
    ⟨2 ^ 32 - 1, 0⟩, .v4 100 64 22]

def multicastV4 : Block := .v4 224 0 28

/-- Loopback, unspecified, link-local, multicast and unique-local. -/
def reservedV6 : List Block := [⟨1, 0⟩, ⟨0, 0⟩, .v6 0xfe80 118, .v6 0xff00 120, .v6 0xfc00 121]

/-- The IPv4 address that an IPv6 address stands for. -/
def mappedBlock : Block := ⟨0xffff * 2 ^ 32, 32⟩

def ReservedV4 (n : ℕ) : Prop := ∃ b ∈ multicastV4 :: guardedV4, b.Contains n

/-- No webhook should go there. -/
def Reserved : IpAddr → Prop
  | .v4 a b c d => ReservedV4 (number (.v4 a b c d))
  | .v6 segments => (∃ b ∈ reservedV6, b.Contains (number (.v6 segments))) ∨
    (mappedBlock.Contains (number (.v6 segments)) ∧ ReservedV4 (number (.v6 segments) % 2 ^ 32))

instance (n : ℕ) : Decidable (ReservedV4 n) := inferInstanceAs (Decidable (∃ b ∈ _, _))

instance (ip : IpAddr) : Decidable ip.Reserved := by
  cases ip with
  | v4 a b c d => exact inferInstanceAs (Decidable (ReservedV4 _))
  | v6 segments => exact inferInstanceAs (Decidable ((∃ b ∈ _, _) ∨ _))

/-- `is_blocked_ip` -/
def isBlockedIp : IpAddr → Bool
  | .v4 a b c d =>
    a == 127 || (a == 10 || (a == 172 && decide (16 ≤ b) && decide (b ≤ 31)) ||
      (a == 192 && b == 168)) || (a == 169 && b == 254) ||
      (a == 0 && b == 0 && c == 0 && d == 0) ||
      (a == 255 && b == 255 && c == 255 && d == 255) || (a == 100 && (b &&& 0xc0) == 64)
  | .v6 segments =>
    segments == #v[0, 0, 0, 0, 0, 0, 0, 1] || segments == #v[0, 0, 0, 0, 0, 0, 0, 0] ||
      (segments[0] &&& 0xff00) == 0xff00 || ((segments[0] >>> 8).toUInt8 &&& 0xfe) == 0xfc

theorem and_c0_iff (b : UInt8) : (b &&& 0xc0) = 64 ↔ 64 ≤ b.toNat ∧ b.toNat < 128 := by
  have hall : ∀ m < 256, ((UInt8.ofNat m &&& 0xc0) = 64 ↔ 64 ≤ m ∧ m < 128) := by decide +kernel
  have h := hall b.toNat b.toNat_lt
  rwa [UInt8.ofNat_toNat] at h

section Octets

variable (a b c d : UInt8)

theorem contains_first (x : ℕ) :
    (Block.v4 x 0 24).Contains (number (.v4 a b c d)) ↔ a.toNat = x := by
  have hb := b.toNat_lt
  have hc := c.toNat_lt
  have hd := d.toNat_lt
  simp only [Block.Contains, Block.v4, number]
  omega

theorem contains_second {y : ℕ} (hy : y < 256) (x : ℕ) :
    (Block.v4 x y 16).Contains (number (.v4 a b c d)) ↔ a.toNat = x ∧ b.toNat = y := by
  have hb := b.toNat_lt
  have hc := c.toNat_lt
  have hd := d.toNat_lt
  simp only [Block.Contains, Block.v4, number]
  omega

theorem contains_private : (Block.v4 172 16 20).Contains (number (.v4 a b c d)) ↔
    a.toNat = 172 ∧ 16 ≤ b.toNat ∧ b.toNat ≤ 31 := by
  have hb := b.toNat_lt
  have hc := c.toNat_lt
  have hd := d.toNat_lt
  simp only [Block.Contains, Block.v4, number]
  omega

theorem contains_shared : (Block.v4 100 64 22).Contains (number (.v4 a b c d)) ↔
    a.toNat = 100 ∧ 64 ≤ b.toNat ∧ b.toNat < 128 := by
  have hb := b.toNat_lt
  have hc := c.toNat_lt
  have hd := d.toNat_lt
  simp only [Block.Contains, Block.v4, number]
  omega

theorem contains_unspecified : (Block.v4 0 0 0).Contains (number (.v4 a b c d)) ↔
    a.toNat = 0 ∧ b.toNat = 0 ∧ c.toNat = 0 ∧ d.toNat = 0 := by
  simp only [Block.Contains, Block.v4, number]
  omega

theorem contains_broadcast : (Block.mk (2 ^ 32 - 1) 0).Contains (number (.v4 a b c d)) ↔
    a.toNat = 255 ∧ b.toNat = 255 ∧ c.toNat = 255 ∧ d.toNat = 255 := by
  have ha := a.toNat_lt
  have hb := b.toNat_lt
  have hc := c.toNat_lt
  have hd := d.toNat_lt
  simp only [Block.Contains, number]
  omega

/-- An IPv4 address is blocked exactly when it lies in one of the blocks. -/
theorem isBlockedIp_v4_iff : isBlockedIp (.v4 a b c d) = true ↔
    ∃ block ∈ guardedV4, block.Contains (number (.v4 a b c d)) := by
  simp only [guardedV4, List.mem_cons, List.not_mem_nil, or_false, exists_eq_or_imp,
    exists_eq_left, contains_first, contains_second a b c d (show 168 < 256 by decide),
    contains_second a b c d (show 254 < 256 by decide), contains_private, contains_shared,
    contains_unspecified, contains_broadcast]
  simp only [isBlockedIp, Bool.or_eq_true, Bool.and_eq_true, beq_iff_eq, decide_eq_true_iff,
    and_c0_iff]
  simp only [← UInt8.toNat_inj, UInt8.le_iff_toNat_le, UInt8.reduceToNat, or_assoc, and_assoc]

end Octets

end IpAddr

end NebulaId
