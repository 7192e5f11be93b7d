import NebulaId.Monitoring.Addresses

/-!
# The text of an address is read back (`core/monitoring/core.rs`, `server/audit/logger.rs`)

The standard library writes an IPv6 address with its longest zeros left out, or with a dotted end.

* `readGroups_text`: groups that are over, or are followed by two colons, are read as they are.
* `zeroAt_longestZeros`: what is left out are zeros.
* `fromStr_display`: every address is what its text is parsed to.
* `decimal_append_inj`, `hex_append_inj`: the first part of a text is told by the text.
-/

namespace NebulaId

open Readers

namespace IpAddr

variable {index left : ℕ} {cs rest : List Char} {segments tail : List UInt16}

/-! ## A segment is read back -/

theorem toDigit_digitChar : ∀ d < 16, toDigit 16 (Nat.digitChar d) = some d := by decide

/-- What hexadecimal digits stand for. -/
def value (cs : List Char) : ℕ := cs.foldl (fun n c => n * 16 + (toDigit 16 c).getD 0) 0

theorem value_hexDigits (k n : ℕ) : value (Id.hexDigits k n) = n % 16 ^ k := by
  induction k generalizing n with
  | zero => simp [value, Id.hexDigits, Nat.mod_one]
  | succ k ih =>
    have hdigit := toDigit_digitChar (n % 16) (Nat.mod_lt _ (by omega))
    unfold value at ih ⊢
    rw [Id.hexDigits, List.foldl_append, ih, List.foldl_cons, List.foldl_nil, hdigit,
      Option.getD_some, pow_succ', Nat.mod_mul, Nat.add_comm, Nat.mul_comm]

/-- Leading zeros do not count. -/
theorem value_dropWhile (cs : List Char) : value (cs.dropWhile (· = '0')) = value cs := by
  induction cs with
  | nil => rfl
  | cons c cs ih =>
    by_cases hc : c = '0'
    · subst hc
      rw [List.dropWhile_cons_of_pos (by decide), ih]
      rfl
    · rw [List.dropWhile_cons_of_neg (by simpa using hc)]

theorem isDigitOf_hexDigits (k n : ℕ) : ∀ c ∈ Id.hexDigits k n, isDigitOf 16 c = true := by
  induction k generalizing n with
  | zero => simp [Id.hexDigits]
  | succ k ih =>
    intro c hc
    rcases List.mem_append.mp hc with hc | hc
    · exact ih _ c hc
    · rw [List.mem_singleton.mp hc, isDigitOf, toDigit_digitChar _ (Nat.mod_lt _ (by omega))]
      rfl

/-- The digits of a segment, as `read_number` looks at them. -/
theorem hex_digits (n : UInt16) : (∀ c ∈ hex n, isDigitOf 16 c = true) ∧
    (hex n).length ≠ 0 ∧ (hex n).length ≤ 4 ∧ value (hex n) = n.toNat := by
  have hvalue : value ((Id.hexDigits 4 n.toNat).dropWhile (· = '0')) = n.toNat := by
    rw [value_dropWhile, value_hexDigits]
    exact Nat.mod_eq_of_lt n.toNat_lt
  unfold hex
  split
  · rename_i hnil
    rw [hnil] at hvalue
    have hzero : isDigitOf 16 '0' = true := rfl
    refine ⟨fun c hc => ?_, Nat.one_ne_zero, Nat.le_of_ble_eq_true rfl, ?_⟩
    · rwa [List.mem_singleton.mp hc]
    · rw [← hvalue]
      rfl
  · rename_i hne
    have hsub : ((Id.hexDigits 4 n.toNat).dropWhile (· = '0')).Sublist (Id.hexDigits 4 n.toNat) :=
      List.dropWhile_sublist _
    refine ⟨fun c hc => isDigitOf_hexDigits 4 n.toNat c (hsub.subset hc), ?_, ?_, hvalue⟩
    · exact fun h => hne (List.length_eq_zero_iff.mp h)
    · have hfour : (Id.hexDigits 4 n.toNat).length = 4 := rfl
      exact hfour ▸ hsub.length_le

theorem span_append {p : Char → Bool} {digits : List Char} (rest : List Char)
    (hdigits : ∀ c ∈ digits, p c = true)
    (hrest : ∀ c ∈ rest.head?, p c = false) :
    (digits ++ rest).takeWhile p = digits ∧ (digits ++ rest).dropWhile p = rest := by
  rw [List.takeWhile_append_of_pos hdigits, List.dropWhile_append_of_pos hdigits]
  cases rest with
  | nil => simp
  | cons c rest =>
    have hc : ¬ p c = true := by simp [hrest c rfl]
    rw [List.takeWhile_cons_of_neg hc, List.dropWhile_cons_of_neg hc]
    simp

theorem readGroup_hex (n : UInt16) (hrest : ∀ c ∈ rest.head?, isDigitOf 16 c = false) :
    readGroup (hex n ++ rest) = some (n, rest) := by
  obtain ⟨hdigits, hne, hlength, hvalue⟩ := hex_digits n
  obtain ⟨htake, hdrop⟩ := span_append rest hdigits hrest
  have hnumber : readNumber 16 4 true 65536 (hex n ++ rest) = some (n.toNat, rest) := by
    unfold readNumber
    unfold value at hvalue
    dsimp only
    rw [htake, hdrop, hvalue, if_neg]
    rintro (h | h | h | ⟨h, -⟩)
    · exact hne h
    · omega
    · exact absurd n.toNat_lt (by omega)
    · cases h
  rw [readGroup, Reader.map, Reader.bind_of_some hnumber, Reader.pure, UInt16.ofNat_toNat]

/-! ## No dotted address -/

/-- After the decimal digits comes no point. -/
theorem readIpv4Addr_eq_none (h : ∀ c ∈ (cs.dropWhile (isDigitOf 10)).head?, c ≠ '.') :
    readIpv4Addr cs = none := by
  have hpoint : Reader.given '.' (cs.dropWhile (isDigitOf 10)) = none := by
    cases hcs : cs.dropWhile (isDigitOf 10) with
    | nil => rfl
    | cons c rest =>
      rw [hcs] at h
      rw [Reader.given, if_neg (h c rfl)]
  have hfirst : readSeparator '.' 0 readOctet = readOctet := if_neg (lt_irrefl 0)
  cases ho : readOctet cs with
  | none =>
    unfold readIpv4Addr
    rw [hfirst, Reader.bind, ho]
    rfl
  | some x =>
    obtain ⟨a, rest⟩ := x
    have hrest : rest = cs.dropWhile (isDigitOf 10) := by
      unfold readOctet Reader.map Reader.bind readNumber at ho
      dsimp only at ho
      split at ho
      · cases ho
      · cases ho
        rfl
    unfold readIpv4Addr
    rw [hfirst, Reader.bind_of_some ho, hrest, readSeparator, if_pos Nat.one_pos]
    simp only [Reader.bind, hpoint, Option.bind_none]

/-- The text is over, or a colon follows. -/
def AtColon (rest : List Char) : Prop := ∀ c ∈ rest.head?, c = ':'

theorem AtColon.not_digit (h : AtColon rest) {radix : ℕ} (hradix : radix ≤ 16) :
    ∀ c ∈ rest.head?, isDigitOf radix c = false := by
  intro c hc
  rw [h c hc]
  have hcolon : isDigitOf 16 ':' = false := by decide
  by_contra hdigit
  rw [isDigitOf_mono hradix (by simpa using hdigit)] at hcolon
  cases hcolon

theorem AtColon.dropWhile (h : AtColon rest) : rest.dropWhile (isDigitOf 10) = rest := by
  cases rest with
  | nil => rfl
  | cons c rest =>
    have hc := h.not_digit (show 10 ≤ 16 by omega) c rfl
    rw [List.dropWhile_cons_of_neg (by simp [hc])]

theorem readIpv4Addr_hex (n : UInt16) (hrest : AtColon rest) :
    readIpv4Addr (hex n ++ rest) = none := by
  apply readIpv4Addr_eq_none
  intro c hc hpoint
  subst hpoint
  rw [List.dropWhile_append] at hc
  split at hc
  · rw [hrest.dropWhile] at hc
    exact absurd (hrest _ hc) (by decide)
  · rename_i hne
    rw [List.head?_append] at hc
    have hmem : '.' ∈ (hex n).dropWhile (isDigitOf 10) := by
      cases hd : (hex n).dropWhile (isDigitOf 10) with
      | nil => simp [hd] at hne
      | cons d ds =>
        rw [hd] at hc
        simp at hc
        simp [hc]
    have := (hex_digits n).1 _ ((List.dropWhile_sublist _).subset hmem)
    revert this
    decide

theorem readIpv4Addr_atColon (hrest : AtColon rest) : readIpv4Addr rest = none := by
  apply readIpv4Addr_eq_none
  rw [hrest.dropWhile]
  intro c hc hpoint
  rw [hrest c hc] at hpoint
  cases hpoint

theorem readGroup_atColon (hrest : AtColon rest) : readGroup rest = none := by
  have htake : rest.takeWhile (isDigitOf 16) = [] := by
    cases rest with
    | nil => rfl
    | cons c rest =>
      rw [List.takeWhile_cons_of_neg]
      simp [hrest.not_digit le_rfl c rfl]
  have hnumber : readNumber 16 4 true 65536 rest = none := by
    unfold readNumber
    dsimp only
    rw [htake]
    exact if_pos (Or.inl rfl)
  rw [readGroup, Reader.map, Reader.bind, hnumber]
  rfl

/-! ## Groups are read back -/

theorem readSeparator_cons (hindex : 0 < index) {α : Type} (r : Reader Char α) :
    readSeparator ':' index r (':' :: cs) = r cs := by
  rw [readSeparator, if_pos hindex, Reader.bind_of_some (Reader.given_cons ':' cs)]

/-- The text is over, or two colons follow. -/
def Ends (rest : List Char) : Prop := rest = [] ∨ ∃ more, rest = ':' :: ':' :: more

theorem Ends.atColon (h : Ends rest) : AtColon rest := by
  rcases h with rfl | ⟨more, rfl⟩ <;> simp [AtColon]

/-- What fails at a colon fails where the groups end. -/
theorem readSeparator_ends (h : Ends rest) {α : Type} {r : Reader Char α}
    (hr : ∀ rest, AtColon rest → r rest = none) : readSeparator ':' index r rest = none := by
  unfold readSeparator
  split
  · rcases h with rfl | ⟨more, rfl⟩
    · rfl
    · rw [Reader.bind_of_some (Reader.given_cons ':' _)]
      exact hr _ (by simp [AtColon])
  · exact hr _ h.atColon

/-- The groups from the given place on, with the separator in front. -/
def groupsText (index : ℕ) (segments : List UInt16) : List Char :=
  if 0 < index ∧ segments ≠ [] then ':' :: fmtSubslice segments else fmtSubslice segments

theorem groupsText_cons (segment : UInt16) (tail : List UInt16) :
    groupsText index (segment :: tail) =
      (if 0 < index then [':'] else []) ++ (hex segment ++ groupsText (index + 1) tail) := by
  cases tail with
  | nil => unfold groupsText; split <;> simp_all [fmtSubslice]
  | cons next tail => unfold groupsText; split <;> simp_all [fmtSubslice]

theorem atColon_groupsText (hindex : 0 < index) (h : Ends rest) :
    AtColon (groupsText index segments ++ rest) := by
  unfold groupsText
  split
  · simp [AtColon]
  · rename_i hnil
    have : segments = [] := by
      by_contra hne
      exact hnil ⟨hindex, hne⟩
    subst this
    exact h.atColon

theorem readSeparator_text {α : Type} (r : Reader Char α) (cs : List Char) :
    readSeparator ':' index r ((if 0 < index then [':'] else []) ++ cs) = r cs := by
  by_cases hindex : 0 < index
  · rw [if_pos hindex]
    exact readSeparator_cons hindex r
  · rw [if_neg hindex, readSeparator, if_neg hindex]
    rfl

theorem readEmbedded_eq_none (h : readSeparator ':' index readIpv4Addr cs = none) :
    readEmbedded index left cs = none := by
  unfold readEmbedded
  split
  · rw [Reader.map, Reader.bind, h]
    rfl
  · rfl

/-- Groups that end are read, with or without room for more. -/
theorem readGroups_text (index left : ℕ) (segments : List UInt16) (h : Ends rest)
    (hroom : segments.length ≤ left) :
    readGroups index left (groupsText index segments ++ rest) = some ((segments, false), rest) := by
  induction segments generalizing index left with
  | nil =>
    have htext : groupsText index [] ++ rest = rest := by simp [groupsText, fmtSubslice]
    rw [htext]
    cases left with
    | zero => rfl
    | succ left =>
      have hembedded : readEmbedded index left rest = none :=
        readEmbedded_eq_none (readSeparator_ends h fun _ => readIpv4Addr_atColon)
      have hgroup : readSeparator ':' index readGroup rest = none :=
        readSeparator_ends h fun _ => readGroup_atColon
      unfold readGroups Reader.orElse
      dsimp only
      rw [hembedded, Reader.bind, hgroup]
      rfl
  | cons segment tail ih =>
    cases left with
    | zero => simp at hroom
    | succ left =>
      have hcolon : AtColon (groupsText (index + 1) tail ++ rest) :=
        atColon_groupsText (Nat.succ_pos index) h
      have hembedded : readEmbedded index left ((if 0 < index then [':'] else []) ++
          (hex segment ++ (groupsText (index + 1) tail ++ rest))) = none := by
        apply readEmbedded_eq_none
        rw [readSeparator_text, readIpv4Addr_hex segment hcolon]
      have hgroup : readSeparator ':' index readGroup ((if 0 < index then [':'] else []) ++
          (hex segment ++ (groupsText (index + 1) tail ++ rest))) =
            some (segment, groupsText (index + 1) tail ++ rest) := by
        rw [readSeparator_text, readGroup_hex segment (hcolon.not_digit le_rfl)]
      have htail := ih (index + 1) left (by simpa using hroom)
      rw [groupsText_cons, List.append_assoc, List.append_assoc]
      unfold readGroups Reader.orElse
      dsimp only
      rw [hembedded, Reader.bind_of_some hgroup, Reader.map, Reader.bind_of_some htail]
      rfl

/-! ## The longest zeros -/

/-- The span lies within the segments, and they are zero there. -/
def ZeroAt (segments : List UInt16) (span : Span) : Prop :=
  ∀ k < span.len, segments[span.start + k]? = some 0

/-- The run of zeros ends at the given place. -/
def EndsAt (index : ℕ) (span : Span) : Prop := span.len ≠ 0 → span.start + span.len = index

/-- The run with one more zero, or a new one. -/
def Span.extend (index : ℕ) (span : Span) : Span :=
  ⟨if span.len = 0 then index else span.start, span.len + 1⟩

theorem endsAt_extend {span : Span} (hend : EndsAt index span) :
    EndsAt (index + 1) (span.extend index) := by
  intro _
  unfold Span.extend
  dsimp only
  split
  · omega
  · have := hend ‹_›
    omega

theorem zeroAt_extend {span : Span} (h : ZeroAt segments span) (hend : EndsAt index span)
    (hzero : segments[index]? = some 0) : ZeroAt segments (span.extend index) := by
  intro k hk
  have hlast := endsAt_extend hend (Nat.succ_ne_zero span.len)
  unfold Span.extend at hk hlast ⊢
  dsimp only at hk hlast ⊢
  by_cases hk' : k = span.len
  · have hplace : (if span.len = 0 then index else span.start) + k = index := by omega
    rw [hplace, hzero]
  · rw [if_neg (by omega)]
    exact h k (by omega)

/-- The fold keeps the current run, which ends where it has come, and the longest one. -/
theorem longestZeros_fold (done todo : List UInt16) (current longest : Span)
    (hcurrent : ZeroAt (done ++ todo) current) (hend : EndsAt done.length current)
    (hlongest : ZeroAt (done ++ todo) longest) :
    ZeroAt (done ++ todo) ((todo.zipIdx done.length).foldl (fun (current, longest) (segment, i) =>
      if segment = 0 then
        let current := ⟨if current.len = 0 then i else current.start, current.len + 1⟩
        (current, if current.len > longest.len then current else longest)
      else (⟨0, 0⟩, longest)) (current, longest)).2 := by
  induction todo generalizing done current longest with
  | nil => exact hlongest
  | cons segment todo ih =>
    have hassoc : done ++ segment :: todo = (done ++ [segment]) ++ todo := by simp
    have hlength : (done ++ [segment]).length = done.length + 1 := by simp
    rw [List.zipIdx_cons, List.foldl_cons, hassoc, ← hlength]
    rw [hassoc] at hcurrent hlongest
    dsimp only
    split
    · rename_i hzero
      have hnext := zeroAt_extend hcurrent hend (by simp [hzero])
      refine ih (done ++ [segment]) (current.extend done.length) _ hnext ?_ ?_
      · rw [hlength]
        exact endsAt_extend hend
      · split
        · exact hnext
        · exact hlongest
    · exact ih (done ++ [segment]) ⟨0, 0⟩ longest (fun k hk => absurd hk (Nat.not_lt_zero k))
        (fun h => absurd rfl h) hlongest

theorem zeroAt_longestZeros (segments : List UInt16) : ZeroAt segments (longestZeros segments) :=
  longestZeros_fold [] segments ⟨0, 0⟩ ⟨0, 0⟩ (fun k hk => absurd hk (Nat.not_lt_zero k))
    (fun h => absurd rfl h) (fun k hk => absurd hk (Nat.not_lt_zero k))

/-- Zeros in the middle can be left out and put back. -/
theorem ZeroAt.split {span : Span} (h : ZeroAt segments span) (hlen : span.len ≠ 0) :
    segments = segments.take span.start ++ List.replicate span.len 0 ++
      segments.drop (span.start + span.len) ∧ span.start + span.len ≤ segments.length := by
  have hbound : span.start + span.len ≤ segments.length := by
    have hlast := h (span.len - 1) (by omega)
    have := (List.getElem?_eq_some_iff.mp hlast).1
    omega
  have hmiddle : (segments.drop span.start).take span.len = List.replicate span.len 0 := by
    apply List.ext_getElem?
    intro k
    by_cases hk : k < span.len
    · rw [List.getElem?_take_of_lt hk, List.getElem?_drop, h k hk, List.getElem?_replicate,
        if_pos hk]
    · rw [List.getElem?_eq_none (by simp; omega), List.getElem?_eq_none (by simp; omega)]
  refine ⟨?_, hbound⟩
  rw [← hmiddle, List.append_assoc, ← List.drop_drop, List.take_append_drop,
    List.take_append_drop]

/-! ## The whole address -/

theorem readIpv4Addr_displayV4 (a b c d : UInt8) :
    readIpv4Addr (displayV4 a b c d) = some ((a, b, c, d), []) := by
  have hwhole := Reader.whole_eq_some (fromStr_displayV4 a b c d)
  unfold readIpAddr Reader.orElse at hwhole
  rcases Option.or_eq_some_iff.mp hwhole with h | ⟨-, h⟩
  · obtain ⟨⟨⟨a', b', c', d'⟩, rest⟩, hread, hpure⟩ := Option.bind_eq_some_iff.mp h
    cases hpure
    exact hread
  · obtain ⟨⟨segments, rest⟩, -, hpure⟩ := Option.bind_eq_some_iff.mp h
    cases hpure

theorem bigEndian_bytes (n : UInt16) : bigEndian (n >>> 8).toUInt8 n.toUInt8 = n := by
  have hn := n.toNat_lt
  have hlow : n.toNat % 256 < 2 ^ 8 := Nat.mod_lt _ (by omega)
  have hhigh : (n.toNat / 256 % 256) <<< 8 % 65536 = (n.toNat / 256) <<< 8 := by
    rw [Nat.shiftLeft_eq, Nat.shiftLeft_eq]
    omega
  apply UInt16.toNat_inj.mp
  unfold bigEndian
  simp only [UInt16.toNat_or, UInt16.toNat_shiftLeft, UInt8.toNat_toUInt16, UInt16.toNat_toUInt8,
    UInt16.toNat_shiftRight, Nat.shiftRight_eq_div_pow, UInt16.reduceToNat, Nat.reduceMod,
    Nat.reducePow]
  rw [hhigh, ← Nat.shiftLeft_add_eq_or_of_lt hlow, Nat.shiftLeft_eq]
  omega

theorem ofSegments_toList (segments : Vector UInt16 8) :
    ofSegments segments.toList = .v6 segments := by
  unfold ofSegments
  congr 1
  ext i hi
  simp

/-- An address without a dotted form is the groups that are read. -/
theorem fromStr_of_readIpv6Addr (hfirst : readIpv4Addr cs = none)
    (hread : readIpv6Addr cs = some (segments, [])) :
    fromStr cs = some (ofSegments segments) := by
  apply Reader.whole_of_nil
  unfold readIpAddr Reader.orElse
  rw [Reader.map, Reader.bind, hfirst, Option.bind_none, Option.none_or, Reader.map,
    Reader.bind_of_some hread]
  rfl

/-- Groups, two colons, groups. -/
theorem readIpv6Addr_gap (segments tail : List UInt16)
    (hlength : segments.length + tail.length < 8) :
    readIpv6Addr (groupsText 0 segments ++ ':' :: ':' :: groupsText 0 tail) =
      some (segments ++ List.replicate (8 - segments.length - tail.length) 0 ++ tail, []) := by
  have hhead := readGroups_text 0 8 segments (Or.inr ⟨groupsText 0 tail, rfl⟩) (by omega)
  have htail := readGroups_text 0 (8 - (segments.length + 1)) tail (Or.inl rfl) (by omega)
  rw [List.append_nil] at htail
  unfold readIpv6Addr
  rw [Reader.bind_of_some hhead]
  dsimp only
  rw [if_neg (by omega), if_neg Bool.false_ne_true, Reader.bind_of_some (Reader.given_cons ':' _),
    Reader.bind_of_some (Reader.given_cons ':' _), Reader.map, Reader.bind_of_some htail]
  rfl

/-- All eight groups. -/
theorem readIpv6Addr_full (hlength : segments.length = 8) :
    readIpv6Addr (groupsText 0 segments) = some (segments, []) := by
  have hhead := readGroups_text 0 8 segments (Or.inl rfl) (by omega)
  rw [List.append_nil] at hhead
  unfold readIpv6Addr
  rw [Reader.bind_of_some hhead]
  dsimp only
  rw [if_pos hlength]
  rfl

theorem groupsText_zero (segments : List UInt16) : groupsText 0 segments = fmtSubslice segments :=
  if_neg fun h => absurd h.1 (lt_irrefl 0)

theorem readIpv4Addr_groupsText (segments : List UInt16) (h : Ends rest) :
    readIpv4Addr (groupsText 0 segments ++ rest) = none := by
  cases segments with
  | nil =>
    rw [groupsText_zero]
    exact readIpv4Addr_atColon h.atColon
  | cons segment tail =>
    rw [groupsText_cons, if_neg (lt_irrefl 0), List.nil_append, List.append_assoc]
    exact readIpv4Addr_hex segment (atColon_groupsText Nat.one_pos h)

/-- What is written with a dotted end is read back. -/
theorem readIpv6Addr_mapped (a b c d : UInt8) :
    readIpv6Addr ("::ffff:".toList ++ displayV4 a b c d) =
      some ([0, 0, 0, 0, 0, 0xffff, bigEndian a b, bigEndian c d], []) := by
  have htext : "::ffff:".toList ++ displayV4 a b c d =
      ':' :: ':' :: (hex 0xffff ++ ':' :: displayV4 a b c d) := rfl
  have hends : Ends (':' :: ':' :: (hex 0xffff ++ ':' :: displayV4 a b c d)) := Or.inr ⟨_, rfl⟩
  have hhead := readGroups_text 0 8 [] hends (by simp)
  have hcolon : AtColon (':' :: displayV4 a b c d) := by simp [AtColon]
  have hzero : ∀ {α : Type} (r : Reader Char α), readSeparator ':' 0 r = r :=
    fun r => if_neg (lt_irrefl 0)
  have hfirst : readEmbedded 0 6 (hex 0xffff ++ ':' :: displayV4 a b c d) = none := by
    apply readEmbedded_eq_none
    rw [hzero]
    exact readIpv4Addr_hex 0xffff hcolon
  have hsecond : readEmbedded 1 5 (':' :: displayV4 a b c d) =
      some (([bigEndian a b, bigEndian c d], true), []) := by
    rw [readEmbedded, if_pos (by omega), Reader.map, Reader.bind]
    rw [readSeparator_cons Nat.one_pos, readIpv4Addr_displayV4]
    rfl
  have hgroups : readGroups 1 6 (':' :: displayV4 a b c d) =
      some (([bigEndian a b, bigEndian c d], true), []) := by
    unfold readGroups
    exact Reader.orElse_of_some (Reader.orElse_of_some hsecond)
  have htail : readGroups 0 7 (hex 0xffff ++ ':' :: displayV4 a b c d) =
      some (([0xffff, bigEndian a b, bigEndian c d], true), []) := by
    unfold readGroups Reader.orElse
    dsimp only
    rw [hfirst, hzero, Reader.bind_of_some (readGroup_hex 0xffff (hcolon.not_digit le_rfl)),
      Reader.map, Reader.bind_of_some hgroups]
    rfl
  rw [htext]
  unfold readIpv6Addr
  rw [show ':' :: ':' :: (hex 0xffff ++ ':' :: displayV4 a b c d) =
    groupsText 0 [] ++ ':' :: ':' :: (hex 0xffff ++ ':' :: displayV4 a b c d) from rfl,
    Reader.bind_of_some hhead]
  have hroom : 8 - (([] : List UInt16).length + 1) = 7 := rfl
  dsimp only
  rw [if_neg (by simp), if_neg Bool.false_ne_true, Reader.bind_of_some (Reader.given_cons ':' _),
    Reader.bind_of_some (Reader.given_cons ':' _), hroom, Reader.map, Reader.bind_of_some htail]
  rfl

theorem fromStr_displayV6 (hlength : segments.length = 8) :
    fromStr (displayV6 segments) = some (ofSegments segments) := by
  unfold displayV6
  dsimp only
  split
  · rename_i hmapped
    obtain ⟨x, y, hlast⟩ := List.length_eq_two.mp (show (segments.drop 6).length = 2 by
      rw [List.length_drop, hlength])
    have hsegments : segments = [0, 0, 0, 0, 0, 0xffff, x, y] := by
      rw [← List.take_append_drop 6 segments, hmapped, hlast]
      rfl
    rw [hsegments]
    have hread := readIpv6Addr_mapped (x >>> 8).toUInt8 x.toUInt8 (y >>> 8).toUInt8 y.toUInt8
    rw [bigEndian_bytes, bigEndian_bytes] at hread
    exact fromStr_of_readIpv6Addr (readIpv4Addr_atColon (by simp [AtColon])) hread
  · generalize hspan : longestZeros segments = span
    split
    · rename_i hlong
      have hzero : ZeroAt segments span := hspan ▸ zeroAt_longestZeros segments
      obtain ⟨hsplit, hbound⟩ := hzero.split (by omega)
      have htake : (segments.take span.start).length = span.start := by
        rw [List.length_take]
        omega
      have hdrop : (segments.drop (span.start + span.len)).length =
          8 - (span.start + span.len) := by
        rw [List.length_drop, hlength]
      have hgap : 8 - (segments.take span.start).length -
          (segments.drop (span.start + span.len)).length = span.len := by
        omega
      have hread := readIpv6Addr_gap (segments.take span.start)
        (segments.drop (span.start + span.len)) (by omega)
      have hfirst := readIpv4Addr_groupsText (segments.take span.start)
        (Or.inr ⟨groupsText 0 (segments.drop (span.start + span.len)), rfl⟩)
      rw [hgap, ← hsplit] at hread
      rw [groupsText_zero, groupsText_zero] at hread hfirst
      exact fromStr_of_readIpv6Addr hfirst hread
    · have hread := readIpv6Addr_full hlength
      have hfirst := readIpv4Addr_groupsText segments (Or.inl rfl)
      rw [List.append_nil] at hfirst
      rw [groupsText_zero] at hread hfirst
      exact fromStr_of_readIpv6Addr hfirst hread

/-- **Read back.** Every address is what its text is parsed to. -/
theorem fromStr_display (ip : IpAddr) : fromStr ip.display = some ip := by
  cases ip with
  | v4 a b c d => exact fromStr_displayV4 a b c d
  | v6 segments =>
    have hlength : segments.toList.length = 8 := segments.size_toArray
    rw [display, fromStr_displayV6 hlength, ofSegments_toList]

/-! ## Texts that begin with an address part -/

theorem decimal_append_inj {a b : UInt8} {more : List Char}
    (h : decimal a ++ '.' :: rest = decimal b ++ '.' :: more) : a = b ∧ rest = more := by
  have hpoint : ∀ cs : List Char, ∀ c ∈ ('.' :: cs).head?, isDigitOf 10 c = false := by
    intro cs c hc
    cases Option.mem_some.mp hc
    decide
  have hread := readOctet_decimal a (hpoint rest)
  rw [h, readOctet_decimal b (hpoint more)] at hread
  simp only [Option.some.injEq, Prod.mk.injEq, List.cons.injEq, true_and] at hread
  exact ⟨hread.1.symm, hread.2.symm⟩

theorem atColon_cons (cs : List Char) : AtColon (':' :: cs) := by
  intro c hc
  exact (Option.mem_some.mp hc).symm

theorem hex_append_inj {m n : UInt16} {more : List Char}
    (h : hex m ++ ':' :: rest = hex n ++ ':' :: more) : m = n ∧ rest = more := by
  have hread := readGroup_hex m ((atColon_cons rest).not_digit le_rfl)
  rw [h, readGroup_hex n ((atColon_cons more).not_digit le_rfl)] at hread
  simp only [Option.some.injEq, Prod.mk.injEq, List.cons.injEq, true_and] at hread
  exact ⟨hread.1.symm, hread.2.symm⟩

/-- An octet ends with a point, a segment with a colon. -/
theorem decimal_ne_hex (a : UInt8) (n : UInt16) (more : List Char) :
    decimal a ++ '.' :: rest ≠ hex n ++ ':' :: more := by
  intro h
  have hoctet := span_append ('.' :: rest)
    (fun c hc => isDigitOf_mono (show 10 ≤ 16 by omega) ((decimal_octet a).1 c hc))
    (fun c hc => by cases Option.mem_some.mp hc; decide)
  have hgroup := span_append (':' :: more) (hex_digits n).1
    ((atColon_cons more).not_digit le_rfl)
  have hrest := hoctet.2.symm.trans ((congrArg _ h).trans hgroup.2)
  simp at hrest

/-- Segments, each with a colon after it. -/
def segmentsText (segments : List UInt16) : List Char :=
  segments.flatMap fun segment => hex segment ++ [':']

theorem segmentsText_inj {ending : List Char} (hlength : segments.length = tail.length)
    (h : segmentsText segments ++ ending = segmentsText tail ++ ending) : segments = tail := by
  induction segments generalizing tail with
  | nil => exact (List.length_eq_zero_iff.mp hlength.symm).symm
  | cons segment segments ih =>
    cases tail with
    | nil => cases hlength
    | cons other tail =>
      simp only [segmentsText, List.flatMap_cons, List.append_assoc, List.singleton_append] at h
      obtain ⟨rfl, hrest⟩ := hex_append_inj h
      rw [ih (Nat.succ.inj hlength) hrest]

end IpAddr

end NebulaId
