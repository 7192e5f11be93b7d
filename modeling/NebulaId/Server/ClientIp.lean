import Mathlib.Data.List.DropRight
import Mathlib.Data.List.TakeWhile
import Mathlib.Tactic.Common
import NebulaId.Types.Id

/-!
# The address of the client (`server/middleware/utils.rs`)

`getClientIp` reads the address that the authentication lockout and the rate limiter are keyed
by: the first entry of `X-Forwarded-For`, then `X-Real-IP`, when the peer of the connection
is a trusted proxy, and the peer's own address otherwise. Header values are bytes, and
`to_str` gives up on anything but visible ASCII. Addresses are written as the standard library
writes them.

`forward` is a request that comes through a proxy that appends the address of its own peer,
to the last line or as a line of its own.

* `getClientIp_of_untrusted`: without a trusted proxy the headers do not matter.
* `clientIp_forged`: a client names any address it likes.
* `clientIp_kept_iff`: what the client sent leaves the address alone exactly when it is
  `Harmless`.
-/

namespace NebulaId

/-! ## Addresses as text -/

inductive IpAddr where
  | v4 (a b c d : UInt8)
  | v6 (segments : Vector UInt16 8)
  deriving DecidableEq

namespace IpAddr

def decimal (n : UInt8) : List Char := Nat.toDigits 10 n.toNat

def displayV4 (a b c d : UInt8) : List Char :=
  decimal a ++ '.' :: (decimal b ++ '.' :: (decimal c ++ '.' :: decimal d))

/-- `{:x}` of a segment: no leading zeros. -/
def hex (n : UInt16) : List Char :=
  match (Id.hexDigits 4 n.toNat).dropWhile (· = '0') with
  | [] => ['0']
  | digits => digits

structure Span where
  start : ℕ
  len : ℕ

/-- The first of the longest runs of zeros. -/
def longestZeros (segments : List UInt16) : Span :=
  (segments.zipIdx.foldl (fun (current, longest) (segment, i) =>
    if segment = 0 then
      let current := ⟨if current.len = 0 then i else current.start, current.len + 1⟩
      (current, if current.len > longest.len then current else longest)
    else (⟨0, 0⟩, longest)) ((⟨0, 0⟩, ⟨0, 0⟩) : Span × Span)).2

def fmtSubslice : List UInt16 → List Char
  | [] => []
  | [segment] => hex segment
  | segment :: tail => hex segment ++ ':' :: fmtSubslice tail

/-- `to_ipv4_mapped` -/
def mappedV4 (segments : List UInt16) : List Char :=
  let ab := segments.getD 6 0
  let cd := segments.getD 7 0
  displayV4 (ab >>> 8).toUInt8 ab.toUInt8 (cd >>> 8).toUInt8 cd.toUInt8

def displayV6 (segments : List UInt16) : List Char :=
  let zeros := longestZeros segments
  if segments.take 6 = [0, 0, 0, 0, 0, 0xffff] then "::ffff:".toList ++ mappedV4 segments
  else if zeros.len > 1 then
    fmtSubslice (segments.take zeros.start) ++ ':' :: ':' ::
      fmtSubslice (segments.drop (zeros.start + zeros.len))
  else fmtSubslice segments

def display : IpAddr → List Char
  | .v4 a b c d => displayV4 a b c d
  | .v6 segments => displayV6 segments.toList

/-- What an address is written with: visible characters, no blank and no comma. -/
def AddressChar (c : Char) : Prop := 33 ≤ c.toNat ∧ c.toNat < 127 ∧ c ≠ ','

instance (c : Char) : Decidable (AddressChar c) := inferInstanceAs (Decidable (_ ∧ _))

theorem addressChar_decimal (n : UInt8) : ∀ c ∈ decimal n, AddressChar c := by
  intro c hc
  have hdigit := Nat.isDigit_of_mem_toDigits (by omega) (by omega) hc
  simp only [Char.isDigit, Bool.and_eq_true, decide_eq_true_eq, UInt32.le_iff_toNat_le] at hdigit
  refine ⟨Nat.le_trans (by decide) hdigit.1, Nat.lt_of_le_of_lt hdigit.2 (by decide), ?_⟩
  rintro rfl
  exact absurd hdigit.1 (by decide)

theorem addressChar_displayV4 (a b c d : UInt8) : ∀ x ∈ displayV4 a b c d, AddressChar x := by
  intro x hx
  simp only [displayV4, List.mem_append, List.mem_cons] at hx
  have hdot : AddressChar '.' := by decide
  rcases hx with hx | rfl | hx | rfl | hx | rfl | hx
  · exact addressChar_decimal a x hx
  · exact hdot
  · exact addressChar_decimal b x hx
  · exact hdot
  · exact addressChar_decimal c x hx
  · exact hdot
  · exact addressChar_decimal d x hx

theorem addressChar_hexDigits (k n : ℕ) : ∀ c ∈ Id.hexDigits k n, AddressChar c := by
  have hdigit : ∀ d < 16, AddressChar (Nat.digitChar d) := by decide
  induction k generalizing n with
  | zero => simp [Id.hexDigits]
  | succ k ih =>
    intro c hc
    rcases List.mem_append.mp hc with hc | hc
    · exact ih _ c hc
    · rw [List.mem_singleton.mp hc]
      exact hdigit _ (Nat.mod_lt _ (by omega))

theorem addressChar_hex (n : UInt16) : ∀ c ∈ hex n, AddressChar c := by
  intro c hc
  unfold hex at hc
  split at hc
  · rw [List.mem_singleton.mp hc]
    decide
  · exact addressChar_hexDigits 4 n.toNat c ((List.dropWhile_sublist _).subset hc)

theorem hex_ne_nil (n : UInt16) : hex n ≠ [] := by
  unfold hex
  split
  · simp
  · assumption

theorem addressChar_fmtSubslice (chunk : List UInt16) : ∀ c ∈ fmtSubslice chunk, AddressChar c := by
  induction chunk with
  | nil => simp [fmtSubslice]
  | cons segment tail ih =>
    intro c hc
    cases tail with
    | nil => exact addressChar_hex segment c hc
    | cons next rest =>
      rcases List.mem_append.mp hc with hc | hc
      · exact addressChar_hex segment c hc
      · rcases List.mem_cons.mp hc with rfl | hc
        · decide
        · exact ih c hc

theorem addressChar_displayV6 (segments : List UInt16) :
    ∀ c ∈ displayV6 segments, AddressChar c := by
  have hmapped : ∀ c ∈ "::ffff:".toList, AddressChar c :=
    List.forall_iff_forall_mem.mp (by decide)
  have hcolon : AddressChar ':' := by decide
  unfold displayV6
  dsimp only
  split
  · intro c hc
    rcases List.mem_append.mp hc with hc | hc
    · exact hmapped c hc
    · exact addressChar_displayV4 _ _ _ _ c hc
  · split
    · intro c hc
      rcases List.mem_append.mp hc with hc | hc
      · exact addressChar_fmtSubslice _ c hc
      · rcases List.mem_cons.mp hc with rfl | hc
        · exact hcolon
        · rcases List.mem_cons.mp hc with rfl | hc
          · exact hcolon
          · exact addressChar_fmtSubslice _ c hc
    · exact addressChar_fmtSubslice _

theorem addressChar_display (ip : IpAddr) : ∀ c ∈ ip.display, AddressChar c := by
  cases ip with
  | v4 a b c d => exact addressChar_displayV4 a b c d
  | v6 segments => exact addressChar_displayV6 segments.toList

theorem fmtSubslice_ne_nil {chunk : List UInt16} (h : chunk ≠ []) : fmtSubslice chunk ≠ [] := by
  cases chunk with
  | nil => exact absurd rfl h
  | cons segment tail =>
    cases tail with
    | nil => exact hex_ne_nil segment
    | cons next rest => simp [fmtSubslice]

theorem display_ne_nil (ip : IpAddr) : ip.display ≠ [] := by
  cases ip with
  | v4 a b c d => simp [display, displayV4]
  | v6 segments =>
    have hne : segments.toList ≠ [] := fun hnil => by simpa using congrArg List.length hnil
    simp only [display, displayV6]
    split
    · simp
    · split
      · simp
      · exact fmtSubslice_ne_nil hne

theorem decimal_injective {m n : UInt8} (h : decimal m = decimal n) : m = n := by
  unfold decimal at h
  refine UInt8.toNat_inj.mp ?_
  rw [← Nat.ofDigitChars_ten_toDigits (n := m.toNat), h, Nat.ofDigitChars_ten_toDigits]

theorem dot_notMem_decimal (n : UInt8) : '.' ∉ decimal n := by
  intro hdot
  exact absurd (Nat.isDigit_of_mem_toDigits (by omega) (by omega) hdot) (by decide)

/-- The first dot ends the first number. -/
theorem eq_of_append_dot {xs ys rest rest' : List Char} (hx : '.' ∉ xs) (hy : '.' ∉ ys)
    (h : xs ++ '.' :: rest = ys ++ '.' :: rest') : xs = ys ∧ rest = rest' := by
  induction xs generalizing ys with
  | nil =>
    cases ys with
    | nil => exact ⟨rfl, (List.cons.inj h).2⟩
    | cons y ys => exact absurd ((List.cons.inj h).1 ▸ List.mem_cons_self) hy
  | cons x xs ih =>
    cases ys with
    | nil => exact absurd ((List.cons.inj h).1 ▸ List.mem_cons_self) hx
    | cons y ys =>
      obtain ⟨rfl, htail⟩ := List.cons.inj h
      obtain ⟨rfl, hrest⟩ := ih (fun hm => hx (List.mem_cons_of_mem _ hm))
        (fun hm => hy (List.mem_cons_of_mem _ hm)) htail
      exact ⟨rfl, hrest⟩

/-- Two addresses of four numbers that are written alike are one. -/
theorem displayV4_injective {a b c d a' b' c' d' : UInt8}
    (h : displayV4 a b c d = displayV4 a' b' c' d') : a = a' ∧ b = b' ∧ c = c' ∧ d = d' := by
  have hdot := dot_notMem_decimal
  obtain ⟨ha, h⟩ := eq_of_append_dot (hdot a) (hdot a') h
  obtain ⟨hb, h⟩ := eq_of_append_dot (hdot b) (hdot b') h
  obtain ⟨hc, hd⟩ := eq_of_append_dot (hdot c) (hdot c') h
  exact ⟨decimal_injective ha, decimal_injective hb, decimal_injective hc, decimal_injective hd⟩

end IpAddr

/-! ## Headers -/

/-- The bytes of a header line. -/
abbrev HeaderValue := List UInt8

namespace HeaderValue

def visible (b : UInt8) : Bool := b == 9 || (decide (32 ≤ b) && decide (b < 127))

/-- `to_str` -/
def toStr (v : HeaderValue) : Option (List Char) :=
  if v.all visible then some (v.map fun b => Char.ofNat b.toNat) else none

/-- A line that holds this text. -/
def ofText (cs : List Char) : HeaderValue := cs.map fun c => UInt8.ofNat c.toNat

/-- Lines joined by a comma and a blank. -/
def joined : List HeaderValue → HeaderValue
  | [] => []
  | [v] => v
  | v :: vs => v ++ 44 :: 32 :: joined vs

end HeaderValue

open HeaderValue

/-- The header lines, with their names in lower case. -/
abbrev HeaderMap := List (String × HeaderValue)

/-- `HeaderMap::get`: the first line of a name. -/
def HeaderMap.get (headers : HeaderMap) (name : String) : Option HeaderValue :=
  (headers.find? fun line => line.1 = name).map Prod.snd

/-- A request, as far as the middleware looks at it: the peer of the connection and the
headers. -/
structure HttpRequest where
  peer : Option IpAddr
  headers : HeaderMap

/-- Leading and trailing white space; after `to_str` only blanks and tabs are left of it. -/
def trim (cs : List Char) : List Char :=
  (cs.dropWhile Char.isWhitespace).rdropWhile Char.isWhitespace

/-- `.split(',').next()` -/
def firstEntry (cs : List Char) : List Char := cs.takeWhile (· ≠ ',')

/-- `.filter(|s| !s.is_empty())` -/
def nonEmpty (cs : List Char) : Option (List Char) := if cs = [] then none else some cs

def parseXff (req : HttpRequest) : Option (List Char) :=
  ((HeaderMap.get req.headers "x-forwarded-for").bind toStr).bind fun cs =>
    nonEmpty (trim (firstEntry cs))

def parseXri (req : HttpRequest) : Option (List Char) :=
  ((HeaderMap.get req.headers "x-real-ip").bind toStr).bind fun cs => nonEmpty (trim cs)

def getClientIp (req : HttpRequest) (trustedProxies : List IpAddr) : Option (List Char) :=
  match req.peer with
  | none => none
  | some connIp =>
    if connIp ∈ trustedProxies then
      match parseXff req with
      | some clientIp => some clientIp
      | none => match parseXri req with
        | some clientIp => some clientIp
        | none => some connIp.display
    else some connIp.display

/-- Without a trusted proxy the headers do not matter. -/
theorem getClientIp_of_untrusted {peer : Option IpAddr} {trustedProxies : List IpAddr}
    (h : ∀ ip, peer = some ip → ip ∉ trustedProxies) (headers headers' : HeaderMap) :
    getClientIp ⟨peer, headers⟩ trustedProxies = getClientIp ⟨peer, headers'⟩ trustedProxies := by
  cases peer with
  | none => rfl
  | some ip =>
    unfold getClientIp
    dsimp only
    rw [if_neg (h ip rfl), if_neg (h ip rfl)]

theorem getClientIp_of_trusted {proxy : IpAddr} {trustedProxies : List IpAddr}
    (h : proxy ∈ trustedProxies) (headers : HeaderMap) :
    getClientIp ⟨some proxy, headers⟩ trustedProxies =
      some ((parseXff ⟨some proxy, headers⟩).getD
        ((parseXri ⟨some proxy, headers⟩).getD proxy.display)) := by
  unfold getClientIp
  dsimp only
  rw [if_pos h]
  cases parseXff ⟨some proxy, headers⟩ with
  | some clientIp => rfl
  | none =>
    cases parseXri ⟨some proxy, headers⟩ with
    | some clientIp => rfl
    | none => rfl

/-! ## Through a proxy that appends its own peer -/

/-- Whether the proxy writes the address at the end of the line, or as a line of its own. -/
inductive Appends where
  | toLine
  | asLine

/-- The `X-Forwarded-For` lines after the proxy, from those that the client sent. -/
def forwardedFor (how : Appends) (client : IpAddr) (sent : List HeaderValue) : List HeaderValue :=
  match how with
  | .toLine => [joined (sent ++ [ofText client.display])]
  | .asLine => sent ++ [ofText client.display]

/-- What reaches the service; the other lines are any, but for that name. -/
def forward (how : Appends) (proxy client : IpAddr) (sent : List HeaderValue) (others : HeaderMap) :
    HttpRequest :=
  ⟨some proxy, (forwardedFor how client sent).map (fun v => ("x-forwarded-for", v)) ++ others⟩

/-- The lines that the first entry is read with are visible ASCII. -/
def Readable (how : Appends) (sent : List HeaderValue) : Prop :=
  match how with
  | .toLine => ∀ v ∈ sent, v.all visible = true
  | .asLine => ∀ v ∈ sent.head?, v.all visible = true

/-- The first entry of the first line that the client sent. -/
def firstSent (v : HeaderValue) : List Char :=
  trim (firstEntry (v.map fun b => Char.ofNat b.toNat))

/-- Nothing, the client's own address in front, or nothing to be read there while what the
service falls back to is that address. -/
inductive Harmless (how : Appends) (proxy client : IpAddr) (others : HeaderMap) :
    List HeaderValue → Prop
  | nothing : Harmless how proxy client others []
  | own (v : HeaderValue) (vs : List HeaderValue) (hread : Readable how (v :: vs))
      (hown : firstSent v = client.display) : Harmless how proxy client others (v :: vs)
  | blank (v : HeaderValue) (vs : List HeaderValue)
      (hblank : Readable how (v :: vs) → firstSent v = [])
      (hfall : (parseXri ⟨some proxy, others⟩).getD proxy.display = client.display) :
      Harmless how proxy client others (v :: vs)

/-- A client names any address it likes. -/
theorem clientIp_forged :
    getClientIp (forward .toLine (.v4 10 0 0 1) (.v4 203 0 113 9) [ofText "1.2.3.4".toList] [])
      [.v4 10 0 0 1] = some "1.2.3.4".toList ∧
    getClientIp (forward .toLine (.v4 10 0 0 1) (.v4 203 0 113 9) [] []) [.v4 10 0 0 1] =
      some "203.0.113.9".toList := by
  decide

/-! ### What the service reads -/

variable {how : Appends} {proxy client : IpAddr} {others : HeaderMap} {sent vs : List HeaderValue}
  {v : HeaderValue}

theorem chars_ofText {cs : List Char} (h : ∀ c ∈ cs, c.toNat < 256) :
    (ofText cs).map (fun b => Char.ofNat b.toNat) = cs := by
  rw [ofText, List.map_map]
  conv_rhs => rw [← List.map_id cs]
  refine List.map_congr_left fun c hc => ?_
  have hc := h c hc
  simp only [Function.comp_apply, UInt8.toNat_ofNat', id]
  rw [Nat.mod_eq_of_lt (by omega), Char.ofNat_toNat]

theorem visible_ofNat {n : ℕ} (h : 33 ≤ n) (h' : n < 127) : visible (UInt8.ofNat n) = true := by
  have hn : (UInt8.ofNat n).toNat = n := by
    rw [UInt8.toNat_ofNat']
    exact Nat.mod_eq_of_lt (by omega)
  have hlow : (32 : UInt8) ≤ UInt8.ofNat n := by
    rw [UInt8.le_iff_toNat_le, hn]
    exact Nat.le_trans (by decide) h
  have hhigh : UInt8.ofNat n < (127 : UInt8) := by
    rw [UInt8.lt_iff_toNat_lt, hn]
    exact h'
  simp [visible, hlow, hhigh]

theorem visible_address (ip : IpAddr) : (ofText ip.display).all visible = true := by
  rw [ofText, List.all_map, List.all_eq_true]
  intro c hc
  obtain ⟨hlow, hhigh, -⟩ := ip.addressChar_display c hc
  exact visible_ofNat hlow hhigh

theorem chars_address (ip : IpAddr) :
    (ofText ip.display).map (fun b => Char.ofNat b.toNat) = ip.display := by
  refine chars_ofText fun c hc => ?_
  obtain ⟨-, hhigh, -⟩ := ip.addressChar_display c hc
  omega

theorem firstEntry_append_comma (cs rest : List Char) :
    firstEntry (cs ++ ',' :: rest) = firstEntry cs := by
  unfold firstEntry
  induction cs with
  | nil => simp
  | cons c cs ih =>
    by_cases hc : c = ','
    · simp [hc]
    · simpa [hc] using ih

/-- Text without blanks is left as it is. -/
theorem trim_eq_self {cs : List Char} (h : ∀ c ∈ cs, c.isWhitespace = false) : trim cs = cs := by
  unfold trim
  rw [List.dropWhile_eq_self_iff.mpr, List.rdropWhile_eq_self_iff.mpr]
  · intro hne
    simp [h _ (List.getLast_mem hne)]
  · intro hpos
    simp [h _ (List.getElem_mem hpos)]

theorem firstSent_address (ip : IpAddr) : firstSent (ofText ip.display) = ip.display := by
  have hcomma : firstEntry ip.display = ip.display := by
    refine List.takeWhile_eq_self_iff.mpr fun c hc => ?_
    simpa using (ip.addressChar_display c hc).2.2
  rw [firstSent, chars_address, hcomma]
  refine trim_eq_self fun c hc => ?_
  obtain ⟨hlow, -, -⟩ := ip.addressChar_display c hc
  simp only [Char.isWhitespace, Bool.or_eq_false_iff, decide_eq_false_iff_not]
  refine ⟨⟨⟨?_, ?_⟩, ?_⟩, ?_⟩ <;> rintro rfl <;> exact absurd hlow (by decide)

theorem joined_snoc_cons (v : HeaderValue) (vs : List HeaderValue) (last : HeaderValue) :
    joined ((v :: vs) ++ [last]) = v ++ 44 :: 32 :: joined (vs ++ [last]) := by
  cases vs with
  | nil => rfl
  | cons w ws => rfl

theorem all_visible_joined (vs : List HeaderValue) :
    (joined vs).all visible = true ↔ ∀ v ∈ vs, v.all visible = true := by
  have hcomma : visible 44 = true ∧ visible 32 = true := by decide
  induction vs with
  | nil => simp [joined]
  | cons v vs ih =>
    cases vs with
    | nil => simp [joined]
    | cons w ws =>
      simp only [joined, List.all_append, List.all_cons, hcomma, Bool.true_and, Bool.and_eq_true,
        ih, List.forall_mem_cons]

/-- The first line that the service sees. -/
def seen (how : Appends) (client : IpAddr) (v : HeaderValue) (vs : List HeaderValue) :
    HeaderValue :=
  match how with
  | .toLine => joined ((v :: vs) ++ [ofText client.display])
  | .asLine => v

theorem get_forward (v : HeaderValue) (vs : List HeaderValue) :
    HeaderMap.get (forward how proxy client (v :: vs) others).headers "x-forwarded-for" =
      some (seen how client v vs) := by
  cases how with
  | toLine => simp [HeaderMap.get, forward, forwardedFor, seen]
  | asLine => simp [HeaderMap.get, forward, forwardedFor, seen]

theorem all_visible_seen : (seen how client v vs).all visible = true ↔ Readable how (v :: vs) := by
  cases how with
  | toLine =>
    unfold seen Readable
    dsimp only
    rw [all_visible_joined, List.forall_mem_append]
    exact and_iff_left fun last hlast => List.mem_singleton.mp hlast ▸ visible_address client
  | asLine => simp [seen, Readable]

theorem firstSent_seen : firstSent (seen how client v vs) = firstSent v := by
  cases how with
  | toLine =>
    unfold seen firstSent
    dsimp only
    rw [joined_snoc_cons, List.map_append, List.map_cons]
    exact congrArg trim (firstEntry_append_comma _ _)
  | asLine => rfl

theorem parseXff_forward_cons (how : Appends) (proxy client : IpAddr) (others : HeaderMap)
    (v : HeaderValue) (vs : List HeaderValue) :
    (Readable how (v :: vs) →
      parseXff (forward how proxy client (v :: vs) others) = nonEmpty (firstSent v)) ∧
    (¬ Readable how (v :: vs) → parseXff (forward how proxy client (v :: vs) others) = none) := by
  unfold parseXff
  have hseen : firstSent (seen how client v vs) = firstSent v := firstSent_seen
  rw [get_forward, Option.bind_some, toStr, ← hseen]
  constructor
  · intro hread
    rw [if_pos (all_visible_seen.mpr hread)]
    rfl
  · intro hread
    rw [if_neg fun h => hread (all_visible_seen.mp h)]
    rfl

theorem parseXff_forward_nil : parseXff (forward how proxy client [] others) = some client.display := by
  have hget : HeaderMap.get (forward how proxy client [] others).headers "x-forwarded-for" =
      some (ofText client.display) := by
    cases how with
    | toLine => simp [HeaderMap.get, forward, forwardedFor, joined]
    | asLine => simp [HeaderMap.get, forward, forwardedFor]
  have hfirst := firstSent_address client
  rw [firstSent] at hfirst
  rw [parseXff, hget, Option.bind_some, toStr, if_pos (visible_address client), Option.bind_some,
    hfirst, nonEmpty, if_neg client.display_ne_nil]

theorem parseXri_forward : parseXri (forward how proxy client sent others) =
    parseXri ⟨some proxy, others⟩ := by
  have hname : ∀ vs : List HeaderValue, ((vs.map fun v => ("x-forwarded-for", v)).find?
      fun line => line.1 = "x-real-ip") = none := by
    intro vs
    rw [List.find?_eq_none]
    intro line hline
    obtain ⟨v, -, rfl⟩ := List.mem_map.mp hline
    simp
  unfold parseXri HeaderMap.get
  simp only [forward, List.find?_append, hname, Option.none_or]

/-- **Through a trusted proxy** the address stays the client's own exactly when what the
client sent is harmless; **and without one** no header has a say. -/
theorem clientIp_kept_iff (trustedProxies : List IpAddr) :
    (∀ proxy ∈ trustedProxies, ∀ how client sent others,
      getClientIp (forward how proxy client sent others) trustedProxies =
        getClientIp (forward how proxy client [] others) trustedProxies ↔
      Harmless how proxy client others sent) ∧
    ∀ peer : Option IpAddr, (∀ ip, peer = some ip → ip ∉ trustedProxies) →
      ∀ headers headers', getClientIp ⟨peer, headers⟩ trustedProxies =
        getClientIp ⟨peer, headers'⟩ trustedProxies := by
  refine ⟨?_, fun peer h headers headers' => getClientIp_of_untrusted h headers headers'⟩
  intro proxy hproxy how client sent others
  have hread : ∀ sent, getClientIp (forward how proxy client sent others) trustedProxies =
      some ((parseXff (forward how proxy client sent others)).getD
        ((parseXri ⟨some proxy, others⟩).getD proxy.display)) := by
    intro sent
    have hxri : parseXri (forward how proxy client sent others) = parseXri ⟨some proxy, others⟩ :=
      parseXri_forward
    rw [← hxri]
    exact getClientIp_of_trusted hproxy _
  rw [hread, hread, parseXff_forward_nil, Option.getD_some, Option.some.injEq]
  cases sent with
  | nil =>
    rw [parseXff_forward_nil]
    exact ⟨fun _ => .nothing, fun _ => rfl⟩
  | cons v vs =>
    obtain ⟨hyes, hno⟩ := parseXff_forward_cons how proxy client others v vs
    by_cases hr : Readable how (v :: vs)
    · rw [hyes hr, nonEmpty]
      split
      · rename_i hnil
        refine ⟨fun hfall => .blank v vs (fun _ => hnil) hfall, fun h => ?_⟩
        cases h with
        | own _ _ _ hown => exact absurd (hown.symm.trans hnil) client.display_ne_nil
        | blank _ _ _ hfall => exact hfall
      · rename_i hne
        refine ⟨fun hown => .own v vs hr hown, fun h => ?_⟩
        cases h with
        | own _ _ _ hown => exact hown
        | blank _ _ hblank _ => exact absurd (hblank hr) hne
    · rw [hno hr]
      refine ⟨fun hfall => .blank v vs (fun h => absurd h hr) hfall, fun h => ?_⟩
      cases h with
      | own _ _ h _ => exact absurd h hr
      | blank _ _ _ hfall => exact hfall

/-- An address of its own in front does not hurt the client. -/
theorem clientIp_kept_own :
    (getClientIp (forward .asLine (.v4 10 0 0 1) (.v4 203 0 113 9)
        [ofText "203.0.113.9, 1.2.3.4".toList] []) [.v4 10 0 0 1] =
      getClientIp (forward .asLine (.v4 10 0 0 1) (.v4 203 0 113 9) [] []) [.v4 10 0 0 1]) ∧
    getClientIp ⟨some (.v4 192 0 2 1), [("x-forwarded-for", ofText "1.2.3.4".toList)]⟩
        [.v4 10 0 0 1] =
      getClientIp ⟨some (.v4 192 0 2 1), []⟩ [.v4 10 0 0 1] :=
  ⟨((clientIp_kept_iff [.v4 10 0 0 1]).1 (.v4 10 0 0 1) (by decide) _ _ _ _).mpr
      (.own _ _ (by unfold Readable; decide) (by decide)),
    (clientIp_kept_iff [.v4 10 0 0 1]).2 (some (.v4 192 0 2 1))
      (fun ip h => by cases h; decide) _ _⟩

end NebulaId
