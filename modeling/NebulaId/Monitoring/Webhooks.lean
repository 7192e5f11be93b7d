import Mathlib.Data.String.Basic
import NebulaId.Monitoring.Addresses

/-!
# The guard of the webhooks (`core/monitoring/core.rs`)

`validate_webhook_url` takes a URL apart with the `url` crate and looks at the text of its host.
The crate is a parameter: it writes an IPv4 host with points and an IPv6 host in brackets.

* `accepted_iff`: the URLs that are accepted.
* `slips_through_iff`: the hosts that are not blocked and should be.
* `webhook_guard_iff`: for which URLs the guard keeps what it promises.
-/

namespace NebulaId

open IpAddr

inductive UrlHost where
  | domain (name : List Char)
  | ipv4 (a b c d : UInt8)
  | ipv6 (segments : Vector UInt16 8)

/-- What the guard asks a parsed URL. -/
structure Url where
  scheme : String
  username : String
  password : Option String
  host : Option UrlHost
  hostStr : Option (List Char)

structure UrlCrate where
  parse : String → Option Url

/-- The text of a host: brackets around an IPv6 address. -/
def UrlHost.HasText : UrlHost → List Char → Prop
  | .domain name, text => text = name
  | .ipv4 a b c d, text => text = displayV4 a b c d
  | .ipv6 _, text => ∃ address, text = '[' :: address ++ [']']

/-- `host_str` is there with the host, and is its text. -/
def UrlCrate.Documented (urls : UrlCrate) : Prop := ∀ s url, urls.parse s = some url →
  match url.host with
  | none => url.hostStr = none
  | some host => ∃ text, url.hostStr = some text ∧ host.HasText text

/-- `localhost` or a name under it. -/
def IsLocal (name : List Char) : Prop :=
  name = "localhost".toList ∨ ".localhost".toList <:+ name

instance (name : List Char) : Decidable (IsLocal name) := inferInstanceAs (Decidable (_ ∨ _))

namespace AlertNotificationSender

def isBlockedHost (host : List Char) : Bool :=
  if IsLocal host then true
  else match IpAddr.fromStr host with
    | some ip => isBlockedIp ip
    | none => false

def validateWebhookUrl (urls : UrlCrate) (url : String) : Except String Unit :=
  match urls.parse url with
  | none => .error "invalid URL format"
  | some parsed =>
    if parsed.scheme ≠ "http" ∧ parsed.scheme ≠ "https" then
      .error "non-http(s) scheme not allowed"
    else if parsed.username ≠ "" ∨ parsed.password.isSome then
      .error "userinfo in URL not allowed"
    else match parsed.hostStr with
      | none => .error "missing host"
      | some host =>
        if isBlockedHost host then .error "host resolves to private/reserved address" else .ok ()

/-! ## What the guard promises -/

end AlertNotificationSender

/-- A name in small letters, without the point that may end it. -/
def plainName (name : List Char) : List Char :=
  let small := name.map Char.toLower
  if small.getLast? = some '.' then small.dropLast else small

namespace UrlHost

/-- No webhook should go there: a local name however it is written, or a reserved address. -/
def Forbidden : UrlHost → Prop
  | .domain name => IsLocal (plainName name)
  | .ipv4 a b c d => (IpAddr.v4 a b c d).Reserved
  | .ipv6 segments => (IpAddr.v6 segments).Reserved

/-- A local name in capitals or with a point at its end, an IPv4 address for multicast, or a
reserved IPv6 address. -/
def Missed : UrlHost → Prop
  | .domain name => IsLocal (plainName name) ∧ ¬ IsLocal name
  | .ipv4 a b c d => multicastV4.Contains (number (.v4 a b c d))
  | .ipv6 segments => (IpAddr.v6 segments).Reserved

end UrlHost

/-- Over HTTP or HTTPS, and without user information. -/
def Url.Plain (url : Url) : Prop :=
  (url.scheme = "http" ∨ url.scheme = "https") ∧ url.username = "" ∧ url.password = none

namespace AlertNotificationSender

/-! ## Names and addresses -/

theorem toLower_ne_of_isPart {c : Char} (h : IsPart c) : c.toLower ≠ 'l' := by
  have hall : ∀ n < 128, IsPart (Char.ofNat n) → (Char.ofNat n).toLower ≠ 'l' := by decide +kernel
  have hascii : c.toNat < 128 := by
    rcases h with h | rfl | rfl
    · by_contra hlarge
      have hdigit : c.isDigit = false := by
        rw [Bool.eq_false_iff, ne_eq, Char.isDigit_iff_toNat]
        exact fun hd => hlarge (lt_of_le_of_lt hd.2 (by decide))
      have hlower : ¬ ('a' ≤ c ∧ c ≤ 'f') := fun hc => hlarge (lt_of_le_of_lt hc.2 (by decide))
      have hupper : ¬ ('A' ≤ c ∧ c ≤ 'F') := fun hc => hlarge (lt_of_le_of_lt hc.2 (by decide))
      simp [isDigitOf, toDigit, hdigit, hlower, hupper] at h
    · decide
    · decide
  have hc := hall c.toNat hascii
  rw [Char.ofNat_toNat] at hc
  exact hc h

/-- A local name has an `l`. -/
theorem mem_of_isLocal {name : List Char} (h : IsLocal name) : 'l' ∈ name := by
  rcases h with rfl | ⟨before, rfl⟩
  · decide
  · exact List.mem_append_right before (by decide)

/-- However it is written it is no address. -/
theorem fromStr_of_isLocal {name : List Char} (h : IsLocal (plainName name)) :
    IpAddr.fromStr name = none := by
  have hsmall : 'l' ∈ name.map Char.toLower := by
    have hmem := mem_of_isLocal h
    unfold plainName at hmem
    dsimp only at hmem
    split at hmem
    · exact (List.dropLast_sublist _).subset hmem
    · exact hmem
  obtain ⟨c, hc, hlower⟩ := List.mem_map.mp hsmall
  exact fromStr_eq_none hc fun hpart => toLower_ne_of_isPart hpart hlower

theorem fromStr_of_local {name : List Char} (h : IsLocal name) : IpAddr.fromStr name = none :=
  fromStr_eq_none (mem_of_isLocal h) fun hpart => toLower_ne_of_isPart hpart (by decide)

theorem isBlockedHost_of_address {text : List Char} {ip : IpAddr}
    (h : IpAddr.fromStr text = some ip) : isBlockedHost text = isBlockedIp ip := by
  have hname : ¬ IsLocal text := by
    intro hlocal
    cases h.symm.trans (fromStr_of_local hlocal)
  rw [isBlockedHost, if_neg hname, h]

theorem isBlockedHost_of_name {text : List Char} (h : IpAddr.fromStr text = none) :
    isBlockedHost text = false ↔ ¬ IsLocal text := by
  by_cases hlocal : IsLocal text
  · rw [isBlockedHost, if_pos hlocal]
    exact iff_of_false Bool.false_ne_true.symm (not_not.mpr hlocal)
  · rw [isBlockedHost, if_neg hlocal, h]
    exact iff_of_true rfl hlocal

/-- A multicast address lies in none of the blocks that are guarded. -/
theorem not_blocked_of_multicast {a b c d : UInt8}
    (h : multicastV4.Contains (number (.v4 a b c d))) : isBlockedIp (.v4 a b c d) = false := by
  have hfirst : 224 ≤ a.toNat ∧ a.toNat < 240 := by
    have ha := a.toNat_lt
    have hb := b.toNat_lt
    have hc := c.toNat_lt
    have hd := d.toNat_lt
    simp only [multicastV4, Block.Contains, Block.v4, number] at h
    omega
  rw [Bool.eq_false_iff, ne_eq, isBlockedIp_v4_iff]
  simp only [guardedV4, List.mem_cons, List.not_mem_nil, or_false, exists_eq_or_imp,
    exists_eq_left, contains_first, contains_second a b c d (show 168 < 256 by decide),
    contains_second a b c d (show 254 < 256 by decide), contains_private, contains_shared,
    contains_unspecified, contains_broadcast]
  omega

/-- The hosts that are not blocked and should be. -/
theorem slips_through_iff {host : UrlHost} {text : List Char} (h : host.HasText text) :
    isBlockedHost text = false ∧ host.Forbidden ↔ host.Missed := by
  cases host with
  | domain name =>
    subst h
    constructor
    · rintro ⟨hopen, hlocal⟩
      exact ⟨hlocal, (isBlockedHost_of_name (fromStr_of_isLocal hlocal)).mp hopen⟩
    · rintro ⟨hlocal, hspelled⟩
      exact ⟨(isBlockedHost_of_name (fromStr_of_isLocal hlocal)).mpr hspelled, hlocal⟩
  | ipv4 a b c d =>
    subst h
    rw [isBlockedHost_of_address (fromStr_displayV4 a b c d)]
    constructor
    · rintro ⟨hopen, block, hblock, hcontains⟩
      rcases List.mem_cons.mp hblock with rfl | hblock
      · exact hcontains
      · have hblocked := (isBlockedIp_v4_iff a b c d).mpr ⟨block, hblock, hcontains⟩
        rw [hopen] at hblocked
        cases hblocked
    · intro hmulticast
      exact ⟨not_blocked_of_multicast hmulticast, multicastV4, List.mem_cons_self, hmulticast⟩
  | ipv6 segments =>
    obtain ⟨address, rfl⟩ := h
    have hbracket : IpAddr.fromStr ('[' :: address ++ [']']) = none :=
      fromStr_eq_none (c := '[') List.mem_cons_self (by decide)
    have hname : ¬ IsLocal ('[' :: address ++ [']']) := by
      rintro (heq | ⟨before, heq⟩)
      · cases heq
      · have hlast := congrArg List.getLast? heq
        rw [List.getLast?_concat, List.getLast?_append_of_ne_nil _ (by decide)] at hlast
        exact absurd hlast (by decide)
    exact and_iff_right ((isBlockedHost_of_name hbracket).mpr hname)

/-! ## The guard -/

theorem accepted_iff {urls : UrlCrate} {s : String} {url : Url} (hparse : urls.parse s = some url) :
    validateWebhookUrl urls s = .ok () ↔
      url.Plain ∧ ∃ text, url.hostStr = some text ∧ isBlockedHost text = false := by
  unfold validateWebhookUrl Url.Plain
  rw [hparse]
  dsimp only
  by_cases hscheme : url.scheme ≠ "http" ∧ url.scheme ≠ "https"
  · rw [if_pos hscheme]
    refine iff_of_false (fun h => nomatch h) ?_
    rintro ⟨⟨hhttp | hhttps, -⟩, -⟩
    · exact hscheme.1 hhttp
    · exact hscheme.2 hhttps
  · rw [if_neg hscheme]
    have hweb : url.scheme = "http" ∨ url.scheme = "https" := by
      rw [not_and_or, not_not, not_not] at hscheme
      exact hscheme
    by_cases huser : url.username ≠ "" ∨ url.password.isSome
    · rw [if_pos huser]
      refine iff_of_false (fun h => nomatch h) ?_
      rintro ⟨⟨-, hname, hpassword⟩, -⟩
      rcases huser with huser | huser
      · exact huser hname
      · rw [hpassword] at huser
        cases huser
    · rw [if_neg huser]
      rw [not_or, not_not, Bool.not_eq_true, Option.isSome_eq_false_iff, Option.isNone_iff_eq_none]
        at huser
      cases url.hostStr with
      | none => simp
      | some text =>
        cases hblocked : isBlockedHost text with
        | true => simp [hblocked]
        | false => simp [hblocked, hweb, huser]

/-- The guard keeps its promise for a URL exactly when the URL is not plain or its host is not one
of the missed ones. -/
theorem webhook_guard_iff {urls : UrlCrate} (hdoc : urls.Documented) {s : String} {url : Url}
    (hparse : urls.parse s = some url) {host : UrlHost} (hhost : url.host = some host) :
    (validateWebhookUrl urls s = .ok () → ¬ host.Forbidden) ↔ (url.Plain → ¬ host.Missed) := by
  have htext := hdoc s url hparse
  rw [hhost] at htext
  obtain ⟨text, hstr, hhas⟩ := htext
  rw [accepted_iff hparse, ← slips_through_iff hhas, hstr]
  simp only [Option.some.injEq, exists_eq_left']
  tauto

/-! ## Three hosts that are missed -/

/-- The crate on three URLs. -/
def threeUrls : UrlCrate where
  parse s :=
    if s = "http://[::1]/hook" then
      some ⟨"http", "", none, some (.ipv6 ((Vector.replicate 7 0).push 1)), some "[::1]".toList⟩
    else if s = "http://224.0.0.1/hook" then
      some ⟨"http", "", none, some (.ipv4 224 0 0 1), some "224.0.0.1".toList⟩
    else if s = "http://localhost./hook" then
      some ⟨"http", "", none, some (.domain "localhost.".toList), some "localhost.".toList⟩
    else none

theorem threeUrls_documented : threeUrls.Documented := by
  intro s url hparse
  unfold threeUrls at hparse
  dsimp only at hparse
  split_ifs at hparse
  · cases hparse
    exact ⟨_, rfl, "::1".toList, rfl⟩
  · cases hparse
    exact ⟨_, rfl, show "224.0.0.1".toList = displayV4 224 0 0 1 by decide +kernel⟩
  · cases hparse
    exact ⟨_, rfl, rfl⟩

/-- The guard opens the way to the loopback interface. -/
theorem loopback_accepted :
    threeUrls.Documented ∧
    (∃ url, threeUrls.parse "http://[::1]/hook" = some url ∧
      url.host = some (.ipv6 #v[0, 0, 0, 0, 0, 0, 0, 1])) ∧
    (UrlHost.ipv6 #v[0, 0, 0, 0, 0, 0, 0, 1]).Forbidden ∧
    validateWebhookUrl threeUrls "http://[::1]/hook" = .ok () ∧
    (UrlHost.ipv4 224 0 0 1).Forbidden ∧
    validateWebhookUrl threeUrls "http://224.0.0.1/hook" = .ok () ∧
    (UrlHost.domain "localhost.".toList).Forbidden ∧
    validateWebhookUrl threeUrls "http://localhost./hook" = .ok () := by
  refine ⟨threeUrls_documented, ⟨_, rfl, rfl⟩, ?_, ?_, ?_, ?_, ?_, ?_⟩
  · exact show (IpAddr.v6 _).Reserved by decide +kernel
  · rfl
  · exact show (IpAddr.v4 _ _ _ _).Reserved by decide +kernel
  · rfl
  · exact show IsLocal _ by decide +kernel
  · rfl

theorem webhook_guard_iff_loopback :
    (validateWebhookUrl threeUrls "http://[::1]/hook" = .ok () →
      ¬ (UrlHost.ipv6 #v[0, 0, 0, 0, 0, 0, 0, 1]).Forbidden) ↔
    ((⟨"http", "", none, some (.ipv6 #v[0, 0, 0, 0, 0, 0, 0, 1]), some "[::1]".toList⟩ :
      Url).Plain → ¬ (UrlHost.ipv6 #v[0, 0, 0, 0, 0, 0, 0, 1]).Missed) :=
  webhook_guard_iff threeUrls_documented rfl rfl

end AlertNotificationSender

end NebulaId
