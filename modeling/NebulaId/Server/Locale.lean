import Mathlib.Data.String.Basic
import NebulaId.Store.Ranking
import NebulaId.Types.Floats
import NebulaId.Types.Texts

/-!
# Language negotiation (`server/middleware/locale.rs`)

`parse_accept_language` reads the entries of an `Accept-Language` header and sorts them by quality;
`negotiate_locale_str` takes the first one with a supported language. A quality is an `f32` from
zero to one, that is a rational number.

* `parseEntry_eq_some`: an entry is read exactly when it meets the grammar `LanguageEntry`.
* `negotiate_locale_grammar`: the locale is that of the best entry, and malformed entries do not
  matter.
-/

namespace NebulaId

open Store

inductive Locale where
  | en
  | zhCn
  deriving DecidableEq

namespace Locale

def default : Locale := en

/-- `eq_ignore_ascii_case` -/
def eqIgnoreAsciiCase (cs : List Char) (s : String) : Bool :=
  cs.map Char.toLower = s.toList.map Char.toLower

def fromTag (tag : List Char) : Option Locale :=
  let trimmed := Text.trim tag
  let primary := trimmed.takeWhile (· ≠ '-')
  if trimmed.isEmpty then none
  else if eqIgnoreAsciiCase trimmed "en" then some en
  else if eqIgnoreAsciiCase trimmed "zh-CN" || eqIgnoreAsciiCase trimmed "zh-Hans-CN" ||
    eqIgnoreAsciiCase trimmed "zh-Hans" then some zhCn
  else if eqIgnoreAsciiCase primary "en" then some en
  else if eqIgnoreAsciiCase primary "zh" then some zhCn
  else none

end Locale

structure Candidate where
  tag : List Char
  quality : ℚ
  deriving DecidableEq

/-- Numbers out of range, infinite ones and NaN are not accepted. -/
def parseQvalue (s : List Char) : Option ℚ :=
  match F32.fromStr (Text.trim s) with
  | some (.finite v) => if 0 ≤ v ∧ v ≤ 1 then some v else none
  | _ => none

/-- What stands behind `q=` in a parameter, if it is the one for the quality. -/
def qualityText (param : List Char) : Option (List Char) :=
  match Text.trim param with
  | c :: '=' :: rest => if c = 'q' ∨ c = 'Q' then some rest else none
  | _ => none

/-- The loop over the parameters of an entry. -/
def readQuality (quality : ℚ) : List (List Char) → Option ℚ
  | [] => some quality
  | param :: params => match qualityText param with
    | some text => (parseQvalue text).bind fun quality => readQuality quality params
    | none => readQuality quality params

def parseEntry (entry : List Char) : Option Candidate :=
  if entry.isEmpty then none
  else match entry.splitOn ';' with
    | [] => none
    | first :: params =>
      let tag := Text.trim first
      if tag.isEmpty then none else (readQuality 1 params).map fun quality => ⟨tag, quality⟩

def maxAcceptLanguageLen : ℕ := 4096

/-- An entry that the loop of `parse_accept_language` keeps. -/
def readEntry (entry : List Char) : Option Candidate :=
  (parseEntry (Text.trim entry)).filter fun c => 0 < c.quality

def parseAcceptLanguage (header : String) : List Candidate :=
  if (Text.trim header.toList).isEmpty then []
  else if maxAcceptLanguageLen < header.utf8ByteSize then []
  else descending Candidate.quality ((header.toList.splitOn ',').filterMap readEntry)

/-- The locale that a candidate stands for; the wildcard stands for none. -/
def Candidate.locale (c : Candidate) : Option Locale :=
  if c.tag = ['*'] then none else Locale.fromTag c.tag

/-- The loop of `negotiate_locale_str`: the first candidate with a supported language. -/
def negotiateLocaleStr (acceptLanguage : String) : Locale :=
  ((parseAcceptLanguage acceptLanguage).findSome? Candidate.locale).getD .default

/-- The header is missing, or it is a text or not. -/
def negotiateLocale (header : Option (Except Unit String)) : Locale :=
  match header with
  | some (.ok s) => negotiateLocaleStr s
  | _ => .default

/-! ## The grammar -/

/-- The grammar of an entry: a tag, then parameters. Those for the quality have values, and the last
one counts. -/
def LanguageEntry (entry : List Char) (c : Candidate) : Prop :=
  ∃ first params, ∃ values : List ℚ, entry.splitOn ';' = first :: params ∧
    c.tag = Text.trim first ∧ c.tag ≠ [] ∧
    (params.filterMap qualityText).map parseQvalue = values.map some ∧
    c.quality = values.getLastD 1

variable {entry : List Char} {c : Candidate} {header : String}

theorem readQuality_eq_some {params : List (List Char)} {quality result : ℚ} :
    readQuality quality params = some result ↔
      ∃ values : List ℚ, (params.filterMap qualityText).map parseQvalue = values.map some ∧
        result = values.getLastD quality := by
  induction params generalizing quality with
  | nil =>
    constructor
    · intro h
      cases h
      exact ⟨[], rfl, rfl⟩
    · rintro ⟨values, hvalues, rfl⟩
      rw [List.map_eq_nil_iff.mp hvalues.symm]
      rfl
  | cons param params ih =>
    cases hparam : qualityText param with
    | none =>
      rw [List.filterMap_cons_none hparam, ← ih]
      simp only [readQuality, hparam]
    | some text =>
      rw [List.filterMap_cons_some hparam, List.map_cons]
      simp only [readQuality, hparam, Option.bind_eq_some_iff, ih]
      constructor
      · rintro ⟨value, hvalue, values, hvalues, rfl⟩
        refine ⟨value :: values, ?_, List.getLastD_cons.symm⟩
        rw [hvalue, hvalues, List.map_cons]
      · rintro ⟨values, hvalues, rfl⟩
        cases values with
        | nil => cases hvalues
        | cons value values =>
          rw [List.map_cons, List.cons.injEq] at hvalues
          exact ⟨value, hvalues.1, values, hvalues.2, List.getLastD_cons⟩

theorem parseEntry_of_splitOn {first : List Char} {params : List (List Char)}
    (h : entry.splitOn ';' = first :: params) :
    parseEntry entry = if (Text.trim first).isEmpty then none
      else (readQuality 1 params).map fun quality => ⟨Text.trim first, quality⟩ := by
  unfold parseEntry
  split
  next hempty =>
    -- The empty text is one part without a tag.
    rw [List.isEmpty_iff.mp hempty, List.splitOn_nil, List.cons.injEq] at h
    rw [← h.1]
    rfl
  next => rw [h]

/-- An entry is read exactly when it meets the grammar. -/
theorem parseEntry_eq_some : parseEntry entry = some c ↔ LanguageEntry entry c := by
  obtain ⟨first, params, hsplit⟩ := List.exists_cons_of_ne_nil (List.splitOn_ne_nil ';' entry)
  rw [parseEntry_of_splitOn hsplit]
  constructor
  · intro h
    split at h
    · cases h
    next hne =>
      obtain ⟨quality, hquality, rfl⟩ := Option.map_eq_some_iff.mp h
      obtain ⟨values, hvalues, rfl⟩ := readQuality_eq_some.mp hquality
      exact ⟨first, params, values, hsplit, rfl, fun htag => hne (List.isEmpty_iff.mpr htag),
        hvalues, rfl⟩
  · rintro ⟨first', params', values, hsplit', htag, hne, hvalues, hquality⟩
    rw [hsplit, List.cons.injEq] at hsplit'
    obtain ⟨rfl, rfl⟩ := hsplit'
    rw [if_neg (fun hempty => hne (htag.trans (List.isEmpty_iff.mp hempty))),
      readQuality_eq_some.mpr ⟨values, hvalues, rfl⟩, Option.map_some, ← htag, ← hquality]

/-- The entry is read. -/
def WellFormed (entry : List Char) : Prop := ∃ c, LanguageEntry (Text.trim entry) c

theorem wellFormed_iff : WellFormed entry ↔ (parseEntry (Text.trim entry)).isSome := by
  rw [Option.isSome_iff_exists]
  exact exists_congr fun c => parseEntry_eq_some.symm

instance (entry : List Char) : Decidable (WellFormed entry) :=
  decidable_of_iff _ wellFormed_iff.symm

/-- The entry offers a supported language, with a quality above zero. -/
def Offers (entry : List Char) (locale : Locale) (quality : ℚ) : Prop :=
  ∃ tag, LanguageEntry (Text.trim entry) ⟨tag, quality⟩ ∧ 0 < quality ∧
    Locale.fromTag tag = some locale

theorem Candidate.locale_eq (c : Candidate) : c.locale = Locale.fromTag c.tag := by
  unfold locale
  split
  next h =>
    rw [h]
    decide
  next => rfl

theorem readEntry_eq_some :
    readEntry entry = some c ↔ LanguageEntry (Text.trim entry) c ∧ 0 < c.quality := by
  rw [readEntry, Option.filter_eq_some_iff, parseEntry_eq_some, decide_eq_true_iff]

theorem offers_iff {locale : Locale} {quality : ℚ} : Offers entry locale quality ↔
    ∃ c, readEntry entry = some c ∧ c.locale = some locale ∧ c.quality = quality := by
  simp only [readEntry_eq_some, Candidate.locale_eq]
  constructor
  · rintro ⟨tag, hentry, hpos, htag⟩
    exact ⟨⟨tag, quality⟩, ⟨hentry, hpos⟩, htag, rfl⟩
  · rintro ⟨c, ⟨hentry, hpos⟩, htag, rfl⟩
    exact ⟨c.tag, hentry, hpos, htag⟩

/-! ## The choice -/

theorem parseAcceptLanguage_of_le (h : header.utf8ByteSize ≤ maxAcceptLanguageLen) :
    parseAcceptLanguage header =
      descending Candidate.quality ((header.toList.splitOn ',').filterMap readEntry) := by
  unfold parseAcceptLanguage
  rw [if_neg (not_lt.mpr h)]
  split
  next hempty =>
    -- Nothing but white space is one entry, which is empty.
    have htrim : Text.trim header.toList = [] := List.isEmpty_iff.mp hempty
    have hcomma : ',' ∉ header.toList := by
      intro hmem
      have hspace := Text.trim_eq_nil_iff.mp htrim ',' hmem
      revert hspace
      decide
    have hentry : readEntry header.toList = none := by
      rw [readEntry, htrim]
      rfl
    rw [List.splitOn_eq_singleton hcomma, List.filterMap_cons_none hentry, List.filterMap_nil,
      descending, List.mergeSort_nil]
  next => rfl

/-- What is malformed is not read. -/
theorem filterMap_readEntry (entries : List (List Char)) :
    (entries.filter WellFormed).filterMap readEntry = entries.filterMap readEntry := by
  induction entries with
  | nil => rfl
  | cons entry entries ih =>
    by_cases h : WellFormed entry
    · rw [List.filter_cons, if_pos (decide_eq_true h), List.filterMap_cons, List.filterMap_cons, ih]
    · have hnone : readEntry entry = none := by
        have hparse : parseEntry (Text.trim entry) = none := by
          rwa [wellFormed_iff, Option.not_isSome_iff_eq_none] at h
        rw [readEntry, hparse]
        rfl
      rw [List.filter_cons, if_neg (fun hd => h (of_decide_eq_true hd)), ih,
        List.filterMap_cons_none hnone]

/-- The locale is that of the best entry. -/
def Chosen (entries : List (List Char)) (locale : Locale) : Prop :=
  ∃ before entry after quality, entries = before ++ entry :: after ∧ Offers entry locale quality ∧
    (∀ e ∈ before, ∀ l q, Offers e l q → q < quality) ∧
    ∀ e ∈ after, ∀ l q, Offers e l q → q ≤ quality

theorem chosen_or_default (h : header.utf8ByteSize ≤ maxAcceptLanguageLen) :
    Chosen (header.toList.splitOn ',') (negotiateLocaleStr header) ∨
      (∀ e ∈ header.toList.splitOn ',', ∀ l q, ¬ Offers e l q) ∧
        negotiateLocaleStr header = .default := by
  unfold negotiateLocaleStr
  rw [parseAcceptLanguage_of_le h]
  cases hfound : (descending Candidate.quality
      ((header.toList.splitOn ',').filterMap readEntry)).findSome? Candidate.locale with
  | some locale =>
    left
    obtain ⟨c, hlocale, hbest⟩ := findSome?_descending hfound
    obtain ⟨before, entry, after, hentries, hentry, -, hbefore, hafter⟩ := hbest.of_filterMap
    refine ⟨before, entry, after, c.quality, hentries, offers_iff.mpr ⟨c, hentry, hlocale, rfl⟩,
      ?_, ?_⟩
    · intro e he l q hoffers
      obtain ⟨b, hread, hb, rfl⟩ := offers_iff.mp hoffers
      exact hbefore e he b hread (Option.isSome_of_eq_some hb)
    · intro e he l q hoffers
      obtain ⟨b, hread, hb, rfl⟩ := offers_iff.mp hoffers
      exact hafter e he b hread (Option.isSome_of_eq_some hb)
  | none =>
    right
    refine ⟨?_, rfl⟩
    intro e he l q hoffers
    obtain ⟨c, hread, hc, -⟩ := offers_iff.mp hoffers
    have hmem : c ∈ descending Candidate.quality
        ((header.toList.splitOn ',').filterMap readEntry) :=
      mem_descending.mpr (List.mem_filterMap.mpr ⟨e, he, hread⟩)
    rw [List.findSome?_eq_none_iff.mp hfound c hmem] at hc
    cases hc

end NebulaId
