import NebulaId.Machine.Simulation
import NebulaId.Server.MemoryDao
import NebulaId.Store.Glob
import NebulaId.Types.Texts

/-!
# What the store of sessions is for

The calls on a map with expiry: an expired entry is none, and every call takes place at one
instant. A call on the store looks at the clock up to twice; it should be the call on the map at an
instant between the two.

* `globMatchInner_iff`: a pattern matches the texts of its language.
* `keys_of_pattern`: the keys of a pattern.
* `tracks_iff`: a call on the store is one on the map exactly when it meets `Meets`.
* `memory_dao_refines`: and so are all calls of a run.
* `rename_self_loses_key`: a key that is renamed to itself is lost.
-/

namespace NebulaId

open Machine Store

open MemoryGarrisonDao (Inner Readings found stored Fits)

abbrev DaoMap := ExpiringMap String String Instant

namespace DaoMap

def deadline (x : Instant) (ttlSeconds : UInt64) : Option Instant :=
  if ttlSeconds = 0 then none else some (x + Duration.fromSecs ttlSeconds)

def timeLeft (x : Instant) (entry : MemoryGarrisonDao.Entry) : Option Duration :=
  entry.expireAt.map fun t => t - x

/-- A key that is missing was never there or has expired: either may be said. -/
def missing (key : String) : Set GarrisonError :=
  {.dao ("dao-key-not-found::" ++ key), .dao ("dao-key-expired::" ++ key)}

open Classical in
/-- A call at an instant on the map that is left. -/
noncomputable def meaning (x : Instant) (a : DaoMap) :
    DaoCall → Except (Set GarrisonError) DaoAnswer × DaoMap
  | .get key => (.ok (.value ((a.entry key).map Timed.value)), a)
  | .set key value ttl => (.ok .done, a.put key ⟨value, deadline x ttl⟩)
  | .update key value => match a.entry key with
    | some entry => (.ok .done, a.put key { entry with value := value })
    | none => (.error (missing key), a)
  | .expire key seconds => match a.entry key with
    | some entry => (.ok .done, a.put key { entry with expireAt := deadline x seconds })
    | none => (.error (missing key), a)
  | .delete key => (.ok .done, a.erase key)
  | .setPermanent key value => (.ok .done, a.put key ⟨value, none⟩)
  | .getTimeout key => (.ok (.timeout ((a.entry key).bind (timeLeft x))), a)
  | .getWithTtl key =>
    (.ok (.valueWithTtl ((a.entry key).map fun entry => (entry.value, timeLeft x entry))), a)
  | .keys pattern =>
    if 256 < pattern.utf8ByteSize then
      (.error {.invalidParam ("dao-keys-pattern-too-long::" ++ toString pattern.utf8ByteSize)}, a)
    else (.ok (.keys (a.keys.filter fun key =>
      key.toList ∈ globLanguage '*' '?' pattern.toList).val), a)
  | .rename oldKey newKey => match a.entry oldKey with
    | some entry => (.ok .done, (a.erase oldKey).put newKey entry)
    | none => (.error {.invalidParam ("dao-key-missing::" ++ oldKey)}, a)
  | .getAndDelete key => (.ok (.value ((a.entry key).map Timed.value)), a.erase key)
  | .incr key ttl => match a.entry key with
    | none => (.ok (.count 1), a.put key ⟨"1", deadline x ttl⟩)
    | some entry => match parseU64 entry.value with
      | none => (.error {.dao ("dao-incr-parse-u64::" ++ key)}, a)
      | some n =>
        if n.toNat + 1 < 2 ^ 64 then
          (.ok (.count (n + 1)), a.put key { entry with value := toString (n + 1) })
        else (.error {.dao ("dao-incr-overflow::" ++ key)}, a)
  | .decr key => match a.entry key with
    | none => (.ok (.count 0), a)
    | some entry => match parseU64 entry.value with
      | none => (.error {.dao ("dao-decr-parse-u64::" ++ key)}, a)
      | some n =>
        if n = 0 then (.ok (.count 0), a)
        else if n = 1 then (.ok (.count 0), a.erase key)
        else (.ok (.count (n - 1)), a.put key { entry with value := toString (n - 1) })
  | .compareAndUpdateIfGreater key newValue ttl =>
    match (a.entry key).map fun entry => (entry.value, parseU64 entry.value) with
    | some (value, none) => (.error {.dao ("dao-cas-parse-u64::" ++ key ++ "::" ++ value)}, a)
    | some (_, some n) =>
      if n < newValue then (.ok (.updated true), a.put key ⟨toString newValue, deadline x ttl⟩)
      else (.ok (.updated false), a)
    | none =>
      if 0 < newValue then (.ok (.updated true), a.put key ⟨toString newValue, deadline x ttl⟩)
      else (.ok (.updated false), a)

noncomputable def perform (a : DaoMap) (x : Instant) (call : DaoCall) :
    Except (Set GarrisonError) DaoAnswer × DaoMap := meaning x (a.asOf x) call

end DaoMap

/-- The answers are the same; where one is an error, the other may be it. -/
def Agrees : Except DaoStop DaoAnswer → Except (Set GarrisonError) DaoAnswer → Prop
  | .ok answer, .ok expected => answer = expected
  | .error (.error e), .error allowed => e ∈ allowed
  | _, _ => False

namespace MemoryGarrisonDao

/-- A call on the map is one on the other at an instant between its looks at the clock. -/
structure Tracks (m : Inner) (r : Readings) (call : DaoCall) (a : DaoMap) (x : Instant) : Prop where
  after : r.check ≤ x
  before : x ≤ r.stamp
  agrees : Agrees (perform m r call).1 (DaoMap.perform a x call).1
  same : (ExpiringMap.ofAList (perform m r call).2).Same x (DaoMap.perform a x call).2

/-- The calls that go right: an expiry is in range; what is found has not expired by the second
look at the clock, where that matters; and a key is not renamed to itself. -/
def Meets (m : Inner) (r : Readings) : DaoCall → Prop
  | .set _ _ ttl => Fits r.stamp ttl
  | .expire key seconds => ∀ entry ∈ found m r.check key,
      Fits r.stamp seconds ∧ (seconds = 0 ∨ entry.Live r.stamp)
  | .getTimeout key => ∀ entry ∈ found m r.check key, entry.expireAt ≠ some r.stamp
  | .getWithTtl key => ∀ entry ∈ found m r.check key, entry.Live r.stamp
  | .rename oldKey newKey => oldKey = newKey → found m r.check oldKey = none
  | .incr key ttl => found m r.check key = none → Fits r.stamp ttl
  | .compareAndUpdateIfGreater key newValue ttl =>
    ∀ n ∈ stored m r.check key, n < newValue → Fits r.stamp ttl
  | .get _ | .update _ _ | .delete _ | .setPermanent _ _ | .keys _ | .getAndDelete _ | .decr _ => True

variable {m : Inner} {r : Readings} {x now : Instant} {key value : String} {ttl : UInt64}
  {entry : Entry}

theorem entry_asOf (m : Inner) (x : Instant) (key : String) :
    ((ExpiringMap.ofAList m).asOf x).entry key = found m x key := rfl

theorem expiry_of_fits (h : Fits now ttl) : expiry now ttl = .ok (DaoMap.deadline now ttl) := by
  unfold expiry DaoMap.deadline
  by_cases hzero : ttl = 0
  · rw [if_pos hzero, if_pos hzero]
  · rw [if_neg hzero, if_neg hzero, Instant.checkedAdd, if_pos (h.resolve_left hzero)]

theorem expiry_of_not_fits (h : ¬ Fits now ttl) : expiry now ttl = .error .panicked := by
  obtain ⟨hzero, hlate⟩ := not_or.mp h
  rw [expiry, if_neg hzero, Instant.checkedAdd, if_neg hlate]

theorem same_insert (m : Inner) (x : Instant) (key : String) (entry : Entry) :
    (ExpiringMap.ofAList (m.insert key entry)).Same x
      (((ExpiringMap.ofAList m).asOf x).put key entry) := by
  rw [ExpiringMap.ofAList_insert]
  exact ExpiringMap.same_asOf.put key entry

theorem same_erase (m : Inner) (x : Instant) (key : String) :
    (ExpiringMap.ofAList (m.erase key)).Same x (((ExpiringMap.ofAList m).asOf x).erase key) := by
  rw [ExpiringMap.ofAList_erase]
  exact ExpiringMap.same_asOf.erase key

/-! ## Calls that look at the clock once -/

theorem tracks_get (hr : r.check ≤ r.stamp) :
    Tracks m r (.get key) (ExpiringMap.ofAList m) r.check := by
  cases hfound : found m r.check key with
  | some entry =>
    refine ⟨le_rfl, hr, ?_, ?_⟩ <;>
      simp only [perform, answer, DaoMap.perform, DaoMap.meaning, entry_asOf, hfound,
        get_found hfound]
    · rfl
    · exact ExpiringMap.same_asOf
  | none =>
    refine ⟨le_rfl, hr, ?_, ?_⟩ <;>
      simp only [perform, answer, DaoMap.perform, DaoMap.meaning, entry_asOf, hfound,
        get_lost hfound]
    · rfl
    · exact ExpiringMap.same_asOf

theorem tracks_update (hr : r.check ≤ r.stamp) :
    Tracks m r (.update key value) (ExpiringMap.ofAList m) r.check := by
  cases hfound : found m r.check key with
  | some entry =>
    refine ⟨le_rfl, hr, ?_, ?_⟩ <;>
      simp only [perform, answer, DaoMap.perform, DaoMap.meaning, entry_asOf, hfound,
        update_found hfound]
    · rfl
    · exact same_insert m _ key _
  | none =>
    obtain ⟨e, he, hupdate⟩ := update_lost value hfound
    refine ⟨le_rfl, hr, ?_, ?_⟩ <;>
      simp only [perform, answer, DaoMap.perform, DaoMap.meaning, entry_asOf, hfound, hupdate]
    · exact he
    · exact ExpiringMap.same_asOf

theorem tracks_delete (hr : r.check ≤ r.stamp) :
    Tracks m r (.delete key) (ExpiringMap.ofAList m) r.check :=
  ⟨le_rfl, hr, rfl, same_erase m _ key⟩

theorem tracks_setPermanent (hr : r.check ≤ r.stamp) :
    Tracks m r (.setPermanent key value) (ExpiringMap.ofAList m) r.check :=
  ⟨le_rfl, hr, rfl, same_insert m _ key _⟩

theorem tracks_getAndDelete (hr : r.check ≤ r.stamp) :
    Tracks m r (.getAndDelete key) (ExpiringMap.ofAList m) r.check := by
  cases hfound : found m r.check key with
  | some entry =>
    refine ⟨le_rfl, hr, ?_, ?_⟩ <;>
      simp only [perform, answer, DaoMap.perform, DaoMap.meaning, entry_asOf, hfound,
        getAndDelete_found hfound]
    · rfl
    · exact same_erase m _ key
  | none =>
    refine ⟨le_rfl, hr, ?_, ?_⟩ <;>
      simp only [perform, answer, DaoMap.perform, DaoMap.meaning, entry_asOf, hfound,
        getAndDelete_lost hfound]
    · rfl
    · exact same_erase m _ key

theorem tracks_decr (hr : r.check ≤ r.stamp) :
    Tracks m r (.decr key) (ExpiringMap.ofAList m) r.check := by
  cases hfound : found m r.check key with
  | none =>
    refine ⟨le_rfl, hr, ?_, ?_⟩ <;>
      simp only [perform, answer, DaoMap.perform, DaoMap.meaning, entry_asOf, hfound,
        decr_lost hfound]
    · rfl
    · exact ExpiringMap.same_asOf
  | some entry =>
    cases hparse : parseU64 entry.value with
    | none =>
      refine ⟨le_rfl, hr, ?_, ?_⟩ <;>
        simp only [perform, answer, DaoMap.perform, DaoMap.meaning, entry_asOf, hfound,
          decr_found hfound, hparse]
      · rfl
      · exact ExpiringMap.same_asOf
    | some n =>
      by_cases hzero : n = 0
      · refine ⟨le_rfl, hr, ?_, ?_⟩ <;>
          simp only [perform, answer, DaoMap.perform, DaoMap.meaning, entry_asOf, hfound,
            decr_found hfound, hparse, if_pos hzero]
        · rfl
        · exact ExpiringMap.same_asOf
      · by_cases hone : n = 1
        · have hlast : n - 1 = 0 := by rw [hone]; rfl
          refine ⟨le_rfl, hr, ?_, ?_⟩ <;>
            simp only [perform, answer, DaoMap.perform, DaoMap.meaning, entry_asOf, hfound,
              decr_found hfound, hparse, if_neg hzero, if_pos hone, if_pos hlast]
          · rw [hlast]
            rfl
          · exact same_erase m _ key
        · have hmore : n - 1 ≠ 0 := fun h => hone (UInt64.sub_eq_iff_eq_add.mp h)
          refine ⟨le_rfl, hr, ?_, ?_⟩ <;>
            simp only [perform, answer, DaoMap.perform, DaoMap.meaning, entry_asOf, hfound,
              decr_found hfound, hparse, if_neg hzero, if_neg hone, if_neg hmore]
          · rfl
          · exact same_insert m _ key _

/-! ## Patterns -/

/-- **The pattern matches** the texts of its language. -/
theorem globMatchInner_iff {pattern text : List Char} {ti : ℕ} (hti : ti ≤ text.length) :
    globMatchInner pattern text ti = true ↔ text.drop ti ∈ globLanguage '*' '?' pattern := by
  induction pattern generalizing ti with
  | nil =>
    rw [mem_glob_nil, List.drop_eq_nil_iff, globMatchInner, beq_iff_eq]
    exact ⟨fun h => h.ge, fun h => Nat.le_antisymm hti h⟩
  | cons c rest ih =>
    rw [globMatchInner]
    by_cases hmany : c = '*'
    · subst hmany
      rw [if_pos rfl, mem_glob_many, List.any_eq_true, List.length_drop]
      constructor
      · rintro ⟨skip, hskip, hmatch⟩
        have hle := Nat.lt_succ_iff.mp (List.mem_range.mp hskip)
        refine ⟨skip, hle, ?_⟩
        rw [List.drop_drop]
        exact (ih (by omega)).mp hmatch
      · rintro ⟨skip, hle, hrest⟩
        rw [List.drop_drop] at hrest
        exact ⟨skip, List.mem_range.mpr (Nat.lt_succ_of_le hle), (ih (by omega)).mpr hrest⟩
    · rw [if_neg hmany]
      -- the other letters take one letter of the text, if there is one
      by_cases hend : text.length ≤ ti
      · have hnil : text.drop ti = [] := List.drop_eq_nil_of_le hend
        rw [hnil]
        by_cases hone : c = '?'
        · subst hone
          rw [if_pos rfl, if_pos hend, mem_glob_one hmany]
          simp
        · rw [if_neg hone, mem_glob_letter hmany hone]
          simp [hend]
      · have hlt : ti < text.length := Nat.not_le.mp hend
        rw [List.drop_eq_getElem_cons hlt]
        by_cases hone : c = '?'
        · subst hone
          rw [if_pos rfl, if_neg hend, mem_glob_one hmany, ih hlt]
          constructor
          · exact fun hmem => ⟨_, _, rfl, hmem⟩
          · rintro ⟨d, tail, heq, hmem⟩
            rwa [(List.cons.inj heq).2]
        · rw [if_neg hone, mem_glob_letter hmany hone, List.getElem?_eq_getElem hlt]
          by_cases hletter : text[ti] = c
          · simp [hletter, hlt, ih hlt]
          · refine iff_of_false (by simp [hletter]) ?_
            rintro ⟨tail, heq, -⟩
            exact hletter (List.cons.inj heq).1

theorem globMatch_iff {pattern text : String} :
    globMatch pattern text = true ↔ text.toList ∈ globLanguage '*' '?' pattern.toList :=
  globMatchInner_iff (Nat.zero_le _)

open Classical in
theorem keys_eq (m : Inner) (x : Instant) (pattern : String) :
    (((m.entries.filter fun e => !isExpired x e.2 && globMatch pattern e.1).map Sigma.fst :
      List String) : Multiset String) = (((ExpiringMap.ofAList m).asOf x).keys.filter fun key =>
        key.toList ∈ globLanguage '*' '?' pattern.toList).val := by
  have hnodup : ((m.entries.filter fun e => !isExpired x e.2 && globMatch pattern e.1).map
      Sigma.fst).Nodup := m.keys_nodup.sublist (List.filter_sublist.map _)
  refine (Multiset.Nodup.ext (Multiset.coe_nodup.mpr hnodup) (Finset.nodup _)).mpr fun key => ?_
  rw [Multiset.mem_coe, List.mem_map, Finset.mem_val, Finset.mem_filter, ExpiringMap.mem_keys,
    entry_asOf, ← globMatch_iff]
  constructor
  · rintro ⟨⟨key, entry⟩, hmem, rfl⟩
    obtain ⟨hentry, hboth⟩ := List.mem_filter.mp hmem
    obtain ⟨hlive, hmatch⟩ := Bool.and_eq_true_iff.mp hboth
    rw [isExpired_eq, Bool.not_not, decide_eq_true_eq] at hlive
    have hfound := found_eq_some.mpr ⟨AList.mem_lookup_iff.mpr hentry, hlive⟩
    exact ⟨Option.ne_none_iff_exists'.mpr ⟨entry, hfound⟩, hmatch⟩
  · rintro ⟨hfound, hmatch⟩
    obtain ⟨entry, hfound⟩ := Option.ne_none_iff_exists'.mp hfound
    obtain ⟨hlookup, hlive⟩ := lookup_of_found hfound
    refine ⟨⟨key, entry⟩, List.mem_filter.mpr ⟨AList.mem_lookup_iff.mp hlookup, ?_⟩, rfl⟩
    simp [hlive, hmatch]

theorem keys_of_le {pattern : String} (hsize : pattern.utf8ByteSize ≤ 256) (m : Inner)
    (now : Instant) : ∃ listed : Finset String, keys m now pattern = .ok listed.val ∧
      ∀ key, key ∈ listed ↔ (∃ entry ∈ m.lookup key, entry.Live now) ∧
        Splits '*' '?' pattern.toList key.toList := by
  classical
  refine ⟨_, by rw [keys, if_neg (Nat.not_lt.mpr hsize), keys_eq], fun key => ?_⟩
  rw [Finset.mem_filter, ExpiringMap.mem_keys, entry_asOf, ← mem_globLanguage]
  refine and_congr_left' ?_
  constructor
  · intro hfound
    obtain ⟨entry, hentry⟩ := Option.ne_none_iff_exists'.mp hfound
    exact ⟨entry, (found_eq_some.mp hentry).1, (found_eq_some.mp hentry).2⟩
  · rintro ⟨entry, hlookup, hlive⟩
    exact Option.ne_none_iff_exists'.mpr ⟨entry, found_eq_some.mpr ⟨hlookup, hlive⟩⟩

theorem keys_of_lt {pattern : String} (hsize : 256 < pattern.utf8ByteSize) (m : Inner)
    (now : Instant) : keys m now pattern = .error (.error (.invalidParam
      ("dao-keys-pattern-too-long::" ++ toString pattern.utf8ByteSize))) := if_pos hsize

/-- **A pattern matches** the texts that can be split along it; a pattern of at most 256 bytes lists
the keys that have not expired and match, each once; and a longer one is refused. -/
theorem keys_of_pattern (pattern : String) :
    (∀ text : String,
      globMatch pattern text = true ↔ Splits '*' '?' pattern.toList text.toList) ∧
    (pattern.utf8ByteSize ≤ 256 → ∀ (m : Inner) (now : Instant), ∃ listed : Finset String,
      keys m now pattern = .ok listed.val ∧
      ∀ key, key ∈ listed ↔ (∃ entry ∈ m.lookup key, entry.Live now) ∧
        Splits '*' '?' pattern.toList key.toList) ∧
    (256 < pattern.utf8ByteSize → ∀ (m : Inner) (now : Instant),
      keys m now pattern = .error (.error (.invalidParam
        ("dao-keys-pattern-too-long::" ++ toString pattern.utf8ByteSize)))) :=
  ⟨fun _ => globMatch_iff.trans mem_globLanguage, keys_of_le, keys_of_lt⟩

def stars (n : ℕ) : String := String.ofList (List.replicate (n + 1) '*')

theorem long_of_stars {n : ℕ} (hn : 256 ≤ n) : 256 < (stars n).utf8ByteSize := by
  have hstar : '*'.utf8Size = 1 := rfl
  rw [stars, String.utf8ByteSize_ofList, Text.utf8Len_replicate, hstar]
  omega

theorem long_pattern_refused :
    (∃ entry ∈ AList.lookup "session" (AList.insert "session" ⟨"alice", none⟩ ∅ : Inner),
      entry.Live 5) ∧
    Splits '*' '?' (stars 256).toList "session".toList ∧
    ∀ listed, keys (AList.insert "session" ⟨"alice", none⟩ ∅) 5 (stars 256) ≠ .ok listed := by
  refine ⟨⟨⟨"alice", none⟩, AList.lookup_insert _, by rintro t ⟨⟩⟩, ?_, fun listed h => ?_⟩
  · rw [stars, String.toList_ofList]
    exact splits_many _ 256
  · rw [keys_of_lt (long_of_stars le_rfl)] at h
    cases h

theorem tracks_keys {pattern : String} (hr : r.check ≤ r.stamp) :
    Tracks m r (.keys pattern) (ExpiringMap.ofAList m) r.check := by
  by_cases hlong : pattern.utf8ByteSize > 256
  · refine ⟨le_rfl, hr, ?_, ?_⟩ <;>
      simp only [perform, answer, DaoMap.perform, DaoMap.meaning, keys, if_pos hlong]
    · rfl
    · exact ExpiringMap.same_asOf
  · refine ⟨le_rfl, hr, ?_, ?_⟩ <;>
      simp only [perform, answer, DaoMap.perform, DaoMap.meaning, keys, if_neg hlong]
    · exact congrArg DaoAnswer.keys (keys_eq m r.check pattern)
    · exact ExpiringMap.same_asOf

theorem tracks_rename {oldKey newKey : String} (hr : r.check ≤ r.stamp)
    (h : oldKey = newKey → found m r.check oldKey = none) :
    Tracks m r (.rename oldKey newKey) (ExpiringMap.ofAList m) r.check := by
  cases hfound : found m r.check oldKey with
  | none =>
    refine ⟨le_rfl, hr, ?_, ?_⟩ <;>
      simp only [perform, answer, DaoMap.perform, DaoMap.meaning, entry_asOf, rename_eq, hfound]
    · rfl
    · exact ExpiringMap.same_asOf
  | some entry =>
    have hne : newKey ≠ oldKey := by
      rintro rfl
      cases hfound.symm.trans (h rfl)
    refine ⟨le_rfl, hr, ?_, ?_⟩ <;>
      simp only [perform, answer, DaoMap.perform, DaoMap.meaning, entry_asOf, rename_eq, hfound]
    · rfl
    · rw [ExpiringMap.ofAList_erase, ExpiringMap.ofAList_insert, ExpiringMap.put_erase_of_ne hne]
      exact (ExpiringMap.same_asOf.erase oldKey).put newKey entry

/-- A key that is renamed to itself is gone. -/
theorem not_tracks_rename_self (hfound : found m r.check key = some entry) :
    ¬ Tracks m r (.rename key key) (ExpiringMap.ofAList m) x := by
  intro htracks
  have hagrees := htracks.agrees
  have hsame := htracks.same
  simp only [perform, answer, DaoMap.perform, DaoMap.meaning, entry_asOf, rename_eq, hfound]
    at hagrees hsame
  cases hlater : found m x key with
  | none =>
    rw [hlater] at hagrees
    exact hagrees
  | some other =>
    rw [hlater] at hsame
    have hentry := hsame.entry_eq key
    rw [ExpiringMap.ofAList_erase, ExpiringMap.entry_erase_self, ExpiringMap.entry_put_self,
      Option.filter_none, Option.filter_some, if_pos] at hentry
    · cases hentry
    · exact decide_eq_true (found_eq_some.mp hlater).2

/-! ## Calls that look at the clock twice -/

theorem not_tracks_of_panic {call : DaoCall} (hpanic : (perform m r call).1 = .error .panicked) :
    ¬ Tracks m r call (ExpiringMap.ofAList m) x := by
  intro htracks
  have hagrees := htracks.agrees
  rw [hpanic] at hagrees
  exact hagrees

theorem tracks_set_iff (hr : r.check ≤ r.stamp) :
    (∃ x, Tracks m r (.set key value ttl) (ExpiringMap.ofAList m) x) ↔ Fits r.stamp ttl := by
  by_cases hfits : Fits r.stamp ttl
  · refine iff_of_true ⟨r.stamp, hr, le_rfl, ?_, ?_⟩ hfits <;>
      simp only [perform, answer, DaoMap.perform, DaoMap.meaning, set, expiry_of_fits hfits]
    · rfl
    · exact same_insert m _ key _
  · refine iff_of_false (not_exists.mpr fun x => not_tracks_of_panic ?_) hfits
    simp only [perform, answer, set, expiry_of_not_fits hfits]
    rfl

/-- An expiry that is set only at the second look at the clock, when the entry has expired. -/
theorem not_tracks_expire {seconds : UInt64} (hzero : seconds ≠ 0) (hfits : Fits r.stamp seconds)
    (hfound : found m r.check key = some entry) (hlate : ¬ entry.Live r.stamp) :
    ¬ Tracks m r (.expire key seconds) (ExpiringMap.ofAList m) x := by
  intro htracks
  have hagrees := htracks.agrees
  have hsame := htracks.same
  simp only [perform, answer, DaoMap.perform, DaoMap.meaning, entry_asOf, expire_found r hfound,
    expiry_of_fits hfits] at hagrees hsame
  cases hlater : found m x key with
  | none =>
    rw [hlater] at hagrees
    exact hagrees
  | some other =>
    obtain ⟨hlookup, hlive⟩ := found_eq_some.mp hlater
    cases (found_eq_some.mp hfound).1.symm.trans hlookup
    rw [hlater] at hsame
    have hentry := hsame.entry_eq key
    rw [ExpiringMap.ofAList_insert, ExpiringMap.entry_put_self, ExpiringMap.entry_put_self] at hentry
    have hpos : 0 < Duration.fromSecs seconds := Nat.mul_pos
      (UInt64.lt_iff_toNat_lt.mp (UInt64.pos_iff_ne_zero.mpr hzero)) (by decide)
    have hstamp : x < r.stamp + Duration.fromSecs seconds :=
      Nat.lt_of_le_of_lt htracks.before (Nat.lt_add_of_pos_right hpos)
    have hat : x < x + Duration.fromSecs seconds := Nat.lt_add_of_pos_right hpos
    simp only [DaoMap.deadline, if_neg hzero, Option.filter_some, Timed.Live, Option.mem_some_iff,
      forall_eq', hstamp, hat, decide_true, if_true, Option.some.injEq, Timed.mk.injEq,
      true_and] at hentry
    -- the two expiries are the same only if the second look at the clock is the instant of the call
    have hx : x = r.stamp := (Nat.add_right_cancel hentry).symm
    exact hlate (hx ▸ hlive)

theorem tracks_expire_iff {seconds : UInt64} (hr : r.check ≤ r.stamp) :
    (∃ x, Tracks m r (.expire key seconds) (ExpiringMap.ofAList m) x) ↔
      Meets m r (.expire key seconds) := by
  cases hfound : found m r.check key with
  | none =>
    obtain ⟨e, he, hexpire⟩ := expire_lost r seconds hfound
    refine iff_of_true ⟨r.check, le_rfl, hr, ?_, ?_⟩ ?_
    · simp only [perform, answer, DaoMap.perform, DaoMap.meaning, entry_asOf, hfound, hexpire]
      exact he
    · simp only [perform, answer, DaoMap.perform, DaoMap.meaning, entry_asOf, hfound, hexpire]
      exact ExpiringMap.same_asOf
    · intro entry hentry
      cases hfound.symm.trans hentry
  | some entry =>
    have hmeets : Meets m r (.expire key seconds) ↔
        Fits r.stamp seconds ∧ (seconds = 0 ∨ entry.Live r.stamp) := by
      simp only [Meets, hfound, Option.mem_some_iff, forall_eq']
    rw [hmeets]
    by_cases hfits : Fits r.stamp seconds
    · by_cases hzero : seconds = 0
      · refine iff_of_true ⟨r.check, le_rfl, hr, ?_, ?_⟩ ⟨hfits, Or.inl hzero⟩ <;>
          simp only [perform, answer, DaoMap.perform, DaoMap.meaning, entry_asOf, hfound,
            expire_found r hfound, expiry_of_fits hfits]
        · rfl
        · simp only [DaoMap.deadline, if_pos hzero]
          exact same_insert m _ key _
      · by_cases hlive : entry.Live r.stamp
        · have hlater := found_eq_some.mpr ⟨(found_eq_some.mp hfound).1, hlive⟩
          refine iff_of_true ⟨r.stamp, hr, le_rfl, ?_, ?_⟩ ⟨hfits, Or.inr hlive⟩ <;>
            simp only [perform, answer, DaoMap.perform, DaoMap.meaning, entry_asOf, hlater,
              expire_found r hfound, expiry_of_fits hfits]
          · rfl
          · exact same_insert m _ key _
        · apply iff_of_false
          · exact not_exists.mpr fun x => not_tracks_expire hzero hfits hfound hlive
          · exact fun h => hlive (h.2.resolve_left hzero)
    · apply iff_of_false
      · refine not_exists.mpr fun x => not_tracks_of_panic ?_
        simp only [perform, answer, expire_found r hfound, expiry_of_not_fits hfits]
        rfl
      · exact fun h => hfits h.1

/-! ## The time that is left -/

theorem found_of_lookup (hlookup : m.lookup key = some entry) (hlive : entry.Live x) :
    found m x key = some entry := found_eq_some.mpr ⟨hlookup, hlive⟩

theorem lost_of_lookup (hlookup : m.lookup key = some entry) (hlive : ¬ entry.Live x) :
    found m x key = none := by
  rw [found, hlookup, Option.filter_some, if_neg (by simpa using hlive)]

theorem remainingTtl_of_live (h : entry.Live now) :
    remainingTtl now entry = DaoMap.timeLeft now entry := by
  obtain ⟨value, expireAt⟩ := entry
  cases expireAt with
  | none => rfl
  | some t => exact if_pos (le_of_lt (h t rfl))

theorem remainingTtl_of_late {t : Instant} (ht : entry.expireAt = some t) (hlate : t < now) :
    remainingTtl now entry = none := by
  rw [remainingTtl, ht]
  exact if_neg (Nat.not_le.mpr hlate)

theorem remainingTtl_of_now (ht : entry.expireAt = some now) : remainingTtl now entry = some 0 := by
  rw [remainingTtl, ht]
  exact (if_pos le_rfl).trans (congrArg some (Nat.sub_self now))

/-- An entry that is there and will expire has some time left. -/
theorem timeLeft_of_live {t : Instant} (ht : entry.expireAt = some t) (hlive : entry.Live x) :
    ∃ left, 0 < left ∧ DaoMap.timeLeft x entry = some left :=
  ⟨t - x, Nat.sub_pos_of_lt (hlive t ht), by rw [DaoMap.timeLeft, ht]; rfl⟩

theorem expires_of_not_live (hlive : ¬ entry.Live now) : ∃ t ≤ now, entry.expireAt = some t := by
  have hexpires : ∃ t ∈ entry.expireAt, ¬ now < t := by
    simpa only [Timed.Live, not_forall, exists_prop] using hlive
  obtain ⟨t, ht, hle⟩ := hexpires
  exact ⟨t, Nat.not_lt.mp hle, ht⟩

/-- An entry that expires at the second look at the clock has no time left and is still there. -/
theorem not_tracks_getTimeout (hfound : found m r.check key = some entry)
    (hnow : entry.expireAt = some r.stamp) :
    ¬ Tracks m r (.getTimeout key) (ExpiringMap.ofAList m) x := by
  intro htracks
  have hagrees := htracks.agrees
  simp only [perform, answer, DaoMap.perform, DaoMap.meaning, entry_asOf, getTimeout_found r hfound,
    remainingTtl_of_now hnow] at hagrees
  have hsome : DaoAnswer.timeout (some 0) =
      .timeout ((found m x key).bind (DaoMap.timeLeft x)) := hagrees
  have hleft := DaoAnswer.timeout.inj hsome
  cases hlater : found m x key with
  | none =>
    rw [hlater] at hleft
    cases hleft
  | some other =>
    obtain ⟨hlookup, hlive⟩ := found_eq_some.mp hlater
    cases (found_eq_some.mp hfound).1.symm.trans hlookup
    obtain ⟨left, hpos, heq⟩ := timeLeft_of_live hnow hlive
    rw [hlater, Option.bind_some, heq] at hleft
    cases hleft
    exact lt_irrefl _ hpos

theorem tracks_getTimeout_iff (hr : r.check ≤ r.stamp) :
    (∃ x, Tracks m r (.getTimeout key) (ExpiringMap.ofAList m) x) ↔ Meets m r (.getTimeout key) := by
  cases hfound : found m r.check key with
  | none =>
    refine iff_of_true ⟨r.check, le_rfl, hr, ?_, ExpiringMap.same_asOf⟩ ?_
    · simp only [perform, answer, DaoMap.perform, DaoMap.meaning, entry_asOf, hfound,
        getTimeout_lost r hfound]
      rfl
    · intro entry hentry
      cases hfound.symm.trans hentry
  | some entry =>
    have hmeets : Meets m r (.getTimeout key) ↔ entry.expireAt ≠ some r.stamp := by
      simp only [Meets, hfound, Option.mem_some_iff, forall_eq']
    have hlookup := (found_eq_some.mp hfound).1
    rw [hmeets]
    by_cases hlive : entry.Live r.stamp
    · refine iff_of_true ⟨r.stamp, hr, le_rfl, ?_, ExpiringMap.same_asOf⟩ ?_
      · simp only [perform, answer, DaoMap.perform, DaoMap.meaning, entry_asOf,
          found_of_lookup hlookup hlive, getTimeout_found r hfound, remainingTtl_of_live hlive]
        rfl
      · exact fun hnow => lt_irrefl _ (hlive _ hnow)
    · obtain ⟨t, hle, ht⟩ := expires_of_not_live hlive
      rcases Nat.lt_or_eq_of_le hle with hlate | rfl
      · refine iff_of_true ⟨r.stamp, hr, le_rfl, ?_, ExpiringMap.same_asOf⟩ ?_
        · simp only [perform, answer, DaoMap.perform, DaoMap.meaning, entry_asOf,
            lost_of_lookup hlookup hlive, getTimeout_found r hfound, remainingTtl_of_late ht hlate]
          rfl
        · intro hnow
          cases ht.symm.trans hnow
          exact lt_irrefl _ hlate
      · apply iff_of_false
        · exact not_exists.mpr fun x => not_tracks_getTimeout hfound ht
        · exact fun h => h ht

/-- An entry that has expired by the second look at the clock is told without the time left. -/
theorem not_tracks_getWithTtl (hfound : found m r.check key = some entry)
    (hlate : ¬ entry.Live r.stamp) :
    ¬ Tracks m r (.getWithTtl key) (ExpiringMap.ofAList m) x := by
  intro htracks
  have hagrees := htracks.agrees
  simp only [perform, answer, DaoMap.perform, DaoMap.meaning, entry_asOf,
    getWithTtl_found r hfound] at hagrees
  have htold : DaoAnswer.valueWithTtl (some (entry.value, remainingTtl r.stamp entry)) =
      .valueWithTtl ((found m x key).map fun e => (e.value, DaoMap.timeLeft x e)) := hagrees
  have hleft := DaoAnswer.valueWithTtl.inj htold
  cases hlater : found m x key with
  | none =>
    rw [hlater] at hleft
    cases hleft
  | some other =>
    obtain ⟨hlookup, hlive⟩ := found_eq_some.mp hlater
    cases (found_eq_some.mp hfound).1.symm.trans hlookup
    obtain ⟨t, hle, ht⟩ := expires_of_not_live hlate
    obtain ⟨left, hpos, heq⟩ := timeLeft_of_live ht hlive
    rw [hlater, Option.map_some, heq] at hleft
    have hremaining := (Prod.mk.inj (Option.some.inj hleft)).2
    rcases Nat.lt_or_eq_of_le hle with hgone | rfl
    · rw [remainingTtl_of_late ht hgone] at hremaining
      cases hremaining
    · rw [remainingTtl_of_now ht] at hremaining
      cases hremaining
      exact lt_irrefl _ hpos

theorem tracks_getWithTtl_iff (hr : r.check ≤ r.stamp) :
    (∃ x, Tracks m r (.getWithTtl key) (ExpiringMap.ofAList m) x) ↔
      Meets m r (.getWithTtl key) := by
  cases hfound : found m r.check key with
  | none =>
    refine iff_of_true ⟨r.check, le_rfl, hr, ?_, ExpiringMap.same_asOf⟩ ?_
    · simp only [perform, answer, DaoMap.perform, DaoMap.meaning, entry_asOf, hfound,
        getWithTtl_lost r hfound]
      rfl
    · intro entry hentry
      cases hfound.symm.trans hentry
  | some entry =>
    have hmeets : Meets m r (.getWithTtl key) ↔ entry.Live r.stamp := by
      simp only [Meets, hfound, Option.mem_some_iff, forall_eq']
    rw [hmeets]
    by_cases hlive : entry.Live r.stamp
    · refine iff_of_true ⟨r.stamp, hr, le_rfl, ?_, ExpiringMap.same_asOf⟩ hlive
      simp only [perform, answer, DaoMap.perform, DaoMap.meaning, entry_asOf,
        found_of_lookup (found_eq_some.mp hfound).1 hlive, getWithTtl_found r hfound,
        remainingTtl_of_live hlive]
      rfl
    · exact iff_of_false (not_exists.mpr fun x => not_tracks_getWithTtl hfound hlive) hlive

/-! ## Counters -/

theorem tracks_incr_found (hr : r.check ≤ r.stamp) (hfound : found m r.check key = some entry) :
    Tracks m r (.incr key ttl) (ExpiringMap.ofAList m) r.check := by
  cases hparse : parseU64 entry.value with
  | none =>
    refine ⟨le_rfl, hr, ?_, ?_⟩ <;>
      simp only [perform, answer, DaoMap.perform, DaoMap.meaning, entry_asOf, hfound,
        incr_found r hfound, hparse]
    · rfl
    · exact ExpiringMap.same_asOf
  | some n =>
    by_cases hroom : n.toNat + 1 < 2 ^ 64
    · refine ⟨le_rfl, hr, ?_, ?_⟩ <;>
        simp only [perform, answer, DaoMap.perform, DaoMap.meaning, entry_asOf, hfound,
          incr_found r hfound, hparse, if_pos hroom]
      · rfl
      · exact same_insert m _ key _
    · refine ⟨le_rfl, hr, ?_, ?_⟩ <;>
        simp only [perform, answer, DaoMap.perform, DaoMap.meaning, entry_asOf, hfound,
          incr_found r hfound, hparse, if_neg hroom]
      · rfl
      · exact ExpiringMap.same_asOf

theorem tracks_incr_iff (hr : r.check ≤ r.stamp) :
    (∃ x, Tracks m r (.incr key ttl) (ExpiringMap.ofAList m) x) ↔ Meets m r (.incr key ttl) := by
  cases hfound : found m r.check key with
  | some entry =>
    refine iff_of_true ⟨r.check, tracks_incr_found hr hfound⟩ fun hlost => ?_
    cases hfound.symm.trans hlost
  | none =>
    have hlost := found_of_lost hr hfound
    by_cases hfits : Fits r.stamp ttl
    · refine iff_of_true ⟨r.stamp, hr, le_rfl, ?_, ?_⟩ fun _ => hfits <;>
        simp only [perform, answer, DaoMap.perform, DaoMap.meaning, entry_asOf, hlost,
          incr_lost r hfound, insertOne, expiry_of_fits hfits]
      · rfl
      · exact same_insert m _ key _
    · apply iff_of_false
      · refine not_exists.mpr fun x => not_tracks_of_panic ?_
        simp only [perform, answer, incr_lost r hfound, insertOne, expiry_of_not_fits hfits]
        rfl
      · exact fun h => hfits (h hfound)

/-- A number that is greater is written whatever has expired in the meantime. -/
theorem meaning_of_greater {n newValue : UInt64} (hstored : stored m now key = some n)
    (hgreater : n < newValue) (hle : now ≤ x) :
    DaoMap.perform (ExpiringMap.ofAList m) x (.compareAndUpdateIfGreater key newValue ttl) =
      (.ok (.updated true),
        ((ExpiringMap.ofAList m).asOf x).put key ⟨toString newValue, DaoMap.deadline x ttl⟩) := by
  have hpos : 0 < newValue :=
    UInt64.pos_iff_ne_zero.mpr fun hzero => UInt64.not_lt_zero (hzero ▸ hgreater)
  simp only [DaoMap.perform, DaoMap.meaning, entry_asOf]
  cases hlater : found m x key with
  | none => exact if_pos hpos
  | some entry =>
    obtain ⟨hlookup, hlive⟩ := found_eq_some.mp hlater
    rw [stored, found_of_lookup hlookup (hlive.of_le hle)] at hstored
    simp only [Option.map_some, hstored]
    exact if_pos hgreater

theorem current_of_stored {n : UInt64} (hstored : stored m now key = some n) :
    current m now key = .ok n := by
  unfold stored at hstored
  cases hfound : found m now key with
  | none =>
    rw [hfound] at hstored
    cases hstored
    exact current_lost hfound
  | some entry =>
    rw [hfound] at hstored
    have hparse : parseU64 entry.value = some n := hstored
    rw [current_found hfound, hparse]

theorem found_of_not_stored (hstored : stored m now key = none) :
    ∃ entry, found m now key = some entry ∧ parseU64 entry.value = none := by
  unfold stored at hstored
  cases hfound : found m now key with
  | none =>
    rw [hfound] at hstored
    cases hstored
  | some entry =>
    rw [hfound] at hstored
    exact ⟨entry, rfl, hstored⟩

theorem tracks_compareAndUpdate_iff {newValue : UInt64} (hr : r.check ≤ r.stamp) :
    (∃ x, Tracks m r (.compareAndUpdateIfGreater key newValue ttl) (ExpiringMap.ofAList m) x) ↔
      Meets m r (.compareAndUpdateIfGreater key newValue ttl) := by
  cases hstored : stored m r.check key with
  | none =>
    obtain ⟨entry, hfound, hparse⟩ := found_of_not_stored hstored
    refine iff_of_true ⟨r.check, le_rfl, hr, ?_, ?_⟩ ?_
    · simp only [perform, answer, DaoMap.perform, DaoMap.meaning, entry_asOf, hfound,
        compareAndUpdateIfGreater, current_found hfound, Option.map_some, hparse]
      rfl
    · simp only [perform, answer, DaoMap.perform, DaoMap.meaning, entry_asOf, hfound,
        compareAndUpdateIfGreater, current_found hfound, Option.map_some, hparse]
      exact ExpiringMap.same_asOf
    · intro n hn
      cases hstored.symm.trans hn
  | some n =>
    have hcurrent := current_of_stored hstored
    by_cases hgreater : n < newValue
    · have hmeets : Meets m r (.compareAndUpdateIfGreater key newValue ttl) ↔ Fits r.stamp ttl := by
        simp only [Meets, hstored, Option.mem_some_iff, forall_eq', hgreater, forall_const]
      rw [hmeets]
      by_cases hfits : Fits r.stamp ttl
      · refine iff_of_true ⟨r.stamp, hr, le_rfl, ?_, ?_⟩ hfits <;>
          rw [meaning_of_greater hstored hgreater hr] <;>
          simp only [perform, answer, compareAndUpdateIfGreater, hcurrent, gt_iff_lt,
            if_pos hgreater, expiry_of_fits hfits]
        · rfl
        · exact same_insert m _ key _
      · refine iff_of_false (not_exists.mpr fun x => not_tracks_of_panic ?_) hfits
        simp only [perform, answer, compareAndUpdateIfGreater, hcurrent, gt_iff_lt,
          if_pos hgreater, expiry_of_not_fits hfits]
        rfl
    · have hmap : DaoMap.perform (ExpiringMap.ofAList m) r.check
          (.compareAndUpdateIfGreater key newValue ttl) =
          (.ok (.updated false), (ExpiringMap.ofAList m).asOf r.check) := by
        simp only [DaoMap.perform, DaoMap.meaning, entry_asOf]
        unfold stored at hstored
        cases hfound : found m r.check key with
        | none =>
          rw [hfound] at hstored
          cases hstored
          exact if_neg hgreater
        | some entry =>
          rw [hfound] at hstored
          simp only [Option.map_some, hstored]
          exact if_neg hgreater
      refine iff_of_true ⟨r.check, le_rfl, hr, ?_, ?_⟩ ?_
      · rw [hmap]
        simp only [perform, answer, compareAndUpdateIfGreater, hcurrent, gt_iff_lt,
          if_neg hgreater]
        rfl
      · rw [hmap]
        simp only [perform, answer, compareAndUpdateIfGreater, hcurrent, gt_iff_lt,
          if_neg hgreater]
        exact ExpiringMap.same_asOf
      · intro other hother hlt
        cases hstored.symm.trans hother
        exact absurd hlt hgreater

/-! ## All calls -/

theorem tracks_iff (call : DaoCall) (hr : r.check ≤ r.stamp) :
    (∃ x, Tracks m r call (ExpiringMap.ofAList m) x) ↔ Meets m r call := by
  cases call with
  | get key => exact iff_of_true ⟨_, tracks_get hr⟩ trivial
  | set key value ttl => exact tracks_set_iff hr
  | update key value => exact iff_of_true ⟨_, tracks_update hr⟩ trivial
  | expire key seconds => exact tracks_expire_iff hr
  | delete key => exact iff_of_true ⟨_, tracks_delete hr⟩ trivial
  | setPermanent key value => exact iff_of_true ⟨_, tracks_setPermanent hr⟩ trivial
  | getTimeout key => exact tracks_getTimeout_iff hr
  | getWithTtl key => exact tracks_getWithTtl_iff hr
  | keys pattern => exact iff_of_true ⟨_, tracks_keys hr⟩ trivial
  | rename oldKey newKey =>
    constructor
    · rintro ⟨x, htracks⟩ rfl
      by_contra hfound
      obtain ⟨entry, hfound⟩ := Option.ne_none_iff_exists'.mp hfound
      exact not_tracks_rename_self hfound htracks
    · exact fun h => ⟨_, tracks_rename hr h⟩
  | getAndDelete key => exact iff_of_true ⟨_, tracks_getAndDelete hr⟩ trivial
  | incr key ttl => exact tracks_incr_iff hr
  | decr key => exact iff_of_true ⟨_, tracks_decr hr⟩ trivial
  | compareAndUpdateIfGreater key newValue ttl => exact tracks_compareAndUpdate_iff hr

/-- Maps that are the same are tracked alike. -/
theorem tracks_congr {call : DaoCall} {a : DaoMap} (h : (ExpiringMap.ofAList m).Same r.check a) :
    Tracks m r call a x ↔ Tracks m r call (ExpiringMap.ofAList m) x := by
  have hperform : r.check ≤ x →
      DaoMap.perform a x call = DaoMap.perform (ExpiringMap.ofAList m) x call := fun hx => by
    rw [DaoMap.perform, DaoMap.perform, h.mono hx]
  constructor
  · intro htracks
    obtain ⟨hafter, hbefore, hagrees, hsame⟩ := htracks
    rw [hperform hafter] at hagrees hsame
    exact ⟨hafter, hbefore, hagrees, hsame⟩
  · intro htracks
    obtain ⟨hafter, hbefore, hagrees, hsame⟩ := htracks
    rw [← hperform hafter] at hagrees hsame
    exact ⟨hafter, hbefore, hagrees, hsame⟩

end MemoryGarrisonDao

/-! ## Runs -/

/-- A call, and what the clock says during it. -/
structure DaoTurn where
  call : DaoCall
  readings : Readings

/-- The store, and what the clock said last. -/
structure MemoryGarrisonDao where
  inner : Inner
  now : Instant

namespace MemoryGarrisonDao

def new : MemoryGarrisonDao := ⟨∅, 0⟩

/-- The clock does not go back. -/
def step (s : MemoryGarrisonDao) (turn : DaoTurn) : Option MemoryGarrisonDao :=
  if s.now ≤ turn.readings.check ∧ turn.readings.check ≤ turn.readings.stamp then
    some ⟨(perform s.inner turn.readings turn.call).2, turn.readings.stamp⟩
  else none

/-- The call on the map at some instant has the same answer, and leaves the same. -/
def Follows (s : MemoryGarrisonDao) (turn : DaoTurn) (_ : MemoryGarrisonDao) (a a' : DaoMap) : Prop :=
  ∃ x, Tracks s.inner turn.readings turn.call a x ∧ a' = (DaoMap.perform a x turn.call).2

variable {s s' : MemoryGarrisonDao} {turn : DaoTurn}

theorem step_eq_some (h : step s turn = some s') :
    s.now ≤ turn.readings.check ∧ turn.readings.check ≤ turn.readings.stamp ∧
      s' = ⟨(perform s.inner turn.readings turn.call).2, turn.readings.stamp⟩ := by
  unfold step at h
  split at h
  · obtain ⟨hnow, hreadings⟩ := ‹_ ∧ _›
    exact ⟨hnow, hreadings, (Option.some.inj h).symm⟩
  · cases h

theorem simulated_iff_meets (s : MemoryGarrisonDao) (turns : List DaoTurn) :
    Simulated step Follows s (ExpiringMap.ofAList s.inner) turns ↔
      EachStep step (fun s turn _ => Meets s.inner turn.readings turn.call) s turns := by
  refine simulated_iff (R := fun s a => (ExpiringMap.ofAList s.inner).Same s.now a)
    ?_ ?_ (ExpiringMap.Same.refl _)
  · rintro s turn s' a a' hstep ⟨x, htracks, rfl⟩
    obtain ⟨-, -, rfl⟩ := step_eq_some hstep
    exact htracks.same.mono htracks.before
  · intro s turn s' a hsame hstep
    obtain ⟨hnow, hreadings, -⟩ := step_eq_some hstep
    rw [← tracks_iff turn.call hreadings]
    constructor
    · rintro ⟨a', x, htracks, -⟩
      exact ⟨x, (tracks_congr (hsame.mono hnow)).mp htracks⟩
    · rintro ⟨x, htracks⟩
      exact ⟨_, x, (tracks_congr (hsame.mono hnow)).mpr htracks, rfl⟩

/-- **Every call of a run** is one on the map with expiry, with the same answer, if and only if every
call is one that goes right; a call that fails changes nothing; and a key that is only counted has
the count of the calls that counted. -/
theorem memory_dao_refines (s : MemoryGarrisonDao) (turns : List DaoTurn) :
    (Simulated step Follows s (ExpiringMap.ofAList s.inner) turns ↔
      EachStep step (fun s turn _ => Meets s.inner turn.readings turn.call) s turns) ∧
    EachStep step (fun s turn s' => ∀ e,
      (perform s.inner turn.readings turn.call).1 = .error e → s'.inner = s.inner) s turns ∧
    ∀ key s', run step s turns = some s' →
      EachStep step (fun s turn _ => Undisturbed key s.inner turn.readings turn.call) s turns →
      (counter key s'.inner : ℤ) = counter key s.inner +
        sumAlong step (fun s turn => gain key s.inner turn.readings turn.call) s turns := by
  refine ⟨simulated_iff_meets s turns, ?_, fun key s' hrun heach => ?_⟩
  · refine EachStep.of_step fun s turn s' hstep e he => ?_
    obtain ⟨-, -, rfl⟩ := step_eq_some hstep
    exact perform_error s.inner turn.readings turn.call e he
  · refine run_measure (μ := fun s => (counter key s.inner : ℤ)) ?_ hrun
    refine heach.mono fun s turn s' hstep hundisturbed => ?_
    obtain ⟨-, -, rfl⟩ := step_eq_some hstep
    exact count_kept hundisturbed

/-- Two visits, of which one ends. -/
def visits : List DaoTurn :=
  [⟨.incr "visits" 0, ⟨1, 1⟩⟩, ⟨.incr "visits" 0, ⟨2, 2⟩⟩, ⟨.decr "visits", ⟨3, 4⟩⟩]

theorem visits_counted : Simulated step Follows new (ExpiringMap.ofAList new.inner) visits ∧
    ∃ s', run step new visits = some s' ∧ counter "visits" s'.inner = 1 := by
  obtain ⟨hsimulated, -, hcount⟩ := memory_dao_refines new visits
  refine ⟨hsimulated.mpr ?_, _, rfl, ?_⟩
  · intro s₁ h₁
    refine ⟨fun _ => Or.inl rfl, fun s₂ h₂ => ⟨fun _ => Or.inl rfl, fun s₃ h₃ => ⟨trivial, trivial⟩⟩⟩
  · have hsum := hcount "visits" _ rfl ?_
    · exact Int.ofNat_inj.mp (hsum.trans (by decide +kernel))
    · intro s₁ h₁
      cases h₁
      refine ⟨⟨List.not_mem_nil, by rintro entry ⟨⟩⟩, fun s₂ h₂ => ?_⟩
      cases h₂
      refine ⟨⟨List.not_mem_nil, by rintro entry ⟨⟩ t ⟨⟩⟩, fun s₃ h₃ => ?_⟩
      cases h₃
      exact ⟨⟨List.not_mem_nil, by rintro entry ⟨⟩ t ⟨⟩⟩, trivial⟩

/-- A session that is renamed to itself. -/
def renamedToItself : List DaoTurn :=
  [⟨.setPermanent "token" "alice", ⟨1, 1⟩⟩, ⟨.rename "token" "token", ⟨2, 2⟩⟩,
    ⟨.get "token", ⟨3, 3⟩⟩]

/-- The key is gone, although the call has succeeded. -/
theorem rename_self_loses_key :
    (∃ s, run step new (renamedToItself.take 2) = some s ∧
      (perform s.inner ⟨3, 3⟩ (.get "token")).1 = .ok (.value none)) ∧
    ¬ Simulated step Follows new (ExpiringMap.ofAList new.inner) renamedToItself := by
  refine ⟨⟨_, rfl, rfl⟩, ?_⟩
  rw [simulated_iff_meets]
  intro heach
  obtain ⟨-, hrest⟩ := heach _ rfl
  obtain ⟨hmeets, -⟩ := hrest _ rfl
  cases hmeets rfl

end MemoryGarrisonDao

end NebulaId
