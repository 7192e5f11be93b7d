import NebulaId.Machine.Run
import NebulaId.Store.Paths

/-!
# The local cache and its file (`core/coordinator/etcd.rs`)

The monitor has a cache in memory. A task saves it again and again: it collects the entries, in some
order, and writes them over the file, which is empty at first and then has a part of the text. A
process may end at any moment; the next one loads the file. The text of the entries and its parser
are parameters.

* `lookup_insertAll`: the entries of a cache make the cache again, in any order.
* `restart_finds_saved`: a restart finds the cache of the last save, or nothing when a save was cut
  off.
* `cut_save_loses_all`: so a save that is cut off loses what has been saved before.
-/

namespace NebulaId

open Machine Store

structure LocalCacheEntry where
  key : String
  value : String
  version : Int64
  createdAt : Int64
  updatedAt : Int64
  deriving DecidableEq

abbrev LocalCache := AList fun _ : String => LocalCacheEntry

namespace LocalCache

def putToCache (cache : LocalCache) (key value : String) (version now : Int64) : LocalCache :=
  cache.insert key ⟨key, value, version, now, now⟩

def deleteFromCache (cache : LocalCache) (key : String) : LocalCache := cache.erase key

def values (cache : LocalCache) : List LocalCacheEntry := cache.entries.map Sigma.snd

/-- Each entry under its own key. -/
def insertAll (cache : LocalCache) (entries : List LocalCacheEntry) : LocalCache :=
  entries.foldl (fun cache entry => cache.insert entry.key entry) cache

/-- What the file has, if there is one, is put into the cache. -/
def loadLocalCache (parse : List Char → Except String (List LocalCacheEntry))
    (file : Option (List Char)) (cache : LocalCache) : Except String LocalCache :=
  match file with
  | none => .ok cache
  | some content => match parse content with
    | .error e => .error ("Failed to parse cache file: " ++ e)
    | .ok entries => .ok (cache.insertAll entries)

end LocalCache

/-- Where `save_local_cache` is. Next to the entries is the cache that they have been taken from. -/
inductive SaveTask where
  | idle
  | collected (entries : List LocalCacheEntry) (cache : LocalCache)
  | writing (entries : List LocalCacheEntry) (cache : LocalCache)

/-- Where `load_local_cache` is. -/
inductive LoadTask where
  | idle
  | parsing (content : List Char)

structure CacheMonitor where
  localCache : LocalCache
  file : Option (List Char)
  save : SaveTask
  load : LoadTask
  /-- The cache that the file has been made from, when it was written to its end. -/
  saved : Option LocalCache

inductive CacheAct where
  | put (key value : String) (version now : Int64)
  | delete (key : String)
  | collect (entries : List LocalCacheEntry)
  | truncate
  | write (n : ℕ)
  | finish
  | fail
  | readFile
  | insert
  | crash

namespace CacheMonitor

variable (serialize : List LocalCacheEntry → List Char)
  (parse : List Char → Except String (List LocalCacheEntry))

def new : CacheMonitor := ⟨∅, none, .idle, .idle, none⟩

/-- A crash is followed by a new process. -/
def step (m : CacheMonitor) : CacheAct → Option CacheMonitor
  | .put key value version now =>
    some { m with localCache := m.localCache.putToCache key value version now }
  | .delete key => some { m with localCache := m.localCache.deleteFromCache key }
  | .collect entries => match m.save with
    | .idle =>
      if entries.Perm m.localCache.values then
        some { m with save := .collected entries m.localCache }
      else none
    | _ => none
  | .truncate => match m.save with
    | .collected entries cache =>
      some { m with file := some [], save := .writing entries cache, saved := none }
    | _ => none
  | .write n => match m.save with
    | .writing entries _ =>
      if n < (serialize entries).length then
        some { m with file := some ((serialize entries).take n) }
      else none
    | _ => none
  | .finish => match m.save with
    | .writing entries cache =>
      some { m with file := some (serialize entries), save := .idle, saved := some cache }
    | _ => none
  | .fail => some { m with save := .idle }
  | .readFile => match m.load with
    | .idle => match m.file with
      | some content => some { m with load := .parsing content }
      | none => some m
    | _ => none
  | .insert => match m.load with
    | .parsing content => match m.localCache.loadLocalCache parse (some content) with
      | .ok cache => some { m with localCache := cache, load := .idle }
      | .error _ => some { m with load := .idle }
    | _ => none
  | .crash => some { m with localCache := ∅, save := .idle, load := .idle }

/-- The parser reads the text of the entries back, and nothing that was cut off of it. -/
structure Readable (entries : List LocalCacheEntry) : Prop where
  ne_nil : serialize entries ≠ []
  whole : parse (serialize entries) = .ok entries
  cut : ∀ n < (serialize entries).length, ∃ e, parse ((serialize entries).take n) = .error e

/-- What is saved can be read. -/
def SavesReadable (_ : CacheMonitor) : CacheAct → Prop
  | .collect entries => Readable serialize parse entries
  | _ => True

end CacheMonitor

/-! ## A cache and its entries -/

namespace LocalCache

/-- Every entry is under its own key. -/
def OwnKeys (cache : LocalCache) : Prop :=
  ∀ key entry, cache.lookup key = some entry → entry.key = key

variable {cache : LocalCache} {entries : List LocalCacheEntry} {entry : LocalCacheEntry}
  {key : String}

theorem ownKeys_empty : OwnKeys ∅ := by
  intro key entry h
  simp at h

theorem OwnKeys.insert (h : OwnKeys cache) (entry : LocalCacheEntry) :
    OwnKeys (cache.insert entry.key entry) := by
  intro key entry' hlookup
  by_cases hkey : key = entry.key
  · subst hkey
    rw [AList.lookup_insert] at hlookup
    rw [← Option.some.inj hlookup]
  · rw [AList.lookup_insert_ne hkey] at hlookup
    exact h key entry' hlookup

theorem OwnKeys.delete (h : OwnKeys cache) (key : String) :
    OwnKeys (cache.deleteFromCache key) := by
  intro key' entry hlookup
  by_cases hkey : key' = key
  · subst hkey
    simp [deleteFromCache] at hlookup
  · rw [deleteFromCache, AList.lookup_erase_ne hkey] at hlookup
    exact h key' entry hlookup

theorem OwnKeys.insertAll (h : OwnKeys cache) : OwnKeys (cache.insertAll entries) := by
  induction entries generalizing cache with
  | nil => exact h
  | cons entry entries ih => exact ih (h.insert entry)

theorem mem_values : entry ∈ cache.values ↔ ∃ key, cache.lookup key = some entry := by
  simp only [values, List.mem_map, Sigma.exists, exists_eq_right, ← AList.mem_lookup_iff,
    Option.mem_def]

/-- **A cache is made again of its entries**, in any order. -/
theorem lookup_insertAll (h : OwnKeys cache) (hperm : entries.Perm cache.values) :
    (insertAll ∅ entries).lookup key = cache.lookup key := by
  have hfound : ∀ entry ∈ entries, cache.lookup entry.key = some entry := by
    intro entry hentry
    obtain ⟨key, hlookup⟩ := mem_values.mp (hperm.mem_iff.mp hentry)
    rwa [h key entry hlookup]
  cases hlookup : cache.lookup key with
  | none =>
    refine (lookup_foldl_insert_of_ne LocalCacheEntry.key id ?_).trans (by simp)
    rintro entry hentry rfl
    rw [hfound entry hentry] at hlookup
    cases hlookup
  | some entry =>
    apply lookup_foldl_insert LocalCacheEntry.key id
    · rintro entry' hentry' rfl
      exact Option.some.inj ((hfound entry' hentry').symm.trans hlookup)
    · exact ⟨entry, hperm.mem_iff.mpr (mem_values.mpr ⟨key, hlookup⟩), h key entry hlookup⟩

end LocalCache

/-! ## What is in the file -/

namespace CacheMonitor

variable {serialize : List LocalCacheEntry → List Char}
  {parse : List Char → Except String (List LocalCacheEntry)} {m m' : CacheMonitor}
  {act : CacheAct}

/-- These are the entries of this cache, and can be read. -/
structure TakenFrom (serialize : List LocalCacheEntry → List Char)
    (parse : List Char → Except String (List LocalCacheEntry)) (entries : List LocalCacheEntry)
    (cache : LocalCache) : Prop where
  ownKeys : cache.OwnKeys
  perm : entries.Perm cache.values
  readable : Readable serialize parse entries

structure FileInv (serialize : List LocalCacheEntry → List Char)
    (parse : List Char → Except String (List LocalCacheEntry)) (m : CacheMonitor) : Prop where
  ownKeys : m.localCache.OwnKeys
  collected : ∀ entries cache, m.save = .collected entries cache →
    TakenFrom serialize parse entries cache
  writing : ∀ entries cache, m.save = .writing entries cache →
    TakenFrom serialize parse entries cache ∧ m.saved = none
  whole : ∀ cache, m.saved = some cache → ∃ entries,
    TakenFrom serialize parse entries cache ∧ m.file = some (serialize entries)
  cut : m.saved = none → ∀ content, m.file = some content → ∃ e, parse content = .error e

theorem fileInv_new : FileInv serialize parse new where
  ownKeys := LocalCache.ownKeys_empty
  collected _ _ h := by cases h
  writing _ _ h := by cases h
  whole _ h := by cases h
  cut _ _ h := by cases h

/-- Only the cache in memory is another one. -/
theorem FileInv.of_cache (h : FileInv serialize parse m) {cache : LocalCache} {load : LoadTask}
    (hcache : cache.OwnKeys) :
    FileInv serialize parse { m with localCache := cache, load := load } :=
  ⟨hcache, h.collected, h.writing, h.whole, h.cut⟩

/-- A save has come to its end, one way or the other. -/
theorem FileInv.of_idle (h : FileInv serialize parse m) :
    FileInv serialize parse { m with save := .idle } where
  ownKeys := h.ownKeys
  collected _ _ h := by cases h
  writing _ _ h := by cases h
  whole := h.whole
  cut := h.cut

theorem ownKeys_load {content : List Char} {cache : LocalCache} (h : m.localCache.OwnKeys)
    (hload : m.localCache.loadLocalCache parse (some content) = .ok cache) : cache.OwnKeys := by
  unfold LocalCache.loadLocalCache at hload
  split at hload
  · cases hload
    exact h
  · split at hload
    · cases hload
    · cases hload
      exact h.insertAll

theorem fileInv_step (h : FileInv serialize parse m) (hC : SavesReadable serialize parse m act)
    (hs : step serialize parse m act = some m') : FileInv serialize parse m' := by
  cases act with
  | put key value version now =>
    obtain rfl := Option.some.inj hs
    exact h.of_cache (h.ownKeys.insert ⟨key, value, version, now, now⟩)
  | delete key =>
    obtain rfl := Option.some.inj hs
    exact h.of_cache (h.ownKeys.delete key)
  | collect entries =>
    cases hsave : m.save <;> simp only [step, hsave, reduceCtorEq] at hs
    split at hs
    · rename_i hperm
      obtain rfl := Option.some.inj hs
      refine ⟨h.ownKeys, ?_, by simp, h.whole, h.cut⟩
      rintro _ _ ⟨⟩
      exact ⟨h.ownKeys, hperm, hC⟩
    · cases hs
  | truncate =>
    cases hsave : m.save <;> simp only [step, hsave, reduceCtorEq] at hs
    rename_i entries cache
    obtain rfl := Option.some.inj hs
    have htaken := h.collected entries cache hsave
    refine ⟨h.ownKeys, by simp, ?_, by simp, ?_⟩
    · rintro _ _ ⟨⟩
      exact ⟨htaken, rfl⟩
    · rintro - _ ⟨⟩
      exact htaken.readable.cut 0 (List.length_pos_iff.mpr htaken.readable.ne_nil)
  | write n =>
    cases hsave : m.save <;> simp only [step, hsave, reduceCtorEq] at hs
    rename_i entries cache
    split at hs
    · rename_i hn
      obtain rfl := Option.some.inj hs
      obtain ⟨htaken, hnone⟩ := h.writing entries cache hsave
      refine ⟨h.ownKeys, by simp, fun _ _ heq => h.writing _ _ (hsave.trans heq),
        by simp [hnone], ?_⟩
      rintro - _ ⟨⟩
      exact htaken.readable.cut n hn
    · cases hs
  | finish =>
    cases hsave : m.save <;> simp only [step, hsave, reduceCtorEq] at hs
    rename_i entries cache
    obtain rfl := Option.some.inj hs
    refine ⟨h.ownKeys, by simp, by simp, ?_, by simp⟩
    rintro _ ⟨⟩
    exact ⟨entries, (h.writing entries cache hsave).1, rfl⟩
  | fail =>
    obtain rfl := Option.some.inj hs
    exact h.of_idle
  | readFile =>
    cases hload : m.load <;> simp only [step, hload, reduceCtorEq] at hs
    split at hs
    · obtain rfl := Option.some.inj hs
      exact h.of_cache h.ownKeys
    · obtain rfl := Option.some.inj hs
      exact h
  | insert =>
    cases hload : m.load <;> simp only [step, hload, reduceCtorEq] at hs
    split at hs
    · rename_i cache hcache
      obtain rfl := Option.some.inj hs
      exact h.of_cache (ownKeys_load h.ownKeys hcache)
    · obtain rfl := Option.some.inj hs
      exact h.of_cache h.ownKeys
  | crash =>
    obtain rfl := Option.some.inj hs
    exact (h.of_idle).of_cache LocalCache.ownKeys_empty

/-- **What a restart finds.** After a crash at any moment the load puts back the cache as it was
when the last save collected it, if the save has written the file to its end. If the file has been
begun and not been written to its end, the load fails. -/
theorem restart_finds_saved
    (h : Reaches (step serialize parse) (SavesReadable serialize parse) new m) :
    (∀ cache, m.saved = some cache → ∃ loaded,
      LocalCache.loadLocalCache parse m.file ∅ = .ok loaded ∧
        ∀ key, loaded.lookup key = cache.lookup key) ∧
    (m.saved = none → m.file ≠ none →
      ∃ e, LocalCache.loadLocalCache parse m.file ∅ = .error e) := by
  have hinv : FileInv serialize parse m := h.invariant fileInv_new fun _ _ _ hi hC hs =>
    fileInv_step hi hC hs
  constructor
  · intro cache hsaved
    obtain ⟨entries, htaken, hfile⟩ := hinv.whole cache hsaved
    refine ⟨LocalCache.insertAll ∅ entries, ?_, fun key => ?_⟩
    · simp [LocalCache.loadLocalCache, hfile, htaken.readable.whole]
    · exact LocalCache.lookup_insertAll htaken.ownKeys htaken.perm
  · intro hnone hsome
    obtain ⟨content, hfile⟩ := Option.ne_none_iff_exists'.mp hsome
    obtain ⟨e, he⟩ := hinv.cut hnone content hfile
    exact ⟨_, by rw [hfile, LocalCache.loadLocalCache, he]⟩

/-- An entry, and the text of the list that has nothing else. -/
def oneEntry : LocalCacheEntry := ⟨"key", "value", 1, 1700000000, 1700000000⟩

def oneText : List Char := '[' :: String.toList (String.join
  ["\n  \x7b\n    \"key\": \"key\",\n    \"value\": \"value\",\n    \"version\": 1,\n",
    "    \"created_at\": 1700000000,\n    \"updated_at\": 1700000000\n  \x7d\n]"])

def oneSerialize (_ : List LocalCacheEntry) : List Char := oneText

def oneParse (content : List Char) : Except String (List LocalCacheEntry) :=
  if content = oneText then .ok [oneEntry] else .error "EOF while parsing a list"

theorem readable_one : Readable oneSerialize oneParse [oneEntry] where
  ne_nil := List.cons_ne_nil _ _
  whole := if_pos rfl
  cut n hn := by
    refine ⟨_, if_neg fun heq => ?_⟩
    have hlength := congrArg List.length heq
    rw [List.length_take] at hlength
    change n < oneText.length at hn
    simp only [oneSerialize] at hlength
    omega

/-- An entry is put in, saved, and there after a restart. -/
theorem restart_finds_saved_one : ∃ (m : CacheMonitor) (loaded : LocalCache), m.localCache = ∅ ∧
    LocalCache.loadLocalCache oneParse m.file ∅ = .ok loaded ∧
    loaded.lookup "key" = some oneEntry := by
  have hrun : Reaches (step oneSerialize oneParse) (SavesReadable oneSerialize oneParse) new _ :=
    Reaches.cons (a := .put "key" "value" 1 1700000000) trivial rfl <|
    Reaches.cons (a := .collect [oneEntry]) readable_one rfl <|
    Reaches.cons (a := .truncate) trivial rfl <|
    Reaches.cons (a := .finish) trivial rfl <|
    Reaches.single (a := .crash) trivial rfl
  obtain ⟨loaded, hload, hsame⟩ := (restart_finds_saved hrun).1 _ rfl
  exact ⟨_, loaded, rfl, hload, (hsame "key").trans rfl⟩

/-- The same entry is saved again, and the second save is cut off. -/
theorem cut_save_loses_all : ∃ (m : CacheMonitor) (e : String),
    Reaches (step oneSerialize oneParse) (SavesReadable oneSerialize oneParse) new m ∧
    m.localCache.lookup "key" = some oneEntry ∧
    LocalCache.loadLocalCache oneParse m.file ∅ = .error e := by
  have hrun : Reaches (step oneSerialize oneParse) (SavesReadable oneSerialize oneParse) new _ :=
    Reaches.cons (a := .put "key" "value" 1 1700000000) trivial rfl <|
    Reaches.cons (a := .collect [oneEntry]) readable_one rfl <|
    Reaches.cons (a := .truncate) trivial rfl <|
    Reaches.cons (a := .finish) trivial rfl <|
    Reaches.cons (a := .collect [oneEntry]) readable_one rfl <|
    Reaches.single (a := .truncate) trivial rfl
  exact ⟨_, _, hrun, rfl, rfl⟩

end CacheMonitor

end NebulaId
