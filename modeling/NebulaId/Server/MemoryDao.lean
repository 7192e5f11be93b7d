import NebulaId.Store.Expiring
import NebulaId.Types.Numbers

/-!
# The store of sessions in memory (`server/auth/memory_dao.rs`)

A hash map of texts, each with an instant from which it counts as expired. An expired entry stays
in the map until a call writes over it or takes it out. A call reads the clock when it looks at
an entry, and once more when it sets an expiry or tells the time that is left.

* `glob_match` goes through the pattern and tries every rest of the text after a `*`.
* `perform`: a call, with its answer and the map afterwards.
* `found`: the entry that a call finds under a key.
* `perform_error`: a call that fails leaves the map as it is.
* `count_kept`: `incr` and `decr` keep the count under a key.
-/

namespace NebulaId

open Store

/-- Nanoseconds since the start of the clock. -/
abbrev Instant := ℕ

/-- Nanoseconds. -/
abbrev Duration := ℕ

/-- `Duration::from_secs` -/
def Duration.fromSecs (seconds : UInt64) : Duration := seconds.toNat * 10 ^ 9

namespace Instant

/-- The clock counts seconds in an `i64`. -/
def limit : Instant := 2 ^ 63 * 10 ^ 9

def checkedAdd (now : Instant) (duration : Duration) : Option Instant :=
  if now + duration < limit then some (now + duration) else none

def checkedDurationSince (later earlier : Instant) : Option Duration :=
  if earlier ≤ later then some (later - earlier) else none

end Instant

inductive GarrisonError where
  | dao (message : String)
  | invalidParam (message : String)
  deriving DecidableEq

/-- A call ends without a value; it panics when an instant is out of range. -/
inductive DaoStop where
  | error (e : GarrisonError)
  | panicked
  deriving DecidableEq

namespace MemoryGarrisonDao

abbrev Entry := Timed String Instant

abbrev Inner := AList fun _ : String => Entry

/-- What the clock says when a call looks at an entry, and when it does so again. -/
structure Readings where
  check : Instant
  stamp : Instant

def isExpired (now : Instant) (entry : Entry) : Bool :=
  (entry.expireAt.map fun t => decide (t ≤ now)).getD false

def remainingTtl (now : Instant) (entry : Entry) : Option Duration :=
  entry.expireAt.bind fun t => Instant.checkedDurationSince t now

/-- `if ttl_seconds == 0 { None } else { Some(Instant::now() + ..) }` -/
def expiry (now : Instant) (ttlSeconds : UInt64) : Except DaoStop (Option Instant) :=
  if ttlSeconds = 0 then .ok none
  else match Instant.checkedAdd now (Duration.fromSecs ttlSeconds) with
    | some t => .ok (some t)
    | none => .error .panicked

/-! ## Patterns -/

/-- From a place in the pattern on, at a place in the text. -/
def globMatchInner : List Char → List Char → ℕ → Bool
  | [], t, ti => ti == t.length
  | c :: rest, t, ti =>
    if c = '*' then (List.range (t.length - ti + 1)).any fun skip => globMatchInner rest t (ti + skip)
    else if c = '?' then
      if ti ≥ t.length then false else globMatchInner rest t (ti + 1)
    else
      if ti ≥ t.length || t[ti]? != some c then false else globMatchInner rest t (ti + 1)

def globMatch (pattern text : String) : Bool := globMatchInner pattern.toList text.toList 0

/-! ## Calls -/

variable (r : Readings) (m : Inner)

def get (now : Instant) (key : String) : Except DaoStop (Option String) :=
  match m.lookup key with
  | some entry => if !isExpired now entry then .ok (some entry.value) else .ok none
  | none => .ok none

def set (now : Instant) (key value : String) (ttlSeconds : UInt64) : Except DaoStop Unit × Inner :=
  match expiry now ttlSeconds with
  | .error e => (.error e, m)
  | .ok expireAt => (.ok (), m.insert key ⟨value, expireAt⟩)

def update (now : Instant) (key value : String) : Except DaoStop Unit × Inner :=
  match m.lookup key with
  | some entry =>
    if !isExpired now entry then (.ok (), m.insert key { entry with value := value })
    else (.error (.error (.dao ("dao-key-expired::" ++ key))), m)
  | none => (.error (.error (.dao ("dao-key-not-found::" ++ key))), m)

def expire (key : String) (seconds : UInt64) : Except DaoStop Unit × Inner :=
  match m.lookup key with
  | some entry =>
    if !isExpired r.check entry then
      match expiry r.stamp seconds with
      | .error e => (.error e, m)
      | .ok expireAt => (.ok (), m.insert key { entry with expireAt := expireAt })
    else (.error (.error (.dao ("dao-key-expired::" ++ key))), m)
  | none => (.error (.error (.dao ("dao-key-not-found::" ++ key))), m)

def delete (key : String) : Except DaoStop Unit × Inner := (.ok (), m.erase key)

def setPermanent (key value : String) : Except DaoStop Unit × Inner :=
  (.ok (), m.insert key ⟨value, none⟩)

def getTimeout (key : String) : Except DaoStop (Option Duration) :=
  match m.lookup key with
  | some entry => if !isExpired r.check entry then .ok (remainingTtl r.stamp entry) else .ok none
  | none => .ok none

def getWithTtl (key : String) : Except DaoStop (Option (String × Option Duration)) :=
  match m.lookup key with
  | some entry =>
    if !isExpired r.check entry then .ok (some (entry.value, remainingTtl r.stamp entry))
    else .ok none
  | none => .ok none

/-- The keys come in no particular order. -/
def keys (now : Instant) (pattern : String) : Except DaoStop (Multiset String) :=
  if pattern.utf8ByteSize > 256 then
    .error (.error (.invalidParam ("dao-keys-pattern-too-long::" ++ toString pattern.utf8ByteSize)))
  else .ok ((m.entries.filter fun e => !isExpired now e.2 && globMatch pattern e.1).map Sigma.fst)

def rename (now : Instant) (oldKey newKey : String) : Except DaoStop Unit × Inner :=
  match (m.lookup oldKey).filter fun e => !isExpired now e with
  | none => (.error (.error (.invalidParam ("dao-key-missing::" ++ oldKey))), m)
  | some entry => (.ok (), (m.insert newKey ⟨entry.value, entry.expireAt⟩).erase oldKey)

def getAndDelete (now : Instant) (key : String) : Except DaoStop (Option String) × Inner :=
  match m.lookup key with
  | some entry =>
    if !isExpired now entry then (.ok (some entry.value), m.erase key) else (.ok none, m.erase key)
  | none => (.ok none, m.erase key)

/-- The first count under a key. -/
def insertOne (now : Instant) (key : String) (ttlSeconds : UInt64) : Except DaoStop UInt64 × Inner :=
  match expiry now ttlSeconds with
  | .error e => (.error e, m)
  | .ok expireAt => (.ok 1, m.insert key ⟨"1", expireAt⟩)

def incr (key : String) (ttlSeconds : UInt64) : Except DaoStop UInt64 × Inner :=
  match m.lookup key with
  | some entry =>
    if !isExpired r.check entry then
      match parseU64 entry.value with
      | none => (.error (.error (.dao ("dao-incr-parse-u64::" ++ key))), m)
      | some cur =>
        if cur.toNat + 1 < 2 ^ 64 then
          (.ok (cur + 1), m.insert key { entry with value := toString (cur + 1) })
        else (.error (.error (.dao ("dao-incr-overflow::" ++ key))), m)
    else insertOne m r.stamp key ttlSeconds
  | none => insertOne m r.stamp key ttlSeconds

def decr (now : Instant) (key : String) : Except DaoStop UInt64 × Inner :=
  match m.lookup key with
  | some entry =>
    if !isExpired now entry then
      match parseU64 entry.value with
      | none => (.error (.error (.dao ("dao-decr-parse-u64::" ++ key))), m)
      | some cur =>
        if cur = 0 then (.ok 0, m)
        else if cur - 1 = 0 then (.ok (cur - 1), m.erase key)
        else (.ok (cur - 1), m.insert key { entry with value := toString (cur - 1) })
    else (.ok 0, m)
  | none => (.ok 0, m)

/-- The count that is there, or none. -/
def current (now : Instant) (key : String) : Except DaoStop UInt64 :=
  match m.lookup key with
  | some entry =>
    if !isExpired now entry then
      match parseU64 entry.value with
      | none => .error (.error (.dao ("dao-cas-parse-u64::" ++ key ++ "::" ++ entry.value)))
      | some cur => .ok cur
    else .ok 0
  | none => .ok 0

def compareAndUpdateIfGreater (key : String) (newValue ttlSeconds : UInt64) :
    Except DaoStop Bool × Inner :=
  match current m r.check key with
  | .error e => (.error e, m)
  | .ok current =>
    if newValue > current then
      match expiry r.stamp ttlSeconds with
      | .error e => (.error e, m)
      | .ok expireAt => (.ok true, m.insert key ⟨toString newValue, expireAt⟩)
    else (.ok false, m)

end MemoryGarrisonDao

inductive DaoCall where
  | get (key : String)
  | set (key value : String) (ttlSeconds : UInt64)
  | update (key value : String)
  | expire (key : String) (seconds : UInt64)
  | delete (key : String)
  | setPermanent (key value : String)
  | getTimeout (key : String)
  | getWithTtl (key : String)
  | keys (pattern : String)
  | rename (oldKey newKey : String)
  | getAndDelete (key : String)
  | incr (key : String) (ttlSeconds : UInt64)
  | decr (key : String)
  | compareAndUpdateIfGreater (key : String) (newValue ttlSeconds : UInt64)

inductive DaoAnswer where
  | done
  | value (value : Option String)
  | timeout (left : Option Duration)
  | valueWithTtl (found : Option (String × Option Duration))
  | keys (found : Multiset String)
  | count (n : UInt64)
  | updated (done : Bool)
  deriving DecidableEq

namespace MemoryGarrisonDao

/-- The answer of a call as one of all. -/
def answer {α : Type} (f : α → DaoAnswer) (out : Except DaoStop α × Inner) :
    Except DaoStop DaoAnswer × Inner := (out.1.map f, out.2)

def perform (m : Inner) (r : Readings) : DaoCall → Except DaoStop DaoAnswer × Inner
  | .get key => answer .value (get m r.check key, m)
  | .set key value ttl => answer (fun _ => .done) (set m r.stamp key value ttl)
  | .update key value => answer (fun _ => .done) (update m r.check key value)
  | .expire key seconds => answer (fun _ => .done) (expire r m key seconds)
  | .delete key => answer (fun _ => .done) (delete m key)
  | .setPermanent key value => answer (fun _ => .done) (setPermanent m key value)
  | .getTimeout key => answer .timeout (getTimeout r m key, m)
  | .getWithTtl key => answer .valueWithTtl (getWithTtl r m key, m)
  | .keys pattern => answer .keys (keys m r.check pattern, m)
  | .rename oldKey newKey => answer (fun _ => .done) (rename m r.check oldKey newKey)
  | .getAndDelete key => answer .value (getAndDelete m r.check key)
  | .incr key ttl => answer .count (incr r m key ttl)
  | .decr key => answer .count (decr m r.check key)
  | .compareAndUpdateIfGreater key newValue ttl =>
    answer .updated (compareAndUpdateIfGreater r m key newValue ttl)

/-! ## What a call finds -/

/-- The entry under a key, unless it has expired. -/
def found (m : Inner) (now : Instant) (key : String) : Option Entry :=
  (m.lookup key).filter fun entry => entry.Live now

/-- The number under a key; a key without an entry counts as zero. -/
def stored (m : Inner) (now : Instant) (key : String) : Option UInt64 :=
  match found m now key with
  | some entry => parseU64 entry.value
  | none => some 0

/-- The instant of an expiry is in range. -/
def Fits (now : Instant) (ttlSeconds : UInt64) : Prop :=
  ttlSeconds = 0 ∨ now + Duration.fromSecs ttlSeconds < Instant.limit

variable {r : Readings} {m : Inner} {now later : Instant} {key value : String} {entry : Entry}
  {ttl : UInt64}

theorem isExpired_eq (now : Instant) (entry : Entry) :
    isExpired now entry = !decide (entry.Live now) := by
  obtain ⟨value, expireAt⟩ := entry
  unfold isExpired Timed.Live
  cases expireAt with
  | none => simp
  | some t =>
    by_cases hlt : now < t
    · simp [hlt]
    · simp [hlt, Nat.not_lt.mp hlt]

theorem found_eq_some : found m now key = some entry ↔
    m.lookup key = some entry ∧ entry.Live now := by
  rw [found, Option.filter_eq_some_iff, decide_eq_true_eq]

theorem lookup_of_found (h : found m now key = some entry) :
    m.lookup key = some entry ∧ isExpired now entry = false := by
  obtain ⟨hlookup, hlive⟩ := found_eq_some.mp h
  exact ⟨hlookup, by rw [isExpired_eq, decide_eq_true hlive]; rfl⟩

/-- A call that finds nothing sees no entry or an expired one. -/
theorem lookup_of_lost (h : found m now key = none) :
    m.lookup key = none ∨ ∃ entry, m.lookup key = some entry ∧ isExpired now entry = true := by
  cases hlookup : m.lookup key with
  | none => exact Or.inl rfl
  | some entry =>
    refine Or.inr ⟨entry, rfl, ?_⟩
    by_contra hexpired
    rw [isExpired_eq] at hexpired
    have hlive : entry.Live now := by simpa using hexpired
    cases (found_eq_some.mpr ⟨hlookup, hlive⟩).symm.trans h

theorem found_of_lost (hle : now ≤ later) (h : found m now key = none) :
    found m later key = none := by
  rw [found, Option.filter_eq_none_iff] at h ⊢
  intro entry hentry hlive
  exact h entry hentry (decide_eq_true ((of_decide_eq_true hlive).of_le hle))

/-! ## Calls on an entry that is found -/

section Found

variable (r) {value : String}

theorem get_found (h : found m now key = some entry) :
    get m now key = .ok (some entry.value) := by
  obtain ⟨hlookup, hlive⟩ := lookup_of_found h
  simp [get, hlookup, hlive]

theorem update_found (h : found m now key = some entry) :
    update m now key value = (.ok (), m.insert key { entry with value := value }) := by
  obtain ⟨hlookup, hlive⟩ := lookup_of_found h
  simp [update, hlookup, hlive]

theorem expire_found (h : found m r.check key = some entry) :
    expire r m key ttl = match expiry r.stamp ttl with
      | .error e => (.error e, m)
      | .ok expireAt => (.ok (), m.insert key { entry with expireAt := expireAt }) := by
  obtain ⟨hlookup, hlive⟩ := lookup_of_found h
  simp [expire, hlookup, hlive]

theorem getTimeout_found (h : found m r.check key = some entry) :
    getTimeout r m key = .ok (remainingTtl r.stamp entry) := by
  obtain ⟨hlookup, hlive⟩ := lookup_of_found h
  simp [getTimeout, hlookup, hlive]

theorem getWithTtl_found (h : found m r.check key = some entry) :
    getWithTtl r m key = .ok (some (entry.value, remainingTtl r.stamp entry)) := by
  obtain ⟨hlookup, hlive⟩ := lookup_of_found h
  simp [getWithTtl, hlookup, hlive]

theorem getAndDelete_found (h : found m now key = some entry) :
    getAndDelete m now key = (.ok (some entry.value), m.erase key) := by
  obtain ⟨hlookup, hlive⟩ := lookup_of_found h
  simp [getAndDelete, hlookup, hlive]

theorem incr_found (h : found m r.check key = some entry) :
    incr r m key ttl = match parseU64 entry.value with
      | none => (.error (.error (.dao ("dao-incr-parse-u64::" ++ key))), m)
      | some cur =>
        if cur.toNat + 1 < 2 ^ 64 then
          (.ok (cur + 1), m.insert key { entry with value := toString (cur + 1) })
        else (.error (.error (.dao ("dao-incr-overflow::" ++ key))), m) := by
  obtain ⟨hlookup, hlive⟩ := lookup_of_found h
  simp [incr, hlookup, hlive]

theorem decr_found (h : found m now key = some entry) :
    decr m now key = match parseU64 entry.value with
      | none => (.error (.error (.dao ("dao-decr-parse-u64::" ++ key))), m)
      | some cur =>
        if cur = 0 then (.ok 0, m)
        else if cur - 1 = 0 then (.ok (cur - 1), m.erase key)
        else (.ok (cur - 1), m.insert key { entry with value := toString (cur - 1) }) := by
  obtain ⟨hlookup, hlive⟩ := lookup_of_found h
  simp only [decr, hlookup, hlive, Bool.not_false, if_true]

theorem current_found (h : found m now key = some entry) :
    current m now key = match parseU64 entry.value with
      | none => .error (.error (.dao ("dao-cas-parse-u64::" ++ key ++ "::" ++ entry.value)))
      | some cur => .ok cur := by
  obtain ⟨hlookup, hlive⟩ := lookup_of_found h
  simp only [current, hlookup, hlive, Bool.not_false, if_true]

end Found

/-! ## Calls that find nothing -/

section Lost

variable (r)

theorem get_lost (h : found m now key = none) : get m now key = .ok none := by
  rcases lookup_of_lost h with hlookup | ⟨entry, hlookup, hexpired⟩
  · simp [get, hlookup]
  · simp [get, hlookup, hexpired]

/-- What is said of a key with an expired entry differs from what is said of one with none. -/
theorem update_lost (value : String) (h : found m now key = none) :
    ∃ e, (e = .dao ("dao-key-not-found::" ++ key) ∨ e = .dao ("dao-key-expired::" ++ key)) ∧
      update m now key value = (.error (.error e), m) := by
  rcases lookup_of_lost h with hlookup | ⟨entry, hlookup, hexpired⟩
  · exact ⟨_, Or.inl rfl, by simp [update, hlookup]⟩
  · exact ⟨_, Or.inr rfl, by simp [update, hlookup, hexpired]⟩

theorem expire_lost (ttl : UInt64) (h : found m r.check key = none) :
    ∃ e, (e = .dao ("dao-key-not-found::" ++ key) ∨ e = .dao ("dao-key-expired::" ++ key)) ∧
      expire r m key ttl = (.error (.error e), m) := by
  rcases lookup_of_lost h with hlookup | ⟨entry, hlookup, hexpired⟩
  · exact ⟨_, Or.inl rfl, by simp [expire, hlookup]⟩
  · exact ⟨_, Or.inr rfl, by simp [expire, hlookup, hexpired]⟩

theorem getTimeout_lost (h : found m r.check key = none) : getTimeout r m key = .ok none := by
  rcases lookup_of_lost h with hlookup | ⟨entry, hlookup, hexpired⟩
  · simp [getTimeout, hlookup]
  · simp [getTimeout, hlookup, hexpired]

theorem getWithTtl_lost (h : found m r.check key = none) : getWithTtl r m key = .ok none := by
  rcases lookup_of_lost h with hlookup | ⟨entry, hlookup, hexpired⟩
  · simp [getWithTtl, hlookup]
  · simp [getWithTtl, hlookup, hexpired]

theorem getAndDelete_lost (h : found m now key = none) :
    getAndDelete m now key = (.ok none, m.erase key) := by
  rcases lookup_of_lost h with hlookup | ⟨entry, hlookup, hexpired⟩
  · simp [getAndDelete, hlookup]
  · simp [getAndDelete, hlookup, hexpired]

theorem incr_lost (h : found m r.check key = none) :
    incr r m key ttl = insertOne m r.stamp key ttl := by
  rcases lookup_of_lost h with hlookup | ⟨entry, hlookup, hexpired⟩
  · simp [incr, hlookup]
  · simp [incr, hlookup, hexpired]

theorem decr_lost (h : found m now key = none) : decr m now key = (.ok 0, m) := by
  rcases lookup_of_lost h with hlookup | ⟨entry, hlookup, hexpired⟩
  · simp [decr, hlookup]
  · simp [decr, hlookup, hexpired]

theorem current_lost (h : found m now key = none) : current m now key = .ok 0 := by
  rcases lookup_of_lost h with hlookup | ⟨entry, hlookup, hexpired⟩
  · simp [current, hlookup]
  · simp [current, hlookup, hexpired]

end Lost

theorem rename_eq (m : Inner) (now : Instant) (oldKey newKey : String) :
    rename m now oldKey newKey = match found m now oldKey with
      | none => (.error (.error (.invalidParam ("dao-key-missing::" ++ oldKey))), m)
      | some entry => (.ok (), (m.insert newKey entry).erase oldKey) := by
  simp only [rename, found, isExpired_eq, Bool.not_not]

/-! ## Calls that fail -/

/-- A call that fails has left the map as it was. -/
def Undone {α : Type} (m : Inner) (out : Except DaoStop α × Inner) : Prop :=
  ∀ e, out.1 = .error e → out.2 = m

section Failing

variable {α : Type} {m' : Inner}

theorem undone_ok (a : α) : Undone m ((.ok a : Except DaoStop α), m') := by
  intro e he
  cases he

theorem undone_same (out : Except DaoStop α) : Undone m (out, m) := fun _ _ => rfl

theorem Undone.answer {f : α → DaoAnswer} {out : Except DaoStop α × Inner} (h : Undone m out) :
    Undone m (answer f out) := by
  obtain ⟨result, after⟩ := out
  cases result with
  | ok a => exact undone_ok _
  | error e => exact fun _ _ => h e rfl

theorem undone_set (m : Inner) (now : Instant) (key value : String) (ttl : UInt64) :
    Undone m (set m now key value ttl) := by
  unfold set
  split
  · exact undone_same _
  · exact undone_ok _

theorem undone_update (m : Inner) (now : Instant) (key value : String) :
    Undone m (update m now key value) := by
  cases hfound : found m now key with
  | some entry =>
    rw [update_found hfound]
    exact undone_ok _
  | none =>
    obtain ⟨e, -, hupdate⟩ := update_lost value hfound
    rw [hupdate]
    exact undone_same _

theorem undone_expire (r : Readings) (m : Inner) (key : String) (seconds : UInt64) :
    Undone m (expire r m key seconds) := by
  cases hfound : found m r.check key with
  | some entry =>
    rw [expire_found r hfound]
    split
    · exact undone_same _
    · exact undone_ok _
  | none =>
    obtain ⟨e, -, hexpire⟩ := expire_lost r seconds hfound
    rw [hexpire]
    exact undone_same _

theorem undone_rename (m : Inner) (now : Instant) (oldKey newKey : String) :
    Undone m (rename m now oldKey newKey) := by
  rw [rename_eq]
  split
  · exact undone_same _
  · exact undone_ok _

theorem undone_getAndDelete (m : Inner) (now : Instant) (key : String) :
    Undone m (getAndDelete m now key) := by
  cases hfound : found m now key with
  | some entry =>
    rw [getAndDelete_found hfound]
    exact undone_ok _
  | none =>
    rw [getAndDelete_lost hfound]
    exact undone_ok _

theorem undone_insertOne (m : Inner) (now : Instant) (key : String) (ttl : UInt64) :
    Undone m (insertOne m now key ttl) := by
  unfold insertOne
  split
  · exact undone_same _
  · exact undone_ok _

theorem undone_incr (r : Readings) (m : Inner) (key : String) (ttl : UInt64) :
    Undone m (incr r m key ttl) := by
  cases hfound : found m r.check key with
  | some entry =>
    rw [incr_found r hfound]
    split
    · exact undone_same _
    · split
      · exact undone_ok _
      · exact undone_same _
  | none =>
    rw [incr_lost r hfound]
    exact undone_insertOne _ _ _ _

theorem undone_decr (m : Inner) (now : Instant) (key : String) : Undone m (decr m now key) := by
  cases hfound : found m now key with
  | some entry =>
    rw [decr_found hfound]
    split
    · exact undone_same _
    · split
      · exact undone_same _
      · split
        · exact undone_ok _
        · exact undone_ok _
  | none =>
    rw [decr_lost hfound]
    exact undone_same _

theorem undone_compareAndUpdate (r : Readings) (m : Inner) (key : String)
    (newValue ttl : UInt64) : Undone m (compareAndUpdateIfGreater r m key newValue ttl) := by
  unfold compareAndUpdateIfGreater
  split
  · exact undone_same _
  · split
    · split
      · exact undone_same _
      · exact undone_ok _
    · exact undone_same _

/-- **A call that fails** changes nothing. -/
theorem perform_error (m : Inner) (r : Readings) (call : DaoCall) : Undone m (perform m r call) := by
  cases call with
  | get key => exact (undone_same _).answer
  | set key value ttl => exact (undone_set m _ key value ttl).answer
  | update key value => exact (undone_update m _ key value).answer
  | expire key seconds => exact (undone_expire r m key seconds).answer
  | delete key => exact (undone_ok _).answer
  | setPermanent key value => exact (undone_ok _).answer
  | getTimeout key => exact (undone_same _).answer
  | getWithTtl key => exact (undone_same _).answer
  | keys pattern => exact (undone_same _).answer
  | rename oldKey newKey => exact (undone_rename m _ oldKey newKey).answer
  | getAndDelete key => exact (undone_getAndDelete m _ key).answer
  | incr key ttl => exact (undone_incr r m key ttl).answer
  | decr key => exact (undone_decr m _ key).answer
  | compareAndUpdateIfGreater key newValue ttl =>
    exact (undone_compareAndUpdate r m key newValue ttl).answer

end Failing

/-! ## Counters -/

/-- The number under a key, expired or not; no number counts as zero. -/
def counter (key : String) (m : Inner) : ℕ :=
  (((m.lookup key).bind fun entry => parseU64 entry.value).map UInt64.toNat).getD 0

/-- The keys that a call sets to another text without counting. -/
def rewritten : DaoCall → List String
  | .set key _ _ | .update key _ | .delete key | .setPermanent key _ | .getAndDelete key
  | .compareAndUpdateIfGreater key _ _ => [key]
  | .rename oldKey newKey => [oldKey, newKey]
  | .get _ | .expire _ _ | .getTimeout _ | .getWithTtl _ | .keys _ | .incr _ _ | .decr _ => []

/-- One more for a call of `incr` that succeeds, one less for one of `decr` that finds more than
zero. -/
def gain (key : String) (m : Inner) (r : Readings) (call : DaoCall) : ℤ :=
  match call, (perform m r call).1 with
  | .incr k _, .ok _ => if k = key then 1 else 0
  | .decr k, .ok _ => if k = key ∧ 0 < counter key m then -1 else 0
  | _, _ => 0

/-- The call only counts under the key, and what it finds there has not expired. -/
def Undisturbed (key : String) (m : Inner) (r : Readings) (call : DaoCall) : Prop :=
  key ∉ rewritten call ∧ ∀ entry ∈ m.lookup key, entry.Live r.check

theorem counter_insert_self : counter key (m.insert key entry) =
    ((parseU64 entry.value).map UInt64.toNat).getD 0 := by
  rw [counter, AList.lookup_insert, Option.bind_some]

theorem counter_of_lookup (h : m.lookup key = some entry) :
    counter key m = ((parseU64 entry.value).map UInt64.toNat).getD 0 := by
  rw [counter, h, Option.bind_some]

theorem counter_of_none (h : m.lookup key = none) : counter key m = 0 := by
  rw [counter, h]
  rfl

theorem counter_congr {m' : Inner} (h : m'.lookup key = m.lookup key) :
    counter key m' = counter key m := by
  rw [counter, h, counter]

theorem found_of_live (hlive : ∀ entry ∈ m.lookup key, entry.Live now) :
    found m now key = m.lookup key := by
  cases hlookup : m.lookup key with
  | none => rw [found, hlookup, Option.filter_none]
  | some entry => exact found_eq_some.mpr ⟨hlookup, hlive entry hlookup⟩

theorem lookup_insert_of_ne {k : String} (h : key ≠ k) :
    (m.insert k entry).lookup key = m.lookup key := AList.lookup_insert_ne h

theorem lookup_incr_of_ne {k : String} (r : Readings) (h : key ≠ k) :
    (incr r m k ttl).2.lookup key = m.lookup key := by
  have hone : (insertOne m r.stamp k ttl).2.lookup key = m.lookup key := by
    unfold insertOne
    split
    · rfl
    · exact lookup_insert_of_ne h
  cases hfound : found m r.check k with
  | none => rwa [incr_lost r hfound]
  | some entry =>
    rw [incr_found r hfound]
    split
    · rfl
    · split
      · exact lookup_insert_of_ne h
      · rfl

theorem lookup_decr_of_ne {k : String} (h : key ≠ k) :
    (decr m now k).2.lookup key = m.lookup key := by
  cases hfound : found m now k with
  | none => rw [decr_lost hfound]
  | some entry =>
    rw [decr_found hfound]
    split
    · rfl
    · split
      · rfl
      · split
        · exact AList.lookup_erase_ne h
        · exact lookup_insert_of_ne h

theorem counter_insert_toString (entry : Entry) (n : UInt64) :
    counter key (m.insert key { entry with value := toString n }) = n.toNat := by
  rw [counter_insert_self, parseU64_toString]
  rfl

theorem counter_incr (r : Readings) (hlive : ∀ entry ∈ m.lookup key, entry.Live r.check) :
    (counter key (incr r m key ttl).2 : ℤ) =
      counter key m + match (incr r m key ttl).1 with
        | .ok _ => 1
        | .error _ => 0 := by
  have hfound := found_of_live hlive
  cases hlookup : m.lookup key with
  | none =>
    rw [incr_lost r (hfound.trans hlookup), insertOne, counter_of_none hlookup]
    cases expiry r.stamp ttl with
    | error e => simp [counter_of_none hlookup]
    | ok expireAt =>
      have hone : parseU64 "1" = some 1 := by decide
      simp [counter_insert_self, hone]
  | some entry =>
    rw [incr_found r (hfound.trans hlookup)]
    cases hparse : parseU64 entry.value with
    | none => simp
    | some n =>
      by_cases hroom : n.toNat + 1 < 2 ^ 64
      · have hnext : (n + 1).toNat = n.toNat + 1 := by
          rw [UInt64.toNat_add]
          exact Nat.mod_eq_of_lt hroom
        simp only [if_pos hroom, counter_insert_toString, counter_of_lookup hlookup, hparse, hnext]
        simp
      · simp only [if_neg hroom, add_zero]

theorem counter_decr (hlive : ∀ entry ∈ m.lookup key, entry.Live now) :
    (counter key (decr m now key).2 : ℤ) =
      counter key m + match (decr m now key).1 with
        | .ok _ => if 0 < counter key m then -1 else 0
        | .error _ => 0 := by
  have hfound := found_of_live hlive
  cases hlookup : m.lookup key with
  | none =>
    rw [decr_lost (hfound.trans hlookup), counter_of_none hlookup]
    rfl
  | some entry =>
    rw [decr_found (hfound.trans hlookup)]
    cases hparse : parseU64 entry.value with
    | none => simp
    | some n =>
      have hcounter : counter key m = n.toNat := by
        rw [counter_of_lookup hlookup, hparse]
        rfl
      by_cases hzero : n = 0
      · simp only [if_pos hzero, hcounter]
        simp [hzero]
      · have hpos : 0 < n.toNat := UInt64.lt_iff_toNat_lt.mp (UInt64.pos_iff_ne_zero.mpr hzero)
        have hless : (n - 1).toNat = n.toNat - 1 :=
          UInt64.toNat_sub_of_le n 1 (UInt64.le_iff_toNat_le.mpr hpos)
        by_cases hlast : n - 1 = 0
        · have hone : n.toNat = 1 := by
            have hnone : n.toNat - 1 = 0 := hless.symm.trans (congrArg UInt64.toNat hlast)
            omega
          simp only [if_neg hzero, if_pos hlast, hcounter, hone,
            counter_of_none (AList.lookup_erase key m)]
          simp
        · simp only [if_neg hzero, if_neg hlast, counter_insert_toString, hless, hcounter,
            if_pos hpos]
          omega

theorem counter_expire (r : Readings) (m : Inner) (key k : String) (seconds : UInt64) :
    counter key (expire r m k seconds).2 = counter key m := by
  cases hfound : found m r.check k with
  | none =>
    obtain ⟨e, -, hexpire⟩ := expire_lost r seconds hfound
    rw [hexpire]
  | some entry =>
    rw [expire_found r hfound]
    split
    · rfl
    · by_cases hkey : key = k
      · rw [hkey, counter_insert_self, counter_of_lookup (found_eq_some.mp hfound).1]
      · exact counter_congr (lookup_insert_of_ne hkey)

/-- A call that writes under other keys only. -/
theorem lookup_of_not_rewritten {call : DaoCall} (h : key ∉ rewritten call)
    (hcounts : rewritten call ≠ []) : (perform m r call).2.lookup key = m.lookup key := by
  cases call with
  | set k value ttl =>
    simp only [perform, answer, set]
    split
    · rfl
    · exact lookup_insert_of_ne (List.ne_of_not_mem_cons h)
  | update k value =>
    simp only [perform, answer]
    cases hfound : found m r.check k with
    | some entry =>
      rw [update_found hfound]
      exact lookup_insert_of_ne (List.ne_of_not_mem_cons h)
    | none =>
      obtain ⟨e, -, hupdate⟩ := update_lost value hfound
      rw [hupdate]
  | delete k => exact AList.lookup_erase_ne (List.ne_of_not_mem_cons h)
  | setPermanent k value => exact lookup_insert_of_ne (List.ne_of_not_mem_cons h)
  | rename oldKey newKey =>
    simp only [perform, answer, rename_eq]
    split
    · rfl
    · rw [AList.lookup_erase_ne (List.ne_of_not_mem_cons h)]
      exact lookup_insert_of_ne (List.ne_of_not_mem_cons (List.not_mem_of_not_mem_cons h))
  | getAndDelete k =>
    simp only [perform, answer]
    cases hfound : found m r.check k with
    | some entry =>
      rw [getAndDelete_found hfound]
      exact AList.lookup_erase_ne (List.ne_of_not_mem_cons h)
    | none =>
      rw [getAndDelete_lost hfound]
      exact AList.lookup_erase_ne (List.ne_of_not_mem_cons h)
  | compareAndUpdateIfGreater k newValue ttl =>
    simp only [perform, answer, compareAndUpdateIfGreater]
    split
    · rfl
    · split
      · split
        · rfl
        · exact lookup_insert_of_ne (List.ne_of_not_mem_cons h)
      · rfl
  | _ => exact absurd rfl hcounts

/-- **The count** under a key goes up and down with the calls of `incr` and `decr`. -/
theorem count_kept {call : DaoCall} (h : Undisturbed key m r call) :
    (counter key (perform m r call).2 : ℤ) = counter key m + gain key m r call := by
  obtain ⟨hother, hlive⟩ := h
  cases call with
  | get k => exact (add_zero _).symm
  | getTimeout k => exact (add_zero _).symm
  | getWithTtl k => exact (add_zero _).symm
  | keys pattern => exact (add_zero _).symm
  | expire k seconds =>
    simp only [perform, answer, counter_expire, gain, add_zero]
  | incr k ttl =>
    simp only [perform, answer, gain]
    by_cases hkey : k = key
    · subst hkey
      rw [counter_incr r hlive]
      cases (incr r m k ttl).1 with
      | ok n => simp [Except.map]
      | error e => simp [Except.map]
    · rw [counter_congr (lookup_incr_of_ne r (Ne.symm hkey))]
      cases (incr r m k ttl).1 with
      | ok n => simp [Except.map, hkey]
      | error e => simp [Except.map]
  | decr k =>
    simp only [perform, answer, gain]
    by_cases hkey : k = key
    · subst hkey
      rw [counter_decr hlive]
      cases (decr m r.check k).1 with
      | ok n => simp [Except.map]
      | error e => simp [Except.map]
    · rw [counter_congr (lookup_decr_of_ne (Ne.symm hkey))]
      cases (decr m r.check k).1 with
      | ok n => simp [Except.map, hkey]
      | error e => simp [Except.map]
  | _ =>
    rw [counter_congr (lookup_of_not_rewritten hother (List.cons_ne_nil _ _))]
    exact (add_zero _).symm

end MemoryGarrisonDao

end NebulaId
