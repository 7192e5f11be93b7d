import Mathlib.Logic.Function.Basic
import Mathlib.Data.Int.Order.Basic
import NebulaId.Machine.Crowd
import NebulaId.Machine.FirstOk
import NebulaId.Types.Id

/-!
# Keys in a cache (`core/auth/manager.rs`)

`AuthManager` keeps its keys in a cache and nowhere else. A call reads or writes it at each of its
awaits; any of these may fail, entries are evicted at any time, and calls are interleaved. What
`add_key` and `revoke_key` write is not looked at again: they succeed whether it was written or not.

* `Truthful`: what the answers of `validate_key` have to be, after what was returned before.
* `AuthCrowd.honest`: as long as no failure is overlooked that matters, the cache is as promised.
* `AuthCrowd.revocation_truthful`: the answers are truthful exactly as long as that is so.
* `AuthCrowd.revoked_key_works`: a revocation that is not written, and a key that goes on working.
-/

namespace NebulaId

open Machine

structure ApiKeyData where
  keyId : String
  keyHash : String
  workspaceId : String
  enabled : Bool
  createdAt : ℤ
  expiresAt : Option ℤ
  permissions : List String

/-- Hashing a password with a salt, and verifying it against a stored hash. -/
structure Argon2 where
  hashPassword : String → String → Except String String
  verifyPassword : String → String → Bool
  accepts : ∀ {password salt hash}, hashPassword password salt = .ok hash →
    verifyPassword password hash = true

structure AuthManager where
  argon2 : Argon2
  salt : String

/-- `expires_at < Utc::now()`, if there is such a time. -/
def pastExpiry (expiresAt : Option ℤ) (now : ℤ) : Bool := expiresAt.any fun time => time < now

namespace AuthManager

def password (m : AuthManager) (keyId keySecret : String) : String :=
  m.salt ++ "|" ++ keyId ++ ":" ++ keySecret

def hashKey (m : AuthManager) (salt keyId keySecret : String) : Result String :=
  (m.argon2.hashPassword (m.password keyId keySecret) salt).mapError fun e =>
    .internalError ("argon2 hash failed: " ++ e)

def verifyKey (m : AuthManager) (keyId keySecret storedHash : String) : Bool :=
  m.argon2.verifyPassword (m.password keyId keySecret) storedHash

/-- The answer of `validate_key` to what it has read, and whether it is to delete the key. -/
def judge (m : AuthManager) (now : ℤ) (keyId keySecret : String) :
    Option ApiKeyData → Option String × Bool
  | none => (none, false)
  | some keyData =>
    if keyData.enabled = false then (none, false)
    else if pastExpiry keyData.expiresAt now then (none, true)
    else if m.verifyKey keyId keySecret keyData.keyHash then (some keyData.workspaceId, false)
    else (none, false)

end AuthManager

/-! ## What has happened to a key -/

/-- What `add_key` was called with. -/
structure Grant where
  keySecret : String
  workspaceId : String
  expiresAt : Option ℤ

/-- `add_key` has returned `Ok`, `revoke_key` has returned true, the cache has dropped a key, or
`validate_key` has read it and answers. -/
inductive KeyEvent where
  | added (keyId : String) (grant : Grant)
  | revoked (keyId : String)
  | evicted (keyId : String)
  | validated (keyId keySecret : String) (now : ℤ) (answer : Option String)

/-- The key was revoked, and not added since. Logs have the latest event first. -/
def Revoked (keyId : String) : List KeyEvent → Prop
  | [] => False
  | .added other _ :: log => other ≠ keyId ∧ Revoked keyId log
  | .revoked other :: log => other = keyId ∨ Revoked keyId log
  | .evicted _ :: log | .validated _ _ _ _ :: log => Revoked keyId log

/-- The key was added last, and has not been evicted, revoked or seen expired since. -/
def granted (keyId : String) : List KeyEvent → Option Grant
  | [] => none
  | .added other grant :: log => if other = keyId then some grant else granted keyId log
  | .revoked other :: log | .evicted other :: log =>
    if other = keyId then none else granted keyId log
  | .validated other _ now _ :: log =>
    (granted keyId log).filter fun grant => !(other = keyId && pastExpiry grant.expiresAt now)

/-- Nobody gets in with a revoked key, and everybody with the secret of a good one. -/
def Truthful : List KeyEvent → Prop
  | [] => True
  | .validated keyId keySecret now answer :: log =>
    (Revoked keyId log → answer = none) ∧
    (∀ grant, granted keyId log = some grant → pastExpiry grant.expiresAt now = false →
      grant.keySecret = keySecret → answer = some grant.workspaceId) ∧ Truthful log
  | _ :: log => Truthful log

/-! ## Calls -/

inductive AuthCall where
  | addKey (keyId : String) (grant : Grant) (permissions : List String)
  | validateKey (keyId keySecret : String)
  | revokeKey (keyId : String)

/-- How far a call has come. -/
inductive AuthTask where
  | called (call : AuthCall)
  | setting (keySecret : String) (keyData : ApiKeyData)
  | deleting (keyId : String)
  | disabling (keyId : String) (keyData : ApiKeyData)
  | added (answer : Result String)
  | validated (answer : Option String)
  | revoked (answer : Bool)

structure AuthState where
  keys : String → Option ApiKeyData
  log : List KeyEvent

/-- What a call meets at an await: whether the cache fails, the clock and a salt. -/
structure AuthMoment where
  fails : Bool
  now : ℤ
  salt : String

namespace AuthState

def get (s : AuthState) (a : AuthMoment) (keyId : String) : Option ApiKeyData :=
  if a.fails then none else s.keys keyId

/-- The cache with another entry for a key, unless it fails. -/
def put (s : AuthState) (a : AuthMoment) (keyId : String) (keyData : Option ApiKeyData) :
    AuthState :=
  if a.fails then s else { s with keys := Function.update s.keys keyId keyData }

def record (s : AuthState) (event : KeyEvent) : AuthState := { s with log := event :: s.log }

end AuthState

abbrev AuthCrowd := Crowd AuthState AuthTask

namespace AuthTask

variable (m : AuthManager)

def step (a : AuthMoment) (s : AuthState) : AuthTask → Option (AuthState × AuthTask)
  | .called (.addKey keyId grant permissions) =>
    match m.hashKey a.salt keyId grant.keySecret with
    | .error e => some (s, .added (.error e))
    | .ok keyHash => some (s, .setting grant.keySecret
        ⟨keyId, keyHash, grant.workspaceId, true, a.now, grant.expiresAt, permissions⟩)
  | .setting keySecret keyData => some
      ((s.put a keyData.keyId (some keyData)).record
        (.added keyData.keyId ⟨keySecret, keyData.workspaceId, keyData.expiresAt⟩),
      .added (.ok keyData.keyId))
  | .called (.validateKey keyId keySecret) =>
    let judged := m.judge a.now keyId keySecret (s.get a keyId)
    some (s.record (.validated keyId keySecret a.now judged.1),
      if judged.2 then .deleting keyId else .validated judged.1)
  | .deleting keyId => some (s.put a keyId none, .validated none)
  | .called (.revokeKey keyId) => match s.get a keyId with
    | some keyData => some (s, .disabling keyId { keyData with enabled := false })
    | none => some (s, .revoked false)
  | .disabling keyId keyData =>
    some ((s.put a keyId (some keyData)).record (.revoked keyId), .revoked true)
  | .added _ | .validated _ | .revoked _ => none

/-- Around the calls the cache drops a key. -/
def program : Program AuthState AuthTask AuthCall AuthMoment String where
  start := .called
  step := step m
  pass keyId s :=
    { s with keys := Function.update s.keys keyId none }.record (.evicted keyId)

end AuthTask

namespace AuthCrowd

def start : AuthCrowd := ⟨⟨fun _ => none, []⟩, []⟩

variable (m : AuthManager)

/-- The cache lets in who has the secret of the grant, for as long as the grant says. -/
def Serves (s : AuthState) (keyId : String) (grant : Grant) : Prop :=
  ∃ keyData, s.keys keyId = some keyData ∧ keyData.enabled = true ∧
    keyData.workspaceId = grant.workspaceId ∧
    m.verifyKey keyId grant.keySecret keyData.keyHash = true ∧
    ∀ now, pastExpiry keyData.expiresAt now = true → pastExpiry grant.expiresAt now = true

/-- What a call does at an await has its effect or needs none, and it deletes no key that has been
added anew. -/
def Heeded (a : AuthMoment) (s : AuthState) : AuthTask → Prop
  | .setting keySecret keyData => a.fails = false ∨
      Serves m s keyData.keyId ⟨keySecret, keyData.workspaceId, keyData.expiresAt⟩
  | .disabling keyId _ => a.fails = false ∨
      ∀ keyData, s.keys keyId = some keyData → keyData.enabled = false
  | .called (.validateKey keyId keySecret) => a.fails = false ∨
      ∀ grant, granted keyId s.log = some grant → grant.keySecret = keySecret →
        pastExpiry grant.expiresAt a.now = true
  | .deleting keyId => a.fails = true ∨ granted keyId s.log = none
  | _ => True

def Heeds (w : AuthCrowd) : CrowdAct AuthCall AuthMoment String → Prop
  | .move i a => ∀ p, w.tasks[i]? = some p → Heeded m a w.shared p
  | _ => True

/-- The cache is as it was promised. -/
structure Honest (s : AuthState) : Prop where
  disabled : ∀ keyId, Revoked keyId s.log →
    ∀ keyData, s.keys keyId = some keyData → keyData.enabled = false
  serving : ∀ keyId grant, granted keyId s.log = some grant → Serves m s keyId grant
  known : ∀ keyId keyData, s.keys keyId = some keyData →
    ∃ keySecret, m.verifyKey keyId keySecret keyData.keyHash = true
  truthful : Truthful s.log

/-- What a call is about to write is what it says. -/
def Ready : AuthTask → Prop
  | .setting keySecret keyData => keyData.enabled = true ∧
      m.verifyKey keyData.keyId keySecret keyData.keyHash = true
  | .disabling keyId keyData => keyData.enabled = false ∧
      ∃ keySecret, m.verifyKey keyId keySecret keyData.keyHash = true
  | _ => True

variable {m} {w w' : AuthCrowd} {s : AuthState} {a : AuthMoment} {keyId keySecret : String}
  {keyData : ApiKeyData} {grant : Grant} {log : List KeyEvent} {now : ℤ}

/-! ## Validation -/

theorem judge_of_disabled {read : Option ApiKeyData}
    (h : ∀ keyData, read = some keyData → keyData.enabled = false) :
    (m.judge now keyId keySecret read).1 = none := by
  cases read with
  | none => rfl
  | some keyData => rw [AuthManager.judge, if_pos (h keyData rfl)]

theorem judge_of_serves (h : Serves m s keyId grant)
    (hlive : pastExpiry grant.expiresAt now = false) :
    (m.judge now keyId grant.keySecret (s.keys keyId)).1 = some grant.workspaceId := by
  obtain ⟨keyData, hkey, henabled, hworkspace, hverify, hexpiry⟩ := h
  have hdata : pastExpiry keyData.expiresAt now = false := by
    by_contra hpast
    rw [Bool.not_eq_false] at hpast
    rw [hexpiry now hpast] at hlive
    cases hlive
  rw [hkey, AuthManager.judge, if_neg (by rw [henabled]; decide), hdata, hverify, hworkspace]
  rfl

/-- At some time a grant has not expired. -/
theorem exists_live (grant : Grant) : ∃ now, pastExpiry grant.expiresAt now = false := by
  cases hexpiry : grant.expiresAt with
  | none => exact ⟨0, rfl⟩
  | some time => exact ⟨time, by simp [pastExpiry]⟩

/-- Where the cache does not serve a grant, a read may tell. -/
theorem exists_judge_ne (h : ¬ Serves m s keyId grant) :
    ∃ now, pastExpiry grant.expiresAt now = false ∧
      (m.judge now keyId grant.keySecret (s.keys keyId)).1 ≠ some grant.workspaceId := by
  by_contra hall
  have hjudge : ∀ now, pastExpiry grant.expiresAt now = false →
      (m.judge now keyId grant.keySecret (s.keys keyId)).1 = some grant.workspaceId := by
    intro now hlive
    by_contra hne
    exact hall ⟨now, hlive, hne⟩
  obtain ⟨now, hlive⟩ := exists_live grant
  have hnow := hjudge now hlive
  cases hkey : s.keys keyId with
  | none =>
    rw [hkey] at hnow
    cases hnow
  | some keyData =>
    rw [hkey, AuthManager.judge] at hnow
    split at hnow
    · cases hnow
    · next henabled =>
      split at hnow
      · cases hnow
      · split at hnow
        · next hverify =>
          refine h ⟨keyData, hkey, eq_true_of_ne_false henabled, Option.some.inj hnow, hverify, ?_⟩
          intro later hpast
          by_contra hlater
          have hread := hjudge later (eq_false_of_ne_true hlater)
          rw [hkey, AuthManager.judge, if_neg henabled, if_pos hpast] at hread
          cases hread
        · cases hnow

/-! ## Steps -/

theorem keys_put (s : AuthState) (a : AuthMoment) (keyId : String) (read : Option ApiKeyData) :
    (s.put a keyId read).keys = if a.fails then s.keys else Function.update s.keys keyId read := by
  unfold AuthState.put
  split <;> rfl

theorem log_put (s : AuthState) (a : AuthMoment) (keyId : String) (read : Option ApiKeyData) :
    (s.put a keyId read).log = s.log := by
  unfold AuthState.put
  split <;> rfl

/-- Only the key that is written is served differently. -/
theorem serves_congr {s s' : AuthState} (h : s'.keys keyId = s.keys keyId) :
    Serves m s' keyId grant ↔ Serves m s keyId grant := by
  rw [Serves, Serves, h]

/-- Whatever is written for a key has a secret. -/
theorem known_put (h : Honest m s) {other : String} {read : Option ApiKeyData}
    (hread : ∀ keyData, read = some keyData →
      ∃ keySecret, m.verifyKey other keySecret keyData.keyHash = true) :
    ∀ keyId keyData, (s.put a other read).keys keyId = some keyData →
      ∃ keySecret, m.verifyKey keyId keySecret keyData.keyHash = true := by
  intro keyId keyData hkey
  rw [keys_put] at hkey
  split at hkey
  · exact h.known keyId keyData hkey
  · by_cases heq : keyId = other
    · subst heq
      rw [Function.update_self] at hkey
      exact hread keyData hkey
    · rw [Function.update_of_ne heq] at hkey
      exact h.known keyId keyData hkey

theorem keys_put_of_ne (s : AuthState) (a : AuthMoment) {other : String} (hne : keyId ≠ other)
    (read : Option ApiKeyData) : (s.put a other read).keys keyId = s.keys keyId := by
  rw [keys_put]
  split
  · rfl
  · rw [Function.update_of_ne hne]

theorem keys_put_self (s : AuthState) (hworks : a.fails = false) (read : Option ApiKeyData) :
    (s.put a keyId read).keys keyId = read := by
  rw [keys_put, hworks, if_neg (by decide), Function.update_self]

theorem keys_put_of_fails (s : AuthState) (hfails : a.fails = true) (keyId : String)
    (read : Option ApiKeyData) : s.put a keyId read = s := by
  rw [AuthState.put, if_pos hfails]

theorem Honest.added (h : Honest m s) (hready : Ready m (.setting keySecret keyData))
    (hheeded : Heeded m a s (.setting keySecret keyData)) :
    Honest m ((s.put a keyData.keyId (some keyData)).record
      (.added keyData.keyId ⟨keySecret, keyData.workspaceId, keyData.expiresAt⟩)) := by
  obtain ⟨henabled, hverify⟩ := hready
  have hserves : Serves m (s.put a keyData.keyId (some keyData)) keyData.keyId
      ⟨keySecret, keyData.workspaceId, keyData.expiresAt⟩ := by
    cases hfails : a.fails with
    | true =>
      rw [keys_put_of_fails s hfails]
      exact hheeded.resolve_left (by rw [hfails]; decide)
    | false =>
      exact ⟨keyData, keys_put_self s hfails _, henabled, rfl, hverify, fun _ => id⟩
  refine ⟨fun keyId hrevoked => ?_, fun keyId grant hgrant => ?_, ?_, ?_⟩
  · obtain ⟨hne, hrevoked⟩ := hrevoked
    rw [log_put] at hrevoked
    change ∀ d, (s.put a keyData.keyId (some keyData)).keys keyId = some d → d.enabled = false
    rw [keys_put_of_ne s a (Ne.symm hne)]
    exact h.disabled keyId hrevoked
  · change granted keyId (.added _ _ :: _) = _ at hgrant
    rw [granted, log_put] at hgrant
    split at hgrant
    · next heq =>
      subst heq
      cases hgrant
      exact hserves
    · next hne =>
      exact (serves_congr (keys_put_of_ne s a (Ne.symm hne) _)).mpr (h.serving keyId grant hgrant)
  · refine known_put h fun d hd => ?_
    cases hd
    exact ⟨keySecret, hverify⟩
  · change Truthful (s.put a keyData.keyId (some keyData)).log
    rw [log_put]
    exact h.truthful

theorem Honest.revoked (h : Honest m s) (hready : Ready m (.disabling keyId keyData))
    (hheeded : Heeded m a s (.disabling keyId keyData)) :
    Honest m ((s.put a keyId (some keyData)).record (.revoked keyId)) := by
  obtain ⟨hdisabled, hknown⟩ := hready
  refine ⟨fun other hrevoked => ?_, fun other grant hgrant => ?_, ?_, ?_⟩
  · change ∀ d, (s.put a keyId (some keyData)).keys other = some d → d.enabled = false
    by_cases heq : other = keyId
    · subst heq
      cases hfails : a.fails with
      | true =>
        rw [keys_put_of_fails s hfails]
        exact hheeded.resolve_left (by rw [hfails]; decide)
      | false =>
        rw [keys_put_self s hfails]
        rintro d ⟨⟩
        exact hdisabled
    · rw [keys_put_of_ne s a heq]
      have hbefore := hrevoked.resolve_left (Ne.symm heq)
      rw [log_put] at hbefore
      exact h.disabled other hbefore
  · change granted other (.revoked _ :: _) = _ at hgrant
    rw [granted, log_put] at hgrant
    split at hgrant
    · cases hgrant
    · next hne =>
      exact (serves_congr (keys_put_of_ne s a (Ne.symm hne) _)).mpr (h.serving other grant hgrant)
  · refine known_put h fun d hd => ?_
    cases hd
    exact hknown
  · change Truthful (s.put a keyId (some keyData)).log
    rw [log_put]
    exact h.truthful

theorem update_none_eq_some {keys : String → Option ApiKeyData} {other : String}
    (h : Function.update keys keyId none other = some keyData) :
    other ≠ keyId ∧ keys other = some keyData := by
  have hne : other ≠ keyId := by
    rintro rfl
    rw [Function.update_self] at h
    cases h
  exact ⟨hne, by rwa [Function.update_of_ne hne] at h⟩

/-- A key that is gone lets nobody in. -/
theorem Honest.dropped (h : Honest m s) (hgrant : granted keyId s.log = none) :
    Honest m { s with keys := Function.update s.keys keyId none } := by
  refine ⟨fun other hrevoked d hd => ?_, fun other grant hother => ?_, fun other d hd => ?_,
    h.truthful⟩
  · exact h.disabled other hrevoked d (update_none_eq_some hd).2
  · have hne : other ≠ keyId := by
      rintro rfl
      cases hgrant.symm.trans hother
    exact (serves_congr (Function.update_of_ne hne _ _)).mpr (h.serving other grant hother)
  · exact h.known other d (update_none_eq_some hd).2

theorem Honest.evicted (h : Honest m s) (keyId : String) :
    Honest m (s.record (.evicted keyId)) := by
  refine ⟨h.disabled, fun other grant hgrant => ?_, h.known, h.truthful⟩
  change (if keyId = other then none else granted other s.log) = _ at hgrant
  split at hgrant
  · cases hgrant
  · exact h.serving other grant hgrant

theorem granted_of_validated {other secret : String} {answer : Option String}
    (h : granted keyId (.validated other secret now answer :: log) = some grant) :
    granted keyId log = some grant := (Option.filter_eq_some_iff.mp h).1

theorem Honest.validated (h : Honest m s)
    (hheeded : Heeded m a s (.called (.validateKey keyId keySecret))) :
    Honest m (s.record (.validated keyId keySecret a.now
      (m.judge a.now keyId keySecret (s.get a keyId)).1)) := by
  refine ⟨h.disabled, fun other grant hgrant => ?_, h.known, ?_, ?_, h.truthful⟩
  · exact h.serving other grant (granted_of_validated hgrant)
  · intro hrevoked
    refine judge_of_disabled fun d hd => ?_
    unfold AuthState.get at hd
    split at hd
    · cases hd
    · exact h.disabled keyId hrevoked d hd
  · rintro grant hgrant hlive rfl
    have hworks : a.fails = false := by
      refine hheeded.resolve_right fun hexpired => ?_
      rw [hexpired grant hgrant rfl] at hlive
      cases hlive
    rw [AuthState.get, hworks]
    exact judge_of_serves (h.serving keyId grant hgrant) hlive

/-- What a call is about to do is what it says, and the cache stays as promised. -/
theorem honest_step {p q : AuthTask} {s' : AuthState} (h : Honest m s) (hready : Ready m p)
    (hheeded : Heeded m a s p) (hs : p.step m a s = some (s', q)) : Honest m s' ∧ Ready m q := by
  cases p with
  | called call =>
    cases call with
    | addKey keyId grant permissions =>
      simp only [AuthTask.step] at hs
      split at hs
      · cases hs
        exact ⟨h, trivial⟩
      · next keyHash hhash =>
        cases hs
        exact ⟨h, rfl, m.argon2.accepts (except_mapError_eq_ok.mp hhash)⟩
    | validateKey keyId keySecret =>
      simp only [AuthTask.step, Option.some.injEq, Prod.mk.injEq] at hs
      obtain ⟨rfl, rfl⟩ := hs
      refine ⟨h.validated hheeded, ?_⟩
      split <;> trivial
    | revokeKey keyId =>
      simp only [AuthTask.step] at hs
      split at hs
      · next d hget =>
        cases hs
        unfold AuthState.get at hget
        split at hget
        · cases hget
        · exact ⟨h, rfl, h.known keyId d hget⟩
      · cases hs
        exact ⟨h, trivial⟩
  | setting keySecret keyData =>
    cases hs
    exact ⟨h.added hready hheeded, trivial⟩
  | deleting keyId =>
    cases hs
    refine ⟨?_, trivial⟩
    cases hfails : a.fails with
    | true =>
      rw [keys_put_of_fails s hfails]
      exact h
    | false =>
      rw [AuthState.put, if_neg (by rw [hfails]; decide)]
      exact h.dropped (hheeded.resolve_left (by rw [hfails]; decide))
  | disabling keyId keyData =>
    cases hs
    exact ⟨h.revoked hready hheeded, trivial⟩
  | added | validated | revoked => cases hs

/-! ## Every run -/

/-- **The cache is as promised** as long as no failure is overlooked that matters. -/
theorem honest (h : Reaches (Crowd.step (AuthTask.program m)) (Heeds m) start w) :
    Honest m w.shared ∧ ∀ p ∈ w.tasks, Ready m p := by
  refine h.invariant (I := fun w => Honest m w.shared ∧ ∀ p ∈ w.tasks, Ready m p) ?_ ?_
  · refine ⟨⟨fun _ hrevoked => hrevoked.elim, fun _ _ hgrant => ?_, fun _ _ hkey => ?_, trivial⟩,
      ?_⟩
    · cases hgrant
    · cases hkey
    · simp [start]
  · rintro w act w' ⟨hhonest, hready⟩ hheeds hs
    rcases Crowd.step_cases hs with ⟨call, rfl, rfl⟩ | ⟨i, a, p, s', q, rfl, hp, hstep, rfl⟩ |
      ⟨keyId, rfl, rfl⟩
    · exact ⟨hhonest, Crowd.forall_mem_snoc hready trivial⟩
    · obtain ⟨hhonest', hready'⟩ :=
        honest_step hhonest (hready p (List.mem_of_getElem? hp)) (hheeds p hp) hstep
      exact ⟨hhonest', Crowd.forall_mem_set hready hready'⟩
    · have hevicted := hhonest.evicted keyId
      exact ⟨hevicted.dropped (if_pos rfl), hready⟩

theorem not_truthful_of_revoked {answer : Option String} (hrevoked : Revoked keyId log)
    (hanswer : answer ≠ none) : ¬ Truthful (.validated keyId keySecret now answer :: log) :=
  fun htruthful => hanswer (htruthful.1 hrevoked)

theorem not_truthful_of_granted {answer : Option String} (hgrant : granted keyId log = some grant)
    (hlive : pastExpiry grant.expiresAt now = false) (hanswer : answer ≠ some grant.workspaceId) :
    ¬ Truthful (.validated keyId grant.keySecret now answer :: log) :=
  fun htruthful => hanswer (htruthful.2.1 grant hgrant hlive rfl)

/-- Anybody may try a secret at any time. -/
theorem exists_lie_of (h : ¬ Truthful (.validated keyId keySecret now
      (m.judge now keyId keySecret (w.shared.keys keyId)).1 :: w.shared.log)) :
    ∃ w', Reaches (Crowd.step (AuthTask.program m)) Free w w' ∧ ¬ Truthful w'.shared.log := by
  refine ⟨_, Reaches.cons (a := .spawn (.validateKey keyId keySecret)) trivial rfl
    (Reaches.single (a := .move w.tasks.length ⟨false, now, ""⟩) trivial
      (Crowd.step_move.mpr ⟨_, _, _, List.getElem?_concat_length, rfl, rfl⟩)), h⟩

/-- An access to the cache whose failure is overlooked may be followed by an answer that is not
truthful. -/
theorem exists_lie_of_access (hhonest : Honest m s) {p q : AuthTask} {s' : AuthState}
    (hnot : ¬ Heeded m a s p) (hs : p.step m a s = some (s', q)) (tasks : List AuthTask) :
    ∃ w', Reaches (Crowd.step (AuthTask.program m)) Free ⟨s', tasks⟩ w' ∧
      ¬ Truthful w'.shared.log := by
  cases p with
  | called call =>
    cases call with
    | addKey | revokeKey => exact absurd trivial hnot
    | validateKey keyId keySecret =>
      obtain ⟨hfails, hgrant⟩ := not_or.mp hnot
      simp only [not_forall, Bool.not_eq_true] at hgrant
      obtain ⟨grant, hgrant, rfl, hlive⟩ := hgrant
      cases hs
      refine ⟨_, Reaches.refl _, not_truthful_of_granted hgrant hlive ?_⟩
      rw [AuthState.get, if_pos (eq_true_of_ne_false hfails)]
      exact Option.some_ne_none _ |>.symm
  | setting keySecret keyData =>
    obtain ⟨hfails, hserves⟩ := not_or.mp hnot
    cases hs
    rw [keys_put_of_fails s (eq_true_of_ne_false hfails)]
    obtain ⟨now, hlive, hne⟩ := exists_judge_ne hserves
    exact exists_lie_of (not_truthful_of_granted (if_pos rfl) hlive hne)
  | deleting keyId =>
    obtain ⟨hworks, hgrant⟩ := not_or.mp hnot
    obtain ⟨grant, hgrant⟩ := Option.ne_none_iff_exists'.mp hgrant
    cases hs
    obtain ⟨now, hlive⟩ := exists_live grant
    refine exists_lie_of (not_truthful_of_granted (by rw [log_put]; exact hgrant) hlive ?_)
    rw [keys_put_self s (eq_false_of_ne_true hworks)]
    exact Option.some_ne_none _ |>.symm
  | disabling keyId keyData =>
    obtain ⟨hfails, henabled⟩ := not_or.mp hnot
    simp only [not_forall, Bool.not_eq_false] at henabled
    obtain ⟨d, hd, henabled⟩ := henabled
    obtain ⟨keySecret, hverify⟩ := hhonest.known keyId d hd
    have hserves : Serves m s keyId ⟨keySecret, d.workspaceId, d.expiresAt⟩ :=
      ⟨d, hd, henabled, rfl, hverify, fun _ => id⟩
    cases hs
    rw [keys_put_of_fails s (eq_true_of_ne_false hfails)]
    obtain ⟨now, hlive⟩ := exists_live ⟨keySecret, d.workspaceId, d.expiresAt⟩
    have hanswer := (judge_of_serves hserves hlive).trans_ne (Option.some_ne_none _)
    exact exists_lie_of (not_truthful_of_revoked (Or.inl rfl) hanswer)
  | added | validated | revoked => exact absurd trivial hnot

theorem exists_lie (hhonest : Honest m w.shared) {act : CrowdAct AuthCall AuthMoment String}
    (hnot : ¬ Heeds m w act) (hs : Crowd.step (AuthTask.program m) w act = some w') :
    ∃ w'', Reaches (Crowd.step (AuthTask.program m)) Free w' w'' ∧
      ¬ Truthful w''.shared.log := by
  cases act with
  | spawn | pass => exact absurd trivial hnot
  | move i a =>
    obtain ⟨p, s', q, hp, hstep, rfl⟩ := Crowd.step_move.mp hs
    refine exists_lie_of_access hhonest (fun hheeded => hnot fun p' hp' => ?_) hstep _
    cases hp.symm.trans hp'
    exact hheeded

/-- **Revocation is truthful** in every run that overlooks no failure that matters; and a step that
does overlook one may be followed by an answer that is not truthful. -/
theorem revocation_truthful (m : AuthManager) :
    (∀ w, Reaches (Crowd.step (AuthTask.program m)) (Heeds m) start w → Truthful w.shared.log) ∧
      ∀ w, Reaches (Crowd.step (AuthTask.program m)) (Heeds m) start w →
        ∀ act w', Crowd.step (AuthTask.program m) w act = some w' → ¬ Heeds m w act →
          ∃ w'', Reaches (Crowd.step (AuthTask.program m)) Free w' w'' ∧
            ¬ Truthful w''.shared.log :=
  ⟨fun _ hw => (honest hw).1.truthful, fun _ hw _ _ hs hnot => exists_lie (honest hw).1 hnot hs⟩

/-- The hash of a password is the password. -/
def plainArgon2 : Argon2 where
  hashPassword password _ := .ok password
  verifyPassword password hash := password == hash
  accepts := by
    intro password salt hash h
    cases h
    exact beq_self_eq_true password

def plainManager : AuthManager := ⟨plainArgon2, "pepper"⟩

/-- The cache does not take the revocation, which is answered with true all the same. -/
theorem revoked_key_works :
    ∃ w, Reaches (Crowd.step (AuthTask.program plainManager)) Free start w ∧
      ¬ Truthful w.shared.log ∧
      w.tasks = [.added (.ok "key"), .revoked true, .validated (some "acme")] := by
  obtain ⟨w, hw⟩ : ∃ w, run (Crowd.step (AuthTask.program plainManager)) start
      [.spawn (.addKey "key" ⟨"secret", "acme", none⟩ []), .move 0 ⟨false, 0, ""⟩,
        .move 0 ⟨false, 0, ""⟩, .spawn (.revokeKey "key"), .move 1 ⟨false, 1, ""⟩,
        .move 1 ⟨true, 1, ""⟩, .spawn (.validateKey "key" "secret"), .move 2 ⟨false, 2, ""⟩] =
      some w := ⟨_, rfl⟩
  refine ⟨w, reaches_of_run hw, ?_, ?_⟩
  · cases hw
    intro htruthful
    cases htruthful.1 (Or.inl rfl)
  · cases hw
    rfl

end AuthCrowd

end NebulaId
