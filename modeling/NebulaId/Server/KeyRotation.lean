import NebulaId.Database.KeyStore
import NebulaId.Machine.Along

/-!
# Automatic rotation of keys (`server/handlers/system_handlers.rs`)

At each tick the task of `start_key_rotation_task` lists the enabled keys that have been created
more than `max_key_age_days` ago and rotates them one after the other. It drops the new secrets,
and the age is that of the key and not of its secret. Keys are created and rotated by callers
in between.

`handed` are the secrets that callers have got for a key, `replacedAt` is when its secret was
replaced last, and `ages` are the ages of the secrets that the task has replaced.

* `safe_rotateNext_iff`: what a rotation by the task does to the keys in use.
* `rotation_safe_iff`: along every run the task is safe if and only if it meets only keys out of
  use with an old secret.
* `locked_out`: a key is rotated under its holder's hands.
-/

namespace NebulaId

open Machine

namespace ApiKeyRepository

/-- The rotation of a key goes through. -/
structure Rotates (h : KeyHasher) (db : Answers) (draw : Draw) (t : ApiKeyTable) (keyId : String)
    (keyData : ApiKeyRow) (hash : String) : Prop where
  answered : db.failure = none
  found : t.findByKeyId keyId = some keyData
  hashed : h.hashKey draw.salt keyData.keyId draw.secret = .ok hash

variable {h : KeyHasher} {db : Answers} {now : ℤ} {draw : Draw} {t : ApiKeyTable} {keyId : String}
  {keyData : ApiKeyRow} {hash : String} {gracePeriodSeconds : UInt64}

/-- The table with the new hash. -/
def rotatedTable (t : ApiKeyTable) (id : Uuid) (hash : String) (now : ℤ) : ApiKeyTable :=
  t.updateById id (fun r => { r with keySecretHash := hash, updatedAt := now }) (fun _ => rfl)
    fun _ => rfl

theorem rotateApiKey_of_rotates (hr : Rotates h db draw t keyId keyData hash) :
    rotateApiKey h db now draw t keyId gracePeriodSeconds =
      (.ok ⟨{ keyData with keySecretHash := hash, updatedAt := now }.response, draw.secret⟩,
        rotatedTable t keyData.id hash now) := by
  rw [rotateApiKey, hr.answered]
  dsimp only
  rw [hr.found]
  dsimp only
  rw [hr.hashed]
  rfl

theorem rotateApiKey_of_not (now : ℤ) (gracePeriodSeconds : UInt64)
    (hnot : ∀ keyData hash, ¬ Rotates h db draw t keyId keyData hash) :
    ∃ e, rotateApiKey h db now draw t keyId gracePeriodSeconds = (.error e, t) := by
  unfold rotateApiKey
  split
  · exact ⟨_, rfl⟩
  · rename_i hdb
    split
    · exact ⟨_, rfl⟩
    · rename_i keyData hfind
      split
      · exact ⟨_, rfl⟩
      · rename_i hash hhash
        exact absurd ⟨hdb, hfind, hhash⟩ (hnot keyData hash)

/-- `validate_api_key` accepts the secret, with a database that answers. -/
def Validates (h : KeyHasher) (now : ℤ) (t : ApiKeyTable) (keyId keySecret : String) : Prop :=
  ∃ who, (validateApiKey h ⟨none, ""⟩ true now t keyId keySecret).1 = .ok (some who)

/-- A key in use is validated for the secrets that its hash verifies. -/
theorem validates_iff {row : ApiKeyRow} (hrow : row ∈ t.rows) (hlive : row.live now = true)
    (secret : String) : Validates h now t row.keyId secret ↔
      h.verifyKey row.keyId secret row.keySecretHash = true := by
  have hfind : t.findByKeyId row.keyId = some row :=
    ApiKeyTable.findByKeyId_eq_some.mpr ⟨hrow, rfl⟩
  unfold Validates validateApiKey
  dsimp only
  rw [hfind]
  dsimp only
  rw [hlive, Bool.true_and]
  split
  · exact iff_of_true ⟨_, rfl⟩ ‹_›
  · exact iff_of_false (by rintro ⟨who, hwho⟩; cases hwho) ‹_›

end ApiKeyRepository

open ApiKeyRepository

structure RotationWorld where
  now : ℤ
  table : ApiKeyTable
  /-- What the running tick has still to rotate. -/
  oldKeys : List ApiKeyInfo
  handed : Uuid → List String
  replacedAt : Uuid → ℤ
  ages : List ℤ

inductive RotationAct where
  | clock (now : ℤ)
  | create (db : Answers) (draw : Draw) (request : CreateApiKeyRequest)
  | rotate (db : Answers) (draw : Draw) (keyId : String) (gracePeriodSeconds : UInt64)
  | tick (db : Answers)
  | rotateNext (db : Answers) (draw : Draw)

namespace RotationWorld

/-- A caller has got a secret of the key. -/
def hand (w : RotationWorld) : Result ApiKeyWithSecret × ApiKeyTable → RotationWorld
  | (.ok k, t) =>
    { w with
      table := t
      handed := Function.update w.handed k.key.id (k.keySecret :: w.handed k.key.id)
      replacedAt := Function.update w.replacedAt k.key.id w.now }
  | (.error _, t) => { w with table := t }

/-- The task has got a secret of the key, and nobody else. -/
def discard (w : RotationWorld) : Result ApiKeyWithSecret × ApiKeyTable → RotationWorld
  | (.ok k, t) =>
    { w with
      table := t
      replacedAt := Function.update w.replacedAt k.key.id w.now
      ages := (w.now - w.replacedAt k.key.id) :: w.ages }
  | (.error _, t) => { w with table := t }

/-- The clock does not go back, and a tick begins when the last one is over. An error of the
listing is logged, as is that of a rotation. -/
def step (h : KeyHasher) (gracePeriodSeconds : UInt64) (maxKeyAgeDays : ℤ) (w : RotationWorld) :
    RotationAct → Option RotationWorld
  | .clock now => if w.now ≤ now then some { w with now := now } else none
  | .create db draw request => some (w.hand (createApiKey h db w.now draw w.table request))
  | .rotate db draw keyId gracePeriodSeconds =>
    some (w.hand (rotateApiKey h db w.now draw w.table keyId gracePeriodSeconds))
  | .tick db =>
    if w.oldKeys.isEmpty then
      match getKeysOlderThan db w.now w.table maxKeyAgeDays with
      | .ok oldKeys => some { w with oldKeys := oldKeys }
      | .error _ => some w
    else none
  | .rotateNext db draw =>
    match w.oldKeys with
    | [] => none
    | key :: keys => some ({ w with oldKeys := keys }.discard
        (rotateApiKey h db w.now draw w.table key.keyId gracePeriodSeconds))

/-- Each key in use is validated for a secret that a caller has. -/
def Usable (h : KeyHasher) (w : RotationWorld) : Prop :=
  ∀ row ∈ w.table.rows, row.live w.now = true →
    ∃ secret ∈ w.handed row.id, Validates h w.now w.table row.keyId secret

/-- The task has replaced old secrets only, and each key in use can be used. -/
structure Safe (h : KeyHasher) (maxKeyAgeDays : ℤ) (w : RotationWorld) : Prop where
  ages : ∀ age ∈ w.ages, days maxKeyAgeDays ≤ age
  usable : w.Usable h

/-- The key that the task rotates is out of use and its secret is old, unless the new secret
happens to be one that a caller has. -/
def RotatesUnused (h : KeyHasher) (maxKeyAgeDays : ℤ) (w : RotationWorld) : RotationAct → Prop
  | .rotateNext db draw => ∀ key keys keyData hash, w.oldKeys = key :: keys →
      Rotates h db draw w.table key.keyId keyData hash →
        days maxKeyAgeDays ≤ w.now - w.replacedAt keyData.id ∧
          (keyData.live w.now = true → draw.secret ∈ w.handed keyData.id)
  | _ => True

variable {h : KeyHasher} {maxKeyAgeDays : ℤ} {gracePeriodSeconds : UInt64} {w w' : RotationWorld}

/-- `Usable` in terms of the rows. -/
def UsableRows (h : KeyHasher) (now : ℤ) (handed : Uuid → List String) (t : ApiKeyTable) : Prop :=
  ∀ row ∈ t.rows, row.live now = true →
    ∃ secret ∈ handed row.id, h.verifyKey row.keyId secret row.keySecretHash = true

theorem usable_iff : w.Usable h ↔ UsableRows h w.now w.handed w.table := by
  refine forall₂_congr fun row hrow => forall_congr' fun hlive => exists_congr fun secret => ?_
  rw [validates_iff hrow hlive]

theorem live_of_le {row : ApiKeyRow} {now now' : ℤ} (hle : now ≤ now') (hlive : row.live now' = true) :
    row.live now = true := by
  obtain ⟨henabled, hunexpired⟩ := ApiKeyState.live_iff.mp hlive
  exact ApiKeyState.live_iff.mpr ⟨henabled, fun e he => hle.trans (hunexpired e he)⟩

variable {db : Answers} {draw : Draw} {keyId : String} {keyData : ApiKeyRow} {hash : String}

/-- **A rotation** keeps the keys usable when the new secret of a key in use is a caller's. -/
theorem usableRows_rotatedTable_iff {handed handed' : Uuid → List String}
    (hother : ∀ id, id ≠ keyData.id → handed' id = handed id)
    (hr : Rotates h db draw w.table keyId keyData hash)
    (hw : UsableRows h w.now handed w.table) :
    UsableRows h w.now handed' (rotatedTable w.table keyData.id hash w.now) ↔
      (keyData.live w.now = true → draw.secret ∈ handed' keyData.id) := by
  obtain ⟨hmem, -⟩ := ApiKeyTable.findByKeyId_eq_some.mp hr.found
  have hverify := h.accepts hr.hashed
  constructor
  · intro husable hlive
    have hnew : { keyData with keySecretHash := hash, updatedAt := w.now } ∈
        (rotatedTable w.table keyData.id hash w.now).rows := by
      refine List.mem_map.mpr ⟨keyData, hmem, ?_⟩
      rw [ApiKeyTable.setRow, if_pos rfl]
    obtain ⟨secret, hsecret, haccepted⟩ := husable _ hnew hlive
    have heq : secret = draw.secret := by
      rw [hverify] at haccepted
      exact of_decide_eq_true haccepted
    exact heq ▸ hsecret
  · intro hsecret row hrow hlive
    obtain ⟨old, hold, ⟨hid, rfl⟩ | ⟨hne, rfl⟩⟩ := ApiKeyTable.mem_map_setRow hrow
    · -- the row of the key: no other row has its id
      have hsame : old = keyData := List.inj_on_of_nodup_map w.table.ids hold hmem hid
      subst hsame
      exact ⟨draw.secret, hsecret hlive, (hverify _).trans (decide_eq_true rfl)⟩
    · obtain ⟨secret, hin, haccepted⟩ := hw row hold hlive
      exact ⟨secret, (hother row.id hne).symm ▸ hin, haccepted⟩

theorem safe_clock {now : ℤ} (hw : Safe h maxKeyAgeDays w) (hle : w.now ≤ now) :
    Safe h maxKeyAgeDays { w with now := now } := by
  refine ⟨hw.ages, usable_iff.mpr fun row hrow hlive => ?_⟩
  exact usable_iff.mp hw.usable row hrow (live_of_le hle hlive)

theorem safe_create (hw : Safe h maxKeyAgeDays w) (request : CreateApiKeyRequest) :
    Safe h maxKeyAgeDays (w.hand (createApiKey h db w.now draw w.table request)) := by
  by_cases hc : Creates h db draw w.table request
  · obtain ⟨new, t', hout, hrows, hmade, hverify⟩ := createApiKey_of_creates w.now hc
    rw [hout]
    refine ⟨hw.ages, usable_iff.mpr fun row hrow hlive => ?_⟩
    rcases List.mem_append.mp (hrows ▸ hrow) with hold | hnew
    · have hne : row.id ≠ new.id := by
        intro heq
        refine hc.2.2.1 (hmade.id ▸ heq ▸ List.mem_map_of_mem hold)
      obtain ⟨secret, hin, haccepted⟩ := usable_iff.mp hw.usable row hold hlive
      refine ⟨secret, ?_, haccepted⟩
      change secret ∈ Function.update w.handed new.id _ row.id
      rwa [Function.update_of_ne hne]
    · rw [List.mem_singleton.mp hnew]
      refine ⟨request.keySecret.getD draw.secret, ?_, (hverify _).trans (decide_eq_true rfl)⟩
      change _ ∈ Function.update w.handed new.id (_ :: _) new.id
      rw [Function.update_self]
      exact List.mem_cons_self
  · obtain ⟨e, hout⟩ := createApiKey_of_not_creates w.now hc
    rw [hout]
    exact hw

theorem safe_rotate (hw : Safe h maxKeyAgeDays w) (keyId : String) :
    Safe h maxKeyAgeDays
      (w.hand (rotateApiKey h db w.now draw w.table keyId gracePeriodSeconds)) := by
  by_cases hrotates : ∃ keyData hash, Rotates h db draw w.table keyId keyData hash
  · obtain ⟨keyData, hash, hr⟩ := hrotates
    rw [rotateApiKey_of_rotates hr]
    refine ⟨hw.ages, usable_iff.mpr ?_⟩
    refine (usableRows_rotatedTable_iff (fun id hne => ?_) hr (usable_iff.mp hw.usable)).mpr fun _ => ?_
    · exact Function.update_of_ne hne _ _
    · change _ ∈ Function.update w.handed keyData.id (_ :: _) keyData.id
      rw [Function.update_self]
      exact List.mem_cons_self
  · obtain ⟨e, hout⟩ := rotateApiKey_of_not w.now gracePeriodSeconds
      fun keyData hash hr => hrotates ⟨keyData, hash, hr⟩
    rw [hout]
    exact hw

/-- **A rotation by the task** is safe exactly for an old secret of a key out of use. -/
theorem safe_rotateNext_iff (hw : Safe h maxKeyAgeDays w) (keyId : String) :
    Safe h maxKeyAgeDays
        (w.discard (rotateApiKey h db w.now draw w.table keyId gracePeriodSeconds)) ↔
      ∀ keyData hash, Rotates h db draw w.table keyId keyData hash →
        days maxKeyAgeDays ≤ w.now - w.replacedAt keyData.id ∧
          (keyData.live w.now = true → draw.secret ∈ w.handed keyData.id) := by
  by_cases hrotates : ∃ keyData hash, Rotates h db draw w.table keyId keyData hash
  · obtain ⟨keyData, hash, hr⟩ := hrotates
    have husable := usableRows_rotatedTable_iff (fun _ _ => rfl) hr (usable_iff.mp hw.usable)
    rw [rotateApiKey_of_rotates hr]
    constructor
    · intro hsafe keyData' hash' hr'
      cases hr.found.symm.trans hr'.found
      exact ⟨hsafe.ages _ List.mem_cons_self, husable.mp (usable_iff.mp hsafe.usable)⟩
    · intro hunused
      obtain ⟨hage, hsecret⟩ := hunused keyData hash hr
      refine ⟨fun age hin => ?_, usable_iff.mpr (husable.mpr hsecret)⟩
      rcases List.mem_cons.mp hin with rfl | hin
      · exact hage
      · exact hw.ages age hin
  · obtain ⟨e, hout⟩ := rotateApiKey_of_not w.now gracePeriodSeconds
      fun keyData hash hr => hrotates ⟨keyData, hash, hr⟩
    rw [hout]
    exact iff_of_true hw fun keyData hash hr => absurd ⟨keyData, hash, hr⟩ hrotates

theorem safe_step_iff {act : RotationAct} (hw : Safe h maxKeyAgeDays w)
    (hstep : step h gracePeriodSeconds maxKeyAgeDays w act = some w') :
    Safe h maxKeyAgeDays w' ↔ RotatesUnused h maxKeyAgeDays w act := by
  cases act with
  | clock now =>
    dsimp only [step] at hstep
    split at hstep
    · cases hstep
      exact iff_of_true (safe_clock hw ‹_›) trivial
    · cases hstep
  | create db draw request =>
    cases hstep
    exact iff_of_true (safe_create hw request) trivial
  | rotate db draw keyId grace =>
    cases hstep
    exact iff_of_true (safe_rotate hw keyId) trivial
  | tick db =>
    dsimp only [step] at hstep
    split at hstep
    · split at hstep
      · cases hstep
        exact iff_of_true ⟨hw.ages, hw.usable⟩ trivial
      · cases hstep
        exact iff_of_true hw trivial
    · cases hstep
  | rotateNext db draw =>
    dsimp only [step] at hstep
    split at hstep
    · cases hstep
    · rename_i key keys hkeys
      cases hstep
      refine (safe_rotateNext_iff (w := { w with oldKeys := keys }) ⟨hw.ages, hw.usable⟩
        key.keyId).trans ⟨fun hunused => ?_, fun hunused => ?_⟩
      · intro key' keys' keyData hash heq hr
        cases hkeys.symm.trans heq
        exact hunused keyData hash hr
      · intro keyData hash hr
        exact hunused key keys keyData hash hkeys hr

/-- **Automatic rotation is safe along a run** if and only if the task rotates only keys out of use
whose secret is old. -/
theorem rotation_safe_iff (h : KeyHasher) (gracePeriodSeconds : UInt64) (maxKeyAgeDays : ℤ)
    (w : RotationWorld) (hw : Safe h maxKeyAgeDays w) (run : List RotationAct) :
    EachStep (step h gracePeriodSeconds maxKeyAgeDays) (fun _ _ w' => Safe h maxKeyAgeDays w')
        w run ↔
      EachStep (step h gracePeriodSeconds maxKeyAgeDays)
        (fun w act _ => RotatesUnused h maxKeyAgeDays w act) w run :=
  eachStep_iff_of_invariant hw fun _ _ _ hw hstep => safe_step_iff hw hstep

/-- A key with the default expiry, whose holder has its secret. -/
def heldRow : ApiKeyRow where
  id := 1
  keyId := "nino_app"
  keySecretHash := "first-secret"
  keyPrefix := "nino_"
  role := "user"
  workspaceId := some 7
  name := "app"
  description := none
  rateLimit := 10000
  enabled := true
  expiresAt := some thirtyDays
  lastUsedAt := none
  createdAt := 0
  updatedAt := 0

def held : RotationWorld where
  now := 0
  table := ⟨[heldRow], List.nodup_singleton _, List.nodup_singleton _⟩
  oldKeys := []
  handed _ := ["first-secret"]
  replacedAt _ := 0
  ages := []

theorem held_safe (maxKeyAgeDays : ℤ) : Safe ApiKeyState.plainHasher maxKeyAgeDays held := by
  refine ⟨fun age hin => (List.not_mem_nil hin).elim, usable_iff.mpr fun row hrow _ => ?_⟩
  rw [List.mem_singleton.mp hrow]
  exact ⟨"first-secret", List.mem_cons_self, rfl⟩

/-- The holder rotates the key in time, and the task finds no old one. -/
theorem rotation_by_holder : EachStep (step ApiKeyState.plainHasher 604800 7)
    (fun _ _ w' => Safe ApiKeyState.plainHasher 7 w') held
    [.rotate ⟨none, ""⟩ ⟨2, 3, "second-secret", "salt"⟩ "nino_app" 604800, .tick ⟨none, ""⟩] :=
  (rotation_safe_iff ApiKeyState.plainHasher 604800 7 held (held_safe 7) _).mpr
    fun _ _ => ⟨trivial, fun _ _ => ⟨trivial, trivial⟩⟩

/-- After eight days the task replaces the secret by one that nobody has. -/
theorem locked_out : Safe ApiKeyState.plainHasher 7 held ∧
    ¬ EachStep (step ApiKeyState.plainHasher 604800 7)
      (fun _ _ w' => Safe ApiKeyState.plainHasher 7 w') held
      [.clock (days 8), .tick ⟨none, ""⟩,
        .rotateNext ⟨none, ""⟩ ⟨2, 3, "second-secret", "salt"⟩] := by
  refine ⟨held_safe 7, fun heach => ?_⟩
  have hsafe := (((heach _ rfl).2 _ rfl).2 _ rfl).1
  obtain ⟨secret, hin, haccepted⟩ := usable_iff.mp hsafe.usable
    { heldRow with keySecretHash := "second-secret", updatedAt := days 8 } List.mem_cons_self rfl
  have hfirst : secret = "first-secret" := List.mem_singleton.mp hin
  have hsecond : secret = "second-secret" := of_decide_eq_true haccepted
  exact absurd (hfirst.symm.trans hsecond) (by decide)

end RotationWorld

end NebulaId
