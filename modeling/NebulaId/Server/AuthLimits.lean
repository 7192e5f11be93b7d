import NebulaId.Server.AuthMiddleware

/-!
# The limits of the authentication middleware (`server/middleware/api_key_auth.rs`)

A request that has passed the check waits for the key store before it fails, and only then is the
failure recorded, in another critical section. So the check does not know of the requests that
are still under way, and the record does not look at the size of the map.

* `rejections_limited`: while each check that lets a request through to the key store counts the
  requests still under way, no window sees more than `limit` failed validations.
* `tracked_bounded`: while no failure of a new address is recorded in a full map, the map
  stays within its capacity.
* `concurrent_guesses`, `tracker_unbounded`: runs without these conditions.
-/

namespace NebulaId

open Machine FailureTracker

namespace ApiKeyAuth

variable {auth : ApiKeyAuth} {w w' : World} {act : Act} {now₀ n : ℕ} {m m' : Memory} {p q : Task}
  {ip ip' : String}

/-! ## Failed validations -/

/-- The times of the failed key validations of an address. -/
def rejections (ip : String) : List Event → List ℕ
  | [] => []
  | .keyRejected ip' time :: es =>
    if ip' = ip then time :: rejections ip es else rejections ip es
  | _ :: es => rejections ip es

/-- A request is let through to the key store only while the recent failures of its address and the
requests of that address that may still fail leave room for it. -/
def Reserved (auth : ApiKeyAuth) (w : World) : Task → Prop
  | .checking ip authorization now =>
    overflows now ip w.shared.failures = false ∧
      ((auth.credentials authorization).isSome → (live now w.shared.failures ip).length < limit →
        (live now w.shared.failures ip).length + w.tasks.countP (validatingFor ip) +
          w.tasks.countP (refusingFor ip) < limit)
  | _ => True

/-- The request will record a failure of the address at `a` or later. -/
def owing (ip : String) (a : ℕ) : Task → Bool
  | .refusing ip' => decide (ip' = ip)
  | .recording ip' now => decide (ip' = ip ∧ a ≤ now)
  | _ => false

def rejectedSince (ip : String) (a : ℕ) (log : List Event) : ℕ :=
  (rejections ip log).countP fun t => decide (a ≤ t)

def recordedSince (ip : String) (a : ℕ) (log : List Event) : ℕ :=
  (failTimes (attempts ip log)).countP fun t => decide (a ≤ t)

/-- The failed validations of an address in the window that begins at `a`. -/
def rejectedIn (ip : String) (a : ℕ) (log : List Event) : ℕ :=
  (rejections ip log).countP fun t => decide (a ≤ t ∧ t < a + window)

structure RejectInv (w : World) : Prop where
  tracker : TrackerInv w
  owed : ∀ ip a, rejectedSince ip a w.shared.log ≤
    w.tasks.countP (owing ip a) + recordedSince ip a w.shared.log
  limited : ∀ ip a, w.shared.now < a + window →
    rejectedSince ip a w.shared.log + w.tasks.countP (validatingFor ip) ≤ limit
  settled : ∀ ip a, rejectedIn ip a w.shared.log ≤ limit

theorem rejections_past {log : List Event} {c : ℕ} (h : ∀ e ∈ log, e.time ≤ c) :
    ∀ t ∈ rejections ip log, t ≤ c := by
  induction log with
  | nil => simp [rejections]
  | cons e es ih =>
    obtain ⟨he, hes⟩ := List.forall_mem_cons.mp h
    cases e with
    | checked ip' now allowed => exact ih hes
    | keyRejected ip' time =>
      rw [rejections]
      split
      · exact List.forall_mem_cons.mpr ⟨he, ih hes⟩
      · exact ih hes
    | recorded ip' now => exact ih hes

theorem rejectedSince_of_lt {log : List Event} {c a : ℕ} (h : ∀ e ∈ log, e.time ≤ c) (ha : c < a) :
    rejectedSince ip a log = 0 := by
  refine List.countP_eq_zero.mpr fun t ht => ?_
  have := rejections_past h t ht
  simp
  omega

theorem rejectedIn_le {log : List Event} {a : ℕ} : rejectedIn ip a log ≤ rejectedSince ip a log :=
  List.countP_mono_left fun t _ ht => by simp_all

@[simp] theorem recordedSince_checked {log : List Event} {a now : ℕ} {ok : Bool} :
    recordedSince ip a (.checked ip' now ok :: log) = recordedSince ip a log := by
  unfold recordedSince
  rw [attempts]
  split <;> rfl

@[simp] theorem recordedSince_keyRejected {log : List Event} {a t : ℕ} :
    recordedSince ip a (.keyRejected ip' t :: log) = recordedSince ip a log := rfl

@[simp] theorem recordedSince_recorded {log : List Event} {a now : ℕ} :
    recordedSince ip a (.recorded ip' now :: log) =
      recordedSince ip a log + if ip' = ip ∧ a ≤ now then 1 else 0 := by
  unfold recordedSince
  rw [attempts]
  by_cases hip : ip' = ip
  · rw [if_pos hip, failTimes, List.countP_append]
    simp [hip, List.countP_cons]
  · simp [hip]

@[simp] theorem rejectedSince_checked {log : List Event} {a now : ℕ} {ok : Bool} :
    rejectedSince ip a (.checked ip' now ok :: log) = rejectedSince ip a log := rfl

@[simp] theorem rejectedSince_recorded {log : List Event} {a now : ℕ} :
    rejectedSince ip a (.recorded ip' now :: log) = rejectedSince ip a log := rfl

@[simp] theorem rejectedSince_keyRejected {log : List Event} {a t : ℕ} :
    rejectedSince ip a (.keyRejected ip' t :: log) =
      rejectedSince ip a log + if ip' = ip ∧ a ≤ t then 1 else 0 := by
  unfold rejectedSince
  rw [rejections]
  by_cases hip : ip' = ip
  · simp [hip, List.countP_cons]
  · simp [hip]

/-- What a step adds to the failed validations it adds to the failures owed or recorded. -/
theorem Moved.owed (h : Moved auth m p m' q) (ip : String) {a : ℕ} (ha : a ≤ m.now) :
    rejectedSince ip a m'.log + (if owing ip a p then 1 else 0) + recordedSince ip a m.log ≤
      rejectedSince ip a m.log + (if owing ip a q then 1 else 0) + recordedSince ip a m'.log := by
  cases h with
  | read | accept | serve => simp [owing]
  | check => simp [owing]
  | reject ip' =>
    by_cases hip : ip' = ip <;> simp [owing, hip, ha]
  | readAgain ip' => simp [owing, ha]
  | record ip' now =>
    simp [owing]
    omega

/-- A step moves a validation to the failed ones or begins one. -/
theorem Moved.limited (h : Moved auth m p m' q) (ip : String) (a : ℕ) :
    rejectedSince ip a m'.log + (if validatingFor ip q then 1 else 0) ≤
      rejectedSince ip a m.log + (if validatingFor ip p then 1 else 0) ∨
    ∃ au now, p = .checking ip au now ∧ (auth.credentials au).isSome ∧
      (live now m.failures ip).length < limit ∧ m'.log = .checked ip now true :: m.log := by
  cases h with
  | read | accept | serve | readAgain | record => exact Or.inl (by simp [validatingFor])
  | reject ip' =>
    refine Or.inl ?_
    by_cases hip : ip' = ip
    · simp only [rejectedSince_keyRejected, validatingFor, hip]
      split <;> simp
    · simp [validatingFor, hip]
  | check ip' au now =>
    rw [checkAuthFailureRate_fst, afterCheck]
    by_cases hlive : (live now m.failures ip').length < limit
    · simp only [hlive, decide_true, if_true]
      cases hcred : auth.credentials au with
      | none => exact Or.inl (by simp [validatingFor])
      | some c =>
        by_cases hip : ip' = ip
        · subst hip
          exact Or.inr ⟨au, now, rfl, by rw [hcred]; rfl, hlive, rfl⟩
        · exact Or.inl (by simp [validatingFor, hip])
    · exact Or.inl (by simp [validatingFor, hlive])

/-- A window that is over stays as it is. -/
theorem Moved.rejectedIn_eq (h : Moved auth m p m' q) {a : ℕ} (ha : a + window ≤ m.now) :
    rejectedIn ip a m'.log = rejectedIn ip a m.log := by
  cases h with
  | read | accept | serve | readAgain | record | check => rfl
  | reject ip' =>
    unfold rejectedIn
    rw [rejections]
    split
    · rw [List.countP_cons_of_neg]
      simp
      omega
    · rfl

/-- A failure that an open window has seen recorded is found by the checks. -/
theorem TrackerInv.recordedSince_le (h : TrackerInv w) (ip : String) {a now : ℕ}
    (ha : w.shared.now < a + window) (hnow : now ≤ w.shared.now) :
    recordedSince ip a w.shared.log ≤ (live now w.shared.failures ip).length := by
  refine Nat.le_trans ?_ (h.recorded_le_live ip hnow)
  rw [recordedSince, recordedRecently, List.countP_eq_length_filter]
  refine (List.monotone_filter_right _ fun t ht => ?_).length_le
  have hpos : 0 < window := by decide
  simp only [recent, decide_eq_true_eq] at ht ⊢
  omega

theorem owing_le_refusing (ip : String) (a : ℕ) (tasks : List Task) :
    tasks.countP (owing ip a) ≤ tasks.countP (refusingFor ip) := by
  refine List.countP_mono_left fun p _ hp => ?_
  cases p <;> simp_all [owing, refusingFor]

theorem owing_arrive (req : HttpRequest) (a : ℕ) : owing ip a (auth.arrive req) = false := by
  unfold arrive
  split <;> rfl

theorem validatingFor_arrive (req : HttpRequest) : validatingFor ip (auth.arrive req) = false := by
  unfold arrive
  split <;> rfl

theorem rejectInv_start : RejectInv (start now₀) where
  tracker := trackerInv_start
  owed _ _ := Nat.zero_le _
  limited _ _ _ := Nat.zero_le _
  settled _ _ := Nat.zero_le _

theorem RejectInv.limited_move (h : RejectInv w) {i : ℕ} (hp : w.tasks[i]? = some p)
    (hC : Reserved auth w p) (hmove : Moved auth w.shared p m' q) {a : ℕ}
    (ha : w.shared.now < a + window) :
    rejectedSince ip a m'.log + (w.tasks.set i q).countP (validatingFor ip) ≤ limit := by
  have hcount := Crowd.countP_set_add (q := q) (validatingFor ip) hp
  have hbefore := h.limited ip a ha
  rcases hmove.limited ip a with hle | ⟨au, now, rfl, hcred, hlive, hlog⟩
  · omega
  -- a new validation: the guard has counted all that can still fail
  · have hread := h.tracker.readings _ (List.mem_of_getElem? hp)
    have hroom := hC.2 hcred hlive
    have howed := h.owed ip a
    have hrec := h.tracker.recordedSince_le ip ha hread
    have howing := owing_le_refusing ip a w.tasks
    have hone : (if validatingFor ip q then 1 else 0) ≤ 1 := by split <;> omega
    have hnone : validatingFor ip (.checking ip au now) = false := rfl
    rw [hlog, rejectedSince_checked]
    rw [hnone] at hcount
    simp only [Bool.false_eq_true, if_false] at hcount
    change (live now w.shared.failures ip).length + _ + _ < _ at hroom
    change recordedSince ip a w.shared.log ≤ (live now w.shared.failures ip).length at hrec
    omega

theorem rejectInv_step (h : RejectInv w) (hC : Crowd.Guard (Reserved auth) w act)
    (hs : step auth w act = some w') : RejectInv w' := by
  have hfit : Crowd.Guard NoOverflow w act := by
    cases act with
    | spawn | pass => trivial
    | move i a =>
      intro p hp
      cases p with
      | checking ip au now => exact (hC _ hp).1
      | _ => trivial
  have htracker := trackerInv_step h.tracker hfit hs
  rcases step_cases hs with ⟨req, rfl, rfl⟩ | ⟨i, a, p, m', q, rfl, hp, hmove, rfl⟩ | ⟨e, rfl, rfl⟩
  · refine ⟨htracker, fun ip a => ?_, fun ip a ha => ?_, h.settled⟩
    · simpa [owing_arrive] using h.owed ip a
    · simpa [validatingFor_arrive] using h.limited ip a ha
  · have hnow := (hmove.past (h.tracker.readings p (List.mem_of_getElem? hp)) h.tracker.past).1
    refine ⟨htracker, fun ip a => ?_, fun ip a ha => ?_, fun ip a => ?_⟩
    · by_cases ha : a ≤ w.shared.now
      · have hcount := Crowd.countP_set_add (q := q) (owing ip a) hp
        have howed := hmove.owed ip ha
        have hbefore := h.owed ip a
        dsimp only
        omega
      · rw [rejectedSince_of_lt htracker.past]
        · exact Nat.zero_le _
        · rw [hnow]
          omega
    · exact h.limited_move hp (hC p hp) hmove (hnow ▸ ha)
    · by_cases ha : w.shared.now < a + window
      · exact Nat.le_trans rejectedIn_le
          (Nat.le_of_add_right_le (h.limited_move hp (hC p hp) hmove ha))
      · rw [hmove.rejectedIn_eq (Nat.le_of_not_lt ha)]
        exact h.settled ip a
  · refine ⟨htracker, h.owed, fun ip a ha => ?_, h.settled⟩
    exact h.limited ip a (Nat.lt_of_le_of_lt (Nat.le_add_right _ _) ha)

/-- **Failed validations are limited** in every window, while each check leaves room for the requests
that are still under way. -/
theorem rejections_limited (h : Reaches (step auth) (Crowd.Guard (Reserved auth)) (start now₀) w)
    (ip : String) (a : ℕ) : rejectedIn ip a w.shared.log ≤ limit :=
  (h.invariant (I := RejectInv) rejectInv_start
    fun _ _ _ hi hC hs => rejectInv_step hi hC hs).settled ip a

/-- A request with a key that can be checked. -/
def guess : HttpRequest := ⟨some (host 7), [("authorization", HeaderValue.ofText "ApiKey k:s".toList)]⟩

theorem arrive_guess : guarding.arrive guess =
    .received (address 7) (some (HeaderValue.ofText "ApiKey k:s".toList)) := rfl

theorem credentials_guess :
    guarding.credentials (some (HeaderValue.ofText "ApiKey k:s".toList)) = some (['k'], ['s']) := by
  decide

theorem reaches_guess {G : World → Task → Prop}
    (hlive : (live w.shared.now w.shared.failures (address 7)).length < limit)
    (hG : ∀ w p, (∀ ip au now, p ≠ .checking ip au now) → G w p)
    (hcheck : ∀ au, G ⟨w.shared, w.tasks ++ [.checking (address 7) au w.shared.now]⟩
      (.checking (address 7) au w.shared.now)) :
    Reaches (step guarding) (Crowd.Guard G) w
      ⟨{ w.shared with
          failures := (checkAuthFailureRate w.shared.now (address 7) w.shared.failures).2
          log := .checked (address 7) w.shared.now true :: w.shared.log },
        w.tasks ++ [.validating (address 7) ['k'] ['s']]⟩ := by
  have hpass : (checkAuthFailureRate w.shared.now (address 7) w.shared.failures).1 = true := by
    rw [checkAuthFailureRate_fst, decide_eq_true hlive]
  have hspawn : Reaches (step guarding) (Crowd.Guard G) w
      ⟨w.shared, w.tasks ++ [guarding.arrive guess]⟩ := Crowd.reaches_spawn guess
  rw [arrive_guess] at hspawn
  refine hspawn.trans ((Crowd.reaches_move (a := .run) (hG _ _ (by simp)) rfl).trans
    (Crowd.reaches_move (a := .run) (hcheck _) ?_))
  simp only [program, advance, hpass, afterCheck, if_true, credentials_guess]

theorem reaches_rejected {G : World → Task → Prop} {keyId keySecret : List Char}
    (auth : ApiKeyAuth) (ps : List Task) (n : ℕ)
    (hG : ∀ w, G w (.validating ip keyId keySecret)) :
    Reaches (step auth) (Crowd.Guard G)
      ⟨m, ps ++ List.replicate n (.validating ip keyId keySecret)⟩
      ⟨{ m with log := List.replicate n (.keyRejected ip m.now) ++ m.log },
        ps ++ List.replicate n (.refusing ip)⟩ := by
  induction n generalizing ps m with
  | zero => exact Reaches.refl _
  | succ n ih =>
    have hfirst : Reaches (step auth) (Crowd.Guard G)
        ⟨m, ps ++ .validating ip keyId keySecret :: List.replicate n (.validating ip keyId keySecret)⟩
        ⟨{ m with log := .keyRejected ip m.now :: m.log },
          ps ++ .refusing ip :: List.replicate n (.validating ip keyId keySecret)⟩ :=
      Crowd.reaches_move (a := .validated false) (hG _) rfl
    have hrest := ih (ps ++ [.refusing ip])
      (m := { m with log := .keyRejected ip m.now :: m.log })
    simp only [List.append_assoc, List.singleton_append] at hrest
    refine hfirst.trans ?_
    rw [List.replicate_succ' (n := n) (a := Event.keyRejected ip m.now), List.append_assoc,
      List.singleton_append]
    exact hrest

/-- `n` guesses wait for the key store. -/
theorem exists_guesses (n : ℕ) : ∃ w, Reaches (step guarding) Free (start 0) w ∧
    w.tasks = List.replicate n (.validating (address 7) ['k'] ['s']) ∧
    failuresOf w.shared.failures (address 7) = [] ∧ w.shared.now = 0 := by
  induction n with
  | zero => exact ⟨start 0, Reaches.refl _, rfl, failuresOf_empty, rfl⟩
  | succ n ih =>
    obtain ⟨w, hw, htasks, hnew, hnow⟩ := ih
    refine ⟨_, hw.trans (reaches_guess (G := fun _ _ => True) ?_ (fun _ _ _ => trivial)
      fun _ => trivial).free, ?_, ?_, hnow⟩
    · simp [live, hnew, limit]
    · rw [List.replicate_succ', htasks]
    · rw [failuresOf_check (overflows_of_fresh hnew), if_pos rfl, live, hnew, List.filter_nil]

/-- One guess. -/
theorem rejections_limited_one :
    rejectedIn (address 7) 0 [.keyRejected (address 7) 0, .checked (address 7) 0 true] ≤ limit := by
  have hguess : Reaches (step guarding) (Crowd.Guard (Reserved guarding)) (start 0) _ :=
    reaches_guess (w := start 0) (by decide) (fun w p hp => ?_) fun au => ⟨rfl, fun _ _ => ?_⟩
  · exact rejections_limited (hguess.trans (reaches_rejected guarding [] 1 fun _ => trivial))
      (address 7) 0
  · unfold Reserved
    split
    · exact absurd rfl (hp _ _ _)
    · trivial
  · simp [start, live, failuresOf_empty, validatingFor, refusingFor, limit]

/-- Eleven requests of one address pass the check before the first of them fails. -/
theorem concurrent_guesses : ∃ w, Reaches (step guarding) Free (start 0) w ∧
    limit < rejectedIn (address 7) 0 w.shared.log := by
  obtain ⟨w, hw, htasks, -, hnow⟩ := exists_guesses 11
  have hreject : Reaches (step guarding) (Crowd.Guard fun _ _ => True) ⟨w.shared, w.tasks⟩
      ⟨{ w.shared with
          log := List.replicate 11 (.keyRejected (address 7) w.shared.now) ++ w.shared.log },
        [] ++ List.replicate 11 (.refusing (address 7))⟩ := by
    rw [htasks]
    exact reaches_rejected guarding [] 11 fun _ => trivial
  refine ⟨_, hw.trans hreject.free, ?_⟩
  rw [hnow]
  simp only [rejectedIn, List.replicate, List.cons_append, List.nil_append, rejections, if_true,
    List.countP_cons]
  simp [limit, window, second]

/-! ## The size of the map -/

/-- The failure of a new address is recorded only while there is room for it. -/
def Capped (w : World) : Task → Prop
  | .recording ip _ =>
    ip ∈ w.shared.failures ∨ tracked w.shared.failures < maxTrackedAuthFailureIps
  | _ => True

theorem Moved.tracked_le (h : Moved auth m p m' q)
    (hroom : ∀ ip now, p = .recording ip now →
      ip ∈ m.failures ∨ tracked m.failures < maxTrackedAuthFailureIps)
    (hle : tracked m.failures ≤ maxTrackedAuthFailureIps) :
    tracked m'.failures ≤ maxTrackedAuthFailureIps := by
  cases h with
  | read | accept | reject | readAgain | serve => exact hle
  | check => exact Nat.le_trans tracked_check_le hle
  | record ip now =>
    rw [tracked_record]
    split
    · exact hle
    · rename_i hout
      exact (hroom ip now rfl).resolve_left hout

/-- **The tracker is bounded** while failures of new addresses are only recorded where there is room. -/
theorem tracked_bounded (h : Reaches (step auth) (Crowd.Guard Capped) (start now₀) w) :
    tracked w.shared.failures ≤ maxTrackedAuthFailureIps + w.tasks.countP inProgress := by
  refine Nat.le_add_right_of_le (h.invariant
    (I := fun w => tracked w.shared.failures ≤ maxTrackedAuthFailureIps) (Nat.zero_le _) ?_)
  intro w act w' hle hC hs
  rcases step_cases hs with ⟨req, rfl, rfl⟩ | ⟨i, a, p, m', q, rfl, hp, hmove, rfl⟩ | ⟨e, rfl, rfl⟩
  · exact hle
  · exact hmove.tracked_le (fun ip now hpr => hC (.recording ip now) (hpr ▸ hp)) hle
  · exact hle

theorem tracked_bounded_one : tracked (refuse (address 7) (start 0)).shared.failures ≤
    maxTrackedAuthFailureIps + (refuse (address 7) (start 0)).tasks.countP inProgress := by
  have hone : Reaches (step guarding) (Crowd.Guard Capped) (start 0)
      (refuse (address 7) (start 0)) := by
    have hip : guarding.clientIp ⟨some (host 7), []⟩ = address 7 := rfl
    refine reaches_refuse rfl rfl hip (by decide) (fun _ _ => trivial) (fun _ => trivial) trivial
      fun log tasks => Or.inr ?_
    exact Nat.lt_of_le_of_lt tracked_check_le (by decide)
  exact tracked_bounded hone

/-- The failures of 10,001 addresses, one after the other. -/
theorem tracker_unbounded : ∃ w, Reaches (step guarding) Free (start 0) w ∧
    maxTrackedAuthFailureIps + w.tasks.countP inProgress < tracked w.shared.failures := by
  obtain ⟨w, hcrowded, -⟩ := exists_crowded (n := 10001) (by decide)
  refine ⟨w, hcrowded.reached.free, ?_⟩
  rw [hcrowded.finished, hcrowded.tracked_eq]
  decide

end ApiKeyAuth

end NebulaId
