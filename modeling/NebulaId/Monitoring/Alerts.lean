import Mathlib.Data.List.Chain
import Mathlib.Logic.Function.Basic
import Mathlib.Tactic.Common

/-!
# The life of an alert (`core/monitoring/core.rs`)

`evaluate_rule` keeps a state for every name of a rule. An evaluation that finds the condition true
promotes the state, any other one demotes it. Histories have the latest evaluation first. The
readings of the clock are in nanoseconds, and what the evaluator found comes with the evaluation.

A history has a *streak*, the evaluations that count for the alert. `Lifecycle` says when an alert
fires and resolves for a given notion of a streak.

* `lifecycle_positive`: it holds of the evaluations since the score, the true evaluations less the
  false ones, was last zero.
* `alternates`: the notifications of a rule are in turn firing and resolved.
* `outlives_false`: it does not hold of the evaluations since the last false one.
-/

namespace NebulaId

inductive AlertSeverity where
  | critical
  | warning
  | info
  deriving DecidableEq

inductive AlertStatus where
  | firing
  | resolved
  | pending
  deriving DecidableEq

/-- `HashMap<String, String>` -/
abbrev Labels := String → Option String

structure Alert where
  ruleName : String
  severity : AlertSeverity
  status : AlertStatus
  message : String
  labels : Labels
  startsAt : ℤ
  endsAt : Option ℤ
  generator : String
  currentValue : Option String

namespace Alert

def new (now : ℤ) (ruleName : String) (severity : AlertSeverity) (message : String)
    (labels : Labels) (currentValue : Option String) : Alert where
  ruleName := ruleName
  severity := severity
  status := .pending
  message := message
  labels := labels
  startsAt := now
  endsAt := none
  generator := "nebula-id"
  currentValue := currentValue

def fire (now : ℤ) (alert : Alert) : Alert := { alert with status := .firing, startsAt := now }

def resolve (now : ℤ) (alert : Alert) : Alert :=
  { alert with status := .resolved, endsAt := some now }

end Alert

structure AlertRule where
  name : String
  expression : String
  forDuration : UInt64
  severity : AlertSeverity
  labels : Labels
  annotations : Labels
  enabled : Bool

structure AlertState where
  lastFired : Option ℕ
  consecutivePromotions : UInt8
  currentStatus : AlertStatus
  pendingSince : Option ℕ
  currentValue : Option String

namespace AlertState

def new : AlertState := ⟨none, 0, .pending, none, none⟩

/-- The seconds are whole ones. -/
def shouldFire (s : AlertState) (now : ℕ) (forDuration : UInt64) : Bool :=
  match s.pendingSince with
  | some pendingSince =>
    decide (forDuration.toNat ≤ (now - pendingSince) / 1000000000) &&
      decide (0 < s.consecutivePromotions)
  | none => false

def promote (s : AlertState) (now : ℕ) (value : Option String) : AlertState :=
  { s with
    consecutivePromotions :=
      if s.consecutivePromotions = 255 then 255 else s.consecutivePromotions + 1
    currentValue := value
    pendingSince :=
      if s.currentStatus ≠ .firing then some (s.pendingSince.getD now) else s.pendingSince }

def demote (s : AlertState) : AlertState :=
  let consecutivePromotions :=
    if s.consecutivePromotions = 0 then 0 else s.consecutivePromotions - 1
  { s with
    consecutivePromotions := consecutivePromotions
    pendingSince := if consecutivePromotions = 0 then none else s.pendingSince }

end AlertState

/-- What the evaluator found for a rule, and the readings of the two clocks. -/
structure Evaluation where
  rule : AlertRule
  shouldFire : Bool
  currentValue : Option String
  promotedAt : ℕ
  checkedAt : ℕ
  firedAt : ℕ
  createdAt : ℤ
  notifiedAt : ℤ

structure AlertManager where
  globalLabels : Labels
  states : String → Option AlertState
  alertHistory : List Alert
  maxHistorySize : ℕ
  /-- What the notification sender has got. -/
  sent : List Alert

def formatMessage (rule : AlertRule) (currentValue : Option String) : String :=
  match rule.annotations "summary" with
  | some desc => match currentValue with
    | some value => desc ++ " (current: " ++ value ++ ")"
    | none => desc
  | none => "Alert rule '" ++ rule.name ++ "' triggered: " ++ rule.expression

namespace AlertManager

def mergeLabels (m : AlertManager) (ruleLabels : Labels) : Labels := fun k =>
  (ruleLabels k).or (m.globalLabels k)

def storeAlertToHistory (m : AlertManager) (alert : Alert) : AlertManager :=
  let history := if m.maxHistorySize ≤ m.alertHistory.length then m.alertHistory.drop 1
    else m.alertHistory
  { m with alertHistory := history ++ [alert] }

def send (m : AlertManager) (alert : Alert) : AlertManager := { m with sent := m.sent ++ [alert] }

/-- The states of the rules of the configuration; the others appear with their first evaluation. -/
def new (globalLabels : Labels) (rules : List AlertRule) : AlertManager where
  globalLabels := globalLabels
  states name := (rules.find? fun rule => rule.name = name).map fun _ => .new
  alertHistory := []
  maxHistorySize := 1000
  sent := []

/-- What happens to the state, and the alert that is sent afterwards. -/
def evaluate (m : AlertManager) (state : AlertState) (e : Evaluation) : AlertState × Option Alert :=
  if e.shouldFire then
    let state := state.promote e.promotedAt e.currentValue
    if state.shouldFire e.checkedAt e.rule.forDuration ∧ state.currentStatus ≠ .firing then
      ({ state with currentStatus := .firing, lastFired := some e.firedAt },
        some ((Alert.new e.createdAt e.rule.name e.rule.severity
          (formatMessage e.rule e.currentValue) (m.mergeLabels e.rule.labels)
          e.currentValue).fire e.notifiedAt))
    else (state, none)
  else
    let state := state.demote
    if state.currentStatus = .firing ∧ state.consecutivePromotions = 0 then
      ({ state with currentStatus := .resolved },
        some ((Alert.new e.createdAt e.rule.name e.rule.severity
          ("Alert resolved: " ++ e.rule.name) (m.mergeLabels e.rule.labels) none).resolve
          e.notifiedAt))
    else (state, none)

def stateOf (m : AlertManager) (name : String) : AlertState := (m.states name).getD .new

def evaluateRule (m : AlertManager) (e : Evaluation) : AlertManager :=
  let (state, action) := m.evaluate (m.stateOf e.rule.name) e
  let m := { m with states := Function.update m.states e.rule.name (some state) }
  match action with
  | some alert => (m.storeAlertToHistory alert).send alert
  | none => m

/-- One round over the rules of the configuration. -/
def evaluateAllRules (m : AlertManager) (enabled : Bool) (round : List Evaluation) : AlertManager :=
  if enabled then
    round.foldl (fun m e => if e.rule.enabled then m.evaluateRule e else m) m
  else m

/-- The manager after these evaluations. -/
def after (m : AlertManager) : List Evaluation → AlertManager
  | [] => m
  | e :: h => (m.after h).evaluateRule e

end AlertManager

/-! ## Streaks -/

/-- The evaluations of the rules with this name. -/
def evaluationsOf (name : String) (h : List Evaluation) : List Evaluation :=
  h.filter fun e => e.rule.name = name

/-- Up to 255, and not below zero. -/
def score : List Evaluation → ℕ
  | [] => 0
  | e :: h => if e.shouldFire then min 255 (score h + 1) else score h - 1

/-- The evaluations since the score was zero. -/
def sinceZero : List Evaluation → List Evaluation
  | [] => []
  | e :: h => if score (e :: h) = 0 then [] else e :: sinceZero h

/-- The evaluations since the last false one. -/
def sinceFalse (h : List Evaluation) : List Evaluation := h.takeWhile Evaluation.shouldFire

/-- The condition is true for the duration of the rule after the evaluation `start`. -/
def Ripe (start e : Evaluation) : Prop :=
  e.shouldFire = true ∧
    e.rule.forDuration.toNat ≤ (e.checkedAt - start.promotedAt) / 1000000000

/-- The streak, which began with the last of the list, has got ripe. -/
def Fired (l : List Evaluation) : Prop := ∃ start, l.getLast? = some start ∧ ∃ e ∈ l, Ripe start e

/-- The evaluation is followed by a notification with this status. -/
def AlertManager.Notifies (m : AlertManager) (e : Evaluation) (status : AlertStatus) : Prop :=
  ∃ alert : Alert, (m.evaluateRule e).sent = m.sent ++ [alert] ∧ alert.status = status

/-- An alert fires at the first evaluation that is ripe and resolves when the streak ends. -/
structure Lifecycle (streak : List Evaluation → List Evaluation) (m : AlertManager)
    (h : List Evaluation) (e : Evaluation) : Prop where
  fires : (m.after h).Notifies e .firing ↔
    (∃ start, (streak (evaluationsOf e.rule.name (e :: h))).getLast? = some start ∧ Ripe start e) ∧
      ¬ Fired (streak (evaluationsOf e.rule.name h))
  resolves : (m.after h).Notifies e .resolved ↔
    streak (evaluationsOf e.rule.name (e :: h)) = [] ∧ Fired (streak (evaluationsOf e.rule.name h))
  firing : ((m.after (e :: h)).stateOf e.rule.name).currentStatus = .firing ↔
    Fired (streak (evaluationsOf e.rule.name (e :: h)))

variable {name : String} {m : AlertManager} {h l : List Evaluation} {e start : Evaluation}
  {state : AlertState}

theorem sinceZero_eq_nil_iff : sinceZero h = [] ↔ score h = 0 := by
  cases h with
  | nil => exact iff_of_true rfl rfl
  | cons e h =>
    rw [sinceZero]
    split
    · exact iff_of_true rfl ‹_›
    · exact iff_of_false (List.cons_ne_nil e _) ‹_›

theorem sinceZero_cons (hpos : score (e :: h) ≠ 0) : sinceZero (e :: h) = e :: sinceZero h :=
  if_neg hpos

theorem not_fired_nil : ¬ Fired [] := fun ⟨_, hstart, _⟩ => by cases hstart

theorem ne_nil_of_fired (hfired : Fired l) : l ≠ [] := by
  rintro rfl
  exact not_fired_nil hfired

theorem getLast?_cons_of_ne_nil (hl : l ≠ []) : (e :: l).getLast? = l.getLast? := by
  obtain ⟨start, hstart⟩ := Option.isSome_iff_exists.mp (List.getLast?_isSome.mpr hl)
  rw [List.getLast?_cons, hstart]
  rfl

theorem fired_cons_iff (hstart : (e :: l).getLast? = some start) :
    Fired (e :: l) ↔ Ripe start e ∨ Fired l := by
  constructor
  · rintro ⟨start', hstart', e', he', hripe⟩
    obtain rfl := Option.some.inj (hstart.symm.trans hstart')
    rcases List.mem_cons.mp he' with rfl | hmem
    · exact Or.inl hripe
    · refine Or.inr ⟨start, ?_, e', hmem, hripe⟩
      rwa [← getLast?_cons_of_ne_nil (List.ne_nil_of_mem hmem)]
  · rintro (hripe | hfired)
    · exact ⟨start, hstart, e, List.mem_cons_self, hripe⟩
    · have hlast := getLast?_cons_of_ne_nil (e := e) (ne_nil_of_fired hfired)
      obtain ⟨start', hstart', e', he', hripe⟩ := hfired
      exact ⟨start', hlast.trans hstart', e', List.mem_cons_of_mem e he', hripe⟩

/-! ## The state of a rule -/

/-- What the state says about the evaluations of its name. -/
structure Records (state : AlertState) (h : List Evaluation) : Prop where
  score : state.consecutivePromotions.toNat = score h
  pending : state.pendingSince = (sinceZero h).getLast?.map Evaluation.promotedAt
  firing : state.currentStatus = .firing ↔ Fired (sinceZero h)

theorem records_new : Records .new [] :=
  ⟨rfl, rfl, iff_of_false (by decide) not_fired_nil⟩

namespace Records

theorem score_promote (hr : Records state h) (htrue : e.shouldFire = true) :
    (state.promote e.promotedAt e.currentValue).consecutivePromotions.toNat =
      NebulaId.score (e :: h) := by
  have hscore := hr.score
  rw [NebulaId.score, if_pos htrue]
  dsimp only [AlertState.promote]
  split
  · rename_i hmax
    rw [hmax] at hscore
    rw [← hscore]
    rfl
  · rename_i hmax
    have hlt : state.consecutivePromotions.toNat ≠ 255 := fun heq =>
      hmax (UInt8.toNat_inj.mp heq)
    have hbound := state.consecutivePromotions.toNat_lt
    rw [UInt8.toNat_add, ← hscore]
    simp only [UInt8.toNat_one]
    omega

theorem score_demote (hr : Records state h) (hfalse : ¬ e.shouldFire = true) :
    state.demote.consecutivePromotions.toNat = NebulaId.score (e :: h) := by
  have hscore := hr.score
  rw [NebulaId.score, if_neg hfalse, ← hscore]
  dsimp only [AlertState.demote]
  split
  · rename_i hzero
    rw [hzero]
    rfl
  · rename_i hzero
    have hne : state.consecutivePromotions.toNat ≠ 0 := fun heq => hzero (UInt8.toNat_inj.mp heq)
    have hle : (1 : UInt8) ≤ state.consecutivePromotions := by
      rw [UInt8.le_iff_toNat_le, UInt8.toNat_one]
      omega
    rw [UInt8.toNat_sub_of_le _ _ hle, UInt8.toNat_one]

/-- A true evaluation goes on with the streak, or begins one. -/
theorem streak_true (htrue : e.shouldFire = true) : sinceZero (e :: h) = e :: sinceZero h := by
  refine sinceZero_cons ?_
  rw [NebulaId.score, if_pos htrue]
  omega

theorem pending_promote (hr : Records state h) (htrue : e.shouldFire = true) :
    (state.promote e.promotedAt e.currentValue).pendingSince =
      (sinceZero (e :: h)).getLast?.map Evaluation.promotedAt := by
  rw [streak_true htrue]
  dsimp only [AlertState.promote]
  by_cases hnil : sinceZero h = []
  · have hquiet : state.currentStatus ≠ .firing := fun hfiring =>
      ne_nil_of_fired (hr.firing.mp hfiring) hnil
    rw [if_pos hquiet, hr.pending, hnil]
    rfl
  · rw [getLast?_cons_of_ne_nil hnil, ← hr.pending]
    split
    · have hsome : state.pendingSince.isSome = true := by
        rw [hr.pending, Option.isSome_map, List.getLast?_isSome]
        exact hnil
      obtain ⟨since, hsince⟩ := Option.isSome_iff_exists.mp hsome
      rw [hsince]
      rfl
    · rfl

/-- After a promotion `should_fire` says whether the evaluation is ripe. -/
theorem shouldFire_promote_iff (hr : Records state h) (htrue : e.shouldFire = true) :
    (state.promote e.promotedAt e.currentValue).shouldFire e.checkedAt e.rule.forDuration = true ↔
      ∃ start, (sinceZero (e :: h)).getLast? = some start ∧ Ripe start e := by
  have hpos : (0 : UInt8) <
      (state.promote e.promotedAt e.currentValue).consecutivePromotions := by
    rw [UInt8.lt_iff_toNat_lt, hr.score_promote htrue, NebulaId.score, if_pos htrue]
    exact Nat.lt_min.mpr ⟨by decide, Nat.succ_pos _⟩
  have hsome : (sinceZero (e :: h)).getLast?.isSome = true := by
    rw [List.getLast?_isSome, streak_true htrue]
    exact List.cons_ne_nil _ _
  obtain ⟨start, hstart⟩ := Option.isSome_iff_exists.mp hsome
  rw [AlertState.shouldFire, hr.pending_promote htrue, hstart]
  simp only [Option.map_some, Bool.and_eq_true, decide_eq_true_eq, hpos, and_true]
  constructor
  · intro hripe
    exact ⟨start, rfl, htrue, hripe⟩
  · rintro ⟨start', hstart', -, hripe⟩
    rw [Option.some.inj hstart']
    exact hripe

theorem pending_demote (hr : Records state h) (hfalse : ¬ e.shouldFire = true) :
    state.demote.pendingSince = (sinceZero (e :: h)).getLast?.map Evaluation.promotedAt := by
  have hscore := hr.score_demote hfalse
  by_cases hzero : NebulaId.score (e :: h) = 0
  · have hnone : state.demote.consecutivePromotions = 0 := UInt8.toNat_inj.mp (hscore.trans hzero)
    rw [sinceZero_eq_nil_iff.mpr hzero]
    exact if_pos hnone
  · have hsome : state.demote.consecutivePromotions ≠ 0 := by
      intro heq
      rw [heq] at hscore
      exact hzero hscore.symm
    have hnil : sinceZero h ≠ [] := by
      rw [Ne, sinceZero_eq_nil_iff]
      rw [NebulaId.score, if_neg hfalse] at hzero
      omega
    rw [sinceZero_cons hzero, getLast?_cons_of_ne_nil hnil, ← hr.pending]
    exact if_neg hsome

/-- A false evaluation ends the streak, or leaves it as it was. -/
theorem fired_false_iff (hfalse : ¬ e.shouldFire = true) :
    Fired (sinceZero (e :: h)) ↔ NebulaId.score (e :: h) ≠ 0 ∧ Fired (sinceZero h) := by
  by_cases hzero : NebulaId.score (e :: h) = 0
  · rw [sinceZero_eq_nil_iff.mpr hzero]
    exact iff_of_false not_fired_nil fun hfired => hfired.1 hzero
  · rw [sinceZero_cons hzero]
    have hsome : (e :: sinceZero h).getLast?.isSome = true :=
      List.getLast?_isSome.mpr (List.cons_ne_nil _ _)
    obtain ⟨start, hstart⟩ := Option.isSome_iff_exists.mp hsome
    rw [fired_cons_iff hstart]
    exact ⟨fun hfired => ⟨hzero, hfired.resolve_left fun hripe => hfalse hripe.1⟩,
      fun hfired => Or.inr hfired.2⟩

/-- A true evaluation fires, unless the streak has fired before. -/
theorem fired_true_iff (htrue : e.shouldFire = true) : Fired (sinceZero (e :: h)) ↔
    (∃ start, (sinceZero (e :: h)).getLast? = some start ∧ Ripe start e) ∨
      Fired (sinceZero h) := by
  have hsome : (sinceZero (e :: h)).getLast?.isSome = true := by
    rw [List.getLast?_isSome, streak_true htrue]
    exact List.cons_ne_nil _ _
  obtain ⟨start, hstart⟩ := Option.isSome_iff_exists.mp hsome
  rw [streak_true htrue] at hstart ⊢
  rw [fired_cons_iff hstart]
  refine or_congr_left ⟨fun hripe => ⟨start, hstart, hripe⟩, ?_⟩
  rintro ⟨start', hstart', hripe⟩
  rwa [Option.some.inj (hstart.symm.trans hstart')]

end Records

/-- What an evaluation does to a state that says the truth about the evaluations before. -/
structure Evaluated (h : List Evaluation) (e : Evaluation) (out : AlertState × Option Alert) :
    Prop where
  records : Records out.1 (e :: h)
  fires : (∃ alert, out.2 = some alert ∧ alert.status = .firing) ↔
    (∃ start, (sinceZero (e :: h)).getLast? = some start ∧ Ripe start e) ∧ ¬ Fired (sinceZero h)
  resolves : (∃ alert, out.2 = some alert ∧ alert.status = .resolved) ↔
    sinceZero (e :: h) = [] ∧ Fired (sinceZero h)
  named : ∀ alert, out.2 = some alert → alert.ruleName = e.rule.name ∧ alert.status ≠ .pending

/-- The streak has fired, and not ended since. -/
theorem Evaluated.fired_iff {out : AlertState × Option Alert} (hout : Evaluated h e out) :
    Fired (sinceZero (e :: h)) ↔ (∃ alert, out.2 = some alert ∧ alert.status = .firing) ∨
      (Fired (sinceZero h) ∧ ¬ ∃ alert, out.2 = some alert ∧ alert.status = .resolved) := by
  rw [hout.fires, hout.resolves]
  by_cases htrue : e.shouldFire = true
  · have hnil : sinceZero (e :: h) ≠ [] := by
      rw [Records.streak_true htrue]
      exact List.cons_ne_nil _ _
    rw [Records.fired_true_iff htrue]
    by_cases hold : Fired (sinceZero h)
    · exact iff_of_true (Or.inr hold) (Or.inr ⟨hold, fun hends => hnil hends.1⟩)
    · exact or_congr ⟨fun hripe => ⟨hripe, hold⟩, And.left⟩
        (iff_of_false hold fun hstill => hold hstill.1)
  · have hnever : ¬ ∃ start, (sinceZero (e :: h)).getLast? = some start ∧ Ripe start e :=
      fun ⟨_, _, hripe⟩ => htrue hripe.1
    rw [Records.fired_false_iff htrue, Ne, ← sinceZero_eq_nil_iff]
    constructor
    · intro ⟨hnil, hold⟩
      exact Or.inr ⟨hold, fun hends => hnil hends.1⟩
    · rintro (hfirst | ⟨hold, hends⟩)
      · exact absurd hfirst.1 hnever
      · exact ⟨fun hnil => hends ⟨hnil, hold⟩, hold⟩

namespace AlertManager

theorem evaluated_true (hr : Records state h) (htrue : e.shouldFire = true) :
    Evaluated h e (m.evaluate state e) := by
  have hscore := hr.score_promote htrue
  have hpending := hr.pending_promote htrue
  have hdue := hr.shouldFire_promote_iff htrue
  have hfired := Records.fired_true_iff (h := h) htrue
  have hnil : sinceZero (e :: h) ≠ [] := by
    rw [Records.streak_true htrue]
    exact List.cons_ne_nil _ _
  unfold evaluate
  rw [if_pos htrue]
  dsimp only
  split
  · rename_i hfire
    have hripe := hdue.mp hfire.1
    have hquiet : ¬ Fired (sinceZero h) := fun hold => hfire.2 (hr.firing.mpr hold)
    exact {
      records := ⟨hscore, hpending, iff_of_true rfl (hfired.mpr (Or.inl hripe))⟩
      fires := iff_of_true ⟨_, rfl, rfl⟩ ⟨hripe, hquiet⟩
      resolves := iff_of_false (by rintro ⟨alert, ⟨⟩, hstatus⟩; cases hstatus)
        fun hends => hnil hends.1
      named := by rintro alert ⟨⟩; exact ⟨rfl, by rintro ⟨⟩⟩ }
  · rename_i hfire
    have hstatus : (state.promote e.promotedAt e.currentValue).currentStatus = .firing ↔
        Fired (sinceZero (e :: h)) := by
      rw [hfired, ← hdue]
      constructor
      · intro hfiring
        exact Or.inr (hr.firing.mp hfiring)
      · rintro (hripe | hold)
        · by_contra hquiet
          exact hfire ⟨hripe, hquiet⟩
        · exact hr.firing.mpr hold
    exact {
      records := ⟨hscore, hpending, hstatus⟩
      fires := iff_of_false (by rintro ⟨alert, ⟨⟩, -⟩) fun hfirst =>
        hfire ⟨hdue.mpr hfirst.1, fun hfiring => hfirst.2 (hr.firing.mp hfiring)⟩
      resolves := iff_of_false (by rintro ⟨alert, ⟨⟩, -⟩) fun hends => hnil hends.1
      named := by rintro alert ⟨⟩ }

theorem evaluated_false (hr : Records state h) (hfalse : ¬ e.shouldFire = true) :
    Evaluated h e (m.evaluate state e) := by
  have hscore := hr.score_demote hfalse
  have hpending := hr.pending_demote hfalse
  have hfired := Records.fired_false_iff (h := h) hfalse
  have hnever : ¬ ∃ start, (sinceZero (e :: h)).getLast? = some start ∧ Ripe start e :=
    fun ⟨_, _, hripe⟩ => hfalse hripe.1
  have hzero : state.demote.consecutivePromotions = 0 ↔ sinceZero (e :: h) = [] := by
    rw [sinceZero_eq_nil_iff, ← hscore]
    exact UInt8.toNat_inj.symm
  unfold evaluate
  rw [if_neg hfalse]
  dsimp only
  split
  · rename_i hends
    have hnil := hzero.mp hends.2
    exact {
      records := ⟨hscore, hpending, iff_of_false (by rintro ⟨⟩) (by rw [hnil]; exact not_fired_nil)⟩
      fires := iff_of_false (by rintro ⟨alert, ⟨⟩, hstatus⟩; cases hstatus) fun hfirst =>
        hnever hfirst.1
      resolves := iff_of_true ⟨_, rfl, rfl⟩ ⟨hnil, hr.firing.mp hends.1⟩
      named := by rintro alert ⟨⟩; exact ⟨rfl, by rintro ⟨⟩⟩ }
  · rename_i hends
    have hstatus : state.demote.currentStatus = .firing ↔ Fired (sinceZero (e :: h)) := by
      rw [hfired, Ne, ← sinceZero_eq_nil_iff, ← hr.firing]
      exact ⟨fun hfiring => ⟨fun hnil => hends ⟨hfiring, hzero.mpr hnil⟩, hfiring⟩, And.right⟩
    exact {
      records := ⟨hscore, hpending, hstatus⟩
      fires := iff_of_false (by rintro ⟨alert, ⟨⟩, -⟩) fun hfirst => hnever hfirst.1
      resolves := iff_of_false (by rintro ⟨alert, ⟨⟩, -⟩) fun hresolve =>
        hends ⟨hr.firing.mpr hresolve.2, hzero.mpr hresolve.1⟩
      named := by rintro alert ⟨⟩ }

theorem evaluated (hr : Records state h) : Evaluated h e (m.evaluate state e) := by
  by_cases hfire : e.shouldFire = true
  · exact evaluated_true hr hfire
  · exact evaluated_false hr hfire

/-! ## The states of all rules -/

theorem states_evaluateRule (m : AlertManager) (e : Evaluation) :
    (m.evaluateRule e).states = Function.update m.states e.rule.name
      (some (m.evaluate (m.stateOf e.rule.name) e).1) := by
  unfold evaluateRule
  rcases m.evaluate (m.stateOf e.rule.name) e with ⟨state, action⟩
  cases action with
  | none => rfl
  | some alert => rfl

theorem sent_evaluateRule (m : AlertManager) (e : Evaluation) :
    (m.evaluateRule e).sent =
      m.sent ++ (m.evaluate (m.stateOf e.rule.name) e).2.toList := by
  unfold evaluateRule
  rcases m.evaluate (m.stateOf e.rule.name) e with ⟨state, action⟩
  cases action with
  | none => exact (List.append_nil _).symm
  | some alert => rfl

theorem notifies_iff {status : AlertStatus} : m.Notifies e status ↔
    ∃ alert, (m.evaluate (m.stateOf e.rule.name) e).2 = some alert ∧ alert.status = status := by
  unfold Notifies
  refine exists_congr fun alert => and_congr_left fun _ => ?_
  rw [sent_evaluateRule, List.append_cancel_left_eq]
  cases (m.evaluate (m.stateOf e.rule.name) e).2 with
  | none => simp
  | some alert' => simp

theorem stateOf_self (m : AlertManager) (e : Evaluation) :
    (m.evaluateRule e).stateOf e.rule.name = (m.evaluate (m.stateOf e.rule.name) e).1 := by
  rw [stateOf, states_evaluateRule, Function.update_self]
  rfl

/-- The states of the other names stay. -/
theorem stateOf_other (m : AlertManager) (hname : name ≠ e.rule.name) :
    (m.evaluateRule e).stateOf name = m.stateOf name := by
  rw [stateOf, states_evaluateRule, Function.update_of_ne hname, stateOf]

theorem stateOf_new (globalLabels : Labels) (rules : List AlertRule) (name : String) :
    (new globalLabels rules).stateOf name = .new := by
  dsimp only [stateOf, new]
  cases rules.find? fun rule => decide (rule.name = name) with
  | none => rfl
  | some rule => rfl

theorem evaluationsOf_self (e : Evaluation) (h : List Evaluation) :
    evaluationsOf e.rule.name (e :: h) = e :: evaluationsOf e.rule.name h :=
  List.filter_cons_of_pos (decide_eq_true rfl)

theorem evaluationsOf_other (hname : name ≠ e.rule.name) :
    evaluationsOf name (e :: h) = evaluationsOf name h :=
  List.filter_cons_of_neg (by simpa using hname.symm)

/-- Every state says the truth about the evaluations of its name. -/
theorem records_after (globalLabels : Labels) (rules : List AlertRule) (h : List Evaluation)
    (name : String) :
    Records (((new globalLabels rules).after h).stateOf name) (evaluationsOf name h) := by
  induction h generalizing name with
  | nil =>
    rw [after, stateOf_new]
    exact records_new
  | cons e h ih =>
    rw [after]
    by_cases hname : name = e.rule.name
    · subst hname
      rw [stateOf_self, evaluationsOf_self]
      exact (evaluated (ih e.rule.name)).records
    · rw [stateOf_other _ hname, evaluationsOf_other hname]
      exact ih name

theorem lifecycle (globalLabels : Labels) (rules : List AlertRule) (h : List Evaluation)
    (e : Evaluation) : Lifecycle sinceZero (new globalLabels rules) h e := by
  have hout := evaluated (m := (new globalLabels rules).after h) (e := e)
    (records_after globalLabels rules h e.rule.name)
  refine ⟨?_, ?_, ?_⟩
  · rw [notifies_iff, evaluationsOf_self]
    exact hout.fires
  · rw [notifies_iff, evaluationsOf_self]
    exact hout.resolves
  · exact (records_after globalLabels rules (e :: h) e.rule.name).firing

/-- A round evaluates the rules that are enabled, in order. -/
theorem evaluateAllRules_eq (m : AlertManager) (round : List Evaluation) :
    m.evaluateAllRules true round =
      m.after (round.filter fun e => e.rule.enabled).reverse := by
  have hfold : ∀ (l : List Evaluation) (m : AlertManager),
      m.after l = l.reverse.foldl evaluateRule m := by
    intro l m
    rw [List.foldl_reverse]
    induction l with
    | nil => rfl
    | cons e l ih => rw [after, ih, List.foldr_cons]
  rw [hfold, List.reverse_reverse, List.foldl_filter]
  rfl

/-- The history of alerts stays within its bound. -/
theorem length_alertHistory_le (globalLabels : Labels) (rules : List AlertRule)
    (h : List Evaluation) :
    ((new globalLabels rules).after h).alertHistory.length ≤ 1000 ∧
      ((new globalLabels rules).after h).maxHistorySize = 1000 := by
  induction h with
  | nil => exact ⟨Nat.zero_le 1000, rfl⟩
  | cons e h ih =>
    obtain ⟨hlength, hmax⟩ := ih
    rw [after, evaluateRule]
    rcases evaluate _ _ e with ⟨state, action⟩
    cases action with
    | none => exact ⟨hlength, hmax⟩
    | some alert =>
      refine ⟨?_, hmax⟩
      dsimp only [send, storeAlertToHistory]
      rw [hmax, List.length_append, List.length_singleton]
      split
      · rw [List.length_drop]
        omega
      · omega

/-! ## Notifications -/

/-- What has been sent for the rules with this name. -/
def notices (m : AlertManager) (name : String) : List AlertStatus :=
  (m.sent.filter fun alert => alert.ruleName = name).map Alert.status

/-- Firing and resolved in turn, beginning with firing. -/
def Alternate (l : List AlertStatus) : Prop :=
  l.IsChain (· ≠ ·) ∧ (∀ status ∈ l.head?, status = .firing) ∧ .pending ∉ l

theorem notices_self (m : AlertManager) (e : Evaluation) {alert : Alert}
    (halert : (m.evaluate (m.stateOf e.rule.name) e).2 = some alert)
    (hname : alert.ruleName = e.rule.name) :
    (m.evaluateRule e).notices e.rule.name = m.notices e.rule.name ++ [alert.status] := by
  simp [notices, sent_evaluateRule, halert, hname]

theorem notices_quiet (m : AlertManager) {e : Evaluation} (name : String)
    (hnone : (m.evaluate (m.stateOf e.rule.name) e).2 = none) :
    (m.evaluateRule e).notices name = m.notices name := by
  simp [notices, sent_evaluateRule, hnone]

theorem notices_other (m : AlertManager) {e : Evaluation} {alert : Alert}
    (halert : (m.evaluate (m.stateOf e.rule.name) e).2 = some alert)
    (hruleName : alert.ruleName = e.rule.name) (hname : name ≠ e.rule.name) :
    (m.evaluateRule e).notices name = m.notices name := by
  have hother : alert.ruleName ≠ name := fun heq => hname (heq ▸ hruleName)
  simp [notices, sent_evaluateRule, halert, hother]

theorem Alternate.append {l : List AlertStatus} {status : AlertStatus} (hl : Alternate l)
    (hlast : l.getLast? = some .firing ↔ status = .resolved) (hstatus : status ≠ .pending) :
    Alternate (l ++ [status]) := by
  obtain ⟨hchain, hhead, hpending⟩ := hl
  refine ⟨List.isChain_append.mpr ⟨hchain, List.isChain_singleton _, ?_⟩, ?_, ?_⟩
  · intro last hlast' next hnext heq
    obtain rfl : status = next := Option.some.inj hnext
    subst heq
    cases last with
    | firing => cases hlast.mp hlast'
    | resolved => cases (hlast.mpr rfl).symm.trans hlast'
    | pending => exact hstatus rfl
  · intro first hfirst
    cases l with
    | nil =>
      obtain rfl : status = first := Option.some.inj hfirst
      cases status with
      | firing => rfl
      | resolved => cases hlast.mpr rfl
      | pending => exact absurd rfl hstatus
    | cons first' l => exact hhead first hfirst
  · intro hmem
    rcases List.mem_append.mp hmem with hmem | hmem
    · exact hpending hmem
    · exact hstatus (List.mem_singleton.mp hmem).symm

/-- The last notification of a rule is a firing one as long as its streak has fired. -/
theorem alternate_after (globalLabels : Labels) (rules : List AlertRule) (h : List Evaluation)
    (name : String) :
    Alternate (((new globalLabels rules).after h).notices name) ∧
      ((((new globalLabels rules).after h).notices name).getLast? = some .firing ↔
        Fired (sinceZero (evaluationsOf name h))) := by
  induction h with
  | nil =>
    refine ⟨⟨List.isChain_nil, fun status hstatus => (by cases hstatus), List.not_mem_nil⟩, ?_⟩
    exact iff_of_false (fun hlast => by cases hlast) not_fired_nil
  | cons e h ih =>
    obtain ⟨halt, hlast⟩ := ih
    have hout := evaluated (m := (new globalLabels rules).after h) (e := e)
      (records_after globalLabels rules h e.rule.name)
    rw [after]
    cases hsent : (((new globalLabels rules).after h).evaluate
        (((new globalLabels rules).after h).stateOf e.rule.name) e).2 with
    | none =>
      rw [notices_quiet _ name hsent]
      refine ⟨halt, hlast.trans ?_⟩
      by_cases hname : name = e.rule.name
      · subst hname
        rw [evaluationsOf_self, hout.fired_iff, hsent]
        simp
      · rw [evaluationsOf_other hname]
    | some alert =>
      obtain ⟨hruleName, hstatus⟩ := hout.named alert hsent
      by_cases hname : name = e.rule.name
      · subst hname
        rw [notices_self _ e hsent hruleName, evaluationsOf_self]
        have hfires := hout.fires
        have hresolves := hout.resolves
        have hfired := hout.fired_iff
        rw [hsent] at hfires hresolves hfired
        simp only [Option.some.injEq, exists_eq_left'] at hfires hresolves hfired
        refine ⟨halt.append ?_ hstatus, ?_⟩
        · rw [hlast]
          constructor
          · intro hold
            cases hs : alert.status with
            | firing => exact absurd hold (hfires.mp hs).2
            | resolved => rfl
            | pending => exact absurd hs hstatus
          · intro hs
            exact (hresolves.mp hs).2
        · rw [List.getLast?_concat, hfired]
          constructor
          · intro hs
            exact Or.inl (Option.some.inj hs)
          · rintro (hs | ⟨hold, hs⟩)
            · rw [hs]
            · cases hs' : alert.status with
              | firing => rfl
              | resolved => exact absurd hs' hs
              | pending => exact absurd hs' hstatus
      · rw [notices_other _ hsent hruleName hname, evaluationsOf_other hname]
        exact ⟨halt, hlast⟩

/-- **The life of an alert**: it fires as soon as the condition has held for the duration since the
score was zero, and resolves as soon as the score is zero again. -/
theorem lifecycle_positive (globalLabels : Labels) (rules : List AlertRule)
    (h : List Evaluation) :
    (∀ e, Lifecycle sinceZero (new globalLabels rules) h e) ∧
      ∀ name, Alternate (((new globalLabels rules).after h).notices name) :=
  ⟨lifecycle globalLabels rules h, fun name => (alternate_after globalLabels rules h name).1⟩

/-- A rule that fires at once. -/
def eager : AlertRule := ⟨"errors", "id_generation_failed", 0, .warning, fun _ => none,
  fun _ => none, true⟩

def evaluationAt (shouldFire : Bool) (second : ℕ) : Evaluation where
  rule := eager
  shouldFire := shouldFire
  currentValue := none
  promotedAt := second * 1000000000
  checkedAt := second * 1000000000
  firedAt := second * 1000000000
  createdAt := second
  notifiedAt := second

/-- Two true evaluations and a false one: the alert goes on firing. -/
theorem outlives_false : ¬ ∀ (globalLabels : Labels) (rules : List AlertRule)
    (h : List Evaluation) (e : Evaluation), Lifecycle sinceFalse (new globalLabels rules) h e := by
  intro hall
  have hfiring := (hall (fun _ => none) [eager] [evaluationAt true 1, evaluationAt true 0]
    (evaluationAt false 2)).firing
  exact not_fired_nil (hfiring.mp rfl)

end AlertManager

end NebulaId
