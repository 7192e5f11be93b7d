import NebulaId.Machine.Crowd
import NebulaId.Store.Entries

/-!
# The rate limiter and its housekeeping (`server/rate_limit/limiter.rs`)

Each key has a token bucket, made at its first request with the rate and the burst of that moment.
A check looks the bucket up in one critical section, notes the access in another, and then
asks the bucket. A cleanup reads the clock and drops the buckets that have been idle for longer
than it is told; the next request of the key gets a new, full one. The bucket itself is
another crate's: its answers are inputs, and `BucketLaw` is what is assumed of it. Times are
nanoseconds, rates are tokens per second.

* `budget_renewed`: a cleanup that comes early, or a bucket that fails, lets more requests through.
* `rate_kept`: what the buckets of a key allow stays within one bucket's budget, as long as every
  bucket that is dropped is held by no request and has had the time to fill up (`Refilled`).
-/

namespace NebulaId

open Machine

namespace RateLimiter

def second : ℕ := 1000000000

/-- Clones share the token bucket and the time of the last access; `bucket` names the two. -/
structure InternalRateLimiter where
  bucket : ℕ
  rate : UInt32
  capacity : UInt32
  deriving DecidableEq

structure RateLimitResult where
  allowed : Bool
  remaining : UInt64
  limit : UInt32
  retryAfter : Option UInt64

inductive Call where
  | checkRateLimit (key : String) (customRate customBurst : Option UInt32)
  | cleanup (maxIdle : ℕ)
  | updateDefaults (defaultRps defaultBurst : UInt32)

inductive Answer where
  | checked (result : RateLimitResult)
  | removed (count : ℕ)
  | updated

inductive Task where
  | called (call : Call)
  | resolved (key : String) (rate capacity defaultBurst : UInt32)
  | holding (key : String) (limiter : InternalRateLimiter) (defaultBurst : UInt32)
  | touched (key : String) (limiter : InternalRateLimiter) (defaultBurst : UInt32)
  | sweeping (maxIdle now : ℕ)
  | finished (answer : Answer)

inductive Event where
  | allowed (key : String) (limiter : InternalRateLimiter) (time : ℕ)
  | failedOpen (key : String) (time : ℕ)

structure Memory where
  now : ℕ
  defaults : UInt32 × UInt32
  limiters : AList fun _ : String => InternalRateLimiter
  lastAccessed : List ℕ
  log : List Event

/-- A step goes on by itself, or with the answer of the token bucket. -/
inductive Input where
  | run
  | answered (allowed : Bool) (tokens : UInt64)
  | failed

/-- `entry(key).or_insert_with(..).clone()` -/
def getOrCreate (m : Memory) (key : String) (rate capacity : UInt32) :
    Memory × InternalRateLimiter :=
  match m.limiters.lookup key with
  | some limiter => (m, limiter)
  | none =>
    let limiter := ⟨m.lastAccessed.length, rate, capacity⟩
    ({ m with
        limiters := m.limiters.insert key limiter
        lastAccessed := m.lastAccessed ++ [m.now] }, limiter)

def touch (m : Memory) (limiter : InternalRateLimiter) : Memory :=
  { m with lastAccessed := m.lastAccessed.set limiter.bucket m.now }

/-- `now.duration_since(limiter.last_accessed()) > max_idle` -/
def idle (m : Memory) (maxIdle now : ℕ) (limiter : InternalRateLimiter) : Bool :=
  decide (now - m.lastAccessed.getD limiter.bucket 0 > maxIdle)

def sweep (m : Memory) (maxIdle now : ℕ) : Memory :=
  { m with limiters := m.limiters.keep fun _ limiter => !idle m maxIdle now limiter }

def advance : Input → Memory → Task → Option (Memory × Task)
  | .run, m, .called (.checkRateLimit key customRate customBurst) =>
    let (defaultRps, defaultBurst) := m.defaults
    let (rate, capacity) :=
      if customRate.isSome || customBurst.isSome then
        (customRate.getD defaultRps, customBurst.getD defaultBurst)
      else (defaultRps, defaultBurst)
    some (m, .resolved key rate capacity defaultBurst)
  | .run, m, .resolved key rate capacity defaultBurst =>
    let out := getOrCreate m key rate capacity
    some (out.1, .holding key out.2 defaultBurst)
  | .run, m, .holding key limiter defaultBurst =>
    some (touch m limiter, .touched key limiter defaultBurst)
  | .answered true tokens, m, .touched key limiter _ =>
    some ({ m with log := .allowed key limiter m.now :: m.log },
      .finished (.checked ⟨true, tokens, limiter.capacity, none⟩))
  | .answered false tokens, m, .touched _ limiter _ =>
    some (m, .finished (.checked ⟨false, tokens, limiter.capacity, some 1⟩))
  | .failed, m, .touched key _ defaultBurst =>
    some ({ m with log := .failedOpen key m.now :: m.log },
      .finished (.checked ⟨true, defaultBurst.toUInt64, defaultBurst, none⟩))
  | .run, m, .called (.cleanup maxIdle) => some (m, .sweeping maxIdle m.now)
  | .run, m, .sweeping maxIdle now =>
    some (sweep m maxIdle now, .finished (.removed
      (m.limiters.keys.length - (sweep m maxIdle now).limiters.keys.length)))
  | .run, m, .called (.updateDefaults defaultRps defaultBurst) =>
    some ({ m with defaults := (defaultRps, defaultBurst) }, .finished .updated)
  | _, _, _ => none

def program : Program Memory Task Call Input ℕ where
  start := .called
  step := advance
  pass elapsed m := { m with now := m.now + elapsed }

abbrev World := Crowd Memory Task

abbrev Act := CrowdAct Call Input ℕ

def step : World → Act → Option World := Crowd.step program

def start (now : ℕ) (defaultRps defaultBurst : UInt32) : World :=
  ⟨⟨now, (defaultRps, defaultBurst), ∅, [], []⟩, []⟩

/-- The limiter that a check has looked up and not asked yet. -/
def Task.holds : Task → Option (String × InternalRateLimiter)
  | .holding key limiter _ => some (key, limiter)
  | .touched key limiter _ => some (key, limiter)
  | _ => none

/-! ## Counting what is allowed -/

/-- How many of the requests that the buckets have allowed are such. -/
def allowedOf (P : String → InternalRateLimiter → ℕ → Bool) : List Event → ℕ
  | [] => 0
  | .allowed key limiter time :: es => allowedOf P es + if P key limiter time then 1 else 0
  | .failedOpen _ _ :: es => allowedOf P es

/-- The requests of a key allowed from `a` to `a + t`. -/
def allowedIn (key : String) (a t : ℕ) (log : List Event) : ℕ :=
  allowedOf (fun key' _ time => decide (key' = key ∧ a ≤ time ∧ time ≤ a + t)) log

def allowedBy (limiter : InternalRateLimiter) (a t : ℕ) (log : List Event) : ℕ :=
  allowedOf (fun _ limiter' time => decide (limiter' = limiter ∧ a ≤ time ∧ time ≤ a + t)) log

/-- Each token bucket allows at most its capacity and what flows in. -/
def BucketLaw (log : List Event) : Prop :=
  ∀ limiter a t, allowedBy limiter a t log * second ≤
    limiter.capacity.toNat * second + limiter.rate.toNat * t

/-- `capacity` and `rate` bound the buckets that have allowed requests of the key. -/
def Bounded (key : String) (capacity rate : ℕ) (log : List Event) : Prop :=
  ∀ limiter time, .allowed key limiter time ∈ log →
    limiter.capacity.toNat ≤ capacity ∧ limiter.rate.toNat ≤ rate

/-- A bucket that a cleanup drops is held by no check and could be full again. -/
def Refilled (w : World) : Task → Prop
  | .sweeping maxIdle now => ∀ key limiter, w.shared.limiters.lookup key = some limiter →
      idle w.shared maxIdle now limiter = true →
      (∀ p ∈ w.tasks, p.holds ≠ some (key, limiter)) ∧
      ∀ time, .allowed key limiter time ∈ w.shared.log →
        limiter.capacity.toNat * second ≤ limiter.rate.toNat * (w.shared.now - time)
  | _ => True

variable {P Q : String → InternalRateLimiter → ℕ → Bool} {log : List Event} {key : String}

theorem allowedOf_le (h : ∀ k l t, .allowed k l t ∈ log → P k l t = true → Q k l t = true) :
    allowedOf P log ≤ allowedOf Q log := by
  induction log with
  | nil => exact Nat.le_refl _
  | cons e es ih =>
    have hrest := ih fun k l t ht => h k l t (List.mem_cons_of_mem _ ht)
    cases e with
    | allowed k l t =>
      have hone := h k l t List.mem_cons_self
      rw [allowedOf, allowedOf]
      refine Nat.add_le_add hrest ?_
      split
      · rename_i hP
        rw [if_pos (hone hP)]
      · exact Nat.zero_le _
    | failedOpen k t => exact hrest

theorem allowedOf_congr (h : ∀ k l t, .allowed k l t ∈ log → P k l t = Q k l t) :
    allowedOf P log = allowedOf Q log :=
  Nat.le_antisymm (allowedOf_le fun k l t ht hP => h k l t ht ▸ hP)
    (allowedOf_le fun k l t ht hQ => h k l t ht ▸ hQ)

theorem allowedOf_split (P Q : String → InternalRateLimiter → ℕ → Bool) (log : List Event) :
    allowedOf P log = allowedOf (fun k l t => P k l t && !Q k l t) log +
      allowedOf (fun k l t => P k l t && Q k l t) log := by
  induction log with
  | nil => rfl
  | cons e es ih =>
    cases e with
    | allowed k l t =>
      rw [allowedOf, allowedOf, allowedOf, ih]
      by_cases hP : P k l t = true
      · by_cases hQ : Q k l t = true
        · simp [hP, hQ]
          omega
        · simp [hP, hQ]
          omega
      · simp [hP]
    | failedOpen k t => exact ih

theorem exists_of_allowedOf_ne (h : allowedOf P log ≠ 0) :
    ∃ k l t, .allowed k l t ∈ log ∧ P k l t = true := by
  induction log with
  | nil => exact absurd rfl h
  | cons e es ih =>
    cases e with
    | allowed k l t =>
      by_cases hP : P k l t = true
      · exact ⟨k, l, t, List.mem_cons_self, hP⟩
      · rw [allowedOf, if_neg hP] at h
        obtain ⟨k', l', t', hin, hP'⟩ := ih h
        exact ⟨k', l', t', List.mem_cons_of_mem _ hin, hP'⟩
    | failedOpen k t =>
      obtain ⟨k', l', t', hin, hP'⟩ := ih h
      exact ⟨k', l', t', List.mem_cons_of_mem _ hin, hP'⟩

theorem BucketLaw.of_cons {e : Event} (h : BucketLaw (e :: log)) : BucketLaw log := by
  intro limiter a t
  refine Nat.le_trans (Nat.mul_le_mul_right _ ?_) (h limiter a t)
  cases e with
  | allowed k l time => exact Nat.le_add_right _ _
  | failedOpen k time => exact Nat.le_refl _

theorem Bounded.of_cons {e : Event} {capacity rate : ℕ} (h : Bounded key capacity rate (e :: log)) :
    Bounded key capacity rate log := fun limiter time hin =>
  h limiter time (List.mem_cons_of_mem _ hin)

/-! ## The budget of a key -/

/-- What the dropped buckets of a key have allowed since `a` fits in what has flown in until `T`,
and the present bucket has allowed nothing before. -/
structure Sound (held : Option InternalRateLimiter) (now : ℕ) (log : List Event) (key : String)
    (rate a T : ℕ) : Prop where
  from_le : a ≤ T
  until_le : T ≤ now
  dropped : allowedOf (fun key' limiter time => decide (key' = key ∧ a ≤ time) &&
    !decide (held = some limiter)) log * second ≤ rate * (T - a)
  present : ∀ limiter time, .allowed key limiter time ∈ log → a ≤ time → held = some limiter →
    T ≤ time

def Event.time : Event → ℕ
  | .allowed _ _ time => time
  | .failedOpen _ time => time

variable {held : Option InternalRateLimiter} {now rate capacity a T : ℕ}
  {limiter : InternalRateLimiter}

/-- The present bucket has allowed no more than it holds and what has flown in since `T`. -/
theorem Sound.present_le (h : Sound (some limiter) now log key rate a T) (hlaw : BucketLaw log)
    {c : ℕ} (hpast : ∀ time, .allowed key limiter time ∈ log → time ≤ c) :
    allowedOf (fun key' limiter' time => decide (key' = key ∧ a ≤ time) &&
      decide (some limiter = some limiter')) log * second ≤
      limiter.capacity.toNat * second + limiter.rate.toNat * (c - T) := by
  refine Nat.le_trans (Nat.mul_le_mul_right _ ?_) (hlaw limiter T (c - T))
  refine allowedOf_le fun key' limiter' time hin hP => ?_
  simp only [Bool.and_eq_true, decide_eq_true_eq, Option.some.injEq] at hP ⊢
  obtain ⟨⟨rfl, ha⟩, rfl⟩ := hP
  have hfrom := h.present limiter time hin ha rfl
  have hto := hpast time hin
  exact ⟨rfl, hfrom, by omega⟩

theorem flow_add (rate : ℕ) (hT : a ≤ T) (hnow : T ≤ now) :
    rate * (T - a) + rate * (now - T) = rate * (now - a) := by
  rw [← Nat.mul_add]
  congr 1
  omega

/-- Since `a` a key has been allowed one burst and what has flown in. -/
theorem Sound.total_le (h : Sound held now log key rate a T) (hlaw : BucketLaw log)
    (hbound : Bounded key capacity rate log) (hpast : ∀ e ∈ log, e.time ≤ now) :
    allowedOf (fun key' _ time => decide (key' = key ∧ a ≤ time)) log * second ≤
      capacity * second + rate * (now - a) := by
  rw [allowedOf_split _ (fun _ limiter _ => decide (held = some limiter)), Nat.add_mul]
  have hflow := flow_add rate h.from_le h.until_le
  have hdropped := h.dropped
  by_cases hzero : allowedOf (fun key' limiter time => decide (key' = key ∧ a ≤ time) &&
      decide (held = some limiter)) log = 0
  · rw [hzero]
    omega
  · obtain ⟨key', limiter, time, hin, hP⟩ := exists_of_allowedOf_ne hzero
    simp only [Bool.and_eq_true, decide_eq_true_eq] at hP
    obtain ⟨⟨rfl, -⟩, rfl⟩ := hP
    have hpresent := h.present_le hlaw fun time hin => hpast _ hin
    obtain ⟨hcapacity, hrate⟩ := hbound limiter time hin
    have h1 := Nat.mul_le_mul_right second hcapacity
    have h2 := Nat.mul_le_mul_right (now - T) hrate
    omega

theorem exists_last (h : ∃ time, .allowed key limiter time ∈ log) :
    ∃ last, .allowed key limiter last ∈ log ∧
      ∀ time, .allowed key limiter time ∈ log → time ≤ last := by
  induction log with
  | nil =>
    obtain ⟨time, hin⟩ := h
    cases hin
  | cons e es ih =>
    by_cases hrest : ∃ time, .allowed key limiter time ∈ es
    · obtain ⟨last, hlast, hmax⟩ := ih hrest
      by_cases he : ∃ time, e = .allowed key limiter time ∧ last < time
      · obtain ⟨time, rfl, hlt⟩ := he
        refine ⟨time, List.mem_cons_self, fun time' hin => ?_⟩
        rcases List.mem_cons.mp hin with heq | hin
        · cases heq
          exact Nat.le_refl _
        · have := hmax time' hin
          omega
      · refine ⟨last, List.mem_cons_of_mem _ hlast, fun time' hin => ?_⟩
        rcases List.mem_cons.mp hin with heq | hin
        · exact Nat.le_of_not_lt fun hlt => he ⟨time', heq.symm, hlt⟩
        · exact hmax time' hin
    · obtain ⟨time, hin⟩ := h
      refine ⟨time, hin, fun time' hin' => ?_⟩
      have hone : ∀ t, .allowed key limiter t ∈ e :: es → .allowed key limiter t = e := fun t ht =>
        (List.mem_cons.mp ht).resolve_right fun hmem => hrest ⟨t, hmem⟩
      cases (hone time hin).trans (hone time' hin').symm
      exact Nat.le_refl _

/-- A bucket that could be full again is dropped: what it has allowed has flown in by now. -/
theorem Sound.drop (h : Sound (some limiter) now log key rate a T) (hlaw : BucketLaw log)
    (hbound : Bounded key capacity rate log)
    (hfull : ∀ time, .allowed key limiter time ∈ log →
      limiter.capacity.toNat * second ≤ limiter.rate.toNat * (now - time))
    (hpast : ∀ e ∈ log, e.time ≤ now) : ∃ T, Sound none now log key rate a T := by
  have hall : allowedOf (fun key' limiter' time => decide (key' = key ∧ a ≤ time) &&
        !decide (none = some limiter')) log =
      allowedOf (fun key' _ time => decide (key' = key ∧ a ≤ time)) log :=
    allowedOf_congr fun _ _ _ _ => by simp
  have hsplit := allowedOf_split (fun key' _ time => decide (key' = key ∧ a ≤ time))
    (fun _ limiter' _ => decide (some limiter = some limiter')) log
  by_cases hzero : allowedOf (fun key' limiter' time => decide (key' = key ∧ a ≤ time) &&
      decide (some limiter = some limiter')) log = 0
  · refine ⟨T, h.from_le, h.until_le, ?_, fun _ _ _ _ hheld => by cases hheld⟩
    rw [hall, hsplit, hzero]
    exact h.dropped
  · obtain ⟨key', limiter', time, hin, hP⟩ := exists_of_allowedOf_ne hzero
    simp only [Bool.and_eq_true, decide_eq_true_eq, Option.some.injEq] at hP
    obtain ⟨⟨rfl, ha⟩, rfl⟩ := hP
    obtain ⟨last, hlast, hmax⟩ := exists_last ⟨time, hin⟩
    have hpresent := h.present_le hlaw hmax
    have hfrom := h.present limiter last hlast (Nat.le_trans ha (hmax time hin)) rfl
    have hrate := Nat.mul_le_mul_right (now - T) (hbound limiter time hin).2
    have hlater := flow_add limiter.rate.toNat hfrom (hpast _ hlast)
    have hflow := flow_add rate h.from_le h.until_le
    have hdropped := h.dropped
    have hfull := hfull last hlast
    refine ⟨now, Nat.le_trans h.from_le h.until_le, Nat.le_refl _, ?_,
      fun _ _ _ _ hheld => by cases hheld⟩
    rw [hall, hsplit, Nat.add_mul]
    omega

/-! ## One step -/

/-- What a step of a call does. -/
inductive Moved (m : Memory) : Task → Memory → Task → Prop
  | quiet (p q : Task) (hq : q.holds = none) : Moved m p m q
  | find (key : String) (rate capacity burst : UInt32) (limiter : InternalRateLimiter)
      (h : m.limiters.lookup key = some limiter) :
      Moved m (.resolved key rate capacity burst) m (.holding key limiter burst)
  | create (key : String) (rate capacity burst : UInt32) (h : m.limiters.lookup key = none) :
      Moved m (.resolved key rate capacity burst)
        { m with
          limiters := m.limiters.insert key ⟨m.lastAccessed.length, rate, capacity⟩
          lastAccessed := m.lastAccessed ++ [m.now] }
        (.holding key ⟨m.lastAccessed.length, rate, capacity⟩ burst)
  | touch (key : String) (limiter : InternalRateLimiter) (burst : UInt32) :
      Moved m (.holding key limiter burst) (touch m limiter) (.touched key limiter burst)
  | allow (key : String) (limiter : InternalRateLimiter) (burst : UInt32) (answer : Answer) :
      Moved m (.touched key limiter burst) { m with log := .allowed key limiter m.now :: m.log }
        (.finished answer)
  | failOpen (key : String) (limiter : InternalRateLimiter) (burst : UInt32) (answer : Answer) :
      Moved m (.touched key limiter burst) { m with log := .failedOpen key m.now :: m.log }
        (.finished answer)
  | sweep (maxIdle now : ℕ) (answer : Answer) :
      Moved m (.sweeping maxIdle now) (sweep m maxIdle now) (.finished answer)
  | update (defaults : UInt32 × UInt32) (p : Task) :
      Moved m p { m with defaults := defaults } (.finished .updated)

variable {w w' : World} {act : Act} {m m' : Memory} {p q : Task}

theorem moved_of_advance {input : Input} (h : advance input m p = some (m', q)) : Moved m p m' q := by
  unfold advance at h
  split at h
  · cases h
    exact .quiet _ _ rfl
  · cases h
    unfold getOrCreate
    split
    · exact .find _ _ _ _ _ ‹_›
    · exact .create _ _ _ _ ‹_›
  · cases h
    exact .touch _ _ _
  · cases h
    exact .allow _ _ _ _
  · cases h
    exact .quiet _ _ rfl
  · cases h
    exact .failOpen _ _ _ _
  · cases h
    exact .quiet _ _ rfl
  · cases h
    exact .sweep _ _ _
  · cases h
    exact .update _ _
  · cases h

/-- A step lets a call begin, moves one, or lets time pass. -/
theorem step_cases (h : step w act = some w') :
    (∃ call, act = .spawn call ∧ w' = ⟨w.shared, w.tasks ++ [.called call]⟩) ∨
    (∃ i input p m' q, act = .move i input ∧ w.tasks[i]? = some p ∧ Moved w.shared p m' q ∧
      w' = ⟨m', w.tasks.set i q⟩) ∨
    ∃ elapsed, act = .pass elapsed ∧
      w' = ⟨{ w.shared with now := w.shared.now + elapsed }, w.tasks⟩ := by
  rcases Crowd.step_cases h with ⟨call, hact, hw⟩ | ⟨i, a, p, m', q, hact, hp, hs, hw⟩ | ⟨e, hact, hw⟩
  · exact Or.inl ⟨call, hact, hw⟩
  · exact Or.inr (Or.inl ⟨i, a, p, m', q, hact, hp, moved_of_advance hs, hw⟩)
  · exact Or.inr (Or.inr ⟨e, hact, hw⟩)

/-! ## The invariant -/

structure RateInv (w : World) : Prop where
  past : ∀ e ∈ w.shared.log, e.time ≤ w.shared.now
  made : ∀ key limiter time, .allowed key limiter time ∈ w.shared.log →
    limiter.bucket < w.shared.lastAccessed.length
  known : ∀ key limiter, w.shared.limiters.lookup key = some limiter →
    limiter.bucket < w.shared.lastAccessed.length
  held : ∀ p ∈ w.tasks, ∀ key limiter, p.holds = some (key, limiter) →
    w.shared.limiters.lookup key = some limiter
  sound : BucketLaw w.shared.log → ∀ key capacity rate, Bounded key capacity rate w.shared.log →
    ∀ a ≤ w.shared.now, ∃ T,
      Sound (w.shared.limiters.lookup key) w.shared.now w.shared.log key rate a T
  settled : BucketLaw w.shared.log → ∀ key capacity rate, Bounded key capacity rate w.shared.log →
    ∀ a t, allowedIn key a t w.shared.log * second ≤ capacity * second + rate * t

/-- Nothing has happened to the limiters and the log. -/
theorem RateInv.frame (h : RateInv w) {tasks : List Task} (hnow : m'.now = w.shared.now)
    (hlimiters : m'.limiters = w.shared.limiters) (hlog : m'.log = w.shared.log)
    (hlength : m'.lastAccessed.length = w.shared.lastAccessed.length)
    (hheld : ∀ p ∈ tasks, ∀ key limiter, p.holds = some (key, limiter) →
      w.shared.limiters.lookup key = some limiter) : RateInv ⟨m', tasks⟩ where
  past := by
    rw [hnow, hlog]
    exact h.past
  made := by
    rw [hlog, hlength]
    exact h.made
  known := by
    rw [hlimiters, hlength]
    exact h.known
  held := by
    rw [hlimiters]
    exact hheld
  sound := by
    rw [hnow, hlimiters, hlog]
    exact h.sound
  settled := by
    rw [hlog]
    exact h.settled

theorem RateInv.held_set (h : RateInv w) {i : ℕ} (hq : ∀ key limiter, q.holds = some (key, limiter) →
    w.shared.limiters.lookup key = some limiter) :
    ∀ p ∈ w.tasks.set i q, ∀ key limiter, p.holds = some (key, limiter) →
      w.shared.limiters.lookup key = some limiter :=
  Crowd.forall_mem_set h.held hq

/-- A bucket that has not been asked yet takes its place. -/
theorem Sound.create (h : Sound none now log key rate a T)
    (hnew : ∀ key' time, .allowed key' limiter time ∉ log) :
    Sound (some limiter) now log key rate a T where
  from_le := h.from_le
  until_le := h.until_le
  dropped := by
    rw [allowedOf_congr fun key' limiter' time hin => ?_]
    · exact h.dropped
    · have hne : limiter ≠ limiter' := fun heq => hnew key' time (heq ▸ hin)
      simp [hne]
  present limiter' time hin _ hheld := by
    cases hheld
    exact absurd hin (hnew key time)

theorem RateInv.create (h : RateInv w) {i : ℕ} {rate capacity burst : UInt32}
    (hnone : w.shared.limiters.lookup key = none) :
    RateInv ⟨{ w.shared with
        limiters := w.shared.limiters.insert key ⟨w.shared.lastAccessed.length, rate, capacity⟩
        lastAccessed := w.shared.lastAccessed ++ [w.shared.now] },
      w.tasks.set i (.holding key ⟨w.shared.lastAccessed.length, rate, capacity⟩ burst)⟩ := by
  have hlookup : ∀ key' limiter, w.shared.limiters.lookup key' = some limiter →
      (w.shared.limiters.insert key ⟨w.shared.lastAccessed.length, rate, capacity⟩).lookup key' =
        some limiter := by
    intro key' limiter hsome
    rw [AList.lookup_insert_ne, hsome]
    intro heq
    rw [heq, hnone] at hsome
    cases hsome
  refine ⟨h.past, fun key' limiter time hin => ?_, fun key' limiter hsome => ?_, ?_,
    fun hlaw key' C R hbound a ha => ?_, h.settled⟩
  · simp only [List.length_append, List.length_singleton]
    exact Nat.lt_succ_of_lt (h.made key' limiter time hin)
  · simp only [List.length_append, List.length_singleton]
    by_cases heq : key' = key
    · subst heq
      rw [AList.lookup_insert] at hsome
      cases hsome
      exact Nat.lt_succ_self _
    · rw [AList.lookup_insert_ne heq] at hsome
      exact Nat.lt_succ_of_lt (h.known key' limiter hsome)
  · refine Crowd.forall_mem_set (fun p hp key' limiter hholds =>
      hlookup key' limiter (h.held p hp key' limiter hholds)) fun key' limiter hholds => ?_
    cases hholds
    exact AList.lookup_insert _
  · obtain ⟨T, hsound⟩ := h.sound hlaw key' C R hbound a ha
    refine ⟨T, ?_⟩
    by_cases heq : key' = key
    · subst heq
      rw [hnone] at hsound
      rw [AList.lookup_insert]
      refine hsound.create fun key'' time hin => ?_
      exact Nat.lt_irrefl _ (h.made _ _ _ hin)
    · rw [AList.lookup_insert_ne heq]
      exact hsound

theorem allowedIn_le_since (key : String) (a t : ℕ) (log : List Event) : allowedIn key a t log ≤
    allowedOf (fun key' _ time => decide (key' = key ∧ a ≤ time)) log :=
  allowedOf_le fun key' limiter time _ hP => by
    simp only [decide_eq_true_eq] at hP ⊢
    exact ⟨hP.1, hP.2.1⟩

/-- The present bucket allows a request. -/
theorem Sound.allow (h : Sound held now log key rate a T) {key' : String}
    (hheld : key' = key → held = some limiter) :
    Sound held now (.allowed key' limiter now :: log) key rate a T where
  from_le := h.from_le
  until_le := h.until_le
  dropped := by
    rw [allowedOf, if_neg, Nat.add_zero]
    · exact h.dropped
    · intro hP
      simp only [Bool.and_eq_true, decide_eq_true_eq, Bool.not_eq_true',
        decide_eq_false_iff_not] at hP
      exact hP.2 (hheld hP.1.1)
  present limiter' time hin ha hsome := by
    rcases List.mem_cons.mp hin with heq | hin
    · cases heq
      exact h.until_le
    · exact h.present limiter' time hin ha hsome

theorem RateInv.allow (h : RateInv w) {i : ℕ} {burst : UInt32} {answer : Answer}
    (hp : w.tasks[i]? = some (.touched key limiter burst)) :
    RateInv ⟨{ w.shared with log := .allowed key limiter w.shared.now :: w.shared.log },
      w.tasks.set i (.finished answer)⟩ := by
  have hlookup := h.held _ (List.mem_of_getElem? hp) key limiter rfl
  have hpast : ∀ e ∈ Event.allowed key limiter w.shared.now :: w.shared.log,
      e.time ≤ w.shared.now := List.forall_mem_cons.mpr ⟨Nat.le_refl _, h.past⟩
  have hsound : BucketLaw (.allowed key limiter w.shared.now :: w.shared.log) → ∀ key' C R,
      Bounded key' C R (.allowed key limiter w.shared.now :: w.shared.log) →
      ∀ a ≤ w.shared.now, ∃ T, Sound (w.shared.limiters.lookup key') w.shared.now
        (.allowed key limiter w.shared.now :: w.shared.log) key' R a T := by
    intro hlaw key' C R hbound a ha
    obtain ⟨T, hT⟩ := h.sound hlaw.of_cons key' C R hbound.of_cons a ha
    exact ⟨T, hT.allow fun heq => heq ▸ hlookup⟩
  refine ⟨hpast, fun key' limiter' time hin => ?_, h.known,
    h.held_set fun _ _ hnone => (by cases hnone), hsound, fun hlaw key' C R hbound a t => ?_⟩
  · rcases List.mem_cons.mp hin with heq | hin
    · cases heq
      exact h.known key limiter hlookup
    · exact h.made key' limiter' time hin
  · by_cases hwindow : a ≤ w.shared.now ∧ w.shared.now ≤ a + t
    · obtain ⟨T, hT⟩ := hsound hlaw key' C R hbound a hwindow.1
      have htotal := hT.total_le hlaw hbound hpast
      have hsince := Nat.mul_le_mul_right second (allowedIn_le_since key' a t
        (.allowed key limiter w.shared.now :: w.shared.log))
      have hflow : R * (w.shared.now - a) ≤ R * t := Nat.mul_le_mul_left _ (by omega)
      exact Nat.le_trans hsince (Nat.le_trans htotal (Nat.add_le_add_left hflow _))
    · have hold := h.settled hlaw.of_cons key' C R hbound.of_cons a t
      rw [allowedIn, allowedOf, if_neg, Nat.add_zero]
      · exact hold
      · simp only [decide_eq_true_eq]
        exact fun hin => hwindow hin.2

theorem RateInv.failOpen (h : RateInv w) {i : ℕ} {answer : Answer} :
    RateInv ⟨{ w.shared with log := .failedOpen key w.shared.now :: w.shared.log },
      w.tasks.set i (.finished answer)⟩ := by
  have hmem : ∀ {key' limiter time}, .allowed key' limiter time ∈
      Event.failedOpen key w.shared.now :: w.shared.log → .allowed key' limiter time ∈ w.shared.log :=
    fun hin => (List.mem_cons.mp hin).resolve_left fun heq => by cases heq
  refine ⟨List.forall_mem_cons.mpr ⟨Nat.le_refl _, h.past⟩, fun _ _ _ hin => h.made _ _ _ (hmem hin),
    h.known, h.held_set fun _ _ hnone => (by cases hnone), fun hlaw key' C R hbound a ha => ?_,
    fun hlaw key' C R hbound a t => h.settled hlaw.of_cons key' C R hbound.of_cons a t⟩
  obtain ⟨T, hT⟩ := h.sound hlaw.of_cons key' C R hbound.of_cons a ha
  exact ⟨T, hT.from_le, hT.until_le, hT.dropped, fun _ _ hin => hT.present _ _ (hmem hin)⟩

/-- A cleanup drops buckets that could be full again. -/
theorem RateInv.sweep (h : RateInv w) {i maxIdle reading : ℕ} {answer : Answer}
    (hC : Refilled w (.sweeping maxIdle reading)) :
    RateInv ⟨sweep w.shared maxIdle reading, w.tasks.set i (.finished answer)⟩ := by
  have hlookup : ∀ key, (RateLimiter.sweep w.shared maxIdle reading).limiters.lookup key =
      (w.shared.limiters.lookup key).filter fun limiter =>
        !idle w.shared maxIdle reading limiter := fun key => AList.lookup_keep
  refine ⟨h.past, h.made, fun key limiter hsome => ?_, ?_, fun hlaw key C R hbound a ha => ?_,
    h.settled⟩
  · rw [hlookup, Option.filter_eq_some_iff] at hsome
    exact h.known key limiter hsome.1
  · refine Crowd.forall_mem_set (fun p hp key limiter hholds => ?_) fun _ _ hnone => (by cases hnone)
    have hsome := h.held p hp key limiter hholds
    rw [hlookup, Option.filter_eq_some_iff]
    refine ⟨hsome, ?_⟩
    rw [Bool.not_eq_true', ← Bool.not_eq_true]
    exact fun hidle => (hC key limiter hsome hidle).1 p hp hholds
  · obtain ⟨T, hT⟩ := h.sound hlaw key C R hbound a ha
    rw [hlookup]
    cases hsome : w.shared.limiters.lookup key with
    | none =>
      rw [hsome] at hT
      exact ⟨T, hT⟩
    | some limiter =>
      rw [hsome] at hT
      cases hidle : idle w.shared maxIdle reading limiter with
      | false =>
        refine ⟨T, ?_⟩
        rw [Option.filter_some, hidle]
        exact hT
      | true =>
        rw [Option.filter_some, hidle]
        exact hT.drop hlaw hbound (hC key limiter hsome hidle).2 h.past

theorem RateInv.pass (h : RateInv w) (elapsed : ℕ) :
    RateInv ⟨{ w.shared with now := w.shared.now + elapsed }, w.tasks⟩ := by
  refine ⟨fun e he => Nat.le_add_right_of_le (h.past e he), h.made, h.known, h.held,
    fun hlaw key C R hbound a ha => ?_, h.settled⟩
  by_cases hnow : a ≤ w.shared.now
  · obtain ⟨T, hT⟩ := h.sound hlaw key C R hbound a hnow
    exact ⟨T, hT.from_le, Nat.le_add_right_of_le hT.until_le, hT.dropped, hT.present⟩
  -- nothing has happened since a reading that the clock has just passed
  · refine ⟨a, Nat.le_refl _, ha, ?_, fun limiter time hin htime => ?_⟩
    · rw [Nat.sub_self, Nat.mul_zero, Nat.le_zero, Nat.mul_eq_zero]
      refine Or.inl (of_not_not fun hne => ?_)
      obtain ⟨key', limiter, time, hin, hP⟩ := exists_of_allowedOf_ne hne
      simp only [Bool.and_eq_true, decide_eq_true_eq] at hP
      have htime : time ≤ w.shared.now := h.past _ hin
      omega
    · have : time ≤ w.shared.now := h.past _ hin
      omega

theorem rateInv_start (now : ℕ) (defaultRps defaultBurst : UInt32) :
    RateInv (start now defaultRps defaultBurst) where
  past e he := by cases he
  made key limiter time hin := by cases hin
  known key limiter hsome := by cases hsome
  held p hp := by cases hp
  sound _ key capacity rate _ a ha :=
    ⟨a, Nat.le_refl _, ha, by simp [start, allowedOf], fun _ _ hin => by cases hin⟩
  settled _ key capacity rate _ a t := by
    rw [allowedIn, start, allowedOf, Nat.zero_mul]
    exact Nat.zero_le _

theorem rateInv_step (h : RateInv w) (hC : Crowd.Guard Refilled w act) (hs : step w act = some w') :
    RateInv w' := by
  rcases step_cases hs with ⟨call, rfl, rfl⟩ | ⟨i, input, p, m', q, rfl, hp, hmove, rfl⟩ | ⟨e, rfl, rfl⟩
  · exact h.frame rfl rfl rfl rfl
      (Crowd.forall_mem_snoc h.held fun _ _ hnone => (by cases hnone))
  · cases hmove with
    | quiet _ _ hq =>
      exact h.frame rfl rfl rfl rfl (h.held_set fun _ _ hsome => (by rw [hq] at hsome; cases hsome))
    | find key rate capacity burst limiter hsome =>
      exact h.frame rfl rfl rfl rfl (h.held_set fun _ _ hholds => (by cases hholds; exact hsome))
    | create key rate capacity burst hnone => exact h.create hnone
    | touch key limiter burst =>
      have hsome := h.held _ (List.mem_of_getElem? hp) key limiter rfl
      exact h.frame rfl rfl rfl List.length_set
        (h.held_set fun _ _ hholds => (by cases hholds; exact hsome))
    | allow key limiter burst answer => exact h.allow hp
    | failOpen key limiter burst answer => exact h.failOpen
    | sweep maxIdle now answer => exact h.sweep (hC _ hp)
    | update defaults =>
      exact h.frame rfl rfl rfl rfl (h.held_set fun _ _ hnone => (by cases hnone))
  · exact h.pass e

/-- **Housekeeping does not renew a budget** when it drops only what no check holds and what could
be full again: in any time `t` the buckets of a key allow at most one burst and what flows in. -/
theorem rate_kept {now : ℕ} {defaultRps defaultBurst : UInt32}
    (h : Reaches step (Crowd.Guard Refilled) (start now defaultRps defaultBurst) w)
    (hlaw : BucketLaw w.shared.log) (hbound : Bounded key capacity rate w.shared.log) (a t : ℕ) :
    allowedIn key a t w.shared.log * second ≤ capacity * second + rate * t :=
  (h.invariant (I := RateInv) (rateInv_start now defaultRps defaultBurst)
    fun _ _ _ hi hC hs => rateInv_step hi hC hs).settled hlaw key capacity rate hbound a t

def check (key : String) : Act := .spawn (.checkRateLimit key none none)

/-- Two buckets of one token each. -/
theorem bucketLaw_two {l l' : InternalRateLimiter} {t t' : ℕ} (hne : l ≠ l')
    (hl : 1 ≤ l.capacity.toNat) (hl' : 1 ≤ l'.capacity.toNat) :
    BucketLaw [.allowed key l t, .allowed key l' t'] := by
  intro limiter a d
  have hone : allowedBy limiter a d [.allowed key l t, .allowed key l' t'] ≤
      limiter.capacity.toNat := by
    simp only [allowedBy, allowedOf, decide_eq_true_eq]
    by_cases h : l = limiter
    · have h' : ¬ l' = limiter := fun h' => hne (h.trans h'.symm)
      simp only [h', false_and, if_false]
      rw [h] at hl
      split <;> omega
    · simp only [h, false_and, if_false]
      split
      · rename_i hP
        rw [← hP.1]
        omega
      · omega
  exact Nat.le_add_right_of_le (Nat.mul_le_mul_right second hone)

theorem bounded_two {l l' : InternalRateLimiter} {t t' : ℕ}
    (hl : l.capacity.toNat ≤ capacity ∧ l.rate.toNat ≤ rate)
    (hl' : l'.capacity.toNat ≤ capacity ∧ l'.rate.toNat ≤ rate) :
    Bounded key capacity rate [.allowed key l t, .allowed key l' t'] := by
  intro limiter time hin
  rcases List.mem_cons.mp hin with heq | hin
  · cases heq
    exact hl
  · cases List.mem_singleton.mp hin
    exact hl'

theorem refilled_single {maxIdle reading : ℕ}
    (hlimiters : w.shared.limiters = (∅ : AList fun _ : String => InternalRateLimiter).insert key limiter)
    (hheld : ∀ p ∈ w.tasks, p.holds = none)
    (hfull : ∀ time, .allowed key limiter time ∈ w.shared.log →
      limiter.capacity.toNat * second ≤ limiter.rate.toNat * (w.shared.now - time)) :
    Refilled w (.sweeping maxIdle reading) := by
  intro key' limiter' hsome _
  refine ⟨fun p hp => by simp [hheld p hp], ?_⟩
  rw [hlimiters] at hsome
  by_cases heq : key' = key
  · subst heq
    rw [AList.lookup_insert] at hsome
    cases hsome
    exact hfull
  · rw [AList.lookup_insert_ne heq] at hsome
    cases hsome

/-- A cleanup after two seconds, when a bucket of one token per second is full again. -/
theorem rate_kept_after_cleanup : ∃ w,
    Reaches step (Crowd.Guard Refilled) (start 0 1 1) w ∧
    w.shared.log = [.allowed "k" ⟨1, 1, 1⟩ 2000000000, .allowed "k" ⟨0, 1, 1⟩ 0] ∧
    allowedIn "k" 0 2000000000 w.shared.log * second ≤ 1 * second + 1 * 2000000000 := by
  have hrefilled : Refilled ⟨⟨2000000000, (1, 1), (∅ : AList _).insert "k" ⟨0, 1, 1⟩, [0],
      [.allowed "k" ⟨0, 1, 1⟩ 0]⟩, [.finished (.checked ⟨true, 0, 1, none⟩),
        .sweeping 1000000000 2000000000]⟩ (.sweeping 1000000000 2000000000) := by
    refine refilled_single rfl (by simp [Task.holds]) fun time hin => ?_
    cases List.mem_singleton.mp hin
    decide
  have hrun : Reaches step (Crowd.Guard Refilled) (start 0 1 1) _ :=
    Reaches.cons (a := check "k") trivial rfl <|
    Reaches.cons (a := .move 0 .run) (fun p hp => by cases hp; trivial) rfl <|
    Reaches.cons (a := .move 0 .run) (fun p hp => by cases hp; trivial) rfl <|
    Reaches.cons (a := .move 0 .run) (fun p hp => by cases hp; trivial) rfl <|
    Reaches.cons (a := .move 0 (.answered true 0)) (fun p hp => by cases hp; trivial) rfl <|
    Reaches.cons (a := .pass 2000000000) trivial rfl <|
    Reaches.cons (a := .spawn (.cleanup 1000000000)) trivial rfl <|
    Reaches.cons (a := .move 1 .run) (fun p hp => by cases hp; trivial) rfl <|
    Reaches.cons (a := .move 1 .run) (fun p hp => by cases hp; exact hrefilled) rfl <|
    Reaches.cons (a := check "k") trivial rfl <|
    Reaches.cons (a := .move 2 .run) (fun p hp => by cases hp; trivial) rfl <|
    Reaches.cons (a := .move 2 .run) (fun p hp => by cases hp; trivial) rfl <|
    Reaches.cons (a := .move 2 .run) (fun p hp => by cases hp; trivial) rfl <|
    Reaches.single (a := .move 2 (.answered true 0)) (fun p hp => by cases hp; trivial) rfl
  exact ⟨_, hrun, rfl, rate_kept hrun (bucketLaw_two (by decide) (by decide) (by decide))
    (bounded_two (by decide) (by decide)) 0 _⟩

/-- One bucket asked twice, a second apart, and another one in between. -/
theorem bucketLaw_three : BucketLaw [.allowed "k" ⟨0, 10, 1⟩ 1000000000,
    .allowed "k" ⟨1, 10, 1⟩ 1000000000, .allowed "k" ⟨0, 10, 1⟩ 0] := by
  intro limiter a t
  simp only [allowedBy, allowedOf, decide_eq_true_eq]
  by_cases h0 : ⟨0, 10, 1⟩ = limiter
  · subst h0
    have hcapacity : (1 : UInt32).toNat = 1 := rfl
    have hrate : (10 : UInt32).toNat = 10 := rfl
    by_cases hfirst : a = 0
    · by_cases hlast : 1000000000 ≤ t
      · simp [hfirst, hlast, hcapacity, hrate, second]
        omega
      · simp [hfirst, hlast, hcapacity, hrate, second]
    · by_cases hlast : a ≤ 1000000000 ∧ 1000000000 ≤ a + t
      · simp [hfirst, hlast, hcapacity, hrate, second]
      · simp [hfirst, hlast]
  · by_cases h1 : ⟨1, 10, 1⟩ = limiter
    · subst h1
      have hcapacity : (1 : UInt32).toNat = 1 := rfl
      by_cases hlast : a ≤ 1000000000 ∧ 1000000000 ≤ a + t
      · simp [hlast, hcapacity, second]
      · simp [hlast]
    · simp [h0, h1]

/-- Ten tokens per second, and a burst of one. A cleanup of everything idle for 5 ms comes
after 6 ms; a cleanup drops a bucket that a check has just looked up; a bucket fails. -/
theorem budget_renewed :
    (∃ w, Reaches step Free (start 0 10 1) w ∧ BucketLaw w.shared.log ∧
      Bounded "k" 1 10 w.shared.log ∧
      ¬ allowedIn "k" 0 6000000 w.shared.log * second ≤ 1 * second + 10 * 6000000) ∧
    (∃ w, Reaches step Free (start 0 10 1) w ∧ BucketLaw w.shared.log ∧
      Bounded "k" 1 10 w.shared.log ∧
      ¬ allowedIn "k" 1000000000 0 w.shared.log * second ≤ 1 * second + 10 * 0) ∧
    ∃ w, Reaches step Free (start 0 10 1) w ∧ w.shared.now = 0 ∧ w.shared.log = [
        .failedOpen "k" 0, .failedOpen "k" 0] ∧
      w.tasks = [.finished (.checked ⟨true, 1, 1, none⟩), .finished (.checked ⟨true, 1, 1, none⟩)] := by
  have hearly : Reaches step Free (start 0 10 1) _ :=
    Reaches.cons (a := check "k") trivial rfl <|
    Reaches.cons (a := .move 0 .run) trivial rfl <|
    Reaches.cons (a := .move 0 .run) trivial rfl <|
    Reaches.cons (a := .move 0 .run) trivial rfl <|
    Reaches.cons (a := .move 0 (.answered true 0)) trivial rfl <|
    Reaches.cons (a := .pass 6000000) trivial rfl <|
    Reaches.cons (a := .spawn (.cleanup 5000000)) trivial rfl <|
    Reaches.cons (a := .move 1 .run) trivial rfl <|
    Reaches.cons (a := .move 1 .run) trivial rfl <|
    Reaches.cons (a := check "k") trivial rfl <|
    Reaches.cons (a := .move 2 .run) trivial rfl <|
    Reaches.cons (a := .move 2 .run) trivial rfl <|
    Reaches.cons (a := .move 2 .run) trivial rfl <|
    Reaches.single (a := .move 2 (.answered true 0)) trivial rfl
  have hheld : Reaches step Free (start 0 10 1) _ :=
    Reaches.cons (a := check "k") trivial rfl <|
    Reaches.cons (a := .move 0 .run) trivial rfl <|
    Reaches.cons (a := .move 0 .run) trivial rfl <|
    Reaches.cons (a := .move 0 .run) trivial rfl <|
    Reaches.cons (a := .move 0 (.answered true 0)) trivial rfl <|
    Reaches.cons (a := .pass 1000000000) trivial rfl <|
    Reaches.cons (a := check "k") trivial rfl <|
    Reaches.cons (a := .move 1 .run) trivial rfl <|
    Reaches.cons (a := .move 1 .run) trivial rfl <|
    Reaches.cons (a := .spawn (.cleanup 500000000)) trivial rfl <|
    Reaches.cons (a := .move 2 .run) trivial rfl <|
    Reaches.cons (a := .move 2 .run) trivial rfl <|
    Reaches.cons (a := check "k") trivial rfl <|
    Reaches.cons (a := .move 3 .run) trivial rfl <|
    Reaches.cons (a := .move 3 .run) trivial rfl <|
    Reaches.cons (a := .move 3 .run) trivial rfl <|
    Reaches.cons (a := .move 3 (.answered true 0)) trivial rfl <|
    Reaches.cons (a := .move 1 .run) trivial rfl <|
    Reaches.single (a := .move 1 (.answered true 0)) trivial rfl
  have hfailed : Reaches step Free (start 0 10 1) _ :=
    Reaches.cons (a := check "k") trivial rfl <|
    Reaches.cons (a := check "k") trivial rfl <|
    Reaches.cons (a := .move 0 .run) trivial rfl <|
    Reaches.cons (a := .move 0 .run) trivial rfl <|
    Reaches.cons (a := .move 0 .run) trivial rfl <|
    Reaches.cons (a := .move 0 .failed) trivial rfl <|
    Reaches.cons (a := .move 1 .run) trivial rfl <|
    Reaches.cons (a := .move 1 .run) trivial rfl <|
    Reaches.cons (a := .move 1 .run) trivial rfl <|
    Reaches.single (a := .move 1 .failed) trivial rfl
  refine ⟨⟨_, hearly, bucketLaw_two (by decide) (by decide) (by decide),
    bounded_two (by decide) (by decide), by decide⟩, ⟨_, hheld, bucketLaw_three, ?_, by decide⟩,
    ⟨_, hfailed, rfl, rfl, rfl⟩⟩
  intro limiter time hin
  rcases List.mem_cons.mp hin with heq | hin
  · cases heq
    decide
  · exact bounded_two (by decide) (by decide) limiter time hin

end RateLimiter

end NebulaId
