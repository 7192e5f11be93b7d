import NebulaId.Machine.Crowd

/-!
# Critical sections under a mutex

Tasks share a resource behind a mutex. A task takes the mutex when nobody holds it, goes through
its critical section one operation at a time, and leaves the mutex with its answer. Between two
operations of one task any other task may move, and new tasks may come.

* `Performs`: what a critical section does to the resource when nobody interferes.
* `Serialised.of_reaches`: in every state reached the resource and the answers are those of the
  requests carried out whole, one after another, in the order in which the tasks left the mutex.
-/

namespace Machine

/-- `π` are the places inside the section; a step goes to the next place or leaves with an
answer. -/
structure CriticalSection (σ π ρ β : Type*) where
  enter : ρ → π
  step : ρ → σ → π → σ × (π ⊕ β)

inductive MutexTask (π ρ β : Type*) where
  | waiting (request : ρ)
  | inside (request : ρ) (point : π)
  | done (request : ρ) (answer : β)

def MutexTask.request {π ρ β : Type*} : MutexTask π ρ β → ρ
  | waiting r => r
  | inside r _ => r
  | done r _ => r

/-- The resource and its mutex; `history` are the requests that are through. -/
structure Guarded (σ ρ β : Type*) where
  resource : σ
  locked : Bool
  history : List (ρ × β)

def Guarded.new {σ ρ β : Type*} (resource : σ) : Guarded σ ρ β := ⟨resource, false, []⟩

variable {σ π ρ β : Type*}

namespace CriticalSection

def move (sec : CriticalSection σ π ρ β) (g : Guarded σ ρ β) :
    MutexTask π ρ β → Option (Guarded σ ρ β × MutexTask π ρ β)
  | .waiting r =>
    if g.locked then none else some ({ g with locked := true }, .inside r (sec.enter r))
  | .inside r p =>
    match sec.step r g.resource p with
    | (m, .inl q) => some ({ g with resource := m }, .inside r q)
    | (m, .inr b) => some (⟨m, false, g.history ++ [(r, b)]⟩, .done r b)
  | .done _ _ => none

def program (sec : CriticalSection σ π ρ β) :
    Program (Guarded σ ρ β) (MutexTask π ρ β) ρ Unit Empty where
  start := .waiting
  step _ := sec.move
  pass e := e.elim

/-- The section does `whole` at once; `At r m m' p`: it stands at `p`, and has made `m'` of the
resource `m` so far. -/
structure Performs (sec : CriticalSection σ π ρ β) (whole : ρ → σ → β × σ)
    (At : ρ → σ → σ → π → Prop) : Prop where
  enter : ∀ r m, At r m m (sec.enter r)
  next : ∀ {r m m' m'' p q}, At r m m' p → sec.step r m' p = (m'', .inl q) → At r m m'' q
  leave : ∀ {r m m' m'' p b}, At r m m' p → sec.step r m' p = (m'', .inr b) → whole r m = (b, m'')

variable {sec : CriticalSection σ π ρ β} {g g' : Guarded σ ρ β} {t t' : MutexTask π ρ β}

/-- A task takes the mutex, goes on inside, or leaves. -/
theorem move_cases (h : sec.move g t = some (g', t')) :
    (∃ r, t = .waiting r ∧ g.locked = false ∧ g' = { g with locked := true } ∧
      t' = .inside r (sec.enter r)) ∨
    (∃ r p m q, t = .inside r p ∧ sec.step r g.resource p = (m, .inl q) ∧
      g' = { g with resource := m } ∧ t' = .inside r q) ∨
    ∃ r p m b, t = .inside r p ∧ sec.step r g.resource p = (m, .inr b) ∧
      g' = ⟨m, false, g.history ++ [(r, b)]⟩ ∧ t' = .done r b := by
  cases t with
  | waiting r =>
    simp only [move] at h
    split at h
    · cases h
    · rename_i hfree
      cases h
      exact Or.inl ⟨r, rfl, Bool.eq_false_iff.mpr hfree, rfl, rfl⟩
  | inside r p =>
    simp only [move] at h
    split at h
    · rename_i m q hstep
      cases h
      exact Or.inr (Or.inl ⟨r, p, m, q, rfl, hstep, rfl, rfl⟩)
    · rename_i m b hstep
      cases h
      exact Or.inr (Or.inr ⟨r, p, m, b, rfl, hstep, rfl, rfl⟩)
  | done r b => cases h

end CriticalSection

/-- The requests, carried out one after another on `start`, have these answers and end in this
resource. -/
inductive Serial (whole : ρ → σ → β × σ) (start : σ) : List (ρ × β) → σ → Prop
  | nil : Serial whole start [] start
  | snoc {history : List (ρ × β)} {m m' : σ} {r : ρ} {b : β} (before : Serial whole start history m)
      (last : whole r m = (b, m')) : Serial whole start (history ++ [(r, b)]) m'

/-- Only such requests come. -/
def SpawnsOnly {ε α κ : Type*} (Ok : ρ → Prop) (_ : κ) : CrowdAct ρ α ε → Prop
  | .spawn r => Ok r
  | _ => True

instance {ε α κ : Type*} {Ok : ρ → Prop} [DecidablePred Ok] (w : κ) (act : CrowdAct ρ α ε) :
    Decidable (SpawnsOnly Ok w act) :=
  match act with
  | .spawn r => inferInstanceAs (Decidable (Ok r))
  | .move _ _ => inferInstanceAs (Decidable True)
  | .pass _ => inferInstanceAs (Decidable True)

/-- Task number `i` is inside. -/
def InsideAt (w : Crowd (Guarded σ ρ β) (MutexTask π ρ β)) (i : ℕ) (r : ρ) (p : π) : Prop :=
  w.tasks[i]? = some (MutexTask.inside r p)

/-- One task is inside while the mutex is held, and none otherwise; the resource it works on comes
from the history, one request after another. -/
structure Serialised (whole : ρ → σ → β × σ) (At : ρ → σ → σ → π → Prop) (Ok : ρ → Prop)
    (start : σ) (w : Crowd (Guarded σ ρ β) (MutexTask π ρ β)) : Prop where
  asked : ∀ t ∈ w.tasks, Ok t.request
  answered : ∀ e ∈ w.shared.history, Ok e.1
  held : ∀ {i r p}, InsideAt w i r p → w.shared.locked = true
  occupied : w.shared.locked = true → ∃ i r p, InsideAt w i r p
  alone : ∀ {i j r p r' p'}, InsideAt w i r p → InsideAt w j r' p' → i = j
  order : ∃ m, Serial whole start w.shared.history m ∧
    (w.shared.locked = false → w.shared.resource = m) ∧
    ∀ {i r p}, InsideAt w i r p → At r m w.shared.resource p

section Serialised

variable {sec : CriticalSection σ π ρ β} {whole : ρ → σ → β × σ} {At : ρ → σ → σ → π → Prop}
  {Ok : ρ → Prop} {start : σ} {w w' : Crowd (Guarded σ ρ β) (MutexTask π ρ β)} {i j : ℕ}

/-- A task that is inside after a move is the one that has moved, or was inside before. -/
theorem insideAt_set {g : Guarded σ ρ β} {t : MutexTask π ρ β} {r : ρ} {p : π}
    (h : InsideAt ⟨g, w.tasks.set i t⟩ j r p) :
    (j = i ∧ t = .inside r p) ∨ (j ≠ i ∧ InsideAt w j r p) := by
  unfold InsideAt at h
  by_cases hji : j = i
  · subst hji
    have hlt : j < (w.tasks.set j t).length := (List.getElem?_eq_some_iff.mp h).1
    rw [List.length_set] at hlt
    rw [List.getElem?_set_self hlt] at h
    exact Or.inl ⟨rfl, Option.some.inj h⟩
  · rw [List.getElem?_set_ne (Ne.symm hji)] at h
    exact Or.inr ⟨hji, h⟩

theorem insideAt_set_self {g : Guarded σ ρ β} {t : MutexTask π ρ β} {r : ρ} {p : π}
    (ht : w.tasks[i]? = some t) : InsideAt ⟨g, w.tasks.set i (.inside r p)⟩ i r p :=
  List.getElem?_set_self (List.getElem?_eq_some_iff.mp ht).1

theorem insideAt_snoc {g : Guarded σ ρ β} {r r' : ρ} {p : π}
    (h : InsideAt ⟨g, w.tasks ++ [.waiting r']⟩ j r p) : InsideAt w j r p := by
  unfold InsideAt at h
  rcases Nat.lt_or_ge j w.tasks.length with hlt | hge
  · rwa [List.getElem?_append_left hlt] at h
  · rw [List.getElem?_append_right hge] at h
    have hlast := List.mem_of_getElem? h
    cases List.mem_singleton.mp hlast

namespace Serialised

theorem new (resource : σ) : Serialised whole At Ok resource ⟨Guarded.new resource, []⟩ where
  asked t ht := absurd ht List.not_mem_nil
  answered e he := absurd he List.not_mem_nil
  held h := by cases h
  occupied h := by cases h
  alone h := by cases h
  order := ⟨resource, .nil, fun _ => rfl, fun h => by cases h⟩

theorem spawn (h : Serialised whole At Ok start w) {r : ρ} (hr : Ok r) :
    Serialised whole At Ok start ⟨w.shared, w.tasks ++ [.waiting r]⟩ where
  asked := Crowd.forall_mem_snoc h.asked hr
  answered := h.answered
  held hin := h.held (insideAt_snoc hin)
  occupied hlocked := by
    obtain ⟨i, r', p, hin⟩ := h.occupied hlocked
    have hlt : i < w.tasks.length := (List.getElem?_eq_some_iff.mp hin).1
    exact ⟨i, r', p, (List.getElem?_append_left hlt).trans hin⟩
  alone hin hin' := h.alone (insideAt_snoc hin) (insideAt_snoc hin')
  order := by
    obtain ⟨m, hserial, hfree, hat⟩ := h.order
    exact ⟨m, hserial, hfree, fun hin => hat (insideAt_snoc hin)⟩

/-- Nobody is inside a free mutex. -/
theorem vacant (h : Serialised whole At Ok start w) (hfree : w.shared.locked = false) {r : ρ}
    {p : π} : ¬ InsideAt w i r p := by
  intro hin
  rw [h.held hin] at hfree
  cases hfree

theorem lock (hp : sec.Performs whole At) (h : Serialised whole At Ok start w)
    (hfree : w.shared.locked = false) {r : ρ} (ht : w.tasks[i]? = some (.waiting r)) :
    Serialised whole At Ok start
      ⟨{ w.shared with locked := true }, w.tasks.set i (.inside r (sec.enter r))⟩ := by
  have honly : ∀ {j r' p},
      InsideAt ⟨{ w.shared with locked := true }, w.tasks.set i (.inside r (sec.enter r))⟩ j r' p →
        j = i ∧ r' = r ∧ p = sec.enter r := by
    intro j r' p hin
    rcases insideAt_set hin with ⟨hji, heq⟩ | ⟨-, hold⟩
    · cases heq
      exact ⟨hji, rfl, rfl⟩
    · exact absurd hold (h.vacant hfree)
  have hok : Ok r := h.asked _ (List.mem_of_getElem? ht)
  obtain ⟨m, hserial, hres, -⟩ := h.order
  refine ⟨Crowd.forall_mem_set h.asked hok, h.answered, fun _ => rfl,
    fun _ => ⟨i, r, _, insideAt_set_self ht⟩, ?_, m, hserial, fun hopen => ?_, ?_⟩
  · intro j k _ _ _ _ hin hin'
    exact (honly hin).1.trans (honly hin').1.symm
  · cases hopen
  · intro j r' p hin
    obtain ⟨-, rfl, rfl⟩ := honly hin
    rw [hres hfree]
    exact hp.enter r' m

/-- The task that moves is the only one inside. -/
theorem others (h : Serialised whole At Ok start w) {r r' : ρ} {p q : π}
    (ht : InsideAt w i r p) (hne : j ≠ i) : ¬ InsideAt w j r' q :=
  fun hin => hne (h.alone hin ht)

theorem move (hp : sec.Performs whole At) (h : Serialised whole At Ok start w) {r : ρ} {p q : π}
    {m : σ} (ht : InsideAt w i r p) (hs : sec.step r w.shared.resource p = (m, .inl q)) :
    Serialised whole At Ok start
      ⟨{ w.shared with resource := m }, w.tasks.set i (.inside r q)⟩ := by
  have honly : ∀ {j r' p'},
      InsideAt ⟨{ w.shared with resource := m }, w.tasks.set i (.inside r q)⟩ j r' p' →
        j = i ∧ r' = r ∧ p' = q := by
    intro j r' p' hin
    rcases insideAt_set hin with ⟨hji, heq⟩ | ⟨hne, hold⟩
    · cases heq
      exact ⟨hji, rfl, rfl⟩
    · exact absurd hold (h.others ht hne)
  have hok : Ok r := h.asked _ (List.mem_of_getElem? ht)
  have hlocked := h.held ht
  obtain ⟨base, hserial, -, hat⟩ := h.order
  refine ⟨Crowd.forall_mem_set h.asked hok, h.answered, fun _ => hlocked,
    fun _ => ⟨i, r, q, insideAt_set_self ht⟩, ?_, base, hserial, fun hfree => ?_, ?_⟩
  · intro j k _ _ _ _ hin hin'
    exact (honly hin).1.trans (honly hin').1.symm
  · exact absurd ht (h.vacant hfree)
  · intro j r' p' hin
    obtain ⟨-, rfl, rfl⟩ := honly hin
    exact hp.next (hat ht) hs

theorem leave (hp : sec.Performs whole At) (h : Serialised whole At Ok start w) {r : ρ} {p : π}
    {m : σ} {b : β} (ht : InsideAt w i r p)
    (hs : sec.step r w.shared.resource p = (m, .inr b)) :
    Serialised whole At Ok start
      ⟨⟨m, false, w.shared.history ++ [(r, b)]⟩, w.tasks.set i (.done r b)⟩ := by
  have hnone : ∀ {j r' p'},
      ¬ InsideAt ⟨⟨m, false, w.shared.history ++ [(r, b)]⟩, w.tasks.set i (.done r b)⟩ j r' p' := by
    intro j r' p' hin
    rcases insideAt_set hin with ⟨-, heq⟩ | ⟨hne, hold⟩
    · cases heq
    · exact absurd hold (h.others ht hne)
  have hok : Ok r := h.asked _ (List.mem_of_getElem? ht)
  obtain ⟨base, hserial, -, hat⟩ := h.order
  refine ⟨Crowd.forall_mem_set h.asked hok, Crowd.forall_mem_snoc h.answered hok,
    fun hin => absurd hin hnone, fun hlocked => ?_, fun hin => absurd hin hnone, m, ?_,
    fun _ => rfl, fun hin => absurd hin hnone⟩
  · cases hlocked
  · exact hserial.snoc (hp.leave (hat ht) hs)

theorem step (hp : sec.Performs whole At) (h : Serialised whole At Ok start w)
    {act : CrowdAct ρ Unit Empty} (hask : SpawnsOnly Ok w act)
    (hs : Crowd.step sec.program w act = some w') : Serialised whole At Ok start w' := by
  obtain ⟨r, rfl, rfl⟩ | ⟨i, a, t, g, t', rfl, ht, hmove, rfl⟩ | ⟨e, -, -⟩ := Crowd.step_cases hs
  · exact h.spawn hask
  · obtain ⟨r, rfl, hfree, rfl, rfl⟩ | ⟨r, p, m, q, rfl, hstep, rfl, rfl⟩ |
      ⟨r, p, m, b, rfl, hstep, rfl, rfl⟩ := CriticalSection.move_cases hmove
    · exact h.lock hp hfree ht
    · exact h.move hp ht hstep
    · exact h.leave hp ht hstep
  · exact e.elim

/-- The resource is one that the history leaves, or somebody is inside and works on such a one. -/
theorem resource_cases (h : Serialised whole At Ok start w) :
    ∃ m, Serial whole start w.shared.history m ∧
      (w.shared.resource = m ∨ ∃ i r p, InsideAt w i r p ∧ At r m w.shared.resource p) := by
  obtain ⟨m, hserial, hfree, hat⟩ := h.order
  refine ⟨m, hserial, ?_⟩
  cases hlocked : w.shared.locked with
  | false => exact Or.inl (hfree hlocked)
  | true =>
    obtain ⟨i, r, p, hin⟩ := h.occupied hlocked
    exact Or.inr ⟨i, r, p, hin, hat hin⟩

/-- Every state reached is serialised. -/
theorem of_reaches (hp : sec.Performs whole At)
    (h : Reaches (Crowd.step sec.program) (SpawnsOnly Ok) ⟨Guarded.new start, []⟩ w) :
    Serialised whole At Ok start w :=
  h.invariant (Serialised.new start) fun _ _ _ hi hask hs => hi.step hp hask hs

end Serialised

end Serialised

end Machine
