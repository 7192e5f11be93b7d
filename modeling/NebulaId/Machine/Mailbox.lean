import Mathlib.Algebra.Order.Ring.Nat
import Mathlib.Data.List.Basic
import Mathlib.Data.List.Infix

/-!
# A mailbox with one reader

Any number of writers post messages, and one reader serves them in the order in which they were
posted. What serving a message came to is its outcome.

* `posted_serve`: serving changes nothing about what has been posted.
* `served_before`: once a message has been served, so have all that were posted before it.
-/

namespace Machine

/-- The messages served so far with their outcomes, and those that wait. -/
structure Mailbox (μ ω : Type*) where
  log : List (μ × ω)
  waiting : List μ

namespace Mailbox

variable {μ ω : Type*}

def empty : Mailbox μ ω := ⟨[], []⟩

def posted (b : Mailbox μ ω) : List μ := b.log.map Prod.fst ++ b.waiting

def post (b : Mailbox μ ω) (m : μ) : Mailbox μ ω := { b with waiting := b.waiting ++ [m] }

/-- The next message comes to `o`; without a message nothing happens. -/
def serve (b : Mailbox μ ω) (o : ω) : Mailbox μ ω :=
  match b.waiting with
  | [] => b
  | m :: waiting => ⟨b.log ++ [(m, o)], waiting⟩

variable {b : Mailbox μ ω} {m : μ} {o : ω} {n : ℕ} {ms waiting : List μ}

@[simp] theorem posted_empty : (empty : Mailbox μ ω).posted = [] := rfl

@[simp] theorem log_post : (b.post m).log = b.log := rfl

@[simp] theorem posted_post : (b.post m).posted = b.posted ++ [m] :=
  (List.append_assoc _ _ _).symm

theorem serve_nil (h : b.waiting = []) : b.serve o = b := by
  rw [serve, h]

theorem serve_cons (h : b.waiting = m :: waiting) :
    b.serve o = ⟨b.log ++ [(m, o)], waiting⟩ := by
  rw [serve, h]

@[simp] theorem posted_serve : (b.serve o).posted = b.posted := by
  cases h : b.waiting with
  | nil => rw [serve_nil h]
  | cons m waiting =>
    rw [serve_cons h, posted, posted, h, List.map_append, List.append_assoc]
    rfl

theorem length_log_le_serve : b.log.length ≤ (b.serve o).log.length := by
  cases h : b.waiting with
  | nil => rw [serve_nil h]
  | cons m waiting =>
    rw [serve_cons h, List.length_append]
    exact Nat.le_add_right _ _

/-- Serving comes one message further, up to the last. -/
theorem length_log_serve : min (b.log.length + 1) b.posted.length ≤ (b.serve o).log.length := by
  cases h : b.waiting with
  | nil =>
    rw [serve_nil h, posted, h, List.append_nil, List.length_map]
    exact min_le_right _ _
  | cons m waiting =>
    rw [serve_cons h, List.length_append]
    exact min_le_left _ _

/-- The message at place `n`, once it has been served. -/
theorem getElem?_log_fst (hn : n < b.log.length) :
    (b.log[n]?).map Prod.fst = b.posted[n]? := by
  rw [posted, List.getElem?_append_left (by rwa [List.length_map]), List.getElem?_map]

/-- **In order.** Once message `n` has been served, so have all that came before it. -/
theorem served_before (hms : ms <+: b.posted) (hlength : ms.length ≤ n) (hn : n < b.log.length) :
    ms <+: (b.log.take n).map Prod.fst := by
  have htake : (b.log.take n).map Prod.fst = b.posted.take n := by
    rw [posted, List.take_append_of_le_length (by rw [List.length_map]; omega), List.map_take]
  rw [htake]
  exact List.prefix_take_iff.mpr ⟨hms, hlength⟩

end Mailbox

end Machine
