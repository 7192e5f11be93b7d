import NebulaId.Algorithm.Router
import NebulaId.Machine.Rcu

/-!
# Concurrent `set_algorithm` calls (`core/algorithm/router.rs`)

`set_algorithm` changes the routing table with `ArcSwap::rcu`: it copies the table, inserts the
tag, and swaps the pointer, again and again until nobody has come in between. Any number of calls
may be at work, and requests read the table at any time.

* `set_algorithm_serial`: the calls are those of `AlgorithmRouter.setAlgorithm`, one after another
  in the order in which they end, and a request goes where the last call for its tag has sent it.
-/

namespace NebulaId

open Machine

/-- The tag and the algorithm of a call. -/
abbrev TagRoute := String × AlgorithmType

/-- The closure that `set_algorithm` hands to `rcu`. -/
def insertRoute (route : TagRoute) (old : String → Option AlgorithmType) :
    String → Option AlgorithmType := Function.update old route.1 (some route.2)

namespace AlgorithmRouter

/-- The router of a state: its table is what the pointer points to. -/
def withTable (r : AlgorithmRouter) (c : Cell (String → Option AlgorithmType) TagRoute) :
    AlgorithmRouter := { r with currentAlgorithm := c.value }

variable {r : AlgorithmRouter} {routes : List TagRoute} {ctx : GenerateContext}

/-- The calls one after another, the last one first in the list. -/
def setAlgorithms (r : AlgorithmRouter) (routes : List TagRoute) : AlgorithmRouter :=
  routes.foldr (fun route r => r.setAlgorithm route.1 route.2) r

theorem setAlgorithms_eq (r : AlgorithmRouter) (routes : List TagRoute) :
    r.setAlgorithms routes =
      { r with currentAlgorithm := routes.foldr insertRoute r.currentAlgorithm } := by
  induction routes with
  | nil => rfl
  | cons route routes ih =>
    rw [setAlgorithms, List.foldr_cons, ← setAlgorithms, ih]
    rfl

/-- The last call for the tag of a request decides. -/
theorem getAlgorithm_setAlgorithms : (r.setAlgorithms routes).getAlgorithm ctx =
    ((routes.find? fun route => route.1 = ctx.bizTag).map Prod.snd).getD (r.getAlgorithm ctx) := by
  induction routes with
  | nil => rfl
  | cons route routes ih =>
    rw [setAlgorithms, List.foldr_cons, ← setAlgorithms]
    by_cases htag : route.1 = ctx.bizTag
    · rw [List.find?_cons_of_pos (by simpa using htag)]
      simp [getAlgorithm, setAlgorithm, htag]
    · rw [List.find?_cons_of_neg (by simpa using htag), ← ih]
      simp [getAlgorithm, setAlgorithm, Function.update_of_ne (Ne.symm htag)]

end AlgorithmRouter

variable {r : AlgorithmRouter}
  {w : World (Cell (String → Option AlgorithmType) TagRoute)
    (Updater (String → Option AlgorithmType) TagRoute)}

/-- **Concurrent calls.** No call is lost, none is made twice, and one that retries has been
overtaken by another call each time. -/
theorem set_algorithm_serial
    (h : Reaches (World.step (rcuStep insertRoute)) Free
      (freshCell TagRoute r.currentAlgorithm) w) :
    r.withTable w.shared = r.setAlgorithms w.shared.history ∧
      (∀ ctx, (r.withTable w.shared).getAlgorithm ctx =
        ((w.shared.history.find? fun route => route.1 = ctx.bizTag).map Prod.snd).getD
          (r.getAlgorithm ctx)) ∧
      ∀ i route first seen failures read,
        w.threads i = .swapping route first seen failures read →
          failures ≤ w.shared.history.length - first := by
  have htable : r.withTable w.shared = r.setAlgorithms w.shared.history := by
    rw [AlgorithmRouter.setAlgorithms_eq, AlgorithmRouter.withTable, rcu_replays h]
  refine ⟨htable, fun ctx => ?_, fun i route first seen failures read hi => rcu_failures h hi⟩
  rw [htable]
  exact AlgorithmRouter.getAlgorithm_setAlgorithms

/-- Two calls for one tag at once: the first to swap is overtaken by nobody, the second fails
once. -/
theorem set_algorithm_serial_two : ∃ w,
    Reaches (World.step (rcuStep insertRoute)) Free
      (freshCell TagRoute (AlgorithmRouter.new .default).currentAlgorithm) w ∧
      w.shared.history = [("t", .uuidV7), ("t", .snowflake)] ∧
      ((AlgorithmRouter.new .default).withTable w.shared).getAlgorithm ⟨"w", "g", "t"⟩ = .uuidV7 := by
  have hreach : Reaches (World.step (rcuStep insertRoute)) Free
      (freshCell TagRoute (AlgorithmRouter.new .default).currentAlgorithm) _ :=
    Reaches.cons (a := (0, .start ("t", .snowflake))) trivial rfl <|
    Reaches.cons (a := (1, .start ("t", .uuidV7))) trivial rfl <|
    Reaches.cons (a := (0, .proceed)) trivial rfl <|
    Reaches.cons (a := (1, .proceed)) trivial rfl <|
    Reaches.cons (a := (0, .proceed)) trivial rfl <|
    Reaches.cons (a := (1, .proceed)) trivial rfl <|
    Reaches.single (a := (1, .proceed)) trivial rfl
  exact ⟨_, hreach, rfl, ((set_algorithm_serial hreach).2.1 ⟨"w", "g", "t"⟩).trans rfl⟩

end NebulaId
