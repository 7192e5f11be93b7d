import NebulaId.Machine.Crowd

/-!
# Relabelled runs

A machine may treat some of its data alike: when it is relabelled in the states and in the actions,
every step goes along.

* `run_relabel`: then so does every run.
* `Crowd.run_relabel`: for a crowd it is enough that the tasks and the memory go along.
-/

namespace Machine

variable {σ τ α β π ρ ε : Type*}

theorem run_relabel {step : σ → α → Option σ} {step' : τ → β → Option τ} {f : σ → τ} {g : α → β}
    (h : ∀ s a, step' (f s) (g a) = (step s a).map f) (s : σ) (as : List α) :
    run step' (f s) (as.map g) = (run step s as).map f := by
  induction as generalizing s with
  | nil => rfl
  | cons a as ih =>
    rw [List.map_cons, run_cons, run_cons, h]
    cases step s a with
    | none => rfl
    | some s' => exact ih s'

/-- The program does the same when the data in its memory, its tasks and its requests is
relabelled. -/
structure Program.Relabelled (prog : Program σ π ρ α ε) (memory : σ → σ) (task : π → π)
    (request : ρ → ρ) : Prop where
  start : ∀ r, prog.start (request r) = task (prog.start r)
  step : ∀ a sh p, prog.step a (memory sh) (task p) =
    (prog.step a sh p).map fun r => (memory r.1, task r.2)
  pass : ∀ e sh, prog.pass e (memory sh) = memory (prog.pass e sh)

def CrowdAct.relabel (request : ρ → ρ) : CrowdAct ρ α ε → CrowdAct ρ α ε
  | .spawn r => .spawn (request r)
  | .move i a => .move i a
  | .pass e => .pass e

namespace Crowd

def relabel (memory : σ → σ) (task : π → π) (w : Crowd σ π) : Crowd σ π :=
  ⟨memory w.shared, w.tasks.map task⟩

variable {prog : Program σ π ρ α ε} {memory : σ → σ} {task : π → π} {request : ρ → ρ}

theorem step_relabel (h : prog.Relabelled memory task request) (w : Crowd σ π)
    (act : CrowdAct ρ α ε) : step prog (w.relabel memory task) (act.relabel request) =
      (step prog w act).map (relabel memory task) := by
  cases act with
  | spawn r =>
    simp only [CrowdAct.relabel, step, relabel, h.start, Option.map_some, List.map_append,
      List.map_singleton]
  | move i a =>
    simp only [CrowdAct.relabel, step, relabel, List.getElem?_map]
    cases w.tasks[i]? with
    | none => rfl
    | some p =>
      simp only [Option.map_some, Option.bind_some, h.step]
      cases prog.step a w.shared p with
      | none => rfl
      | some r => simp [relabel, List.map_set]
  | pass e => simp only [CrowdAct.relabel, step, relabel, h.pass, Option.map_some]

theorem run_relabel (h : prog.Relabelled memory task request) (w : Crowd σ π)
    (acts : List (CrowdAct ρ α ε)) :
    run (step prog) (w.relabel memory task) (acts.map (CrowdAct.relabel request)) =
      (run (step prog) w acts).map (relabel memory task) :=
  Machine.run_relabel (step_relabel h) w acts

end Crowd

end Machine
