import SceneScript.Proofs.Output.Journal
import SceneScript.Proofs.Render.Relate

/-!
# The calls of a run

A run hands requests to its output and cannot look at the output's state. So with a journal beside
the output it does all that it does without one (`Job.run_eq_plain_record`), and the calls of a run
are those that the journal holds behind it (`Job.calls`). `Render.Journals` relates a step to the
same step with a journal; it holds of a whole run, since leaving the journal out is a relation of
states that all steps keep (`Render.pairing_plain`).
-/

namespace SceneScript

section
variable {α σ : Type}

/-- Whether an operation asks the output for something. -/
def Operation.isRequest : Operation α → Bool
  | save _ | display => true
  | _ => false

/-- A state without the journal. -/
def RenderState.plain (s : RenderState α (Journal σ)) : RenderState α σ :=
  { s with output := s.output.state }

/-- A state with an empty journal. -/
def RenderState.journaled (s : RenderState α σ) : RenderState α (Journal σ) :=
  { s with output := ⟨s.output, []⟩ }

/-- A reply without the journal. -/
def Reply.plain {β : Type} (r : Reply (Journal σ) β) : Reply σ β :=
  ⟨r.result, r.state.state, r.written⟩

/-- A job with a journal beside its output. -/
def Job.journaled (job : Job α σ) : Job α (Journal σ) := { job with output := job.output.journaled }

end

namespace Render

section
variable {α σ β γ : Type}

/-- An outcome without the journal. -/
def plain : EStateM.Result Fault (RenderState α (Journal σ)) β →
    EStateM.Result Fault (RenderState α σ) β
  | .ok b s => .ok b s.plain
  | .error fault s => .error fault s.plain

/-- The second step does what the first does, and keeps a journal beside it. -/
def Journals (x : Render α σ β) (x' : Render α (Journal σ) β) : Prop :=
  ∀ s, x s.plain = plain (x' s)

/-- Steps that are related by leaving the journal out. -/
theorem journals_of_relates {x : Render α σ β} {x' : Render α (Journal σ) β}
    (h : Relates (fun s j => s = j.plain) x x') : Journals x x' := by
  intro s
  have ho := h s.plain s rfl
  generalize x s.plain = r at ho ⊢
  generalize x' s = r' at ho ⊢
  cases ho with
  | ok h => subst h; rfl
  | error h => subst h; rfl

section
variable {x : Render α σ β} {x' : Render α (Journal σ) β} {s s' : RenderState α σ}
  {j j' : RenderState α (Journal σ)} {b : β} {fault : Fault}

/-- A step succeeds if it does so with a journal. -/
theorem Journals.ok (h : Journals x x') (hx : x' j = .ok b j') : x j.plain = .ok b j'.plain := by
  rw [h, hx]
  rfl

/-- A step fails if it does so with a journal. -/
theorem Journals.error (h : Journals x x') (hx : x' j = .error fault j') :
    x j.plain = .error fault j'.plain := by
  rw [h, hx]
  rfl

/-- A step that succeeds does so with a journal. -/
theorem Journals.exists_ok (h : Journals x x') (hx : x j.plain = .ok b s') :
    ∃ j', x' j = .ok b j' ∧ j'.plain = s' := by
  rw [h] at hx
  cases hj : x' j with
  | ok b' j' => rw [hj] at hx; cases hx; exact ⟨j', rfl, rfl⟩
  | error fault j' => rw [hj] at hx; cases hx

/-- A step that fails does so with a journal. -/
theorem Journals.exists_error (h : Journals x x') (hx : x j.plain = .error fault s') :
    ∃ j', x' j = .error fault j' ∧ j'.plain = s' := by
  rw [h] at hx
  cases hj : x' j with
  | ok b j' => rw [hj] at hx; cases hx
  | error fault' j' => rw [hj] at hx; cases hx; exact ⟨j', rfl, rfl⟩

end

/-- Leaving the journal out is kept by steps that do the same. -/
theorem pairing_plain {out : Output σ} : Pairing out out.journaled
    (fun (s : RenderState α σ) (j : RenderState α (Journal σ)) => s = j.plain) where
  stack_eq h := congrArg RenderState.stack h
  canvas_eq h := congrArg RenderState.canvas h
  lookup?_eq h name := congrArg (·.knobs.lookup? name) h
  stack h _ := by subst h; rfl
  canvas h _ := by subst h; rfl
  bindings h _ := by subst h; rfl
  saved h _ := by subst h; rfl
  draws h _ := by subst h; rfl
  notes h _ := by subst h; rfl
  save h _ _ := by subst h; exact ⟨rfl, rfl⟩
  display h _ := by subst h; exact ⟨rfl, rfl⟩
  assemble h _ := by subst h; exact ⟨rfl, rfl⟩

variable [Scalar α] [Trig α] {settings : Settings α} {out : Output σ}

/-- An operation does the same with a journal. -/
theorem journals_perform {op : Operation α} :
    Journals (perform settings out op) (perform settings out.journaled op) :=
  journals_of_relates (relates_perform pairing_plain)

/-- An execution does the same with a journal. -/
theorem journals_execute {ops : List (Operation α)} :
    Journals (execute settings out ops) (execute settings out.journaled ops) :=
  journals_of_relates (relates_execute pairing_plain)

end

end Render

namespace Job

open Render

section
variable {α σ : Type} [Scalar α] [Trig α] {job : Job α σ}

/-- A run does the same with a journal. -/
theorem journals_run : Journals job.run job.journaled.run :=
  journals_of_relates <| relates_run pairing_plain (congrArg RenderState.knobs)
    (congrArg RenderState.saved) fun h => by subst h; rfl

/-- A run with a journal, which is empty at first. -/
def record (job : Job α σ) (s₀ : RenderState α σ) :
    EStateM.Result Fault (RenderState α (Journal σ)) Report := job.journaled.run s₀.journaled

/-- The calls of a run to its output, in order. -/
def calls (job : Job α σ) (s₀ : RenderState α σ) : List Call := (final (job.record s₀)).output.calls

/-- The calls of a run that returns. -/
theorem calls_of_record_ok {s₀ : RenderState α σ} {report : Report} {s : RenderState α (Journal σ)}
    (h : job.record s₀ = .ok report s) : job.calls s₀ = s.output.calls := by
  rw [calls, h]
  rfl

/-- The calls of a run that stops at a fault. -/
theorem calls_of_record_error {s₀ : RenderState α σ} {fault : Fault}
    {s : RenderState α (Journal σ)} (h : job.record s₀ = .error fault s) :
    job.calls s₀ = s.output.calls := by
  rw [calls, h]
  rfl

/-- A run is what it is with a journal, but for the journal. -/
theorem run_eq_plain_record (s₀ : RenderState α σ) : job.run s₀ = plain (job.record s₀) :=
  journals_run s₀.journaled

/-- A run returns if it does so with a journal. -/
theorem run_of_record_ok {s₀ : RenderState α σ} {report : Report} {s : RenderState α (Journal σ)}
    (h : job.record s₀ = .ok report s) : job.run s₀ = .ok report s.plain := journals_run.ok h

/-- A run stops at the fault that it stops at with a journal. -/
theorem run_of_record_error {s₀ : RenderState α σ} {fault : Fault} {s : RenderState α (Journal σ)}
    (h : job.record s₀ = .error fault s) : job.run s₀ = .error fault s.plain :=
  journals_run.error h

/-- A run that returns does so with a journal. -/
theorem exists_record_ok {s₀ s : RenderState α σ} {report : Report}
    (h : job.run s₀ = .ok report s) : ∃ j, job.record s₀ = .ok report j ∧ j.plain = s :=
  journals_run.exists_ok (j := s₀.journaled) h

/-- A run that stops at a fault does so with a journal. -/
theorem exists_record_error {s₀ s : RenderState α σ} {fault : Fault}
    (h : job.run s₀ = .error fault s) : ∃ j, job.record s₀ = .error fault j ∧ j.plain = s :=
  journals_run.exists_error (j := s₀.journaled) h

end

end Job

end SceneScript
