import SceneScript.Proofs.Render.Plan

/-!
# How a run stops

A run is compared with the same run whose output does not fail: an output that answers as the first
does, but has answers where the first has faults (`Output.Extends`, `Output.NeverFails`). Both runs
take the same steps of the plan with the same states, as long as the first has not failed
(`Job.take_ok_of_extends`). The step that the first stops in either fails by itself, and then the
second stops alike, or its request was answered with a fault (`Render.Stops`). In both cases nothing
is drawn in this step, and nothing is done behind it (`Job.abort`).
-/

namespace SceneScript

/-- The knobs behind frames that have been entered. -/
def Timeline.knobsAfter {α : Type} (t : Timeline α) (initial : Knobs α) (frames : List Nat) :
    Knobs α :=
  frames.foldl (fun k frame => k.merge (t.slots[frame]?.getD .empty)) initial

/-- The values of a frame are those of its slot. -/
theorem Timeline.slots_of_bindings {α : Type} {t : Timeline α} {frame : Nat} {bindings : Knobs α}
    (h : t.bindings frame = .ok bindings) : t.slots[frame]? = some bindings := by
  by_cases hf : frame < t.slots.size
  · rw [bindings_of_lt hf] at h
    cases h
    exact Array.getElem?_eq_getElem hf
  · have hneg : ¬ (frame : Int) < 0 := by omega
    simp [Timeline.bindings, slot?, hneg, hf, Except.map] at h

/-- A state further on in a run with a journal: there are more draws, and more calls, all of which
are answered. -/
structure RenderState.Advances {α σ : Type} (s s' : RenderState α (Journal σ)) : Prop where
  draws : s.draws.toList <+: s'.draws.toList
  calls : ∃ calls, s'.output.calls = s.output.calls ++ calls ∧ ∀ c ∈ calls, c.Answered

namespace RenderState.Advances

variable {α σ : Type} {s s' s'' : RenderState α (Journal σ)}

/-- Nothing was drawn or asked for. -/
theorem of_eq (hd : s'.draws = s.draws) (hc : s'.output.calls = s.output.calls) :
    s.Advances s' where
  draws := hd ▸ List.prefix_rfl
  calls := ⟨[], by rw [hc, List.append_nil], nofun⟩

/-- Nothing was drawn, and one call was answered. -/
theorem of_answered {request : Request} {path : Option String}
    (hc : s'.output.calls = s.output.calls ++ [⟨request, .ok path⟩]) (hd : s'.draws = s.draws) :
    s.Advances s' where
  draws := hd ▸ List.prefix_rfl
  calls := ⟨_, hc, List.forall_mem_singleton.2 ⟨path, rfl⟩⟩

/-- A run goes further and further. -/
theorem trans (h : s.Advances s') (h' : s'.Advances s'') : s.Advances s'' where
  draws := h.draws.trans h'.draws
  calls := by
    obtain ⟨calls, hc, hall⟩ := h.calls
    obtain ⟨calls', hc', hall'⟩ := h'.calls
    refine ⟨calls ++ calls', by rw [hc', hc, List.append_assoc], fun c hmem => ?_⟩
    exact (List.mem_append.1 hmem).elim (hall c) (hall' c)

end RenderState.Advances

namespace Render

section
variable {α σ β γ : Type}

/-- How a step with a journal stops at a fault, beside the same step `y` with another output. Either
the step fails by itself, and asks for nothing; then `y` fails alike. Or it makes a call that is
answered with a fault, and `y` makes this call and gets an answer. Nothing is drawn and the knobs
stay as they were. -/
inductive Stops (y : Render α (Journal σ) β) (raised : Fault → Fault)
    (s : RenderState α (Journal σ)) : Fault → RenderState α (Journal σ) → Prop
  | itself : y s = .error fault s' → s'.output = s.output → s'.draws = s.draws →
      s'.knobs = s.knobs → Stops y raised s fault s'
  | asked {request : Request} {why : Fault} {path : Option String}
      {s'' : RenderState α (Journal σ)} :
      s'.output.calls = s.output.calls ++ [⟨request, .error why⟩] → y s = .ok b s'' →
      s''.output.calls = s.output.calls ++ [⟨request, .ok path⟩] → s''.draws = s.draws →
      s'.draws = s.draws → s'.knobs = s.knobs → Stops y raised s (raised why) s'

variable {x y : Render α (Journal σ) β} {raised : Fault → Fault} {s s' : RenderState α (Journal σ)}
  {fault : Fault}

/-- A step stops alike when only its result is used further on. -/
theorem Stops.map (h : Stops y raised s fault s') (f : β → γ) :
    Stops (y >>= fun b => pure (f b)) raised s fault s' := by
  cases h with
  | itself hy ho hd hk => exact .itself (bind_error.2 (.inl hy)) ho hd hk
  | asked hc hy hc' hd' hd hk => exact .asked hc ((bind_of_ok hy).trans rfl) hc' hd' hd hk

end

section
variable {α σ : Type} [Scalar α] [Trig α] {settings : Settings α} {good out : Output σ}
  {op : Operation α}

/-- An operation that succeeds keeps the knobs, and its call is answered. -/
theorem Performs.advances {s s' : RenderState α (Journal σ)}
    (h : Performs settings out.journaled op s s') : s'.knobs = s.knobs ∧ s.Advances s' := by
  cases h with
  | push | pop | moves | directive => exact ⟨rfl, .of_eq rfl rfl⟩
  | draws =>
    refine ⟨rfl, ⟨?_, [], (List.append_nil _).symm, nofun⟩⟩
    rw [Array.toList_push]
    exact List.prefix_append ..
  | save hr => exact ⟨rfl, .of_answered (Reply.calls_journaled_ok hr ..) rfl⟩
  | display hr => exact ⟨rfl, .of_answered (Reply.calls_journaled_ok hr ..) rfl⟩

/-- Operations that succeed have all their calls answered. -/
theorem execute_advances {ops : List (Operation α)} {s s' : RenderState α (Journal σ)}
    (h : execute settings out.journaled ops s = .ok () s') : s.Advances s' := by
  induction ops generalizing s with
  | nil =>
    obtain rfl := execute_nil_ok.1 h
    exact .of_eq rfl rfl
  | cons op ops ih =>
    obtain ⟨s₁, hop, hops⟩ := execute_cons_ok.1 h
    exact (perform_ok hop).advances.2.trans (ih hops)

/-- A picture is saved when the output answers. -/
theorem perform_save_of_ok {s : RenderState α σ} {file path : String}
    (hr : (out.save s.canvas.picture file s.output).result = .ok path) :
    perform settings out (.save file) s = .ok ()
      { s with
        output := (out.save s.canvas.picture file s.output).state
        saved := s.saved.push path
        notes := s.notes ++
          ((out.save s.canvas.picture file s.output).written.map Note.wrote).toArray } := by
  simp only [perform, save, picture, bind_ok, read_ok, ask_ok, modify_ok]
  refine ⟨_, _, ⟨rfl, rfl⟩, path, _, ⟨?_, rfl⟩, rfl⟩
  rw [Reply.mapFault, hr]
  rfl

/-- A picture is shown when the output answers. -/
theorem perform_display_of_ok {s : RenderState α σ}
    (hr : (out.display s.canvas.picture s.output).result = .ok ()) :
    perform settings out .display s = .ok ()
      { s with
        output := (out.display s.canvas.picture s.output).state
        notes := s.notes ++
          ((out.display s.canvas.picture s.output).written.map Note.wrote).toArray } := by
  simp only [perform, picture, bind_ok, read_ok, ask_ok]
  exact ⟨_, _, ⟨rfl, rfl⟩, hr, rfl⟩

/-- An operation that succeeds does so with an output that extends its own. -/
theorem perform_ok_of_extends {s s' : RenderState α σ} (hext : good.Extends out)
    (h : perform settings out op s = .ok () s') : perform settings good op s = .ok () s' := by
  cases hreq : op.isRequest with
  | false => rwa [perform_eq_of_not_isRequest hreq]
  | true =>
    cases perform_ok h with
    | save hr =>
      have hreply := hext.save hr
      rw [← hreply] at hr ⊢
      exact perform_save_of_ok hr
    | display hr =>
      have hreply := hext.display hr
      rw [← hreply] at hr ⊢
      exact perform_display_of_ok hr
    | push | pop => cases hreq
    | moves hm => cases hm <;> cases hreq
    | draws ho => cases ho <;> cases hreq
    | directive hd =>
      cases op with
      | save | display => cases hd
      | _ => cases hreq

variable {s s' : RenderState α (Journal σ)} {fault : Fault}

/-- An operation with a journal that stops at a fault. -/
theorem perform_stops (hgood : good.NeverFails)
    (h : perform settings out.journaled op s = .error fault s') :
    Stops (perform settings good.journaled op) op.raised s fault s' := by
  cases perform_error h with
  | raises hop =>
    rw [perform_eq_of_not_isRequest hop] at h
    exact .itself h rfl rfl rfl
  | @save file _ why hw =>
    obtain ⟨path, hr⟩ := hgood.save s.canvas.picture file s.output.state
    exact .asked (Reply.calls_journaled_error hw ..) (perform_save_of_ok hr)
      (Reply.calls_journaled_ok hr ..) rfl rfl rfl
  | display hw =>
    have hr := hgood.display s.canvas.picture s.output.state
    exact .asked (Reply.calls_journaled_error hw ..) (perform_display_of_ok hr)
      (Reply.calls_journaled_ok hr ..) rfl rfl rfl

end

end Render

namespace Job

open Render

/-- A job with another output. -/
def withOutput {α σ : Type} (job : Job α σ) (out : Output σ) : Job α σ := { job with output := out }

/-- A job with another output, and a journal beside it. -/
theorem journaled_withOutput {α σ : Type} (job : Job α σ) (out : Output σ) :
    (job.withOutput out).journaled = job.journaled.withOutput out.journaled := rfl

section
variable {α σ : Type} [Scalar α] [Trig α] {job : Job α σ} {good : Output σ} {d : Directives}
  {t : Timeline α} {step : Step α} {steps : List (Step α)} {report report' : Report}

/-- A step that succeeds does so with an output that extends that of the job. -/
theorem take_ok_of_extends {s s' : RenderState α σ} (hext : good.Extends job.output)
    (h : job.take d t report step s = .ok report' s') :
    (job.withOutput good).take d t report step s = .ok report' s' := by
  cases step with
  | enter | collect => exact h
  | perform op =>
    obtain ⟨_, s₁, hp, hreport⟩ := bind_ok.1 h
    exact bind_ok.2 ⟨_, s₁, perform_ok_of_extends hext hp, hreport⟩
  | leave frame =>
    obtain ⟨path, s₁, hexport, hreport⟩ := bind_ok.1 h
    refine bind_ok.2 ⟨path, s₁, ?_, hreport⟩
    obtain ⟨directory, hdir⟩ := exists_directory_of_exportFrame hexport
    have hdir' : (job.withOutput good).directory = some directory := hdir
    rw [exportFrame_ok_iff hdir] at hexport
    rw [exportFrame_ok_iff hdir', withOutput, hext.save hexport.2.1]
    exact hexport
  | assemble =>
    cases hdir : job.directory with
    | none => rw [take_assemble_of_none hdir] at h; cases h
    | some directory =>
      have hdir' : (job.withOutput good).directory = some directory := hdir
      rw [take_assemble_ok_iff hdir] at h
      obtain ⟨path, hr, h⟩ := h
      rw [take_assemble_ok_iff hdir', withOutput, hext.assemble hr]
      exact ⟨path, hr, h⟩

/-- Steps that succeed do so with an output that extends that of the job. -/
theorem follow_ok_of_extends {s s' : RenderState α σ} (hext : good.Extends job.output)
    (h : job.follow d t steps report s = .ok report' s') :
    (job.withOutput good).follow d t steps report s = .ok report' s' := by
  induction steps generalizing report s with
  | nil => exact h
  | cons step steps ih =>
    rw [follow_cons, bind_ok] at h ⊢
    obtain ⟨report₁, s₁, hstep, h⟩ := h
    exact ⟨report₁, s₁, take_ok_of_extends hext hstep, ih h⟩

variable {s s' : RenderState α (Journal σ)} {fault : Fault}

/-- A step with a journal that stops at a fault. -/
theorem take_stops (hgood : good.NeverFails)
    (h : job.journaled.take d t report step s = .error fault s') :
    Stops ((job.withOutput good).journaled.take d t report step) step.raised s fault s' := by
  cases step with
  | enter frame =>
    simp only [take, enter, bind_error, ofExcept_error, bindKnobs, modify_error, pure_error,
      and_false, exists_false, or_false] at h
    obtain ⟨hb, rfl⟩ := h
    refine .itself ?_ rfl rfl rfl
    exact bind_error.2 (.inl (bind_error.2 (.inl (ofExcept_error.2 ⟨hb, rfl⟩))))
  | collect => cases h
  | perform op =>
    simp only [take, bind_error, pure_error, and_false, exists_false, or_false] at h
    exact (perform_stops hgood h).map fun _ => report
  | leave frame =>
    simp only [take, bind_error, pure_error, and_false, exists_false, or_false] at h
    refine Stops.map ?_ fun path => { report with framePaths := report.framePaths ++ [path] }
    by_cases hname : d.NamesFrame frame
    · cases hdir : job.journaled.directory with
      | none =>
        cases (exportFrame_of_none hdir hname).symm.trans h
        exact .itself (exportFrame_of_none hdir hname) rfl rfl rfl
      | some directory =>
        obtain ⟨hw, rfl⟩ := exportFrame_error hdir hname h
        have hdir' : (job.withOutput good).journaled.directory = some directory := hdir
        obtain ⟨path, hr⟩ :=
          hgood.save s.canvas.picture (d.framePath directory frame) s.output.state
        exact .asked (Reply.calls_journaled_error hw ..)
          ((exportFrame_ok_iff hdir').2 ⟨hname, hr, rfl⟩) (Reply.calls_journaled_ok hr ..) rfl rfl
          rfl
    · cases (exportFrame_of_not_namesFrame hname).symm.trans h
      exact .itself (exportFrame_of_not_namesFrame hname) rfl rfl rfl
  | assemble =>
    cases hdir : job.journaled.directory with
    | none =>
      rw [take_assemble_of_none hdir] at h
      cases h
      exact .itself (take_assemble_of_none hdir) rfl rfl rfl
    | some directory =>
      obtain ⟨hw, rfl⟩ := take_assemble_error hdir h
      have hdir' : (job.withOutput good).journaled.directory = some directory := hdir
      obtain ⟨path, hr⟩ := hgood.assemble
        ⟨d.basename, report.framePaths, directory, job.settings.frameDuration⟩ s.output.state
      exact .asked (Reply.calls_journaled_error hw ..)
        ((take_assemble_ok_iff hdir').2 ⟨path, hr, rfl, rfl⟩) (Reply.calls_journaled_ok hr ..)
        rfl rfl rfl

/-- What a step that succeeds has done to the knobs, the draws and the journal. -/
theorem take_ok (h : job.journaled.take d t report step s = .ok report' s') :
    s'.knobs = t.knobsAfter s.knobs step.frame?.toList ∧ s.Advances s' := by
  cases step with
  | enter frame =>
    obtain ⟨_, s₁, henter, hreport⟩ := bind_ok.1 h
    obtain ⟨-, rfl⟩ := pure_ok.1 hreport
    obtain ⟨bindings, hb, rfl⟩ := enter_ok henter
    refine ⟨?_, .of_eq rfl rfl⟩
    simp [Step.frame?, Timeline.knobsAfter, Timeline.slots_of_bindings hb]
  | perform op =>
    obtain ⟨_, s₁, hp, hreport⟩ := bind_ok.1 h
    obtain ⟨-, rfl⟩ := pure_ok.1 hreport
    exact (perform_ok hp).advances
  | leave frame =>
    obtain ⟨path, s₁, hexport, hreport⟩ := bind_ok.1 h
    obtain ⟨-, rfl⟩ := pure_ok.1 hreport
    obtain ⟨directory, hdir⟩ := exists_directory_of_exportFrame hexport
    obtain ⟨-, hr, rfl⟩ := (exportFrame_ok_iff hdir).1 hexport
    exact ⟨rfl, .of_answered (Reply.calls_journaled_ok hr ..) rfl⟩
  | collect =>
    simp only [take, bind_ok, read_ok, pure_ok] at h
    obtain ⟨_, _, ⟨-, rfl⟩, -, rfl⟩ := h
    exact ⟨rfl, .of_eq rfl rfl⟩
  | assemble =>
    cases hdir : job.journaled.directory with
    | none => rw [take_assemble_of_none hdir] at h; cases h
    | some directory =>
      obtain ⟨path, hr, -, rfl⟩ := (take_assemble_ok_iff hdir).1 h
      exact ⟨rfl, .of_answered (Reply.calls_journaled_ok hr ..) rfl⟩

/-- What steps that succeed have done to the knobs, the draws and the journal. -/
theorem follow_ok (h : job.journaled.follow d t steps report s = .ok report' s') :
    s'.knobs = t.knobsAfter s.knobs (steps.filterMap Step.frame?) ∧ s.Advances s' := by
  induction steps generalizing report s with
  | nil =>
    obtain ⟨-, rfl⟩ := pure_ok.1 h
    exact ⟨rfl, .of_eq rfl rfl⟩
  | cons step steps ih =>
    rw [follow_cons, bind_ok] at h
    obtain ⟨report₁, s₁, hstep, h⟩ := h
    obtain ⟨hk, hs⟩ := take_ok hstep
    obtain ⟨hk', hs'⟩ := ih h
    refine ⟨?_, hs.trans hs'⟩
    rw [hk', hk]
    cases step <;> rfl

/-- Whatever becomes of steps with an output that never fails, there are no fewer draws and calls
behind them. -/
theorem follow_grows (hgood : job.output.NeverFails) :
    s.draws.toList <+: (final (job.journaled.follow d t steps report s)).draws.toList ∧
      s.output.calls <+: (final (job.journaled.follow d t steps report s)).output.calls := by
  have hadvance : ∀ {report'} {s' : RenderState α (Journal σ)} {steps},
      job.journaled.follow d t steps report s = .ok report' s' →
      s.draws.toList <+: s'.draws.toList ∧ s.output.calls <+: s'.output.calls := by
    intro report' s' steps h
    obtain ⟨-, hdraws, calls, hcalls, -⟩ := follow_ok h
    exact ⟨hdraws, hcalls ▸ List.prefix_append ..⟩
  cases h : job.journaled.follow d t steps report s with
  | ok report' s' => exact hadvance h
  | error fault s' =>
    obtain ⟨before, step, after, reached, s₁, -, hbefore, hstep⟩ := follow_error h
    obtain ⟨hdraws, hcalls⟩ := hadvance hbefore
    cases take_stops hgood hstep with
    | itself _ ho hd =>
      exact ⟨hdraws.trans (hd ▸ List.prefix_rfl), hcalls.trans (ho ▸ List.prefix_rfl)⟩
    | asked hc _ _ _ hd =>
      exact ⟨hdraws.trans (hd ▸ List.prefix_rfl), hcalls.trans (hc ▸ List.prefix_append ..)⟩

end

section
variable {α σ : Type} [Scalar α] [Trig α]

/-- A run stops at a fault in a step of its plan, with `s'` behind it. The steps before have led it
to the state `s`, and they have led the run with the other output there, too. -/
structure StopsIn (job : Job α σ) (good : Output σ) (s₀ : RenderState α σ) (step : Step α)
    (s : RenderState α (Journal σ)) (fault : Fault) (s' : RenderState α (Journal σ)) : Prop where
  /-- Both runs have taken the same steps, and the knobs are those of the frames entered so far. -/
  reached : ∃ d t before after report, Directives.ofOperations job.operations = .ok d ∧
    Timeline.ofOperations job.operations d.frames = .ok t ∧
    job.plan d = before ++ step :: after ∧
    job.journaled.reach d t before s₀.journaled = .ok report s ∧
    (job.withOutput good).journaled.reach d t before s₀.journaled = .ok report s ∧
    job.journaled.take d t report step s = .error fault s' ∧
    s'.knobs = t.knobsAfter s₀.knobs (before.filterMap Step.frame?)
  /-- The calls before the step have been answered. -/
  answered : ∀ c ∈ s.output.calls, c.Answered
  /-- The step has drawn nothing. -/
  draws : s'.draws = s.draws
  /-- The other run has drawn the same up to the step, and then perhaps more. -/
  drawn : s.draws.toList <+: (final ((job.withOutput good).record s₀)).draws.toList

/-- A run takes a step of its plan from the state `s` on, and `s'` is behind it. -/
def Takes (job : Job α σ) (s₀ : RenderState α σ) (step : Step α)
    (s s' : RenderState α (Journal σ)) : Prop :=
  ∃ d t before after report report', Directives.ofOperations job.operations = .ok d ∧
    Timeline.ofOperations job.operations d.frames = .ok t ∧
    job.plan d = before ++ step :: after ∧
    job.journaled.reach d t before s₀.journaled = .ok report s ∧
    job.journaled.take d t report step s = .ok report' s'

variable {job : Job α σ} {good : Output σ} {d : Directives} {t : Timeline α}
  {s₀ : RenderState α σ} {s' : RenderState α (Journal σ)} {steps : List (Step α)}
  {report : Report} {fault : Fault}

/-- The state in which a run with a journal comes to the first step of its plan. -/
def outset (job : Job α σ) (d : Directives) (t : Timeline α) (s₀ : RenderState α σ) :
    RenderState α (Journal σ) := final (job.journaled.approach d t 0 s₀.journaled)

/-- A run takes the steps of its plan from there. -/
theorem reach_eq_follow : job.journaled.reach d t steps s₀.journaled =
    job.journaled.follow d t steps { frames := d.frames, basename := d.basename }
      (job.outset d t s₀) := rfl

/-- The run comes to its first step without a call. -/
theorem calls_outset : (job.outset d t s₀).output.calls = [] := rfl

/-- The run comes to its first step alike whatever its output is. -/
theorem outset_withOutput : (job.withOutput good).outset d t s₀ = job.outset d t s₀ := rfl

/-- A run with a journal takes all steps of the plan. -/
theorem record_eq_reach (hd : Directives.ofOperations job.operations = .ok d)
    (ht : Timeline.ofOperations job.operations d.frames = .ok t) :
    job.record s₀ = job.journaled.reach d t (job.plan d) s₀.journaled := by
  have hd' : Directives.ofOperations job.journaled.operations = .ok d := hd
  rw [record, run_eq_reach hd' ht]
  rfl

/-- A run that returns has had all its calls answered. -/
theorem answered_of_record_ok (h : job.record s₀ = .ok report s') :
    ∀ c ∈ job.calls s₀, c.Answered := by
  obtain ⟨d, t, hd, ht⟩ := passes_of_run_ok (show job.journaled.run s₀.journaled = _ from h)
  have hd : Directives.ofOperations job.operations = .ok d := hd
  rw [calls_of_record_ok h]
  rw [record_eq_reach hd ht, reach_eq_follow] at h
  obtain ⟨-, -, calls, hcalls, hall⟩ := follow_ok h
  rw [hcalls, calls_outset]
  exact hall

/-- A run that stops at a fault has stopped in the first passes, and done nothing, or else it has
got through them. -/
theorem passes_of_record_error (good : Output σ) (h : job.record s₀ = .error fault s') :
    (s'.output.calls = [] ∧ s'.draws = s₀.draws ∧ s'.knobs = s₀.knobs ∧
      (job.withOutput good).record s₀ = .error fault s') ∨
    ∃ d t, Directives.ofOperations job.operations = .ok d ∧
      Timeline.ofOperations job.operations d.frames = .ok t := by
  have hrun : job.journaled.run s₀.journaled = .error fault s' := h
  cases hd : Directives.ofOperations job.journaled.operations with
  | error why =>
    have hd' : Directives.ofOperations (job.withOutput good).journaled.operations = .error why := hd
    have hgood := run_of_directives_error (s := s₀.journaled) hd'
    rw [run_of_directives_error hd] at hrun
    cases hrun
    exact .inl ⟨rfl, rfl, rfl, hgood⟩
  | ok d =>
    cases ht : Timeline.ofOperations job.journaled.operations d.frames with
    | error why =>
      have hd' : Directives.ofOperations (job.withOutput good).journaled.operations = .ok d := hd
      have hgood := run_of_ramps_error (s := s₀.journaled) hd' ht
      rw [run_of_ramps_error hd ht] at hrun
      cases hrun
      exact .inl ⟨rfl, rfl, rfl, hgood⟩
    | ok t => exact .inr ⟨d, t, hd, ht⟩

/-- A run that stops at a fault behind the first passes stops in a step of its plan. If the step has
failed by itself the run with the other output stops alike. If the request of the step was answered
with a fault that run makes the same call and has it answered. -/
theorem record_error (hgood : good.NeverFails) (hext : good.Extends job.output)
    (hd : Directives.ofOperations job.operations = .ok d)
    (ht : Timeline.ofOperations job.operations d.frames = .ok t)
    (h : job.record s₀ = .error fault s') :
    ∃ step s, job.StopsIn good s₀ step s fault s' ∧
      ((s'.output = s.output ∧ (job.withOutput good).record s₀ = .error fault s') ∨
        ∃ request why path s'', s'.output.calls = s.output.calls ++ [⟨request, .error why⟩] ∧
          fault = step.raised why ∧ (job.withOutput good).Takes s₀ step s s'' ∧
          s''.output.calls = s.output.calls ++ [⟨request, .ok path⟩] ∧ s''.draws = s.draws ∧
          s''.output.calls <+: (job.withOutput good).calls s₀) := by
  rw [record_eq_reach hd ht, reach_eq_follow] at h
  obtain ⟨before, step, after, report, s, hplan, hbefore, hstep⟩ := follow_error h
  have hbefore' : (job.withOutput good).journaled.follow d t before
      { frames := d.frames, basename := d.basename } ((job.withOutput good).outset d t s₀) =
        .ok report s := by
    rw [outset_withOutput, journaled_withOutput]
    exact follow_ok_of_extends hext.journaled hbefore
  obtain ⟨hk, -, made, hmade, hall⟩ := follow_ok hbefore
  rw [calls_outset, List.nil_append] at hmade
  -- the run with the other output goes on from the same state
  have hrest : (job.withOutput good).record s₀ =
      (job.withOutput good).journaled.follow d t (step :: after) report s := by
    have hd' : Directives.ofOperations (job.withOutput good).operations = .ok d := hd
    have hplan' : (job.withOutput good).plan d = before ++ step :: after := hplan
    rw [record_eq_reach hd' ht, hplan', reach_eq_follow, follow_append]
    exact bind_of_ok hbefore'
  have hgrows : s.draws.toList <+: (final ((job.withOutput good).record s₀)).draws.toList := by
    rw [hrest]
    exact (follow_grows hgood).1
  have hstops := take_stops hgood hstep
  have hin : s'.draws = s.draws → s'.knobs = s.knobs → job.StopsIn good s₀ step s fault s' := by
    intro hdraws hknobs'
    refine ⟨⟨d, t, before, after, report, hd, ht, hplan, hbefore, hbefore', hstep, ?_⟩,
      hmade ▸ hall, hdraws, hgrows⟩
    rw [hknobs', hk]
    rfl
  refine ⟨step, s, ?_⟩
  cases hstops with
  | itself htake hout hdraws hknobs' =>
    refine ⟨hin hdraws hknobs', .inl ⟨hout, ?_⟩⟩
    rw [hrest, follow_cons]
    exact bind_error.2 (.inl htake)
  | @asked _ _ request why path s'' hcall htake hcall' hdraws'' hdraws hknobs' =>
    refine ⟨hin hdraws hknobs', .inr ⟨request, why, path, s'', hcall, rfl,
      ⟨d, t, before, after, report, _, hd, ht, hplan, hbefore', htake⟩, hcall', hdraws'', ?_⟩⟩
    rw [calls, hrest, follow_cons, bind_of_ok htake]
    exact (follow_grows hgood).2

/-- Abort on failure. A call that fails is the last one of its run, and the run stops with the fault
of the answer, or for a `save` of the script, with the fault of its operand if that was one of the
value. The calls and the draws before it are those that the run with an output that never fails has
made when it comes to this call, which it gets answered. A run that stops without such a call stops
alike with the other output: in its first passes, before anything is done, or in a step that fails
by itself, behind the calls and the draws of the steps before. In each case the knobs are those of
the frames entered so far. -/
theorem abort {job : Job α σ} {good : Output σ} (hgood : good.NeverFails)
    (hext : good.Extends job.output) (s₀ : RenderState α σ) :
    (∀ m call why, (job.calls s₀)[m]? = some call → call.answer = .error why →
      ∃ step s s', job.run s₀ = .error (step.raised why) s'.plain ∧
        job.StopsIn good s₀ step s (step.raised why) s' ∧
        job.calls s₀ = s.output.calls ++ [call] ∧ s.output.calls.length = m ∧
        ∃ path s'', (job.withOutput good).Takes s₀ step s s'' ∧
          s''.output.calls = s.output.calls ++ [⟨call.request, .ok path⟩] ∧ s''.draws = s.draws ∧
          s''.output.calls <+: (job.withOutput good).calls s₀) ∧
    ∀ fault s', job.run s₀ = .error fault s' → (∀ c ∈ job.calls s₀, c.Answered) →
      (job.withOutput good).run s₀ = .error fault s' ∧
      (job.withOutput good).calls s₀ = job.calls s₀ ∧
      ((job.calls s₀ = [] ∧ s'.draws = s₀.draws ∧ s'.knobs = s₀.knobs) ∨
        ∃ step s j, job.StopsIn good s₀ step s fault j ∧ j.plain = s' ∧
          job.calls s₀ = s.output.calls) := by
  constructor
  · intro m call why hm hwhy
    have hnot := Call.not_answered hwhy
    have hmem : call ∈ job.calls s₀ := List.mem_of_getElem? hm
    cases h : job.record s₀ with
    | ok report s => exact absurd (answered_of_record_ok h call hmem) hnot
    | error fault s' =>
      rw [calls_of_record_error h] at hm hmem ⊢
      obtain ⟨hnone, -⟩ | ⟨d, t, hd, ht⟩ := passes_of_record_error good h
      · rw [hnone] at hmem
        cases hmem
      obtain ⟨step, s, hin, hstop⟩ := record_error hgood hext hd ht h
      obtain ⟨hout, -⟩ | ⟨request, why', path, s'', hcalls, rfl, hother⟩ := hstop
      · exact absurd (hin.answered call (hout ▸ hmem)) hnot
      · rw [hcalls] at hm
        obtain ⟨hlen, rfl⟩ := Call.eq_last hin.answered hm hnot
        cases hwhy
        exact ⟨step, s, s', run_of_record_error h, hin, hcalls, hlen, path, s'', hother⟩
  · intro fault s' hrun hall
    obtain ⟨j, h, rfl⟩ := exists_record_error hrun
    have halike : (job.withOutput good).record s₀ = .error fault j →
        (job.withOutput good).run s₀ = .error fault j.plain ∧
          (job.withOutput good).calls s₀ = job.calls s₀ := fun hg =>
      ⟨run_of_record_error hg, (calls_of_record_error hg).trans (calls_of_record_error h).symm⟩
    rw [calls_of_record_error h] at hall halike ⊢
    obtain ⟨hnone, hdraws, hknobs, hg⟩ | ⟨d, t, hd, ht⟩ := passes_of_record_error good h
    · exact ⟨(halike hg).1, (halike hg).2, .inl ⟨hnone, hdraws, hknobs⟩⟩
    obtain ⟨step, s, hin, hstop⟩ := record_error hgood hext hd ht h
    obtain ⟨hout, hg⟩ | ⟨request, why, path, s'', hcalls, rfl, -⟩ := hstop
    · exact ⟨(halike hg).1, (halike hg).2, .inr ⟨step, s, j, hin, rfl, congrArg _ hout⟩⟩
    · have hlast : ⟨request, .error why⟩ ∈ j.output.calls := by
        rw [hcalls]
        exact List.mem_append_right _ (List.mem_singleton_self _)
      exact absurd (hall _ hlast) (Call.not_answered rfl)

end

/-- Two frames in which a picture is shown, and then saved in a format that the output does not
know. -/
def unknownFormat : Job Float Gallery where
  operations := [.display, .frames (.whole 2), .save "a.bad"]
  settings := movingDot.settings
  directory := some "d"
  output := Gallery.output { rejected := ["a.bad"] }

/-- The first frame stops at its `save`, behind the picture that it has shown, and where the format
is known the picture is saved. -/
theorem abort_unknownFormat : ∃ step s s' s'' call path,
    unknownFormat.run usedState = .error (.cannotSave "a.bad" (.unknownFormat ".bad")) s'.plain ∧
    unknownFormat.StopsIn (Gallery.output {}) usedState step s
      (.cannotSave "a.bad" (.unknownFormat ".bad")) s' ∧
    s.output.calls.length = 1 ∧ unknownFormat.calls usedState = s.output.calls ++ [call] ∧
    call.answer = .error (.unknownFormat ".bad") ∧
    (unknownFormat.withOutput (Gallery.output {})).Takes usedState step s s'' ∧
    s''.output.calls = s.output.calls ++ [⟨call.request, .ok path⟩] ∧ s''.draws = s.draws ∧
    s''.output.calls <+: (unknownFormat.withOutput (Gallery.output {})).calls usedState := by
  have hwhy : ((unknownFormat.calls usedState)[1]?).bind Call.fault? =
      some (.unknownFormat ".bad") := rfl
  have hfault : Render.fault? (unknownFormat.run usedState) =
      some (.cannotSave "a.bad" (.unknownFormat ".bad")) := rfl
  obtain ⟨call, hcall, hwhy⟩ := Option.bind_eq_some_iff.1 hwhy
  have hanswer := Call.answer_of_fault? hwhy
  obtain ⟨step, s, s', hrun, hin, hcalls, hlen, path, s'', hgood⟩ :=
    (abort Gallery.neverFails_output (Gallery.extends_output _) usedState).1 1 call _ hcall hanswer
  rw [hrun] at hfault
  have hraised : step.raised (.unknownFormat ".bad") = _ := Option.some.inj hfault
  rw [hraised] at hrun hin
  exact ⟨step, s, s', s'', call, path, hrun, hin, hlen, hcalls, hanswer, hgood⟩

end Job

end SceneScript
