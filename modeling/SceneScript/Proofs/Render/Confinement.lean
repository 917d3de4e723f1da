import SceneScript.Proofs.Animation.FrameOrder
import SceneScript.Proofs.Render.Abort
import SceneScript.Proofs.Storage.Resolve
import SceneScript.Script.Basic

/-!
# Where the files of an animation go

Whatever becomes of a run, it makes the calls of the first requests of its plan, in order, each with
the path that its step has (`Step.Asks`, `Job.calls_follow_plan`). The files of an animation are
those of its frames and that of the whole (`Directives.IsFile`), and their paths are made of the
directory of the job and the name that the script gives. So they lie inside the directory if the
name stays below it, and for a name that does not there is a directory that they do not lie inside
(`Job.animation_confined`).
-/

namespace SceneScript

namespace Step

variable {α : Type}

/-- Whether a step makes a call. -/
def isRequest : Step α → Bool
  | perform op => op.isRequest
  | leave _ | assemble => true
  | _ => false

/-- The call that a step makes, whatever its answer: a frame is saved in the directory under its own
name, and the animation is assembled there. -/
inductive Asks (d : Directives) (directory : String) : Step α → Call → Prop
  | save : Asks d directory (.perform (.save file)) ⟨.save picture file, answer⟩
  | display : Asks d directory (.perform .display) ⟨.display picture, answer⟩
  | leave : Asks d directory (.leave frame) ⟨.save picture (d.framePath directory frame), answer⟩
  | assemble : Asks d directory .assemble
      ⟨.assemble ⟨d.basename, frames, directory, duration⟩, answer⟩

end Step

/-- The files of an animation in a directory: those of its frames, and that of the whole. -/
inductive Directives.IsFile (d : Directives) (directory : String) : String → Prop
  | frame (f : Nat) : IsFile d directory (d.framePath directory f)
  | whole (frames : List String) (duration : Int) :
      IsFile d directory (Assembly.path ⟨d.basename, frames, directory, duration⟩)

/-! ## Calls follow the plan -/

section
variable {α σ : Type} {d : Directives} {directory : String} {steps more : List (Step α)}
  {s s' s'' : RenderState α (Journal σ)}

/-- The calls that lead from one state with a journal to another are those of the given steps. -/
def Step.Makes (d : Directives) (directory : String) (steps : List (Step α))
    (s s' : RenderState α (Journal σ)) : Prop :=
  ∃ calls, s'.output.calls = s.output.calls ++ calls ∧
    List.Forall₂ (Step.Asks d directory) steps calls

/-- No call is made when the output is left alone. -/
theorem Step.makes_nil (h : s'.output = s.output) :
    Step.Makes d directory ([] : List (Step α)) s s' :=
  ⟨[], by rw [h, List.append_nil], .nil⟩

/-- The calls of steps and of more steps. -/
theorem Step.Makes.append (h : Step.Makes d directory steps s s')
    (h' : Step.Makes d directory more s' s'') : Step.Makes d directory (steps ++ more) s s'' := by
  obtain ⟨calls, hcalls, hasked⟩ := h
  obtain ⟨calls', hcalls', hasked'⟩ := h'
  refine ⟨calls ++ calls', ?_, List.rel_append hasked hasked'⟩
  rw [hcalls', hcalls, List.append_assoc]

end

namespace Render

section
variable {α σ : Type} {out : Output σ} {op : Operation α} {s s' : RenderState α σ} {fault : Fault}

/-- An operation that asks for nothing leaves the output alone. -/
theorem Performs.output_eq [Scalar α] [Trig α] {settings : Settings α}
    (h : Performs settings out op s s') (hop : op.isRequest = false) : s'.output = s.output := by
  cases h with
  | save | display => cases hop
  | _ => rfl

/-- An operation that asks for nothing and stops at a fault leaves the output alone, too. -/
theorem Fails.output_eq (h : Fails out op s fault s') (hop : op.isRequest = false) :
    s'.output = s.output := by
  cases h with
  | save | display => cases hop
  | raises => rfl

end

section
variable {α σ : Type} {out : Output σ} {op : Operation α} {s s' : RenderState α (Journal σ)}
  {fault : Fault} {d : Directives} {directory : String}

/-- An operation that succeeds makes its call, if it is a request. -/
theorem Performs.makes [Scalar α] [Trig α] {settings : Settings α}
    (h : Performs settings out.journaled op s s') :
    Step.Makes d directory ([Step.perform op].filter (·.isRequest)) s s' := by
  cases hop : op.isRequest with
  | false =>
    rw [List.filter_cons_of_neg (by simp [Step.isRequest, hop])]
    exact Step.makes_nil (h.output_eq hop)
  | true =>
    rw [List.filter_cons_of_pos (by simp [Step.isRequest, hop])]
    cases h with
    | save hr => exact ⟨_, Reply.calls_journaled_ok hr .., .cons .save .nil⟩
    | display hr => exact ⟨_, Reply.calls_journaled_ok hr .., .cons .display .nil⟩
    | push | pop => cases hop
    | moves hm => cases hm <;> cases hop
    | draws ho => cases ho <;> cases hop
    | directive hd =>
      cases op with
      | save | display => cases hd
      | _ => cases hop

/-- An operation that stops at a fault makes its call, if it is a request. -/
theorem Fails.makes (h : Fails out.journaled op s fault s') :
    Step.Makes d directory ([Step.perform op].filter (·.isRequest)) s s' := by
  cases hop : op.isRequest with
  | false =>
    rw [List.filter_cons_of_neg (by simp [Step.isRequest, hop])]
    exact Step.makes_nil (h.output_eq hop)
  | true =>
    rw [List.filter_cons_of_pos (by simp [Step.isRequest, hop])]
    cases h with
    | save hw => exact ⟨_, Reply.calls_journaled_error hw .., .cons .save .nil⟩
    | display hw => exact ⟨_, Reply.calls_journaled_error hw .., .cons .display .nil⟩
    | raises h => cases h.symm.trans hop

end

end Render

namespace Job

open Render

section
variable {α σ : Type} [Scalar α] [Trig α] {job : Job α σ} {d : Directives} {t : Timeline α}
  {directory : String} {step : Step α} {steps : List (Step α)} {report report' : Report}
  {s s' : RenderState α (Journal σ)} {fault : Fault}

/-- A step that succeeds makes its call, if it is to make one. -/
theorem makes_of_take_ok (hdir : job.directory = some directory)
    (h : job.journaled.take d t report step s = .ok report' s') :
    Step.Makes d directory ([step].filter (·.isRequest)) s s' := by
  have hdir' : job.journaled.directory = some directory := hdir
  cases step with
  | enter frame =>
    obtain ⟨_, s₁, henter, hreport⟩ := bind_ok.1 h
    obtain ⟨-, rfl⟩ := pure_ok.1 hreport
    obtain ⟨bindings, -, rfl⟩ := enter_ok henter
    exact Step.makes_nil rfl
  | perform op =>
    obtain ⟨_, s₁, hp, hreport⟩ := bind_ok.1 h
    obtain ⟨-, rfl⟩ := pure_ok.1 hreport
    exact (perform_ok hp).makes
  | leave frame =>
    obtain ⟨path, s₁, hexport, hreport⟩ := bind_ok.1 h
    obtain ⟨-, rfl⟩ := pure_ok.1 hreport
    obtain ⟨-, hr, rfl⟩ := (exportFrame_ok_iff hdir').1 hexport
    exact ⟨_, Reply.calls_journaled_ok hr .., .cons .leave .nil⟩
  | collect =>
    simp only [take, bind_ok, read_ok, pure_ok] at h
    obtain ⟨_, _, ⟨-, rfl⟩, -, rfl⟩ := h
    exact Step.makes_nil rfl
  | assemble =>
    obtain ⟨path, hr, -, rfl⟩ := (take_assemble_ok_iff hdir').1 h
    exact ⟨_, Reply.calls_journaled_ok hr .., .cons .assemble .nil⟩

/-- A step that stops at a fault has made its call, if it is to make one and could name the file. -/
theorem makes_of_take_error (hdir : job.directory = some directory)
    (h : job.journaled.take d t report step s = .error fault s') :
    ∃ asked, asked <+: [step].filter (·.isRequest) ∧ Step.Makes d directory asked s s' := by
  have hdir' : job.journaled.directory = some directory := hdir
  cases step with
  | enter frame =>
    simp only [take, enter, bind_error, ofExcept_error, bindKnobs, modify_error, pure_error,
      and_false, exists_false, or_false] at h
    obtain ⟨-, rfl⟩ := h
    exact ⟨[], List.nil_prefix, Step.makes_nil rfl⟩
  | collect => cases h
  | perform op =>
    simp only [take, bind_error, pure_error, and_false, exists_false, or_false] at h
    exact ⟨_, List.prefix_rfl, (perform_error h).makes⟩
  | leave frame =>
    simp only [take, bind_error, pure_error, and_false, exists_false, or_false] at h
    by_cases hname : d.NamesFrame frame
    · obtain ⟨hw, rfl⟩ := exportFrame_error hdir' hname h
      exact ⟨_, List.prefix_rfl, _, Reply.calls_journaled_error hw .., .cons .leave .nil⟩
    · cases (exportFrame_of_not_namesFrame hname).symm.trans h
      exact ⟨[], List.nil_prefix, Step.makes_nil rfl⟩
  | assemble =>
    obtain ⟨hw, rfl⟩ := take_assemble_error hdir' h
    exact ⟨_, List.prefix_rfl, _, Reply.calls_journaled_error hw .., .cons .assemble .nil⟩

/-- Steps that succeed make their calls, in order. -/
theorem makes_of_follow_ok (hdir : job.directory = some directory)
    (h : job.journaled.follow d t steps report s = .ok report' s') :
    Step.Makes d directory (steps.filter (·.isRequest)) s s' := by
  induction steps generalizing report s with
  | nil =>
    obtain ⟨-, rfl⟩ := pure_ok.1 h
    exact Step.makes_nil rfl
  | cons step steps ih =>
    rw [follow_cons, bind_ok] at h
    obtain ⟨report₁, s₁, hstep, h⟩ := h
    rw [← List.singleton_append, List.filter_append]
    exact (makes_of_take_ok hdir hstep).append (ih h)

/-- Whatever becomes of steps, they make the calls of the first requests among them. -/
theorem makes_of_follow (hdir : job.directory = some directory) :
    ∃ asked, asked <+: steps.filter (·.isRequest) ∧
      Step.Makes d directory asked s (final (job.journaled.follow d t steps report s)) := by
  cases h : job.journaled.follow d t steps report s with
  | ok report' s' => exact ⟨_, List.prefix_rfl, makes_of_follow_ok hdir h⟩
  | error fault s' =>
    -- the step that fails may have made its call, too
    obtain ⟨before, step, after, reached, s₁, rfl, hbefore, hstep⟩ := follow_error h
    obtain ⟨asked, hasked, hmakes⟩ := makes_of_take_error hdir hstep
    refine ⟨before.filter (·.isRequest) ++ asked, ?_,
      (makes_of_follow_ok hdir hbefore).append hmakes⟩
    rw [← List.singleton_append, List.filter_append, List.filter_append]
    exact (List.prefix_append_right_inj _).2 (hasked.trans (List.prefix_append _ _))

/-- Whatever becomes of a run, its calls are those of the first requests of its plan. -/
theorem calls_follow_plan (hd : Directives.ofOperations job.operations = .ok d)
    (hdir : job.directory = some directory) (s₀ : RenderState α σ) :
    ∃ asked, asked <+: (job.plan d).filter (·.isRequest) ∧
      List.Forall₂ (Step.Asks d directory) asked (job.calls s₀) := by
  have hd' : Directives.ofOperations job.journaled.operations = .ok d := hd
  cases ht : Timeline.ofOperations job.journaled.operations d.frames with
  | error fault =>
    have hrun : job.record s₀ = .error fault _ := run_of_ramps_error hd' ht
    refine ⟨[], List.nil_prefix, ?_⟩
    rw [calls_of_record_error hrun]
    exact .nil
  | ok t =>
    have hmakes : ∃ asked, asked <+: (job.plan d).filter (·.isRequest) ∧
        Step.Makes d directory asked (job.outset d t s₀) (final (job.record s₀)) := by
      rw [record_eq_reach hd ht, reach_eq_follow]
      exact makes_of_follow hdir
    obtain ⟨asked, hasked, made, hmade, hforall⟩ := hmakes
    rw [calls_outset, List.nil_append] at hmade
    refine ⟨asked, hasked, ?_⟩
    rw [calls, hmade]
    exact hforall

end

end Job

/-! ## The files of an animation -/

/-- The file of an animation is named by the script, with the directory in front and a text behind
that holds no slash. -/
theorem Directives.IsFile.exists_eq {d : Directives} {directory path : String}
    (h : d.IsFile directory path) : ∃ tail : String, '/' ∉ tail.toList ∧ 2 < tail.length ∧
      path = Path.join directory (d.basename ++ tail) := by
  cases h with
  | frame f =>
    refine ⟨Decimal.digits d.columns f ++ ".png", d.slash_notMem_index f, ?_, ?_⟩
    · have hext : ".png".length = 4 := rfl
      rw [String.length_append, hext]
      omega
    · rw [framePath, frameFile_eq, String.append_assoc]
  | whole => exact ⟨".gif", by decide, by decide, rfl⟩

namespace Job

section
variable {α σ : Type} [Scalar α] [Trig α] {d : Directives} {directory : String}

/-- Where the files of an animation go. Whatever becomes of a run, its calls are those of the first
requests of its plan, in order, so each frame that is exported and the animation that is assembled
have the paths of the animation's files in the directory. Such a file lies inside the directory
exactly if the directories in its name lead to somewhere in it or back to it. The names for which
all files lie inside whatever directory is given are those that are not absolute and never leave
more directories than they have entered. -/
theorem animation_confined {job : Job α σ}
    (hd : Directives.ofOperations job.operations = .ok d) (hdir : job.directory = some directory)
    (s₀ : RenderState α σ) (start : List String) :
    (∃ asked, asked <+: (job.plan d).filter (·.isRequest) ∧
      List.Forall₂ (Step.Asks d directory) asked (job.calls s₀)) ∧
    (∀ path, d.IsFile directory path → (Path.Inside start directory path ↔
      Path.resolve start directory <+:
        Path.descend (Path.resolve start directory) d.basename)) ∧
    (Path.StaysBelow d.basename ↔ ∀ (start : List String) (directory path : String),
      d.IsFile directory path → Path.Inside start directory path) := by
  refine ⟨calls_follow_plan hd hdir s₀, fun path hpath => ?_, ?_⟩
  · obtain ⟨tail, hslash, hlen, rfl⟩ := hpath.exists_eq
    exact Path.inside_join_iff hslash hlen
  · rw [Path.staysBelow_iff]
    constructor
    · intro h start directory path hpath
      obtain ⟨tail, hslash, hlen, rfl⟩ := hpath.exists_eq
      exact (Path.inside_join_iff hslash hlen).2 (h start directory)
    · intro h start directory
      have hfile : d.IsFile directory (Assembly.path ⟨d.basename, [], directory, 0⟩) := .whole [] 0
      obtain ⟨tail, hslash, hlen, heq⟩ := hfile.exists_eq
      have hinside := h start directory _ hfile
      rw [heq] at hinside
      exact (Path.inside_join_iff hslash hlen).1 hinside

end

/-- The moving dot, with a name that goes down, up again, and down elsewhere. -/
def nestedDot : Job Float Gallery :=
  { movingDot with operations := .basename "near/../far/dot" :: movingDot.operations }

/-- Its name stays below the directory of its frames, so all its files lie inside. -/
theorem animation_confined_nestedDot : ∃ d asked,
    Directives.ofOperations nestedDot.operations = .ok d ∧
    asked <+: (nestedDot.plan d).filter (·.isRequest) ∧
    List.Forall₂ (Step.Asks d "frames") asked (nestedDot.calls usedState) ∧
    Path.StaysBelow d.basename ∧
    d.framePath "frames" 1 = "frames/near/../far/dot001.png" ∧
    Path.Inside ["work"] "frames" (d.framePath "frames" 1) := by
  have hd : Directives.ofOperations nestedDot.operations = .ok ⟨2, "near/../far/dot", false⟩ := rfl
  obtain ⟨⟨asked, hasked, hcalls⟩, hinside, hstays⟩ :=
    animation_confined hd (show nestedDot.directory = some "frames" from rfl) usedState ["work"]
  refine ⟨_, asked, hd, hasked, hcalls, ?_, rfl, (hinside _ (.frame 1)).2 ?_⟩
  · decide
  · decide

/-- A script that gives two frames a name. -/
def named (name : String) : Script :=
  .ofStatements [.perform (.frames (.whole 2)), .perform (.basename name)]

/-- Two frames with a name, rendered into the directory `anim`. -/
def twoFrames (name : String) : Job Float Gallery where
  operations := (named name).operations
  settings := movingDot.settings
  directory := some "anim"
  output := Gallery.output {}

/-- Animations that leave their directory: those of scripts with an absolute name, and with a name
that goes up. -/
theorem exists_outside :
    Script.ofText "frames 2\nbasename /x" = .ok (named "/x") ∧
    Script.ofText "frames 2\nbasename ../x" = .ok (named "../x") ∧
    (∃ report s, (twoFrames "/x").run usedState = .ok report s ∧
      report.framePaths = ["/x000.png", "/x001.png"] ∧ report.animation = some "/x.gif" ∧
      ∀ path ∈ ["/x000.png", "/x001.png", "/x.gif"], ¬ Path.Inside ["work"] "anim" path) ∧
    ∃ report s, (twoFrames "../x").run usedState = .ok report s ∧
      report.framePaths = ["anim/../x000.png", "anim/../x001.png"] ∧
      report.animation = some "anim/../x.gif" ∧
      ∀ path ∈ ["anim/../x000.png", "anim/../x001.png", "anim/../x.gif"],
        ¬ Path.Inside ["work"] "anim" path := by
  have hrooted : Render.result? ((twoFrames "/x").run usedState) = some
      ⟨2, "/x", ["/x000.png", "/x001.png"], [], some "/x.gif"⟩ := by decide +kernel
  have hclimbing : Render.result? ((twoFrames "../x").run usedState) = some
      ⟨2, "../x", ["anim/../x000.png", "anim/../x001.png"], [], some "anim/../x.gif"⟩ := by
    decide +kernel
  refine ⟨rfl, rfl, ⟨_, _, Render.eq_ok_of_result? hrooted, rfl, rfl, ?_⟩,
    ⟨_, _, Render.eq_ok_of_result? hclimbing, rfl, rfl, ?_⟩⟩
  · decide
  · decide

end Job

end SceneScript
