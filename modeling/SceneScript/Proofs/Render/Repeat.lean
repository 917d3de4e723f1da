import SceneScript.Light
import SceneScript.Proofs.Render.Schedule

/-!
# Running again

A run leaves the canvas drawn, the stack as it is, and the knobs at their last values. The next run
starts with a new stack and an empty canvas, but it keeps the knobs. A knob that the first frame
binds has the same value in that frame in both runs; the others must have their initial values again
when the first run ends (`Timeline.Restores`). Then the second run is like the first
(`Job.run_again`). The knob of a ramp that starts in a later frame has its last value instead, and
the second run may draw something else, or stop where the first did not (`Job.growingBox_again`).
-/

namespace SceneScript

/-- The knobs that the first frame does not bind have their initial values again behind the last. -/
def Timeline.Restores {α : Type} (t : Timeline α) (initial : Knobs α) : Prop :=
  ∀ name, t.bound? 0 name = none → t.Gives initial t.slots.size name (initial.lookup? name)

/-- That is so if the first frame binds all knobs that are bound in any. -/
theorem Timeline.restores_of_first {α : Type} {t : Timeline α} {initial : Knobs α}
    (h : ∀ frame name, t.bound? 0 name = none → t.bound? frame name = none) :
    t.Restores initial := fun name hname => .initial fun frame _ => h frame name hname

section
variable {α σ : Type} {R : σ → σ → Prop}

/-- An output that replies alike in related states, and is left in related states. -/
structure Output.Repeats (out : Output σ) (R : σ → σ → Prop) : Prop where
  save : R o o' → ∀ p path, (out.save p path o).result = (out.save p path o').result ∧
    R (out.save p path o).state (out.save p path o').state
  display : R o o' → ∀ p, (out.display p o).result = (out.display p o').result ∧
    R (out.display p o).state (out.display p o').state
  assemble : R o o' → ∀ a, (out.assemble a o).result = (out.assemble a o').result ∧
    R (out.assemble a o).state (out.assemble a o').state

/-- A gallery without rules replies alike whatever it has got. -/
theorem Gallery.repeats_output : (Gallery.output {}).Repeats fun _ _ => True where
  save _ p path := by
    simp only [output, save_free]
    exact ⟨trivial, trivial⟩
  display _ _ := ⟨rfl, trivial⟩
  assemble _ _ := ⟨rfl, trivial⟩

/-- Two states of runs with journals in which the next steps do the same: they show the same scene,
have saved the same files and made the same calls, and the output replies alike. -/
structure RenderState.Repeats (R : σ → σ → Prop) (s s' : RenderState α (Journal σ)) : Prop
    extends s.SameScene s' where
  saved : s.saved = s'.saved
  calls : s.output.calls = s'.output.calls
  output : R s.output.state s'.output.state

namespace Render

/-- Replies that are alike are written down alike. -/
theorem answers_journaled {β : Type} {s s' : RenderState α (Journal σ)} (h : s.Repeats R s')
    {r r' : Reply σ β} (hr : r.result = r'.result ∧ R r.state r'.state) (request : Request)
    (path : β → Option String) :
    Answers (RenderState.Repeats R) s s' (r.journaled s.output.calls request path)
      (r'.journaled s'.output.calls request path) := by
  refine ⟨hr.1, ⟨⟨h.stack, h.canvas, h.knobs⟩, h.saved, ?_, hr.2⟩⟩
  show s.output.calls ++ [⟨request, r.result.map path⟩] =
    s'.output.calls ++ [⟨request, r'.result.map path⟩]
  rw [h.calls, hr.1]

/-- Steps do the same in states in which the output replies alike. -/
theorem pairing_repeats {out : Output σ} (hout : out.Repeats R) :
    Pairing out.journaled out.journaled (RenderState.Repeats (α := α) R) where
  stack_eq h := h.stack
  canvas_eq h := h.canvas
  lookup?_eq h := h.knobs
  stack h _ := ⟨⟨rfl, h.canvas, h.knobs⟩, h.saved, h.calls, h.output⟩
  canvas h _ := ⟨⟨h.stack, rfl, h.knobs⟩, h.saved, h.calls, h.output⟩
  bindings h _ := by
    refine ⟨⟨h.stack, h.canvas, fun name => ?_⟩, h.saved, h.calls, h.output⟩
    simp only [Knobs.lookup?_merge, h.knobs]
  saved h path := ⟨⟨h.stack, h.canvas, h.knobs⟩, congrArg (·.push path) h.saved, h.calls, h.output⟩
  draws h _ := ⟨⟨h.stack, h.canvas, h.knobs⟩, h.saved, h.calls, h.output⟩
  notes h _ := ⟨⟨h.stack, h.canvas, h.knobs⟩, h.saved, h.calls, h.output⟩
  save h p path := answers_journaled h (hout.save h.output p path) _ _
  display h p := answers_journaled h (hout.display h.output p) _ _
  assemble h a := answers_journaled h (hout.assemble h.output a) _ _

end Render

end

namespace Job

section
variable {α σ : Type} {job : Job α σ} {d : Directives} {s s' : RenderState α σ}
  {paths : List String} {report : Report}

/-- Closing a run leaves the knobs and the canvas. -/
theorem close_ok (h : job.close d paths s = .ok report s') :
    s'.knobs = s.knobs ∧ s'.canvas = s.canvas := by
  simp only [close, Render.bind_ok, Render.read_ok] at h
  obtain ⟨_, _, ⟨rfl, rfl⟩, h⟩ := h
  split at h
  · cases hdir : job.directory with
    | none =>
      rw [framesDirectory, hdir] at h
      cases h
    | some directory =>
      simp only [framesDirectory, hdir, pure_bind, Render.bind_ok, Render.ask_ok,
        Render.pure_ok] at h
      obtain ⟨_, _, ⟨-, rfl⟩, -, rfl⟩ := h
      exact ⟨rfl, rfl⟩
  · obtain ⟨-, rfl⟩ := Render.pure_ok.1 h
    exact ⟨rfl, rfl⟩

end

section
variable {α σ : Type} [Scalar α] {job : Job α σ} {d : Directives} {s s' : RenderState α σ}

/-- Leaving a frame keeps the knobs, and the size and the background of the canvas. -/
theorem leave_ok {f : Nat} {path : Option String} (h : job.leave d f s = .ok path s') :
    s'.knobs = s.knobs ∧ s'.canvas.clear = s.canvas.clear := by
  unfold leave at h
  split at h
  · rw [map_eq_pure_bind, Render.bind_ok] at h
    obtain ⟨_, _, hexport, hpure⟩ := h
    obtain ⟨-, rfl⟩ := Render.pure_ok.1 hpure
    obtain ⟨-, hc, hk⟩ := exportFrame_ok hexport
    refine ⟨hk, ?_⟩
    rw [hc]
    rfl
  · obtain ⟨-, rfl⟩ := Render.pure_ok.1 h
    exact ⟨rfl, rfl⟩

end

section
variable {α σ τ : Type} [Scalar α] [Trig α] {job : Job α σ} {d : Directives} {t : Timeline α}
  {s s' : RenderState α σ} {paths : List String} {report : Report}

/-- The rest of a run behind the operations of a frame is alike from related states that have the
same saved files. -/
theorem relates_finish {out' : Output τ} {T : RenderState α σ → RenderState α τ → Prop}
    (hT : Render.Pairing job.output out' T) (hsaved : ∀ {s s'}, T s s' → s.saved = s'.saved)
    {frame : Nat} :
    Render.Relates T (job.finish d t frame paths)
      ((job.redirected out').finish d t frame paths) := by
  have hclose (paths : List String) :
      Render.Relates T (job.close d paths) ((job.redirected out').close d paths) := by
    refine (Render.relates_read fun h => congrArg Array.toList (hsaved h)).bind fun _ => ?_
    cases d.isAnimated with
    | true =>
      exact relates_framesDirectory.bind fun _ =>
        (Render.relates_ask fun h => hT.assemble h _).bind fun _ => Render.relates_pure
    | false => exact Render.relates_pure
  have hleave : Render.Relates T (job.leave d frame) ((job.redirected out').leave d frame) := by
    unfold leave
    cases d.isAnimated with
    | true => exact (relates_exportFrame hT).map some
    | false => exact Render.relates_pure
  exact hleave.bind fun _ => (relates_renderFrames hT).bind fun _ => hclose _

/-- A run keeps the size and the background of the canvas, and gives the knobs the values that the
timeline has for them in all its frames. -/
theorem run_leaves {s₀ : RenderState α σ} (hd : Directives.ofOperations job.operations = .ok d)
    (ht : Timeline.ofOperations job.operations d.frames = .ok t)
    (h : job.run s₀ = .ok report s') :
    s'.canvas.clear = s₀.canvas.clear ∧
      ∀ name, t.Gives s₀.knobs t.slots.size name (s'.knobs.lookup? name) := by
  have hpos := Directives.frames_pos hd
  have hsize := Timeline.size_ofOperations ht
  -- the last frame is looked at, which a still picture has as well
  obtain ⟨f, hf⟩ : ∃ f, d.frames.toNat = f + 1 := Nat.exists_eq_succ_of_ne_zero (by omega)
  have hlt : f < t.slots.size := by omega
  have hfirst : d.isAnimated = true ∨ f = 0 := by
    simp only [Directives.isAnimated, decide_eq_true_eq]
    omega
  rw [run_eq hd ht (f := f) (by omega)] at h
  simp only [finish, proceed, Render.bind_ok, hf, Nat.sub_self, List.range'_zero, renderFrames,
    Render.pure_ok] at h
  obtain ⟨_, s₁, happroach, _, s₂, henter, _, s₃, hexec, _, s₄, hleave, _, _, ⟨-, rfl⟩, hclose⟩ := h
  obtain ⟨-, hc₁, hk₁⟩ := approach_ok hfirst (Nat.le_of_lt hlt) happroach
  obtain ⟨_, henter', -, hc₂, -, hk₂⟩ := enter_of_lt (s := s₁) hlt
  cases henter'.symm.trans henter
  obtain ⟨hk₃, hc₃⟩ := Render.execute_keeps hexec
  obtain ⟨hk₄, hc₄⟩ := leave_ok hleave
  obtain ⟨hk₅, hc₅⟩ := close_ok hclose
  refine ⟨?_, fun name => ?_⟩
  · rw [hc₅, hc₄, hc₃, hc₂, hc₁]
    rfl
  · rw [hk₅, hk₄, hk₃, hk₂, hsize, hf]
    exact (hk₁ name).next

/-- A run comes to the operations of its first frame whatever was before. -/
theorem exists_start (job : Job α σ) (d : Directives) (s₀ : RenderState α σ)
    (ht : 0 < t.slots.size) : ∃ s₁ s,
    job.approach d t 0 s₀ = .ok [] s₁ ∧ enter t 0 s₁ = .ok () s ∧ s.stack = .initial ∧
    s.canvas = s₀.canvas.clear ∧ s.saved = #[] ∧ s.output = s₀.output ∧
    ∀ name, s.knobs.lookup? name = (t.bound? 0 name).or (s₀.knobs.lookup? name) := by
  obtain ⟨s₁, happroach, hstack, hcanvas, hsaved, houtput, hknobs⟩ : ∃ s₁,
      job.approach d t 0 s₀ = .ok [] s₁ ∧ s₁.stack = .initial ∧ s₁.canvas = s₀.canvas.clear ∧
      s₁.saved = #[] ∧ s₁.output = s₀.output ∧ s₁.knobs = s₀.knobs :=
    ⟨_, rfl, rfl, rfl, rfl, rfl, rfl⟩
  obtain ⟨s, henter, hstack', hcanvas', houtput', hlookup⟩ := enter_of_lt (s := s₁) ht
  have hsaved' : s.saved = s₁.saved := by
    obtain ⟨_, -, rfl⟩ := enter_ok henter
    rfl
  refine ⟨s₁, s, happroach, henter, hstack'.trans hstack, hcanvas'.trans hcanvas,
    hsaved'.trans hsaved, houtput'.trans houtput, fun name => ?_⟩
  rw [hlookup, hknobs]

/-- Runs do the same when their first frames start with the same values of the knobs, on canvases of
one size and background, and the output replies alike. -/
theorem record_alike {R : σ → σ → Prop} (hout : job.output.Repeats R)
    (hd : Directives.ofOperations job.operations = .ok d)
    (ht : Timeline.ofOperations job.operations d.frames = .ok t) {s₀ s₀' : RenderState α σ}
    (hcanvas : s₀.canvas.clear = s₀'.canvas.clear) (hR : R s₀.output s₀'.output)
    (hknobs : ∀ name, t.bound? 0 name = none →
      s₀.knobs.lookup? name = s₀'.knobs.lookup? name) :
    Render.Outcomes (RenderState.Repeats R) (job.record s₀) (job.record s₀') := by
  have hpos := Directives.frames_pos hd
  have hsize : 0 < t.slots.size := by
    rw [Timeline.size_ofOperations ht]
    omega
  obtain ⟨s₁, s, happroach, henter, hst, hc, hsaved, ho, hk⟩ :=
    exists_start job.journaled d s₀.journaled hsize
  obtain ⟨s₁', s', happroach', henter', hst', hc', hsaved', ho', hk'⟩ :=
    exists_start job.journaled d s₀'.journaled hsize
  have hstart : s.Repeats R s' := by
    refine ⟨⟨hst.trans hst'.symm, ?_, fun name => ?_⟩, hsaved.trans hsaved'.symm, ?_, ?_⟩
    · rw [hc, hc']
      exact hcanvas
    · rw [hk, hk']
      cases hb : t.bound? 0 name with
      | some v => rfl
      | none => exact hknobs name hb
    · rw [ho, ho']
      rfl
    · rw [ho, ho']
      exact hR
  have hT := Render.pairing_repeats (α := α) hout
  have hd' : Directives.ofOperations job.journaled.operations = .ok d := hd
  have hrun := run_eq hd' ht (f := 0) hpos
  have hrest : Render.Relates (RenderState.Repeats R)
      (do Render.execute job.settings job.output.journaled job.operations
          job.journaled.finish d t 0 [])
      (do Render.execute job.settings job.output.journaled job.operations
          job.journaled.finish d t 0 []) :=
    (Render.relates_execute hT).bind fun _ => relates_finish hT fun h => h.saved
  unfold record
  rw [hrun, Render.bind_of_ok happroach, Render.bind_of_ok henter, Render.bind_of_ok happroach',
    Render.bind_of_ok henter']
  exact hrest s s' hstart

/-- A run can be repeated when the knobs that the first frame does not bind end with the values that
they have at first. On the state that it leaves, and with an output that replies alike, the second
run returns the same report and makes the same calls with the same pictures. -/
theorem run_again {R : σ → σ → Prop} (hout : job.output.Repeats R)
    (hd : Directives.ofOperations job.operations = .ok d)
    (ht : Timeline.ofOperations job.operations d.frames = .ok t) {s₀ : RenderState α σ}
    (hknobs : t.Restores s₀.knobs) (h : job.run s₀ = .ok report s')
    (hR : R s₀.output s'.output) :
    ∃ s'', job.run s' = .ok report s'' ∧ job.calls s' = job.calls s₀ := by
  obtain ⟨hcanvas, hgives⟩ := run_leaves hd ht h
  have halike := record_alike hout hd ht hcanvas.symm hR fun name hb =>
    (hknobs name hb).unique (hgives name)
  obtain ⟨j, hrec, -⟩ := exists_record_ok h
  rw [hrec] at halike
  generalize hrec' : job.record s' = again at halike
  cases halike with
  | @ok _ j' _ hj =>
    refine ⟨j'.plain, run_of_record_ok hrec', ?_⟩
    rw [calls_of_record_ok hrec, calls_of_record_ok hrec', hj.calls]

end

/-- A dot that moves from the left to the right in two frames. -/
def slidingDot : Job Float Gallery :=
  { movingDot with
    operations := [.move ⟨1, 0, 0⟩ (some "k"), .line ⟨0, 0, 0⟩ ⟨0, 0, 0⟩, .frames (.whole 2),
      .vary ⟨"k", 0, 1, 0, 1⟩] }

/-- The first frame binds the knob of the dot. So the run can be repeated, though it leaves the knob
with another value. -/
theorem run_again_slidingDot : ∃ report s' s'', slidingDot.run usedState = .ok report s' ∧
    s'.knobs.lookup? "k" = some 1 ∧ slidingDot.run s' = .ok report s'' ∧
    slidingDot.calls s' = slidingDot.calls usedState := by
  have hreport : Render.result? (slidingDot.run usedState) = some
      ⟨2, "basename", ["frames/basename000.png", "frames/basename001.png"], [],
        some "frames/basename.gif"⟩ := by decide +kernel
  have hrun := Render.eq_ok_of_result? hreport
  have hd : Directives.ofOperations slidingDot.operations = .ok ⟨2, "basename", true⟩ := rfl
  have ht : Timeline.ofOperations slidingDot.operations 2 =
    .ok ⟨#[.ofList [("k", 0)], .ofList [("k", 1)]]⟩ := rfl
  have hrestores : Timeline.Restores ⟨#[.ofList [("k", 0)], .ofList [("k", 1)]]⟩
      usedState.knobs := by
    refine Timeline.restores_of_first fun frame name hname => ?_
    have hk : "k" ≠ name := by
      rintro rfl
      cases hname
    rcases frame with _ | _ | frame
    · exact hname
    · show (Knobs.empty.set "k" (1 : Float)).lookup? name = none
      rw [Knobs.lookup?_set, if_neg hk]
      rfl
    · rfl
  obtain ⟨s'', hagain, hcalls⟩ := run_again Gallery.repeats_output hd ht hrestores hrun trivial
  exact ⟨_, _, s'', hrun, by decide +kernel, hagain, hcalls⟩

/-- A box that two knobs scale, each of them in one of two frames. Its script does not give the
second knob a value in the first frame. -/
def growingBox : Job Float Gallery :=
  { movingDot with
    operations := [.scale ⟨1, 1, 1⟩ (some "k"), .scale ⟨1, 1, 1⟩ (some "m"),
      .box ⟨0, 0, 0⟩ ⟨1, 1, 1⟩, .frames (.whole 2), .vary ⟨"k", 0, 1, 1e100, 0⟩,
      .vary ⟨"m", 1, 1, 1e100, 1e100⟩]
    settings := { width := 2, height := 1, surface := ({} : Light).surface } }

/-- The state in which the growing box starts, with no extent. -/
def growingState : RenderState Float Gallery :=
  { usedState with knobs := .ofList [("k", 0), ("m", 0)] }

/-- The first run of the growing box returns. In the first frame of the next one the second knob has
the value of the last frame still, the box is too large for its sides to have a colour, and the run
stops. -/
theorem growingBox_again : ∃ report s' fault s'', growingBox.run growingState = .ok report s' ∧
    s'.knobs.lookup? "m" = some 1e100 ∧ growingBox.run s' = .error fault s'' := by
  have hreport : Render.result? (growingBox.run growingState) = some
      ⟨2, "basename", ["frames/basename000.png", "frames/basename001.png"], [],
        some "frames/basename.gif"⟩ := by decide +kernel
  have hfault : (Render.fault? (growingBox.run (Render.final
      (growingBox.run growingState)))).isSome = true := by decide +kernel
  obtain ⟨fault, s'', hagain⟩ := Render.exists_eq_error hfault
  exact ⟨_, _, fault, s'', Render.eq_ok_of_result? hreport, by decide +kernel, hagain⟩

end Job

end SceneScript
