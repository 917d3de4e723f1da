import SceneScript.Command.Run
import SceneScript.Proofs.Render.Foreign
import SceneScript.Proofs.Render.Plan
import SceneScript.Proofs.Render.Structure
import SceneScript.Proofs.Script.Counts

/-!
# Faults that escape

A run of a script in the default settings should stop at faults of the script or of the system
alone. It does so unless it comes to an operation that it cannot compute: a rotation by an angle
that is not finite when its knob has been multiplied in, a shape with a side that faces the viewer
and has no colour, or one with a side or an edge for which a cell is undefined
(`Operation.Escapes`, `Job.foreign_faults`). Finite operands can lead to all of them, since products
and differences may leave the range of doubles (`Job.foreign_faults_farAngle`).
-/

namespace SceneScript

/-- What an operation cannot compute in the state `s`: the cosine of an angle whose radians are not
finite, the colour or the bounds of a triangle that faces the viewer, or the cells of an edge. -/
inductive Operation.Escapes {σ : Type} (s : RenderState Float σ) : Operation Float → Fault → Prop
  | angle : s.knobs.factor knob = .ok f →
      (resolved f a * (Angle.pi / 180.0)).isInf = true →
      Escapes s (.rotate axis a knob) .angleNotFinite
  | side : op.Outlines defaultSettings.step .triangles points →
      Mesh.Triangle p q r (s.stack.top.points points) →
      defaultSettings.surface.Colourless p q r fault → Escapes s op fault
  | bound : op.Outlines defaultSettings.step .triangles points →
      Mesh.Triangle p q r (s.stack.top.points points) →
      defaultSettings.surface.Unbounded s.canvas.extent p q r fault → Escapes s op fault
  | coordinate : op.Outlines defaultSettings.step .segments points →
      Edges.Segment p q (s.stack.top.points points) →
      v ∈ Segment.rounded s.canvas.extent p.point q.point →
      Scalar.nearestFault? v = some fault → Escapes s op fault

section
variable {σ : Type} {op : Operation Float} {s : RenderState Float σ} {fault : Fault}

/-- The default light has a power of each base, or it is too large. -/
theorem Light.power_default_error {base : Float}
    (h : power base ({} : Light).exponent = .error fault) : fault = .powerTooLarge := by
  have hexp : exponentOf ({} : Light).exponent = .ok (Float.ofInt 8) := rfl
  rcases power_error h with he | ⟨-, e, he, hneg⟩ | rfl
  · cases hexp.symm.trans he
  · cases hexp.symm.trans he
    exact absurd hneg (by decide +kernel)
  · rfl

namespace Operation

/-- The faults of what an operation cannot compute. -/
theorem Escapes.fault_eq (h : Escapes s op fault) :
    fault = .angleNotFinite ∨ fault = .undefinedColour ∨ fault = .powerTooLarge ∨
      fault = .undefinedCell ∨ fault = .infiniteCell := by
  cases h with
  | angle => exact .inl rfl
  | side _ _ hc =>
    rcases Light.shade_error hc.2 with ⟨base, hp⟩ | rfl
    · exact .inr (.inr (.inl (Light.power_default_error hp)))
    · exact .inr (.inl rfl)
  | bound _ _ hc =>
    obtain ⟨-, v, -, hv⟩ := hc
    exact .inr (.inr (.inr (Scalar.cellFault?_float hv)))
  | coordinate _ _ _ hv => exact .inr (.inr (.inr (Scalar.cellFault?_float hv)))

/-- An operation that stops at a foreign fault by itself cannot be computed. -/
theorem escapes_of_raises (h : Render.Raises defaultSettings s op fault)
    (hforeign : fault.isForeign = true) : Escapes s op fault := by
  have hsphere : rowsOf defaultSettings.step (Sphere.grid defaultSettings.step) = .ok 20 := rfl
  have htorus : rowsOf defaultSettings.step (Torus.grid defaultSettings.step) = .ok 20 := rfl
  have hink : defaultSettings.lineColour.ink = .ok .black := rfl
  cases h with
  | underflow | knob => cases hforeign
  | angle hf hd =>
    obtain ⟨hinf, rfl⟩ := Trig.degrees_error.1 hd
    exact .angle hf hinf
  | sphere hm => rw [Sphere.ofStep, hsphere] at hm; cases hm
  | torus hm => rw [Torus.ofStep, htorus] at hm; cases hm
  | drawing ho hd =>
    have hside {mesh : Mesh Float} (ho : op.Outlines defaultSettings.step .triangles mesh.points)
        (hd : (drawTriangles s.canvas.extent defaultSettings.surface
          (s.stack.top.points mesh.points)).outcome = .error fault) : Escapes s op fault := by
      obtain ⟨p, q, r, ht, hc | hc⟩ := exists_of_drawTriangles_error hd
      · exact .side ho ht hc
      · exact .bound ho ht hc
    cases ho with
    | box => exact hside .box hd
    | sphere hm => exact hside (.sphere hm) hd
    | torus hm => exact hside (.torus hm) hd
    | line =>
      rcases exists_of_drawInked_error hd with hnone | ⟨p, q, hs, v, hv, hfault⟩
      · cases hink.symm.trans hnone
      · exact .coordinate .line hs hv hfault

/-- An operation that cannot be computed stops at a foreign fault. -/
theorem Escapes.exists_raises (h : Escapes s op fault) :
    ∃ fault', Render.Raises defaultSettings s op fault' ∧ fault'.isForeign = true := by
  have hdrawing {kind : ItemKind} {points : List (Vec3 Float)} {fault' : Fault}
      (ho : op.Outlines defaultSettings.step kind points)
      (hd : ((defaultSettings.request kind (s.stack.top.points points)).drawing
        s.canvas.extent).outcome = .error fault') :
      ∃ fault', Render.Raises defaultSettings s op fault' ∧ fault'.isForeign = true :=
    ⟨fault', .drawing ho hd, Render.isForeign_of_drawing_error (l := {}) rfl hd⟩
  cases h with
  | angle hf hinf => exact ⟨_, .angle hf (Trig.degrees_error.2 ⟨hinf, rfl⟩), rfl⟩
  | side ho ht hc =>
    obtain ⟨fault', hd⟩ := drawTriangles_error_of_mem ht (.inl hc)
    exact hdrawing ho hd
  | bound ho ht hc =>
    obtain ⟨fault', hd⟩ := drawTriangles_error_of_mem ht (.inr hc)
    exact hdrawing ho hd
  | coordinate ho hs hv hfault =>
    obtain ⟨fault', hd⟩ : ∃ fault', (drawSegments s.canvas.extent .black
      (s.stack.top.points _)).outcome = .error fault' := drawSegments_error_of_mem hs hv hfault
    cases ho with
    | line => exact hdrawing .line hd

end Operation

end

/-- An output whose faults are the system's. When it is asked to save a picture, the value may be at
fault as well. -/
structure Output.Civil {σ : Type} (out : Output σ) : Prop where
  save : ∀ {p path o fault}, (out.save p path o).result = .error fault →
    fault.isSystemFault = true ∨ fault.isValueFault = true
  display : ∀ {p o fault}, (out.display p o).result = .error fault → fault.isSystemFault = true
  assemble : ∀ {a o fault}, (out.assemble a o).result = .error fault → fault.isSystemFault = true

/-- An output without faults has none but the system's. -/
theorem Output.NeverFails.civil {σ : Type} {out : Output σ} (h : out.NeverFails) : out.Civil where
  save {p path o _} hr := by
    obtain ⟨answer, ha⟩ := h.save p path o
    cases ha.symm.trans hr
  display {p o _} hr := by cases (h.display p o).symm.trans hr
  assemble {a o _} hr := by
    obtain ⟨answer, ha⟩ := h.assemble a o
    cases ha.symm.trans hr

/-- A fault of the system is not foreign. -/
theorem Fault.isForeign_of_isSystemFault {f : Fault} (h : f.isSystemFault = true) :
    f.isForeign = false := by
  rw [isForeign, h, Bool.not_true, Bool.and_false]

section
variable {α : Type} {ops : List (Operation α)} {fault : Fault}

/-- The fault of a `save` of the script is the system's or the script's. -/
theorem Operation.isForeign_raised_save {file : String}
    (h : fault.isSystemFault = true ∨ fault.isValueFault = true) :
    (raised (.save file : Operation α) fault).isForeign = false := by
  cases hv : fault.isValueFault with
  | true =>
    rw [raised, hv]
    rfl
  | false =>
    rw [hv] at h
    rw [raised, hv]
    exact Fault.isForeign_of_isSystemFault (h.resolve_right Bool.false_ne_true)

/-- What the first two passes find wrong with a script that is read from a text is a fault of the
script. -/
theorem Script.isForeign_of_refused {text : String} {script : Script}
    (hscript : ofText text = .ok script) (h : Operation.Refused script.operations fault) :
    fault.isForeign = false := by
  have hdefect := Operation.refused_iff_defect.1 h
  rw [Fault.isForeign, hdefect.isScriptFault (writes_integers hscript), Bool.not_true,
    Bool.false_and]

end

namespace Job

section
variable {σ : Type} {job : Job Float σ} {d : Directives} {t : Timeline Float}
  {s₀ s' : RenderState Float σ} {fault : Fault} {directory text : String} {script : Script}

/-- A run of a script that stops at a foreign fault has got through its first passes. -/
theorem passes_of_foreign (hscript : Script.ofText text = .ok script)
    (hops : job.operations = script.operations) (h : job.run s₀ = .error fault s')
    (hforeign : fault.isForeign = true) :
    ∃ d t, Directives.ofOperations job.operations = .ok d ∧
      Timeline.ofOperations job.operations d.frames = .ok t := by
  have hrefused {why : Fault} (hr : Operation.Refused job.operations why) :
      why.isForeign = false := Script.isForeign_of_refused hscript (hops ▸ hr)
  cases hd : Directives.ofOperations job.operations with
  | error why =>
    rw [run_of_directives_error hd] at h
    cases h
    cases (hrefused (.directives hd)).symm.trans hforeign
  | ok d =>
    cases ht : Timeline.ofOperations job.operations d.frames with
    | error why =>
      rw [run_of_ramps_error hd ht] at h
      cases h
      cases (hrefused (.ramps hd ht)).symm.trans hforeign
    | ok t => exact ⟨d, t, rfl, ht⟩

/-- An operation whose request is answered with a fault of the system, or of the value, has no
foreign fault. -/
theorem isRequest_of_foreign {op : Operation Float} {s : RenderState Float σ}
    (hout : job.output.Civil)
    (h : Render.perform job.settings job.output op s = .error fault s')
    (hforeign : fault.isForeign = true) : op.isRequest = false := by
  cases Render.perform_error h with
  | raises hop => exact hop
  | save hw =>
    rw [Operation.isForeign_raised_save (hout.save hw)] at hforeign
    cases hforeign
  | display hw =>
    rw [Fault.isForeign_of_isSystemFault (hout.display hw)] at hforeign
    cases hforeign

/-- A run of a script in the default settings that stops at a foreign fault has come to an operation
that it cannot compute, if the output has no foreign faults. -/
theorem escapes_of_foreign (hscript : Script.ofText text = .ok script)
    (hops : job.operations = script.operations) (hsettings : job.settings = defaultSettings)
    (hdir : job.directory = some directory) (hout : job.output.Civil)
    (hframe : ∀ d t (frame : Nat) s fault, Directives.ofOperations job.operations = .ok d →
      Timeline.ofOperations job.operations d.frames = .ok t → (frame : Int) < d.frames →
      job.upTo d t frame job.operations s₀ = .ok () s →
      (job.output.save s.canvas.picture (d.framePath directory frame) s.output).result =
        .error fault → fault.isSystemFault = true)
    (h : job.run s₀ = .error fault s') (hforeign : fault.isForeign = true) :
    ∃ op s, job.ComesTo s₀ op s ∧ Operation.Escapes s op fault := by
  obtain ⟨d, t, hd, ht⟩ := passes_of_foreign hscript hops h hforeign
  rcases run_error hd ht h with ⟨frame, before, after, op, s, hf, hsplit, hup, hop⟩ |
    ⟨frame, s, hf, -, hup, hexport⟩ | ⟨paths, s, -, hclose⟩
  · have hreq := isRequest_of_foreign hout hop hforeign
    have hr := Render.raises_of_perform_error hreq hop
    rw [hsettings] at hr
    exact ⟨op, s, .intro hd ht hf hsplit hup, Operation.escapes_of_raises hr hforeign⟩
  · have hname := Directives.namesFrame_of_lt (Directives.writes_frames hd) hf
    have hsystem := hframe d t frame s fault hd ht hf hup (exportFrame_error hdir hname hexport).1
    rw [Fault.isForeign_of_isSystemFault hsystem] at hforeign
    cases hforeign
  · exfalso
    rcases close_error hclose with ⟨hnone, -⟩ | ⟨directory, -, hw, -⟩
    · cases hdir.symm.trans hnone
    · rw [Fault.isForeign_of_isSystemFault (hout.assemble hw)] at hforeign
      cases hforeign

/-- Foreign faults come from what cannot be computed. In the default settings, with an output that
has faults of the system alone, or of the value when the script saves a picture, a run of a script
that is read from a text stops at a fault that is neither the script's nor the system's exactly if
it comes to an operation that rotates by an angle that is not finite, draws a shape with a triangle
that faces the viewer and has no colour or a bound that stands for no cell, or draws a segment with
a coordinate that has no nearest cell. The fault is that of the cosine, of the colour or of the
cell. -/
theorem foreign_faults (hscript : Script.ofText text = .ok script)
    (hops : job.operations = script.operations) (hsettings : job.settings = defaultSettings)
    (hdir : job.directory = some directory) (hout : job.output.Civil)
    (hframe : ∀ d t (frame : Nat) s fault, Directives.ofOperations job.operations = .ok d →
      Timeline.ofOperations job.operations d.frames = .ok t → (frame : Int) < d.frames →
      job.upTo d t frame job.operations s₀ = .ok () s →
      (job.output.save s.canvas.picture (d.framePath directory frame) s.output).result =
        .error fault → fault.isSystemFault = true) :
    ((∃ fault s', job.run s₀ = .error fault s' ∧ fault.isForeign = true) ↔
      ∃ op s fault, job.ComesTo s₀ op s ∧ Operation.Escapes s op fault) ∧
    ∀ fault s', job.run s₀ = .error fault s' → fault.isForeign = true →
      fault = .angleNotFinite ∨ fault = .undefinedColour ∨ fault = .powerTooLarge ∨
        fault = .undefinedCell ∨ fault = .infiniteCell := by
  refine ⟨⟨?_, ?_⟩, fun fault s' h hforeign => ?_⟩
  · rintro ⟨fault, s', h, hforeign⟩
    obtain ⟨op, s, hcomes, hesc⟩ := escapes_of_foreign hscript hops hsettings hdir hout hframe h
      hforeign
    exact ⟨op, s, fault, hcomes, hesc⟩
  · rintro ⟨op, s, fault, hcomes, hesc⟩
    obtain ⟨fault', hr, hforeign⟩ := hesc.exists_raises
    rw [← hsettings] at hr
    obtain ⟨s', hop⟩ : ∃ s', Render.perform job.settings job.output op s = .error fault' s' :=
      hr.exists_perform_error
    exact ⟨fault', s', hcomes.run_error hop, hforeign⟩
  · obtain ⟨op, s, -, hesc⟩ := escapes_of_foreign hscript hops hsettings hdir hout hframe h
      hforeign
    exact hesc.fault_eq

end

/-- A script with a turn by a knob that has no value yet, and a line. -/
def farAngle : Script := .ofStatements
  [.perform (.rotate .x 1e200 (some "k")), .perform (.line ⟨0, 0, 0⟩ ⟨1, 0, 0⟩)]

/-- A script with a knob and a turn that it multiplies. -/
def farTurn : Script := .ofStatements [.set "k" 1e200, .perform (.rotate .x 1e200 (some "k"))]

/-- A script with a line that is scaled until its ends are too far from each other. -/
def farLine : Script := .ofStatements
  [.perform (.scale ⟨1e200, 1, 1⟩ none), .perform (.line ⟨1e108, 0, 0⟩ ⟨-1e108, 0, 0⟩)]

/-- A script in the default settings, with an output that never fails. -/
def ofScript (script : Script) : Job Float Gallery where
  operations := script.operations
  settings := defaultSettings
  directory := some "anim"
  output := Gallery.output {}

/-- A new state for the default settings, with the given knobs. -/
def newState (knobs : Knobs Float) : RenderState Float Gallery where
  stack := .initial
  knobs := knobs
  canvas := .blank ⟨500, 500⟩ .white
  output := {}

set_option maxRecDepth 4000 in
/-- A knob of the size of the angle takes the product out of the range of doubles. -/
theorem foreign_faults_farAngle : ∃ fault s',
    (ofScript farAngle).run (newState (.ofList [("k", 1e200)])) = .error fault s' ∧
      fault.isForeign = true := by
  have hscript : Script.ofText "rotate x 1e200 k\nline 0 0 0 1 0 0" = .ok farAngle := rfl
  have hup : ∃ s, (ofScript farAngle).upTo ⟨1, "basename", true⟩ ⟨#[.empty]⟩ 0 []
      (newState (.ofList [("k", 1e200)])) = .ok () s ∧
      s.knobs.factor (some "k") = .ok (some 1e200) := ⟨_, rfl, rfl⟩
  obtain ⟨s, hup, hfactor⟩ := hup
  have hesc : Operation.Escapes s (.rotate .x 1e200 (some "k")) .angleNotFinite :=
    .angle hfactor (by decide +kernel)
  have hsplit : farAngle.operations = [] ++ .rotate .x 1e200 (some "k") :: _ := rfl
  have hops : (ofScript farAngle).operations = farAngle.operations := rfl
  have hdir : (ofScript farAngle).directory = some "anim" := rfl
  have hcomes : (ofScript farAngle).ComesTo (newState (.ofList [("k", 1e200)]))
      (.rotate .x 1e200 (some "k")) s := .intro rfl rfl (by decide) hsplit hup
  refine (foreign_faults hscript hops rfl hdir Gallery.neverFails_output.civil
    fun d _ frame s fault _ _ _ _ h => ?_).1.2 ⟨_, s, _, hcomes, hesc⟩
  cases h

/-- The run of the far turn stops at the cosine of an angle that is not finite. -/
theorem run_farTurn : ∃ s',
    (ofScript farTurn).run (newState farTurn.knobs) = .error .angleNotFinite s' := by
  have hup : ∃ s, (ofScript farTurn).upTo ⟨1, "basename", true⟩ ⟨#[.empty]⟩ 0 []
      (newState farTurn.knobs) = .ok () s ∧ s.knobs.factor (some "k") = .ok (some 1e200) :=
    ⟨_, rfl, rfl⟩
  obtain ⟨s, hup, hfactor⟩ := hup
  have hinf : (resolved (some 1e200) 1e200 * (Angle.pi / 180.0)).isInf = true := by
    decide +kernel
  have hraises : Render.Raises defaultSettings s (.rotate .x 1e200 (some "k")) .angleNotFinite :=
    .angle hfactor (Trig.degrees_error.2 ⟨hinf, rfl⟩)
  obtain ⟨s', hop⟩ : ∃ s', Render.perform defaultSettings (Gallery.output {})
      (.rotate .x 1e200 (some "k")) s = .error .angleNotFinite s' := hraises.exists_perform_error
  have hops : farTurn.operations = [] ++ .rotate .x 1e200 (some "k") :: [] := rfl
  exact ⟨s', (ComesTo.intro rfl rfl (by decide) hops hup).run_error hop⟩

/-- The run of the far line stops at a cell that is undefined. -/
theorem run_farLine : ∃ fault s',
    (ofScript farLine).run (newState farLine.knobs) = .error fault s' ∧
      fault.message = "cannot convert float NaN to integer" ∧
      fault.isScriptFault = false ∧ fault.isSystemFault = false := by
  have hfault : ((Render.fault? ((ofScript farLine).run (newState farLine.knobs))).map
      fun fault => (fault.message, fault.isScriptFault, fault.isSystemFault)) =
        some ("cannot convert float NaN to integer", false, false) := by decide +kernel
  cases h : (ofScript farLine).run (newState farLine.knobs) with
  | ok _ s' =>
    rw [h] at hfault
    cases hfault
  | error fault s' =>
    rw [h, Render.fault?, Option.map_some, Option.some.injEq, Prod.mk.injEq,
      Prod.mk.injEq] at hfault
    exact ⟨fault, s', rfl, hfault⟩

set_option maxRecDepth 4000 in
/-- Runs of scripts that are read from a text, all of whose numbers are finite, stop at faults that
are neither the script's nor the system's, with an output that has no faults. -/
theorem exists_foreign_fault :
    (Gallery.output {}).NeverFails ∧
    (Script.ofText "set k 1e200\nrotate x 1e200 k" = .ok farTurn ∧
      ∃ s', (ofScript farTurn).run (newState farTurn.knobs) = .error .angleNotFinite s' ∧
        Fault.angleNotFinite.isScriptFault = false ∧ Fault.angleNotFinite.isSystemFault = false) ∧
    Script.ofText "scale 1e200 1 1\nline 1e108 0 0 -1e108 0 0" = .ok farLine ∧
      ∃ fault s', (ofScript farLine).run (newState farLine.knobs) = .error fault s' ∧
        fault.message = "cannot convert float NaN to integer" ∧
        fault.isScriptFault = false ∧ fault.isSystemFault = false := by
  obtain ⟨s', hturn⟩ := run_farTurn
  exact ⟨Gallery.neverFails_output, ⟨rfl, s', hturn, rfl, rfl⟩, rfl, run_farLine⟩

end Job

end SceneScript
