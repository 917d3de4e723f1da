import Mathlib.Analysis.SpecialFunctions.Trigonometric.Basic
import SceneScript.Proofs.Render.Entries
import SceneScript.Proofs.Render.Failure
import SceneScript.Proofs.Raster.Strokes
import SceneScript.Proofs.Space.Linear

/-!
# What coordinate systems do to lengths and volumes

In exact arithmetic, with the cosine and the sine of each angle on the unit circle, every coordinate
system that a run reaches takes points to points. It multiplies volumes by the factors of the
scalings that are live in it (`Operation.stretch`), and if there are none it keeps distances
(`Render.execute_systems`). This holds of each transform of a script, so of what some of them lead
to (`Operation.Leads`), and so of every entry of the stack.
-/

open Matrix

namespace SceneScript

/-- The cosines and the sines of the real numbers. -/
noncomputable instance : Trig ℝ where
  degrees angle := .ok (Real.cos (angle * (Real.pi / 180)), Real.sin (angle * (Real.pi / 180)))
  ofTurn parts count :=
    (Real.cos (2 * Real.pi * count / parts), Real.sin (2 * Real.pi * count / parts))
  ofHalfTurn parts count := (Real.cos (Real.pi * count / parts), Real.sin (Real.pi * count / parts))

/-- The cosine and the sine of a real angle lie on the unit circle. -/
theorem Trig.unit_of_real {a c s : ℝ} (h : Trig.degrees a = .ok (c, s)) : c * c + s * s = 1 := by
  obtain ⟨rfl, rfl⟩ := Prod.mk.inj (Except.ok.inj h)
  rw [← sq, ← sq, Real.cos_sq_add_sin_sq]

namespace Operation

/-- Whether an operation scales. -/
def isScale {α : Type} : Operation α → Bool
  | scale .. => true
  | _ => false

/-- The factors of an operation that scales, multiplied by the value of the knob that it names. -/
def factors? {α : Type} [Scalar α] (k : Knobs α) : Operation α → Option (Vec3 α)
  | scale factors knob => (k.factor knob).toOption.map fun f => factors.map (resolved f)
  | _ => none

section
variable {K : Type} [Field K] [LinearOrder K] [FloorRing K] {k : Knobs K}
  {ops : List (Operation K)} {op : Operation K} {m m' t : Transform K}

/-- The product of the three factors of each operation that scales. -/
def stretch (k : Knobs K) (ops : List (Operation K)) : K :=
  ((ops.filterMap (factors? k)).map fun v => v.x * v.y * v.z).prod

/-- An operation that is no transform does not scale. -/
theorem factors?_of_not_isTransform (h : op.isTransform = false) : op.factors? k = none := by
  cases op with
  | scale => cases h
  | _ => rfl

/-- The factors of operations, one after another. -/
theorem stretch_cons : stretch k (op :: ops) = stretch k [op] * stretch k ops := by
  cases h : op.factors? k with
  | none => simp [stretch, h]
  | some v => simp [stretch, h]

variable [Trig K]

/-- A transform is a scaling by the factors of its operation, or a translation, or a rotation by an
angle that has a cosine and a sine. -/
theorem Moves.cases (h : op.Moves k t) :
    (∃ v, op.factors? k = some v ∧ op.isScale = true ∧ t = .scaling v) ∨
      op.factors? k = none ∧ op.isScale = false ∧ ((∃ v, t = .translation v) ∨
        ∃ axis a c s, Trig.degrees a = .ok (c, s) ∧ t = .rotation axis c s) := by
  cases h with
  | move | moveBy => exact .inr ⟨rfl, rfl, .inl ⟨_, rfl⟩⟩
  | scale => exact .inl ⟨_, rfl, rfl, rfl⟩
  | scaleBy hk =>
    refine .inl ⟨_, ?_, rfl, rfl⟩
    simp only [factors?, Knobs.factor, Knobs.lookup, hk]
    rfl
  | rotate ha | rotateBy _ ha => exact .inr ⟨rfl, rfl, .inr ⟨_, _, _, _, ha, rfl⟩⟩

/-- The transform of an operation keeps the last coordinate. -/
theorem Moves.row₄_eq (h : op.Moves k t) : t.row₄ = ⟨0, 0, 0, 1⟩ := by
  rcases h.cases with ⟨v, -, -, rfl⟩ | ⟨-, -, ⟨v, rfl⟩ | ⟨axis, a, c, s, -, rfl⟩⟩
  · rfl
  · rfl
  · exact Transform.row₄_rotation

/-- An operation that scales multiplies volumes by its factors, and the others leave them. -/
theorem Moves.det_linear (hunit : ∀ a c s, Trig.degrees a = .ok (c, s) → c * c + s * s = (1 : K))
    (h : op.Moves k t) : t.linear.det = stretch k [op] := by
  rcases h.cases with ⟨v, hv, -, rfl⟩ | ⟨hv, -, ⟨v, rfl⟩ | ⟨axis, a, c, s, ha, rfl⟩⟩
  · rw [Transform.det_linear_scaling]
    simp [stretch, hv]
  · rw [Transform.linear_translation, det_one]
    simp [stretch, hv]
  · rw [Transform.det_linear_rotation (hunit a c s ha)]
    simp [stretch, hv]

/-- An operation that does not scale is orthogonal. -/
theorem Moves.orthogonal (hunit : ∀ a c s, Trig.degrees a = .ok (c, s) → c * c + s * s = (1 : K))
    (h : op.Moves k t) (hop : op.isScale = false) : t.linearᵀ * t.linear = 1 := by
  rcases h.cases with ⟨v, -, hscale, rfl⟩ | ⟨-, -, ⟨v, rfl⟩ | ⟨axis, a, c, s, ha, rfl⟩⟩
  · rw [hop] at hscale
    cases hscale
  · rw [Transform.linear_translation, transpose_one, one_mul]
  · exact Transform.transpose_mul_linear_rotation (hunit a c s ha)

/-- Operations lead on from their first: it is a transform that the system is composed with, or it
leads nowhere. -/
theorem Leads.cons_cases (h : Leads k (op :: ops) m m') :
    op.isTransform = false ∧ Leads k ops m m' ∨
      ∃ t, op.Moves k t ∧ Leads k ops (m.compose t) m' := by
  obtain ⟨ms, hms, hm'⟩ := h
  cases hop : op.isTransform with
  | false => exact .inl ⟨rfl, ms, by simpa [hop] using hms, hm'⟩
  | true =>
    rw [List.filter_cons_of_pos hop] at hms
    cases hms with
    | cons ht hms => exact .inr ⟨_, ht, _, hms, hm'⟩

/-- Operations lead from a system that keeps the last coordinate to such a system. -/
theorem Leads.row₄_eq (h : Leads k ops m m') (hm : m.row₄ = ⟨0, 0, 0, 1⟩) :
    m'.row₄ = ⟨0, 0, 0, 1⟩ := by
  induction ops generalizing m with
  | nil =>
    obtain ⟨_, hms, rfl⟩ := h
    cases hms
    exact hm
  | cons op ops ih =>
    rcases h.cons_cases with ⟨-, h⟩ | ⟨t, ht, h⟩
    · exact ih h hm
    · exact ih h (Transform.row₄_compose hm ht.row₄_eq)

/-- Operations multiply volumes by their factors. -/
theorem Leads.det_linear (hunit : ∀ a c s, Trig.degrees a = .ok (c, s) → c * c + s * s = (1 : K))
    (h : Leads k ops m m') : m'.linear.det = m.linear.det * stretch k ops := by
  induction ops generalizing m with
  | nil =>
    obtain ⟨_, hms, rfl⟩ := h
    cases hms
    simp [stretch]
  | cons op ops ih =>
    rcases h.cons_cases with ⟨hop, h⟩ | ⟨t, ht, h⟩
    · rw [ih h, stretch, stretch, List.filterMap_cons_none (factors?_of_not_isTransform hop)]
    · rw [ih h, Transform.linear_compose ht.row₄_eq, det_mul, ht.det_linear hunit, mul_assoc,
        ← stretch_cons]

/-- Operations that do not scale lead from an orthogonal system to such a system. -/
theorem Leads.orthogonal (hunit : ∀ a c s, Trig.degrees a = .ok (c, s) → c * c + s * s = (1 : K))
    (h : Leads k ops m m') (hops : ∀ op ∈ ops, op.isScale = false)
    (hm : m.linearᵀ * m.linear = 1) : m'.linearᵀ * m'.linear = 1 := by
  induction ops generalizing m with
  | nil =>
    obtain ⟨_, hms, rfl⟩ := h
    cases hms
    exact hm
  | cons op ops ih =>
    have hrest : ∀ op ∈ ops, op.isScale = false := fun op hop => hops op (.tail _ hop)
    rcases h.cons_cases with ⟨-, h⟩ | ⟨t, ht, h⟩
    · exact ih h hrest hm
    · refine ih h hrest ?_
      rw [Transform.linear_compose ht.row₄_eq]
      calc (m.linear * t.linear)ᵀ * (m.linear * t.linear)
          = t.linearᵀ * (m.linearᵀ * m.linear) * t.linear := by
            rw [transpose_mul]
            simp only [Matrix.mul_assoc]
        _ = 1 := by rw [hm, Matrix.mul_one, ht.orthogonal hunit (hops op (.head _))]

end

end Operation

/-- A transform that keeps the last coordinate takes points to points. -/
theorem Transform.points_eq {K : Type} [Field K] [LinearOrder K] [FloorRing K] {m : Transform K}
    (h : m.row₄ = ⟨0, 0, 0, 1⟩) (ps : List (Vec3 K)) :
    m.points ps = ps.map fun p => (m.place p).homogeneous :=
  List.map_congr_left fun _ _ => apply_homogeneous h

namespace Render

section
variable {α σ : Type} [Scalar α] [Trig α] {settings : Settings α} {out : Output σ}
  {op : Operation α} {s s' : RenderState α σ} {fault : Fault}

/-- An operation that fails leaves the stack. -/
theorem stack_of_perform_error (h : perform settings out op s = .error fault s') :
    s'.stack = s.stack := by
  cases perform_error h <;> rfl

/-- A line is drawn whole where no number ends it. -/
theorem perform_line [Scalar.Exact α] {colour : Rgb} (hink : settings.lineColour.ink = .ok colour)
    (p q : Vec3 α) (s : RenderState α σ) :
    perform settings out (.line p q) s = .ok () { s with
      canvas := s.canvas.paint (Segment.fragments s.canvas.extent colour
        (s.stack.top.apply p.homogeneous).point (s.stack.top.apply q.homogeneous).point)
      draws := s.draws.push ⟨.segments, s.stack.top.points [p, q], 1⟩ } := by
  show draw .segments (s.stack.top.points [p, q])
    (fun e points => drawInked e settings.lineColour points) s = _
  simp [draw, Transform.points, drawInked, hink, drawSegments, Segment.stroke_eq, Drawing.cons,
    Drawing.empty, Except.map]

end

section
variable {K σ : Type} [Field K] [LinearOrder K] [FloorRing K] [Trig K] {settings : Settings K}
  {out : Output σ} {ops : List (Operation K)} {s s' : RenderState K σ}

/-- The determinant of the system that operations make is the product of the factors of the live
scalings among them. -/
theorem execute_det_top (hunit : ∀ a c s, Trig.degrees a = .ok (c, s) → c * c + s * s = (1 : K))
    (h : execute settings out ops s = .ok () s') (hs : s.stack = .initial) :
    s'.stack.top.linear.det = Operation.stretch s.knobs (Operation.live ops) := by
  have htop : Operation.SystemAt s.knobs ops s'.stack.top :=
    (List.forall₂_cons.1 (execute_entries h hs)).1
  rw [Operation.Leads.det_linear hunit htop, Transform.linear_identity, det_one, one_mul]

/-- Invariant of the coordinate systems. Let operations be performed from a stack with the system of
the screen alone, in exact arithmetic in which the cosine and the sine of each angle lie on the unit
circle. Each entry of the stack is made by the operations behind which it was last on top. It keeps
the last coordinate, so that it takes points to points; it multiplies volumes by the factors of the
live scalings among those operations; and if there are none it is orthogonal and keeps distances.
All points that have been handed to a drawing have the last coordinate one. The next operation may
fail, but leaves the stack then. -/
theorem execute_systems (hunit : ∀ a c s, Trig.degrees a = .ok (c, s) → c * c + s * s = (1 : K))
    (h : execute settings out ops s = .ok () s') (hs : s.stack = .initial) :
    List.Forall₂ (fun made m => Operation.SystemAt s.knobs made m ∧
        m.row₄ = ⟨0, 0, 0, 1⟩ ∧
        (∀ ps, m.points ps = ps.map fun p => (m.place p).homogeneous) ∧
        m.linear.det = Operation.stretch s.knobs (Operation.live made) ∧
        ((∀ op ∈ Operation.live made, op.isScale = false) → m.linearᵀ * m.linear = 1 ∧
          ∀ p q, Vec3.distance (m.place p) (m.place q) = Vec3.distance p q))
      (Operation.makers ops) s'.stack.entries ∧
    (∃ calls, s'.draws.toList = s.draws.toList ++ calls ∧
      ∀ call ∈ calls, ∀ p ∈ call.points, p.w = 1) ∧
    ∀ op fault s'', perform settings out op s' = .error fault s'' → s''.stack = s'.stack := by
  have hrow₄ : ∀ {made m}, Operation.SystemAt s.knobs made m → m.row₄ = ⟨0, 0, 0, 1⟩ :=
    fun hm => Operation.Leads.row₄_eq hm rfl
  refine ⟨(execute_entries h hs).imp ?_, ?_, fun _ _ _ => stack_of_perform_error⟩
  · intro made m hm
    refine ⟨hm, hrow₄ hm, Transform.points_eq (hrow₄ hm), ?_, fun hlive => ?_⟩
    · rw [Operation.Leads.det_linear hunit hm, Transform.linear_identity, det_one, one_mul]
    · have horth : m.linearᵀ * m.linear = 1 := by
        refine Operation.Leads.orthogonal hunit hm hlive ?_
        rw [Transform.linear_identity, transpose_one, one_mul]
      exact ⟨horth, fun _ _ => Transform.distance_place horth⟩
  · obtain ⟨-, calls, hcalls, hdraws⟩ := execute_scopes h (.of_initial hs)
    refine ⟨calls, hcalls, ((List.forall₂_and_left calls _).1
      (hdraws.flip.imp fun call c hd => ⟨?_, hd⟩)).1⟩
    obtain ⟨m, points, hm, -, hpoints⟩ := hd
    rw [hpoints, Transform.points_eq (hrow₄ hm)]
    intro p hp
    obtain ⟨q, -, rfl⟩ := List.mem_map.1 hp
    rfl

end

/-- A line in a scope that is scaled by a knob, in a system that is turned by a right angle. -/
noncomputable def turnedLine : List (Operation ℝ) :=
  [.rotate .z 90 none, .push, .scale ⟨2, 1, 3⟩ (some "k"), .line ⟨0, 0, 0⟩ ⟨1, 0, 0⟩]

/-- Settings in which everything is black, with real numbers. -/
noncomputable def realSettings : Settings ℝ := { surface := ⟨⟨0, 0, 1⟩, fun _ => .ok .black⟩ }

/-- A new state with a row of four cells and one knob, negative so that it mirrors what it scales. -/
noncomputable def realState : RenderState ℝ Gallery where
  stack := .initial
  knobs := .ofList [("k", -2)]
  canvas := .blank ⟨4, 1⟩ .white
  output := {}

/-- The line is drawn. -/
theorem exists_execute_turnedLine : ∃ s',
    execute realSettings (Gallery.output {}) turnedLine realState = .ok () s' ∧
    s'.draws.size = 1 := by
  have hink : realSettings.lineColour.ink = .ok .black := rfl
  have hops : turnedLine = turnedLine.take 3 ++ [.line ⟨0, 0, 0⟩ ⟨1, 0, 0⟩] := rfl
  obtain ⟨s₁, hbefore, hnone⟩ : ∃ s₁, execute realSettings (Gallery.output {})
      (turnedLine.take 3) realState = .ok () s₁ ∧ s₁.draws = #[] := ⟨_, rfl, rfl⟩
  rw [hops]
  refine ⟨_, execute_append_ok.2 ⟨s₁, hbefore, execute_cons_ok.2
    ⟨_, perform_line hink _ _ s₁, execute_nil_ok.2 rfl⟩⟩, ?_⟩
  rw [hnone]
  rfl

/-- The system in the scope has the determinant of its scaling, and the one around it is orthogonal.
-/
theorem execute_systems_turnedLine : ∃ s' top around,
    execute realSettings (Gallery.output {}) turnedLine realState = .ok () s' ∧
    s'.stack.entries = [top, around] ∧ top.linear.det = -48 ∧
    around.linearᵀ * around.linear = 1 ∧ s'.draws.size = 1 ∧
    ∀ call ∈ s'.draws.toList, ∀ p ∈ call.points, p.w = 1 := by
  obtain ⟨s', h, hsize⟩ := exists_execute_turnedLine
  obtain ⟨hentries, ⟨calls, hcalls, hw⟩, -⟩ := execute_systems (fun _ _ _ => Trig.unit_of_real) h rfl
  have hmakers : Operation.makers turnedLine = [turnedLine, turnedLine.take 1] := rfl
  have hlive : Operation.live turnedLine = turnedLine := rfl
  have hfactors : turnedLine.filterMap (Operation.factors? realState.knobs) =
    [⟨2 * -2, 1 * -2, 3 * -2⟩] := rfl
  rw [hmakers] at hentries
  generalize he : s'.stack.entries = entries at hentries
  rcases hentries with _ | ⟨⟨-, -, -, htop, -⟩, _ | ⟨⟨-, -, -, -, haround⟩, _ | _⟩⟩
  refine ⟨s', _, _, h, he, ?_, (haround ?_).1, hsize, ?_⟩
  · rw [htop, hlive, Operation.stretch, hfactors]
    norm_num
  · simp [Operation.live, turnedLine, Operation.closesScope_iff, Operation.closes, Operation.isScale]
  · rw [hcalls]
    exact hw

end Render

end SceneScript
