import SceneScript.Light
import SceneScript.Proofs.Raster.Strokes
import SceneScript.Proofs.Render.Cause

/-!
# Foreign faults

The faults of a script are those of its text, its directives, its operations and its knobs, and an
output has faults of the system. All others are foreign (`Fault.isForeign`): they come from the
arithmetic that a scene is computed with. Here the functions that have such faults are gone through.
A drawing has one where a triangle has no colour, and where a number that becomes a cell is
undefined or infinite (`exists_of_drawTriangles_error`, `exists_of_drawInked_error`).
An operation that stops by itself stops at a foreign fault, but for scopes and knobs
(`Render.Raises.cases`).
-/

namespace SceneScript

/-- Whether a fault is neither the script's nor the system's. -/
def Fault.isForeign (f : Fault) : Bool := !f.isScriptFault && !f.isSystemFault

section
variable {fault : Fault}

/-- The bytes of a block cannot be counted when a size is negative or there are too many. -/
theorem Block.countBytes_error {bytes : Int} {shape : List Int}
    (h : countBytes bytes shape = .error fault) : fault.isForeign = true := by
  induction shape generalizing bytes with
  | nil => cases h
  | cons n rest ih =>
    unfold countBytes at h
    split at h
    · exact ih h
    · split at h
      · cases h
        rfl
      · split at h
        · cases h
          rfl
        · exact ih h

/-- There is no room for a block. -/
theorem Block.check_error {b : Block} (h : b.check = .error fault) : fault.isForeign = true := by
  unfold check at h
  split at h
  · cases h
    rfl
  · cases hc : countBytes b.itemSize b.shape with
    | error fault' =>
      rw [hc] at h
      cases h
      exact countBytes_error hc
    | ok bytes =>
      rw [hc] at h
      simp only [bind, Except.bind] at h
      split at h
      · cases h
        rfl
      · cases h

/-- There is no room for evenly spaced values. -/
theorem spacedCount_error {n : Int} {item : String} (h : spacedCount n item = .error fault) :
    fault.isForeign = true := by
  unfold spacedCount at h
  split at h
  · cases h
    rfl
  · split at h
    · cases h
    · cases hc : Block.check ⟨[max n 0], 8, item⟩ with
      | error fault' =>
        rw [hc] at h
        cases h
        exact Block.check_error hc
      | ok => rw [hc] at h; cases h

/-- There is no room for a grid. -/
theorem gridOf_error {rows columns : Int} (h : gridOf rows columns = .error fault) :
    fault.isForeign = true := by
  unfold gridOf at h
  cases hn : spacedCount rows "int64" with
  | error fault' => rw [hn] at h; cases h; exact spacedCount_error hn
  | ok n =>
    cases hm : spacedCount columns "int64" with
    | error fault' => rw [hn, hm] at h; cases h; exact spacedCount_error hm
    | ok m =>
      cases hc : Block.check ⟨[n, m], 8, "float64"⟩ with
      | error fault' =>
        rw [hn, hm] at h
        simp only [bind, Except.bind, hc] at h
        cases h
        exact Block.check_error hc
      | ok =>
        rw [hn, hm] at h
        simp only [bind, Except.bind, hc] at h
        cases h

/-- A grid without room has no rows, and one that has none may have to have some. -/
theorem rowsOf_error {step : Int} {grid : Except Fault (Nat × Nat)}
    (hgrid : ∀ fault, grid = .error fault → fault.isForeign = true)
    (h : rowsOf step grid = .error fault) : fault.isForeign = true := by
  unfold rowsOf at h
  cases hg : grid with
  | error fault' =>
    rw [hg] at h
    cases h
    exact hgrid fault hg
  | ok p =>
    rw [hg] at h
    simp only [bind, Except.bind] at h
    split at h
    · cases h
      rfl
    · cases h

section
variable {α : Type} [Scalar α] [Trig α] {step : Int}

/-- There is no room for a sphere. -/
theorem Sphere.ofStep_error {centre : Vec3 α} {radius : α}
    (h : ofStep centre radius step = .error fault) : fault.isForeign = true := by
  unfold ofStep at h
  cases hr : rowsOf step (grid step) with
  | error fault' => rw [hr] at h; cases h; exact rowsOf_error (fun _ => gridOf_error) hr
  | ok n => rw [hr] at h; cases h

/-- There is no room for a torus. -/
theorem Torus.ofStep_error {centre : Vec3 α} {tube ring : α}
    (h : ofStep centre tube ring step = .error fault) : fault.isForeign = true := by
  unfold ofStep at h
  cases hr : rowsOf step (grid step) with
  | error fault' => rw [hr] at h; cases h; exact rowsOf_error (fun _ => gridOf_error) hr
  | ok n => rw [hr] at h; cases h

end

/-- A colour of lines with a part that is no word. -/
theorem Rgb.Parts.ink_error {p : Rgb.Parts} (h : p.ink = .error fault) :
    fault = .fieldTooLarge := by
  have hpart {n : Int} {fault : Fault} (h : lowByte n = .error fault) : fault = .fieldTooLarge := by
    unfold lowByte at h
    split at h
    · cases h
    · cases h
      rfl
  unfold ink at h
  simp only [bind, Except.bind] at h
  split at h
  · next hr => cases h; exact hpart hr
  · split at h
    · next hg => cases h; exact hpart hg
    · split at h
      · next hb => cases h; exact hpart hb
      · cases h

/-- An angle whose radians are not finite. -/
theorem Trig.degrees_error {x : Float} :
    Trig.degrees x = .error fault ↔
      (x * (Angle.pi / 180.0)).isInf = true ∧ fault = .angleNotFinite := by
  show Angle.ofRadians (x * (Angle.pi / 180.0)) = .error fault ↔ _
  unfold Angle.ofRadians
  split
  · next hinf => simp [hinf, eq_comm]
  · next hinf => simp [hinf]

end

namespace Light

variable {l : Light} {fault : Fault}

/-- An exponent that is too large for a double. -/
theorem exponentOf_error {n : Int} (h : exponentOf n = .error fault) :
    fault = .integerTooLarge := by
  unfold exponentOf at h
  dsimp only at h
  split at h
  · cases h
    rfl
  · cases h

/-- A power cannot be computed when its exponent is too large, when it is a negative power of zero,
or when it is too large itself. -/
theorem power_error {base : Float} {exponent : Int} (h : power base exponent = .error fault) :
    exponentOf exponent = .error fault ∨
      (fault = .zeroToNegativePower ∧ ∃ e, exponentOf exponent = .ok e ∧ e < 0) ∨
      fault = .powerTooLarge := by
  unfold power at h
  cases he : exponentOf exponent with
  | error fault' =>
    rw [he] at h
    cases h
    exact .inl rfl
  | ok e =>
    rw [he] at h
    simp only [bind, Except.bind] at h
    split at h
    · cases h
    · split at h
      · cases h
      · split at h
        · cases h
        · split at h
          · split at h
            · next hneg =>
              cases h
              exact .inr (.inl ⟨rfl, e, rfl, hneg⟩)
            · cases h
          · split at h
            · cases h
              exact .inr (.inr rfl)
            · cases h

/-- A power that cannot be computed is a foreign fault. -/
theorem isForeign_of_power_error {base : Float} {exponent : Int}
    (h : power base exponent = .error fault) : fault.isForeign = true := by
  rcases power_error h with he | ⟨rfl, -⟩ | rfl
  · obtain rfl := exponentOf_error he
    rfl
  · rfl
  · rfl

/-- A part of a colour is undefined. -/
theorem part_error {x : Float} (h : part x = .error fault) : fault = .undefinedColour := by
  unfold part at h
  split at h
  · cases h
    rfl
  · cases h

/-- A side has no colour when its light has no power, or when a part of the colour is undefined. -/
theorem shade_error {normal : Vec3 Float} (h : l.shade normal = .error fault) :
    (∃ base, power base l.exponent = .error fault) ∨ fault = .undefinedColour := by
  unfold shade at h
  simp only [bind, Except.bind] at h
  split at h
  · next hs =>
    cases h
    unfold specular at hs
    split at hs
    · simp only [bind, Except.bind] at hs
      split at hs
      · next hp =>
        cases hs
        exact .inl ⟨_, hp⟩
      · cases hs
    · cases hs
  · split at h
    · next hr => cases h; exact .inr (part_error hr)
    · split at h
      · next hg => cases h; exact .inr (part_error hg)
      · split at h
        · next hb => cases h; exact .inr (part_error hb)
        · cases h

/-- A side without a colour is a foreign fault. -/
theorem isForeign_of_shade_error {normal : Vec3 Float} (h : l.shade normal = .error fault) :
    fault.isForeign = true := by
  rcases shade_error h with ⟨base, hp⟩ | rfl
  · exact isForeign_of_power_error hp
  · rfl

end Light

/-- A drawing fails at the fault of its first item, or if there is none at that of the others. -/
theorem Drawing.outcome_cons_error {α : Type} {st : Stroke α} {d : Drawing α} {fault : Fault} :
    (cons st d).outcome = .error fault ↔
      st.fault? = some fault ∨ st.fault? = none ∧ d.outcome = .error fault := by
  unfold cons
  cases st.fault? with
  | some fault' => simp
  | none => cases d.outcome <;> simp [Except.map]

/-- A drawing fails if its first item does, or if the others do. -/
theorem Drawing.exists_outcome_cons_error {α : Type} {st : Stroke α} {d : Drawing α}
    (h : (∃ fault, st.fault? = some fault) ∨ ∃ fault, d.outcome = .error fault) :
    ∃ fault, (cons st d).outcome = .error fault := by
  cases hst : st.fault? with
  | some fault => exact ⟨fault, outcome_cons_error.2 (.inl hst)⟩
  | none =>
    rcases h with ⟨fault, hst'⟩ | ⟨fault, hd⟩
    · cases hst.symm.trans hst'
    · exact ⟨fault, outcome_cons_error.2 (.inr ⟨hst, hd⟩)⟩

section
variable {α : Type} [Scalar α] {e : Extent} {fault : Fault}

/-- Three points that are next to each other in a mesh and make up one of its triangles. -/
inductive Mesh.Triangle {β : Type} (p q r : β) : List β → Prop
  | head : Triangle p q r (p :: q :: r :: rest)
  | tail : Triangle p q r rest → Triangle p q r (a :: b :: c :: rest)

/-- Two points that are next to each other and make up one of the segments of a list. -/
inductive Edges.Segment {β : Type} (p q : β) : List β → Prop
  | head : Segment p q (p :: q :: rest)
  | tail : Segment p q rest → Segment p q (a :: b :: rest)

/-- A triangle that faces the viewer and has no colour: its normal has the given fault. -/
def Surface.Colourless (s : Surface α) (p q r : Vec4 α) (fault : Fault) : Prop :=
  s.faces (Vec3.normal p.point q.point r.point) = true ∧
    s.shade (Vec3.normal p.point q.point r.point) = .error fault

/-- A triangle that faces the viewer and that is not filled on a canvas: one of the bounds of its
rows and columns stands for no cell. -/
def Surface.Unbounded (s : Surface α) (e : Extent) (p q r : Vec4 α) (fault : Fault) : Prop :=
  s.faces (Vec3.normal p.point q.point r.point) = true ∧
    ∃ v ∈ Triangle.converted e p.point q.point r.point, Scalar.cellFault? v = some fault

/-- Triangles cannot be drawn because one of them has no colour, or because of its bounds. -/
theorem exists_of_drawTriangles_error {s : Surface α} {points : List (Vec4 α)}
    (h : (drawTriangles e s points).outcome = .error fault) :
    ∃ p q r, Mesh.Triangle p q r points ∧
      (s.Colourless p q r fault ∨ s.Unbounded e p q r fault) := by
  fun_induction drawTriangles e s points with
  | case1 p q r rest a b c hpoints normal hfaces fault' hshade =>
    cases hpoints
    cases h
    exact ⟨p, q, r, .head, .inl ⟨hfaces, hshade⟩⟩
  | case2 p q r rest a b c hpoints normal hfaces colour hshade ih =>
    cases hpoints
    rcases Drawing.outcome_cons_error.1 h with hstroke | ⟨-, hrest⟩
    · rw [Triangle.fault?_stroke] at hstroke
      exact ⟨p, q, r, .head, .inr ⟨hfaces, List.exists_of_findSome?_eq_some hstroke⟩⟩
    · obtain ⟨p, q, r, ht, hc⟩ := ih hrest
      exact ⟨p, q, r, .tail ht, hc⟩
  | case3 p q r rest a b c hpoints normal hfaces ih =>
    obtain ⟨p, q, r, ht, hc⟩ := ih h
    exact ⟨p, q, r, .tail ht, hc⟩
  | case4 => cases h

/-- Triangles of which one cannot be drawn cannot all be drawn. -/
theorem drawTriangles_error_of_mem {s : Surface α} {points : List (Vec4 α)} {p q r : Vec4 α}
    (ht : Mesh.Triangle p q r points)
    (hc : s.Colourless p q r fault ∨ s.Unbounded e p q r fault) :
    ∃ fault', (drawTriangles e s points).outcome = .error fault' := by
  induction ht with
  | head =>
    have hfaces : s.faces (Vec3.normal p.point q.point r.point) = true := hc.elim (·.1) (·.1)
    rw [drawTriangles]
    simp only [hfaces, if_true]
    cases hshade : s.shade (Vec3.normal p.point q.point r.point) with
    | error fault₀ => exact ⟨fault₀, rfl⟩
    | ok colour =>
      rcases hc with ⟨-, hnone⟩ | ⟨-, v, hv, hfault⟩
      · cases hshade.symm.trans hnone
      · refine Drawing.exists_outcome_cons_error (.inl ?_)
        rw [Triangle.fault?_stroke]
        exact exists_findSome?_of_mem hv hfault
  | @tail _ a b c _ ih =>
    rw [drawTriangles]
    split
    · cases s.shade (Vec3.normal a.point b.point c.point) with
      | error fault₀ => exact ⟨fault₀, rfl⟩
      | ok colour => exact Drawing.exists_outcome_cons_error (.inr ih)
    · exact ih

/-- Segments cannot be drawn because a coordinate of one of them has no nearest cell. -/
theorem exists_of_drawSegments_error {colour : Rgb} {points : List (Vec4 α)}
    (h : (drawSegments e colour points).outcome = .error fault) :
    ∃ p q, Edges.Segment p q points ∧
      ∃ v ∈ Segment.rounded e p.point q.point, Scalar.nearestFault? v = some fault := by
  fun_induction drawSegments e colour points with
  | case1 p q rest ih =>
    rcases Drawing.outcome_cons_error.1 h with hstroke | ⟨-, hrest⟩
    · rw [Segment.fault?_stroke] at hstroke
      exact ⟨p, q, .head, List.exists_of_findSome?_eq_some hstroke⟩
    · obtain ⟨p, q, hs, hc⟩ := ih hrest
      exact ⟨p, q, .tail hs, hc⟩
  | case2 => cases h

/-- Segments with a coordinate that has no nearest cell cannot all be drawn. -/
theorem drawSegments_error_of_mem {colour : Rgb} {points : List (Vec4 α)} {p q : Vec4 α} {v : α}
    (hs : Edges.Segment p q points) (hv : v ∈ Segment.rounded e p.point q.point)
    (hfault : Scalar.nearestFault? v = some fault) :
    ∃ fault', (drawSegments e colour points).outcome = .error fault' := by
  induction hs with
  | head =>
    refine Drawing.exists_outcome_cons_error (.inl ?_)
    rw [Segment.fault?_stroke]
    exact exists_findSome?_of_mem hv hfault
  | tail _ ih => exact Drawing.exists_outcome_cons_error (.inr ih)

/-- Segments in a colour that is given by its parts cannot be drawn because of a part that is no
word, or because a coordinate of one of them has no nearest cell. -/
theorem exists_of_drawInked_error {ink : Rgb.Parts} {points : List (Vec4 α)}
    (h : (drawInked e ink points).outcome = .error fault) :
    ink.ink = .error fault ∨ ∃ p q, Edges.Segment p q points ∧
      ∃ v ∈ Segment.rounded e p.point q.point, Scalar.nearestFault? v = some fault := by
  unfold drawInked at h
  split at h
  · split at h
    · exact .inr (exists_of_drawSegments_error h)
    · next hink =>
      cases h
      exact .inl hink
  · cases h

end

/-- What is wrong with a double that stands for no cell: it is undefined, or it is infinite. -/
theorem Scalar.cellFault?_float {x : Float} {fault : Fault} (h : cellFault? x = some fault) :
    fault = .undefinedCell ∨ fault = .infiniteCell := by
  simp only [cellFault?] at h
  cases hx : Binary64.ofFloat x with
  | nan =>
    rw [hx] at h
    exact .inl (Option.some.inj h).symm
  | infinite =>
    rw [hx] at h
    exact .inr (Option.some.inj h).symm
  | finite =>
    rw [hx] at h
    cases h

/-- A double that stands for no cell is a foreign fault. -/
theorem Scalar.isForeign_of_cellFault? {x : Float} {fault : Fault} (h : cellFault? x = some fault) :
    fault.isForeign = true := by
  rcases cellFault?_float h with rfl | rfl <;> rfl

namespace Render

variable {σ : Type} {settings : Settings Float} {l : Light} {s : RenderState Float σ}
  {op : Operation Float} {fault : Fault}

/-- A shape that cannot be drawn has a side or an edge without a colour, or one with a coordinate
that stands for no cell. -/
theorem isForeign_of_drawing_error (hl : settings.surface = l.surface) {kind : ItemKind}
    {points : List (Vec4 Float)} {e : Extent}
    (h : ((settings.request kind points).drawing e).outcome = .error fault) :
    fault.isForeign = true := by
  cases kind with
  | triangles =>
    obtain ⟨p, q, r, -, ⟨-, hshade⟩ | ⟨-, v, -, hv⟩⟩ := exists_of_drawTriangles_error h
    · rw [hl] at hshade
      exact Light.isForeign_of_shade_error hshade
    · exact Scalar.isForeign_of_cellFault? hv
  | segments =>
    rcases exists_of_drawInked_error h with hink | ⟨p, q, -, v, -, hv⟩
    · obtain rfl := Rgb.Parts.ink_error hink
      rfl
    · exact Scalar.isForeign_of_cellFault? hv

/-- What stops an operation by itself: it closes a scope that was not opened, or names a knob
without a value, or the fault is foreign. -/
theorem Raises.cases (h : Raises settings s op fault) (hl : settings.surface = l.surface) :
    (op = .pop ∧ s.stack.below = [] ∧ fault = .noMatchingPush) ∨
    (∃ name, op.knob? = some name ∧ s.knobs.lookup? name = none ∧ fault = .undefinedKnob name) ∨
    fault.isForeign = true := by
  cases h with
  | underflow hb => exact .inl ⟨rfl, hb, rfl⟩
  | knob hk hv => exact .inr (.inl ⟨_, hk, hv, rfl⟩)
  | angle hf hd =>
    obtain ⟨-, rfl⟩ := Trig.degrees_error.1 hd
    exact .inr (.inr rfl)
  | sphere hm => exact .inr (.inr (Sphere.ofStep_error hm))
  | torus hm => exact .inr (.inr (Torus.ofStep_error hm))
  | drawing _ hd => exact .inr (.inr (isForeign_of_drawing_error hl hd))

end Render

end SceneScript
