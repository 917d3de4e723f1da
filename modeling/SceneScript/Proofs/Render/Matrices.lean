import Mathlib.LinearAlgebra.Matrix.Notation
import SceneScript.Proofs.Render.Volumes

/-!
# What a script draws where

Each operation that moves, scales or rotates has a matrix of four rows and four columns, written
down here entry by entry: its operands, multiplied by the value of the knob if it names one, and the
cosine and the sine of the angle (`Operation.HasMatrix`). A transform of a run is such a matrix
(`Operation.Moves.hasMatrix`), composing transforms multiplies the matrices
(`Transform.square_compose`), and a transform takes a point to the product of its matrix with the
point (`Transform.points_eq_map`). So a run draws each shape of its script where the matrices that
are live there take its points (`Render.execute_draws`).

Sums are taken from left to right, so that all this holds of doubles as well.
-/

namespace SceneScript

/-- A matrix of four rows and four columns. -/
abbrev Square (α : Type) := Matrix (Fin 4) (Fin 4) α

namespace Square

variable {α : Type} [Scalar α]

/-- The identity matrix. -/
def identity : Square α := !![1, 0, 0, 0; 0, 1, 0, 0; 0, 0, 1, 0; 0, 0, 0, 1]

/-- The product of two matrices. -/
def times (a b : Square α) : Square α :=
  fun i j => a i 0 * b 0 j + a i 1 * b 1 j + a i 2 * b 2 j + a i 3 * b 3 j

/-- The image of a point, whose last coordinate is one. -/
def image (m : Square α) (p : Vec3 α) : Vec4 α :=
  let coordinate (i : Fin 4) : α := m i 0 * p.x + m i 1 * p.y + m i 2 * p.z + m i 3 * 1
  ⟨coordinate 0, coordinate 1, coordinate 2, coordinate 3⟩

end Square

section
variable {α : Type} [Scalar α]

/-- What an operand comes to: itself, or its product with the value of the knob that is named. -/
inductive Operand (k : Knobs α) : Option String → α → α → Prop
  | alone : Operand k none a a
  | times : k.lookup? name = some f → Operand k (some name) a (a * f)

variable [Trig α]

/-- The matrix of an operation that moves, scales or rotates. -/
inductive Operation.HasMatrix (k : Knobs α) : Operation α → Square α → Prop
  | move : Operand k knob v.x x → Operand k knob v.y y → Operand k knob v.z z →
      HasMatrix k (.move v knob) !![1, 0, 0, x; 0, 1, 0, y; 0, 0, 1, z; 0, 0, 0, 1]
  | scale : Operand k knob v.x x → Operand k knob v.y y → Operand k knob v.z z →
      HasMatrix k (.scale v knob) !![x, 0, 0, 0; 0, y, 0, 0; 0, 0, z, 0; 0, 0, 0, 1]
  | rotateX : Operand k knob a angle → Trig.degrees angle = .ok (c, s) →
      HasMatrix k (.rotate .x a knob) !![1, 0, 0, 0; 0, c, -s, 0; 0, s, c, 0; 0, 0, 0, 1]
  | rotateY : Operand k knob a angle → Trig.degrees angle = .ok (c, s) →
      HasMatrix k (.rotate .y a knob) !![c, 0, s, 0; 0, 1, 0, 0; -s, 0, c, 0; 0, 0, 0, 1]
  | rotateZ : Operand k knob a angle → Trig.degrees angle = .ok (c, s) →
      HasMatrix k (.rotate .z a knob) !![c, -s, 0, 0; s, c, 0, 0; 0, 0, 1, 0; 0, 0, 0, 1]

/-- The product of the matrices of the transforms among operations, from the first to the last and
starting from the identity. -/
def Operation.HasProduct (k : Knobs α) (ops : List (Operation α)) (m : Square α) : Prop :=
  ∃ ms, List.Forall₂ (Operation.HasMatrix k) (ops.filter (·.isTransform)) ms ∧
    ms.foldl Square.times .identity = m

/-- A call that draws the shape of an operation: its points are where the transforms that are live
behind the operations before it take those of the shape. -/
def Operation.DrawsImage (settings : Settings α) (k : Knobs α) (before : List (Operation α))
    (op : Operation α) (call : DrawCall α) : Prop :=
  ∃ m points, Operation.HasProduct k (Operation.live before) m ∧
    op.Outlines settings.step call.kind points ∧ call.points = points.map m.image

end

namespace Transform

/-- The matrix of a transform. -/
def square {α : Type} (m : Transform α) : Square α :=
  !![m.row₁.x, m.row₁.y, m.row₁.z, m.row₁.w;
    m.row₂.x, m.row₂.y, m.row₂.z, m.row₂.w;
    m.row₃.x, m.row₃.y, m.row₃.z, m.row₃.w;
    m.row₄.x, m.row₄.y, m.row₄.z, m.row₄.w]

variable {α : Type} [Scalar α]

/-- Composing transforms multiplies their matrices. -/
theorem square_compose (m m' : Transform α) : (m.compose m').square = m.square.times m'.square := by
  ext i j
  fin_cases i <;> fin_cases j <;> rfl

/-- A transform takes points where its matrix does. -/
theorem points_eq_map (m : Transform α) (ps : List (Vec3 α)) :
    m.points ps = ps.map m.square.image := rfl

/-- Composing transforms one after another multiplies their matrices in this order. -/
theorem square_foldl_compose (ms : List (Transform α)) :
    (ms.foldl compose identity).square = (ms.map square).foldl Square.times .identity := by
  rw [List.foldl_map]
  exact (List.foldl_hom square fun m m' => (square_compose m m').symm).symm

end Transform

namespace Operation

section
variable {α : Type} [Scalar α] [Trig α] {k : Knobs α} {ops before : List (Operation α)}
  {op : Operation α} {m : Transform α}

/-- A transform of a script has the matrix of its operation. -/
theorem Moves.hasMatrix (h : op.Moves k m) : op.HasMatrix k m.square := by
  cases h with
  | move => exact .move .alone .alone .alone
  | moveBy hk => exact .move (.times hk) (.times hk) (.times hk)
  | scale => exact .scale .alone .alone .alone
  | scaleBy hk => exact .scale (.times hk) (.times hk) (.times hk)
  | @rotate _ _ _ axis ha =>
    cases axis with
    | x => exact .rotateX .alone ha
    | y => exact .rotateY .alone ha
    | z => exact .rotateZ .alone ha
  | @rotateBy _ _ _ _ _ axis hk ha =>
    cases axis with
    | x => exact .rotateX (.times hk) ha
    | y => exact .rotateY (.times hk) ha
    | z => exact .rotateZ (.times hk) ha

/-- Operations that lead from the identity to a transform have the product of its matrix. -/
theorem Leads.hasProduct (h : Leads k ops .identity m) : HasProduct k ops m.square := by
  obtain ⟨ms, hms, rfl⟩ := h
  refine ⟨ms.map Transform.square, ?_, (Transform.square_foldl_compose ms).symm⟩
  rw [List.forall₂_map_right_iff]
  exact hms.imp fun _ _ => Moves.hasMatrix

/-- What is drawn in the system behind operations is drawn where their matrices take it. -/
theorem Draws.drawsImage {settings : Settings α} {call : DrawCall α}
    (h : Draws settings k before op call) : DrawsImage settings k before op call := by
  obtain ⟨m, points, hm, ho, hpoints⟩ := h
  exact ⟨m.square, points, Leads.hasProduct hm, ho, hpoints.trans (m.points_eq_map points)⟩

end

end Operation

namespace Render

section
variable {α σ : Type} [Scalar α] [Trig α] {settings : Settings α} {out : Output σ}
  {ops : List (Operation α)} {s s' : RenderState α σ}

/-- Meaning of the coordinate systems. From a stack with the system of the screen alone, a list of
operations that is performed makes one call for each of its shapes, in order. The points that it
hands over are the images of those of the shape under the product, from the identity on, of the
matrices of the transforms before the shape that do not stand in a scope closed before it, with the
knobs as they are at the start. Behind the list there is one more system than there are scopes that
it has left open. -/
theorem execute_draws (h : execute settings out ops s = .ok () s') (hs : s.stack = .initial) :
    (∃ calls, s'.draws.toList = s.draws.toList ++ calls ∧
      List.Forall₂ (fun c => Operation.DrawsImage settings s.knobs c.1 c.2)
        ((Operation.inContext [] ops).filter (·.2.isShape)) calls) ∧
    s'.stack.depth = 1 + (Operation.live ops).countP (·.isPush) := by
  obtain ⟨hscopes, calls, hcalls, hdraws⟩ := execute_scopes h (.of_initial hs)
  refine ⟨⟨calls, hcalls, hdraws.imp fun _ _ => Operation.Draws.drawsImage⟩, ?_⟩
  rw [List.nil_append] at hscopes
  rw [← hscopes.length_below, Nat.add_comm]
  rfl

end

/-- The turned line behind a scope that is closed and a move by the knob. -/
noncomputable def placedLine : List (Operation ℝ) :=
  [.push, .move ⟨1, 1, 1⟩ none, .pop, .move ⟨1, 0, -1⟩ (some "k")] ++ turnedLine

/-- The matrices that are live where the line stands stretch it by the knob, which is negative, turn
it downwards and move it. -/
theorem image_of_hasProduct_placedLine {m : Square ℝ}
    (h : Operation.HasProduct realState.knobs (Operation.live (placedLine.take 7)) m) :
    m.image ⟨0, 0, 0⟩ = ⟨-2, 0, 2, 1⟩ ∧ m.image ⟨1, 0, 0⟩ = ⟨-2, -4, 2, 1⟩ := by
  have htransforms : (Operation.live (placedLine.take 7)).filter (·.isTransform) =
      [.move ⟨1, 0, -1⟩ (some "k"), .rotate .z 90 none, .scale ⟨2, 1, 3⟩ (some "k")] := by
    simp [Operation.live, placedLine, turnedLine, Operation.closesScope_iff, Operation.closes,
      Operation.isTransform]
  have hnamed {a b : ℝ} (h : Operand realState.knobs (some "k") a b) : b = a * -2 := by
    cases h with
    | times hk => cases hk; rfl
  obtain ⟨ms, hms, rfl⟩ := h
  rw [htransforms] at hms
  rcases hms with _ | ⟨hmove, _ | ⟨hturn, _ | ⟨hscale, _ | _⟩⟩⟩
  cases hmove with
  | move hx hy hz =>
  cases hturn with
  | rotateZ ha hcs =>
  cases hscale with
  | scale hx' hy' hz' =>
  cases hnamed hx
  cases hnamed hy
  cases hnamed hz
  cases ha
  cases hnamed hx'
  cases hnamed hy'
  cases hnamed hz'
  obtain ⟨rfl, rfl⟩ := Prod.mk.inj (Except.ok.inj hcs)
  have hangle : (90 : ℝ) * (Real.pi / 180) = Real.pi / 2 := by ring
  rw [hangle, Real.cos_pi_div_two, Real.sin_pi_div_two]
  constructor
  · simp [Square.times, Square.identity, Square.image]
  · simp [Square.times, Square.identity, Square.image]
    norm_num

/-- The line is drawn where its matrices take it, and the scope stays open. -/
theorem execute_draws_placedLine : ∃ s' call,
    execute realSettings (Gallery.output {}) placedLine realState = .ok () s' ∧
    s'.draws.toList = [call] ∧
    Operation.DrawsImage realSettings realState.knobs (placedLine.take 7)
      (.line ⟨0, 0, 0⟩ ⟨1, 0, 0⟩) call ∧
    call.points = [⟨-2, 0, 2, 1⟩, ⟨-2, -4, 2, 1⟩] ∧ s'.stack.depth = 2 := by
  have hink : realSettings.lineColour.ink = .ok .black := rfl
  have hops : placedLine = placedLine.take 7 ++ [.line ⟨0, 0, 0⟩ ⟨1, 0, 0⟩] := rfl
  obtain ⟨s₁, hbefore⟩ : ∃ s₁, execute realSettings (Gallery.output {}) (placedLine.take 7)
      realState = .ok () s₁ := ⟨_, rfl⟩
  obtain ⟨s', h⟩ : ∃ s', execute realSettings (Gallery.output {}) placedLine realState =
      .ok () s' := by
    rw [hops]
    exact ⟨_, execute_append_ok.2 ⟨s₁, hbefore, execute_cons_ok.2
      ⟨_, perform_line hink _ _ s₁, execute_nil_ok.2 rfl⟩⟩⟩
  obtain ⟨⟨calls, hcalls, hdraws⟩, hdepth⟩ := execute_draws h rfl
  have hopen : (Operation.live placedLine).countP (·.isPush) = 1 := by
    simp [Operation.live, placedLine, turnedLine, Operation.closesScope_iff, Operation.closes,
      Operation.isPush]
  have hshapes : (Operation.inContext [] placedLine).filter (·.2.isShape) =
      [(placedLine.take 7, .line ⟨0, 0, 0⟩ ⟨1, 0, 0⟩)] := rfl
  rw [hshapes] at hdraws
  cases hdraws with
  | @cons _ call _ _ hd hnil =>
  cases hnil
  refine ⟨s', call, h, hcalls, hd, ?_, by rw [hdepth, hopen]⟩
  obtain ⟨m, points, hm, ho, hpoints⟩ := hd
  obtain ⟨hzero, hone⟩ := image_of_hasProduct_placedLine hm
  generalize call.kind = kind at ho
  cases ho with
  | line => rw [hpoints, List.map_cons, List.map_singleton, hzero, hone]

end Render

end SceneScript
