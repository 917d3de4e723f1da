import Mathlib.Data.List.Forall2
import SceneScript.Output.Gallery
import SceneScript.Proofs.Render.Step
import SceneScript.Proofs.Script.Scopes

/-!
# What coordinate systems mean

The coordinate system in which a shape is drawn is the product of the transforms that are live where
it stands (`Operation.SystemAt`). A run keeps one system for each scope that is open, and this
product is the top one: `Scopes` describes all entries of the stack by the operations that have been
performed, and each operation preserves the description (`Performs.scopes`). So a run draws the
shapes of its script in the systems that the script gives them (`execute_scopes`).
-/

namespace SceneScript

section
variable {α : Type} [Scalar α] [Trig α]

/-- The transforms among operations take one coordinate system to another, composed with it from
left to right. -/
def Operation.Leads (k : Knobs α) (ops : List (Operation α)) (m m' : Transform α) : Prop :=
  ∃ ms, List.Forall₂ (Operation.Moves k) (ops.filter (·.isTransform)) ms ∧
    ms.foldl Transform.compose m = m'

/-- The coordinate system behind operations is made by their live transforms. -/
def Operation.SystemAt (k : Knobs α) (before : List (Operation α)) (m : Transform α) : Prop :=
  Operation.Leads k (Operation.live before) .identity m

/-- A call that draws the shape of an operation in the coordinate system behind the operations
before it. -/
def Operation.Draws (settings : Settings α) (k : Knobs α) (before : List (Operation α))
    (op : Operation α) (call : DrawCall α) : Prop :=
  ∃ m points, Operation.SystemAt k before m ∧ op.Outlines settings.step call.kind points ∧
    call.points = m.points points

/-- The stack behind some operations: the top system and those below it. In each scope that is open
stand balanced operations behind its `push`, and their live transforms lead from the system around
the scope to that in it. -/
inductive Render.Scopes (k : Knobs α) :
    List (Operation α) → Transform α → List (Transform α) → Prop
  | screen : Operation.Balanced ops → Operation.Leads k (Operation.live ops) .identity top →
      Scopes k ops top []
  | inner : Scopes k before around below → Operation.Balanced ops →
      Operation.Leads k (Operation.live ops) around top →
      Scopes k (before ++ .push :: ops) top (around :: below)

end

/-- The operations of a list, each with those before it. -/
def Operation.inContext {α : Type} (before : List (Operation α)) :
    List (Operation α) → List (List (Operation α) × Operation α)
  | [] => []
  | op :: ops => (before, op) :: inContext (before ++ [op]) ops

namespace Operation

section
variable {α : Type} [Scalar α] [Trig α] {k : Knobs α} {ops ops' : List (Operation α)}
  {op : Operation α} {m m' m'' : Transform α}

/-- Operations lead on from where others have led. -/
theorem Leads.append (h : Leads k ops m m') (h' : Leads k ops' m' m'') :
    Leads k (ops ++ ops') m m'' := by
  obtain ⟨ms, hms, rfl⟩ := h
  obtain ⟨ms', hms', rfl⟩ := h'
  refine ⟨ms ++ ms', ?_, List.foldl_append⟩
  rw [List.filter_append]
  exact List.rel_append hms hms'

/-- An operation that is no transform leads nowhere. -/
theorem leads_of_not_isTransform (h : op.isTransform = false) : Leads k [op] m m :=
  ⟨[], by simp [h], rfl⟩

/-- A transform leads to the product with it. -/
theorem Moves.leads (h : op.Moves k m') : Leads k [op] m (m.compose m') := by
  have ht : op.isTransform = true := by cases h <;> rfl
  exact ⟨[m'], by simpa [ht] using h, rfl⟩

/-- A transform draws nothing, and opens and closes no scope. -/
theorem Moves.kind (h : op.Moves k m) :
    op.isPush = false ∧ op.isPop = false ∧ op.isShape = false := by
  cases h <;> exact ⟨rfl, rfl, rfl⟩

/-- A shape is no transform, and opens and closes no scope. -/
theorem Outlines.kind {step : Int} {kind : ItemKind} {points : List (Vec3 α)}
    (h : op.Outlines step kind points) :
    op.isPush = false ∧ op.isPop = false ∧ op.isTransform = false ∧ op.isShape = true := by
  cases h <;> exact ⟨rfl, rfl, rfl, rfl⟩

end

/-- A directive is no transform and no shape, and opens and closes no scope. -/
theorem kind_of_isDirective {α : Type} {op : Operation α} (h : op.isDirective = true) :
    op.isPush = false ∧ op.isPop = false ∧ op.isTransform = false ∧ op.isShape = false := by
  cases op with
  | frames | basename | vary => exact ⟨rfl, rfl, rfl, rfl⟩
  | _ => cases h

end Operation

namespace Render

section
variable {α σ : Type} [Scalar α] [Trig α] {settings : Settings α} {out : Output σ}
  {k : Knobs α} {before ops : List (Operation α)} {op : Operation α} {top m : Transform α}
  {below : List (Transform α)} {s s' : RenderState α σ}

/-- Balanced operations change the system of the innermost scope alone, by their live transforms. -/
theorem Scopes.append (h : Scopes k before top below) (hops : Operation.Balanced ops)
    (hm : Operation.Leads k (Operation.live ops) top m) : Scopes k (before ++ ops) m below := by
  cases h with
  | screen hb ht =>
    refine .screen (hb.append hops) ?_
    rw [Operation.live_append fun _ => hops.closes_eq]
    exact ht.append hm
  | inner hs hb ht =>
    rw [List.append_assoc, List.cons_append]
    refine .inner hs (hb.append hops) ?_
    rw [Operation.live_append fun _ => hops.closes_eq]
    exact ht.append hm

/-- An operation that opens and closes no scope changes the system by what it is. -/
theorem Scopes.snoc (h : Scopes k before top below) (hpush : op.isPush = false)
    (hpop : op.isPop = false) (hm : Operation.Leads k [op] top m) :
    Scopes k (before ++ [op]) m below :=
  h.append (.cons hpush hpop .nil) hm

/-- A scope that is closed leaves the stack as it was around it. -/
theorem Scopes.pop {next : Transform α} {rest : List (Transform α)}
    (h : Scopes k before top (next :: rest)) : Scopes k (before ++ [.pop]) next rest := by
  cases h with
  | inner hs hb ht =>
    rw [List.append_assoc, List.cons_append]
    refine hs.append (.scope hb .nil) ?_
    rw [hb.live_scope]
    exact Operation.leads_of_not_isTransform rfl

/-- The top of the stack is the system that the operations make. -/
theorem Scopes.systemAt (h : Scopes k before top below) : Operation.SystemAt k before top := by
  induction h with
  | screen _ ht => exact ht
  | inner _ hb ht ih =>
    unfold Operation.SystemAt
    rw [hb.live_append_push]
    exact ih.append ((Operation.leads_of_not_isTransform rfl).append ht)

/-- Below the top there is a system for each scope that is open. -/
theorem Scopes.length_below (h : Scopes k before top below) :
    below.length = (Operation.live before).countP (·.isPush) := by
  have hnone : ∀ {ops : List (Operation α)}, Operation.Balanced ops →
      (Operation.live ops).countP (·.isPush) = 0 := by
    intro ops hb
    rw [List.countP_eq_zero]
    intro op hop
    simp [hb.not_isPush_of_mem_live op hop]
  induction h with
  | screen hb _ => rw [hnone hb]; rfl
  | inner _ hb _ ih =>
    rw [hb.live_append_push, List.countP_append, List.countP_cons, hnone hb, List.length_cons, ih]
    rfl

/-- What an operation does to the stack, and which call it makes. -/
theorem Performs.scopes (h : Performs settings out op s s')
    (hs : Scopes s.knobs before s.stack.top s.stack.below) :
    s'.knobs = s.knobs ∧ Scopes s.knobs (before ++ [op]) s'.stack.top s'.stack.below ∧
      ∃ calls, s'.draws.toList = s.draws.toList ++ calls ∧
        List.Forall₂ (Operation.Draws settings s.knobs before) ([op].filter (·.isShape)) calls := by
  have hquiet : op.isPush = false → op.isPop = false → op.isTransform = false →
      Scopes s.knobs (before ++ [op]) s.stack.top s.stack.below := fun h₁ h₂ h₃ =>
    hs.snoc h₁ h₂ (Operation.leads_of_not_isTransform h₃)
  cases h with
  | push => exact ⟨rfl, .inner hs .nil ⟨[], .nil, rfl⟩, [], by simp, .nil⟩
  | pop hb => exact ⟨rfl, Scopes.pop (hb ▸ hs), [], by simp, .nil⟩
  | moves hm =>
    obtain ⟨hpush, hpop, hshape⟩ := hm.kind
    exact ⟨rfl, hs.snoc hpush hpop hm.leads, [], by simp, by simp [hshape]⟩
  | draws ho hd hn =>
    obtain ⟨hpush, hpop, ht, hshape⟩ := ho.kind
    refine ⟨rfl, hquiet hpush hpop ht, [_], by simp; rfl, ?_⟩
    rw [List.filter_cons_of_pos hshape]
    exact .cons ⟨_, _, hs.systemAt, ho, rfl⟩ .nil
  | save | display => exact ⟨rfl, hquiet rfl rfl rfl, [], by simp, .nil⟩
  | directive hd =>
    obtain ⟨hpush, hpop, ht, hshape⟩ := Operation.kind_of_isDirective hd
    exact ⟨rfl, hquiet hpush hpop ht, [], by simp, by simp [hshape]⟩

/-- What a list of operations does to the stack, and which calls it makes. -/
theorem execute_scopes (h : execute settings out ops s = .ok () s')
    (hs : Scopes s.knobs before s.stack.top s.stack.below) :
    Scopes s.knobs (before ++ ops) s'.stack.top s'.stack.below ∧
      ∃ calls, s'.draws.toList = s.draws.toList ++ calls ∧
        List.Forall₂ (fun c => Operation.Draws settings s.knobs c.1 c.2)
          ((Operation.inContext before ops).filter (·.2.isShape)) calls := by
  induction ops generalizing before s with
  | nil =>
    obtain rfl := execute_nil_ok.1 h
    exact ⟨by simpa using hs, [], by simp, .nil⟩
  | cons op ops ih =>
    obtain ⟨s₁, hp, h⟩ := execute_cons_ok.1 h
    obtain ⟨hk, hs₁, calls, hcalls, hdraw⟩ := (perform_ok hp).scopes hs
    obtain ⟨hs', calls', hcalls', hdraw'⟩ := ih h (hk ▸ hs₁)
    rw [hk] at hs' hdraw'
    refine ⟨by simpa using hs', calls ++ calls', by rw [hcalls', hcalls, List.append_assoc], ?_⟩
    cases hshape : op.isShape with
    | true =>
      simp only [List.filter_cons, hshape, if_true, List.filter_nil] at hdraw
      simp only [Operation.inContext, List.filter_cons, hshape, if_true]
      cases hdraw with
      | cons hd hnil => cases hnil; exact .cons hd hdraw'
    | false =>
      simp only [List.filter_cons, hshape, List.filter_nil] at hdraw
      cases hdraw
      simpa [Operation.inContext, hshape] using hdraw'

end

end Render

end SceneScript
