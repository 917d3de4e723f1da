import SceneScript.Proofs.Render.Systems

/-!
# What the entries of the stack are

Each coordinate system on the stack was the top one when the scope above it was opened, and the
operations before that `push` make it (`Operation.openings`). So the whole stack can be read off the
operations that have been performed: its entries, from the top, are the systems behind all of them
and behind those before each `push` whose scope is still open (`Render.execute_entries`).
-/

namespace SceneScript

namespace Operation

section
variable {α : Type}

/-- The operations before each `push` whose scope is open at the end, the innermost scope first. -/
def openings (before : List (Operation α)) : List (Operation α) → List (List (Operation α))
  | [] => []
  | op :: ops =>
    openings (before ++ [op]) ops ++ if op.isPush ∧ ¬ ClosesScope ops then [before] else []

/-- The operations that make each entry of the stack, from the top: all of them, and those before
each scope that is open. -/
def makers (ops : List (Operation α)) : List (List (Operation α)) := ops :: openings [] ops

variable {op : Operation α} {ops later acc before : List (Operation α)}

/-- An operation that opens no scope is not in front of one. -/
theorem openings_cons (h : op.isPush = false ∨ ClosesScope ops) :
    openings acc (op :: ops) = openings (acc ++ [op]) ops := by
  have h : ¬ (op.isPush ∧ ¬ ClosesScope ops) := by
    rintro ⟨hpush, hopen⟩
    rcases h with h | h
    · rw [h] at hpush
      cases hpush
    · exact hopen h
  rw [openings, if_neg h, List.append_nil]

/-- Balanced operations open nothing that is left open: they only stand in front of what follows. -/
theorem Balanced.openings_append (h : Balanced ops) :
    openings acc (ops ++ later) = openings (acc ++ ops) later := by
  induction h generalizing acc later with
  | nil => rw [List.nil_append, List.append_nil]
  | cons hpush _ _ ih =>
    rw [List.cons_append, openings_cons (.inl hpush), ih, List.append_assoc,
      List.singleton_append]
  | scope hinner _ ih₁ ih₂ =>
    rw [List.cons_append, List.append_assoc, List.cons_append,
      openings_cons (.inr ⟨_, _, hinner, rfl⟩), ih₁, openings_cons (.inl rfl), ih₂]
    simp

/-- Balanced operations leave no scope open. -/
theorem Balanced.openings_eq (h : Balanced ops) : openings acc ops = [] := by
  rw [← List.append_nil ops, h.openings_append]
  rfl

/-- A scope that is left open is the innermost one when balanced operations stand in it. -/
theorem Balanced.openings_push (h : Balanced ops) :
    openings acc (before ++ push :: ops) = (acc ++ before) :: openings acc before := by
  induction before generalizing acc with
  | nil =>
    have hopen : ¬ ClosesScope ops := by simp [closesScope_iff, h.closes_eq]
    simp [openings, h.openings_eq, hopen, isPush]
  | cons op before ih =>
    have hnone : ∀ depth, closes depth (push :: ops) = false := fun _ => h.closes_eq
    have hcloses : ClosesScope (before ++ push :: ops) ↔ ClosesScope before := by
      rw [closesScope_iff, closesScope_iff, Operation.closes_append hnone]
    simp only [List.cons_append, openings, ih, hcloses, List.append_assoc, List.nil_append]

end

end Operation

namespace Render

section
variable {α σ : Type} [Scalar α] [Trig α] {settings : Settings α} {out : Output σ}
  {k : Knobs α} {ops : List (Operation α)} {top : Transform α} {below : List (Transform α)}
  {s s' : RenderState α σ}

/-- All entries of the stack are the systems of the operations that make them. -/
theorem Scopes.entries (h : Scopes k ops top below) :
    List.Forall₂ (Operation.SystemAt k) (Operation.makers ops) (top :: below) := by
  refine .cons h.systemAt ?_
  induction h with
  | screen hb _ =>
    rw [hb.openings_eq]
    exact .nil
  | inner hs hb _ ih =>
    rw [hb.openings_push]
    exact .cons hs.systemAt ih

/-- The system of the screen is what no operations make. -/
theorem Scopes.of_initial (hs : s.stack = .initial) : Scopes k [] s.stack.top s.stack.below := by
  rw [hs]
  exact .screen .nil ⟨[], .nil, rfl⟩

/-- From a stack with the system of the screen alone, operations that are performed leave the systems
of the operations that make them. -/
theorem execute_entries (h : execute settings out ops s = .ok () s') (hs : s.stack = .initial) :
    List.Forall₂ (Operation.SystemAt s.knobs) (Operation.makers ops) s'.stack.entries :=
  (execute_scopes h (.of_initial hs)).1.entries

end

end Render

end SceneScript
