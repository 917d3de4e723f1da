import SceneScript.Script.Operation

/-!
# Scopes of an operation list

A scope goes from a `push` to the `pop` that closes it. Between the two stands a list in which every
scope that is opened is closed again (`Balanced`). The operations in a closed scope are over and
done with; the others are `live`. Which ones are is decided by counting: reading on from an
operation, its scope is closed by the first `pop` that has no `push` of its own (`closesScope_iff`).
-/

namespace SceneScript.Operation

variable {α : Type}

/-- Whether an operation transforms the coordinate system. -/
def isTransform : Operation α → Bool
  | move .. | scale .. | rotate .. => true
  | _ => false

/-- Whether an operation draws a shape. -/
def isShape : Operation α → Bool
  | box .. | sphere .. | torus .. | line .. => true
  | _ => false

/-- Whether an operation opens a scope. -/
def isPush : Operation α → Bool
  | push => true
  | _ => false

/-- Whether an operation closes a scope. -/
def isPop : Operation α → Bool
  | pop => true
  | _ => false

/-- Operations in which each scope that is opened is closed, and no other. -/
inductive Balanced : List (Operation α) → Prop
  | nil : Balanced []
  | cons {op ops} : op.isPush = false → op.isPop = false → Balanced ops → Balanced (op :: ops)
  | scope {inner ops} : Balanced inner → Balanced ops → Balanced (push :: (inner ++ pop :: ops))

/-- The scope that is open before some operations is closed by one of them. -/
def ClosesScope (ops : List (Operation α)) : Prop :=
  ∃ inner rest, Balanced inner ∧ ops = inner ++ pop :: rest

/-- Whether operations close the scope that is open before them when so many scopes have been opened
in it already. -/
def closes : Nat → List (Operation α) → Bool
  | _, [] => false
  | depth, push :: ops => closes (depth + 1) ops
  | 0, pop :: _ => true
  | depth + 1, pop :: ops => closes depth ops
  | depth, _ :: ops => closes depth ops

/-- An operation that neither opens nor closes a scope does not count. -/
theorem closes_cons {op : Operation α} {ops : List (Operation α)} {depth : Nat}
    (hpush : op.isPush = false) (hpop : op.isPop = false) :
    closes depth (op :: ops) = closes depth ops := by
  cases op with
  | push => cases hpush
  | pop => cases hpop
  | _ => rfl

/-- An operation opens a scope, closes one, or does neither. -/
theorem scope_cases (op : Operation α) :
    op = push ∨ op = pop ∨ op.isPush = false ∧ op.isPop = false := by
  cases op with
  | push => exact .inl rfl
  | pop => exact .inr (.inl rfl)
  | _ => exact .inr (.inr ⟨rfl, rfl⟩)

/-- Balanced operations close nothing that is open before them. -/
theorem Balanced.closes_append {ops rest : List (Operation α)} {depth : Nat} (h : Balanced ops) :
    closes depth (ops ++ rest) = closes depth rest := by
  induction h generalizing depth rest with
  | nil => rfl
  | cons hpush hpop _ ih => exact (closes_cons hpush hpop).trans ih
  | scope _ _ ih₁ ih₂ =>
    rw [List.cons_append, List.append_assoc, closes, ih₁]
    exact ih₂

/-- Balanced operations alone close nothing. -/
theorem Balanced.closes_eq {ops : List (Operation α)} {depth : Nat} (h : Balanced ops) :
    closes depth ops = false := by
  rw [← List.append_nil ops, h.closes_append]
  rfl

/-- Balanced operations one after another are balanced. -/
theorem Balanced.append {ops ops' : List (Operation α)} (h : Balanced ops) (h' : Balanced ops') :
    Balanced (ops ++ ops') := by
  induction h with
  | nil => exact h'
  | cons hpush hpop _ ih => exact .cons hpush hpop ih
  | scope hinner _ _ ih =>
    rw [List.cons_append, List.append_assoc]
    exact .scope hinner ih

/-- What is counted are scopes: the first that is closed is the innermost. -/
theorem exists_balanced_of_closes {ops : List (Operation α)} {depth : Nat}
    (h : closes depth ops = true) : ∃ inner rest, Balanced inner ∧ ops = inner ++ pop :: rest ∧
      (0 < depth → closes (depth - 1) rest = true) := by
  match ops with
  | [] => cases h
  | op :: ops =>
    rcases scope_cases op with rfl | rfl | ⟨hpush, hpop⟩
    · -- the scope that is opened here is closed first, and then the one around it
      obtain ⟨inner, rest, hinner, rfl, hrest⟩ :=
        exists_balanced_of_closes (show closes (depth + 1) ops = true from h)
      obtain ⟨inner', rest', hinner', rfl, hrest'⟩ :=
        exists_balanced_of_closes (hrest (Nat.succ_pos _))
      exact ⟨push :: (inner ++ pop :: inner'), rest', .scope hinner hinner', by simp, hrest'⟩
    · cases depth with
      | zero => exact ⟨[], ops, .nil, rfl, fun h => nomatch h⟩
      | succ depth => exact ⟨[], ops, .nil, rfl, fun _ => h⟩
    · rw [closes_cons hpush hpop] at h
      obtain ⟨inner, rest, hinner, rfl, hrest⟩ := exists_balanced_of_closes h
      exact ⟨op :: inner, rest, .cons hpush hpop hinner, rfl, hrest⟩
termination_by ops.length
decreasing_by
  · exact Nat.lt_succ_self _
  · subst_vars
    simp only [List.length_cons, List.length_append]
    omega
  · exact Nat.lt_succ_self _

/-- Whether a scope is closed can be found out by counting. -/
theorem closesScope_iff {ops : List (Operation α)} : ClosesScope ops ↔ closes 0 ops = true := by
  constructor
  · rintro ⟨inner, rest, hinner, rfl⟩
    rw [hinner.closes_append]
    rfl
  · intro h
    obtain ⟨inner, rest, hinner, he, -⟩ := exists_balanced_of_closes h
    exact ⟨inner, rest, hinner, he⟩

instance {ops : List (Operation α)} : Decidable (ClosesScope ops) :=
  decidable_of_iff (closes 0 ops = true) closesScope_iff.symm

/-- The operations whose scope is still open at the end, in order. -/
def live : List (Operation α) → List (Operation α)
  | [] => []
  | op :: ops => if ClosesScope ops then live ops else op :: live ops

/-- What comes later and closes nothing does not count. -/
theorem closes_append {ops later : List (Operation α)} (h : ∀ depth, closes depth later = false)
    (depth : Nat) : closes depth (ops ++ later) = closes depth ops := by
  induction ops generalizing depth with
  | nil => exact h depth
  | cons op ops ih =>
    rcases scope_cases op with rfl | rfl | ⟨hpush, hpop⟩
    · exact ih _
    · cases depth with
      | zero => rfl
      | succ depth => exact ih _
    · rw [List.cons_append, closes_cons hpush hpop, closes_cons hpush hpop, ih]

/-- What comes later and closes nothing leaves the operations before it alive or dead. -/
theorem live_append {ops later : List (Operation α)} (h : ∀ depth, closes depth later = false) :
    live (ops ++ later) = live ops ++ live later := by
  induction ops with
  | nil => rfl
  | cons op ops ih =>
    simp only [List.cons_append, live, closesScope_iff, closes_append h, ih]
    split <;> rfl

/-- In a scope that is closed nothing is live. -/
theorem Balanced.live_append_pop {inner rest : List (Operation α)} (h : Balanced inner) :
    live (inner ++ pop :: rest) = live (pop :: rest) := by
  have hclosed : ∀ {inner rest : List (Operation α)}, Balanced inner →
      ClosesScope (inner ++ pop :: rest) := fun h => ⟨_, _, h, rfl⟩
  induction h generalizing rest with
  | nil => rfl
  | cons hpush hpop h ih =>
    rw [List.cons_append, live, if_pos (hclosed h), ih]
  | scope hinner hops ih ih' =>
    rw [List.cons_append, List.append_assoc, List.cons_append, live, if_pos (hclosed hinner), ih,
      live, if_pos (hclosed hops), ih']

/-- A scope that is closed leaves nothing alive but its end. -/
theorem Balanced.live_scope {inner rest : List (Operation α)} (h : Balanced inner) :
    live (push :: (inner ++ pop :: rest)) = live (pop :: rest) := by
  rw [live, if_pos ⟨_, _, h, rfl⟩, h.live_append_pop]

/-- A scope in which balanced operations stand is still open behind them. -/
theorem Balanced.live_append_push {before ops : List (Operation α)} (h : Balanced ops) :
    live (before ++ push :: ops) = live before ++ push :: live ops := by
  have hopen : ∀ depth, closes depth (push :: ops) = false := fun _ => h.closes_eq
  rw [live_append hopen, live, if_neg (by simp [closesScope_iff, h.closes_eq])]

/-- Balanced operations leave no scope open. -/
theorem Balanced.not_isPush_of_mem_live {ops : List (Operation α)} (h : Balanced ops) :
    ∀ op ∈ live ops, op.isPush = false := by
  induction h with
  | nil => exact fun _ h => nomatch h
  | cons hpush hpop h ih =>
    intro op hop
    rw [live, if_neg (by simp [closesScope_iff, h.closes_eq])] at hop
    rcases List.mem_cons.1 hop with rfl | hop
    · exact hpush
    · exact ih op hop
  | scope hinner hops ih ih' =>
    intro op hop
    rw [hinner.live_scope, live, if_neg (by simp [closesScope_iff, hops.closes_eq])] at hop
    rcases List.mem_cons.1 hop with rfl | hop
    · rfl
    · exact ih' op hop

end SceneScript.Operation
