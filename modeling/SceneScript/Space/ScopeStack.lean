import SceneScript.Fault
import SceneScript.Space.Transform

/-!
# The stack of coordinate systems

A shape is drawn in the coordinate system on top of the stack. `push` opens a scope in which that
system may change, and `pop` closes it. The system at the bottom cannot be popped, so the stack is
never empty: it is its top and the systems below.
-/

namespace SceneScript

/-- A stack of coordinate systems, with at least one. -/
structure ScopeStack (α : Type) where
  top : Transform α
  below : List (Transform α)
  deriving Repr, DecidableEq

namespace ScopeStack

variable {α : Type} [Scalar α]

/-- The stack that a picture starts with: the coordinate system of the screen alone. -/
def initial : ScopeStack α := ⟨.identity, []⟩

/-- The coordinate systems from the top. -/
def entries {β : Type} (s : ScopeStack β) : List (Transform β) := s.top :: s.below

/-- The number of coordinate systems. -/
def depth {β : Type} (s : ScopeStack β) : Nat := s.entries.length

/-- Opens a scope: the top twice. -/
def push {β : Type} (s : ScopeStack β) : ScopeStack β := ⟨s.top, s.entries⟩

/-- Closes a scope: the system that was on top if it can be popped, and the stack that is left. -/
def pop {β : Type} (s : ScopeStack β) : Except Fault (Transform β) × ScopeStack β :=
  match s.below with
  | [] => (.error .noMatchingPush, s)
  | next :: rest => (.ok s.top, ⟨next, rest⟩)

/-- Makes the top compose with a transform of its own coordinates. -/
def apply (s : ScopeStack α) (m : Transform α) : ScopeStack α :=
  ⟨s.top.compose m, s.below⟩

end ScopeStack

end SceneScript
