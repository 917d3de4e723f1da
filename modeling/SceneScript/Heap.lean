/-!
# Heaps

A heap is an array in which each value stands in front of two others, none of which goes before it.
What goes before what is given by a relation, and values that go in either order are told apart by
their places alone.
-/

namespace SceneScript.Heap

variable {α : Type} [Inhabited α]

/-- Puts a value into a heap at a place, or below it, if there are values below that do not go
behind it. -/
def sink (before : α → α → Bool) (v : α) : Nat → Nat → Array α → Array α
  | 0, k, heap => heap.setIfInBounds k v
  | fuel + 1, k, heap =>
    let child (i : Nat) : α := heap.getD i default
    let left := 2 * k + 1
    if heap.size ≤ left then heap.setIfInBounds k v
    else
      let j := if left + 1 < heap.size && before (child (left + 1)) (child left) then left + 1
        else left
      if before v (child j) then heap.setIfInBounds k v
      else sink before v fuel j (heap.setIfInBounds k (child j))

/-- Puts a value into a heap at a place, or above it, as long as it goes before the values there. -/
def rise (before : α → α → Bool) (v : α) : Nat → Nat → Array α → Array α
  | 0, k, heap => heap.setIfInBounds k v
  | fuel + 1, k, heap =>
    let above := heap.getD ((k - 1) / 2) default
    if k = 0 ∨ !before v above then heap.setIfInBounds k v
    else rise before v fuel ((k - 1) / 2) (heap.setIfInBounds k above)

/-- The heap of values. -/
def ofArray (before : α → α → Bool) (values : Array α) : Array α :=
  let half := values.size / 2
  half.fold (fun i _ heap =>
    let k := half - 1 - i
    sink before (heap.getD k default) heap.size k heap) values

/-- The heap with one more value. -/
def push (before : α → α → Bool) (v : α) (heap : Array α) : Array α :=
  rise before v (heap.size + 1) heap.size (heap.push v)

/-- The first value of a heap, and the heap without it. -/
def pop? (before : α → α → Bool) (heap : Array α) : Option (α × Array α) :=
  match heap[0]?, heap.back? with
  | some first, some last => some (first, sink before last heap.size 0 heap.pop)
  | _, _ => none

/-- The heap with another first value. -/
def replaceFirst (before : α → α → Bool) (v : α) (heap : Array α) : Array α :=
  sink before v heap.size 0 heap

end SceneScript.Heap
