import SceneScript.Heap

/-!
# The lengths of codes

Symbols that occur more often get shorter codes. The two lightest trees of symbols become one until
there is only one left, and the length of the code of a symbol is its depth in that tree. Trees
that weigh the same are told apart by their heights and by their places in a heap. A length beyond
the limit is cut, and other codes become longer for it (`Lengths.cut`).
-/

namespace SceneScript.Deflate.Lengths

/-- Symbols at the ends of paths. -/
inductive SymbolTree
  | leaf (s : Nat)
  | node (zero one : SymbolTree)
  deriving Repr, Inhabited

namespace SymbolTree

/-- The symbols with their depths, the tree having the given one. -/
def leaves (depth : Nat) : SymbolTree → List (Nat × Nat)
  | leaf s => [(s, depth)]
  | node zero one => zero.leaves (depth + 1) ++ one.leaves (depth + 1)

/-- The number of trees that are deeper than a limit, the tree itself having the given depth. -/
def tooDeep (limit depth : Nat) : SymbolTree → Nat
  | leaf _ => if limit < depth then 1 else 0
  | node zero one =>
    (if limit < depth then 1 else 0) + zero.tooDeep limit (depth + 1) +
      one.tooDeep limit (depth + 1)

/-- The symbol of a tree that is one. -/
def symbol? : SymbolTree → Option Nat
  | leaf s => some s
  | node .. => none

end SymbolTree

/-- A tree with its weight and its height. -/
structure Weighed where
  weight : Nat
  height : Nat
  tree : SymbolTree
  deriving Inhabited

/-- Whether a tree goes before another one. -/
def Weighed.before (a b : Weighed) : Bool :=
  a.weight < b.weight || (a.weight == b.weight && a.height ≤ b.height)

/-- Makes one tree of a heap, and lists the symbols in the order in which they are taken, the last
one first. -/
def joined : Nat → Array Weighed → List Nat → SymbolTree × List Nat
  | 0, heap, taken => ((heap.getD 0 default).tree, taken)
  | fuel + 1, heap, taken =>
    if heap.size < 2 then ((heap.getD 0 default).tree, taken)
    else
      match Heap.pop? Weighed.before heap with
      | none => ((heap.getD 0 default).tree, taken)
      | some (first, heap) =>
        let second := heap.getD 0 default
        let both : Weighed := ⟨first.weight + second.weight, max first.height second.height + 1,
          .node first.tree second.tree⟩
        joined fuel (Heap.replaceFirst Weighed.before both heap)
          (second.tree.symbol?.toList ++ first.tree.symbol?.toList ++ taken)

/-- The trees that there are at first: the symbols that occur, and others, so that there are two. -/
def seeds (weights : Array Nat) : Array Weighed :=
  let used := (Array.range weights.size).filter fun s => weights.getD s 0 != 0
  let more := match used.toList with
    | [] => [0, 1]
    | [s] => [if s < 2 then s + 1 else 0]
    | _ => []
  (used ++ more.toArray).map fun s => ⟨max 1 (weights.getD s 0), 0, .leaf s⟩

/-- Takes one code away that has the limit as its length and another one that is shorter, and adds
two that are longer by one than the latter, until nothing is too deep. Given and answered are the
numbers of codes of each length. -/
def balanced (limit : Nat) : Nat → Nat → Array Nat → Array Nat
  | 0, _, counts => counts
  | fuel + 1, excess, counts =>
    if excess = 0 then counts
    else
      let n := ((List.range limit).reverse.find? fun n => counts.getD n 0 ≠ 0).getD 0
      let counts := counts.modify n (· - 1)
      let counts := counts.modify (n + 1) (· + 2)
      balanced limit fuel (excess - 2) (counts.modify limit (· - 1))

/-- The lengths of symbols that are cut to a limit. The symbols that were taken first get the
longest codes. -/
def cut (limit excess : Nat) (leaves : List (Nat × Nat)) (taken : List Nat) : List (Nat × Nat) :=
  let counts := leaves.foldl (fun (counts : Array Nat) (_, depth) =>
    counts.modify (min limit depth) (· + 1)) (.replicate (limit + 1) 0)
  let counts := balanced limit excess excess counts
  let lengths := (List.range (limit + 1)).reverse.flatMap fun n =>
    List.replicate (counts.getD n 0) n
  taken.zip lengths

/-- The lengths of the codes of symbols with the given weights, at most as long as the limit. A
symbol that has no code has the length zero. -/
def ofWeights (weights : Array Nat) (limit : Nat) : Array Nat :=
  let trees := seeds weights
  let (tree, taken) := joined trees.size (Heap.ofArray Weighed.before trees) []
  let leaves := tree.leaves 0
  let excess := tree.tooDeep limit 0
  let found := if excess = 0 then leaves else cut limit excess leaves taken.reverse
  found.foldl (fun (out : Array Nat) (s, length) => out.setIfInBounds s length)
    (.replicate weights.size 0)

end SceneScript.Deflate.Lengths
