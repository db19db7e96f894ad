/-! # Checking trees

A tree is checked node by node, a node before its children and the children from left to right,
and the first fault ends the walk. The subtrees that are still to be looked at wait on a stack, and
the nodes that were looked at are kept.
-/

namespace EventGate

inductive Tree (α : Type) where
  | node (value : α) (children : List (Tree α))

namespace Tree

variable {α ε : Type}

def children : Tree α → List (Tree α)
  | node _ children => children

mutual

def preorder : Tree α → List α
  | node value children => value :: preorderAll children

def preorderAll : List (Tree α) → List α
  | [] => []
  | tree :: rest => preorder tree ++ preorderAll rest

end

mutual

def size : Tree α → Nat
  | node _ children => sizeAll children + 1

def sizeAll : List (Tree α) → Nat
  | [] => 0
  | tree :: rest => size tree + sizeAll rest

end

/-- Puts trees on a stack, the last one first, so that the first one is on top. The top of a stack
is its head. -/
def pushAll (stack trees : List (Tree α)) : List (Tree α) :=
  trees.reverse.foldl (fun stack tree => tree :: stack) stack

theorem pushAll_eq (stack trees : List (Tree α)) : pushAll stack trees = trees ++ stack := by
  simp [pushAll]

theorem sizeAll_append (trees others : List (Tree α)) :
    sizeAll (trees ++ others) = sizeAll trees + sizeAll others := by
  induction trees with
  | nil => simp [sizeAll]
  | cons tree rest ih => simp [sizeAll, ih, Nat.add_assoc]

/-- Looks at the node on top of a stack and puts its subtrees in its place, until the stack is empty
or a node has a fault: the nodes seen, and the fault. Those seen before come last one first. -/
@[semireducible]
def visit (check : α → Except ε Unit) (seen : List α) :
    List (Tree α) → List α × Except ε Unit
  | [] => (seen.reverse, .ok ())
  | node value children :: stack =>
    match check value with
    | .error e => ((value :: seen).reverse, .error e)
    | .ok () => visit check (value :: seen) (pushAll stack children)
termination_by stack => sizeAll stack
decreasing_by
  rw [pushAll_eq, sizeAll_append, sizeAll, size]
  omega

/-- Looks at the nodes of a tree: those seen, and the first fault. -/
def walk (check : α → Except ε Unit) (tree : Tree α) : List α × Except ε Unit :=
  visit check [] [tree]

def check (valid : α → Except ε Unit) (tree : Tree α) : Except ε Unit :=
  (tree.walk valid).2

end Tree

end EventGate
