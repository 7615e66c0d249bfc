import StateCoverage.Syntax.Basic

/-!
Walks over a tree with the nodes still to visit on a stack, so that no depth is too great.
-/
namespace StateCoverage.Syntax

/-- Visits the nodes on the stack, behind those visited already. After a node come the nodes that
`next` names for it, then the rest of the stack. -/
def walkFrom (next : Syntax → List Syntax) (shrinks : ∀ t, sizeOfAll (next t) < t.size)
    (visited : List Syntax) : List Syntax → List Syntax
  | [] => visited.reverse
  | t :: rest => walkFrom next shrinks (t :: visited) (next t ++ rest)
termination_by stack => sizeOfAll stack
decreasing_by
  have := shrinks t
  rw [sizeOfAll_append]
  simp only [sizeOfAll]
  omega

def walk (next : Syntax → List Syntax) (shrinks : ∀ t, sizeOfAll (next t) < t.size)
    (root : Syntax) : List Syntax :=
  walkFrom next shrinks [] [root]

theorem sizeOfAll_namedChildren_lt (t : Syntax) : sizeOfAll t.namedChildren < t.size := by
  have := sizeOfAll_filter_le isNamed t.children
  rw [size_eq t]
  unfold namedChildren
  omega

def preorder (root : Syntax) : List Syntax := walk namedChildren sizeOfAll_namedChildren_lt root

end StateCoverage.Syntax
