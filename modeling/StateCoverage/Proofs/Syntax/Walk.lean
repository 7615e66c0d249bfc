import StateCoverage.Syntax.Walk

/-!
What a walk with a stack visits, told by recursion. The stack holds what is left of the recursion:
each node on it stands for itself and everything below it.
-/
namespace StateCoverage.Syntax

section Descend
variable {next : Syntax → List Syntax} (shrinks : ∀ t, sizeOfAll (next t) < t.size)

/-- The nodes that `next` names are smaller, so what holds of a node whenever it holds of them holds
of every node. -/
theorem induct_next {motive : Syntax → Prop} (shrinks : ∀ t, sizeOfAll (next t) < t.size)
    (node : ∀ t, (∀ c ∈ next t, motive c) → motive t) (t : Syntax) : motive t :=
  node t fun c hc =>
    have : c.size < t.size := Nat.lt_of_le_of_lt (size_le_sizeOfAll hc) (shrinks t)
    induct_next shrinks node c
termination_by t.size

/-- A node, then what is found below each node that `next` names for it, in order. -/
def descend (shrinks : ∀ t, sizeOfAll (next t) < t.size) (t : Syntax) : List Syntax :=
  t :: (next t).attach.flatMap fun ⟨c, hc⟩ =>
    have : c.size < t.size := Nat.lt_of_le_of_lt (size_le_sizeOfAll hc) (shrinks t)
    descend shrinks c
termination_by t.size

theorem descend_eq (t : Syntax) :
    descend shrinks t = t :: (next t).flatMap (descend shrinks) := by
  rw [descend, List.flatMap_subtype (fun c hc => rfl), List.unattach_attach]

/-- Behind the nodes visited already come those found below each node of the stack. -/
theorem walkFrom_eq (visited stack : List Syntax) :
    walkFrom next shrinks visited stack = visited.reverse ++ stack.flatMap (descend shrinks) := by
  induction visited, stack using walkFrom.induct next shrinks with
  | case1 visited => simp [walkFrom]
  | case2 visited t rest ih =>
    rw [walkFrom, ih, List.flatMap_append, List.flatMap_cons, descend_eq]
    simp

/-- A walk with a stack is the recursive descent. -/
theorem walk_eq (root : Syntax) : walk next shrinks root = descend shrinks root := by
  rw [walk, walkFrom_eq]
  simp

end Descend

end StateCoverage.Syntax
