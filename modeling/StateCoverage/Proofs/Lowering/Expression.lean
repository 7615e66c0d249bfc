import StateCoverage.Lowering.Expression

/-!
The expression of a node, told from its shape.
-/
namespace StateCoverage
variable {source : Source} {t : Syntax}

theorem lower_of_shape {shape : Shape} (h : t.shape = shape) :
    t.lower source = shape.assemble source t fun c _ => c.lower source := by
  subst h
  rw [Syntax.lower]

theorem shape_of_parenthesized {inner : Syntax} (h : t.kind = "parenthesized_expression")
    (hinner : t.content = [inner]) : t.shape = .parenthesized inner := by
  rw [Syntax.shape, h]
  simp only [hinner]

theorem mem_parts_of_parenthesized {inner : Syntax} (h : t.kind = "parenthesized_expression")
    (hinner : t.content = [inner]) : inner ∈ t.shape.parts := by
  rw [shape_of_parenthesized h hinner]
  exact List.mem_singleton_self inner

theorem lower_of_parenthesized {inner : Syntax} (h : t.kind = "parenthesized_expression")
    (hinner : t.content = [inner]) : t.lower source = inner.lower source := by
  rw [lower_of_shape (shape_of_parenthesized h hinner), Shape.assemble]

/-- The expression in a substitution. One that is empty stands for no expression of the source. -/
def Source.substituted (source : Source) (content : Option Syntax) : Expr :=
  match content with
  | some c => c.lower source
  | none => .other "template_substitution" []

theorem assemble_template (substitutions : List (Option Syntax)) :
    (Shape.template substitutions).assemble source t (fun c _ => c.lower source) =
      .template (source.quasisOf t) (substitutions.map source.substituted) := by
  rw [Shape.assemble, ← List.attach_map_val (l := substitutions)]
  refine congrArg _ (List.map_congr_left fun x _ => ?_)
  obtain ⟨_ | c, _⟩ := x <;> rfl

theorem assemble_call (callee : Syntax) (arguments : List Syntax) :
    (Shape.call callee arguments).assemble source t (fun c _ => c.lower source) =
      .call (callee.lower source) (arguments.map (Syntax.lower source)) := by
  rw [Shape.assemble]
  exact congrArg _ (List.attach_map_val (f := Syntax.lower source))

/-- The key and the value that a member becomes. -/
def Entry.lower (source : Source) : Entry → Expr × Expr
  | .pair key value => (source.keyOf key, value.lower source)
  | .shorthand name => (.name (source.textOf name), .name (source.textOf name))

theorem assemble_object (entries : List Entry) :
    (Shape.object entries).assemble source t (fun c _ => c.lower source) =
      .object (entries.map (Entry.lower source)) := by
  rw [Shape.assemble, ← List.attach_map_val (l := entries)]
  refine congrArg _ (List.map_congr_left fun x _ => ?_)
  obtain ⟨_ | _, _⟩ := x <;> rfl

/-- Only a template has substitutions in its shape, all of them. -/
theorem substitutions_of_shape {substitutions : List (Option Syntax)}
    (h : t.shape = .template substitutions) :
    substitutions = t.substitutions.map (·.content.head?) := by
  unfold Syntax.shape at h
  repeat' split at h
  all_goals cases h
  rfl

theorem lower_of_template (h : t.kind = "template_string") :
    t.lower source = .template (source.quasisOf t)
      (t.substitutions.map fun s => source.substituted s.content.head?) := by
  have hshape : t.shape = .template (t.substitutions.map (·.content.head?)) := by
    rw [Syntax.shape, h]
    rfl
  rw [lower_of_shape hshape, assemble_template, List.map_map]
  rfl

theorem lower_of_object (h : t.kind = "object") :
    t.lower source = .object ((t.content.filterMap Syntax.binds).map (Entry.lower source)) := by
  have hshape : t.shape = .object (t.content.filterMap Syntax.binds) := by
    rw [Syntax.shape, h]
    rfl
  rw [lower_of_shape hshape, assemble_object]

theorem lower_of_string (h : t.kind = "string") :
    t.lower source = .string (source.stringOf t) := by
  have hshape : t.shape = .string := by
    rw [Syntax.shape, h]
    rfl
  rw [lower_of_shape hshape, Shape.assemble]

theorem lower_of_identifier (h : t.kind = "identifier") :
    t.lower source = .name (source.textOf t) := by
  have hshape : t.shape = .name := by
    rw [Syntax.shape, h]
    rfl
  rw [lower_of_shape hshape, Shape.assemble]

theorem lower_of_ternary {test consequent alternate : Syntax} (h : t.kind = "ternary_expression")
    (htest : t.field? "condition" = some test)
    (hconsequent : t.field? "consequence" = some consequent)
    (halternate : t.field? "alternative" = some alternate) :
    t.lower source =
      .conditional (test.lower source) (consequent.lower source) (alternate.lower source) := by
  have hshape : t.shape = .conditional test consequent alternate := by
    rw [Syntax.shape, h]
    simp only [htest, hconsequent, halternate]
  rw [lower_of_shape hshape, Shape.assemble]

end StateCoverage
