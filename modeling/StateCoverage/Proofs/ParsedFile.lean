import StateCoverage.ParsedFile
import StateCoverage.Proofs.Grammar.Parenthesis
import StateCoverage.Proofs.Lowering.Expression

/-!
The reading of a single expression. The text is put in parentheses, and the first statement of what
comes of it is read. A text may close the parenthesis itself, and go on with more statements.
-/
namespace StateCoverage

namespace ParsedFile

/-- The source holds no error and, apart from comments, one expression statement: the expression
`x`. -/
def IsExpression (file : ParsedFile) (x : Syntax) : Prop :=
  file.root.errorCount = 0 ∧
    ∃ s, file.root.content = [s] ∧ s.kind = "expression_statement" ∧ s.content = [x]

end ParsedFile

namespace Expr
open Grammar
variable {dialect : Dialect} {content : Text} {cs : List Char}

theorem choose_name (dialect : Dialect) (path : Text) :
    Dialect.choose path (text dialect.name) = .ok dialect := by
  cases dialect <;> rfl

theorem ofText_of_surrogate (h : content.mapM CodePoint.toChar? = none) (language : Text) :
    ofText content language = .error .unencodable := by
  rw [ofText, h]

theorem ofText_of_errors (h : content.mapM CodePoint.toChar? = some cs)
    (herrors : (ParsedFile.inParentheses dialect cs).root.errorCount ≠ 0) :
    ofText content (text dialect.name) = .error (.unreadable (.notExpression content)) := by
  rw [ofText, h]
  simp only [choose_name]
  split
  · rfl
  · rw [if_neg fun hboth => herrors hboth.2]

/-- Without errors the expression of the first statement is read, whatever stands behind it. -/
theorem ofText_of_no_errors (h : content.mapM CodePoint.toChar? = some cs)
    (hnone : (ParsedFile.inParentheses dialect cs).root.errorCount = 0) :
    ∃ s others x, (ParsedFile.inParentheses dialect cs).root.content = s :: others ∧
      s.kind = "expression_statement" ∧ s.content = [x] ∧
      ofText content (text dialect.name) =
        if x.nesting ≤ Syntax.nestingLimit then
          .ok (x.lower (ParsedFile.inParentheses dialect cs).source)
        else .error .nestedTooDeep := by
  obtain ⟨s, x, others, hchildren, hs⟩ := parse_parenthesis hnone
  obtain ⟨behind, hparts⟩ := hs.namedChildren_eq
  have hnamed : (ParsedFile.inParentheses dialect cs).root.namedChildren =
      s :: others.filter Syntax.isNamed := by
    rw [Syntax.namedChildren]
    exact (congrArg _ hchildren).trans (List.filter_cons_of_pos hs.named)
  refine ⟨s, (others.filter Syntax.isNamed).filter (·.kind ≠ "comment"), x, ?_, hs.kind_eq,
    hs.content_eq, ?_⟩
  · rw [Syntax.content, hnamed, List.filter_cons_of_pos (by simp [hs.kind_eq])]
  · rw [ofText, h]
    simp only [choose_name, hnamed, hparts, hs.kind_eq, hnone, and_self, if_true, Syntax.lower?]
    by_cases hx : x.nesting ≤ Syntax.nestingLimit
    · simp only [hx, if_true]
    · simp only [hx, if_false]

/-- What is read from the text is all of it: the expression of the one statement that its source is,
comments apart. Any other text is refused as no expression. -/
def ReadsAll (dialect : Dialect) (content : Text) : Prop :=
  (∃ cs x, content.mapM CodePoint.toChar? = some cs ∧
    (ParsedFile.inParentheses dialect cs).IsExpression x ∧
    ofText content (text dialect.name) =
      .ok (x.lower (ParsedFile.inParentheses dialect cs).source)) ∨
  ofText content (text dialect.name) = .error (.unreadable (.notExpression content))

theorem unique_of_isExpression {s x y : Syntax} {file : ParsedFile} {others : List Syntax}
    (hx : file.IsExpression x) (hroot : file.root.content = s :: others) (hs : s.content = [y]) :
    y = x := by
  obtain ⟨-, s', hroot', -, hs'⟩ := hx
  obtain ⟨rfl, -⟩ := List.cons_eq_cons.mp (hroot.symm.trans hroot')
  exact List.singleton_inj.mp (hs.symm.trans hs')

/-- A text is read by its first statement alone. One that holds a surrogate has no bytes. One whose
source holds an error is refused. Any other gives the expression of the first statement in its
source, unless that nests too deep. So nothing is left out in silence, and everything else is
refused, exactly for the texts whose source either holds an error, or is one expression statement
apart from comments and does not nest too deep. -/
theorem ofText_reads_first_statement (dialect : Dialect) (content : Text) :
    (content.mapM CodePoint.toChar? = none →
      ofText content (text dialect.name) = .error .unencodable) ∧
    (∀ cs, content.mapM CodePoint.toChar? = some cs →
      let file := ParsedFile.inParentheses dialect cs
      (file.root.errorCount ≠ 0 → ofText content (text dialect.name) =
        .error (.unreadable (.notExpression content))) ∧
      (file.root.errorCount = 0 → ∃ s others x, file.root.content = s :: others ∧
        s.kind = "expression_statement" ∧ s.content = [x] ∧
        ofText content (text dialect.name) =
          if x.nesting ≤ Syntax.nestingLimit then .ok (x.lower file.source)
          else .error .nestedTooDeep)) ∧
    (ReadsAll dialect content ↔ ∃ cs, content.mapM CodePoint.toChar? = some cs ∧
      let file := ParsedFile.inParentheses dialect cs
      (file.root.errorCount = 0 → ∃ x, file.IsExpression x ∧ x.nesting ≤ Syntax.nestingLimit)) := by
  refine ⟨fun h => ofText_of_surrogate h _, fun cs h =>
    ⟨ofText_of_errors h, ofText_of_no_errors h⟩, ?_⟩
  constructor
  · rintro (⟨cs, x, hcs, hx, hok⟩ | hrefused)
    · refine ⟨cs, hcs, fun hnone => ⟨x, hx, Decidable.byContradiction fun hdeep => ?_⟩⟩
      obtain ⟨s, others, y, hroot, -, hs, hread⟩ := ofText_of_no_errors hcs hnone
      obtain rfl := unique_of_isExpression hx hroot hs
      rw [hread, if_neg hdeep] at hok
      cases hok
    · cases hcs : content.mapM CodePoint.toChar? with
      | none =>
        rw [ofText_of_surrogate hcs] at hrefused
        cases hrefused
      | some cs =>
        refine ⟨cs, rfl, fun hnone => ?_⟩
        obtain ⟨s, others, y, -, -, -, hread⟩ := ofText_of_no_errors hcs hnone
        rw [hread] at hrefused
        split at hrefused <;> cases hrefused
  · rintro ⟨cs, hcs, hexpression⟩
    by_cases hnone : (ParsedFile.inParentheses dialect cs).root.errorCount = 0
    · obtain ⟨x, hx, hflat⟩ := hexpression hnone
      obtain ⟨s, others, y, hroot, -, hs, hread⟩ := ofText_of_no_errors hcs hnone
      obtain rfl := unique_of_isExpression hx hroot hs
      exact .inl ⟨cs, y, hcs, hx, hread.trans (if_pos hflat)⟩
    · exact .inr (ofText_of_errors hcs hnone)

section Overread

/-- A text that closes the parenthesis itself, and opens one for a second statement. -/
def twoStatements : List Char := "a); (b".toList

/-- Each expression statement of a file: the kind of its expression, with the kind and the text of
what that holds. -/
def outline (file : ParsedFile) : List (List (String × List (String × Text))) :=
  file.root.content.map fun s => s.content.map fun x =>
    (x.kind, x.content.map fun y => (y.kind, file.source.textOf y))

theorem outline_twoStatements :
    outline (ParsedFile.inParentheses .tsx twoStatements) =
      [[("parenthesized_expression", [("identifier", text "a")])],
       [("parenthesized_expression", [("identifier", text "b")])]] := by
  decide +kernel

theorem flat_twoStatements :
    ∀ s ∈ (ParsedFile.inParentheses .tsx twoStatements).root.content, ∀ x ∈ s.content,
      x.nesting ≤ Syntax.nestingLimit := by
  decide +kernel

/-- The source `(a); (b);` holds no error and is two statements. The first is read, the second is
lost. -/
theorem second_statement_dropped :
    Expr.ofText (text "a); (b") (text "tsx") = .ok (.name (text "a")) ∧
      ¬ ReadsAll .tsx (text "a); (b") := by
  have hcs : (text "a); (b").mapM CodePoint.toChar? = some twoStatements := by decide
  have hnone : (ParsedFile.inParentheses .tsx twoStatements).root.errorCount = 0 := by
    decide +kernel
  obtain ⟨s, others, x, hroot, -, hs, hread⟩ := ofText_of_no_errors hcs hnone
  have hflat : x.nesting ≤ Syntax.nestingLimit :=
    flat_twoStatements s (by simp [hroot]) x (by simp [hs])
  have hshown := outline_twoStatements
  simp only [outline, hroot, List.map_cons, hs, List.map_nil, List.cons.injEq, Prod.mk.injEq,
    and_true] at hshown
  obtain ⟨⟨hkind, hinner⟩, hothers⟩ := hshown
  obtain ⟨y, hy, hyshown⟩ := List.map_eq_singleton_iff.mp hinner
  simp only [Prod.mk.injEq] at hyshown
  have hok : Expr.ofText (text "a); (b") (text "tsx") = .ok (.name (text "a")) := by
    rw [lower_of_parenthesized hkind hy, lower_of_identifier hyshown.1, hyshown.2,
      if_pos hflat] at hread
    exact hread
  refine ⟨hok, ?_⟩
  rintro (⟨cs, x', hcs', ⟨-, s', hroot', -⟩, -⟩ | hrefused)
  · obtain rfl := Option.some.inj (hcs.symm.trans hcs')
    rw [(List.cons_eq_cons.mp (hroot.symm.trans hroot')).2] at hothers
    cases hothers
  · rw [show text "tsx" = text Dialect.tsx.name from rfl] at hok
    rw [hrefused] at hok
    cases hok

end Overread

end Expr

end StateCoverage
