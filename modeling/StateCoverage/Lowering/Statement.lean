import StateCoverage.Lowering.Expression
import StateCoverage.Syntax.Walk

/-!
The statements of a file that bind names, wherever they stand: in functions, classes, templates
and markup too.
-/
namespace StateCoverage

namespace Syntax

def isDeclaration (t : Syntax) : Bool :=
  t.kind = "lexical_declaration" || t.kind = "variable_declaration"

def exported? (t : Syntax) : Option Syntax := (t.field? "declaration").filter isDeclaration

/-- The nodes to look at behind a node: imports are not entered, and of an export that declares
names only what the declaration holds. -/
def statementsNext (t : Syntax) : List Syntax :=
  if t.kind = "import_statement" then []
  else if t.kind = "export_statement" then
    match t.exported? with
    | some declaration => declaration.namedChildren
    | none => t.namedChildren
  else t.namedChildren

theorem sizeOfAll_statementsNext_lt (t : Syntax) : sizeOfAll t.statementsNext < t.size := by
  have hn := sizeOfAll_namedChildren_lt t
  unfold statementsNext
  split
  · simp only [sizeOfAll]
    omega
  · split
    · split
      · next declaration h =>
        have hd := (Option.filter_eq_some_iff.1 h).1
        exact Nat.lt_trans (sizeOfAll_namedChildren_lt declaration)
          (size_lt_of_mem_children (mem_children_of_field? hd))
      · exact hn
    · exact hn

def statementNodes (root : Syntax) : List Syntax :=
  walk statementsNext sizeOfAll_statementsNext_lt root

def declarators (t : Syntax) : List Syntax := t.content.filter (·.kind = "variable_declarator")

end Syntax

namespace Source

/-- One declarator. Only a plain name is declared with what it holds. -/
def declaratorOf (source : Source) (t : Syntax) : Declarator where
  name := ((t.field? "name").filter (·.kind = "identifier")).map source.textOf
  initializer := (t.field? "value").map (Syntax.lower source)

def declarationOf (source : Source) (t : Syntax) : Declaration where
  kind := match t.children.head? with
    | some token => source.textOf token
    | none => text "var"
  declarators := t.declarators.map source.declaratorOf

/-- The name under which something is exported or bound, which may be quoted. -/
def exportNameOf (source : Source) (t : Syntax) : Text :=
  if t.kind = "string" then source.stringOf t else source.textOf t

def namedImport? (source : Source) (t : Syntax) : Option ImportSpecifier :=
  if t.kind = "import_specifier" then
    (t.field? "name").map fun name =>
      let exported := source.exportNameOf name
      { binding := match t.field? "alias" with
          | some renamed => source.exportNameOf renamed
          | none => exported
        exported }
  else none

def clausePart (source : Source) (t : Syntax) : List ImportSpecifier :=
  if t.kind = "identifier" then [{ binding := source.textOf t, exported := text "default" }]
  else if t.kind = "namespace_import" then
    match t.content.filter (·.kind = "identifier") with
    | name :: _ => [{ binding := source.textOf name, exported := text "*" }]
    | [] => []
  else if t.kind = "named_imports" then t.content.filterMap source.namedImport?
  else []

/-- An import statement; one without a module names the empty module. -/
def importOf (source : Source) (t : Syntax) : Statement :=
  let clauses := t.content.filter (·.kind = "import_clause")
  .importing (match t.field? "source" with
    | some module => source.stringOf module
    | none => []) (clauses.flatMap fun clause => clause.content.flatMap source.clausePart)

def statement? (source : Source) (t : Syntax) : Option Statement :=
  if t.kind = "import_statement" then some (source.importOf t)
  else if t.isDeclaration then some (.declaration (source.declarationOf t))
  else if t.kind = "export_statement" then
    match t.exported? with
    | some declaration => some (.exported (source.declarationOf declaration))
    | none => (t.field? "value").map fun value => .exportDefault (value.lower source)
  else none

end Source

namespace Syntax

def statementExpressions (t : Syntax) : List Syntax :=
  if t.isDeclaration then t.declarators.filterMap (·.field? "value")
  else if t.kind = "export_statement" then
    match t.exported? with
    | some declaration => declaration.declarators.filterMap (·.field? "value")
    | none => (t.field? "value").toList
  else []

/-- The statements of a file, if no expression in them nests too deep. -/
def statements? (source : Source) (root : Syntax) : Option (List Statement) :=
  let nodes := root.statementNodes
  if nodes.all fun t => t.statementExpressions.all fun e => e.nesting ≤ nestingLimit then
    some (nodes.filterMap source.statement?)
  else none

end Syntax

end StateCoverage
