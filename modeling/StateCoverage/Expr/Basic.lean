import StateCoverage.Text.CodePoint

/-!
Expressions and statements as far as class text depends on them. Shapes that class text cannot be
read from are kept with their kind and source text only.
-/
namespace StateCoverage

inductive Expr where
  /-- A string literal, its escapes decoded. -/
  | string (value : Text)
  /-- A template: raw text around substitutions. -/
  | template (quasis : List Text) (substitutions : List Expr)
  | name (name : Text)
  /-- `target.property`; source text always gives a name as the property. -/
  | member (target property : Expr)
  /-- `target[key]` -/
  | index (target key : Expr)
  | conditional (test consequent alternate : Expr)
  | call (callee : Expr) (arguments : List Expr)
  /-- An object literal: keys with values. -/
  | object (properties : List (Expr × Expr))
  /-- A wrapper that only carries a type, such as `x as T`. -/
  | assertion (operand : Expr)
  /-- Any other shape. -/
  | other (kind : String) (source : Text)

instance : Inhabited Expr := ⟨.other "" []⟩

/-- One declared name. A destructuring pattern has none. -/
structure Declarator where
  name : Option Text
  initializer : Option Expr

structure Declaration where
  kind : Text
  declarators : List Declarator

/-- One imported name: `binding` here for `exported` there, which is `default` or `*` for a default
or a namespace import. -/
structure ImportSpecifier where
  binding : Text
  exported : Text

inductive Statement where
  | declaration (declaration : Declaration)
  | exported (declaration : Declaration)
  | exportDefault (expression : Expr)
  | importing (source : Text) (specifiers : List ImportSpecifier)

/-- The binding statements of one file in source order, with the number of its syntax errors. -/
structure Module where
  body : List Statement
  path : Text
  errors : Nat

end StateCoverage
