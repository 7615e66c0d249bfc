import StateCoverage.Expr.Basic
import StateCoverage.Lowering.Escape
import StateCoverage.Lowering.Shape

/-!
From concrete trees to expressions. Parentheses and comments leave no trace; a shape that class
text cannot be read from keeps its kind and source text.
-/
namespace StateCoverage

namespace Source

def stringOf (source : Source) (t : Syntax) : Text :=
  Escape.decode ((source.textOf t).drop 1).dropLast

/-- The raw text from `cursor` up to each substitution, and from the last one up to `stop`. -/
def quasisFrom (source : Source) (stop : Nat) : Nat → List Syntax → List Text
  | cursor, [] => [source.slice cursor (max cursor stop)]
  | cursor, s :: rest => source.slice cursor s.start :: quasisFrom source stop s.stop rest

def quasisOf (source : Source) (t : Syntax) : List Text :=
  source.quasisFrom (t.stop - 1) (t.start + 1) t.substitutions

/-- The key of a pair. Keys that are computed or numbers are kept as they stand. -/
def keyOf (source : Source) (t : Syntax) : Expr :=
  if t.kind = "property_identifier" then .name (source.textOf t)
  else if t.kind = "string" then .string (source.stringOf t)
  else .other t.kind (source.textOf t)

end Source

namespace Shape

def assemble (source : Source) (t : Syntax) : (shape : Shape) →
    ((c : Syntax) → c ∈ shape.parts → Expr) → Expr
  | parenthesized inner, part => part inner (by simp [parts])
  | string, _ => .string (source.stringOf t)
  | template substitutions, part =>
    .template (source.quasisOf t) <| substitutions.attach.map fun
      | ⟨some content, h⟩ => part content (by simpa [parts] using h)
      | ⟨none, _⟩ => .other "template_substitution" []
  | name, _ => .name (source.textOf t)
  | member target property, part =>
    .member (part target (by simp [parts])) (.name (source.textOf property))
  | index target key, part => .index (part target (by simp [parts])) (part key (by simp [parts]))
  | conditional test consequent alternate, part =>
    .conditional (part test (by simp [parts])) (part consequent (by simp [parts]))
      (part alternate (by simp [parts]))
  | call callee arguments, part =>
    .call (part callee (by simp [parts])) <| arguments.attach.map fun ⟨a, h⟩ =>
      part a (by simp [parts, h])
  | object entries, part =>
    .object <| entries.attach.map fun
      | ⟨.pair key value, h⟩ =>
        (source.keyOf key, part value (by
          simp only [parts, List.mem_filterMap]
          exact ⟨_, h, rfl⟩))
      | ⟨.shorthand key, _⟩ => (.name (source.textOf key), .name (source.textOf key))
  | assertion operand, part => .assertion (part operand (by simp [parts]))
  | other, _ => .other t.kind (source.textOf t)

end Shape

namespace Syntax

def lower (source : Source) (t : Syntax) : Expr :=
  t.shape.assemble source t fun c h =>
    have := size_lt_of_mem_parts h
    lower source c
termination_by t.size

def nesting (t : Syntax) : Nat :=
  (t.shape.parts.attach.map fun ⟨c, h⟩ =>
    have := size_lt_of_mem_parts h
    nesting c).foldl max 0 + 1
termination_by t.size

/-- Expressions that nest deeper than this are not read. -/
def nestingLimit : Nat := 900

def lower? (source : Source) (t : Syntax) : Option Expr :=
  if t.nesting ≤ nestingLimit then some (t.lower source) else none

end Syntax

end StateCoverage
