import StateCoverage.Grammar.Markup
import StateCoverage.Grammar.Statement

/-!
Whole sources. The rules are tied together here, and the comments put into the tree: each into the
lowest node that holds both what stands before and what stands behind it.
-/
namespace StateCoverage.Grammar

/-- Every rule, nested `fuel` levels deep at most. -/
def readRule : Nat → Rule → Parser Syntax
  | 0, _ => failure
  | fuel + 1, rule =>
    let level : Level := ⟨fuel, readRule fuel⟩
    match rule with
    | .statement => statementRule level
    | .expression => expressionRule level
    | .assignment => assignmentRule level true
    | .consequent => assignmentRule level false
    | .binary least inner => binaryRule level least inner
    | .access calls => accessRule level false calls
    | .pattern => patternRule level
    | .type => typeRule level
    | .element => elementRule level

def interpreterLine : Parser (List Syntax) := do
  match ← raw with
  | '#' :: '!' :: rest =>
    return [← leaf "hash_bang_line" (2 + (rest.takeWhile fun c => !isLineEnd c).length)]
  | _ => return []

/-- The statements of a source. What cannot be read is one error up to the end. -/
def program (fuel : Nat) : Parser (List Syntax) := do
  let first ← interpreterLine
  let statements ← many (do
    if (← ahead).isEmpty then return none
    attempt (readRule fuel .statement)) fuel []
  let rest ← ahead
  if rest.isEmpty then
    skipGap
    return first ++ statements
  else
    let start ← startAhead
    skipGap
    takeCount rest.length
    return first ++ statements ++ [← nodeFrom "ERROR" start []]

/-- How deep rules may nest in a source: every rule reads a character after few steps. -/
def fuelFor (cs : List Char) : Nat := 24 * (cs.length + 16)

mutual

/-- Puts comments, in order, into a node that holds them. -/
def weave (comments : List Syntax) : Syntax → Syntax
  | .node kind start stop field named missing children =>
    .node kind start stop field named missing (weaveAll comments children)

def weaveAll (comments : List Syntax) : List Syntax → List Syntax
  | [] => comments
  | t :: rest =>
    let before := comments.takeWhile fun c => c.stop ≤ t.start
    let others := comments.drop before.length
    let inside := others.takeWhile fun c => c.stop ≤ t.stop
    let behind := others.drop inside.length
    let t := match inside with
      | [] => t
      | _ => weave inside t
    before ++ t :: weaveAll behind rest

end

def parse (dialect : Dialect) (cs : List Char) : Syntax :=
  match program (fuelFor cs) ⟨cs, 0, [], dialect⟩ with
  | none => .node "ERROR" 0 (bytesOf cs) none true false []
  | some (statements, c) =>
    weave (c.comments.reverse.map Comment.node)
      (.node "program" 0 (bytesOf cs) none true false statements)

end StateCoverage.Grammar
