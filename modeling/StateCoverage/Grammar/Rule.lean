import StateCoverage.Grammar.Lexeme

/-!
The rules of the grammar that call one another without end. Each is given a reader for all of
them, which has one level of nesting less to spend.
-/
namespace StateCoverage.Grammar

inductive Rule where
  | statement
  /-- One expression, or several with commas between. -/
  | expression
  | assignment
  /-- The branch of a conditional before its colon. -/
  | consequent
  /-- Operators that bind at least as tight as `level`. Inside the operand of another operator,
  postfix operators of types are left to the whole. -/
  | binary (level : Nat) (inner : Bool)
  /-- An operand with its accesses, and with its calls if `calls`. -/
  | access (calls : Bool)
  | pattern
  | type
  | element

/-- What a rule reads with: a bound for its loops, and a reader for every rule. -/
structure Level where
  fuel : Nat
  read : Rule → Parser Syntax

def commaList (level : Level) (item : Parser Syntax) (stop : Parser Bool) : Parser (List Syntax) :=
  many (do
    if ← stop then return none
    let x ← item
    if ← stop then return some x
    token ","
    return some x) level.fuel []

/-- The end of a statement: a semicolon, or a place where one may be left out. -/
def semicolon : Parser Unit := do
  if ← tokenIf ";" then return
  match ← ahead with
  | [] => return
  | c :: _ => if c = '\x7d' || (← newlineAhead) then return else failure

end StateCoverage.Grammar
