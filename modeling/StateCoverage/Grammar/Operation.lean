import StateCoverage.Grammar.Operand

/-!
Expressions made of operands: accesses, calls, operators, conditionals, assignments and arrow
functions.
-/
namespace StateCoverage.Grammar

variable (level : Level)

def signs : List String :=
  [">>>=", "===", "!==", "**=", "<<=", ">>=", ">>>", "&&=", "||=", "??=", "...", "=>", "==", "!=",
    "<=", ">=", "&&", "||", "??", "?.", "++", "--", "+=", "-=", "*=", "/=", "%=", "&=", "|=", "^=",
    "<<", ">>", "**", "+", "-", "*", "/", "%", "<", ">", "&", "|", "^", "=", "!", "~", "?"]

def operatorAt (cs : List Char) : String :=
  match signs.find? fun s => s.toList.isPrefixOf cs with
  | some s => s
  | none =>
    let word := wordAt cs
    if word = "in" || word = "instanceof" then word else ""

def bindingLevel? (operator : String) : Option Nat :=
  [("??", 1), ("||", 2), ("&&", 3), ("|", 4), ("^", 5), ("&", 6), ("==", 7), ("!=", 7), ("===", 7),
    ("!==", 7), ("<", 8), (">", 8), ("<=", 8), (">=", 8), ("in", 8), ("instanceof", 8), ("<<", 9),
    (">>", 9), (">>>", 9), ("+", 10), ("-", 10), ("*", 11), ("/", 11), ("%", 11), ("**", 12)].lookup
    operator

def powerLevel : Nat := 12

def updateOperators : List String :=
  ["+=", "-=", "*=", "/=", "%=", "**=", "<<=", ">>=", ">>>=", "&=", "|=", "^=", "&&=", "||=", "??="]

def isTarget (t : Syntax) : Bool :=
  t.kind ∈ ["identifier", "undefined", "member_expression", "subscript_expression", "object",
    "array", "parenthesized_expression", "non_null_expression"]

def seesBang : Parser Bool := do
  if !(← dialect).hasTypes || (← newlineAhead) then return false
  return operatorAt (← ahead) = "!"

/-- Is an optional chain ahead? A point before a digit belongs to a number. -/
def seesChain (cs : List Char) : Bool :=
  match cs with
  | '?' :: '.' :: rest => !((rest.head?.map Char.isDigit).getD false)
  | _ => false

def callOf (start : Nat) (callee : Syntax) : Parser Syntax := do
  let list ← if ← sees "\x60" then template level else arguments level
  nodeFrom "call_expression" start [callee.inField "function", list.inField "arguments"]

def indexOf (start : Nat) (target : Syntax) : Parser Syntax := do
  token "["
  let key ← level.read .expression
  token "]"
  nodeFrom "subscript_expression" start [target.inField "object", key.inField "index"]

def memberOf (start : Nat) (target : Syntax) : Parser Syntax := do
  let property ← wordNode "property_identifier" <|> privateNameNode
  nodeFrom "member_expression" start [target.inField "object", property.inField "property"]

def typedCall (start : Nat) (target : Syntax) : Parser Syntax := do
  let types ← typeArguments level
  match ← ahead with
  | '(' :: _ => callOf level start target
  | '\x60' :: _ => callOf level start target
  | [] => nodeFrom "instantiation_expression" start [target, types]
  | c :: _ =>
    if c ∈ ")],;:\x7d".toList then nodeFrom "instantiation_expression" start [target, types]
    else failure

def accessStep (start : Nat) (bangs calls : Bool) (target : Syntax) : Parser (Option Syntax) := do
  let cs ← ahead
  match cs with
  | '.' :: rest =>
    if rest.head? = some '.' then return none
    token "."
    return some (← memberOf start target)
  | '[' :: _ => return some (← indexOf level start target)
  | '(' :: _ => if calls then return some (← callOf level start target) else return none
  | '\x60' :: _ => if calls then return some (← callOf level start target) else return none
  | '?' :: _ =>
    if calls && seesChain cs then
      token "?."
      match ← ahead with
      | '(' :: _ => return some (← callOf level start target)
      | '\x60' :: _ => return some (← callOf level start target)
      | '[' :: _ => return some (← indexOf level start target)
      | '<' :: _ => return some (← typedCall level start target)
      | _ => return some (← memberOf start target)
    else return none
  | '<' :: _ =>
    if calls && (← dialect).hasTypes then attempt (typedCall level start target) else return none
  | '!' :: _ =>
    if bangs && (← seesBang) then
      token "!"
      return some (← nodeFrom "non_null_expression" start [target])
    else return none
  | '+' :: '+' :: _ =>
    if calls && !(← newlineAhead) then
      let operator ← tokenNode "++"
      return some (← nodeFrom "update_expression" start
        [target.inField "argument", operator.inField "operator"])
    else return none
  | '-' :: '-' :: _ =>
    if calls && !(← newlineAhead) then
      let operator ← tokenNode "--"
      return some (← nodeFrom "update_expression" start
        [target.inField "argument", operator.inField "operator"])
    else return none
  | _ => return none

def accesses (start : Nat) (bangs calls : Bool) (target : Syntax) : Parser Syntax :=
  extend (accessStep level start bangs calls) level.fuel target

def accessRule (bangs calls : Bool) : Parser Syntax := do
  let start ← startAhead
  let first ← operand level
  accesses level start bangs calls first

/-- An operator before an operand: its start, the kind of the whole, and what it adds to it. -/
structure Prefix where
  start : Nat
  kind : String
  part : Syntax

def prefixStep : Parser (Option Prefix) := do
  let cs ← ahead
  let start ← startAhead
  let sign := operatorAt cs
  let word := wordAt cs
  if sign = "++" || sign = "--" then
    return some ⟨start, "update_expression", (← tokenNode sign).inField "operator"⟩
  else if sign ∈ ["!", "~", "+", "-"] then
    return some ⟨start, "unary_expression", (← tokenNode sign).inField "operator"⟩
  else if word ∈ ["typeof", "void", "delete"] then
    return some ⟨start, "unary_expression", (← tokenNode word).inField "operator"⟩
  else if sign = "<" && (← dialect) = .typescript then
    return some ⟨start, "type_assertion", ← typeArguments level⟩
  else return none

def awaitExpression : Parser Syntax := do
  let start ← startAhead
  keyword "await"
  let x ← level.read (.binary 100 false)
  nodeFrom "await_expression" start [x]

def unary (bangs : Bool) : Parser Syntax := do
  let before ← many (prefixStep level) level.fuel []
  let innermost ←
    if ← seesWord "await" then awaitExpression level
    else accessRule level (bangs && before.isEmpty) true
  before.reverse.foldlM (fun x p => nodeFrom p.kind p.start [p.part, x.inField "argument"])
    innermost

/-- One more operator behind `left`. Operators that carry a type, and a postfix `!`, take all that
stands before them. -/
def binaryStep (least : Nat) (inner : Bool) (start : Nat) (left : Syntax) :
    Parser (Option Syntax) := do
  let cs ← ahead
  let word := wordAt cs
  if !inner && (← dialect).hasTypes && (word = "as" || word = "satisfies") && !(← newlineAhead) then
    keyword word
    let type ← level.read .type
    return some (← nodeFrom (if word = "as" then "as_expression" else "satisfies_expression") start
      [left, type])
  else if !inner && (← seesBang) then
    token "!"
    let whole ← nodeFrom "non_null_expression" start [left]
    return some (← accesses level start true true whole)
  else
    let sign := operatorAt cs
    match bindingLevel? sign with
    | none => return none
    | some binding =>
      if binding < least then return none
      let operator ← tokenNode sign
      let right ← level.read <|
        if binding = powerLevel then .binary binding false else .binary (binding + 1) true
      return some (← nodeFrom "binary_expression" start
        [left.inField "left", operator.inField "operator", right.inField "right"])

def binaryRule (least : Nat) (inner : Bool) : Parser Syntax := do
  let start ← startAhead
  let first ← unary level (!inner)
  extend (binaryStep level least inner start) level.fuel first

def branches (thenBranch : Rule) (start : Nat) (test : Syntax) : Parser Syntax := do
  token "?"
  let yes ← level.read thenBranch
  token ":"
  let no ← level.read .assignment
  nodeFrom "ternary_expression" start
    [test.inField "condition", yes.inField "consequence", no.inField "alternative"]

def conditional : Parser Syntax := do
  let start ← startAhead
  let test ← level.read (.binary 0 false)
  match ← ahead with
  | '?' :: '?' :: _ => return test
  | '?' :: rest =>
    if (Cursor.gap ⟨rest, 0, [], .tsx⟩).rest.head? = some '(' then
      branches level .assignment start test <|> branches level .consequent start test
    else branches level .assignment start test
  | _ => return test

def yieldExpression : Parser Syntax := do
  let start ← startAhead
  keyword "yield"
  if ← tokenIf "*" then
    let x ← level.read .assignment
    nodeFrom "yield_expression" start [x]
  else
    match ← ahead with
    | [] => nodeFrom "yield_expression" start []
    | c :: _ =>
      if c ∈ ")],;:\x7d".toList || (← newlineAhead) then nodeFrom "yield_expression" start []
      else
        let x ← level.read .assignment
        nodeFrom "yield_expression" start [x]

def plainAssignment : Parser Syntax := do
  let start ← startAhead
  let left ← conditional level
  if isTarget left then
    let sign := operatorAt (← ahead)
    if sign = "=" then
      token "="
      let right ← level.read .assignment
      nodeFrom "assignment_expression" start [left.inField "left", right.inField "right"]
    else if sign ∈ updateOperators then
      let operator ← tokenNode sign
      let right ← level.read .assignment
      nodeFrom "augmented_assignment_expression" start
        [left.inField "left", operator.inField "operator", right.inField "right"]
    else return left
  else return left

/-- An arrow function, if the expression ahead is one. Where a result type would be mistaken for a
branch, `results` is off. -/
def arrow? (results : Bool) : Parser (Option Syntax) := do
  let cs ← ahead
  let typed := (← dialect).hasTypes
  match cs with
  | '(' :: rest =>
    if beginsParameters (Cursor.gap ⟨rest, 0, [], .tsx⟩).rest
        && arrowBehind (typed && results) cs then
      attempt (arrowWithList level)
    else return none
  | '<' :: rest =>
    if (← dialect) = .typescript then attempt (arrowWithList level)
    else if (← dialect) = .tsx then
      let inner := (Cursor.gap ⟨rest, 0, [], .tsx⟩).rest
      let behind := (Cursor.gap ⟨inner.drop (wordLength inner), 0, [], .tsx⟩).rest
      if wordAt behind = "extends" || behind.head? = some ',' then attempt (arrowWithList level)
      else return none
    else return none
  | _ =>
    let word := wordAt cs
    if word = "" then return none
    let gap := Cursor.gap ⟨cs.drop (wordLength cs), 0, [], .tsx⟩
    let behind := gap.rest
    if "=>".toList.isPrefixOf behind && !gap.newline then return some (← arrowWithName level)
    else if word = "async" && !gap.newline then
      match behind with
      | '(' :: _ => if arrowBehind typed behind then attempt (arrowWithList level) else return none
      | '<' :: _ => if typed then attempt (arrowWithList level) else return none
      | _ =>
        let next := Cursor.gap ⟨behind.drop (wordLength behind), 0, [], .tsx⟩
        if wordLength behind ≠ 0 && "=>".toList.isPrefixOf next.rest then
          let start ← startAhead
          keyword "async"
          let name ← wordNode "identifier"
          return some (← arrowFrom level start [name.inField "parameter"])
        else return none
    else return none

def assignmentRule (results : Bool) : Parser Syntax := do
  match ← arrow? level results with
  | some f => return f
  | none =>
    if ← seesWord "yield" then yieldExpression level
    else if (← dialect) = .tsx && (← sees "<") then plainAssignment level <|> arrowWithList level
    else plainAssignment level

def expressionRule : Parser Syntax := do
  let start ← startAhead
  let first ← level.read .assignment
  if ← sees "," then
    let rest ← many (do
      if ← tokenIf "," then return some (← level.read .assignment) else return none) level.fuel []
    nodeFrom "sequence_expression" start (first :: rest)
  else return first

end StateCoverage.Grammar
