import StateCoverage.Grammar.Types

/-!
The operands of expressions: literals, names, brackets, functions, classes and markup.
-/
namespace StateCoverage.Grammar

variable (level : Level)

/-- Members of a bracket with commas between, where members may be left out. -/
def looseList (item : Parser Syntax) (close : String) : Parser (List Syntax) := do
  let items ← many (do
    if ← sees close then return none
    if ← tokenIf "," then return some []
    let x ← item
    if !(← sees close) then token ","
    return some [x]) level.fuel []
  return items.flatten

def spread (kind : String) (inner : Rule) : Parser Syntax := do
  let start ← startAhead
  token "..."
  let x ← level.read inner
  nodeFrom kind start [x]

def elementOrSpread : Parser Syntax := do
  if ← sees "..." then spread level "spread_element" .assignment
  else level.read .assignment

def arguments : Parser Syntax := do
  let start ← startAhead
  token "("
  let items ← looseList level (elementOrSpread level) ")"
  token ")"
  nodeFrom "arguments" start items

def array : Parser Syntax := do
  let start ← startAhead
  token "["
  let items ← looseList level (elementOrSpread level) "]"
  token "]"
  nodeFrom "array" start items

def templateChunk : Nat → List Char → Nat
  | _, [] => 0
  | skip + 1, _ :: rest => templateChunk skip rest + 1
  | 0, c :: rest =>
    if c = '\x60' then 0
    else if c = '$' && rest.head? = some '\x7b' then 0
    else if c = '\\' then templateChunk 1 rest + 1
    else templateChunk 0 rest + 1

def raw : Parser (List Char) := fun c => some (c.rest, c)

def template : Parser Syntax := do
  let start ← startAhead
  token "\x60"
  let parts ← many (do
    takeCount (templateChunk 0 (← raw))
    match ← raw with
    | '$' :: _ =>
      let start ← position
      token "$\x7b"
      let inner ← level.read .expression
      token "\x7d"
      return some (← nodeFrom "template_substitution" start [inner])
    | _ => return none) level.fuel []
  takeChars ['\x60']
  nodeFrom "template_string" start parts

def regex : Parser Syntax := do
  match ← ahead with
  | '/' :: rest =>
    match regexLengthFrom false rest with
    | some length =>
      if length = 1 then failure
      let flags := (rest.drop length).takeWhile fun c => 'a' ≤ c && c ≤ 'z'
      leaf "regex" (1 + length + flags.length)
    | none => failure
  | _ => failure

def computedKey : Parser Syntax := do
  let start ← startAhead
  token "["
  let inner ← level.read .expression
  token "]"
  nodeFrom "computed_property_name" start [inner]

def propertyKey : Parser Syntax := do
  match ← ahead with
  | '[' :: _ => computedKey level
  | '#' :: _ => privateNameNode
  | '"' :: _ => stringNode
  | '\'' :: _ => stringNode
  | cs => if numberLength cs ≠ 0 then numberNode else wordNode "property_identifier"

def block : Parser Syntax := do
  let start ← startAhead
  token "\x7b"
  let statements ← many (do
    if ← sees "\x7d" then return none
    if (← ahead).isEmpty then return none
    return some (← level.read .statement)) level.fuel []
  token "\x7d"
  nodeFrom "statement_block" start statements

def decorator : Parser Syntax := do
  let start ← startAhead
  token "@"
  let inner ← level.read (.access true)
  nodeFrom "decorator" start [inner]

def decorators : Parser (List Syntax) :=
  many (do if ← sees "@" then return some (← decorator level) else return none) level.fuel []

def parameterModifiers : List String := ["public", "private", "protected", "override", "readonly"]

/-- Takes modifiers as long as another word or a pattern follows. -/
def skipParameterModifiers : Parser Unit := do
  let _ ← many (do
    let cs ← ahead
    let word := wordAt cs
    if word ∈ parameterModifiers then
      let behind := Cursor.gap ⟨cs.drop (wordLength cs), 0, [], .tsx⟩
      if wordLength behind.rest ≠ 0 || behind.rest.head? = some '\x7b'
          || behind.rest.head? = some '[' then
        keyword word
        return some ()
      else return none
    else return none) level.fuel []

def defaultValue : Parser (List Syntax) := do
  if ← tokenIf "=" then return [← level.read .assignment] else return []

def parameter : Parser Syntax := do
  let start ← startAhead
  let before ← decorators level
  if (← dialect).hasTypes then skipParameterModifiers level
  let pattern ← level.read .pattern
  if (← dialect).hasTypes then
    let _ ← tokenIf "?"
    typeAnnotationIf level
  let value ← defaultValue level
  nodeFrom "required_parameter" start (before ++ [pattern.inField "pattern"] ++ value)

def parameters : Parser Syntax := do
  let start ← startAhead
  token "("
  let items ← looseList level (parameter level) ")"
  token ")"
  nodeFrom "formal_parameters" start items

def signature : Parser Syntax := do
  if (← dialect).hasTypes then typeParametersIf
  let list ← parameters level
  if (← dialect).hasTypes then typeAnnotationIf level
  return list

/-- The part of a function behind its name. A function that is only declared has no body. -/
def functionRest (needsBody : Bool) : Parser (List Syntax) := do
  let list ← signature level
  if needsBody || (← sees "\x7b") then
    let body ← block level
    return [list, body.inField "body"]
  else return [list]

def function (declares : Bool) : Parser Syntax := do
  let start ← startAhead
  let _ ← keywordIf "async"
  keyword "function"
  let generator ← tokenIf "*"
  let name ← if (← sees "(") || (← sees "<") then pure [] else do
    pure [(← wordNode "identifier").inField "name"]
  let rest ← functionRest level (!declares)
  if declares && rest.length = 1 then semicolon
  let kind := match declares, generator with
    | true, false => if rest.length = 1 then "function_signature" else "function_declaration"
    | true, true => "generator_function_declaration"
    | false, false => "function_expression"
    | false, true => "generator_function"
  nodeFrom kind start (name ++ rest)

def beginsKey (cs : List Char) : Bool :=
  match cs with
  | c :: _ => wordLength cs ≠ 0 || c ∈ "[#\"'*0123456789.".toList
  | [] => false

def memberModifiers : List String :=
  ["static", "async", "get", "set", "public", "private", "protected", "override", "readonly",
    "declare", "abstract", "accessor"]

def skipMemberModifiers : Parser Unit := do
  let _ ← many (do
    let cs ← ahead
    let word := wordAt cs
    if word ∈ memberModifiers then
      if beginsKey (Cursor.gap ⟨cs.drop (wordLength cs), 0, [], .tsx⟩).rest then
        keyword word
        return some ()
      else return none
    else return none) level.fuel []
  let _ ← tokenIf "*"

def objectMember : Parser Syntax := do
  let start ← startAhead
  if ← sees "..." then spread level "spread_element" .assignment
  else
    let cs ← ahead
    let word := wordAt cs
    let modified := word ∈ ["async", "get", "set"] &&
      beginsKey (Cursor.gap ⟨cs.drop (wordLength cs), 0, [], .tsx⟩).rest
    if modified || cs.head? = some '*' then
      let _ ← if modified then keyword word else pure ()
      let _ ← tokenIf "*"
      let key ← propertyKey level
      let rest ← functionRest level true
      nodeFrom "method_definition" start (key.inField "name" :: rest)
    else
      let key ← propertyKey level
      if (← sees "(") || (← sees "<") then
        let rest ← functionRest level true
        nodeFrom "method_definition" start (key.inField "name" :: rest)
      else if ← tokenIf ":" then
        let value ← level.read .assignment
        nodeFrom "pair" start [key.inField "key", value.inField "value"]
      else if key.kind = "property_identifier" then
        let name := key.withKind "shorthand_property_identifier"
        if ← sees "=" then
          let value ← defaultValue level
          nodeFrom "object_assignment_pattern" start (name :: value)
        else return name
      else failure

/-- An object literal. One that a semicolon cuts short is closed there by a missing brace. -/
def object : Parser Syntax := do
  let start ← startAhead
  token "\x7b"
  let stop : Parser Bool := do return (← sees "\x7d") || (← sees ";")
  let members ← many (do
    if ← stop then return none
    if ← tokenIf "," then return some []
    let x ← objectMember level
    if !(← stop) then token ","
    return some [x]) level.fuel []
  if ← sees ";" then
    let place ← position
    nodeFrom "object" start (members.flatten ++ [.node "\x7d" place place none false true []])
  else
    token "\x7d"
    nodeFrom "object" start members.flatten

def classMember : Parser Syntax := do
  let start ← startAhead
  let before ← decorators level
  let cs ← ahead
  if wordAt cs = "static" && (Cursor.gap ⟨cs.drop 6, 0, [], .tsx⟩).rest.head? = some '\x7b' then
    keyword "static"
    let body ← block level
    nodeFrom "class_static_block" start (before ++ [body])
  else
    skipMemberModifiers level
    let signature ← attempt do
      if !(← dialect).hasTypes then failure
      token "["
      let _ ← wordNode "identifier"
      token ":"
      let _ ← level.read .type
      token "]"
      let _ ← tokenIf "?"
      typeAnnotationIf level
      semicolon
    match signature with
    | some _ => nodeFrom "index_signature" start before
    | none =>
      let key ← propertyKey level
      if (← dialect).hasTypes then
        if !(← tokenIf "?") then
          let _ ← tokenIf "!"
      if (← sees "(") || (← sees "<") then
        let rest ← functionRest level false
        if rest.length = 1 then semicolon
        nodeFrom "method_definition" start (before ++ [key.inField "name"] ++ rest)
      else
        if (← dialect).hasTypes then typeAnnotationIf level
        let value ← defaultValue level
        let node ← nodeFrom "public_field_definition" start
          (before ++ [key.inField "name"] ++ value)
        semicolon
        return node

def classBody : Parser Syntax := do
  let start ← startAhead
  token "\x7b"
  let members ← many (do
    if ← sees "\x7d" then return none
    if ← tokenIf ";" then return some []
    return some [← classMember level]) level.fuel []
  token "\x7d"
  nodeFrom "class_body" start members.flatten

def implements : Parser Unit := do
  if ← keywordIf "implements" then
    let _ ← many (do
      let _ ← level.read .type
      if ← tokenIf "," then return some () else return none) level.fuel []

def heritage : Parser (List Syntax) := do
  if ← keywordIf "extends" then
    let base ← level.read (.access true)
    if (← dialect).hasTypes && (← sees "<") then
      let _ ← typeArguments level
    return [base]
  else return []

def classFrom (start : Nat) (before : List Syntax) (declares : Bool) : Parser Syntax := do
  let _ ← keywordIf "abstract"
  keyword "class"
  let cs ← ahead
  let word := wordAt cs
  let name ←
    if word = "" || word = "extends" || (word = "implements" && (← dialect).hasTypes) then pure []
    else do pure [(← wordNode "identifier").inField "name"]
  if (← dialect).hasTypes then typeParametersIf
  let base ← heritage level
  implements level
  let body ← classBody level
  nodeFrom (if declares then "class_declaration" else "class") start
    (before ++ name ++ base ++ [body.inField "body"])

def arrowBehind (hasTypes : Bool) (cs : List Char) : Bool :=
  match bracketLength? codeStyle cs with
  | none => false
  | some length =>
    match (Cursor.gap ⟨cs.drop length, 0, [], .tsx⟩).rest with
    | '=' :: '>' :: _ => true
    | ':' :: _ => hasTypes
    | _ => false

def beginsParameters (cs : List Char) : Bool :=
  match cs with
  | c :: _ => wordLength cs ≠ 0 || c ∈ ")\x7b[.@".toList
  | [] => false

def arrowBody : Parser Syntax := do
  token "=>"
  let body ← if ← sees "\x7b" then block level else level.read .assignment
  return body.inField "body"

def arrowFrom (start : Nat) (before : List Syntax) : Parser Syntax := do
  let body ← arrowBody level
  nodeFrom "arrow_function" start (before ++ [body])

def arrowWithList : Parser Syntax := do
  let start ← startAhead
  let _ ← keywordIf "async"
  let list ← signature level
  if ← newlineAhead then failure
  arrowFrom level start [list]

def arrowWithName : Parser Syntax := do
  let start ← startAhead
  let name ← wordNode "identifier"
  arrowFrom level start [name.inField "parameter"]

/-- Is this pattern, or one in it, of a form that no expression has? -/
def isPatternOnly : Syntax → Bool
  | .node kind _ _ _ _ _ children =>
    (kind = "object" || kind = "array" || kind = "pair" || kind = "object_assignment_pattern") &&
      (kind = "object_assignment_pattern" || anyPatternOnly children)
where
  anyPatternOnly : List Syntax → Bool
    | [] => false
    | t :: rest => isPatternOnly t || anyPatternOnly rest

def parenthesized : Parser Syntax := do
  let start ← startAhead
  token "("
  let inner ← level.read .expression
  if isPatternOnly inner then failure
  let annotation ← if (← dialect).hasTypes && (← sees ":") then do pure [← typeAnnotation level]
    else pure []
  token ")"
  nodeFrom "parenthesized_expression" start (inner :: annotation)

def newExpression : Parser Syntax := do
  let start ← startAhead
  keyword "new"
  if ← tokenIf "." then
    keyword "target"
    nodeFrom "meta_property" start []
  else
    let callee ← level.read (.access false)
    let _ ← attempt do
      if !(← dialect).hasTypes then failure
      let _ ← typeArguments level
      if !(← sees "(") then failure
    let list ← if ← sees "(" then do pure [(← arguments level).inField "arguments"] else pure []
    nodeFrom "new_expression" start (callee.inField "constructor" :: list)

def reservedWords : List String :=
  ["break", "case", "catch", "class", "const", "continue", "debugger", "default", "delete", "do",
    "else", "extends", "finally", "for", "function", "if", "import", "in", "instanceof", "new",
    "return", "switch", "throw", "try", "typeof", "var", "void", "while", "with", "await", "enum"]

def operandWords : List String :=
  ["class", "delete", "function", "import", "new", "typeof", "void", "await"]

def wordOperand (word : String) : Parser Syntax := do
  let start ← startAhead
  match word with
  | "this" => wordNode "this"
  | "super" => wordNode "super"
  | "null" => wordNode "null"
  | "true" => wordNode "true"
  | "false" => wordNode "false"
  | "undefined" => wordNode "undefined"
  | "function" => function level false
  | "class" => classFrom level start [] false
  | "new" => newExpression level
  | "import" =>
    let word ← wordNode "import"
    if ← sees "." then
      token "."
      keyword "meta"
      nodeFrom "meta_property" start []
    else if ← sees "(" then return word
    else failure
  | _ =>
    let cs ← ahead
    let behind := Cursor.gap ⟨cs.drop (wordLength cs), 0, [], .tsx⟩
    if word = "async" && wordAt behind.rest = "function" && !behind.newline then
      function level false
    else if word ∈ operandWords || (word ∈ reservedWords && !(← dialect).hasTypes) then failure
    else wordNode "identifier"

def operand : Parser Syntax := do
  let cs ← ahead
  match cs with
  | '(' :: _ => parenthesized level
  | '[' :: _ => array level
  | '\x7b' :: _ => object level
  | '"' :: _ => stringNode
  | '\'' :: _ => stringNode
  | '\x60' :: _ => template level
  | '/' :: _ => regex
  | '#' :: _ => privateNameNode
  | '<' :: _ => if (← dialect).hasMarkup then level.read .element else failure
  | '@' :: _ =>
    let start ← startAhead
    let before ← decorators level
    classFrom level start before false
  | _ => if numberLength cs ≠ 0 then numberNode else wordOperand level (wordAt cs)

end StateCoverage.Grammar
