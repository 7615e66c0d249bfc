import StateCoverage.Grammar.Operation

/-!
Statements and declarations, modules' imports and exports, and patterns.
-/
namespace StateCoverage.Grammar

variable (level : Level)

def patternMember : Parser Syntax := do
  let start ← startAhead
  if ← sees "..." then spread level "rest_pattern" .pattern
  else
    let key ← propertyKey level
    if ← tokenIf ":" then
      let inner ← level.read .pattern
      let value ← defaultValue level
      nodeFrom "pair_pattern" start ([key.inField "key", inner.inField "value"] ++ value)
    else
      let value ← defaultValue level
      nodeFrom "object_assignment_pattern" start (key :: value)

def patternElement : Parser Syntax := do
  let start ← startAhead
  if ← sees "..." then spread level "rest_pattern" .pattern
  else
    let inner ← level.read .pattern
    let value ← defaultValue level
    if value.isEmpty then return inner else nodeFrom "assignment_pattern" start (inner :: value)

def patternRule : Parser Syntax := do
  let start ← startAhead
  match ← ahead with
  | '\x7b' :: _ =>
    token "\x7b"
    let members ← looseList level (patternMember level) "\x7d"
    token "\x7d"
    nodeFrom "object_pattern" start members
  | '[' :: _ =>
    token "["
    let elements ← looseList level (patternElement level) "]"
    token "]"
    nodeFrom "array_pattern" start elements
  | '.' :: _ => spread level "rest_pattern" .pattern
  | cs => if wordAt cs = "this" then wordNode "this" else wordNode "identifier"

def declarator : Parser Syntax := do
  let start ← startAhead
  let name ← level.read .pattern
  let typed ←
    if (← dialect).hasTypes then
      let _ ← tokenIf "!"
      if ← sees ":" then do pure [← typeAnnotation level] else pure []
    else pure []
  let value ← if ← tokenIf "=" then do pure [(← level.read .assignment).inField "value"]
    else pure []
  nodeFrom "variable_declarator" start (name.inField "name" :: typed ++ value)

def declarators : Parser (List Syntax) := do
  let first ← declarator level
  let rest ← many (do
    if ← tokenIf "," then return some (← declarator level) else return none) level.fuel []
  return first :: rest

def bareDeclaration (word : String) : Parser Syntax := do
  let start ← startAhead
  let kind ← tokenNode word
  let list ← declarators level
  nodeFrom (if word = "var" then "variable_declaration" else "lexical_declaration") start
    (kind.inField "kind" :: list)

def closeNode (t : Syntax) : Parser Syntax := do
  nodeFrom t.kind t.start t.children

def declaration (word : String) : Parser Syntax := do
  let whole ← bareDeclaration level word
  semicolon
  closeNode whole

def condition : Parser Syntax := do
  let start ← startAhead
  token "("
  let inner ← level.read .expression
  token ")"
  nodeFrom "parenthesized_expression" start [inner]

def ifStatement : Parser Syntax := do
  let start ← startAhead
  keyword "if"
  let test ← condition level
  let yes ← level.read .statement
  let no ← if ← keywordIf "else" then do pure [← level.read .statement] else pure []
  nodeFrom "if_statement" start (test :: yes :: no)

def loopWord : Parser Unit := keyword "of" <|> keyword "in"

def valuesHead : Parser (List Syntax) := do
  let cs ← ahead
  let word := wordAt cs
  let left ←
    if word ∈ ["var", "let", "const"] then
      keyword word
      level.read .pattern
    else level.read (.access true)
  let value ← defaultValue level
  loopWord
  let right ← level.read .expression
  return left :: value ++ [right]

/-- The head of a loop that counts. A declaration in it ends with the head's first semicolon. -/
def countingHead : Parser (List Syntax) := do
  let cs ← ahead
  let word := wordAt cs
  let first ←
    if word ∈ ["var", "let", "const"] then do
      let whole ← bareDeclaration level word
      token ";"
      pure [← closeNode whole]
    else if ← sees ";" then do
      token ";"
      pure []
    else do
      let x ← level.read .expression
      token ";"
      pure [x]
  let test ← if ← sees ";" then pure [] else do pure [← level.read .expression]
  token ";"
  let update ← if ← sees ")" then pure [] else do pure [← level.read .expression]
  return first ++ test ++ update

def forStatement : Parser Syntax := do
  let start ← startAhead
  keyword "for"
  let _ ← keywordIf "await"
  token "("
  match ← attempt (valuesHead level) with
  | some head =>
    token ")"
    let body ← level.read .statement
    nodeFrom "for_in_statement" start (head ++ [body])
  | none =>
    let head ← countingHead level
    token ")"
    let body ← level.read .statement
    nodeFrom "for_statement" start (head ++ [body])

def whileStatement : Parser Syntax := do
  let start ← startAhead
  keyword "while"
  let test ← condition level
  let body ← level.read .statement
  nodeFrom "while_statement" start [test, body]

def doStatement : Parser Syntax := do
  let start ← startAhead
  keyword "do"
  let body ← level.read .statement
  keyword "while"
  let test ← condition level
  let _ ← tokenIf ";"
  nodeFrom "do_statement" start [body, test]

def switchCase : Parser Syntax := do
  let start ← startAhead
  let test ←
    if ← keywordIf "default" then pure []
    else do
      keyword "case"
      pure [← level.read .expression]
  token ":"
  let body ← many (do
    if (← sees "\x7d") || (← seesWord "case") || (← ahead).isEmpty then return none
    if ← seesWord "default" then return none
    return some (← level.read .statement)) level.fuel []
  nodeFrom "switch_case" start (test ++ body)

def switchStatement : Parser Syntax := do
  let start ← startAhead
  keyword "switch"
  let value ← condition level
  token "\x7b"
  let cases ← many (do
    if ← sees "\x7d" then return none
    return some (← switchCase level)) level.fuel []
  token "\x7d"
  nodeFrom "switch_statement" start (value :: cases)

def tryStatement : Parser Syntax := do
  let start ← startAhead
  keyword "try"
  let body ← block level
  let handler ←
    if ← keywordIf "catch" then do
      let caught ←
        if ← tokenIf "(" then do
          let inner ← level.read .pattern
          if (← dialect).hasTypes then typeAnnotationIf level
          token ")"
          pure [inner]
        else pure []
      let rest ← block level
      pure (caught ++ [rest])
    else pure []
  let last ← if ← keywordIf "finally" then do pure [← block level] else pure []
  nodeFrom "try_statement" start (body :: handler ++ last)

def jumpStatement (word : String) : Parser Syntax := do
  let start ← startAhead
  keyword word
  let cs ← ahead
  let ends := cs.isEmpty || cs.head? = some ';' || cs.head? = some '\x7d' || (← newlineAhead)
  let value ← if ends then pure [] else do pure [← level.read .expression]
  semicolon
  nodeFrom (word ++ "_statement") start value

def moduleSource : Parser Syntax := do
  let source ← stringNode
  if (← seesWord "with") || ((← seesWord "assert") && !(← newlineAhead)) then
    keyword "with" <|> keyword "assert"
    bracket typeStyle
  return source

def moduleName : Parser Syntax := wordNode "identifier" <|> stringNode

/-- One member of `import { … }` or `export { … }`. A leading `type` is a modifier unless it is the
name itself. -/
def moduleSpecifier (kind : String) : Parser Syntax := do
  let start ← startAhead
  let first ← moduleName
  let more ← many (do
    if (← sees ",") || (← sees "\x7d") then return none
    return some (← moduleName)) 3 []
  let isAs (t : Syntax) : Bool := t.stop = t.start + 2
  match more with
  | [] => nodeFrom kind start [first.inField "name"]
  | [name] => nodeFrom kind start [name.inField "name"]
  | [second, renamed] =>
    if isAs second then nodeFrom kind start [first.inField "name", renamed.inField "alias"]
    else failure
  | [name, _, renamed] => nodeFrom kind start [name.inField "name", renamed.inField "alias"]
  | _ => failure

def moduleSpecifiers (list kind : String) : Parser Syntax := do
  let start ← startAhead
  token "\x7b"
  let items ← looseList level (moduleSpecifier kind) "\x7d"
  token "\x7d"
  nodeFrom list start items

def importClause : Parser Syntax := do
  let start ← startAhead
  let star : Parser Syntax := do
    let start ← startAhead
    token "*"
    keyword "as"
    let name ← wordNode "identifier"
    nodeFrom "namespace_import" start [name]
  let others : Parser Syntax := do
    if ← sees "*" then star else moduleSpecifiers level "named_imports" "import_specifier"
  if (← sees "*") || (← sees "\x7b") then
    let part ← others
    nodeFrom "import_clause" start [part]
  else
    let name ← wordNode "identifier"
    if ← tokenIf "," then
      let part ← others
      nodeFrom "import_clause" start [name, part]
    else nodeFrom "import_clause" start [name]

/-- Takes `type` before an import clause, unless it is the name that is imported. -/
def skipTypeWord : Parser Unit := do
  let cs ← ahead
  if wordAt cs = "type" || wordAt cs = "typeof" then
    let behind := (Cursor.gap ⟨cs.drop (wordLength cs), 0, [], .tsx⟩).rest
    let word := wordAt behind
    let next := (Cursor.gap ⟨behind.drop (wordLength behind), 0, [], .tsx⟩).rest
    let modifies := behind.head? = some '\x7b' || behind.head? = some '*' ||
      (word ≠ "" && word ≠ "from") || (word = "from" && wordAt next = "from")
    if modifies then keyword (wordAt cs)

def importStatement : Parser Syntax := do
  let start ← startAhead
  keyword "import"
  if (← dialect).hasTypes then skipTypeWord
  if (← sees "\"") || (← sees "'") then
    let source ← moduleSource
    semicolon
    nodeFrom "import_statement" start [source.inField "source"]
  else
    let clause ← importClause level
    if ← tokenIf "=" then
      let required ← attempt do
        let start ← startAhead
        keyword "require"
        token "("
        let source ← stringNode
        token ")"
        nodeFrom "import_require_clause" start [source.inField "source"]
      match required with
      | some part =>
        semicolon
        nodeFrom "import_statement" start [part]
      | none =>
        let _ ← wordNode "identifier"
        dottedTail level
        semicolon
        nodeFrom "import_alias" start []
    else
      keyword "from"
      let source ← moduleSource
      semicolon
      nodeFrom "import_statement" start [clause, source.inField "source"]

def interface : Parser Syntax := do
  let start ← startAhead
  keyword "interface"
  let _ ← wordNode "identifier"
  typeParametersIf
  if ← keywordIf "extends" then
    let _ ← many (do
      let _ ← level.read .type
      if ← tokenIf "," then return some () else return none) level.fuel []
  bracket typeStyle
  nodeFrom "interface_declaration" start []

def typeAlias : Parser Syntax := do
  let start ← startAhead
  keyword "type"
  let _ ← wordNode "identifier"
  typeParametersIf
  token "="
  let _ ← level.read .type
  semicolon
  nodeFrom "type_alias_declaration" start []

def enumMember : Parser Syntax := do
  let start ← startAhead
  let key ← propertyKey level
  let value ← defaultValue level
  nodeFrom "enum_assignment" start (key.inField "name" :: value)

def enumeration : Parser Syntax := do
  let start ← startAhead
  let _ ← keywordIf "const"
  keyword "enum"
  let _ ← wordNode "identifier"
  token "\x7b"
  let members ← looseList level (enumMember level) "\x7d"
  token "\x7d"
  nodeFrom "enum_declaration" start members

def namespaceDeclaration : Parser Syntax := do
  let start ← startAhead
  keyword "namespace" <|> keyword "module" <|> keyword "global"
  if !(← sees "\x7b") then
    if (← sees "\"") || (← sees "'") then
      let _ ← stringNode
    else
      let _ ← wordNode "identifier"
      dottedTail level
  if ← sees "\x7b" then
    let body ← block level
    nodeFrom "internal_module" start [body.inField "body"]
  else
    semicolon
    nodeFrom "module" start []

def ambient : Parser Syntax := do
  let start ← startAhead
  keyword "declare"
  let inner ← if ← seesWord "global" then namespaceDeclaration level else level.read .statement
  nodeFrom "ambient_declaration" start [inner]

def expressionStatement : Parser Syntax := do
  let start ← startAhead
  let inner ← level.read .expression
  if isPatternOnly inner then failure
  semicolon
  nodeFrom "expression_statement" start [inner]

def defaultExport (start : Nat) : Parser Syntax := do
  let cs ← ahead
  let word := wordAt cs
  let declared : Parser Syntax :=
    match word with
    | "interface" => interface level
    | "function" => function level true
    | "async" => function level true
    | "class" => do classFrom level (← startAhead) [] true
    | "abstract" => do classFrom level (← startAhead) [] true
    | _ =>
      if cs.head? = some '@' then do
        let start ← startAhead
        let before ← decorators level
        classFrom level start before true
      else failure
  let named (t : Syntax) : Bool := (t.field? "name").isSome || t.kind = "interface_declaration"
  let found ← attempt do
    let t ← declared
    if named t then return t else failure
  match found with
  | some t => nodeFrom "export_statement" start [t.inField "declaration"]
  | none =>
    let value ← level.read .assignment
    semicolon
    nodeFrom "export_statement" start [value.inField "value"]

def exportStatement (start : Nat) (before : List Syntax) : Parser Syntax := do
  keyword "export"
  let cs ← ahead
  let word := wordAt cs
  let behind := (Cursor.gap ⟨cs.drop (wordLength cs), 0, [], .tsx⟩).rest
  let typed := (← dialect).hasTypes
  if ← keywordIf "default" then defaultExport level start
  else if typed && cs.head? = some '=' then
    token "="
    let value ← level.read .expression
    semicolon
    nodeFrom "export_statement" start [value]
  else if typed && word = "as" then
    keyword "as"
    keyword "namespace"
    let _ ← wordNode "identifier"
    semicolon
    nodeFrom "export_statement" start []
  else if typed && word = "import" then
    let inner ← importStatement level
    nodeFrom "export_statement" start [inner.inField "declaration"]
  else
    if typed && word = "type" && (behind.head? = some '\x7b' || behind.head? = some '*') then
      keyword "type"
    if ← tokenIf "*" then
      if ← keywordIf "as" then
        let _ ← moduleName
      keyword "from"
      let source ← moduleSource
      semicolon
      nodeFrom "export_statement" start [source.inField "source"]
    else if ← sees "\x7b" then
      let clause ← moduleSpecifiers level "export_clause" "export_specifier"
      let source ← if ← keywordIf "from" then do pure [(← moduleSource).inField "source"]
        else pure []
      semicolon
      nodeFrom "export_statement" start (clause :: source)
    else
      let inner ← level.read .statement
      nodeFrom "export_statement" start (before ++ [inner.inField "declaration"])

def decorated : Parser Syntax := do
  let start ← startAhead
  let before ← decorators level
  if ← seesWord "export" then exportStatement level start before
  else classFrom level start before true

/-- Words that begin a declaration when another word follows on the same line. -/
def contextualWords : List String :=
  ["type", "interface", "namespace", "module", "declare", "abstract", "enum"]

def typedStatement? (word : String) : Parser (Option Syntax) := do
  if !(← dialect).hasTypes then return none
  let cs ← ahead
  let behind := Cursor.gap ⟨cs.drop (wordLength cs), 0, [], .tsx⟩
  let next := wordAt behind.rest
  if word = "const" && next = "enum" then return some (← enumeration level)
  else if word ∈ contextualWords && !behind.newline then
    let quoted := behind.rest.head? = some '"' || behind.rest.head? = some '\''
    if next = "" && !(word = "module" && quoted) then return none
    else if next = "in" || next = "instanceof" || next = "as" then return none
    else match word with
      | "type" => attempt (typeAlias level)
      | "interface" => attempt (interface level)
      | "enum" => attempt (enumeration level)
      | "namespace" => attempt (namespaceDeclaration level)
      | "module" => attempt (namespaceDeclaration level)
      | "declare" => attempt (ambient level)
      | _ =>
        if next = "class" then return some (← classFrom level (← startAhead) [] true)
        else return none
  else return none

def wordStatement (word : String) : Parser Syntax := do
  let start ← startAhead
  let cs ← ahead
  let behind := Cursor.gap ⟨cs.drop (wordLength cs), 0, [], .tsx⟩
  match word with
  | "var" => declaration level word
  | "const" => declaration level word
  | "let" =>
    if wordLength behind.rest ≠ 0 || behind.rest.head? = some '['
        || behind.rest.head? = some '\x7b' then
      declaration level word
    else expressionStatement level
  | "function" => function level true
  | "class" => classFrom level start [] true
  | "if" => ifStatement level
  | "for" => forStatement level
  | "while" => whileStatement level
  | "do" => doStatement level
  | "switch" => switchStatement level
  | "try" => tryStatement level
  | "return" => jumpStatement level word
  | "throw" => jumpStatement level word
  | "break" => jumpStatement level word
  | "continue" => jumpStatement level word
  | "debugger" => jumpStatement level word
  | "with" =>
    keyword word
    let scope ← condition level
    let body ← level.read .statement
    nodeFrom "with_statement" start [scope, body]
  | "import" =>
    if behind.rest.head? = some '(' || behind.rest.head? = some '.' then expressionStatement level
    else importStatement level
  | "export" => exportStatement level start []
  | _ =>
    if word = "async" && wordAt behind.rest = "function" && !behind.newline then function level true
    else if behind.rest.head? = some ':' then
      keyword word
      token ":"
      let body ← level.read .statement
      nodeFrom "labeled_statement" start [body]
    else expressionStatement level

def statementRule : Parser Syntax := do
  let start ← startAhead
  match ← ahead with
  | '\x7b' :: _ => block level
  | ';' :: _ =>
    token ";"
    nodeFrom "empty_statement" start []
  | '@' :: _ => decorated level
  | cs =>
    let word := wordAt cs
    if word = "" then expressionStatement level
    else match ← typedStatement? level word with
      | some t => return t
      | none => wordStatement level word

end StateCoverage.Grammar
