import StateCoverage.Grammar.Operand

/-!
Markup in expressions: elements, fragments and their attributes.
-/
namespace StateCoverage.Grammar

variable (level : Level)

def hyphenLength : List Char → Nat
  | [] => 0
  | c :: rest => if isWordChar c || c = '-' then hyphenLength rest + 1 else 0

def markupName (kind : String) : Parser Syntax := do
  let cs ← ahead
  if wordLength cs = 0 then failure else leaf kind (hyphenLength cs)

def tagName : Parser Syntax := do
  let start ← startAhead
  let first ← markupName "identifier"
  if ← tokenIf ":" then
    let second ← markupName "identifier"
    nodeFrom "jsx_namespace_name" start [first, second]
  else
    extend (fun (target : Syntax) => do
      if ← tokenIf "." then
        let property ← wordNode "property_identifier"
        return some (← nodeFrom "member_expression" start
          [target.inField "object", property.inField "property"])
      else return none) level.fuel first

def container : Parser Syntax := do
  let start ← startAhead
  token "\x7b"
  let inner ←
    if ← sees "\x7d" then pure []
    else if ← sees "..." then do pure [← spread level "spread_element" .assignment]
    else do pure [← level.read .expression]
  token "\x7d"
  nodeFrom "jsx_expression" start inner

def markupString : Parser Syntax := do
  match ← ahead with
  | quote :: rest =>
    if quote = '"' ∨ quote = '\'' then
      let body := rest.takeWhile (· ≠ quote)
      if body.length = rest.length then failure
      leaf "string" (body.length + 2)
    else failure
  | [] => failure

def markupAttribute : Parser Syntax := do
  let start ← startAhead
  let first ← markupName "property_identifier"
  let name ← if ← tokenIf ":" then do
      let second ← markupName "property_identifier"
      nodeFrom "jsx_namespace_name" start [first, second]
    else pure first
  if ← tokenIf "=" then
    let value ← match ← ahead with
      | '\x7b' :: _ => container level
      | '<' :: _ => level.read .element
      | _ => markupString
    nodeFrom "jsx_attribute" start [name, value]
  else nodeFrom "jsx_attribute" start [name]

def markupAttributes : Parser (List Syntax) :=
  many (do
    if ← sees "\x7b" then return some ((← container level).inField "attribute")
    else if wordLength (← ahead) ≠ 0 then
      return some ((← markupAttribute level).inField "attribute")
    else return none) level.fuel []

/-- What stands between an opening and a closing tag. Text is passed over. -/
def markupChildren : Parser (List Syntax) :=
  many (do
    takeCount ((← raw).takeWhile fun c => c ≠ '<' && c ≠ '\x7b').length
    match ← raw with
    | '\x7b' :: _ => return some (← container level)
    | '<' :: rest =>
      if (Cursor.gap ⟨rest, 0, [], .tsx⟩).rest.head? = some '/' then return none
      else return some (← level.read .element)
    | _ => failure) level.fuel []

def closingTag : Parser Syntax := do
  let start ← startAhead
  token "<"
  token "/"
  let name ← if ← sees ">" then pure [] else do pure [(← tagName level).inField "name"]
  token ">"
  nodeFrom "jsx_closing_element" start name

def elementRule : Parser Syntax := do
  let start ← startAhead
  token "<"
  if ← tokenIf ">" then
    let opening ← nodeFrom "jsx_opening_element" start []
    let children ← markupChildren level
    let closing ← closingTag level
    nodeFrom "jsx_element" start (opening :: children ++ [closing])
  else
    let name := (← tagName level).inField "name"
    let typed ← if (← dialect).hasTypes && (← sees "<") then do pure [← typeArguments level]
      else pure []
    let parts := name :: typed ++ (← markupAttributes level)
    if ← tokenIf "/" then
      token ">"
      nodeFrom "jsx_self_closing_element" start parts
    else
      token ">"
      let opening ← nodeFrom "jsx_opening_element" start parts
      let children ← markupChildren level
      let closing ← closingTag level
      nodeFrom "jsx_element" start (opening :: children ++ [closing])

end StateCoverage.Grammar
