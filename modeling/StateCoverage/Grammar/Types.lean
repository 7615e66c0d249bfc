import StateCoverage.Grammar.Bracket
import StateCoverage.Grammar.Rule

/-!
Types. They hold no statements and no class text, so a type is one node without children.
-/
namespace StateCoverage.Grammar

variable (level : Level)

def typeArguments : Parser Syntax := do
  let start ← startAhead
  token "<"
  let items ← commaList level (level.read .type) (sees ">")
  if items.isEmpty then failure
  token ">"
  nodeFrom "type_arguments" start []

/-- Type parameters `<…>`, taken as a whole. -/
def typeParameters : Parser Unit := bracket angleStyle

def typeParametersIf : Parser Unit := do
  if ← sees "<" then typeParameters

def templateLengthFrom : Nat → List Char → Option Nat
  | _, [] => none
  | skip + 1, _ :: rest => (templateLengthFrom skip rest).map (· + 1)
  | 0, c :: rest =>
    if c = '\x60' then some 1
    else if c = '\\' then (templateLengthFrom 1 rest).map (· + 1)
    else if c = '$' && rest.head? = some '\x7b' then
      match bracketLength? codeStyle rest with
      | some length => (templateLengthFrom length rest).map (· + 1)
      | none => none
    else (templateLengthFrom 0 rest).map (· + 1)

def templateType : Parser Unit := do
  match ← ahead with
  | '\x60' :: rest =>
    match templateLengthFrom 0 rest with
    | some length =>
      let _ ← leaf "template_literal_type" (length + 1)
    | none => failure
  | _ => failure

def dottedTail : Parser Unit := do
  let _ ← many (do
    if ← sees "..." then return none
    if ← tokenIf "." then
      let _ ← wordNode "identifier" <|> privateNameNode
      return some ()
    else return none) level.fuel []

def typeArgumentsIf : Parser Unit := do
  if ← sees "<" then
    let _ ← typeArguments level

def functionType : Parser Unit := do
  typeParametersIf
  bracket typeStyle
  token "=>"
  let _ ← level.read .type

def typeOperators : List String := ["keyof", "unique", "readonly", "infer", "asserts"]

def beginsType (cs : List Char) : Bool :=
  match cs with
  | c :: _ => wordLength cs ≠ 0 || c ∈ "(['\"\x60\x7b-0123456789".toList
  | [] => false

def beginsTypeParameters (cs : List Char) : Bool :=
  let skipped := match cs with
    | '[' :: _ => bracketLength? typeStyle cs
    | '\x7b' :: _ => bracketLength? typeStyle cs
    | _ => some (wordLength cs)
  match skipped with
  | none => false
  | some length =>
    match (Cursor.gap ⟨cs.drop length, 0, [], .tsx⟩).rest with
    | ')' :: _ => true
    | c :: _ => if length = 0 then c = '.' else c ∈ ":,?=".toList
    | [] => false

def simpleType : Parser Unit := do
  let cs ← ahead
  match cs with
  | '(' :: rest =>
    bracket typeStyle
    if beginsTypeParameters (Cursor.gap ⟨rest, 0, [], .tsx⟩).rest && (← tokenIf "=>") then
      let _ ← level.read .type
  | '[' :: _ => bracket typeStyle
  | '\x7b' :: _ => bracket typeStyle
  | '<' :: _ => functionType level
  | '\x60' :: _ => templateType
  | '"' :: _ =>
    let _ ← stringNode
  | '\'' :: _ =>
    let _ ← stringNode
  | '-' :: _ =>
    token "-"
    let _ ← numberNode
  | _ =>
    if numberLength cs ≠ 0 then
      let _ ← numberNode
    else
      let word := wordAt cs
      let behind := Cursor.gap ⟨cs.drop (wordLength cs), 0, [], .tsx⟩
      if word = "" then failure
      else if word = "typeof" || word = "import" then
        keyword word
        if (← sees "(") || word = "import" then bracket typeStyle
        else if ← keywordIf "import" then bracket typeStyle
        else
          let _ ← wordNode "identifier"
        dottedTail level
        typeArgumentsIf level
      else if word = "new" || (word = "abstract" && wordAt behind.rest = "new") then
        let _ ← keywordIf "abstract"
        keyword "new"
        functionType level
      else if word ∈ typeOperators && beginsType behind.rest
          && !(word = "asserts" && behind.newline) then
        keyword word
        let _ ← level.read .type
      else
        keyword word
        dottedTail level
        typeArgumentsIf level

def typePostfixes : Parser Unit := do
  let _ ← many (do
    if (← sees "[") && !(← newlineAhead) then
      bracket typeStyle
      return some ()
    else return none) level.fuel []

def unionType : Parser Unit := do
  let _ ← tokenIf "|"
  let _ ← tokenIf "&"
  let _ ← many (do
    simpleType level
    typePostfixes level
    if (← seesWord "is") && !(← newlineAhead) then
      keyword "is"
      let _ ← level.read .type
    if ← tokenIf "|" then return some ()
    if ← tokenIf "&" then return some ()
    return none) level.fuel []

def typeRule : Parser Syntax := do
  let start ← startAhead
  unionType level
  if (← seesWord "extends") && !(← newlineAhead) then
    let _ ← attempt do
      keyword "extends"
      unionType level
      token "?"
      let _ ← level.read .type
      token ":"
      let _ ← level.read .type
  nodeFrom "type" start []

def typeAnnotation : Parser Syntax := do
  let start ← startAhead
  token ":"
  let _ ← level.read .type
  nodeFrom "type_annotation" start []

def typeAnnotationIf : Parser Unit := do
  if ← sees ":" then
    let _ ← typeAnnotation level

end StateCoverage.Grammar
