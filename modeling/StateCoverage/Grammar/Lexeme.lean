import StateCoverage.Grammar.Cursor

/-!
Words, numbers, strings and regular expressions, each as the longest run that is one.
-/
namespace StateCoverage.Grammar

def isHex (c : Char) : Bool := c.isDigit || ('a' ≤ c && c ≤ 'f') || ('A' ≤ c && c ≤ 'F')

/-- May the character stand in a word? Everything may that is no control, space or ASCII sign. -/
def isWordChar (c : Char) : Bool :=
  if c.toNat < 0x80 then c.isAlphanum || c = '_' || c = '$'
  else !isSpace c

def wordEscape : List Char → Nat
  | '\\' :: 'u' :: '\x7b' :: rest =>
    let digits := rest.takeWhile isHex
    if digits ≠ [] ∧ rest[digits.length]? = some '\x7d' then digits.length + 4 else 0
  | '\\' :: 'u' :: rest => if 4 ≤ (rest.take 4).length ∧ (rest.take 4).all isHex then 6 else 0
  | _ => 0

/-- The length of the word characters and escapes at the start, behind `skip` that are counted. -/
def wordLengthFrom : Nat → List Char → Nat
  | _, [] => 0
  | skip + 1, _ :: rest => 1 + wordLengthFrom skip rest
  | 0, c :: rest =>
    if isWordChar c then 1 + wordLengthFrom 0 rest
    else match wordEscape (c :: rest) with
      | 0 => 0
      | length + 1 => 1 + wordLengthFrom length rest

def wordLength (cs : List Char) : Nat :=
  match cs with
  | [] => 0
  | c :: _ => if c.isDigit then 0 else wordLengthFrom 0 cs

def wordAt (cs : List Char) : String := String.ofList (cs.take (wordLength cs))

def digitRun (isDigit : Char → Bool) : List Char → Nat
  | [] => 0
  | '_' :: d :: rest => if isDigit d then 2 + digitRun isDigit rest else 0
  | d :: rest => if isDigit d then 1 + digitRun isDigit rest else 0

def digits (isDigit : Char → Bool) (cs : List Char) : Nat :=
  match cs with
  | '_' :: _ => 0
  | _ => digitRun isDigit cs

def exponentLength : List Char → Nat
  | e :: rest =>
    if e = 'e' ∨ e = 'E' then
      let sign := match rest with
        | '+' :: _ => 1
        | '-' :: _ => 1
        | _ => 0
      match digits Char.isDigit (rest.drop sign) with
      | 0 => 0
      | n + 1 => n + 2 + sign
    else 0
  | [] => 0

def basedLength (cs : List Char) : Nat :=
  match cs with
  | '0' :: x :: rest =>
    let n :=
      if x = 'x' ∨ x = 'X' then digits isHex rest
      else if x = 'b' ∨ x = 'B' then digits (fun c => c = '0' || c = '1') rest
      else if x = 'o' ∨ x = 'O' then digits (fun c => '0' ≤ c && c ≤ '7') rest
      else 0
    if n = 0 then 0 else n + 2
  | _ => 0

def decimalLength (cs : List Char) : Nat :=
  let whole := digits Char.isDigit cs
  match cs.drop whole with
  | '.' :: rest =>
    let fraction := digits Char.isDigit rest
    if whole = 0 ∧ fraction = 0 then 0
    else whole + 1 + fraction + exponentLength (rest.drop fraction)
  | rest => if whole = 0 then 0 else whole + exponentLength rest

def numberLength (cs : List Char) : Nat :=
  let based := basedLength cs
  let length := if based = 0 then decimalLength cs else based
  let plain := based ≠ 0 || length = digits Char.isDigit cs
  if length ≠ 0 && plain && cs[length]? = some 'n' then length + 1 else length

/-- The length of an escape in a string, behind its backslash; 0 if it is none. -/
def stringEscape (cs : List Char) : Nat :=
  match cs with
  | [] => 0
  | 'x' :: rest => if 2 ≤ (rest.take 2).length ∧ (rest.take 2).all isHex then 3 else 0
  | 'u' :: _ => wordEscape ('\\' :: cs) - 1
  | '\r' :: '\n' :: _ => 2
  | _ => 1

def stringLengthFrom (quote : Char) : Nat → List Char → Option Nat
  | _, [] => none
  | skip + 1, _ :: rest => (stringLengthFrom quote skip rest).map (· + 1)
  | 0, c :: rest =>
    if c = quote then some 1
    else if c = '\\' then
      match stringEscape rest with
      | 0 => none
      | length + 1 => (stringLengthFrom quote (length + 1) rest).map (· + 1)
    else if c = '\n' ∨ c = '\r' then none
    else (stringLengthFrom quote 0 rest).map (· + 1)

def regexLengthFrom (inClass : Bool) : List Char → Option Nat
  | [] => none
  | '\\' :: c :: rest => if isLineEnd c then none else (regexLengthFrom inClass rest).map (· + 2)
  | c :: rest =>
    if isLineEnd c then none
    else if c = '/' && !inClass then some 1
    else (regexLengthFrom (if c = '[' then true else if c = ']' then false else inClass)
      rest).map (· + 1)

def keyword (s : String) : Parser Unit := do
  skipGap
  let cs ← ahead
  if wordAt cs = s then takeCount s.length else failure

def seesWord (s : String) : Parser Bool := do
  return wordAt (← ahead) = s

def keywordIf (s : String) : Parser Bool := do
  if ← seesWord s then
    keyword s
    return true
  else return false

def leaf (kind : String) (length : Nat) : Parser Syntax := do
  if length = 0 then failure
  skipGap
  let start ← position
  takeCount length
  nodeFrom kind start []

def wordNode (kind : String) : Parser Syntax := do
  leaf kind (wordLength (← ahead))

def stringNode : Parser Syntax := do
  match ← ahead with
  | quote :: rest =>
    if quote = '"' ∨ quote = '\'' then
      match stringLengthFrom quote 0 rest with
      | some length => leaf "string" (length + 1)
      | none => failure
    else failure
  | [] => failure

def numberNode : Parser Syntax := do
  leaf "number" (numberLength (← ahead))

def privateNameNode : Parser Syntax := do
  match ← ahead with
  | '#' :: rest =>
    match wordLength rest with
    | 0 => failure
    | n => leaf "private_property_identifier" (n + 1)
  | _ => failure

end StateCoverage.Grammar
