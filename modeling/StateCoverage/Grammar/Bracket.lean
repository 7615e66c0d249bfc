import StateCoverage.Grammar.Lexeme

/-!
Matching brackets without reading what is in them. Strings, templates, comments and regular
expressions are passed over, so that brackets in them do not count.
-/
namespace StateCoverage.Grammar

inductive Scan where
  | code
  | quoted (quote : Char)
  | template
  | line
  | block
  | regex (inClass : Bool)

/-- What a scan has still to find: a closing bracket, or the brace that leads back to a template. -/
inductive Closer where
  | bracket (c : Char)
  | substitution
deriving DecidableEq

def opensRegex (c : Char) : Bool := c ∈ "(,=:[!&|?{};+-*%~^<>".toList

/-- How a scan is made: whether angles are brackets, and whether slashes may begin expressions. -/
structure ScanStyle where
  angles : Bool
  regexes : Bool

def closerOf? (style : ScanStyle) (c : Char) : Option Char :=
  match c with
  | '(' => some ')'
  | '[' => some ']'
  | '\x7b' => some '\x7d'
  | '<' => if style.angles then some '>' else none
  | _ => none

/-- Passes characters until every closer is found. Gives how many were passed. The character read
before tells escapes, arrows and the places of regular expressions. -/
def closeFrom (style : ScanStyle) : Scan → List Closer → Char → Nat → List Char → Option Nat
  | _, [], _, count, _ => some count
  | _, _ :: _, _, _, [] => none
  | .quoted quote, stack, '\\', count, '\r' :: '\n' :: rest =>
    closeFrom style (.quoted quote) stack 'a' (count + 2) rest
  | .quoted quote, stack, before, count, c :: rest =>
    if before = '\\' then closeFrom style (.quoted quote) stack 'a' (count + 1) rest
    else if c = quote then closeFrom style .code stack c (count + 1) rest
    else if c = '\n' then none
    else closeFrom style (.quoted quote) stack c (count + 1) rest
  | .line, stack, before, count, c :: rest =>
    closeFrom style (if isLineEnd c then .code else .line) stack before (count + 1) rest
  | .block, stack, before, count, '*' :: '/' :: rest =>
    closeFrom style .code stack before (count + 2) rest
  | .block, stack, before, count, _ :: rest => closeFrom style .block stack before (count + 1) rest
  | .regex inClass, stack, before, count, c :: rest =>
    if before = '\\' then closeFrom style (.regex inClass) stack 'a' (count + 1) rest
    else if c = '\n' then none
    else if c = '/' && !inClass then closeFrom style .code stack ')' (count + 1) rest
    else closeFrom style (.regex (if c = '[' then true else if c = ']' then false else inClass))
      stack c
      (count + 1) rest
  | .template, stack, before, count, '$' :: '\x7b' :: rest =>
    if before = '\\' then closeFrom style .template stack '\x7b' (count + 2) rest
    else closeFrom style .code (.substitution :: stack) '\x7b' (count + 2) rest
  | .template, stack, before, count, c :: rest =>
    if before = '\\' then closeFrom style .template stack 'a' (count + 1) rest
    else closeFrom style (if c = '\x60' then .code else .template) stack c (count + 1) rest
  | .code, stack, before, count, '/' :: '/' :: rest =>
    closeFrom style .line stack before (count + 2) rest
  | .code, stack, before, count, '/' :: '*' :: rest =>
    closeFrom style .block stack before (count + 2) rest
  | .code, top :: stack, before, count, c :: rest =>
    if c = '"' || c = '\'' then closeFrom style (.quoted c) (top :: stack) c (count + 1) rest
    else if c = '\x60' then closeFrom style .template (top :: stack) c (count + 1) rest
    else if c = '/' && style.regexes && opensRegex before then
      closeFrom style (.regex false) (top :: stack) c (count + 1) rest
    else if top = .substitution && c = '\x7d' then
      closeFrom style .template stack c (count + 1) rest
    else if top = .bracket c && !(c = '>' && before = '=') then
      closeFrom style .code stack c (count + 1) rest
    else match closerOf? style c with
      | some closer => closeFrom style .code (.bracket closer :: top :: stack) c (count + 1) rest
      | none =>
        if c = ')' || c = ']' || c = '\x7d' then none
        else closeFrom style .code (top :: stack) (if isSpace c then before else c) (count + 1) rest

def bracketLength? (style : ScanStyle) (cs : List Char) : Option Nat :=
  match cs with
  | [] => none
  | c :: rest => (closerOf? style c).bind fun closer =>
    closeFrom style .code [.bracket closer] c 1 rest

def typeStyle : ScanStyle := ⟨false, false⟩

def angleStyle : ScanStyle := ⟨true, false⟩

def codeStyle : ScanStyle := ⟨false, true⟩

def bracket (style : ScanStyle) : Parser Unit := do
  skipGap
  match bracketLength? style (← ahead) with
  | some length => takeCount length
  | none => failure

end StateCoverage.Grammar
