import StateCoverage.Grammar.Dialect
import StateCoverage.Syntax.Basic

/-!
Reading a source from left to right. A parser takes a cursor to a result and a later cursor, or
fails; a failure leaves the cursor where it was. White space and comments before a token belong to
no token; comments are collected, to be put into the tree when it stands.
-/
namespace StateCoverage.Grammar

/-- A comment: its first byte, and how many bytes stand behind the two signs that open it. -/
structure Comment where
  start : Nat
  length : Nat

def Comment.node (c : Comment) : Syntax :=
  .node "comment" c.start (c.start + 2 + c.length) none true false []

/-- A place in a source: the characters from there on and their first byte. The comments passed so
far come last first. -/
structure Cursor where
  rest : List Char
  position : Nat
  comments : List Comment
  dialect : Dialect

abbrev Parser (α : Type) := StateT Cursor Option α

def isSpace (c : Char) : Bool :=
  let n := c.toNat
  (9 ≤ n && n ≤ 13) || n == 32 || n == 0x85 || n == 0xA0 || n == 0x1680
    || (0x2000 ≤ n && n ≤ 0x200B)
    || n == 0x2028 || n == 0x2029 || n == 0x202F || n == 0x205F || n == 0x2060 || n == 0x3000
    || n == 0xFEFF

def isLineEnd (c : Char) : Bool := c = '\n' || c = '\r' || c = '\u2028' || c = '\u2029'

inductive Skip where
  /-- Between comments. -/
  | outside
  /-- In a comment that ends with the line. -/
  | line (comment : Comment)
  /-- In a bracketed comment, entered with this much left. -/
  | block (comment : Comment) (entered : List Char) (newline : Bool)

def Comment.extend (comment : Comment) (count : Nat) : Comment :=
  { comment with length := comment.length + count }

structure Gap where
  rest : List Char
  position : Nat
  comments : List Comment
  newline : Bool

/-- Passes white space and comments. A bracketed comment without its end is not passed. -/
def gapFrom : Skip → Nat → List Comment → Bool → List Char → Gap
  | .outside, position, comments, newline, [] => ⟨[], position, comments, newline⟩
  | .line comment, position, comments, newline, [] => ⟨[], position, comment :: comments, newline⟩
  | .block comment entered before, _, comments, _, [] => ⟨entered, comment.start, comments, before⟩
  | .outside, position, comments, newline, '/' :: '/' :: rest =>
    gapFrom (.line ⟨position, 0⟩) (position + 2) comments newline rest
  | .outside, position, comments, newline, '/' :: '*' :: rest =>
    gapFrom (.block ⟨position, 0⟩ ('/' :: '*' :: rest) newline) (position + 2) comments newline rest
  | .outside, position, comments, newline, c :: rest =>
    if isSpace c then
      gapFrom .outside (position + c.utf8Size) comments (newline || isLineEnd c) rest
    else ⟨c :: rest, position, comments, newline⟩
  | .line comment, position, comments, newline, c :: rest =>
    if isLineEnd c then gapFrom .outside (position + c.utf8Size) (comment :: comments) true rest
    else gapFrom (.line (comment.extend c.utf8Size)) (position + c.utf8Size) comments newline rest
  | .block comment _ _, position, comments, newline, '*' :: '/' :: rest =>
    gapFrom .outside (position + 2) (comment.extend 2 :: comments) newline rest
  | .block comment entered before, position, comments, newline, c :: rest =>
    gapFrom (.block (comment.extend c.utf8Size) entered before) (position + c.utf8Size) comments
      (newline || isLineEnd c) rest

def Cursor.gap (c : Cursor) : Gap := gapFrom .outside c.position c.comments false c.rest

def ahead : Parser (List Char) := fun c => some (c.gap.rest, c)

def newlineAhead : Parser Bool := fun c => some (c.gap.newline, c)

def startAhead : Parser Nat := fun c => some (c.gap.position, c)

def position : Parser Nat := fun c => some (c.position, c)

def dialect : Parser Dialect := fun c => some (c.dialect, c)

def skipGap : Parser Unit := fun c =>
  let gap := c.gap
  some ((), { c with rest := gap.rest, position := gap.position, comments := gap.comments })

def bytesOf (cs : List Char) : Nat := cs.foldl (fun n c => n + c.utf8Size) 0

def takeChars (cs : List Char) : Parser Unit := fun c =>
  if cs.isPrefixOf c.rest then
    some ((), { c with rest := c.rest.drop cs.length, position := c.position + bytesOf cs })
  else none

def takeCount (count : Nat) : Parser Unit := fun c =>
  some ((), { c with
    rest := c.rest.drop count
    position := c.position + bytesOf (c.rest.take count) })

def token (s : String) : Parser Unit := do
  skipGap
  takeChars s.toList

def sees (s : String) : Parser Bool := do
  return s.toList.isPrefixOf (← ahead)

def tokenIf (s : String) : Parser Bool := do
  if ← sees s then
    token s
    return true
  else return false

def nodeFrom (kind : String) (start : Nat) (children : List Syntax) : Parser Syntax := do
  return .node kind start (← position) none true false children

def tokenNode (s : String) : Parser Syntax := do
  let start ← startAhead
  token s
  return .node s start (← position) none false false []

def many {α : Type} (step : Parser (Option α)) : Nat → List α → Parser (List α)
  | 0, found => return found.reverse
  | fuel + 1, found => do
    match ← step with
    | some x => many step fuel (x :: found)
    | none => return found.reverse

def extend {α : Type} (step : α → Parser (Option α)) : Nat → α → Parser α
  | 0, x => return x
  | fuel + 1, x => do
    match ← step x with
    | some y => extend step fuel y
    | none => return x

def attempt {α : Type} (p : Parser α) : Parser (Option α) := fun c =>
  match p c with
  | some (x, c') => some (some x, c')
  | none => some (none, c)

end StateCoverage.Grammar
