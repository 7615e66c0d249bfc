import StateCoverage.Text.CodePoint

/-!
Places in a document, and what may stand at one: line breaks, blanks, and the marks between
documents.
-/
namespace StateCoverage.Yaml

structure Place where
  rest : List Char
  index : Nat
  line : Nat
  column : Nat

def isBreak (c : Char) : Bool :=
  c = '\n' || c = '\r' || c = '\u0085' || c = '\u2028' || c = '\u2029'

def isGap : Option Char → Bool
  | none => true
  | some c => c = ' ' || c = '\t' || isBreak c

namespace Place

def start (cs : List Char) : Place := ⟨cs, 0, 0, 0⟩

def peek (p : Place) : Option Char := p.rest.head?

def peekAt (p : Place) (n : Nat) : Option Char := p.rest[n]?

def next (p : Place) : Place :=
  match p.rest with
  | [] => p
  | c :: rest =>
    let endsHere := isBreak c && !(c = '\r' && rest.head? = some '\n')
    if endsHere then ⟨rest, p.index + 1, p.line + 1, 0⟩
    else ⟨rest, p.index + 1, p.line, if c = '\uFEFF' then p.column else p.column + 1⟩

def advance : Nat → Place → Place
  | 0, p => p
  | n + 1, p => advance n p.next

def takeWhile (test : Char → Bool) (p : Place) : List Char × Place :=
  let run := p.rest.takeWhile test
  (run, p.advance run.length)

def takeBreak (p : Place) : Option (Char × Place) :=
  match p.rest with
  | '\r' :: '\n' :: _ => some ('\n', p.advance 2)
  | c :: _ =>
    if c = '\u2028' ∨ c = '\u2029' then some (c, p.next)
    else if isBreak c then some ('\n', p.next)
    else none
  | [] => none

def isDocumentMark (p : Place) : Bool :=
  (['-', '-', '-'].isPrefixOf p.rest || ['.', '.', '.'].isPrefixOf p.rest) && isGap (p.peekAt 3)

end Place

end StateCoverage.Yaml
