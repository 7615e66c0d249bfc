import StateCoverage.Yaml.Place

/-!
The text of scalars: plain, quoted, and in blocks. Within a scalar a single line break counts as a
blank, and further ones are kept.
-/
namespace StateCoverage.Yaml

def foldedBreak (first : Char) (further : List Char) : List Char :=
  if first ≠ '\n' then first :: further
  else if further = [] then [' ']
  else further

/-! ### Quoted scalars -/

def quotedBreaks : Nat → List Char → Place → Option (List Char × Place)
  | 0, _, _ => none
  | fuel + 1, found, p =>
    if p.isDocumentMark then none
    else
      let (_, p) := p.takeWhile fun c => c = ' ' || c = '\t'
      match p.takeBreak with
      | some (c, p) => quotedBreaks fuel (c :: found) p
      | none => some (found.reverse, p)

def letterEscape? : Char → Option Char
  | '0' => some '\x00'
  | 'a' => some '\x07'
  | 'b' => some '\x08'
  | 't' => some '\t'
  | '\t' => some '\t'
  | 'n' => some '\n'
  | 'v' => some '\x0B'
  | 'f' => some '\x0C'
  | 'r' => some '\r'
  | 'e' => some '\x1B'
  | ' ' => some ' '
  | '"' => some '"'
  | '\\' => some '\\'
  | '/' => some '/'
  | 'N' => some '\u0085'
  | '_' => some '\u00A0'
  | 'L' => some '\u2028'
  | 'P' => some '\u2029'
  | _ => none

def hexDigit? (c : Char) : Option Nat :=
  if c.isDigit then some (c.toNat - 48)
  else if 'a' ≤ c ∧ c ≤ 'f' then some (c.toNat - 87)
  else if 'A' ≤ c ∧ c ≤ 'F' then some (c.toNat - 55)
  else none

def hexEscape? (count : Nat) (p : Place) : Option (CodePoint × Place) := do
  let digits ← (p.rest.take count).mapM hexDigit?
  if digits.length = count then
    return (← CodePoint.ofNat? (digits.foldl (fun n d => n * 16 + d) 0), p.advance count)
  else none

def escape? (p : Place) : Option (Text × Place) := do
  let c ← p.peek
  match letterEscape? c with
  | some e => return ([.scalar e], p.next)
  | none =>
    let width := if c = 'x' then 2 else if c = 'u' then 4 else if c = 'U' then 8 else 0
    if 0 < width then
      let (e, p) ← hexEscape? width p.next
      return ([e], p)
    else
      let (_, p) ← p.takeBreak
      let (breaks, p) ← quotedBreaks (p.rest.length + 1) [] p
      return (breaks.map .scalar, p)

def quotedFrom (double : Bool) : Nat → List Text → Place → Option (Text × Place)
  | 0, _, _ => none
  | fuel + 1, found, p =>
    match p.rest with
    | [] => none
    | '\'' :: rest =>
      if double then quotedFrom double fuel (['\''] :: found) p.next
      else if rest.head? = some '\'' then quotedFrom double fuel (['\''] :: found) (p.advance 2)
      else some (found.reverse.flatten, p.next)
    | '"' :: _ =>
      if double then some (found.reverse.flatten, p.next)
      else quotedFrom double fuel (['"'] :: found) p.next
    | '\\' :: _ =>
      if double then
        match escape? p.next with
        | some (e, p) => quotedFrom double fuel (e :: found) p
        | none => none
      else quotedFrom double fuel (['\\'] :: found) p.next
    | c :: _ =>
      if c = ' ' ∨ c = '\t' ∨ isBreak c then
        let (blanks, p) := p.takeWhile fun c => c = ' ' || c = '\t'
        match p.takeBreak with
        | some (c, p) =>
          match quotedBreaks (p.rest.length + 1) [] p with
          | some (breaks, p) =>
            quotedFrom double fuel ((foldedBreak c breaks).map .scalar :: found) p
          | none => none
        | none =>
          if p.rest = [] then none
          else quotedFrom double fuel (blanks.map .scalar :: found) p
      else quotedFrom double fuel ([.scalar c] :: found) p.next

def quoted? (double : Bool) (p : Place) : Option (Text × Place) :=
  quotedFrom double (p.rest.length + 1) [] p.next

/-! ### Plain scalars -/

def wordLength (inFlow : Bool) : List Char → Nat
  | [] => 0
  | c :: rest =>
    let isFlowMark (c : Char) : Bool := c = ',' || c = '[' || c = ']' || c = '\x7b' || c = '\x7d'
    if isGap (some c) then 0
    else if c = ':' && (isGap rest.head? || (inFlow && rest.head?.any isFlowMark)) then 0
    else if inFlow && (isFlowMark c || c = '?') then 0
    else wordLength inFlow rest + 1

def plainBreaks : Nat → List Char → Place → List Char × Bool × Place
  | 0, found, p => (found.reverse, true, p)
  | fuel + 1, found, p =>
    match p.rest with
    | ' ' :: _ => plainBreaks fuel found p.next
    | _ =>
      match p.takeBreak with
      | some (c, p) => if p.isDocumentMark then ([], true, p) else plainBreaks fuel (c :: found) p
      | none => (found.reverse, false, p)

/-- What separates two words of a plain scalar, and whether a line ends there. Nothing separates
them when the scalar ends. -/
def plainGap (p : Place) : List Char × Bool × Place :=
  let (blanks, p) := p.takeWhile (· = ' ')
  match p.takeBreak with
  | some (c, p) =>
    if p.isDocumentMark then ([], true, p)
    else
      match plainBreaks (p.rest.length + 1) [] p with
      | (_, true, p) => ([], true, p)
      | (breaks, false, p) => (foldedBreak c breaks, true, p)
  | none => (blanks, false, p)

/-- The words of a plain scalar: the text, whether a line ended behind the last word, and the place
behind. A line that is not indented enough ends it. -/
def plainFrom (inFlow : Bool) (indent : Int) : Nat → List (List Char) → List Char → Bool → Place →
    List Char × Bool × Place
  | 0, found, _, broke, p => (found.reverse.flatten, broke, p)
  | fuel + 1, found, gap, broke, p =>
    let length := if p.peek = some '#' then 0 else wordLength inFlow p.rest
    if length = 0 then (found.reverse.flatten, broke, p)
    else
      let found := p.rest.take length :: gap :: found
      let (gap, broke, p) := plainGap (p.advance length)
      if gap = [] ∨ p.peek = some '#' ∨ (!inFlow ∧ (p.column : Int) < indent) then
        (found.reverse.flatten, broke, p)
      else plainFrom inFlow indent fuel found gap broke p

def plain (inFlow : Bool) (indent : Int) (p : Place) : List Char × Bool × Place :=
  plainFrom inFlow indent (p.rest.length + 1) [] [] false p

/-! ### Block scalars -/

inductive Chomping where
  | clip
  | keep
  | strip

def blockMarks (p : Place) : Option (Chomping × Option Nat × Place) :=
  let chomping? : Option Char → Option Chomping
    | some '+' => some .keep
    | some '-' => some .strip
    | _ => none
  let digit? : Option Char → Option Nat
    | some c => if c.isDigit then some (c.toNat - 48) else none
    | none => none
  let found : Option (Chomping × Option Nat × Place) :=
    match chomping? p.peek with
    | some chomping =>
      match digit? p.next.peek with
      | some n => some (chomping, some n, p.advance 2)
      | none => some (chomping, none, p.next)
    | none =>
      match digit? p.peek with
      | some n =>
        match chomping? p.next.peek with
        | some chomping => some (chomping, some n, p.advance 2)
        | none => some (.clip, some n, p.next)
      | none => some (.clip, none, p)
  found.filter fun (_, indent, p) => indent ≠ some 0 && isGap p.peek && p.peek ≠ some '\t'

def restOfLine (p : Place) : Option Place :=
  let (_, p) := p.takeWhile (· = ' ')
  let p := if p.peek = some '#' then (p.takeWhile fun c => !isBreak c).2 else p
  if p.rest = [] then some p else p.takeBreak.map (·.2)

def blockStart : Nat → List Char → Nat → Place → List Char × Nat × Place
  | 0, breaks, deepest, p => (breaks.reverse, deepest, p)
  | fuel + 1, breaks, deepest, p =>
    if p.peek = some ' ' then
      let p := p.next
      blockStart fuel breaks (max deepest p.column) p
    else
      match p.takeBreak with
      | some (c, p) => blockStart fuel (c :: breaks) deepest p
      | none => (breaks.reverse, deepest, p)

def indentTo (indent : Nat) (p : Place) : Place :=
  p.advance ((p.rest.take (indent - p.column)).takeWhile (· = ' ')).length

def blockBreaks (indent : Nat) : Nat → List Char → Place → List Char × Place
  | 0, breaks, p => (breaks.reverse, p)
  | fuel + 1, breaks, p =>
    match (indentTo indent p).takeBreak with
    | some (c, p) => blockBreaks indent fuel (c :: breaks) p
    | none => (breaks.reverse, indentTo indent p)

/-- The lines of a block scalar, with the line break behind the last one and the empty lines after
it. -/
def blockLines (folded : Bool) (indent : Nat) : Nat → List (List Char) → List Char → Place →
    List Char × List Char × List Char × Place
  | 0, found, breaks, p => (found.reverse.flatten, [], breaks, p)
  | fuel + 1, found, breaks, p =>
    let isFlush (c : Option Char) : Bool := c ≠ some ' ' && c ≠ some '\t'
    let flush := isFlush p.peek
    let (line, p) := p.takeWhile fun c => !isBreak c
    let found := line :: breaks :: found
    let (ending, p) := match p.takeBreak with
      | some (c, p) => ([c], p)
      | none => ([], p)
    let (breaks, p) := blockBreaks indent (p.rest.length + 1) [] p
    if p.column = indent ∧ p.rest ≠ [] then
      let joint :=
        if folded && ending = ['\n'] && flush && isFlush p.peek then
          (if breaks = [] then [' '] else [])
        else ending
      blockLines folded indent fuel (joint :: found) breaks p
    else (found.reverse.flatten, ending, breaks, p)

def block? (folded : Bool) (outer : Int) (p : Place) : Option (List Char × Place) := do
  let (chomping, extra, p) ← blockMarks p.next
  let p ← restOfLine p
  let least := (max (outer + 1) 1).toNat
  let (breaks, indent, p) := match extra with
    | some n =>
      let indent := least + n - 1
      let (breaks, p) := blockBreaks indent (p.rest.length + 1) [] p
      (breaks, indent, p)
    | none =>
      let (breaks, deepest, p) := blockStart (p.rest.length + 1) [] 0 p
      (breaks, max least deepest, p)
  let (body, ending, breaks, p) :=
    if p.column = indent ∧ p.rest ≠ [] then blockLines folded indent (p.rest.length + 1) [] breaks p
    else ([], [], breaks, p)
  let tail := match chomping with
    | .clip => ending
    | .keep => ending ++ breaks
    | .strip => []
  return (body ++ tail, p)

end StateCoverage.Yaml
