import StateCoverage.Text.Utf8
import StateCoverage.Yaml.Scalar

/-!
The tokens of a document. Indentation opens and closes block collections. Whether a token is a key
shows only at the colon behind it: its place is remembered, and the mark of a key put there then.
-/
namespace StateCoverage.Yaml

structure TagName where
  handle : Option Text
  suffix : Text
deriving DecidableEq

inductive Token where
  | version (major : Nat)
  | tagHandle (handle meaning : Text)
  | documentStart
  | documentEnd
  | blockSequence
  | blockMapping
  | blockEnd
  | flowSequence
  | flowSequenceEnd
  | flowMapping
  | flowMappingEnd
  | entry
  | comma
  | key
  | value
  | reference (name : Text)
  | anchor (name : Text)
  | tag (name : TagName)
  | scalar (plain : Bool) (content : Text)
deriving DecidableEq

/-- A place where a key may have begun. One at the indentation of its block has to be a key. -/
structure PossibleKey where
  /-- How many tokens stand before it. -/
  count : Nat
  required : Bool
  place : Place

structure Scan where
  place : Place
  /-- The tokens so far, last first. -/
  tokens : List Token
  /-- The indentation of each open block, innermost first. -/
  indents : List Int
  /-- The possible key of each level of flow collections, innermost first; the last is the
  block's. -/
  keys : List (Option PossibleKey)
  keyAllowed : Bool

namespace Scan

def start (cs : List Char) : Scan := ⟨.start cs, [], [], [none], true⟩

/-- The indentation of the innermost block; outside of all blocks it is less than any column. -/
def indent (s : Scan) : Int := s.indents.headD (-1)

def inFlow (s : Scan) : Bool := 1 < s.keys.length

def push (t : Token) (s : Scan) : Scan := { s with tokens := t :: s.tokens }

def insertAt (count : Nat) (new : List Token) (s : Scan) : Scan :=
  let later := s.tokens.length - count
  { s with tokens := s.tokens.take later ++ new.reverse ++ s.tokens.drop later }

def unwindTo (column : Int) (s : Scan) : Scan :=
  if s.inFlow then s
  else
    let closed := (s.indents.takeWhile (column < ·)).length
    { s with
      indents := s.indents.drop closed
      tokens := List.replicate closed .blockEnd ++ s.tokens }

def openBlock (column : Nat) (s : Scan) : Bool × Scan :=
  if s.indent < column then (true, { s with indents := (column : Int) :: s.indents })
  else (false, s)

/-- Forgets the possible key of this level. A required one must not be forgotten. -/
def forgetKey (s : Scan) : Option Scan :=
  match s.keys with
  | some key :: rest => if key.required then none else some { s with keys := none :: rest }
  | _ => some s

/-- Forgets the possible keys that lie too far back: on another line, or 1024 characters off. -/
def forgetStale (s : Scan) : Option Scan :=
  let isStale (key : PossibleKey) : Bool :=
    key.place.line ≠ s.place.line || 1024 < s.place.index - key.place.index
  if s.keys.any fun key => key.any fun key => isStale key && key.required then none
  else some { s with keys := s.keys.map fun key => key.filter fun key => !isStale key }

def rememberKey (s : Scan) : Option Scan :=
  if s.keyAllowed then do
    let required := !s.inFlow && s.indent = s.place.column
    let s ← s.forgetKey
    return { s with keys := some ⟨s.tokens.length, required, s.place⟩ :: s.keys.drop 1 }
  else
    some s

/-- Passes blanks, comments and line breaks. A new line of a block may begin with a key. -/
def skipGap : Nat → Scan → Scan
  | 0, s => s
  | fuel + 1, s =>
    let (_, p) := s.place.takeWhile (· = ' ')
    let p := if p.peek = some '#' then (p.takeWhile fun c => !isBreak c).2 else p
    match p.takeBreak with
    | some (_, p) => skipGap fuel { s with place := p, keyAllowed := s.keyAllowed || !s.inFlow }
    | none => { s with place := p }

def mark (t : Token) (length : Nat) (s : Scan) : Scan :=
  { s.push t with place := s.place.advance length }

/-! ### Names -/

def isNameCharacter (c : Char) : Bool := c.isAlphanum || c = '-' || c = '_'

def name? (p : Place) : Option (Text × Place) :=
  let (name, p) := p.takeWhile isNameCharacter
  let closes := isGap p.peek || p.peek.any fun c => "?:,]\x7d%@\x60".toList.elem c
  if name ≠ [] ∧ closes then some (name.map .scalar, p) else none

def isUriCharacter (c : Char) : Bool := c.isAlphanum || "-;/?:@&=+$,_.!~*'()[]".toList.elem c

def percentBytes : Nat → List UInt8 → Place → Option (List UInt8 × Place)
  | 0, found, p => some (found.reverse, p)
  | fuel + 1, found, p =>
    match p.rest with
    | '%' :: a :: b :: _ => do
      let value := (← hexDigit? a) * 16 + (← hexDigit? b)
      percentBytes fuel (UInt8.ofNat value :: found) (p.advance 3)
    | '%' :: _ => none
    | _ => some (found.reverse, p)

def uriFrom : Nat → List (List Char) → Place → Option (Text × Place)
  | 0, _, _ => none
  | fuel + 1, found, p =>
    if p.peek = some '%' then
      match percentBytes p.rest.length [] p with
      | some (bytes, p) =>
        match Utf8.decodeStrict 0 bytes with
        | .ok cs => uriFrom fuel (cs :: found) p
        | .error _ => none
      | none => none
    else
      let (run, p') := p.takeWhile isUriCharacter
      if run = [] then
        let whole := found.reverse.flatten
        if whole = [] then none else some (whole.map .scalar, p)
      else uriFrom fuel (run :: found) p'

def uri? (p : Place) : Option (Text × Place) := uriFrom (p.rest.length + 1) [] p

def handle? (p : Place) : Option (Text × Place) :=
  let (name, p) := p.next.takeWhile isNameCharacter
  if p.peek = some '!' then some (text "!" ++ name.map .scalar ++ text "!", p.next)
  else if name = [] then some (text "!", p)
  else none

def tag? (p : Place) : Option (TagName × Place) := do
  let (name, p) ←
    if p.peekAt 1 = some '<' then do
      let (suffix, p) ← uri? (p.advance 2)
      if p.peek = some '>' then some (⟨none, suffix⟩, p.next) else none
    else if isGap (p.peekAt 1) then some (⟨none, text "!"⟩, p.next)
    else do
      let word := (p.rest.drop 1).takeWhile fun c => !(c = ' ' || isBreak c)
      let (handle, p) ← if word.elem '!' then handle? p else some (text "!", p.next)
      let (suffix, p) ← uri? p
      return (⟨some handle, suffix⟩, p)
  if isGap p.peek && p.peek ≠ some '\t' then return (name, p) else none

/-- The directive that starts here, with the rest of its line. Unknown ones give nothing. -/
def directive? (p : Place) : Option (List Token × Place) := do
  let (name, p) := p.next.takeWhile isNameCharacter
  if name = [] ∨ !(isGap p.peek) then none
  else
    let skipBlanks (p : Place) : Place := (p.takeWhile (· = ' ')).2
    let (tokens, p) ←
      if name = "YAML".toList then do
        let (major, p) := (skipBlanks p).takeWhile Char.isDigit
        let (minor, p') := p.next.takeWhile Char.isDigit
        if major ≠ [] ∧ p.peek = some '.' ∧ minor ≠ [] then
          some ([Token.version ((String.ofList major).toNat?.getD 0)], p')
        else none
      else if name = "TAG".toList then do
        let (handle, p) ← handle? (skipBlanks p)
        if p.peek ≠ some ' ' then none
        else
          let (meaning, p) ← uri? (skipBlanks p)
          some ([Token.tagHandle handle meaning], p)
      else some ([], (p.takeWhile fun c => !isBreak c).2)
    let p ← restOfLine p
    return (tokens, p)

/-! ### The next token -/

def atDocumentLevel (s : Scan) : Option Scan := do
  let s ← (s.unwindTo (-1)).forgetKey
  return { s with keyAllowed := false }

def openFlow (t : Token) (s : Scan) : Option Scan := do
  let s ← s.rememberKey
  return { s.mark t 1 with keys := none :: s.keys, keyAllowed := true }

def closeFlow (t : Token) (s : Scan) : Option Scan := do
  let s ← s.forgetKey
  if s.inFlow then return { s.mark t 1 with keys := s.keys.drop 1, keyAllowed := false } else none

def entryMark (s : Scan) : Option Scan := do
  let s ←
    if s.inFlow then some s
    else if s.keyAllowed then
      let (opened, s) := s.openBlock s.place.column
      some (if opened then s.push .blockSequence else s)
    else none
  let s ← s.forgetKey
  return { s.mark .entry 1 with keyAllowed := true }

def keyMark (s : Scan) : Option Scan := do
  let s ←
    if s.inFlow then some s
    else if s.keyAllowed then
      let (opened, s) := s.openBlock s.place.column
      some (if opened then s.push .blockMapping else s)
    else none
  let s ← s.forgetKey
  return { s.mark .key 1 with keyAllowed := !s.inFlow }

/-- The colon before a value. What stands before it on the line was its key. -/
def valueMark (s : Scan) : Option Scan :=
  match s.keys with
  | some key :: rest =>
    let s := { s with keys := none :: rest, keyAllowed := false }
    let (opened, s) := if s.inFlow then (false, s) else s.openBlock key.place.column
    some ((s.insertAt key.count (if opened then [.blockMapping, .key] else [.key])).mark .value 1)
  | _ => do
    let s ←
      if s.inFlow then some s
      else if s.keyAllowed then
        let (opened, s) := s.openBlock s.place.column
        some (if opened then s.push .blockMapping else s)
      else none
    let s ← s.forgetKey
    return { s.mark .value 1 with keyAllowed := !s.inFlow }

/-- A token that may begin a key, and behind which none begins on the same line. -/
def keyable (read : Place → Option (Token × Place)) (s : Scan) : Option Scan := do
  let s ← s.rememberKey
  let (t, p) ← read s.place
  return { s.push t with place := p, keyAllowed := false }

def plainScalar (s : Scan) : Option Scan := do
  let s ← s.rememberKey
  let (content, broke, p) := plain s.inFlow (s.indent + 1) s.place
  return { s.push (.scalar true (content.map .scalar)) with place := p, keyAllowed := broke }

def blockScalar (folded : Bool) (s : Scan) : Option Scan := do
  let s ← s.forgetKey
  let (content, p) ← block? folded s.indent s.place
  return { s.push (.scalar false (content.map .scalar)) with place := p, keyAllowed := true }

def beginsPlain (inFlow : Bool) (c : Char) (next : Option Char) : Bool :=
  !(isGap (some c) || "-?:,[]\x7b\x7d#&*!|>'\"%@\x60".toList.elem c)
    || (!isGap next && (c = '-' || (!inFlow && (c = '?' || c = ':'))))

def nextToken (c : Char) (s : Scan) : Option Scan :=
  let p := s.place
  let next := p.peekAt 1
  if c = '%' ∧ p.column = 0 then do
    let s ← s.atDocumentLevel
    let (tokens, p) ← directive? p
    return { s with place := p, tokens := tokens ++ s.tokens }
  else if p.column = 0 ∧ p.isDocumentMark then
    s.atDocumentLevel.map (mark (if c = '-' then .documentStart else .documentEnd) 3)
  else if c = '[' then s.openFlow .flowSequence
  else if c = '\x7b' then s.openFlow .flowMapping
  else if c = ']' then s.closeFlow .flowSequenceEnd
  else if c = '\x7d' then s.closeFlow .flowMappingEnd
  else if c = ',' then s.forgetKey.map fun s => { s.mark .comma 1 with keyAllowed := true }
  else if c = '-' ∧ isGap next then s.entryMark
  else if c = '?' ∧ (s.inFlow ∨ isGap next) then s.keyMark
  else if c = ':' ∧ (s.inFlow ∨ isGap next) then s.valueMark
  else if c = '*' then s.keyable fun p => (name? p.next).map fun (name, p) => (.reference name, p)
  else if c = '&' then s.keyable fun p => (name? p.next).map fun (name, p) => (.anchor name, p)
  else if c = '!' then s.keyable fun p => (tag? p).map fun (name, p) => (.tag name, p)
  else if c = '|' ∧ !s.inFlow then s.blockScalar false
  else if c = '>' ∧ !s.inFlow then s.blockScalar true
  else if c = '\'' ∨ c = '"' then
    s.keyable fun p => (quoted? (c = '"') p).map fun (content, p) => (.scalar false content, p)
  else if beginsPlain s.inFlow c next then s.plainScalar
  else none

def run : Nat → Scan → Option (List Token)
  | 0, _ => none
  | fuel + 1, s =>
    match (s.skipGap (s.place.rest.length + 1)).forgetStale with
    | none => none
    | some s =>
      let s := s.unwindTo s.place.column
      match s.place.peek with
      | none => s.atDocumentLevel.map (·.tokens.reverse)
      | some c =>
        match s.nextToken c with
        | some s => run fuel s
        | none => none

end Scan

def isAllowed (c : Char) : Bool :=
  let n := c.toNat
  n = 9 || n = 10 || n = 13 || (0x20 ≤ n && n ≤ 0x7E) || n = 0x85
    || (0xA0 ≤ n && n ≤ 0xFFFD) || 0x10000 ≤ n

def Token.all? (cs : List Char) : Option (List Token) :=
  if cs.all isAllowed then
    let cs := if cs.head? = some '\uFEFF' then cs.drop 1 else cs
    Scan.run (cs.length + 2) (.start cs)
  else none

end StateCoverage.Yaml
