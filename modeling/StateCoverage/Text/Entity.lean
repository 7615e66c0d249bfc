import StateCoverage.Text.EntityTable

/-!
Character references in markup text: `&amp;`, `&#39;`, `&#x27;`. Every run that begins with `&` and
may be a reference is read by the rules of HTML5; what is none stays as it is.
-/
namespace StateCoverage.Entity

/-- The code points that numbers of the windows-1252 block stand for, from 0x80 on. -/
def windows1252 : List Nat := [
  0x20AC, 0x81, 0x201A, 0x0192, 0x201E, 0x2026, 0x2020, 0x2021, 0x02C6, 0x2030, 0x0160, 0x2039,
  0x0152, 0x8D, 0x017D, 0x8F, 0x90, 0x2018, 0x2019, 0x201C, 0x201D, 0x2022, 0x2013, 0x2014,
  0x02DC, 0x2122, 0x0161, 0x203A, 0x0153, 0x9D, 0x017E, 0x0178]

/-- Controls and noncharacters: their numbers give nothing. -/
def isInvalid (n : Nat) : Bool :=
  (1 ≤ n && n ≤ 8) || n == 0xB || (0xE ≤ n && n ≤ 0x1F) || (0x7F ≤ n && n ≤ 0x9F)
    || (0xFDD0 ≤ n && n ≤ 0xFDEF) || 0xFFFE ≤ n % 0x10000

def ofNumber (n : Nat) : Text :=
  if n = 0 then ['\uFFFD']
  else if n = 0xD then ['\r']
  else if 0x80 ≤ n ∧ n ≤ 0x9F then (windows1252[n - 0x80]?.bind CodePoint.ofNat?).toList
  else if (0xD800 ≤ n ∧ n ≤ 0xDFFF) ∨ 0x10FFFF < n then ['\uFFFD']
  else if isInvalid n then []
  else (CodePoint.ofNat? n).toList

def isDigit : CodePoint → Bool
  | .scalar c => c.isDigit
  | .surrogate _ => false

def isHexDigit : CodePoint → Bool
  | .scalar c => c.isDigit || ('a' ≤ c && c ≤ 'f') || ('A' ≤ c && c ≤ 'F')
  | .surrogate _ => false

def digitsValue (base : Nat) (digits : Text) : Nat :=
  digits.foldl (fun n p => n * base + hexValue (p.toChar?.toList)) 0

def dropSemicolon : Text → Text
  | .scalar ';' :: rest => rest
  | t => t

def isNameCharacter (p : CodePoint) : Bool :=
  !(['\t', '\n', '\x0C', ' ', '<', '&', '#', ';'].any p.isChar)

/-- The longest start of `name` in the table, of `length` code points at most and two at least,
with what is left of the name. -/
def longestNamed? (name : Text) : Nat → Option (Text × Text)
  | 0 => none
  | 1 => none
  | length + 2 =>
    match named.lookup (name.take (length + 2)) with
    | some value => some (value, name.drop (length + 2))
    | none => longestNamed? name (length + 1)

def ofName (name : Text) : Text :=
  match named.lookup name with
  | some value => value
  | none => match longestNamed? name (name.length - 1) with
    | some (value, rest) => value ++ rest
    | none => .scalar '&' :: name

def reference? (t : Text) : Option (Text × Nat) :=
  match t with
  | .scalar '#' :: .scalar c :: rest =>
    let hex := c = 'x' || c = 'X'
    let digits := if hex then rest.takeWhile isHexDigit else (.scalar c :: rest).takeWhile isDigit
    let start := if hex then 2 else 1
    if digits = [] then none
    else
      let behind := t.drop (start + digits.length)
      let close := behind.length - (dropSemicolon behind).length
      some (ofNumber (digitsValue (if hex then 16 else 10) digits), start + digits.length + close)
  | _ =>
    let run := (t.takeWhile isNameCharacter).take 32
    if run = [] then none
    else
      let behind := t.drop run.length
      let close := behind.length - (dropSemicolon behind).length
      some (ofName (run ++ behind.take close), run.length + close)

/-- The text with its references decoded, after `skip` code points that are already read. -/
def decodeAfter : Nat → Text → Text
  | _, [] => []
  | skip + 1, _ :: rest => decodeAfter skip rest
  | 0, p :: rest =>
    if p = .scalar '&' then
      match reference? rest with
      | some (value, length) => value ++ decodeAfter length rest
      | none => p :: decodeAfter 0 rest
    else p :: decodeAfter 0 rest

def decode (t : Text) : Text := decodeAfter 0 t

end StateCoverage.Entity
