import StateCoverage.Text.CodePoint

/-!
UTF-8. Decoding takes one character, or one maximal ill-formed part, at a time; a lossy reading
puts U+FFFD for each such part, a strict one stops at the first.
-/
namespace StateCoverage.Utf8

inductive Fault where
  | invalidStart
  | invalidContinuation
  | endOfData
deriving DecidableEq

namespace Fault

def reason : Fault → String
  | invalidStart => "invalid start byte"
  | invalidContinuation => "invalid continuation byte"
  | endOfData => "unexpected end of data"

end Fault

/-- What stands at the start of some bytes: a character of `length` bytes, or that many bytes that
begin none. -/
inductive Lead where
  | character (c : Char) (length : Nat)
  | illFormed (fault : Fault) (length : Nat)

def tailBits (b : UInt8) : Nat := b.toNat % 64

def isTail (b : UInt8) : Bool := 0x80 ≤ b && b ≤ 0xBF

/-- How many continuation bytes follow the start byte, with the bounds of the first of them and
the bits that the start byte gives. -/
def startByte? (b : UInt8) : Option (Nat × UInt8 × UInt8 × Nat) :=
  if 0xC2 ≤ b ∧ b ≤ 0xDF then some (1, 0x80, 0xBF, b.toNat % 32)
  else if b = 0xE0 then some (2, 0xA0, 0xBF, 0)
  else if b = 0xED then some (2, 0x80, 0x9F, 13)
  else if 0xE1 ≤ b ∧ b ≤ 0xEF then some (2, 0x80, 0xBF, b.toNat % 16)
  else if b = 0xF0 then some (3, 0x90, 0xBF, 0)
  else if b = 0xF4 then some (3, 0x80, 0x8F, 4)
  else if 0xF1 ≤ b ∧ b ≤ 0xF3 then some (3, 0x80, 0xBF, b.toNat % 8)
  else none

/-- The continuation bytes: `count` more are owed, the next one between `low` and `high`, and
`length` bytes with the value `bits` are read. -/
def continuation (count : Nat) (low high : UInt8) (bits length : Nat) : List UInt8 → Lead
  | [] =>
    match count with
    | 0 => .character (Char.ofNat bits) length
    | _ + 1 => .illFormed .endOfData length
  | b :: rest =>
    match count with
    | 0 => .character (Char.ofNat bits) length
    | count + 1 =>
      if low ≤ b ∧ b ≤ high then
        continuation count 0x80 0xBF (bits * 64 + tailBits b) (length + 1) rest
      else .illFormed .invalidContinuation length

def lead (b : UInt8) (rest : List UInt8) : Lead :=
  if b < 0x80 then .character (Char.ofNat b.toNat) 1
  else match startByte? b with
    | none => .illFormed .invalidStart 1
    | some (count, low, high, bits) => continuation count low high bits 1 rest

def Lead.length : Lead → Nat
  | character _ length => length
  | illFormed _ length => length

def Lead.shown : Lead → Char
  | character c _ => c
  | illFormed _ _ => '\uFFFD'

/-- Every character, with U+FFFD for each maximal ill-formed part. -/
def decode : List UInt8 → List Char
  | [] => []
  | b :: rest =>
    let found := lead b rest
    found.shown :: decode (rest.drop (found.length - 1))
termination_by bytes => bytes.length
decreasing_by rw [List.length_cons, List.length_drop]; omega

def decodeStrict (position : Nat) : List UInt8 → Except (Fault × Nat × List UInt8) (List Char)
  | [] => .ok []
  | b :: rest =>
    match lead b rest with
    | .character c length =>
      match decodeStrict (position + length) (rest.drop (length - 1)) with
      | .ok cs => .ok (c :: cs)
      | .error e => .error e
    | .illFormed fault length => .error (fault, position, (b :: rest).take length)
termination_by bytes => bytes.length
decreasing_by rw [List.length_cons, List.length_drop]; omega

def faultMessage : Fault × Nat × List UInt8 → String
  | (fault, position, bytes) =>
    let place := match bytes with
      | [b] => "byte 0x" ++ String.ofList (Nat.toDigits 16 b.toNat)
        ++ " in position " ++ toString position
      | _ => "bytes in position " ++ toString position ++ "-"
        ++ toString (position + bytes.length - 1)
    "'utf-8' codec can't decode " ++ place ++ ": " ++ fault.reason

def encode (cs : List Char) : List UInt8 := cs.flatMap String.utf8EncodeChar

def encode? (t : Text) : Option (List UInt8) := (t.mapM CodePoint.toChar?).map encode

def decodeText (bytes : List UInt8) : Text := (decode bytes).map .scalar

end StateCoverage.Utf8
