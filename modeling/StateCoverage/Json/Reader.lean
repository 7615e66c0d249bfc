import StateCoverage.Bindings
import StateCoverage.Data.Basic

/-!
Reading JSON. A key written twice keeps its place and takes the later value; halves of a surrogate
pair that are written one after the other are joined; `NaN` and the infinities are numbers.
-/
namespace StateCoverage.Json

def isSpace (p : CodePoint) : Bool :=
  p.isChar ' ' || p.isChar '\t' || p.isChar '\n' || p.isChar '\r'

def skipSpace : Text → Text := List.dropWhile isSpace

def hexDigit? : CodePoint → Option Nat
  | .scalar c =>
    if '0' ≤ c ∧ c ≤ '9' then some (c.toNat - 48)
    else if 'a' ≤ c ∧ c ≤ 'f' then some (c.toNat - 87)
    else if 'A' ≤ c ∧ c ≤ 'F' then some (c.toNat - 55)
    else none
  | .surrogate _ => none

def unit? : Text → Option (Nat × Text)
  | a :: b :: c :: d :: rest => do
    return ((((← hexDigit? a) * 16 + (← hexDigit? b)) * 16 + (← hexDigit? c)) * 16
      + (← hexDigit? d), rest)
  | _ => none

def letterEscape? : Char → Option Char
  | '"' => some '"'
  | '\\' => some '\\'
  | '/' => some '/'
  | 'b' => some '\x08'
  | 'f' => some '\x0C'
  | 'n' => some '\n'
  | 'r' => some '\r'
  | 't' => some '\t'
  | _ => none

/-- What an escape stands for, given what follows its backslash, and the rest behind it. -/
def escape? : Text → Option (CodePoint × Text)
  | .scalar 'u' :: digits => do
    let (high, rest) ← unit? digits
    let single ← CodePoint.ofNat? high
    if 0xD800 ≤ high ∧ high < 0xDC00 then
      match rest with
      | .scalar '\\' :: .scalar 'u' :: more =>
        match unit? more with
        | some (low, rest') =>
          if 0xDC00 ≤ low ∧ low < 0xE000 then
            return (← CodePoint.ofNat? (0x10000 + (high - 0xD800) * 0x400 + (low - 0xDC00)), rest')
          else return (single, rest)
        | none => return (single, rest)
      | _ => return (single, rest)
    else return (single, rest)
  | .scalar c :: rest => (letterEscape? c).map fun e => (.scalar e, rest)
  | _ => none

def body : Nat → Text → Text → Option (Text × Text)
  | 0, _, _ => none
  | _, _, [] => none
  | fuel + 1, found, p :: rest =>
    if p.isChar '"' then some (found.reverse, rest)
    else if p.isChar '\\' then
      match escape? rest with
      | some (p, rest) => body fuel (p :: found) rest
      | none => none
    else if p.toNat < 32 then none
    else body fuel (p :: found) rest

def string? (input : Text) : Option (Text × Text) := body (input.length + 1) [] input

def isDigit : CodePoint → Bool
  | .scalar c => c.isDigit
  | .surrogate _ => false

def digitsOf (input : Text) : Text := input.takeWhile isDigit

def valueOf (digits : Text) : Nat := digits.foldl (fun n p => n * 10 + (p.toNat - 48)) 0

def fraction : Text → Text
  | .scalar '.' :: rest => digitsOf rest
  | _ => []

/-- The exponent that is written here, with how many characters it takes. -/
def exponent? (input : Text) : Option (Int × Nat) :=
  match input with
  | p :: rest =>
    if p.isChar 'e' || p.isChar 'E' then
      let (negative, signs, rest) := match rest with
        | .scalar '-' :: rest => (true, 1, rest)
        | .scalar '+' :: rest => (false, 1, rest)
        | _ => (false, 0, rest)
      let digits := digitsOf rest
      if digits = [] then none
      else
        let value : Int := valueOf digits
        some (if negative then -value else value, 1 + signs + digits.length)
    else none
  | [] => none

def number? (input : Text) : Option (Data × Text) :=
  let (negative, unsigned) := match input with
    | .scalar '-' :: rest => (true, rest)
    | _ => (false, input)
  let whole := match unsigned with
    | .scalar '0' :: _ => text "0"
    | _ => digitsOf unsigned
  if whole = [] then none
  else
    let rest := unsigned.drop whole.length
    let places := fraction rest
    let rest := if places = [] then rest else rest.drop (places.length + 1)
    match places, exponent? rest with
    | [], none =>
      let value : Int := valueOf whole
      some (.int (if negative then -value else value), rest)
    | _, found =>
      let (power, length) := found.getD (0, 0)
      some (.float (.ofDecimal negative (valueOf (whole ++ places)) (power - places.length)),
        rest.drop length)

def atom? (input : Text) : Option (Data × Text) :=
  [("null", Data.null), ("true", .bool true), ("false", .bool false), ("NaN", .float .notANumber),
    ("Infinity", .float (.number false .infinite)),
    ("-Infinity", .float (.number true .infinite))].findSome?
      (fun (word, value) => (Text.after? (text word) input).map (value, ·))
    |>.orElse fun _ => number? input

mutual

def value? : Nat → Text → Option (Data × Text)
  | 0, _ => none
  | fuel + 1, input =>
    match skipSpace input with
    | .scalar '"' :: rest => (string? rest).map fun (s, rest) => (.string s, rest)
    | .scalar '[' :: rest =>
      match skipSpace rest with
      | .scalar ']' :: rest => some (.list [], rest)
      | rest => items? fuel [] rest
    | .scalar '\x7b' :: rest =>
      match skipSpace rest with
      | .scalar '\x7d' :: rest => some (.record [], rest)
      | rest => members? fuel [] rest
    | rest => atom? rest

def items? : Nat → List Data → Text → Option (Data × Text)
  | 0, _, _ => none
  | fuel + 1, found, input =>
    match value? fuel input with
    | none => none
    | some (item, rest) =>
      match skipSpace rest with
      | .scalar ',' :: rest => items? fuel (item :: found) rest
      | .scalar ']' :: rest => some (.list (item :: found).reverse, rest)
      | _ => none

def members? : Nat → List (Text × Data) → Text → Option (Data × Text)
  | 0, _, _ => none
  | fuel + 1, found, input =>
    match skipSpace input with
    | .scalar '"' :: rest =>
      match string? rest with
      | none => none
      | some (key, rest) =>
        match skipSpace rest with
        | .scalar ':' :: rest =>
          match value? fuel rest with
          | none => none
          | some (value, rest) =>
            let found := (key, value) :: found
            match skipSpace rest with
            | .scalar ',' :: rest => members? fuel found rest
            | .scalar '\x7d' :: rest => some (.record (Bindings.ofPairs found.reverse), rest)
            | _ => none
        | _ => none
    | _ => none

end

def read? (input : Text) : Option Data :=
  match value? (2 * input.length + 2) input with
  | some (value, rest) => if (skipSpace rest).isEmpty then some value else none
  | none => none

end StateCoverage.Json
