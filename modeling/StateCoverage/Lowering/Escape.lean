import StateCoverage.Text.CodePoint

/-!
Escapes in the body of a string literal. What begins no escape stays as it is written.
-/
namespace StateCoverage.Escape

def hexDigit? : CodePoint → Option Nat
  | .surrogate _ => none
  | .scalar c =>
    if '0' ≤ c ∧ c ≤ '9' then some (c.toNat - 48)
    else if 'a' ≤ c ∧ c ≤ 'f' then some (c.toNat - 87)
    else if 'A' ≤ c ∧ c ≤ 'F' then some (c.toNat - 55)
    else none

def octalDigit? : CodePoint → Option Nat
  | .surrogate _ => none
  | .scalar c => if '0' ≤ c ∧ c ≤ '7' then some (c.toNat - 48) else none

def valueOf (base : Nat) (digits : List Nat) : Nat := digits.foldl (fun n d => n * base + d) 0

def leading (digit? : CodePoint → Option Nat) : Nat → Text → List Nat
  | 0, _ => []
  | _, [] => []
  | count + 1, p :: rest =>
    match digit? p with
    | some d => d :: leading digit? count rest
    | none => []

def hex? (count : Nat) (t : Text) : Option Nat :=
  let digits := leading hexDigit? count t
  if digits.length = count then some (valueOf 16 digits) else none

def braced? (t : Text) : Option (Nat × Nat) :=
  let digits := leading hexDigit? t.length t
  if digits ≠ [] ∧ t[digits.length]? = some (.scalar '\x7d') then
    some (valueOf 16 digits, digits.length)
  else none

/-- What a backslash before one code point means: a control, a line continuation, or the code
point itself. -/
def simple (p : CodePoint) : Text :=
  match p with
  | .scalar 'n' => ['\n']
  | .scalar 't' => ['\t']
  | .scalar 'r' => ['\r']
  | .scalar 'b' => ['\x08']
  | .scalar 'f' => ['\x0C']
  | .scalar 'v' => ['\x0B']
  | .scalar '\n' => []
  | .scalar '\r' => []
  | .scalar '\u2028' => []
  | .scalar '\u2029' => []
  | p => [p]

/-- The longest escape in base 16 behind a backslash: what it stands for, and how many code points
it takes. A number above U+10FFFF stands for its own source text. -/
def hexEscape? : Text → Option (Text × Nat)
  | .scalar 'u' :: rest =>
    let braces := match rest with
      | .scalar '\x7b' :: digits =>
        (braced? digits).map fun (value, count) =>
          let length := count + 3
          match CodePoint.ofNat? value with
          | some p => ([p], length)
          | none => (.scalar '\\' :: .scalar 'u' :: rest.take (count + 2), length)
      | _ => none
    match braces with
    | some found => some found
    | none => (hex? 4 rest).map fun value => ((CodePoint.ofNat? value).toList, 5)
  | .scalar 'x' :: rest => (hex? 2 rest).map fun value => ((CodePoint.ofNat? value).toList, 3)
  | _ => none

/-- What an escape stands for, given what follows its backslash, and how many code points it takes
there. Nothing follows a backslash at the end of the text. -/
def escape? (t : Text) : Option (Text × Nat) :=
  match t with
  | [] => none
  | p :: rest =>
    match hexEscape? t with
    | some found => some found
    | none =>
      let octal := leading octalDigit? 3 t
      if octal ≠ [] then some ((CodePoint.ofNat? (valueOf 8 octal)).toList, octal.length)
      else if p = .scalar '\r' ∧ rest.head? = some (.scalar '\n') then some ([], 2)
      else some (simple p, 1)

/-- The text with its escapes decoded, after `skip` code points that are already read. -/
def decodeAfter : Nat → Text → Text
  | _, [] => []
  | skip + 1, _ :: rest => decodeAfter skip rest
  | 0, p :: rest =>
    if p = .scalar '\\' then
      match escape? rest with
      | some (value, length) => value ++ decodeAfter length rest
      | none => p :: decodeAfter 0 rest
    else p :: decodeAfter 0 rest

def decode (body : Text) : Text := decodeAfter 0 body

end StateCoverage.Escape
