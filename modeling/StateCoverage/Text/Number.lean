import StateCoverage.Text.Binary64
import StateCoverage.Text.Blank
import StateCoverage.Text.DecimalDigit

/-!
Reading a number in decimal notation: blanks around it, a sign, digits of any script, underscores
between digits, a point, an exponent; or a word for infinity or for no number.
-/
namespace StateCoverage.Number

/-- A code point as ASCII, where it means the same as an ASCII character in a number. -/
def plain (p : CodePoint) : Option Char :=
  match p with
  | .scalar c =>
    if c.toNat < 127 then some c
    else if p.isBlank then some ' '
    else p.decimal?.map fun d => Char.ofNat (48 + d)
  | .surrogate _ => none

def isMargin (c : Char) : Bool := c = ' ' || (9 ≤ c.toNat && c.toNat ≤ 13)

def trim (cs : List Char) : List Char :=
  ((cs.dropWhile isMargin).reverse.dropWhile isMargin).reverse

/-- The characters without underscores, each of which must stand between two digits. -/
def dropUnderscores : Option Char → List Char → Option (List Char)
  | _, [] => some []
  | before, '_' :: c :: rest =>
    if before.any Char.isDigit ∧ c.isDigit then (dropUnderscores (some c) rest).map (c :: ·)
    else none
  | _, '_' :: [] => none
  | _, c :: rest => (dropUnderscores (some c) rest).map (c :: ·)

def valueOf (digits : List Char) : Nat := digits.foldl (fun n c => n * 10 + (c.toNat - 48)) 0

def exponent? : List Char → Option Int
  | [] => some 0
  | c :: rest =>
    if c = 'e' ∨ c = 'E' then
      let (negative, digits) := match rest with
        | '-' :: digits => (true, digits)
        | '+' :: digits => (false, digits)
        | digits => (false, digits)
      if digits ≠ [] ∧ digits.all Char.isDigit then
        some (if negative then -(valueOf digits : Int) else valueOf digits)
      else none
    else none

def unsigned? (negative : Bool) (cs : List Char) : Option Binary64 :=
  let word := String.ofList (cs.map Char.toLower)
  if word = "inf" ∨ word = "infinity" then some (.number negative .infinite)
  else if word = "nan" then some .notANumber
  else
    let whole := cs.takeWhile Char.isDigit
    let rest := cs.drop whole.length
    let (places, rest) := match rest with
      | '.' :: rest => (rest.takeWhile Char.isDigit, rest.dropWhile Char.isDigit)
      | _ => ([], rest)
    if whole = [] ∧ places = [] then none
    else (exponent? rest).map fun power =>
      .ofDecimal negative (valueOf (whole ++ places)) (power - places.length)

def read? (t : Text) : Option Binary64 := do
  let cs ← dropUnderscores none (trim (← t.mapM plain))
  match cs with
  | '-' :: rest => unsigned? true rest
  | '+' :: rest => unsigned? false rest
  | _ => unsigned? false cs

end StateCoverage.Number
