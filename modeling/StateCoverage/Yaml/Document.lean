import StateCoverage.Data.Entries
import StateCoverage.Text.Number
import StateCoverage.Yaml.Node

/-!
The values of documents. The type of a plain scalar follows from its spelling: words for truth
values and for nothing, numbers in several bases, days and times; all else is text.
-/
namespace StateCoverage.Yaml

/-! ### Spellings -/

def truthWords : List (String × Bool) :=
  [("yes", true), ("true", true), ("on", true), ("no", false), ("false", false), ("off", false)]

def uniformCase? (cs : List Char) : Option String :=
  let lower := cs.map Char.toLower
  let upper := cs.map Char.toUpper
  if cs = lower ∨ cs = upper ∨ cs = upper.take 1 ++ lower.drop 1 then some (String.ofList lower)
  else none

def truth? (cs : List Char) : Option Bool :=
  (uniformCase? cs).bind fun word => truthWords.lookup word

def isNull (cs : List Char) : Bool := cs = [] || cs = ['~'] || uniformCase? cs = some "null"

def signed (cs : List Char) : Bool × List Char :=
  match cs with
  | '-' :: rest => (true, rest)
  | '+' :: rest => (false, rest)
  | _ => (false, cs)

def digitValue (c : Char) : Nat :=
  if c.isDigit then c.toNat - 48 else if c.isUpper then c.toNat - 55 else c.toNat - 87

def valueIn (base : Nat) (cs : List Char) : Nat :=
  (cs.filter (· ≠ '_')).foldl (fun n c => n * base + digitValue c) 0

/-- The parts between colons, each later one a number below 60: a number in base 60. -/
def sixties? (cs : List Char) : Option (List (List Char)) :=
  let part (cs : List Char) (found : List Char × List (List Char)) (c : Char) :
      List Char × List (List Char) :=
    if c = ':' then ([], (cs ++ found.1) :: found.2) else (c :: found.1, found.2)
  let (first, rest) := cs.foldr (fun c found => part [] found c) ([], [])
  let isLater (part : List Char) : Bool :=
    match part with
    | [c] => c.isDigit
    | [c, d] => '0' ≤ c && c ≤ '5' && d.isDigit
    | _ => false
  if rest ≠ [] ∧ rest.all isLater then some (first :: rest) else none

def isDigitOr (c : Char) : Bool := c.isDigit || c = '_'

def natural? (cs : List Char) : Option Nat :=
  match cs with
  | '0' :: 'b' :: digits =>
    if digits ≠ [] ∧ digits.all fun c => c = '0' || c = '1' || c = '_' then
      some (valueIn 2 digits)
    else none
  | '0' :: 'x' :: digits =>
    if digits ≠ [] ∧ digits.all fun c => isDigitOr c || ('a' ≤ c && c ≤ 'f')
        || ('A' ≤ c && c ≤ 'F') then
      some (valueIn 16 digits)
    else none
  | ['0'] => some 0
  | '0' :: digits =>
    if digits.all fun c => ('0' ≤ c && c ≤ '7') || c = '_' then
      some (valueIn 8 digits)
    else none
  | c :: rest =>
    if c.isDigit then
      if rest.all isDigitOr then some (valueIn 10 cs)
      else
        match sixties? cs with
        | some (first :: later) =>
          if first.all isDigitOr then
            some (later.foldl (fun n part => n * 60 + valueIn 10 part) (valueIn 10 first))
          else none
        | _ => none
    else none
  | [] => none

def int? (cs : List Char) : Option Int :=
  let (negative, digits) := signed cs
  (natural? digits).map fun n => if negative then -(n : Int) else n

def exponent? (cs : List Char) : Option Int :=
  match cs with
  | [] => some 0
  | c :: sign :: digits =>
    if (c = 'e' ∨ c = 'E') ∧ (sign = '+' ∨ sign = '-') ∧ digits ≠ [] ∧ digits.all Char.isDigit then
      some (if sign = '-' then -(valueIn 10 digits : Int) else valueIn 10 digits)
    else none
  | _ => none

def pointed? (negative wasSigned : Bool) (cs : List Char) : Option Binary64 :=
  let whole := cs.takeWhile isDigitOr
  let later := cs.drop whole.length
  match later with
  | '.' :: rest =>
    let places := rest.takeWhile isDigitOr
    let startsWell := match whole with
      | [] => !wasSigned && places.head?.any Char.isDigit
      | c :: _ => c.isDigit
    if startsWell then
      (exponent? (rest.drop places.length)).map fun power =>
        .ofDecimal negative (valueIn 10 (whole ++ places))
          (power - (places.filter (· ≠ '_')).length)
    else none
  | _ => none

def sixtiesPointed? (negative : Bool) (cs : List Char) : Option Binary64 :=
  let whole := cs.takeWhile (· ≠ '.')
  match cs.drop whole.length with
  | '.' :: places =>
    match sixties? whole with
    | some (first :: later) =>
      if first.head?.any Char.isDigit ∧ first.all isDigitOr ∧ places.all isDigitOr then
        let n := later.foldl (fun n part => n * 60 + valueIn 10 part) (valueIn 10 first)
        let kept := places.filter (· ≠ '_')
        some (.ofDecimal negative (n * tenTo kept.length + valueIn 10 kept) (-(kept.length : Int)))
      else none
    | _ => none
  | _ => none

def float? (cs : List Char) : Option Binary64 :=
  let (negative, digits) := signed cs
  let wasSigned := digits.length < cs.length
  match digits with
  | '.' :: word =>
    if uniformCase? word = some "inf" then some (.number negative .infinite)
    else if !wasSigned ∧ ["nan", "NaN", "NAN"].elem (String.ofList word) then some .notANumber
    else pointed? negative wasSigned digits
  | _ => (pointed? negative wasSigned digits).orElse fun _ => sixtiesPointed? negative digits

def digits? (least most : Nat) (cs : List Char) : Option (Nat × List Char) :=
  let found := (cs.take most).takeWhile Char.isDigit
  if least ≤ found.length then some (valueIn 10 found, cs.drop found.length) else none

def literal? (c : Char) : List Char → Option (List Char)
  | d :: rest => if c = d then some rest else none
  | [] => none

def skipBlanks (cs : List Char) : List Char := cs.dropWhile fun c => c = ' ' || c = '\t'

def isLeapYear (year : Nat) : Bool := year % 4 = 0 && (year % 100 ≠ 0 || year % 400 = 0)

def daysIn (year month : Nat) : Nat :=
  if month = 2 then (if isLeapYear year then 29 else 28)
  else if [4, 6, 9, 11].elem month then 30
  else 31

def Day.isReal (d : Day) : Bool :=
  1 ≤ d.year && 1 ≤ d.month && d.month ≤ 12 && 1 ≤ d.day && d.day ≤ daysIn d.year d.month

def Clock.isReal (c : Clock) : Bool :=
  c.hour < 24 && c.minute < 60 && c.second < 60 && c.zone.all fun minutes => minutes.natAbs < 1440

def zone? (cs : List Char) : Option (Option Int) :=
  match skipBlanks cs with
  | [] => if cs = [] then some none else none
  | ['Z'] => some (some 0)
  | sign :: rest => do
    if sign ≠ '+' ∧ sign ≠ '-' then none
    else
      let (hours, rest) ← digits? 1 2 rest
      let minutes ← match rest with
        | [] => some 0
        | ':' :: rest => do
          let (minutes, rest) ← digits? 2 2 rest
          if rest = [] then some minutes else none
        | _ => none
      let distance : Int := hours * 60 + minutes
      return some (if sign = '-' then -distance else distance)

def clock? (cs : List Char) : Option Clock := do
  let rest ← match cs with
    | 'T' :: rest | 't' :: rest => some rest
    | ' ' :: rest | '\t' :: rest => some (skipBlanks rest)
    | _ => none
  let (hour, rest) ← digits? 1 2 rest
  let (minute, rest) ← digits? 2 2 (← literal? ':' rest)
  let (second, rest) ← digits? 2 2 (← literal? ':' rest)
  let (fraction, rest) := match rest with
    | '.' :: rest => (rest.takeWhile Char.isDigit, rest.dropWhile Char.isDigit)
    | _ => ([], rest)
  let zone ← zone? rest
  let kept := fraction.take 6
  return ⟨hour, minute, second, valueIn 10 (kept ++ List.replicate (6 - kept.length) '0'), zone⟩

/-- A day, or a day and a time, as they are written; the calendar need not have them. -/
def time? (cs : List Char) : Option (Day × Option Clock) := do
  let (year, rest) ← digits? 4 4 cs
  let (month, rest) ← digits? 1 2 (← literal? '-' rest)
  let (day, behind) ← digits? 1 2 (← literal? '-' rest)
  if behind = [] then return (⟨year, month, day⟩, none)
  else return (⟨year, month, day⟩, some (← clock? behind))

/-! ### Values -/

def tagOf (name : String) : Option Text := some (Node.standardTags ++ text name)

inductive Unconvertible where
  | noNumber (content : Text)
  | noTruth (content : Text)
  | noTime (content : Text)
  /-- A day or a time that the calendar does not have. -/
  | unrealTime (content : Text)

inductive Fault where
  /-- It is not written in the language, or a tag or a key cannot stand where it stands. -/
  | malformed
  /-- It is well-formed, but a scalar has no value. -/
  | unconvertible (cause : Unconvertible)

def realTime (content : Text) : Day × Option Clock → Except Fault Data
  | (day, clock) =>
    if Day.isReal day && clock.all Clock.isReal then
      .ok (match clock with
        | some clock => .instant day clock
        | none => .date day)
    else .error (.unconvertible (.unrealTime content))

/-- Digits in base 2 or 16 of which nothing is left without the underscores. -/
def lacksDigits (cs : List Char) : Bool :=
  match (signed cs).2 with
  | '0' :: c :: digits => (c = 'b' || c = 'x') && digits.all (· = '_')
  | _ => false

/-- The value of a plain scalar without a tag. `<<` and `=` are no values, and a day alone has its
type only when it is written with two digits each. -/
def ofPlain (content : Text) : Except Fault Data :=
  match content.mapM CodePoint.toChar? with
  | none => .ok (.string content)
  | some cs =>
    if isNull cs then .ok .null
    else if cs = ['<', '<'] ∨ cs = ['='] then .error .malformed
    else
      match truth? cs, float? cs, int? cs, time? cs with
      | some b, _, _, _ => .ok (.bool b)
      | _, some x, _, _ => .ok (.float x)
      | _, _, some n, _ =>
        if lacksDigits cs then .error (.unconvertible (.noNumber content)) else .ok (.int n)
      | _, _, _, some (day, clock) =>
        if clock.isSome || cs.length = 10 then realTime content (day, clock)
        else .ok (.string content)
      | _, _, _, _ => .ok (.string content)

/-- The value of a scalar whose tag names its type. Binary data is not read. -/
def ofTagged (tag content : Text) : Except Fault Data :=
  let cs := content.filterMap CodePoint.toChar?
  let lower := String.ofList (cs.map Char.toLower)
  let orFault (cause : Unconvertible) : Option Data → Except Fault Data
    | some value => .ok value
    | none => .error (.unconvertible cause)
  if some tag = tagOf "str" then .ok (.string content)
  else if some tag = tagOf "null" then .ok .null
  else if some tag = tagOf "bool" then
    orFault (.noTruth content) ((truthWords.lookup lower).map .bool)
  else if some tag = tagOf "int" then
    orFault (.noNumber content) (if lacksDigits cs then none else (int? cs).map .int)
  else if some tag = tagOf "float" then
    orFault (.noNumber content)
      (((float? cs).orElse fun _ => Number.read? (content.filter (· ≠ .scalar '_'))).map .float)
  else if some tag = tagOf "timestamp" then
    match time? cs with
    | some found => realTime content found
    | none => .error (.unconvertible (.noTime content))
  else .error .malformed

def isKey : Data → Bool
  | .list _ | .map _ => false
  | _ => true

namespace Node

def isMerge : Node → Bool
  | scalar none true content => content = text "<<"
  | scalar (some tag) _ _ => some tag = tagOf "merge"
  | _ => false

def isEqualSign : Node → Bool
  | scalar none true content => content = text "="
  | _ => false

mutual

/-- The entries of a mapping with what it merges: entries merged from elsewhere come first, of
several mappings the last one first, so that later ones are stronger. -/
def entries? : Nat → List (Node × Node) → Option (List (Node × Node))
  | 0, _ => none
  | fuel + 1, list => do
    let merged ← mergedEntries? fuel (list.filter (·.1.isMerge))
    return merged ++ list.filter (!·.1.isMerge)

def mergedEntries? : Nat → List (Node × Node) → Option (List (Node × Node))
  | 0, _ => none
  | _, [] => some []
  | fuel + 1, (_, source) :: rest => do
    let first ← match source with
      | mapping _ list => entries? fuel list
      | sequence _ items => sourceEntries? fuel items.reverse
      | _ => none
    return first ++ (← mergedEntries? fuel rest)

def sourceEntries? : Nat → List Node → Option (List (Node × Node))
  | 0, _ => none
  | _, [] => some []
  | fuel + 1, mapping _ list :: rest => do
    return (← entries? fuel list) ++ (← sourceEntries? fuel rest)
  | _, _ => none

end

mutual

def value? : Nat → Node → Option Data
  | 0, _ => none
  | fuel + 1, t =>
    match t with
    | scalar none true content => (ofPlain content).toOption
    | scalar none false content => some (.string content)
    | scalar (some tag) _ content => (ofTagged tag content).toOption
    | sequence tag items =>
      if tag = none ∨ tag = tagOf "seq" then (values? fuel items).map .list else none
    | mapping tag list =>
      if tag = none ∨ tag = tagOf "map" then
        match entries? fuel list with
        | some list => (record? fuel [] list).map .map
        | none => none
      else none

def values? : Nat → List Node → Option (List Data)
  | 0, _ => none
  | _, [] => some []
  | fuel + 1, t :: rest => do
    let first ← value? fuel t
    return first :: (← values? fuel rest)

def record? : Nat → List (Data × Data) → List (Node × Node) → Option (List (Data × Data))
  | 0, _, _ => none
  | _, found, [] => some found
  | fuel + 1, found, (key, value) :: rest => do
    let key ← if key.isEqualSign then some (.string (text "=")) else value? fuel key
    if isKey key then
      let value ← value? fuel value
      record? fuel (Data.putEntry key value found) rest
    else none

end

def isCollection : Node → Bool
  | scalar none .. => false
  | scalar tag .. => tag = tagOf "seq" || tag = tagOf "map"
  | _ => true

def ownFault? : Node → Option Fault
  | scalar none plain content =>
    match if plain then ofPlain content else .ok (.string content) with
    | .ok _ => none
    | .error e => some e
  | scalar (some tag) plain content =>
    if isCollection (scalar (some tag) plain content) then none
    else
      match ofTagged tag content with
      | .ok _ => none
      | .error e => some e
  | sequence tag _ =>
    if tag = none ∨ tag = tagOf "seq" ∨ tag = tagOf "map" then none else some .malformed
  | mapping tag _ =>
    if tag = none ∨ tag = tagOf "seq" ∨ tag = tagOf "map" then none else some .malformed

/-- The members of a collection in the order in which they are built, each with whether it is a key.
A collection of the other kind than its tag says has none. -/
def members? (fuel : Nat) : Node → Option (List (Bool × Node))
  | sequence tag items => if tag = tagOf "map" then none else some (items.map (false, ·))
  | mapping tag list =>
    if tag = tagOf "seq" then none
    else (entries? fuel list).map fun list => list.flatMap fun (key, value) =>
        [(true, key), (false, value)]
  | scalar .. => none

def memberFault? : Bool × Node → Option Fault
  | (asKey, t) =>
    if asKey && t.isEqualSign then none
    else t.ownFault?.or (if asKey && t.isCollection then some .malformed else none)

/-- The first fault among the members of some collections. The members of one collection are built
before those of the collections among them, so a fault further up comes first. -/
def faultAmong? : Nat → List Node → Option Fault
  | 0, _ => none
  | _, [] => none
  | fuel + 1, t :: later =>
    match t.members? fuel with
    | none => some .malformed
    | some members =>
      (members.findSome? memberFault?).or
        (faultAmong? fuel (later ++ (members.map (·.2)).filter isCollection))

def fault? (fuel : Nat) (t : Node) : Option Fault :=
  t.ownFault?.or (if t.isCollection then faultAmong? fuel [t] else none)

end Node

/-- The value of a document, or its first fault: those of its form, then those of its scalars. An
empty document is null. -/
def read (cs : List Char) : Except Fault Data :=
  match (Token.all? cs).bind Node.ofTokens? with
  | none => .error .malformed
  | some none => .ok .null
  | some (some root) =>
    let fuel := cs.length * cs.length + 64
    match root.fault? fuel, root.value? fuel with
    | some fault, _ => .error fault
    | none, some value => .ok value
    | none, none => .error .malformed

end StateCoverage.Yaml
