import StateCoverage.Text.Binary64
import StateCoverage.Text.Quoted

/-!
Data without a schema, as documents and environment variables hold it, and how messages show it.
-/
namespace StateCoverage

structure Day where
  year : Nat
  month : Nat
  day : Nat
deriving DecidableEq

/-- A time of day, with the minutes by which its zone is ahead of universal time. -/
structure Clock where
  hour : Nat
  minute : Nat
  second : Nat
  microsecond : Nat
  zone : Option Int
deriving DecidableEq

/-- A value without a schema. -/
inductive Data where
  | null
  | bool (b : Bool)
  | int (n : Int)
  | float (x : Binary64)
  | string (s : Text)
  | date (day : Day)
  | instant (day : Day) (clock : Clock)
  | list (items : List Data)
  /-- Keys with values in the order of the keys' first writing. -/
  | map (entries : List (Data × Data))

instance : Inhabited Data := ⟨.null⟩

namespace Data

def record (fields : List (Text × Data)) : Data :=
  map (fields.map fun (name, value) => (string name, value))

def fields : List (Data × Data) → List (Text × Data)
  | [] => []
  | (string name, value) :: rest => (name, value) :: fields rest
  | _ :: rest => fields rest

def field? (name : Text) : Data → Option Data
  | map entries => (fields entries).lookup name
  | _ => none

end Data

def paddedDecimal (width n : Nat) : Text :=
  let digits := Nat.toDigits 10 n
  (List.replicate (width - digits.length) '0' ++ digits).map .scalar

namespace Day

def shown (d : Day) : Text :=
  paddedDecimal 4 d.year ++ text "-" ++ paddedDecimal 2 d.month ++ text "-" ++ paddedDecimal 2 d.day

def parts (d : Day) : List Text := [d.year, d.month, d.day].map Text.ofNat

end Day

namespace Clock

def shownZone (minutes : Int) : Text :=
  text (if minutes < 0 then "-" else "+") ++ paddedDecimal 2 (minutes.natAbs / 60) ++ text ":"
    ++ paddedDecimal 2 (minutes.natAbs % 60)

def shown (c : Clock) : Text :=
  Text.join (text ":") ([c.hour, c.minute, c.second].map (paddedDecimal 2))
    ++ (if c.microsecond = 0 then [] else text "." ++ paddedDecimal 6 c.microsecond)
    ++ (match c.zone with
      | some minutes => shownZone minutes
      | none => [])

/-- The zone as it is listed: a distance of days and seconds, the seconds never negative. -/
def listedZone (minutes : Int) : Text :=
  if minutes = 0 then text "datetime.timezone.utc"
  else
    let days := minutes.fdiv 1440
    let seconds := (minutes.fmod 1440).toNat * 60
    let parts := (if days = 0 then [] else [text "days=" ++ text (toString days)])
      ++ (if seconds = 0 then [] else [text "seconds=" ++ Text.ofNat seconds])
    text "datetime.timezone(datetime.timedelta(" ++ Text.join (text ", ") parts ++ text "))"

def parts (c : Clock) : List Text :=
  let fraction := if c.microsecond = 0 then [] else [c.microsecond]
  let seconds := if c.second = 0 ∧ c.microsecond = 0 then [] else c.second :: fraction
  ([c.hour, c.minute] ++ seconds).map Text.ofNat
    ++ (match c.zone with
      | some minutes => [text "tzinfo=" ++ listedZone minutes]
      | none => [])

end Clock

namespace Data

mutual

def listed : Data → Text
  | null => text "None"
  | bool true => text "True"
  | bool false => text "False"
  | int n => text (toString n)
  | float x => x.render
  | string s => s.quoted
  | date day => text "datetime.date(" ++ Text.join (text ", ") day.parts ++ text ")"
  | instant day clock =>
    text "datetime.datetime(" ++ Text.join (text ", ") (day.parts ++ clock.parts) ++ text ")"
  | list items => text "[" ++ Text.join (text ", ") (listedAll items) ++ text "]"
  | map entries => text "\x7b" ++ Text.join (text ", ") (listedEntries entries) ++ text "\x7d"

def listedAll : List Data → List Text
  | [] => []
  | item :: rest => listed item :: listedAll rest

def listedEntries : List (Data × Data) → List Text
  | [] => []
  | (key, value) :: rest => (listed key ++ text ": " ++ listed value) :: listedEntries rest

end

def shown : Data → Text
  | string s => s
  | date day => day.shown
  | instant day clock => day.shown ++ text " " ++ clock.shown
  | value => listed value

end Data

end StateCoverage
