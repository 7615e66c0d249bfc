import StateCoverage.Config.Basic
import StateCoverage.Json.Writer

/-!
How events are written: to each output that takes their level, in its format. All events are of the
level for debugging.
-/
namespace StateCoverage

namespace Event

def consoleLine (time : Text) (e : Event) : Text :=
  let isBefore (a b : String × Data) : Bool := !(b.1 < a.1)
  let said := (e.fields.mergeSort isBefore).flatMap fun (name, value) =>
    text (" " ++ name ++ "=") ++ value.shown
  time ++ text " [debug] " ++ text e.name ++ said ++ text "\n"

def jsonLine (time : Text) (e : Event) : Text :=
  let own := [("event", Data.string (text e.name)),
    ("level", .string (text "debug")), ("timestamp", .string time)]
  Json.compact (.record ((e.fields ++ own).map fun (name, value) => (text name, value)))
    ++ text "\n"

end Event

namespace LogOutput

def takesDebug (level : LogLevel) (o : LogOutput) : Bool :=
  level = .debug && (o.level.getD level).rank ≤ LogLevel.debug.rank

def written (level : LogLevel) (time : Text) (events : List Event) (o : LogOutput) : Text :=
  if o.takesDebug level then
    events.flatMap fun e =>
      match o.format with
      | .json => e.jsonLine time
      | .console => e.consoleLine time
  else []

end LogOutput

end StateCoverage
