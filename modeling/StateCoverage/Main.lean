import StateCoverage.Command.Clock
import StateCoverage.Command.Run
import Std.Time.DateTime.Timestamp

/-!
The command: looks at what a run asks for, and carries out what the run leaves behind.
-/
namespace StateCoverage.Command

def fileEntry (real : Text) (bytes : IO ByteArray) : IO FileEntry := do
  match ← bytes.toBaseIO with
  | .ok bytes => return .file real (.ok bytes.toList)
  | .error e =>
    let reason := text (toString e)
    match e with
    | .permissionDenied .. => return .denied real reason
    | _ => return .file real (.error reason)

def look (path : Text) : IO FileEntry := do
  match path.toString? with
  | none | some "" => return .missing
  | some name =>
    try
      let real ← IO.FS.realPath name
      if ← real.isDir then return .directory
      fileEntry (text real.toString) (IO.FS.readBinFile name)
    catch _ => return .missing

def recordsOf (name : String) (stop : Char) : IO (List Text) := do
  try return (Utf8.decodeText (← IO.FS.readBinFile name).toList).cut stop catch _ => return []

def environmentVars : IO (List (Text × Text)) := do
  return (← recordsOf "/proc/self/environ" '\x00').filterMap fun entry =>
    let name := entry.takeWhile (· ≠ .scalar '=')
    if name.length < entry.length then some (name, entry.drop (name.length + 1)) else none

def homes : IO (List (Text × Text)) := do
  return (← recordsOf "/etc/passwd" '\n').filterMap fun entry =>
    match entry.cut ':' with
    | name :: _ :: _ :: _ :: _ :: home :: _ => some (name, home)
    | _ => none

/-- Runs again with what is at the paths that a run looked at, until there is no new one. -/
partial def settle (w : World) (arguments : List Text) (known : Bindings FileEntry) :
    IO Outcome := do
  let seen := { w with entry path := (Bindings.valueOf? path known).getD .missing }
  let outcome := run seen arguments
  let fresh := outcome.consulted.eraseDups.filter fun path => (Bindings.valueOf? path known).isNone
  if fresh = [] then return outcome
  let found ← fresh.mapM fun path => return (path, ← look path)
  settle w arguments (found ++ known)

def toBytes (t : Text) : ByteArray := ⟨(Utf8.encode (t.map fun p => p.toChar?.getD '?')).toArray⟩

def append (path content : Text) : IO Unit := do
  let some name := path.toString? | return
  if let some parent := (Path.parent path).toString? then
    if parent ≠ "" then IO.FS.createDirAll parent
  IO.FS.withFile name .append fun h => h.write (toBytes content)

def openLogs : List Text → IO (Option (Text × Text))
  | [] => return none
  | path :: rest => do
    try append path [] catch e => return some (path, text (toString e))
    openLogs rest

end StateCoverage.Command

open StateCoverage StateCoverage.Command in
def main (arguments : List String) : IO UInt32 := do
  let vars ← environmentVars
  let homes ← homes
  let home (user : Text) : Option Text :=
    if user = [] then Bindings.valueOf? (text "HOME") vars else Bindings.valueOf? user homes
  let cwd ← IO.FS.realPath "."
  let seconds := (← Std.Time.Timestamp.now).toSecondsSinceUnixEpoch.val.toNat
  let w : World :=
    { cwd := text cwd.toString, entry _ := .missing, surroundings := ⟨vars, home⟩,
      time := timeText seconds }
  let arguments := arguments.map text
  let outcome ← settle w arguments []
  let outcome ← match ← openLogs (outcome.logs.map (·.1)) with
    | none => pure outcome
    | some (path, reason) =>
      settle { w with logFault other := if other = path then some reason else none } arguments []
  (← IO.getStdout).write (toBytes outcome.stdout)
  (← IO.getStderr).write (toBytes outcome.stderr)
  for (path, content) in outcome.logs do append path content
  if outcome.unhandled.isSome then IO.eprintln "The run was broken off by an unhandled error."
  return outcome.exitCode.toUInt32
