import StateCoverage.Command.Help
import StateCoverage.Command.Listing
import StateCoverage.Command.Log
import StateCoverage.Config.Layers

/-!
A run of the command, as a function of what it is given and of the files it looks at. An error that
the command does not handle breaks the run off: it exits with 1, and what the run time prints about
the error is not part of the outcome. Left out: directories that are made for log files, and writes
to an open log that fail.
-/
namespace StateCoverage.Command

inductive FileEntry where
  | missing
  | directory
  /-- A file that may not be read, and what an attempt gives as the reason. -/
  | denied (path reason : Text)
  /-- A file that may be read, with its absolute path free of links, and its bytes or why reading
  them fails. -/
  | file (path : Text) (bytes : Except Text (List UInt8))

/-- What opening gives where a file is: its path, and its bytes or why there are none. -/
def FileEntry.opened? : FileEntry → Option (Text × Config.Opened)
  | missing | directory => none
  | denied path reason => some (path, .error reason)
  | file path bytes => some (path, bytes)

structure World where
  cwd : Text
  entry : Text → FileEntry
  surroundings : Surroundings
  /-- The time that events are marked with. -/
  time : Text
  /-- Why a log file cannot be opened. -/
  logFault : Text → Option Text := fun _ => none

namespace World

def contents (w : World) (path : Text) : Option Config.Opened := (w.entry path).opened?.map (·.2)

def isFile (w : World) (path : Text) : Bool := (w.entry path).opened?.isSome

def read (w : World) (path : Text) : Except Text Text :=
  match w.contents path with
  | none => .error (text "no such file")
  | some (.error reason) => .error reason
  | some (.ok bytes) =>
    match Utf8.decodeStrict 0 bytes with
    | .ok cs => .ok ((Layers.plainLines cs).map .scalar)
    | .error fault => .error (text (Utf8.faultMessage fault))

def access (w : World) : FileAccess := ⟨w.isFile, w.read, w.cwd⟩

def realPath (w : World) (path : Text) : Text :=
  ((w.entry path).opened?.map (·.1)).getD (Path.absolute w.cwd path)

end World

inductive Unhandled where
  | loading (cause : LoadError)
  | openingLog (path reason : Text)
  | namelessAttribute

inductive Failure where
  | said (message : Text)
  | unhandled (cause : Unhandled)

namespace Failure

/-- Only errors of the configuration itself are handled. -/
def ofLoad : LoadError → Failure
  | .config cause => said cause.report.message
  | cause => unhandled (.loading cause)

def ofCoverage : CoverageError → Failure
  | .resolution cause => said cause.report.message
  | .namelessAttribute => unhandled .namelessAttribute

def shown : Failure → Text
  | said message => text "Error: " ++ message ++ text "\n"
  | unhandled _ => []

def unhandled? : Failure → Option Unhandled
  | said _ => none
  | unhandled cause => some cause

end Failure

structure Outcome where
  exitCode : Nat := 0
  stdout : Text := []
  stderr : Text := []
  /-- The error that broke the run off. -/
  unhandled : Option Unhandled := none
  /-- What is added to each log file. A file is made even if nothing is added. -/
  logs : List (Text × Text) := []
  /-- The paths that the run looked at. -/
  consulted : List Text := []

namespace Outcome

def print (t : Text) (o : Outcome) : Outcome := { o with stdout := o.stdout ++ t }

def consult (paths : List Text) (o : Outcome) : Outcome :=
  { o with consulted := o.consulted ++ paths }

def fail (cause : Failure) (o : Outcome) : Outcome :=
  { o with exitCode := 1, stderr := o.stderr ++ cause.shown, unhandled := cause.unhandled? }

def write (destination content : Text) (o : Outcome) : Outcome :=
  if destination = text "stdout" then { o with stdout := o.stdout ++ content }
  else if destination = text "stderr" then { o with stderr := o.stderr ++ content }
  else
    let before := (Bindings.valueOf? destination o.logs).getD []
    { o with logs := Bindings.put destination (before ++ content) o.logs }

def report (logging : LoggingOptions) (time : Text) (events : List Event) (o : Outcome) : Outcome :=
  events.foldl (fun o e => logging.outputs.foldl (fun o output =>
    o.write output.destination (output.written logging.level time [e])) o) o

def openOutputs (outputs : List LogOutput) (o : Outcome) : Outcome :=
  outputs.foldl (fun o output => o.write output.destination []) o

end Outcome

def outputFault? (w : World) (output : LogOutput) : Option Unhandled :=
  if output.destination = text "stdout" ∨ output.destination = text "stderr" then none
  else (w.logFault output.destination).map (.openingLog output.destination)

def pathFault? (w : World) (path : Text) : Option UsageFault :=
  match w.entry path with
  | .missing => some (.noSuchFile path)
  | .directory => some (.isDirectory path)
  | .denied .. => some (.isUnreadable path)
  | .file .. => none

/-- What is wrong with the configuration file of a request. It may be missing for now. -/
def configFault? (w : World) (path : Text) : Option UsageFault :=
  match w.entry path with
  | .directory => some (.configIsDirectory path)
  | .denied .. => some (.configIsUnreadable path)
  | .missing | .file .. => none

def requestFault? (w : World) (r : Request) : Option UsageFault :=
  (r.config.bind (configFault? w)).or <|
    if r.paths = [] then some .noPaths else r.paths.findSome? (pathFault? w)

def loadConfig (w : World) (r : Request) : Except LoadError Config :=
  Config.load w.contents w.cwd (r.config.map Path.tidy) w.surroundings []

def Request.adjust (r : Request) (c : Config) : Config where
  logging := if r.verbose then { c.logging with level := .debug } else c.logging
  resolver := if r.noImports then { c.resolver with followImports := false } else c.resolver

def findings (action : Action) (access : FileAccess) (options : ResolverOptions)
    (path content : Text) (s : Session) : Except CoverageError (List Finding) × Session :=
  match action with
  | .resolve =>
    let (found, s) :=
      Coverage.ofText (ParsedFile.classAttributes access options path) path content s
    (found.map (·.map .classes), s)
  | .elements =>
    let (found, s) :=
      Coverage.ofText (ParsedFile.interactiveElements access options path) path content s
    (found.map (·.map .element), s)

def readComponent (w : World) (action : Action) (options : ResolverOptions) (path : Text)
    (s : Session) : Except Failure (List Finding) × Session :=
  match w.read path with
  | .error reason =>
    (.error (.said (text "Cannot read " ++ Path.tidy path ++ text ": " ++ reason)), s)
  | .ok content =>
    let (found, s) := findings action w.access options (w.realPath path) content s
    (found.mapError .ofCoverage, s)

/-- Reads the component files of a request in turn. The findings are printed file by file, unless
they are kept for one list of records at the end. -/
def readComponents (w : World) (r : Request) (c : Config) :
    List Text → List Data → Session → Outcome → Outcome
  | [], records, _, o =>
    if r.asJson then o.print (Json.pretty (.list records) ++ text "\n") else o
  | path :: rest, records, s, o =>
    let (found, s) :=
      readComponent w r.action c.resolver path { s with events := [], probes := [], reads := [] }
    let o := (o.consult (s.probes ++ s.reads)).report c.logging w.time s.events
    match found with
    | .error cause => o.fail cause
    | .ok found =>
      let shownPath := Path.tidy path
      if r.asJson then readComponents w r c rest (records ++ found.map (·.record shownPath)) s o
      else readComponents w r c rest records s (o.print (found.flatMap (·.lines shownPath)).flatten)

def serve (w : World) (r : Request) : Outcome :=
  let candidates := match r.config with
    | some path => [path, Path.tidy path]
    | none => Config.fileNames.map (Path.join w.cwd)
  let o := ({} : Outcome).consult (candidates ++ r.paths)
  match requestFault? w r with
  | some fault => { o with exitCode := 2, stderr := UsageError.lines ⟨some r.action, fault⟩ }
  | none =>
    match loadConfig w r with
    | .error e => o.fail (.ofLoad e)
    | .ok c =>
      let c := r.adjust c
      match c.logging.outputs.findSome? (outputFault? w) with
      | some cause =>
        let opened := c.logging.outputs.takeWhile fun output => (outputFault? w output).isNone
        (o.openOutputs opened).fail (.unhandled cause)
      | none => readComponents w r c r.paths [] {} (o.openOutputs c.logging.outputs)

def run (w : World) (arguments : List Text) : Outcome :=
  if arguments = [] then { exitCode := 2, stderr := text help }
  else
    match wish arguments with
    | .error e => { exitCode := 2, stderr := e.lines }
    | .ok .help => { stdout := text help }
    | .ok .version => { stdout := text version }
    | .ok (.actionHelp action) => { stdout := text (actionHelp action) }
    | .ok (.run r) => serve w r

end StateCoverage.Command
