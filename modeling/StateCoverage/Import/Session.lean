import StateCoverage.Event
import StateCoverage.Import.Location
import StateCoverage.ParsedFile
import StateCoverage.Table

/-!
Imports. A module is read once per session: its table is kept, a failure is not. An imported module
is read alone, so that no import leads further than one file. An import that fails, for whatever
reason, gives no value.
-/
namespace StateCoverage

structure FileAccess where
  isFile : Text → Bool
  /-- The text of a file, or why it cannot be read. -/
  read : Text → Except Text Text
  /-- The directory that relative paths of importing files are seen from. -/
  cwd : Text := [Path.slash]

def FileAccess.empty : FileAccess := { isFile _ := false, read _ := .error [] }

/-- What a run of imports keeps: the tables of the modules read so far. It also records what was
looked at, and in which order. -/
structure Session where
  cache : Bindings Table := []
  events : List Event := []
  /-- The paths that were asked for. -/
  probes : List Text := []
  /-- The files that were read, or could not be read. -/
  reads : List Text := []
  /-- The paths whose tables are being built. -/
  building : List Text := []

namespace Session

def record (event : Event) (s : Session) : Session := { s with events := s.events ++ [event] }

def cached? (path : Text) (s : Session) : Option Table := Bindings.valueOf? path s.cache

def keep (path : Text) (table : Table) (s : Session) : Session :=
  { s with cache := Bindings.put path table s.cache }

def startBuild (path : Text) (s : Session) : Session :=
  { s with building := if path ∈ s.building then s.building else s.building ++ [path] }

def endBuild (path : Text) (s : Session) : Session :=
  { s with building := s.building.filter (· ≠ path) }

def clear (s : Session) : Session := { s with cache := [], building := [] }

/-- The kept table, or else the one that `build` gives, which is kept. The path counts as being
built for as long as `build` runs, however it ends. -/
def getOrBuild {ε : Type} (path : Text) (build : Session → Except ε Table × Session) (s : Session) :
    Except ε Table × Session :=
  match s.cached? path with
  | some table => (.ok table, s)
  | none =>
    let (built, s) := build (s.startBuild path)
    let s := match built with
      | .ok table => s.keep path table
      | .error _ => s
    (built, s.endBuild path)

end Session

namespace Import

def readTable (access : FileAccess) (path : Text) (s : Session) :
    Except ResolutionError Table × Session :=
  let s := { s with reads := s.reads ++ [path] }
  match access.read path with
  | .error reason => (.error (.readFailed path reason), s)
  | .ok content =>
    match Module.ofText path [] content with
    | .error e => (.error e, s)
    | .ok m => (.ok m.table, s.record (.importParsed path m.errors))

/-- What a module exports under a name. `*` is an object of all that is known. -/
def exported? (table : Table) (name : Text) : Option Value :=
  if name = text "*" then some (.object (table.filter fun (_, value) => !value.isUnresolved))
  else Bindings.valueOf? name table

def outcome (access : FileAccess) (options : ImportOptions) (importer specifier exported : Text)
    (s : Session) : Except ResolutionError Value × Session :=
  let (found, probes) := locate access.isFile options importer specifier access.cwd
  let s := { s with probes := s.probes ++ probes }
  match found with
  | none => (.error (.moduleNotFound specifier importer), s)
  | some path =>
    match s.getOrBuild path (readTable access path) with
    | (.error e, s) => (.error e, s)
    | (.ok table, s) =>
      match exported? table exported with
      | some value => (.ok value, s)
      | none => (.error (.exportMissing path exported), s)

def resolve (access : FileAccess) (options : ImportOptions) (importer specifier exported : Text)
    (s : Session) : Option Value × Session :=
  match outcome access options importer specifier exported s with
  | (.ok value, s) => (some value, s)
  | (.error cause, s) => (none, s.record (.importUnresolved cause specifier exported importer))

def resolvePending (access : FileAccess) (options : ImportOptions) (importer : Text) :
    List Pending → Table → Session → Table × Session
  | [], table, s => (table, s)
  | p :: rest, table, s =>
    let (value, s) := resolve access options importer p.source p.exported s
    resolvePending access options importer rest
      (Bindings.put p.binding (value.getD .unresolved) table) s

end Import

def Module.tableWithImports (access : FileAccess) (options : ImportOptions) (importer : Option Text)
    (m : Module) (s : Session) : Table × Session :=
  match importer, m.pending with
  | some path, first :: rest =>
    let pending := first :: rest
    let (table, s) := Import.resolvePending access options path pending m.declared s
    (table, s.record (.bindingsBuilt path table.length pending.length))
  | _, _ => (m.table, s)

end StateCoverage
