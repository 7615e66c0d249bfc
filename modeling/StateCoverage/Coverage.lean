import StateCoverage.Import.Session
import StateCoverage.Markup.Element

/-!
The two readings of a component file: what its class attributes resolve to, and which interactive
elements it has.
-/
namespace StateCoverage

structure ResolverOptions extends ImportOptions where
  followImports : Bool := true
  /-- The attributes that carry class lists. -/
  attributeNames : List Text := ["className", "class"].map text

inductive CoverageError where
  | resolution (cause : ResolutionError)
  | namelessAttribute

namespace ParsedFile

def table (access : FileAccess) (options : ResolverOptions) (path : Text) (file : ParsedFile)
    (s : Session) :
    Except ResolutionError Table × Session :=
  match file.module path with
  | .error e => (.error e, s)
  | .ok m =>
    let importer := if options.followImports then some path else none
    let (table, s) := m.tableWithImports access options.toImportOptions importer s
    (.ok table, s)

def readElements {α : Type} (read : Syntax → Except Markup.NamelessAttribute (α × List Event))
    (file : ParsedFile) (s : Session) : Except CoverageError (List α) × Session :=
  match (Markup.elements file.root).mapM read with
  | .error _ => (.error .namelessAttribute, s)
  | .ok found => (.ok (found.map (·.1)), { s with events := s.events ++ found.flatMap (·.2) })

def classAttributes (access : FileAccess) (options : ResolverOptions) (path : Text)
    (file : ParsedFile) (s : Session) : Except CoverageError (List ClassAttribute) × Session :=
  match file.table access options path s with
  | (.error e, s) => (.error (.resolution e), s)
  | (.ok table, s) =>
    match file.readElements (Markup.elementClasses file.source table options.attributeNames) s with
    | (.error e, s) => (.error e, s)
    | (.ok found, s) =>
      let found := found.flatten
      let unresolved := found.countP fun a => !a.result.isComplete
      (.ok found, s.record (.classAttributesExtracted path found.length unresolved))

def interactiveElements (access : FileAccess) (options : ResolverOptions) (path : Text)
    (file : ParsedFile) (s : Session) : Except CoverageError (List InteractiveElement) × Session :=
  match file.table access options path s with
  | (.error e, s) => (.error (.resolution e), s)
  | (.ok table, s) =>
    match file.readElements (Markup.classify file.source table options.attributeNames) s with
    | (.error e, s) => (.error e, s)
    | (.ok found, s) =>
      let found := found.filterMap id
      (.ok found, s.record (.interactiveElementsExtracted path found.length))

end ParsedFile

namespace Coverage

abbrev Reading (α : Type) := ParsedFile → Session → Except CoverageError α × Session

def ofText {α : Type} (reading : Reading α) (path content : Text) (s : Session) :
    Except CoverageError α × Session :=
  match ParsedFile.ofText path [] content with
  | .error e => (.error (.resolution e), s)
  | .ok file => reading file s

end Coverage

end StateCoverage
