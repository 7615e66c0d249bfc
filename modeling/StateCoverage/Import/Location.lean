import StateCoverage.Path

/-!
Where the module of an import statement is found. Only relative specifiers name files: the path as
it is written is tried first, then with each extension, then the index file of a directory.
-/
namespace StateCoverage

structure ImportOptions where
  extensions : List Text := [".ts", ".tsx", ".js", ".jsx"].map text
  /-- The name, without its extension, of the file that stands for a directory. -/
  indexBasename : Text := text "index"

namespace Import

def isRelative (specifier : Text) : Bool :=
  ([text "./", text "../", text "/"].any (Text.startsWith · specifier))
    || specifier = Path.here || specifier = Path.up

/-- The path that a relative specifier names, seen from the importing file, and this from `cwd`. -/
def target (importer specifier cwd : Text) : Text :=
  Path.normalize (Path.join (Path.parent (Path.absolute cwd importer)) specifier)

def candidates (options : ImportOptions) (target : Text) : List Text :=
  target :: options.extensions.map (target ++ ·)
    ++ options.extensions.map fun extension => Path.join target (options.indexBasename ++ extension)

/-- The first path that exists, and the paths that were looked at. -/
def probe (isFile : Text → Bool) : List Text → Option Text × List Text
  | [] => (none, [])
  | path :: rest =>
    if isFile path then (some path, [path])
    else
      let (found, probes) := probe isFile rest
      (found, path :: probes)

def locate (isFile : Text → Bool) (options : ImportOptions) (importer specifier : Text)
    (cwd : Text := [Path.slash]) : Option Text × List Text :=
  if isRelative specifier then probe isFile (candidates options (target importer specifier cwd))
  else (none, [])

end Import

end StateCoverage
