import StateCoverage.Config.Dump
import StateCoverage.Json.Reader
import StateCoverage.Yaml.Document

/-!
Where settings come from: what a caller gives outweighs environment variables, and those outweigh
the configuration file. Left out are the limits of a run time: a file or a variable that is nested
too deeply for its stack, or that holds a number of too many digits, breaks a load off as well.
-/
namespace StateCoverage

structure Surroundings where
  vars : List (Text × Text)
  /-- The home directory of a user; the empty name is one's own. -/
  home : Text → Option Text

inductive LoadError where
  | config (cause : ConfigError)
  /-- The file is there, but cannot be opened. -/
  | unopened (reason : Text)
  /-- The file holds bytes that are no text. -/
  | undecodable (reason : Text)
  /-- A scalar in the file has no value. -/
  | unconvertible (cause : Yaml.Unconvertible)
  /-- A variable of this section holds no JSON. -/
  | unreadableVariable (sectionName : Text)
  /-- A key at the top of the file is no text. -/
  | nonTextKey
  | unknownHome
  /-- The configuration is refused when its own data is checked again. -/
  | refusedAgain (fault : Fault)

namespace Layers

structure Section where
  name : String
  fields : List String
  lists : List String

def sections : List Section :=
  [⟨"logging", ["level", "outputs"], ["outputs"]⟩,
    ⟨"resolver", ["extensions", "index_basename", "follow_imports", "attribute_names"],
      ["extensions", "attribute_names"]⟩]

def cutDouble : Text → List Text
  | [] => [[]]
  | .scalar '_' :: .scalar '_' :: rest => [] :: cutDouble rest
  | c :: rest =>
    match cutDouble rest with
    | [] => [[c]]
    | part :: parts => (c :: part) :: parts

/-- Writes a value under a path of names. What is there and no mapping stays. -/
def putPath (value : Data) : List Text → List (Data × Data) → List (Data × Data)
  | [], entries => entries
  | [name], entries => Data.putEntry (.string name) value entries
  | name :: rest, entries =>
    Data.changeEntry (.string name)
      (fun
        | .map inner => .map (putPath value rest inner)
        | other => other)
      (.map (putPath value rest [])) entries

/-- What one variable of a section says. Lists are JSON, unless they are empty; all else is text. -/
def variableValue? (s : Section) (path : List Text) (value : Text) : Option Data :=
  match path with
  | [name] => if name ∈ s.lists.map text ∧ value ≠ [] then Json.read? value
    else some (.string value)
  | _ => some (.string value)

def fieldVariables? (s : Section) (vars : List (Text × Text)) : Option (List (Data × Data)) :=
  vars.foldlM (fun entries (name, value) =>
    match Text.after? (text ("statelint__" ++ s.name ++ "__")) name with
    | some rest =>
      let path := cutDouble rest
      (variableValue? s path value).map fun found => putPath found path entries
    | none => some entries) []

/-- The fields of a section under their own names, whatever the case they are written in. -/
def namedFields (s : Section) (entries : List (Data × Data)) : List (Data × Data) :=
  entries.foldl (fun found (key, value) =>
    let name := match key with
      | .string written =>
        match s.fields.find? fun name => text name = written.lowerAscii with
        | some name => .string (text name)
        | none => key
      | _ => key
    Data.putEntry name value found) []

/-- What the environment says about a section: its own variable holds JSON, and the variables of
single fields outweigh it. Nothing is said by a variable that holds `null`. -/
def sectionVariables? (vars : List (Text × Text)) (s : Section) : Option (Option Data) :=
  match Bindings.valueOf? (text ("statelint__" ++ s.name)) vars with
  | none => (fieldVariables? s vars).map fun
    | [] => none
    | entries => some (.map (namedFields s entries))
  | some value =>
    match Json.read? value with
    | none => none
    | some (.map entries) => (fieldVariables? s vars).map fun found =>
      some (.map (namedFields s (Data.entriesOver found entries)))
    | some .null => some none
    | some other => some (some other)

def loweredNames (vars : List (Text × Text)) : List (Text × Text) :=
  Bindings.ofPairs (vars.map fun (name, value) => (name.lowerAscii, value))

def environment (vars : List (Text × Text)) : List Section → Except LoadError (List (Data × Data))
  | [] => .ok []
  | s :: rest =>
    match sectionVariables? vars s with
    | none => .error (.unreadableVariable (text s.name))
    | some found =>
      (environment vars rest).map fun others =>
        match found with
        | some value => (.string (text s.name), value) :: others
        | none => others

def plainLines : List Char → List Char
  | [] => []
  | '\r' :: '\n' :: rest => '\n' :: plainLines rest
  | '\r' :: rest => '\n' :: plainLines rest
  | c :: rest => c :: plainLines rest

def isEmptyDocument : Data → Bool
  | .null | .bool false | .int 0 | .list [] | .map [] | .string [] => true
  | .float x => x.isZero
  | _ => false

def file (path : Text) (bytes : List UInt8) : Except LoadError (List (Data × Data)) :=
  match Utf8.decodeStrict 0 bytes with
  | .error fault => .error (.undecodable (text (Utf8.faultMessage fault)))
  | .ok cs =>
    match Yaml.read (plainLines cs) with
    | .error .malformed => .error (.config (.unreadable path (text "not a document")))
    | .error (.unconvertible cause) => .error (.unconvertible cause)
    | .ok (.map entries) => .ok entries
    | .ok value =>
      if isEmptyDocument value then .ok []
      else .error (.config (.unreadable path (text "top level must be a mapping")))

def isText : Data → Bool
  | .string _ => true
  | _ => false

end Layers

namespace Config

def fileNames : List Text := ["statelint.yaml", ".statelint.yaml"].map text

def find? (isFile : Text → Bool) : Option Text := fileNames.find? isFile

def recheck (home : Text → Option Text) (config : Config) : Except LoadError Config :=
  match Validation.config home config.toEntries with
  | .valid config => .ok config
  | .invalid fault => .error (.refusedAgain fault)
  | .unknownHome => .error .unknownHome

def ofLayers (surroundings : Surroundings) (fileEntries given : List (Data × Data)) :
    Except LoadError Config :=
  match Layers.environment (Layers.loweredNames surroundings.vars) Layers.sections with
  | .error e => .error e
  | .ok environment =>
    let entries := Data.entriesOver (Data.entriesOver given environment) fileEntries
    if entries.all fun entry => Layers.isText entry.1 then
      match Validation.config surroundings.home entries with
      | .valid config => recheck surroundings.home config
      | .invalid fault =>
        .error (.config (.invalidValue (Text.join (text ".") fault.location)
          fault.value fault.reason))
      | .unknownHome => .error .unknownHome
    else .error .nonTextKey

/-- What is found at a path where a file is: its bytes, or why it cannot be opened. -/
abbrev Opened := Except Text (List UInt8)

/-- The file with the settings: the one that a caller names, which must be there, or that of a
directory, if it has one. -/
def source (files : Text → Option Opened) (root : Text) (named : Option Text) :
    Except LoadError (Option (Text × Opened)) :=
  match named with
  | some path =>
    match files path with
    | some opened => .ok (some (path, opened))
    | none => .error (.config (.missingFile path))
  | none =>
    .ok <| (find? fun name => (files (Path.join root name)).isSome).bind fun name =>
      let path := Path.join root name
      (files path).map (path, ·)

def settings : Option (Text × Opened) → Except LoadError (List (Data × Data))
  | none => .ok []
  | some (_, .error reason) => .error (.unopened reason)
  | some (path, .ok bytes) => Layers.file path bytes

def load (files : Text → Option Opened) (root : Text) (named : Option Text)
    (surroundings : Surroundings) (given : List (Data × Data)) : Except LoadError Config :=
  match source files root named with
  | .error e => .error e
  | .ok found =>
    match settings found with
    | .error e => .error e
    | .ok entries => ofLayers surroundings entries given

end Config

end StateCoverage
