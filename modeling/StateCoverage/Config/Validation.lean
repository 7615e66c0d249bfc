import StateCoverage.Config.Basic
import StateCoverage.Data.Entries

/-!
From data to a configuration. The first fault is reported with its place: sections in their order,
the fields of a section in theirs, then keys that no section has.
-/
namespace StateCoverage

structure Fault where
  location : List Text
  value : Data
  reason : Text

inductive Checked (α : Type) where
  | valid (x : α)
  | invalid (first : Fault)
  /-- A path names the home directory of somebody unknown. This outweighs every fault. -/
  | unknownHome

namespace Checked

def map {α β : Type} (f : α → β) : Checked α → Checked β
  | valid x => valid (f x)
  | invalid fault => invalid fault
  | unknownHome => unknownHome

def both {α β : Type} : Checked α → Checked β → Checked (α × β)
  | unknownHome, _ => unknownHome
  | _, unknownHome => unknownHome
  | invalid fault, _ => invalid fault
  | valid _, invalid fault => invalid fault
  | valid x, valid y => valid (x, y)

def all {α : Type} : List (Checked α) → Checked (List α)
  | [] => valid []
  | x :: rest => (x.both (all rest)).map fun (x, rest) => x :: rest

def andThen {α β : Type} (check : α → Checked β) : Checked α → Checked β
  | valid x => check x
  | invalid fault => invalid fault
  | unknownHome => unknownHome

end Checked

namespace Validation

abbrev Location := List Text

def fault {α : Type} (location : Location) (value : Data) (reason : String) : Checked α :=
  .invalid ⟨location, value, text reason⟩

def refuse {α : Type} (location : Location) (value : Data) (reason : Text) : Checked α :=
  .invalid ⟨location, value, text "Value error, " ++ reason⟩

def string (location : Location) : Data → Checked Text
  | .string s => .valid s
  | value => fault location value "Input should be a valid string"

def word {α : Type} (name : α → String) (all : List α) (expected : String) (location : Location)
    (value : Data) :
    Checked α :=
  let found := match value with
    | .string s => all.find? fun x => text (name x) = s
    | _ => none
  match found with
  | some x => .valid x
  | none => fault location value ("Input should be " ++ expected)

def level : Location → Data → Checked LogLevel :=
  word LogLevel.name LogLevel.all "'DEBUG', 'INFO', 'WARNING', 'ERROR' or 'CRITICAL'"

def format : Location → Data → Checked LogFormat :=
  word LogFormat.name LogFormat.all "'json' or 'console'"

def truthWords : List (String × Bool) :=
  [("0", false), ("off", false), ("f", false), ("false", false), ("n", false), ("no", false),
    ("1", true), ("on", true), ("t", true), ("true", true), ("y", true), ("yes", true)]

def isWhole : Binary64 → Bool
  | .number _ (.finite mantissa exponent) =>
    let (numerator, denominator) := Magnitude.fraction mantissa exponent
    numerator % denominator = 0
  | _ => false

/-- Truth values, the numbers 0 and 1, and words. -/
def bool (location : Location) (value : Data) : Checked Bool :=
  let unreadable := fault location value
    "Input should be a valid boolean, unable to interpret input"
  match value with
  | .bool b => .valid b
  | .string s =>
    match truthWords.find? fun (word, _) => text word = s.lowerAscii with
    | some (_, b) => .valid b
    | none => unreadable
  | .int n => if n = 0 then .valid false else if n = 1 then .valid true else unreadable
  | .float x =>
    if x.isZero then .valid false
    else if x.isOne then .valid true
    else if isWhole x then unreadable
    else fault location value "Input should be a valid boolean"
  | _ => fault location value "Input should be a valid boolean"

def list {α : Type} (item : Location → Data → Checked α) (location : Location) :
    Data → Checked (List α)
  | .list items => .all (items.zipIdx.map fun (x, i) => item (location ++ [Text.ofNat i]) x)
  | value => fault location value "Input should be a valid list"

def field {α : Type} (check : Location → Data → Checked α) (default : α) (name : String)
    (location : Location) (d : Data) : Checked α :=
  match d.field? (text name) with
  | some value => check (location ++ [text name]) value
  | none => .valid default

def inSection {α : Type} (kind : String) (check : Location → Data → Checked α)
    (location : Location) :
    Data → Checked α
  | .map entries => check location (.map entries)
  | value => fault location value ("Input should be a valid dictionary or instance of " ++ kind)

inductive HomeFault where
  | unknown
  /-- Nobody can have the name. -/
  | impossible (reason : Text)

def isSurrogate (p : CodePoint) : Bool := p.toChar?.isNone

/-- Is no byte written for the code point? Some surrogates stand for single bytes. -/
def isUnwritable : CodePoint → Bool
  | .surrogate offset => offset < 0x480 || 0x500 ≤ offset
  | .scalar _ => false

def impossibleName? (user : Text) : Option Text :=
  match user.findIdx? isUnwritable with
  | some start =>
    let run := (user.drop start).takeWhile isSurrogate
    let what :=
      if run.length = 1 then
        text "character " ++ Text.quoted run ++ text " in position " ++ Text.ofNat start
      else
        text "characters in position " ++ Text.ofNat start ++ text "-"
          ++ Text.ofNat (start + run.length - 1)
    some (text "'utf-8' codec can't encode " ++ what ++ text ": surrogates not allowed")
  | none => if .scalar '\x00' ∈ user then some (text "embedded null byte") else none

/-- The home directory of a user; the empty name is one's own. One that itself starts like the home
directory of a user is none. -/
def homeDirectory (home : Text → Option Text) (user : Text) : Except HomeFault Text :=
  match impossibleName? user with
  | some reason => .error (.impossible reason)
  | none =>
    match home user with
    | some directory =>
      if Text.startsWith (text "~") directory then .error .unknown else .ok directory
    | none => .error .unknown

def expandHome (home : Text → Option Text) (path : Text) : Except HomeFault Text :=
  match Path.names path with
  | (.scalar '~' :: user) :: rest =>
    if Path.isAbsolute path then .ok (Path.tidy path)
    else
      (homeDirectory home user).map fun directory =>
        Path.tidy (Path.bare directory ++ Path.slash :: Path.ofSegments rest)
  | _ => .ok (Path.tidy path)

def destination (home : Text → Option Text) (location : Location) (value : Data) : Checked Text :=
  (string location value).andThen fun s =>
    if s = text "stderr" ∨ s = text "stdout" then .valid s
    else
      match expandHome home s with
      | .error .unknown => .unknownHome
      | .error (.impossible reason) => refuse location value reason
      | .ok path =>
        if Path.isAbsolute path then .valid path
        else refuse location value (text "File destination must be absolute path: " ++ s)

def output (home : Text → Option Text) : Location → Data → Checked LogOutput :=
  inSection "LogOutputConfig" fun location d =>
    let base : LogOutput := {}
    let ownLevel (location : Location) : Data → Checked (Option LogLevel)
      | .null => .valid none
      | value => (level location value).map some
    ((field format base.format "format" location d).both
      ((field (destination home) base.destination "destination" location d).both
        (field ownLevel base.level "level" location d))).map fun (format, destination, level) =>
          { format, destination, level }

def logging (home : Text → Option Text) : Location → Data → Checked LoggingOptions :=
  inSection "LoggingConfig" fun location d =>
    let base : LoggingOptions := {}
    ((field level base.level "level" location d).both
      (field (list (output home)) base.outputs "outputs" location d)).map fun (level, outputs) =>
        { level, outputs }

def extensions (location : Location) (value : Data) : Checked (List Text) :=
  (list string location value).andThen fun found =>
    match found.find? fun extension => !Text.startsWith (text ".") extension with
    | some extension => refuse location value (text "Extension must start with '.': " ++ extension)
    | none => .valid found

def basename (location : Location) (value : Data) : Checked Text :=
  (string location value).andThen fun s =>
    if s = [] ∨ Path.slash ∈ s then
      refuse location value (text "Index basename must be a bare file name: " ++ Text.quoted s)
    else .valid s

def resolver : Location → Data → Checked ResolverOptions :=
  inSection "ResolverConfig" fun location d =>
    let base : ResolverOptions := {}
    ((field extensions base.extensions "extensions" location d).both
      ((field basename base.indexBasename "index_basename" location d).both
        ((field bool base.followImports "follow_imports" location d).both
          (field (list string) base.attributeNames "attribute_names" location d)))).map
      fun (extensions, indexBasename, followImports, attributeNames) =>
        { extensions, indexBasename, followImports, attributeNames }

def noFurther (entries : List (Text × Data)) : Checked Unit :=
  match entries.find? fun (name, _) => name ≠ text "logging" && name ≠ text "resolver" with
  | some (name, value) => fault [name] value "Extra inputs are not permitted"
  | none => .valid ()

/-- The configuration that some data describes. What is left out has its default. -/
def config (home : Text → Option Text) (entries : List (Data × Data)) : Checked Config :=
  let base : Config := {}
  ((field (logging home) base.logging "logging" [] (.map entries)).both
    ((field resolver base.resolver "resolver" [] (.map entries)).both
      (noFurther (Data.fields entries)))).map fun (logging, resolver, _) => { logging, resolver }

end Validation

end StateCoverage
