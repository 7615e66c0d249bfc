import StateCoverage.Text.Quoted

/-!
The arguments of the command: what is asked for, and what is wrong with them.
-/
namespace StateCoverage.Command

inductive Action where
  | resolve
  | elements
deriving DecidableEq

def Action.name : Action → String
  | resolve => "resolve"
  | elements => "elements"

inductive Flag where
  | version
  | verbose
  | help
  | json
  | noImports
  | config
deriving DecidableEq

def Flag.takesValue : Flag → Bool
  | config => true
  | _ => false

def commonFlags : List (String × Flag) :=
  [("--version", .version), ("-v", .verbose), ("--verbose", .verbose), ("--help", .help)]

def actionFlags : List (String × Flag) :=
  [("--json", .json), ("--no-imports", .noImports), ("-c", .config), ("--config", .config),
    ("--help", .help)]

inductive UsageFault where
  | noSuchOption (name : Text)
  | valueMissing (name : Text)
  | valueUnwanted (name : Text)
  | noCommand
  | noSuchCommand (name : Text)
  | noPaths
  | noSuchFile (path : Text)
  | isDirectory (path : Text)
  | isUnreadable (path : Text)
  | configIsDirectory (path : Text)
  | configIsUnreadable (path : Text)
deriving DecidableEq

namespace UsageFault

def message : UsageFault → Text
  | noSuchOption name => text "No such option " ++ name.quoted ++ text "."
  | valueMissing name => text "Option " ++ name.quoted ++ text " requires an argument."
  | valueUnwanted name => text "Option " ++ name.quoted ++ text " does not take a value."
  | noCommand => text "Missing command."
  | noSuchCommand name => text "No such command " ++ name.quoted ++ text "."
  | noPaths => text "Missing argument 'PATHS...'."
  | noSuchFile path =>
    text "Invalid value for 'PATHS...': File " ++ path.quoted ++ text " does not exist."
  | isDirectory path =>
    text "Invalid value for 'PATHS...': File " ++ path.quoted ++ text " is a directory."
  | isUnreadable path =>
    text "Invalid value for 'PATHS...': File " ++ path.quoted ++ text " is not readable."
  | configIsDirectory path =>
    text "Invalid value for '-c' / '--config': File " ++ path.quoted ++ text " is a directory."
  | configIsUnreadable path =>
    text "Invalid value for '-c' / '--config': File " ++ path.quoted ++ text " is not readable."

/-- Is the usage shown with the message? An option with the wrong number of values is reported
alone. -/
def showsUsage : UsageFault → Bool
  | valueMissing _ | valueUnwanted _ => false
  | _ => true

end UsageFault

structure Given where
  options : List (Flag × Text)
  arguments : List Text

namespace Given

def has (flag : Flag) (g : Given) : Bool := g.options.any (·.1 = flag)

def value? (flag : Flag) (g : Given) : Option Text :=
  (g.options.reverse.find? (·.1 = flag)).map (·.2)

def add (flag : Flag) (value : Text) (g : Given) : Given :=
  { g with options := (flag, value) :: g.options }

end Given

def flag? (flags : List (String × Flag)) (name : Text) : Option Flag :=
  (flags.find? fun (written, _) => text written = name).map (·.2)

def dash : CodePoint := .scalar '-'

/-- The letters of an argument such as `-vx`, each an option. One with a value takes the rest of the
argument, or else the next one. -/
def readLetters (flags : List (String × Flag)) (next : List Text) (found : Given) :
    Text → Except UsageFault (Given × List Text)
  | [] => .ok (found, next)
  | letter :: rest =>
    let name := [dash, letter]
    match flag? flags name with
    | none => .error (.noSuchOption name)
    | some flag =>
      if flag.takesValue then
        if rest ≠ [] then .ok (found.add flag rest, next)
        else
          match next with
          | value :: next => .ok (found.add flag value, next)
          | [] => .error (.valueMissing name)
      else readLetters flags next (found.add flag []) rest

def readOption (flags : List (String × Flag)) (argument : Text) (next : List Text) (found : Given) :
    Except UsageFault (Given × List Text) :=
  let name := argument.takeWhile (· ≠ .scalar '=')
  let attached :=
    if name.length < argument.length then some (argument.drop (name.length + 1))
    else none
  match if 2 < name.length then flag? flags name else none with
  | none =>
    if Text.startsWith [dash, dash] argument then .error (.noSuchOption name)
    else readLetters flags next found (argument.drop 1)
  | some flag =>
    if flag.takesValue then
      match attached, next with
      | some value, next => .ok (found.add flag value, next)
      | none, value :: next => .ok (found.add flag value, next)
      | none, [] => .error (.valueMissing name)
    else if attached.isSome then .error (.valueUnwanted name)
    else .ok (found.add flag [], next)

/-- Options and other arguments. They may be mixed if `mixed`; else the first other argument ends
the options, as `--` always does. -/
def readArguments (flags : List (String × Flag)) (mixed : Bool) :
    Nat → Given → List Text → Except UsageFault Given
  | 0, found, _ => .ok found
  | _, found, [] => .ok { options := found.options.reverse, arguments := found.arguments.reverse }
  | fuel + 1, found, argument :: next =>
    if argument = [dash, dash] then
      .ok { options := found.options.reverse, arguments := found.arguments.reverse ++ next }
    else if argument.head? = some dash ∧ 1 < argument.length then
      match readOption flags argument next found with
      | .ok (found, next) => readArguments flags mixed fuel found next
      | .error fault => .error fault
    else if mixed then
      readArguments flags mixed fuel { found with arguments := argument :: found.arguments } next
    else .ok { options := found.options.reverse, arguments := argument :: next }

def given (flags : List (String × Flag)) (mixed : Bool) (arguments : List Text) :
    Except UsageFault Given :=
  readArguments flags mixed (arguments.length + 1) ⟨[], []⟩ arguments

structure Request where
  action : Action
  paths : List Text
  asJson : Bool
  noImports : Bool
  config : Option Text
  verbose : Bool

/-- What some arguments ask for. Help and version go before all else; of these the first. -/
inductive Wish where
  | help
  | version
  | actionHelp (action : Action)
  | run (request : Request)

structure UsageError where
  action : Option Action
  fault : UsageFault

def actionNamed? (name : Text) : Option Action :=
  [Action.resolve, .elements].find? fun a => text a.name = name

def actionWish (action : Action) (verbose : Bool) (arguments : List Text) :
    Except UsageFault Wish :=
  match given actionFlags true arguments with
  | .error fault => .error fault
  | .ok g =>
    if g.has .help then .ok (.actionHelp action)
    else .ok (.run {
      action
      paths := g.arguments
      asJson := g.has .json
      noImports := g.has .noImports
      config := g.value? .config
      verbose })

def wish (arguments : List Text) : Except UsageError Wish :=
  match given commonFlags false arguments with
  | .error fault => .error ⟨none, fault⟩
  | .ok g =>
    match g.options.find? fun (flag, _) => flag = .help || flag = .version with
    | some (.help, _) => .ok .help
    | some _ => .ok .version
    | none =>
      match g.arguments with
      | [] => .error ⟨none, .noCommand⟩
      | name :: rest =>
        match actionNamed? name with
        | none =>
          -- an option in the place of a command is none of the command's own
          if name.head? = some dash ∧ 1 < name.length then
            match given commonFlags false (name :: rest) with
            | .error fault => .error ⟨none, fault⟩
            | .ok _ => .error ⟨none, .noSuchCommand name⟩
          else .error ⟨none, .noSuchCommand name⟩
        | some action =>
          match actionWish action (g.has .verbose) rest with
          | .ok wish => .ok wish
          | .error fault => .error ⟨some action, fault⟩

end StateCoverage.Command
