import StateCoverage.Command.Arguments

/-!
The texts that explain the command.
-/
namespace StateCoverage.Command

def usageLine : Option Action → String
  | none => "Usage: statelint [OPTIONS] COMMAND [ARGS]...\n"
  | some action => "Usage: statelint " ++ action.name ++ " [OPTIONS] PATHS...\n"

def help : String :=
  usageLine none ++ "
  statelint - audit interactive state coverage of UI components.

Options:
  --version      Show the version and exit.
  -v, --verbose  Enable debug logging
  --help         Show this message and exit.

Commands:
  elements  List the interactive elements of JSX/TSX component files.
  resolve   Resolve the class attributes of JSX/TSX component files.
"

def description : Action → String
  | .resolve => "
  Resolve the class attributes of JSX/TSX component files.

  PATHS are component files (.jsx, .tsx, .js, .ts).
"
  | .elements => "
  List the interactive elements of JSX/TSX component files.

  Shows each element's state variants (hover, focus, ...) found in its resolved
  class list.
"

def actionHelp (action : Action) : String :=
  usageLine (some action) ++ description action ++ "
Options:
  --json             Output as JSON
  --no-imports       Do not read imported modules
  -c, --config FILE  Path to a statelint.yaml file
  --help             Show this message and exit.
"

def version : String := "statelint, version 0.1.0\n"

def UsageError.lines (e : UsageError) : Text :=
  let command := match e.action with
    | none => "statelint"
    | some action => "statelint " ++ action.name
  let usage := usageLine e.action ++ "Try '" ++ command ++ " --help' for help.\n\n"
  text (if e.fault.showsUsage then usage else "") ++ text "Error: " ++ e.fault.message ++ text "\n"

end StateCoverage.Command
