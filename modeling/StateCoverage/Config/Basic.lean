import StateCoverage.Coverage

/-!
The configuration of a run: how component files are read, and where events are reported.
-/
namespace StateCoverage

inductive LogLevel where
  | debug
  | info
  | warning
  | error
  | critical
deriving DecidableEq

namespace LogLevel

def name : LogLevel → String
  | debug => "DEBUG"
  | info => "INFO"
  | warning => "WARNING"
  | error => "ERROR"
  | critical => "CRITICAL"

def all : List LogLevel := [debug, info, warning, error, critical]

def rank : LogLevel → Nat
  | debug => 10
  | info => 20
  | warning => 30
  | error => 40
  | critical => 50

end LogLevel

inductive LogFormat where
  | json
  | console
deriving DecidableEq

namespace LogFormat

def name : LogFormat → String
  | json => "json"
  | console => "console"

def all : List LogFormat := [json, console]

end LogFormat

structure LogOutput where
  format : LogFormat := .console
  /-- `stderr`, `stdout` or the absolute path of a file. -/
  destination : Text := text "stderr"
  /-- The least level that is written here, if it is not that of the whole configuration. -/
  level : Option LogLevel := none

structure LoggingOptions where
  level : LogLevel := .warning
  outputs : List LogOutput := [{}]

structure Config where
  logging : LoggingOptions := {}
  resolver : ResolverOptions := {}

end StateCoverage
