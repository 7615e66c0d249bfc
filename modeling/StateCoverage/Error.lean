import StateCoverage.Data.Basic

/-!
What can go wrong: with a configuration, and with a module that is to be read. Every cause has a
code and a name for programs, and a message and details for people.
-/
namespace StateCoverage

structure Report where
  code : Nat
  name : String
  message : Text
  /-- May another attempt succeed? -/
  retryable : Bool
  details : List (String × Text)

def Report.headline (r : Report) : Text :=
  text ("[" ++ toString r.code ++ "] " ++ r.name ++ ": ") ++ r.message

inductive ConfigError where
  | unreadable (path reason : Text)
  /-- A field holds what it may not hold. -/
  | invalidValue (field : Text) (value : Data) (reason : Text)
  | missingFile (path : Text)

def ConfigError.report : ConfigError → Report
  | unreadable path reason =>
    ⟨2001, "CONFIG_PARSE_ERROR", text "Failed to parse config at " ++ path ++ text ": "
      ++ reason, false,
      [("path", path), ("reason", reason)]⟩
  | invalidValue field value reason =>
    ⟨2002, "CONFIG_INVALID_VALUE", text "Invalid value for '" ++ field ++ text "': "
      ++ reason, false,
      [("field", field), ("value", value.shown), ("reason", reason)]⟩
  | missingFile path =>
    ⟨2004, "CONFIG_FILE_NOT_FOUND", text "Config file not found: " ++ path, false, [("path", path)]⟩

inductive ResolutionError where
  | moduleNotFound (specifier importer : Text)
  | readFailed (path reason : Text)
  | parseFailed (path reason : Text)
  | unsupportedLanguage (path : Text)
  | exportMissing (path name : Text)
deriving DecidableEq

def ResolutionError.report : ResolutionError → Report
  | moduleNotFound specifier importer =>
    ⟨3001, "MODULE_NOT_FOUND", text "Cannot locate module '" ++ specifier ++ text "' from "
      ++ importer, false,
      [("specifier", specifier), ("from", importer)]⟩
  | readFailed path reason =>
    ⟨3002, "MODULE_READ_ERROR", text "Failed to read " ++ path ++ text ": " ++ reason, true,
      [("path", path), ("reason", reason)]⟩
  | parseFailed path reason =>
    ⟨3003, "MODULE_PARSE_ERROR", text "Failed to parse " ++ path ++ text ": " ++ reason, false,
      [("path", path), ("reason", reason)]⟩
  | unsupportedLanguage path =>
    ⟨3004, "UNSUPPORTED_LANGUAGE", text "No grammar for " ++ path, false, [("path", path)]⟩
  | exportMissing path name =>
    ⟨3005, "EXPORT_NOT_FOUND", path ++ text " has no binding named '" ++ name ++ text "'", false,
      [("path", path), ("name", name)]⟩

end StateCoverage
