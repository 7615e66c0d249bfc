import StateCoverage.Error

/-!
What a run reports about its own progress, for those who look for the cause of an unresolved class.
-/
namespace StateCoverage

inductive Event where
  | importUnresolved (cause : ResolutionError) (specifier exported importer : Text)
  | importParsed (path : Text) (errors : Nat)
  | bindingsBuilt (path : Text) (bindings imports : Nat)
  | classAttributesExtracted (path : Text) (count unresolved : Nat)
  | interactiveElementsExtracted (path : Text) (count : Nat)
  | visualContainerSkipped (tag : Text) (line : Nat)
  | attributeTooDeep (line : Nat)
deriving DecidableEq

namespace Event

def name : Event → String
  | importUnresolved .. => "import_unresolved"
  | importParsed .. => "import_parsed"
  | bindingsBuilt .. => "bindings_built"
  | classAttributesExtracted .. => "class_attributes_extracted"
  | interactiveElementsExtracted .. => "interactive_elements_extracted"
  | visualContainerSkipped .. => "visual_container_skipped"
  | attributeTooDeep .. => "attribute_too_deep"

def fields : Event → List (String × Data)
  | importUnresolved cause specifier exported importer =>
    [("error", .string (text cause.report.name)), ("specifier", .string specifier),
      ("export", .string exported), ("importer", .string importer)]
  | importParsed path errors => [("path", .string path), ("errors", .int errors)]
  | bindingsBuilt path bindings imports =>
    [("path", .string path), ("bindings", .int bindings), ("imports", .int imports)]
  | classAttributesExtracted path count unresolved =>
    [("path", .string path), ("count", .int count), ("unresolved", .int unresolved)]
  | interactiveElementsExtracted path count => [("path", .string path), ("count", .int count)]
  | visualContainerSkipped tag line => [("tag", .string tag), ("line", .int line)]
  | attributeTooDeep line => [("line", .int line)]

end Event

end StateCoverage
