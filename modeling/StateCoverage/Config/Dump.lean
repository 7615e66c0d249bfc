import StateCoverage.Config.Validation

/-!
A configuration as data, with every field under its name.
-/
namespace StateCoverage

def LogOutput.toData (o : LogOutput) : Data :=
  .record [(text "format", .string (text o.format.name)),
    (text "destination", .string o.destination),
    (text "level", match o.level with
      | some level => .string (text level.name)
      | none => .null)]

def LoggingOptions.toData (o : LoggingOptions) : Data :=
  .record [(text "level", .string (text o.level.name)),
    (text "outputs", .list (o.outputs.map LogOutput.toData))]

def ResolverOptions.toData (o : ResolverOptions) : Data :=
  .record [(text "extensions", .list (o.extensions.map .string)),
    (text "index_basename", .string o.indexBasename),
    (text "follow_imports", .bool o.followImports),
    (text "attribute_names", .list (o.attributeNames.map .string))]

def Config.toEntries (c : Config) : List (Data × Data) :=
  [(.string (text "logging"), c.logging.toData), (.string (text "resolver"), c.resolver.toData)]

end StateCoverage
