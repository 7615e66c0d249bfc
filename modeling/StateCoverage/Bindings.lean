import StateCoverage.Text.CodePoint

/-!
Names with what they stand for, in the order in which each name was first written. Writing a name
again replaces its value and keeps its place.
-/
namespace StateCoverage

/-- An association list without repeated names. -/
abbrev Bindings (α : Type) := List (Text × α)

namespace Bindings

variable {α : Type}

def valueOf? (name : Text) : Bindings α → Option α
  | [] => none
  | (key, value) :: rest => if key = name then some value else valueOf? name rest

def put (name : Text) (value : α) : Bindings α → Bindings α
  | [] => [(name, value)]
  | (key, old) :: rest => if key = name then (key, value) :: rest
    else (key, old) :: put name value rest

def ofPairs (pairs : List (Text × α)) : Bindings α :=
  pairs.foldl (fun table (name, value) => put name value table) []

def names (table : Bindings α) : List Text := table.map (·.1)

end Bindings

end StateCoverage
