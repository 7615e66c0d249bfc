import StateCoverage.Bindings

/-!
What is known about a binding without running the program: one string, a nest of literal objects,
or nothing.
-/
namespace StateCoverage

inductive Value where
  /-- The binding evaluates to this very string. -/
  | string (s : Text)
  /-- The binding is an object literal; each property is a value of its own. -/
  | object (properties : List (Text × Value))
  /-- The binding may hold anything. -/
  | unresolved

instance : Inhabited Value := ⟨.unresolved⟩

abbrev Table := Bindings Value

namespace Value

def isUnresolved : Value → Bool
  | unresolved => true
  | _ => false

mutual

/-- Every non-empty string that a value holds at any depth, in order. -/
def strings : Value → List Text
  | string s => if s = [] then [] else [s]
  | object properties => stringsOfAll properties
  | unresolved => []

def stringsOfAll : List (Text × Value) → List Text
  | [] => []
  | (_, value) :: rest => strings value ++ stringsOfAll rest

end

end Value

end StateCoverage
