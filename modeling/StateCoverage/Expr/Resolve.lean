import StateCoverage.Expr.Render
import StateCoverage.Value

/-!
Resolution of a class expression against a table of bindings. Branches of a conditional and the
strings under a computed access are joined: a class of any branch counts as present. What cannot
be reduced to text is listed, and contributes the text that was found in it.
-/
namespace StateCoverage

/-- The outcome of resolving one expression: the text found, and the rendering of every
sub-expression that could not be reduced. -/
structure Resolution where
  text : Text
  unresolved : List Text
deriving DecidableEq

namespace Resolution

def known (text : Text) : Resolution := ⟨text, []⟩

def unknown (fragment : Text) : Resolution := ⟨[], [fragment]⟩

def isComplete (r : Resolution) : Bool := r.unresolved.isEmpty

def joinBranches (a b : Resolution) : Resolution :=
  ⟨Text.join (StateCoverage.text " ") ([a.text, b.text].filter (· ≠ [])),
    a.unresolved ++ b.unresolved⟩

/-- The quasis of a template with the outcomes of its substitutions in between. A substitution
counts only behind a quasi of its own. -/
def interleave : List Text → List Resolution → Resolution
  | [], _ => ⟨[], []⟩
  | quasi :: quasis, [] =>
    let rest := interleave quasis []
    ⟨quasi ++ rest.text, rest.unresolved⟩
  | quasi :: quasis, outcome :: outcomes =>
    let rest := interleave quasis outcomes
    ⟨quasi ++ outcome.text ++ rest.text, outcome.unresolved ++ rest.unresolved⟩

end Resolution

/-- String methods that do not change which classes a string names. -/
def passthroughMethods : List Text :=
  ["trim", "trimStart", "trimEnd", "trimLeft", "trimRight", "replace", "replaceAll", "normalize",
    "toLowerCase", "toUpperCase"].map text

namespace Expr

def base? (table : Table) : Expr → Option Value
  | .name x => Bindings.valueOf? x table
  | .assertion operand => base? table operand
  | .member target (.name property) =>
    match base? table target with
    | some (.object properties) => Bindings.valueOf? property properties
    | _ => none
  | _ => none

def resolveMember (e property : Expr) : Option Value → Resolution
  | some (.object properties) =>
    match property with
    | .name x =>
      match Bindings.valueOf? x properties with
      | some (.string s) => .known s
      | _ => .unknown (render e)
    | _ => .unknown (render e)
  | _ => .unknown (render e)

/-- A computed access, given the value of its target: every string below it, for the key is only
known when the program runs. -/
def resolveIndex (e : Expr) : Option Value → Resolution
  | some (.object properties) => .known (Text.join (text " ") (Value.strings (.object properties)))
  | _ => .unknown (render e)

mutual

def resolve (table : Table) : Expr → Resolution
  | .string value => .known value
  | .name x =>
    match Bindings.valueOf? x table with
    | some (.string s) => .known s
    | _ => .unknown x
  | .member target property =>
    resolveMember (.member target property) property (base? table target)
  | .index target key => resolveIndex (.index target key) (base? table target)
  | .conditional _ consequent alternate =>
    .joinBranches (resolve table consequent) (resolve table alternate)
  | .template quasis substitutions => .interleave quasis (resolveAll table substitutions)
  | .call (.member target (.name method)) arguments =>
    if method ∈ passthroughMethods then resolve table target
    else .unknown (render (.call (.member target (.name method)) arguments))
  | .assertion operand => resolve table operand
  | e => .unknown (render e)

def resolveAll (table : Table) : List Expr → List Resolution
  | [] => []
  | e :: rest => resolve table e :: resolveAll table rest

end

/-- The text of a template when all of it is known. The reading ends at the first substitution that
is not complete. -/
def templateText? (table : Table) : List Text → List Expr → Option Text
  | [], _ => some []
  | quasi :: quasis, [] => (templateText? table quasis []).map (quasi ++ ·)
  | quasi :: quasis, e :: rest =>
    let outcome := resolve table e
    if outcome.isComplete then (templateText? table quasis rest).map (quasi ++ outcome.text ++ ·)
    else none

mutual

/-- What a binding holds that is declared with this initializer. A template counts only when all
of it is known. -/
def extract (table : Table) : Expr → Value
  | .assertion operand => extract table operand
  | .string value => .string value
  | .template quasis substitutions =>
    match templateText? table quasis substitutions with
    | some s => .string s
    | none => .unresolved
  | .object properties => .object (extractOnto table [] properties)
  | _ => .unresolved

/-- The properties of a literal written onto those before them. Keys that are neither names nor
strings are left out. -/
def extractOnto (table : Table) (before : Bindings Value) : List (Expr × Expr) → Bindings Value
  | [] => before
  | (key, value) :: rest =>
    match key with
    | .name x => extractOnto table (Bindings.put x (extract table value) before) rest
    | .string x => extractOnto table (Bindings.put x (extract table value) before) rest
    | _ => extractOnto table before rest

end

end Expr

end StateCoverage
