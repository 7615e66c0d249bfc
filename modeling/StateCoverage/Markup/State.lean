import StateCoverage.Text.Blank
import StateCoverage.Text.WordClass

/-!
The interactive states that class lists style. A class carries a state when it starts with the
state's name and a colon, or holds it as an arbitrary variant such as `[&:hover]`.
-/
namespace StateCoverage

inductive State where
  | hover
  | focus
  | focusVisible
  | focusWithin
  | active
  | disabled
  | invalid
  | checked
  | placeholder
deriving DecidableEq

namespace State

def name : State → String
  | hover => "hover"
  | focus => "focus"
  | focusVisible => "focus-visible"
  | focusWithin => "focus-within"
  | active => "active"
  | disabled => "disabled"
  | invalid => "invalid"
  | checked => "checked"
  | placeholder => "placeholder"

def all : List State :=
  [hover, focus, focusVisible, focusWithin, active, disabled, invalid, checked, placeholder]

def ofName? (name : Text) : Option State := all.find? fun s => text s.name = name

def ofPrefix? (cls : Text) : Option State :=
  all.find? fun s => Text.startsWith (text s.name ++ text ":") cls

def isVariantCharacter (p : CodePoint) : Bool := p.isWordCharacter || p = .scalar '-'

def variantAt? (t : Text) : Option Text :=
  match Text.after? (text "[&:") t with
  | none => none
  | some rest =>
    let name := rest.takeWhile isVariantCharacter
    if name ≠ [] ∧ rest[name.length]? = some (.scalar ']') then some name else none

def variants : Text → List Text
  | [] => []
  | c :: rest => (variantAt? (c :: rest)).toList ++ variants rest

/-- The states of one class: the one it begins with, then those of its variants. -/
def ofClass (cls : Text) : List State :=
  (ofPrefix? cls).toList ++ (variants cls).filterMap ofName?

def firsts (states : List State) : List State :=
  states.foldl (fun found s => if s ∈ found then found else found ++ [s]) []

def ofText (classes : Text) : List State := firsts (classes.words.flatMap ofClass)

end State

/-- Does any class style a state, be it a tracked one or not? -/
def stylesState (classes : Text) : Bool :=
  classes.words.any fun cls => (State.ofPrefix? cls).isSome || State.variants cls ≠ []

def isVisuallyHidden (classes : Text) : Bool :=
  classes.words.any (· ∈ ["hidden", "sr-only", "invisible"].map text)

def isNonInteractive (classes : Text) : Bool := classes.words.any (· = text "pointer-events-none")

end StateCoverage
