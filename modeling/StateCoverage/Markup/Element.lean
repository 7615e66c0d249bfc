import StateCoverage.Event
import StateCoverage.Expr.Resolve
import StateCoverage.Lowering.Expression
import StateCoverage.Markup.State
import StateCoverage.Syntax.Walk
import StateCoverage.Text.Entity
import StateCoverage.Text.Number

/-!
The elements of a file's markup: their class attributes, and those among them that a user can
interact with.
-/
namespace StateCoverage

structure ClassAttribute where
  tag : Text
  name : Text
  line : Nat
  result : Resolution

structure InteractiveElement where
  /-- The tag; `role-button` or `role-link` for an element of that role. -/
  elementType : Text
  tag : Text
  line : Nat
  className : Resolution
  /-- Is it no control, but in the order of focus? -/
  isContentRegion : Bool
  canBeDisabled : Bool
  /-- Does it depend on the program whether it is disabled? -/
  hasConditionalDisabled : Bool
  canBeInvalid : Bool
  hasPlaceholder : Bool
  isRadioOrCheckbox : Bool

def ClassAttribute.states (a : ClassAttribute) : List State := State.ofText a.result.text

def InteractiveElement.states (e : InteractiveElement) : List State := State.ofText e.className.text

namespace Markup

structure NamelessAttribute where

structure Attribute where
  name : Text
  value : Option Syntax

def isElement (t : Syntax) : Bool :=
  t.kind = "jsx_opening_element" || t.kind = "jsx_self_closing_element"

def elements (root : Syntax) : List Syntax := root.preorder.filter isElement

def attributes (source : Source) (element : Syntax) : Except NamelessAttribute (List Attribute) :=
  (element.namedChildren.filter (·.kind = "jsx_attribute")).mapM fun a =>
    match a.namedChildren with
    | [] => .error {}
    | name :: rest => .ok ⟨source.textOf name, rest.head?⟩

/-- The text of a quoted value. It knows entities and no escapes. -/
def quotedText (source : Source) (value : Syntax) : Text :=
  Entity.decode ((source.textOf value).drop 1).dropLast

def expression? (value : Syntax) : Option Syntax :=
  if value.kind = "jsx_expression" then value.content.head? else none

def string? (source : Source) (value : Option Syntax) : Option Text :=
  (value.filter (·.kind = "string")).map (quotedText source)

def number? (source : Source) (value : Option Syntax) : Option Binary64 :=
  let read (t : Syntax) : Option Binary64 :=
    if t.kind = "number" then Number.read? (source.textOf t) else none
  match value.bind expression? with
  | none => none
  | some inner =>
    let operator := if inner.kind = "unary_expression" then inner.field? "operator" else none
    if operator.any fun o => source.textOf o = text "-" then
      ((inner.field? "argument").bind read).map Binary64.negate
    else read inner

/-- What a value says about classes; empty braces say nothing. An expression that nests too deep
is unresolved, and the event tells so. -/
def classOutcome (source : Source) (table : Table) (value : Syntax) :
    Option Resolution × List Event :=
  if value.kind = "string" then (some (.known (quotedText source value)), [])
  else
    match if value.kind = "jsx_expression" then expression? value else some value with
    | none => (none, [])
    | some e =>
      match e.lower? source with
      | some e => (some (e.resolve table), [])
      | none => (some (.unknown placeholder), [.attributeTooDeep (source.line e)])

def elementClasses (source : Source) (table : Table) (names : List Text) (element : Syntax) :
    Except NamelessAttribute (List ClassAttribute × List Event) :=
  match element.field? "name" with
  | none => .ok ([], [])
  | some name =>
    (attributes source element).map fun list =>
      let found := list.map fun a =>
        match a.value with
        | some value =>
          if a.name ∈ names then
            let (outcome, events) := classOutcome source table value
            (outcome.toList.map (ClassAttribute.mk (source.textOf name) a.name
              (source.line element)), events)
          else ([], [])
        | none => ([], [])
      (found.flatMap (·.1), found.flatMap (·.2))

structure Traits where
  className : Resolution := .known []
  role : Option Text := none
  inputType : Option Text := none
  tabIndex : Option Binary64 := none
  canBeDisabled : Bool := false
  hasConditionalDisabled : Bool := false
  canBeInvalid : Bool := false
  hasPlaceholder : Bool := false

def validationNames : List Text :=
  ["required", "pattern", "min", "max", "minLength", "maxLength"].map text

/-- The traits with one more attribute read, and the events behind those before. A class attribute
without a value, or with empty braces, changes nothing; `disabled` is conditional unless it is bare
or `true`. -/
def readAttribute (source : Source) (table : Table) (names : List Text) :
    Traits × List Event → Attribute → Traits × List Event
  | (traits, events), a =>
    if a.name ∈ names then
      match a.value with
      | none => (traits, events)
      | some value =>
        let (outcome, more) := classOutcome source table value
        ({ traits with className := outcome.getD traits.className }, events ++ more)
    else if a.name = text "role" then ({ traits with role := string? source a.value }, events)
    else if a.name = text "type" then ({ traits with inputType := string? source a.value }, events)
    else if a.name = text "tabIndex" then
      ({ traits with tabIndex := number? source a.value }, events)
    else if a.name = text "disabled" then
      let conditional := (a.value.bind expression?).any (·.kind ≠ "true")
      ({ traits with
          canBeDisabled := true
          hasConditionalDisabled := traits.hasConditionalDisabled || conditional }, events)
    else if a.name ∈ validationNames then ({ traits with canBeInvalid := true }, events)
    else if a.name = text "placeholder" then ({ traits with hasPlaceholder := true }, events)
    else (traits, events)

def interactiveTags : List Text := ["button", "a", "input", "select", "textarea"].map text

def roleType? (role : Option Text) : Option Text :=
  if role = some (text "button") then some (text "role-button")
  else if role = some (text "link") then some (text "role-link")
  else none

namespace Traits

def isExcluded (t : Traits) (tag : Text) : Bool :=
  isVisuallyHidden t.className.text || isNonInteractive t.className.text
    || t.tabIndex.any Binary64.isMinusOne
    || (tag = text "input" && t.inputType = some (text "file"))
    || (tag = text "label" && (roleType? t.role).isNone)

def isControl (t : Traits) (tag : Text) : Bool := tag ∈ interactiveTags || (roleType? t.role).isSome

/-- Is the element no control, but reached by the keyboard? -/
def isRegion (t : Traits) (tag : Text) : Bool := t.tabIndex.any Binary64.isZero && !t.isControl tag

def isValidated (t : Traits) : Bool := t.inputType.any (· ∈ ["email", "url", "number"].map text)

/-- The element, if a user can interact with it. One that only looks interactive is reported. -/
def element? (t : Traits) (tag : Text) (line : Nat) : Option InteractiveElement × List Event :=
  if t.isExcluded tag then (none, [])
  else if t.isControl tag || t.isRegion tag then
    (some {
      elementType := (roleType? t.role).getD tag
      tag, line
      className := t.className
      isContentRegion := t.isRegion tag
      canBeDisabled := t.canBeDisabled
      hasConditionalDisabled := t.hasConditionalDisabled
      canBeInvalid := t.canBeInvalid || t.isValidated
      hasPlaceholder := t.hasPlaceholder
      isRadioOrCheckbox := tag = text "input"
        && t.inputType.any (· ∈ ["radio", "checkbox"].map text) }, [])
  else (none, if stylesState t.className.text then [.visualContainerSkipped tag line] else [])

end Traits

/-- Classifies one element. Only a plain tag can be a control. -/
def classify (source : Source) (table : Table) (names : List Text) (element : Syntax) :
    Except NamelessAttribute (Option InteractiveElement × List Event) :=
  match (element.field? "name").filter (·.kind = "identifier") with
  | none => .ok (none, [])
  | some name =>
    (attributes source element).map fun list =>
      let (traits, events) := list.foldl (readAttribute source table names) ({}, [])
      let (found, more) := traits.element? (source.textOf name) (source.line element)
      (found, events ++ more)

end Markup

end StateCoverage
