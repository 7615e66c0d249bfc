import StateCoverage.Markup.Element
import Mathlib.Data.List.Induction
import Mathlib.Tactic.SplitIfs

/-!
What the attributes of an element say together. The name of an attribute decides its slot, which is
what it is read for; of a slot counts what its last attribute says, or that it has any.
-/
namespace StateCoverage.Markup

/-- What an attribute is read for. -/
inductive Slot where
  | classes
  | role
  | type
  | tabIndex
  | disabled
  | validation
  | placeholder
deriving DecidableEq

/-- The slot of a name. The names of class attributes come before all others; most names have no
slot. -/
def slot? (names : List Text) (name : Text) : Option Slot :=
  if name ∈ names then some .classes
  else if name = text "role" then some .role
  else if name = text "type" then some .type
  else if name = text "tabIndex" then some .tabIndex
  else if name = text "disabled" then some .disabled
  else if name ∈ validationNames then some .validation
  else if name = text "placeholder" then some .placeholder
  else none

theorem slot?_eq_classes_iff (names : List Text) (name : Text) :
    slot? names name = some .classes ↔ name ∈ names := by
  unfold slot?
  split_ifs <;> simp_all

/-- The expression that a class attribute has as its value; empty braces have none. One that nests
too deep counts as an expression that nothing is known of. -/
def classExpression? (source : Source) (value : Syntax) : Option Expr :=
  if value.kind = "string" then some (.string (quotedText source value))
  else
    (if value.kind = "jsx_expression" then expression? value else some value).map fun e =>
      (e.lower? source).getD (.other e.kind (source.textOf e))

theorem classOutcome_fst (source : Source) (table : Table) (value : Syntax) :
    (classOutcome source table value).1 =
      (classExpression? source value).map (·.resolve table) := by
  unfold classOutcome classExpression?
  split_ifs with hstring hbraces
  · simp [Expr.resolve]
  · cases expression? value with
    | none => rfl
    | some e => cases h : e.lower? source <;> simp [h, Expr.resolve, Expr.render]
  · cases h : value.lower? source <;> simp [h, Expr.resolve, Expr.render]

/-- All that one attribute says; its slot tells which part counts. -/
structure Reading where
  name : Text
  /-- The text of a quoted value. -/
  string : Option Text
  /-- The number in braces. -/
  number : Option Binary64
  /-- Do braces hold anything but `true`? -/
  conditional : Bool
  /-- The value as an expression for class text. -/
  classes : Option Expr

def Attribute.reading (source : Source) (a : Attribute) : Reading where
  name := a.name
  string := string? source a.value
  number := number? source a.value
  conditional := (a.value.bind expression?).any (·.kind ≠ "true")
  classes := a.value.bind (classExpression? source)

section Traits
variable (names : List Text)

def inSlot (slot : Slot) (list : List Reading) : List Reading :=
  list.filter fun r => slot? names r.name = some slot

def lastClass? (list : List Reading) : Option Expr :=
  ((inSlot names .classes list).filterMap (·.classes)).getLast?

/-- What attributes say together. Of the role, the type and the tab index counts what the last
attribute says, even if that is nothing. -/
def traitsOf (table : Table) (list : List Reading) : Traits where
  className := ((lastClass? names list).map (·.resolve table)).getD (.known [])
  role := (inSlot names .role list).getLast?.bind (·.string)
  inputType := (inSlot names .type list).getLast?.bind (·.string)
  tabIndex := (inSlot names .tabIndex list).getLast?.bind (·.number)
  canBeDisabled := !(inSlot names .disabled list).isEmpty
  hasConditionalDisabled := (inSlot names .disabled list).any (·.conditional)
  canBeInvalid := !(inSlot names .validation list).isEmpty
  hasPlaceholder := !(inSlot names .placeholder list).isEmpty

theorem inSlot_concat (slot : Slot) (list : List Reading) (r : Reading) :
    inSlot names slot (list ++ [r]) =
      inSlot names slot list ++ if slot? names r.name = some slot then [r] else [] := by
  unfold inSlot
  rw [List.filter_append]
  by_cases h : slot? names r.name = some slot <;> simp [h]

theorem lastClass?_concat (list : List Reading) (r : Reading) :
    lastClass? names (list ++ [r]) =
      if slot? names r.name = some .classes then r.classes.or (lastClass? names list)
      else lastClass? names list := by
  unfold lastClass?
  rw [inSlot_concat]
  split_ifs with h
  · rw [List.filterMap_append, List.getLast?_append]
    cases hr : r.classes <;> simp [hr]
  · rw [List.append_nil]

end Traits

section Fold
variable (source : Source) (table : Table) (names : List Text)

def classReading (a : Attribute) : Option Resolution × List Event :=
  match a.value with
  | some value => if a.name ∈ names then classOutcome source table value else (none, [])
  | none => (none, [])

theorem classReading_of_not_mem {a : Attribute} (h : a.name ∉ names) :
    classReading source table names a = (none, []) := by
  unfold classReading
  cases a.value with
  | none => rfl
  | some value => exact if_neg h

theorem classReading_fst {a : Attribute} (h : a.name ∈ names) :
    (classReading source table names a).1 =
      (a.reading source).classes.map (·.resolve table) := by
  unfold classReading Attribute.reading
  cases a.value with
  | none => rfl
  | some value =>
    dsimp only
    rw [if_pos h, classOutcome_fst]
    rfl

/-- One attribute changes what belongs to its slot. -/
theorem readAttribute_eq (traits : Traits) (events : List Event) (a : Attribute) :
    readAttribute source table names (traits, events) a =
      (match slot? names a.name with
        | some .classes => { traits with
            className := (classReading source table names a).1.getD traits.className }
        | some .role => { traits with role := (a.reading source).string }
        | some .type => { traits with inputType := (a.reading source).string }
        | some .tabIndex => { traits with tabIndex := (a.reading source).number }
        | some .disabled => { traits with
            canBeDisabled := true
            hasConditionalDisabled :=
              traits.hasConditionalDisabled || (a.reading source).conditional }
        | some .validation => { traits with canBeInvalid := true }
        | some .placeholder => { traits with hasPlaceholder := true }
        | none => traits,
        events ++ (classReading source table names a).2) := by
  by_cases hmem : a.name ∈ names
  · rw [readAttribute, if_pos hmem, (slot?_eq_classes_iff names a.name).mpr hmem]
    unfold classReading
    cases a.value with
    | none => simp
    | some value => simp [hmem]
  · rw [readAttribute, if_neg hmem, classReading_of_not_mem source table names hmem,
      List.append_nil, slot?, if_neg hmem]
    split_ifs <;> rfl

/-- So what the attributes up to one say is extended by that one. -/
theorem readAttribute_traitsOf (list : List Reading) (events : List Event) (a : Attribute) :
    readAttribute source table names (traitsOf names table list, events) a =
      (traitsOf names table (list ++ [a.reading source]),
        events ++ (classReading source table names a).2) := by
  have hname : (a.reading source).name = a.name := rfl
  rw [readAttribute_eq, Prod.mk.injEq]
  refine ⟨?_, rfl⟩
  unfold traitsOf
  simp only [inSlot_concat, lastClass?_concat, hname]
  cases hslot : slot? names a.name with
  | none => simp
  | some slot =>
    cases slot with
    | classes =>
      rw [classReading_fst source table names ((slot?_eq_classes_iff names a.name).mp hslot)]
      cases (a.reading source).classes <;> simp
    | _ => simp

/-- The loop over the attributes of an element gives what they say together. -/
theorem foldl_readAttribute (list : List Attribute) :
    list.foldl (readAttribute source table names) ({}, []) =
      (traitsOf names table (list.map (·.reading source)),
        list.flatMap fun a => (classReading source table names a).2) := by
  -- from the end of the list, for in a slot the last attribute counts
  induction list using List.reverseRecOn with
  | nil => rfl
  | append_singleton list a ih =>
    rw [List.foldl_append, ih, List.foldl_cons, List.foldl_nil, readAttribute_traitsOf,
      List.map_append, List.flatMap_append]
    simp

end Fold

end StateCoverage.Markup
