import StateCoverage.Value
import Mathlib.Data.List.Basic

/-!
The strings inside a value. `Value.strings` lists exactly the non-empty ones, each property's in
turn.
-/
namespace StateCoverage.Value

theorem sizeOf_lt_of_mem {properties : List (Text × Value)} {k : Text} {v : Value}
    (h : (k, v) ∈ properties) : sizeOf v < sizeOf (Value.object properties) := by
  have hs := List.sizeOf_lt_of_mem h
  simp only [Prod.mk.sizeOf_spec, object.sizeOf_spec] at hs ⊢
  omega

/-- A fact about every value, from the facts about the properties of objects. -/
@[elab_as_elim, induction_eliminator]
theorem induct {P : Value → Prop} (string : ∀ s, P (.string s))
    (object : ∀ properties, (∀ k v, (k, v) ∈ properties → P v) → P (.object properties))
    (unresolved : P .unresolved) (v : Value) : P v :=
  match v with
  | .string s => string s
  | .object properties => object properties fun _ v _ => induct string object unresolved v
  | .unresolved => unresolved
termination_by sizeOf v
decreasing_by exact sizeOf_lt_of_mem ‹_›

inductive Leaf : Value → Text → Prop
  | string (s : Text) : Leaf (.string s) s
  | property {properties : List (Text × Value)} {key : Text} {value : Value} {s : Text} :
      (key, value) ∈ properties → Leaf value s → Leaf (.object properties) s

theorem stringsOfAll_eq (properties : List (Text × Value)) :
    stringsOfAll properties = properties.flatMap fun p => strings p.2 := by
  induction properties with
  | nil => simp [stringsOfAll]
  | cons p rest ih => simp [stringsOfAll, ih]

theorem strings_object (properties : List (Text × Value)) :
    strings (.object properties) = properties.flatMap fun p => strings p.2 := by
  rw [strings, stringsOfAll_eq]

theorem mem_strings_string {s t : Text} : t ∈ strings (.string s) ↔ t = s ∧ t ≠ [] := by
  by_cases h : s = []
  · simp only [strings, h, if_true]
    simp
  · simp only [strings, h, if_false, List.mem_singleton]
    constructor
    · intro heq
      obtain rfl := heq
      exact ⟨rfl, h⟩
    · exact And.left

/-- Exactly the non-empty strings of a value are listed. -/
theorem mem_strings_iff {v : Value} {s : Text} : s ∈ strings v ↔ Leaf v s ∧ s ≠ [] := by
  induction v with
  | string t =>
    rw [mem_strings_string]
    constructor
    · intro hand
      obtain ⟨rfl, h⟩ := hand
      exact ⟨.string s, h⟩
    · intro hand
      obtain ⟨⟨⟩, h⟩ := hand
      exact ⟨rfl, h⟩
  | object properties ih =>
    rw [strings_object, List.mem_flatMap]
    constructor
    · intro hex
      obtain ⟨⟨k, v⟩, hp, hs⟩ := hex
      obtain ⟨hl, h⟩ := (ih k v hp).mp hs
      exact ⟨.property hp hl, h⟩
    · intro hand
      obtain ⟨hl, h⟩ := hand
      cases hl with
      | property hp hl => exact ⟨_, hp, (ih _ _ hp).mpr ⟨hl, h⟩⟩
  | unresolved =>
    constructor
    · simp [strings]
    · intro hand
      obtain ⟨⟨⟩, -⟩ := hand

end StateCoverage.Value
