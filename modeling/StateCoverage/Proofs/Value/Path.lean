import StateCoverage.Proofs.Bindings
import StateCoverage.Proofs.Value.Leaf
import Mathlib.Data.List.Nodup

/-!
Chains of properties into a value. Where no object binds a key twice, the strings of a value stand
at the ends of its chains, each once and in the same order.
-/
namespace StateCoverage
open Bindings

namespace Value

def get? : List Text → Value → Option Value
  | [], v => some v
  | k :: rest, .object properties => (valueOf? k properties).bind (get? rest)
  | _ :: _, _ => none

theorem get?_concat (path : List Text) (k : Text) (v : Value) :
    v.get? (path ++ [k]) = (v.get? path).bind (get? [k]) := by
  induction path generalizing v with
  | nil => rfl
  | cons k' rest ih =>
    cases v with
    | object properties =>
      rw [List.cons_append, get?, get?, Option.bind_assoc]
      congr 1
      funext w
      exact ih w
    | string s => rfl
    | unresolved => rfl

theorem get?_unresolved_ne (path : List Text) (s : Text) :
    Value.unresolved.get? path ≠ some (.string s) := by
  cases path <;> simp [get?]

mutual

/-- All chains of properties in a value, each in front of those that it starts. -/
def paths : Value → List (List Text)
  | object properties => pathsOfAll properties
  | _ => []

def pathsOfAll : List (Text × Value) → List (List Text)
  | [] => []
  | (key, value) :: rest => [key] :: (paths value).map (key :: ·) ++ pathsOfAll rest

end

theorem paths_object (properties : List (Text × Value)) :
    paths (.object properties) =
      properties.flatMap fun p => ([] :: paths p.2).map (p.1 :: ·) := by
  rw [paths]
  induction properties with
  | nil => simp [pathsOfAll]
  | cons p rest ih => simp [pathsOfAll, ih]

/-- No object in the value binds a key twice. -/
inductive KeyedOnce : Value → Prop
  | string (s : Text) : KeyedOnce (.string s)
  | object {properties : List (Text × Value)} :
      (names properties).Nodup → (∀ p ∈ properties, KeyedOnce p.2) → KeyedOnce (.object properties)
  | unresolved : KeyedOnce .unresolved

theorem keyedOnce_object_iff {properties : List (Text × Value)} :
    KeyedOnce (.object properties) ↔
      (names properties).Nodup ∧ ∀ p ∈ properties, KeyedOnce p.2 := by
  constructor
  · intro h
    cases h with
    | object hnames hvalues => exact ⟨hnames, hvalues⟩
  · intro h
    exact .object h.1 h.2

/-- The non-empty string at the end of a chain. -/
def stringAt? (v : Value) (path : List Text) : Option Text :=
  match v.get? path with
  | some (.string s) => if s = [] then none else some s
  | _ => none

section Property
variable {properties : List (Text × Value)} {key : Text} {value : Value}
  (h : (names properties).Nodup) (hmem : (key, value) ∈ properties)
include h hmem

theorem get?_cons_of_mem (path : List Text) :
    (Value.object properties).get? (key :: path) = value.get? path := by
  rw [get?, valueOf?_of_mem h hmem, Option.bind_some]

theorem stringAt?_cons_of_mem (path : List Text) :
    (Value.object properties).stringAt? (key :: path) = value.stringAt? path := by
  rw [stringAt?, get?_cons_of_mem h hmem, stringAt?]

end Property

/-- The strings of a value are those at the ends of its chains, in the order of the chains. -/
theorem KeyedOnce.strings_eq {v : Value} (h : v.KeyedOnce) :
    strings v = ([] :: paths v).filterMap v.stringAt? := by
  induction v with
  | string s =>
    by_cases hs : s = []
    · simp [strings, paths, stringAt?, get?, hs]
    · simp [strings, paths, stringAt?, get?, hs]
  | unresolved => simp [strings, paths, stringAt?, get?]
  | object properties ih =>
    obtain ⟨hnames, hvalues⟩ := keyedOnce_object_iff.mp h
    have hself : (Value.object properties).stringAt? [] = none := rfl
    rw [List.filterMap_cons_none hself, strings_object, paths_object, List.filterMap_flatMap]
    refine List.flatMap_congr fun p hp => ?_
    rw [ih p.1 p.2 hp (hvalues p hp), List.filterMap_map]
    refine List.filterMap_congr fun path _ => ?_
    exact (stringAt?_cons_of_mem hnames hp path).symm

theorem ne_nil_of_mem_paths {v : Value} {path : List Text} (h : path ∈ paths v) : path ≠ [] := by
  cases v with
  | object properties =>
    obtain ⟨p, -, hp⟩ := List.mem_flatMap.mp (paths_object properties ▸ h)
    obtain ⟨rest, -, rfl⟩ := List.mem_map.mp hp
    exact List.cons_ne_nil p.1 rest
  | _ => simp [paths] at h

/-- The chains are those under which the value has something. -/
theorem KeyedOnce.mem_paths_iff {v : Value} (h : v.KeyedOnce) {path : List Text} :
    path ∈ [] :: paths v ↔ ∃ w, v.get? path = some w := by
  induction v generalizing path with
  | object properties ih =>
    obtain ⟨hnames, hvalues⟩ := keyedOnce_object_iff.mp h
    cases path with
    | nil => simp [get?]
    | cons k rest =>
      have hne : k :: rest ≠ [] := List.cons_ne_nil k rest
      rw [List.mem_cons, or_iff_right hne, paths_object, List.mem_flatMap]
      constructor
      · intro hex
        obtain ⟨⟨key, value⟩, hp, hin⟩ := hex
        obtain ⟨tail, htail, heq⟩ := List.mem_map.mp hin
        cases heq
        obtain ⟨w, hw⟩ := (ih key value hp (hvalues _ hp)).mp htail
        exact ⟨w, by rwa [get?_cons_of_mem hnames hp]⟩
      · intro hex
        obtain ⟨w, hw⟩ := hex
        obtain ⟨value, hvalue, hw⟩ := Option.bind_eq_some_iff.mp hw
        have hp : (k, value) ∈ properties := mem_of_valueOf? hvalue
        have hrest := (ih k value hp (hvalues _ hp)).mpr ⟨w, hw⟩
        exact ⟨(k, value), hp, List.mem_map_of_mem hrest⟩
  | _ =>
    cases path with
    | nil => simp [get?]
    | cons k rest => simp [paths, get?]

/-- No chain is listed twice. -/
theorem KeyedOnce.nodup_paths {v : Value} (h : v.KeyedOnce) : (paths v).Nodup := by
  induction v with
  | object properties ih =>
    obtain ⟨hnames, hvalues⟩ := keyedOnce_object_iff.mp h
    rw [paths_object, List.nodup_flatMap]
    constructor
    · intro p hp
      have hcons : Function.Injective (p.1 :: ·) := List.cons_injective
      refine List.Nodup.map hcons (List.nodup_cons.mpr ⟨?_, ih p.1 p.2 hp (hvalues p hp)⟩)
      intro hnil
      exact ne_nil_of_mem_paths hnil rfl
    · -- Chains of different properties differ in their first key.
      refine (List.pairwise_map.mp hnames).imp ?_
      intro p q hpq path hp hq
      obtain ⟨rest, -, rfl⟩ := List.mem_map.mp hp
      obtain ⟨rest', -, heq⟩ := List.mem_map.mp hq
      exact hpq (List.cons.inj heq).1.symm
  | _ => simp [paths]

end Value

/-- The table binds no name twice, and no object in it a key. -/
def Table.KeyedOnce (table : Table) : Prop := (Value.object table).KeyedOnce

end StateCoverage
