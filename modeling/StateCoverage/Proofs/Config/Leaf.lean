import StateCoverage.Proofs.Config.Load
import StateCoverage.Proofs.Data.Entries

/-!
The single settings of a configuration. Where the sections are mappings, the check of all data is
the check of every single setting, each on its own, and of the keys that are left over.
-/
namespace StateCoverage

namespace Checked
variable {α β : Type} {c : Checked α} {d : Checked β}

/-- The fault that an outcome reports. -/
def fault? : Checked α → Option Fault
  | invalid fault => some fault
  | _ => none

theorem fault?_eq_some_iff {fault : Fault} : c.fault? = some fault ↔ c = .invalid fault := by
  cases c <;> simp [fault?]

theorem isSome_fault?_iff : c.fault?.isSome ↔ ∃ fault, c = .invalid fault := by
  cases c <;> simp [fault?]

theorem fault?_map (f : α → β) : (c.map f).fault? = c.fault? := by
  cases c <;> rfl

/-- Of two faults the first is reported. -/
theorem fault?_both (hc : c ≠ .unknownHome) (hd : d ≠ .unknownHome) :
    (c.both d).fault? = c.fault?.or d.fault? := by
  cases c with
  | unknownHome => exact absurd rfl hc
  | _ =>
    cases d with
    | unknownHome => exact absurd rfl hd
    | _ => rfl

end Checked

inductive Leaf where
  | level
  | outputs
  | extensions
  | indexBasename
  | followImports
  | attributeNames
deriving DecidableEq

namespace Leaf
open Layers Validation Checked
variable {home : Text → Option Text} {entries strong weak : List (Data × Data)}

def all : List Leaf := [level, outputs, extensions, indexBasename, followImports, attributeNames]

theorem forall_iff {p : Leaf → Prop} :
    (∀ leaf, p leaf) ↔ p level ∧ p outputs ∧ p extensions ∧ p indexBasename ∧ p followImports ∧
      p attributeNames :=
  ⟨fun h => ⟨h _, h _, h _, h _, h _, h _⟩, fun ⟨h₁, h₂, h₃, h₄, h₅, h₆⟩ leaf => by
    cases leaf <;> assumption⟩

theorem mem_all (leaf : Leaf) : leaf ∈ all := by
  cases leaf <;> decide

def group : Leaf → Section
  | level | outputs => sections.get ⟨0, by decide⟩
  | extensions | indexBasename | followImports | attributeNames => sections.get ⟨1, by decide⟩

def name : Leaf → String
  | level => "level"
  | outputs => "outputs"
  | extensions => "extensions"
  | indexBasename => "index_basename"
  | followImports => "follow_imports"
  | attributeNames => "attribute_names"

theorem group_mem (leaf : Leaf) : leaf.group ∈ sections := by
  cases leaf <;> exact List.get_mem _ _

theorem name_mem (leaf : Leaf) : leaf.name ∈ leaf.group.fields := by
  cases leaf <;> decide

def location (leaf : Leaf) : Location := [text leaf.group.name, text leaf.name]

def Value : Leaf → Type
  | level => LogLevel
  | outputs => List LogOutput
  | extensions | attributeNames => List Text
  | indexBasename => Text
  | followImports => Bool

def of (c : Config) : (leaf : Leaf) → leaf.Value
  | level => c.logging.level
  | outputs => c.logging.outputs
  | extensions => c.resolver.extensions
  | indexBasename => c.resolver.indexBasename
  | followImports => c.resolver.followImports
  | attributeNames => c.resolver.attributeNames

def check (home : Text → Option Text) : (leaf : Leaf) → Location → Data → Checked leaf.Value
  | level => Validation.level
  | outputs => list (output home)
  | extensions => Validation.extensions
  | indexBasename => basename
  | followImports => bool
  | attributeNames => list string

def supplied? (leaf : Leaf) (entries : List (Data × Data)) : Option Data :=
  ((Data.map entries).field? (text leaf.group.name)).bind (Data.field? (text leaf.name))

/-- The outcome for a setting of which some data says this: without any, it has its default. -/
def outcome (home : Text → Option Text) (leaf : Leaf) : Option Data → Checked leaf.Value
  | some value => leaf.check home leaf.location value
  | none => .valid (of {} leaf)

/-- No setting may hold a mapping, and the refusal does not depend on what is in it. -/
theorem outcome_map (home : Text → Option Text) (leaf : Leaf) :
    ∃ reason, ∀ entries,
      leaf.outcome home (some (.map entries)) = .invalid ⟨leaf.location, .map entries, reason⟩ := by
  cases leaf <;> exact ⟨_, fun _ => rfl⟩

/-- Every section that is there is a mapping. -/
def Sectioned (entries : List (Data × Data)) : Prop :=
  ∀ s ∈ sections, ∀ value, (Data.map entries).field? (text s.name) = some value →
    ∃ inner, value = .map inner

instance decidableSectioned : Decidable (Sectioned entries) :=
  inferInstanceAs (Decidable (∀ s ∈ sections,
    ∀ value ∈ (Data.map entries).field? (text s.name), ∃ inner, value = .map inner))

def logging (outcome : (leaf : Leaf) → Checked leaf.Value) : Checked LoggingOptions :=
  ((outcome level).both (outcome outputs)).map fun found => ⟨found.1, found.2⟩

def resolver (outcome : (leaf : Leaf) → Checked leaf.Value) : Checked ResolverOptions :=
  ((outcome extensions).both ((outcome indexBasename).both
    ((outcome followImports).both (outcome attributeNames)))).map
      fun found => {
        extensions := found.1, indexBasename := found.2.1, followImports := found.2.2.1,
        attributeNames := found.2.2.2 }

def config (outcome : (leaf : Leaf) → Checked leaf.Value) (further : Checked Unit) :
    Checked Config :=
  ((logging outcome).both ((resolver outcome).both further)).map fun found => ⟨found.1, found.2.1⟩

/-- A field of a section that is there is its setting. -/
theorem field_eq_outcome (leaf : Leaf) {inner : List (Data × Data)}
    (hinner : (Data.map entries).field? (text leaf.group.name) = some (.map inner)) :
    field (leaf.check home) (of {} leaf) leaf.name [text leaf.group.name] (.map inner) =
      leaf.outcome home (leaf.supplied? entries) := by
  have hsupplied : leaf.supplied? entries = (Data.map inner).field? (text leaf.name) := by
    rw [supplied?, hinner, Option.bind_some]
  rw [hsupplied]
  cases h : (Data.map inner).field? (text leaf.name) with
  | none => exact field_of_none h
  | some value => exact field_of_some h

theorem supplied?_of_none (leaf : Leaf)
    (h : (Data.map entries).field? (text leaf.group.name) = none) :
    leaf.supplied? entries = none := by
  rw [supplied?, h, Option.bind_none]

theorem config_eq (h : Sectioned entries) :
    Validation.config home entries =
      config (fun leaf => leaf.outcome home (leaf.supplied? entries))
        (noFurther (Data.fields entries)) := by
  have hlogging : field (Validation.logging home) ({} : Config).logging "logging" []
      (.map entries) = logging fun leaf => leaf.outcome home (leaf.supplied? entries) := by
    rw [logging]
    cases hfield : (Data.map entries).field? (text "logging") with
    | none =>
      rw [field_of_none hfield, level.supplied?_of_none hfield,
        outputs.supplied?_of_none hfield]
      rfl
    | some value =>
      obtain ⟨inner, rfl⟩ := h _ (group_mem level) value hfield
      rw [field_of_some hfield, ← level.field_eq_outcome hfield,
        ← outputs.field_eq_outcome hfield]
      rfl
  have hresolver : field Validation.resolver ({} : Config).resolver "resolver" []
      (.map entries) = resolver fun leaf => leaf.outcome home (leaf.supplied? entries) := by
    rw [resolver]
    cases hfield : (Data.map entries).field? (text "resolver") with
    | none =>
      rw [field_of_none hfield, extensions.supplied?_of_none hfield,
        indexBasename.supplied?_of_none hfield,
        followImports.supplied?_of_none hfield,
        attributeNames.supplied?_of_none hfield]
      rfl
    | some value =>
      obtain ⟨inner, rfl⟩ := h _ (group_mem extensions) value hfield
      rw [field_of_some hfield, ← extensions.field_eq_outcome hfield,
        ← indexBasename.field_eq_outcome hfield,
        ← followImports.field_eq_outcome hfield,
        ← attributeNames.field_eq_outcome hfield]
      rfl
  rw [Validation.config, hlogging, hresolver]
  rfl

section Config
variable {outcome : (leaf : Leaf) → Checked leaf.Value} {further : Checked Unit}

theorem config_eq_valid {c : Config} :
    config outcome further = .valid c ↔
      (∀ leaf, outcome leaf = .valid (of c leaf)) ∧ further = .valid () := by
  rw [forall_iff]
  constructor
  · intro h
    obtain ⟨⟨l, r, _⟩, hall, rfl⟩ := map_eq_valid.mp h
    obtain ⟨hlogging, hall⟩ := both_eq_valid.mp hall
    obtain ⟨hresolver, hfurther⟩ := both_eq_valid.mp hall
    obtain ⟨⟨found, outs⟩, hparts, rfl⟩ := map_eq_valid.mp hlogging
    obtain ⟨hlevel, houtputs⟩ := both_eq_valid.mp hparts
    obtain ⟨⟨exts, base, follow, attrs⟩, hparts', rfl⟩ := map_eq_valid.mp hresolver
    obtain ⟨hexts, hparts'⟩ := both_eq_valid.mp hparts'
    obtain ⟨hbase, hparts'⟩ := both_eq_valid.mp hparts'
    obtain ⟨hfollow, hattrs⟩ := both_eq_valid.mp hparts'
    exact ⟨⟨hlevel, houtputs, hexts, hbase, hfollow, hattrs⟩, hfurther⟩
  · rintro ⟨⟨hlevel, houtputs, hexts, hbase, hfollow, hattrs⟩, hfurther⟩
    have hlogging : logging outcome = .valid c.logging :=
      map_eq_valid.mpr ⟨_, both_eq_valid.mpr ⟨hlevel, houtputs⟩, rfl⟩
    have hresolver : resolver outcome = .valid c.resolver :=
      map_eq_valid.mpr ⟨_, both_eq_valid.mpr ⟨hexts, both_eq_valid.mpr ⟨hbase,
        both_eq_valid.mpr ⟨hfollow, hattrs⟩⟩⟩, rfl⟩
    exact map_eq_valid.mpr ⟨_, both_eq_valid.mpr ⟨hlogging,
      both_eq_valid.mpr ⟨hresolver, hfurther⟩⟩, rfl⟩

/-- The fault that is reported is that of the first setting with one, or else of a key that is left
over. -/
theorem fault?_config (h : config outcome further ≠ .unknownHome) :
    (config outcome further).fault? =
      (all.findSome? fun leaf => (outcome leaf).fault?).or further.fault? := by
  have hparts := h
  simp only [config, logging, resolver, Ne, map_eq_unknownHome, both_eq_unknownHome, not_or]
    at hparts
  obtain ⟨⟨hlevel, houtputs⟩, ⟨hexts, hbase, hfollow, hattrs⟩, hfurther⟩ := hparts
  have hlogging : (logging outcome).fault? =
      (outcome level).fault?.or (outcome outputs).fault? := by
    rw [logging, fault?_map, fault?_both hlevel houtputs]
  have hresolver : (resolver outcome).fault? = (outcome extensions).fault?.or
      ((outcome indexBasename).fault?.or
        ((outcome followImports).fault?.or (outcome attributeNames).fault?)) := by
    rw [resolver, fault?_map, fault?_both hexts (by simp [both_eq_unknownHome, *]),
      fault?_both hbase (by simp [both_eq_unknownHome, *]), fault?_both hfollow hattrs]
  have hcons (leaf : Leaf) (rest : List Leaf) :
      (leaf :: rest).findSome? (fun leaf => (outcome leaf).fault?) =
        (outcome leaf).fault?.or (rest.findSome? fun leaf => (outcome leaf).fault?) := by
    cases h : (outcome leaf).fault? <;> simp [h]
  rw [config, Ne, map_eq_unknownHome, both_eq_unknownHome, not_or, both_eq_unknownHome, not_or] at h
  obtain ⟨hl, hr, hf⟩ := h
  rw [config, fault?_map, fault?_both hl (by simp [both_eq_unknownHome, *]), fault?_both hr hf,
    hlogging, hresolver]
  simp only [all, hcons, List.findSome?_nil, Option.or_none, Option.or_assoc]

end Config

end Leaf

end StateCoverage
