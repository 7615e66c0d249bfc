import StateCoverage.Data.Entries
import StateCoverage.Proofs.Bindings

/-!
The fields of a mapping under the operations on its entries. Writing or changing an entry acts on
the fields as on bindings, so laying entries over weaker ones is decided name by name: what both
hold is laid over each other, and what one of them holds stays.
-/
namespace StateCoverage

namespace Bindings
variable {α β : Type} {name : Text}

theorem mem_names_put {other : Text} {v : α} {table : Bindings α} :
    name ∈ names (put other v table) ↔ name = other ∨ name ∈ names table := by
  rw [names_put]
  split
  · next h => exact ⟨.inr, Or.rec (fun heq => heq ▸ h) id⟩
  · rw [List.mem_append, List.mem_singleton, or_comm]

theorem mem_names_putAll {key : β → Text} {value : Bindings α → β → α} {items : List β}
    {table : Bindings α} :
    name ∈ names (putAll key value items table) ↔ name ∈ items.map key ∨ name ∈ names table := by
  induction items generalizing table with
  | nil => simp [putAll]
  | cons b rest ih =>
    have hstep : putAll key value (b :: rest) table =
        putAll key value rest (put (key b) (value table b) table) := rfl
    rw [hstep, ih, mem_names_put, List.map_cons, List.mem_cons, or_assoc, or_left_comm]

end Bindings

namespace Data
open Bindings
variable {entries strong weak : List (Data × Data)} {name : Text} {key value : Data}
  {change : Data → Data}

theorem field?_map : (map entries).field? name = valueOf? name (fields entries) := by
  rw [field?]
  induction fields entries with
  | nil => rfl
  | cons p rest ih =>
    obtain ⟨key, value⟩ := p
    by_cases h : key = name
    · simp [valueOf?, h]
    · simp [valueOf?, List.lookup_cons, beq_false_of_ne (Ne.symm h), h, ih]

/-- A text among the entries, or another key. -/
theorem fields_cons (key value : Data) (entries : List (Data × Data)) :
    (∃ name, key = .string name ∧
        fields ((key, value) :: entries) = (name, value) :: fields entries) ∨
      (∀ name, sameKey key (.string name) = false ∧ sameKey (.string name) key = false) ∧
        fields ((key, value) :: entries) = fields entries := by
  cases key with
  | string name => exact .inl ⟨name, rfl, rfl⟩
  | _ => exact .inr ⟨fun name => by simp [sameKey, keyNumber?], rfl⟩

/-- Changing what a text holds is writing what it changes to. -/
theorem fields_changeEntry (name : Text) (change : Data → Data) (value : Data)
    (entries : List (Data × Data)) :
    fields (changeEntry (.string name) change value entries) =
      put name ((valueOf? name (fields entries)).elim value change) (fields entries) := by
  induction entries with
  | nil => rfl
  | cons entry rest ih =>
    obtain ⟨old, before⟩ := entry
    rw [changeEntry]
    obtain ⟨other, rfl, hfields⟩ | ⟨hother, hfields⟩ := fields_cons old before rest
    · rw [hfields]
      by_cases h : other = name
      · simp [sameKey, h, fields, put, valueOf?]
      · simp [sameKey, h, fields, put, valueOf?, ih]
    · rw [if_neg (by simp [(hother name).1]), hfields]
      obtain ⟨other, rfl, -⟩ | ⟨-, hcons⟩ := fields_cons old before
        (changeEntry (.string name) change value rest)
      · simpa [sameKey] using (hother other).1
      · rw [hcons, ih]

/-- Changing what another key holds leaves the fields. -/
theorem fields_changeEntry_of_ne (hkey : ∀ name, key ≠ .string name) :
    fields (changeEntry key change value entries) = fields entries := by
  have hnot (value : Data) (entries : List (Data × Data)) :
      fields ((key, value) :: entries) = fields entries := by
    obtain ⟨name, h, -⟩ | ⟨-, h⟩ := fields_cons key value entries
    · exact absurd h (hkey name)
    · exact h
  induction entries with
  | nil => exact hnot _ _
  | cons entry rest ih =>
    obtain ⟨old, before⟩ := entry
    rw [changeEntry]
    cases old with
    | string other =>
      have hsame : sameKey (.string other) key = false := by
        obtain ⟨name, h, -⟩ | ⟨h, -⟩ := fields_cons key value rest
        · exact absurd h (hkey name)
        · exact (h other).2
      rw [if_neg (by simp [hsame])]
      simp only [fields, ih]
    | _ =>
      split
      · rfl
      · exact ih

theorem putEntry_eq (key value : Data) (entries : List (Data × Data)) :
    putEntry key value entries = changeEntry key (fun _ => value) value entries := by
  induction entries with
  | nil => rfl
  | cons entry rest ih =>
    obtain ⟨old, before⟩ := entry
    simp only [putEntry, changeEntry, ih]

theorem fields_putEntry (name : Text) (value : Data) (entries : List (Data × Data)) :
    fields (putEntry (.string name) value entries) = put name value (fields entries) := by
  rw [putEntry_eq, fields_changeEntry]
  cases valueOf? name (fields entries) <;> rfl

theorem fields_putEntry_of_ne (hkey : ∀ name, key ≠ .string name) :
    fields (putEntry key value entries) = fields entries := by
  rw [putEntry_eq, fields_changeEntry_of_ne hkey]

/-- Writing an entry leaves what other names stand for. -/
theorem valueOf?_putEntry_of_ne (h : key ≠ .string name) :
    valueOf? name (fields (putEntry key value entries)) = valueOf? name (fields entries) := by
  cases key with
  | string other =>
    have hne : name ≠ other := fun heq => h (heq ▸ rfl)
    rw [fields_putEntry, valueOf?_put_of_ne hne]
  | _ => rw [fields_putEntry_of_ne (by simp)]

/-- Laying entries over others writes their fields one after the other, each over what is there. -/
theorem fields_entriesOver (strong weak : List (Data × Data)) :
    fields (entriesOver strong weak) =
      putAll (·.1) (fun table p => (valueOf? p.1 table).elim p.2 (layered p.2)) (fields strong)
        (fields weak) := by
  induction strong generalizing weak with
  | nil => rw [entriesOver]; rfl
  | cons entry rest ih =>
    obtain ⟨key, value⟩ := entry
    rw [entriesOver, ih]
    obtain ⟨name, rfl, hfields⟩ | ⟨hother, hfields⟩ := fields_cons key value rest
    · rw [fields_changeEntry, hfields]
      rfl
    · have hkey : ∀ name, key ≠ .string name := by
        rintro name rfl
        simpa [sameKey] using (hother name).1
      rw [fields_changeEntry_of_ne hkey, hfields]

def Distinct (entries : List (Data × Data)) : Prop := (names (fields entries)).Nodup

theorem distinct_nil : Distinct [] := List.nodup_nil

theorem Distinct.putEntry (h : Distinct entries) (key value : Data) :
    Distinct (putEntry key value entries) := by
  unfold Distinct
  cases key with
  | string name =>
    rw [fields_putEntry]
    exact nodup_names_put h name value
  | _ => rwa [fields_putEntry_of_ne (by simp)]

theorem distinct_entriesOver (h : Distinct weak) : Distinct (entriesOver strong weak) := by
  rw [Distinct, fields_entriesOver]
  exact nodup_names_putAll h

instance decidableDistinct : Decidable (Distinct entries) :=
  inferInstanceAs (Decidable (names (fields entries)).Nodup)

instance decidableIsMap : (d : Data) → Decidable (∃ inner, d = map inner)
  | map inner => .isTrue ⟨inner, rfl⟩
  | null | bool _ | int _ | float _ | string _ | date _ | instant _ _ | list _ => .isFalse (by simp)

instance decidableForallMap {p : List (Data × Data) → Prop} [DecidablePred p] :
    (d : Data) → Decidable (∀ inner, d = map inner → p inner)
  | map inner => decidable_of_iff (p inner) (by simp)
  | null | bool _ | int _ | float _ | string _ | date _ | instant _ _ | list _ => .isTrue (by simp)

/-- A value over a weaker one, if they are there. -/
def over? : Option Data → Option Data → Option Data
  | some strong, some weak => some (layered strong weak)
  | some strong, none => some strong
  | none, weak => weak

theorem over?_none (value : Option Data) : over? value none = value := by
  cases value <;> rfl

theorem none_over? (value : Option Data) : over? none value = value := rfl

/-- All but mappings replaces what it is laid over. -/
theorem layered_of_ne_map {strong weak : Data} (h : ∀ entries, strong ≠ .map entries) :
    layered strong weak = strong := by
  unfold layered
  split
  · exact absurd rfl (h _)
  · rfl

/-- A mapping stays one, whatever it is laid over. -/
theorem exists_layered_map (inner : List (Data × Data)) (weak : Data) :
    ∃ more, layered (map inner) weak = map more := by
  unfold layered
  split
  · exact ⟨_, rfl⟩
  · exact ⟨inner, rfl⟩

/-- What entries laid over others hold under a name. -/
theorem field?_entriesOver (h : Distinct strong) :
    (map (entriesOver strong weak)).field? name =
      over? ((map strong).field? name) ((map weak).field? name) := by
  rw [field?_map, field?_map, field?_map, fields_entriesOver]
  cases hstrong : valueOf? name (fields strong) with
  | none =>
    rw [valueOf?_putAll_of_not_mem (valueOf?_eq_none_iff.mp hstrong)]
    rfl
  | some value =>
    -- The name is written once, and nothing before it touches what is there.
    obtain ⟨before, after, hsplit⟩ := List.append_of_mem (mem_of_valueOf? hstrong)
    have hnodup : (before.map (·.1) ++ name :: after.map (·.1)).Nodup := by
      have := h
      rwa [Distinct, hsplit, names, List.map_append, List.map_cons] at this
    obtain ⟨-, hcons, hbefore⟩ := List.nodup_append.mp hnodup
    have hafter : name ∉ after.map (·.1) := (List.nodup_cons.mp hcons).1
    have hfirst : name ∉ before.map (·.1) := fun hmem =>
      hbefore name hmem name List.mem_cons_self rfl
    rw [hsplit, valueOf?_putAll_last (b := (name, value)) hafter, valueOf?_putAll_of_not_mem hfirst]
    cases valueOf? name (fields weak) <;> rfl

/-- The texts among the keys of both. -/
theorem mem_names_entriesOver :
    name ∈ names (fields (entriesOver strong weak)) ↔
      name ∈ names (fields strong) ∨ name ∈ names (fields weak) := by
  rw [fields_entriesOver, mem_names_putAll]
  rfl

end Data

end StateCoverage
