import StateCoverage.Proofs.Config.Environment

/-!
The sources of settings over each other. What they say together about a setting depends only on what
each of them says about it, never on its neighbours: it is the value of the first source that has
one. Only a mapping, which no setting may hold, is joined with the mappings below it.
-/
namespace StateCoverage

open Layers Validation

/-! ### Sources over each other -/

/-- At the top and in the sections every name is written once, as in every mapping of a program. -/
structure Unambiguous (entries : List (Data × Data)) : Prop where
  names : Data.Distinct entries
  fields : ∀ s ∈ sections, ∀ inner,
    (Data.map entries).field? (text s.name) = some (.map inner) → Data.Distinct inner

instance decidableUnambiguous {entries : List (Data × Data)} : Decidable (Unambiguous entries) :=
  decidable_of_iff (Data.Distinct entries ∧ ∀ s ∈ sections,
      ∀ value ∈ (Data.map entries).field? (text s.name),
        ∀ inner, value = .map inner → Data.Distinct inner)
    ⟨fun h => ⟨h.1, fun s hs inner hinner => h.2 s hs _ hinner inner rfl⟩,
      fun h => ⟨h.names, fun s hs _ hvalue inner heq => h.fields s hs inner (heq ▸ hvalue)⟩⟩

instance decidableTextKeys {entries : List (Data × Data)} : Decidable (TextKeys entries) :=
  inferInstanceAs (Decidable (∀ entry ∈ entries, isText entry.1 = true))

namespace Leaf
variable {strong weak : List (Data × Data)}

/-- What two sources hold of a section: one of them alone, or both of them over each other. -/
theorem field?_section_cases (hnames : Data.Distinct strong) (hstrong : Sectioned strong)
    (hweak : Sectioned weak) {s : Section} (hs : s ∈ sections) :
    (Data.map strong).field? (text s.name) = none ∧
        (Data.map (Data.entriesOver strong weak)).field? (text s.name) =
          (Data.map weak).field? (text s.name) ∨
      (Data.map weak).field? (text s.name) = none ∧
        (Data.map (Data.entriesOver strong weak)).field? (text s.name) =
          (Data.map strong).field? (text s.name) ∨
      ∃ above below, (Data.map strong).field? (text s.name) = some (.map above) ∧
        (Data.map weak).field? (text s.name) = some (.map below) ∧
        (Data.map (Data.entriesOver strong weak)).field? (text s.name) =
          some (.map (Data.entriesOver above below)) := by
  have hover : (Data.map (Data.entriesOver strong weak)).field? (text s.name) = Data.over?
      ((Data.map strong).field? (text s.name)) ((Data.map weak).field? (text s.name)) :=
    Data.field?_entriesOver hnames
  cases habove : (Data.map strong).field? (text s.name) with
  | none =>
    rw [habove] at hover
    exact .inl ⟨rfl, hover⟩
  | some above =>
    cases hbelow : (Data.map weak).field? (text s.name) with
    | none =>
      rw [habove, hbelow] at hover
      exact .inr (.inl ⟨rfl, hover⟩)
    | some below =>
      obtain ⟨above, rfl⟩ := hstrong s hs above habove
      obtain ⟨below, rfl⟩ := hweak s hs below hbelow
      rw [habove, hbelow, Data.over?, Data.layered] at hover
      exact .inr (.inr ⟨above, below, rfl, rfl, hover⟩)

theorem sectioned_entriesOver (hnames : Data.Distinct strong) (hstrong : Sectioned strong)
    (hweak : Sectioned weak) : Sectioned (Data.entriesOver strong weak) := by
  intro s hs value hvalue
  obtain ⟨-, h⟩ | ⟨-, h⟩ | ⟨above, below, -, -, h⟩ := field?_section_cases hnames hstrong hweak hs
  · exact hweak s hs value (h ▸ hvalue)
  · exact hstrong s hs value (h ▸ hvalue)
  · rw [h] at hvalue
    exact ⟨_, (Option.some.inj hvalue).symm⟩

theorem unambiguous_entriesOver (hu : Unambiguous strong) (hu' : Unambiguous weak)
    (hstrong : Sectioned strong) (hweak : Sectioned weak) :
    Unambiguous (Data.entriesOver strong weak) := by
  refine ⟨Data.distinct_entriesOver hu'.names, fun s hs inner hinner => ?_⟩
  obtain ⟨-, h⟩ | ⟨-, h⟩ | ⟨above, below, -, hbelow, h⟩ :=
    field?_section_cases hu.names hstrong hweak hs
  · exact hu'.fields s hs inner (h ▸ hinner)
  · exact hu.fields s hs inner (h ▸ hinner)
  · rw [h] at hinner
    obtain rfl := Data.map.inj (Option.some.inj hinner)
    exact Data.distinct_entriesOver (hu'.fields s hs below hbelow)

/-- Neighbours do not matter: what two sources say about a setting is what they say about it alone,
one over the other. -/
theorem supplied?_entriesOver (hu : Unambiguous strong) (hstrong : Sectioned strong)
    (hweak : Sectioned weak) (leaf : Leaf) :
    leaf.supplied? (Data.entriesOver strong weak) =
      Data.over? (leaf.supplied? strong) (leaf.supplied? weak) := by
  unfold supplied?
  obtain ⟨hnone, h⟩ | ⟨hnone, h⟩ | ⟨above, below, habove, hbelow, h⟩ :=
    field?_section_cases hu.names hstrong hweak leaf.group_mem
  · rw [h, hnone, Option.bind_none, Data.none_over?]
  · rw [h, hnone, Option.bind_none, Data.over?_none]
  · rw [h, habove, hbelow]
    exact Data.field?_entriesOver (hu.fields _ leaf.group_mem above habove)

/-! ### The first source with a value -/

/-- The value of the first source that has one. -/
def first? (leaf : Leaf) (sources : List (List (Data × Data))) : Option Data :=
  sources.findSome? leaf.supplied?

/-- The values of all sources over each other. -/
def joined? (leaf : Leaf) (sources : List (List (Data × Data))) : Option Data :=
  sources.foldl (fun found source => Data.over? found (leaf.supplied? source)) none

/-- All but a mapping hides what is below it. -/
theorem foldl_over?_of_ne_map {leaf : Leaf} {sources : List (List (Data × Data))} {value : Data}
    (h : ∀ inner, value ≠ .map inner) :
    sources.foldl (fun found source => Data.over? found (leaf.supplied? source)) (some value) =
      some value := by
  induction sources with
  | nil => rfl
  | cons source rest ih =>
    have hstep : Data.over? (some value) (leaf.supplied? source) = some value := by
      cases leaf.supplied? source with
      | none => rfl
      | some below => exact congrArg some (Data.layered_of_ne_map h)
    rw [List.foldl_cons, hstep, ih]

/-- A mapping stays one. -/
theorem foldl_over?_map {leaf : Leaf} {sources : List (List (Data × Data))}
    (inner : List (Data × Data)) :
    ∃ more, sources.foldl (fun found source => Data.over? found (leaf.supplied? source))
      (some (.map inner)) = some (.map more) := by
  induction sources generalizing inner with
  | nil => exact ⟨inner, rfl⟩
  | cons source rest ih =>
    obtain ⟨next, hnext⟩ :
        ∃ next, Data.over? (some (.map inner)) (leaf.supplied? source) = some (.map next) := by
      cases leaf.supplied? source with
      | none => exact ⟨inner, rfl⟩
      | some below =>
        obtain ⟨next, hnext⟩ := Data.exists_layered_map inner below
        exact ⟨next, congrArg some hnext⟩
    rw [List.foldl_cons, hnext]
    exact ih next

/-- How the values of all sources over each other come from the first one. -/
structure FromFirst (first joined : Option Data) : Prop where
  absent : first = none → joined = none
  taken : ∀ value, first = some value → (∀ inner, value ≠ .map inner) → joined = some value
  mapping : ∀ inner, first = some (.map inner) → ∃ more, joined = some (.map more)

theorem joined?_fromFirst (leaf : Leaf) (sources : List (List (Data × Data))) :
    FromFirst (leaf.first? sources) (leaf.joined? sources) := by
  induction sources with
  | nil => exact ⟨fun _ => rfl, fun value h => (by cases h), fun inner h => (by cases h)⟩
  | cons source rest ih =>
    cases hsource : leaf.supplied? source with
    | none =>
      have hfirst : leaf.first? (source :: rest) = leaf.first? rest := by
        rw [first?, List.findSome?_cons, hsource]
        rfl
      have hjoined : leaf.joined? (source :: rest) = leaf.joined? rest := by
        rw [joined?, List.foldl_cons, hsource]
        rfl
      rwa [hfirst, hjoined]
    | some value =>
      have hfirst : leaf.first? (source :: rest) = some value := by
        rw [first?, List.findSome?_cons, hsource]
      have hjoined : leaf.joined? (source :: rest) =
          rest.foldl (fun found source => Data.over? found (leaf.supplied? source))
            (some value) := by
        rw [joined?, List.foldl_cons, hsource]
        rfl
      rw [hfirst, hjoined]
      refine ⟨fun h => (by cases h), fun value' h hne => ?_, fun inner h => ?_⟩
      · obtain rfl := Option.some.inj h
        exact foldl_over?_of_ne_map hne
      · obtain rfl := Option.some.inj h
        exact foldl_over?_map inner

/-- Joining mappings changes no outcome but the value in the refusal. -/
structure SameOutcome {α : Type} (c d : Checked α) : Prop where
  valid : ∀ x, c = .valid x ↔ d = .valid x
  invalid : (∃ fault, c = .invalid fault) ↔ ∃ fault, d = .invalid fault

theorem FromFirst.sameOutcome {first joined : Option Data} (h : FromFirst first joined)
    (home : Text → Option Text) (leaf : Leaf) :
    SameOutcome (leaf.outcome home joined) (leaf.outcome home first) := by
  have hsame {value : Option Data} (hvalue : joined = value) (hfirst : first = value) :
      SameOutcome (leaf.outcome home joined) (leaf.outcome home first) := by
    rw [hvalue, hfirst]
    exact ⟨fun _ => .rfl, .rfl⟩
  cases hfirst : first with
  | none => exact hfirst ▸ hsame (h.absent hfirst) hfirst
  | some value =>
    by_cases hmap : ∃ inner, value = .map inner
    · obtain ⟨inner, rfl⟩ := hmap
      obtain ⟨more, hmore⟩ := h.mapping inner hfirst
      obtain ⟨reason, hreason⟩ := leaf.outcome_map home
      rw [hmore, hreason, hreason]
      exact ⟨by simp, by simp⟩
    · exact hfirst ▸ hsame (h.taken value hfirst fun inner heq => hmap ⟨inner, heq⟩) hfirst

/-! ### Keys that are left over -/

def HasFurther (entries : List (Data × Data)) : Prop :=
  ∃ name ∈ Bindings.names (Data.fields entries), name ∉ sections.map fun s => text s.name

/-- Such keys are refused, and nothing else is at the top. -/
theorem noFurther_outcome (entries : List (Data × Data)) :
    HasFurther entries ∧ (∃ fault, noFurther (Data.fields entries) = .invalid fault) ∨
      ¬ HasFurther entries ∧ noFurther (Data.fields entries) = .valid () := by
  have hsections (name : Text) : name ∉ (sections.map fun s => text s.name) ↔
      (name ≠ text "logging" && name ≠ text "resolver") = true := by
    simp [sections]
  unfold noFurther HasFurther
  simp only [hsections]
  cases h : (Data.fields entries).find? fun p => p.1 ≠ text "logging" && p.1 ≠ text "resolver" with
  | some p =>
    have hname := List.find?_some h
    exact .inl ⟨⟨p.1, List.mem_map_of_mem (List.mem_of_find?_eq_some h), hname⟩, _, rfl⟩
  | none =>
    refine .inr ⟨?_, rfl⟩
    rintro ⟨name, hname, hfurther⟩
    obtain ⟨p, hp, rfl⟩ := List.mem_map.mp hname
    exact absurd hfurther (List.find?_eq_none.mp h p hp)

/-! ### What the environment says about a setting -/

def ownVariable? (leaf : Leaf) (vars : List (Text × Text)) : Option Data :=
  (Bindings.valueOf? (variableName leaf.group (text leaf.name)) vars).bind
    (variableValue? leaf.group [text leaf.name])

/-- The value in the object that the variable of its section holds. -/
def inObject? (leaf : Leaf) (vars : List (Text × Text)) : Option Data :=
  (Data.map (ownEntries leaf.group vars)).field? (text leaf.name)

/-- No variable names something inside the setting, and the object of its section spells it as it
is. -/
structure Plain (leaf : Leaf) (vars : List (Text × Text)) : Prop where
  whole : Whole leaf.group (text leaf.name) vars
  spelled : ∀ name ∈ Bindings.names (Data.fields (ownEntries leaf.group vars)),
    name.lowerAscii = text leaf.name → name = text leaf.name

end Leaf

namespace Layers
variable {vars : List (Text × Text)} {found : List (Data × Data)}

theorem nodup_sections : (sections.map fun s => text s.name).Nodup := by
  decide

theorem supplied?_environment (hvars : Tidy vars) (hobjects : ∀ s ∈ sections, HoldsObject s vars)
    (h : environment vars sections = .ok found) {leaf : Leaf} (hleaf : leaf.Plain vars) :
    leaf.supplied? found = Data.over? (leaf.ownVariable? vars) (leaf.inObject? vars) := by
  obtain ⟨-, -, hsections⟩ := environment_eq_ok nodup_sections h
  have hsmall : (text leaf.name).lowerAscii = text leaf.name := by
    cases leaf <;> decide
  have hcut : cutDouble (text leaf.name) = [text leaf.name] := by
    cases leaf <;> decide
  exact field?_sectionVariables hvars (hobjects _ leaf.group_mem) (hsections _ leaf.group_mem)
    leaf.name_mem hsmall hcut hleaf.whole hleaf.spelled

theorem sectioned_environment (hobjects : ∀ s ∈ sections, HoldsObject s vars)
    (h : environment vars sections = .ok found) : Leaf.Sectioned found := by
  intro s hs value hvalue
  obtain ⟨-, -, hsections⟩ := environment_eq_ok nodup_sections h
  obtain ⟨inner, rfl, -⟩ :=
    exists_map_of_sectionVariables? (hobjects s hs) (hvalue ▸ hsections s hs)
  exact ⟨inner, rfl⟩

theorem unambiguous_environment (hobjects : ∀ s ∈ sections, HoldsObject s vars)
    (h : environment vars sections = .ok found) : Unambiguous found := by
  obtain ⟨hnames, -, hsections⟩ := environment_eq_ok nodup_sections h
  refine ⟨hnames, fun s hs inner hinner => ?_⟩
  obtain ⟨inner, heq, hdistinct⟩ :=
    exists_map_of_sectionVariables? (hobjects s hs) (hinner ▸ hsections s hs)
  obtain rfl := Data.map.inj heq
  exact hdistinct

end Layers

end StateCoverage
