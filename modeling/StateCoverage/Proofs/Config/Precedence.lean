import StateCoverage.Proofs.Config.Sources
import StateCoverage.Proofs.Coverage

/-!
Precedence of the sources of settings, setting by setting. A load checks every setting with the
value of the strongest source that has one, and is refused exactly for a value that is taken so or
for a key that names no section.
-/
namespace StateCoverage

open Layers Validation

namespace Config
open Leaf
variable {files : Text → Option Opened} {root : Text} {named : Option Text}
  {surroundings : Surroundings} {given found file : List (Data × Data)}

/-- The data that is checked: what a caller gives over the environment, and both over the file. -/
def merged (given found file : List (Data × Data)) : List (Data × Data) :=
  Data.entriesOver (Data.entriesOver given found) file

def conclude : Checked Config → Except LoadError Config
  | .valid c => .ok c
  | .invalid fault =>
    .error (.config (.invalidValue (Text.join (text ".") fault.location) fault.value fault.reason))
  | .unknownHome => .error .unknownHome

theorem conclude_eq_ok {checked : Checked Config} {c : Config} :
    conclude checked = .ok c ↔ checked = .valid c := by
  cases checked <;> simp [conclude]

theorem conclude_refused_iff {checked : Checked Config} :
    (∃ field value reason, conclude checked = .error (.config (.invalidValue field value reason))) ↔
      ∃ fault, checked = .invalid fault := by
  cases checked <;> simp [conclude]

/-- Keys are texts, sections are mappings, and variables that have to hold JSON hold it. -/
structure Orderly (vars : List (Text × Text)) (given file : List (Data × Data)) : Prop where
  keys : TextKeys given ∧ TextKeys file
  unambiguous : Unambiguous given
  sections : Sectioned given ∧ Sectioned file
  objects : ∀ s ∈ Layers.sections, HoldsObject s vars
  lists : ∀ s ∈ Layers.sections, ∀ name ∈ s.lists, ∀ v ∈ vars, v.1 = variableName s (text name) →
    v.2 ≠ [] → (Json.read? v.2).isSome

instance decidableOrderly {vars : List (Text × Text)} : Decidable (Orderly vars given file) :=
  decidable_of_iff ((TextKeys given ∧ TextKeys file) ∧ Unambiguous given ∧
      (Sectioned given ∧ Sectioned file) ∧ (∀ s ∈ Layers.sections, HoldsObject s vars) ∧
      ∀ s ∈ Layers.sections, ∀ name ∈ s.lists, ∀ v ∈ vars, v.1 = variableName s (text name) →
        v.2 ≠ [] → (Json.read? v.2).isSome)
    ⟨fun ⟨h₁, h₂, h₃, h₄, h₅⟩ => ⟨h₁, h₂, h₃, h₄, h₅⟩, fun h =>
      ⟨h.keys, h.unambiguous, h.sections, h.objects, h.lists⟩⟩

theorem Orderly.exists_environment {vars : List (Text × Text)} (h : Orderly vars given file) :
    ∃ found, environment vars Layers.sections = .ok found := by
  refine (exists_environment_iff fun _ => uncut_of_mem).mpr fun s hs hbad => ?_
  cases hbad with
  | own hvalue hnone =>
    obtain ⟨inner, hread⟩ := h.objects s hs _ hvalue
    rw [hnone] at hread
    cases hread
  | list _ hname hmem hvalue hnone =>
    have hread := h.lists s hs _ hname _ hmem rfl hvalue
    rw [hnone] at hread
    cases hread

/-- A load ends as its check does; the second check changes nothing. -/
theorem load_eq_conclude {opened : Option (Text × Opened)}
    (hsource : source files root named = .ok opened) (hfile : settings opened = .ok file)
    (hkeys : TextKeys given ∧ TextKeys file)
    (hfound : environment (loweredNames surroundings.vars) Layers.sections = .ok found) :
    load files root named surroundings given =
      conclude (Validation.config surroundings.home (merged given found file)) := by
  have htext := (all_isText_layers_iff hfound).mpr (textKeys_append.mpr hkeys)
  rw [load, hsource]
  dsimp only
  rw [hfile]
  dsimp only
  rw [ofLayers, hfound]
  dsimp only
  rw [if_pos htext]
  unfold merged
  cases h : Validation.config surroundings.home
      (Data.entriesOver (Data.entriesOver given found) file) with
  | valid c => exact recheck_of_valid h
  | _ => rfl

/-- No output of the list is in the home directory of somebody unknown. -/
def KnownHomes (home : Text → Option Text) (outputs : Option Data) : Prop :=
  ∀ items o s, outputs = some (.list items) → o ∈ items →
    o.field? (text "destination") = some (.string s) → ¬ NamesUnknownHome home s

/-- Every setting is taken on its own from three sources, the strongest first. -/
structure PerSetting (home : Text → Option Text) (given found file : List (Data × Data))
    (outcome : Except LoadError Config) : Prop where
  /-- The load ends as the check of all sources over each other does, -/
  checked : outcome = conclude (Validation.config home (merged given found file))
  /-- where a setting has what the sources say about it alone, -/
  supplied : ∀ leaf : Leaf,
    leaf.supplied? (merged given found file) = leaf.joined? [given, found, file]
  /-- which is the value of the first source that has one. -/
  fromFirst : ∀ leaf : Leaf,
    FromFirst (leaf.first? [given, found, file]) (leaf.joined? [given, found, file])
  loaded : ∀ c, outcome = .ok c ↔
    (∀ leaf : Leaf, leaf.outcome home (leaf.first? [given, found, file]) = .valid (leaf.of c)) ∧
      ¬ HasFurther given ∧ ¬ HasFurther file
  refused : (∃ field value reason, outcome = .error (.config (.invalidValue field value reason))) ↔
    (∃ (leaf : Leaf) (fault : Fault),
      leaf.outcome home (leaf.first? [given, found, file]) = .invalid fault) ∨
        HasFurther given ∨ HasFurther file
  /-- Of several faults the first is reported, with the value that was checked. -/
  reported : ∀ fault : Fault,
    (Leaf.all.findSome? fun leaf =>
      (leaf.outcome home (leaf.joined? [given, found, file])).fault?) = some fault →
        outcome = .error (.config
          (.invalidValue (Text.join (text ".") fault.location) fault.value fault.reason))
  ends : (∃ c, outcome = .ok c) ∨
    ∃ field value reason, outcome = .error (.config (.invalidValue field value reason))

/-- The environment names sections only. -/
theorem hasFurther_merged_iff {vars : List (Text × Text)}
    (hfound : environment vars Layers.sections = .ok found) :
    HasFurther (merged given found file) ↔ HasFurther given ∨ HasFurther file := by
  obtain ⟨-, hnames, -⟩ := environment_eq_ok nodup_sections hfound
  simp only [HasFurther, merged, Data.mem_names_entriesOver, or_and_right, exists_or]
  have hnone : ¬ ∃ name ∈ Bindings.names (Data.fields found),
      name ∉ Layers.sections.map fun s => text s.name :=
    fun ⟨name, hname, hnot⟩ => hnot (hnames name hname)
  rw [or_iff_left hnone]

section Merged
variable {vars : List (Text × Text)} {home : Text → Option Text} (h : Orderly vars given file)
  (hfound : environment vars Layers.sections = .ok found)
include h hfound

theorem sectioned_merged : Sectioned (merged given found file) := by
  have hover : Sectioned (Data.entriesOver given found) :=
    sectioned_entriesOver h.unambiguous.names h.sections.1 (sectioned_environment h.objects hfound)
  have hnames : Data.Distinct (Data.entriesOver given found) :=
    Data.distinct_entriesOver (unambiguous_environment h.objects hfound).names
  exact sectioned_entriesOver hnames hover h.sections.2

theorem supplied?_merged (leaf : Leaf) :
    leaf.supplied? (merged given found file) = leaf.joined? [given, found, file] := by
  have henv := sectioned_environment h.objects hfound
  have hu := unambiguous_environment h.objects hfound
  have hover := sectioned_entriesOver h.unambiguous.names h.sections.1 henv
  have huover := unambiguous_entriesOver h.unambiguous hu h.sections.1 henv
  rw [merged, supplied?_entriesOver huover hover h.sections.2,
    supplied?_entriesOver h.unambiguous h.sections.1 henv]
  rfl

theorem config_merged_ne_unknownHome
    (hhomes : KnownHomes home (outputs.first? [given, found, file])) :
    Validation.config home (merged given found file) ≠ .unknownHome := by
  rw [Ne, config_eq_unknownHome]
  rintro ⟨logging, items, o, s, hlogging, hitems, ho, hs, hunknown⟩
  have hjoined : outputs.joined? [given, found, file] = some (.list items) := by
    rw [← supplied?_merged h hfound, supplied?]
    exact Option.bind_eq_some_iff.mpr ⟨logging, hlogging, hitems⟩
  have hfrom := joined?_fromFirst outputs [given, found, file]
  -- A list among all values can only be that of the first source.
  have hfirst : outputs.first? [given, found, file] = some (.list items) := by
    cases hvalue : outputs.first? [given, found, file] with
    | none => rw [hfrom.absent hvalue] at hjoined; cases hjoined
    | some value =>
      by_cases hmap : ∃ inner, value = .map inner
      · obtain ⟨inner, rfl⟩ := hmap
        obtain ⟨more, hmore⟩ := hfrom.mapping inner hvalue
        rw [hmore] at hjoined
        cases hjoined
      · rw [← hfrom.taken value hvalue fun inner heq => hmap ⟨inner, heq⟩, hjoined]
  exact hhomes items o s hfirst ho hs hunknown

theorem config_merged_eq_valid_iff {c : Config} :
    Validation.config home (merged given found file) = .valid c ↔
      (∀ leaf : Leaf, leaf.outcome home (leaf.first? [given, found, file]) = .valid (leaf.of c)) ∧
        ¬ HasFurther given ∧ ¬ HasFurther file := by
  have hsame (leaf : Leaf) :=
    (joined?_fromFirst leaf [given, found, file]).sameOutcome home leaf
  rw [config_eq (sectioned_merged h hfound), config_eq_valid, ← not_or,
    ← hasFurther_merged_iff hfound]
  refine and_congr (forall_congr' fun leaf => ?_) ?_
  · rw [supplied?_merged h hfound, (hsame leaf).valid]
  · obtain ⟨hyes, fault, hfault⟩ | ⟨hno, hvalid⟩ := noFurther_outcome (merged given found file)
    · simp [hyes, hfault]
    · simp [hno, hvalid]

/-- The first fault among the values of all sources over each other, or else that of a key. -/
theorem fault?_config_merged (hhomes : KnownHomes home (outputs.first? [given, found, file])) :
    (Validation.config home (merged given found file)).fault? =
      (Leaf.all.findSome? fun leaf =>
        (leaf.outcome home (leaf.joined? [given, found, file])).fault?).or
          (noFurther (Data.fields (merged given found file))).fault? := by
  have hknown := config_merged_ne_unknownHome h hfound hhomes
  rw [config_eq (sectioned_merged h hfound)] at hknown ⊢
  rw [fault?_config hknown]
  simp only [supplied?_merged h hfound]

theorem exists_invalid_config_merged_iff
    (hhomes : KnownHomes home (outputs.first? [given, found, file])) :
    (∃ fault, Validation.config home (merged given found file) = .invalid fault) ↔
      (∃ (leaf : Leaf) (fault : Fault),
        leaf.outcome home (leaf.first? [given, found, file]) = .invalid fault) ∨
          HasFurther given ∨ HasFurther file := by
  have hsame (leaf : Leaf) :=
    (joined?_fromFirst leaf [given, found, file]).sameOutcome home leaf
  have hfurther : (noFurther (Data.fields (merged given found file))).fault?.isSome ↔
      HasFurther (merged given found file) := by
    rw [Checked.isSome_fault?_iff]
    obtain ⟨hyes, hfault⟩ | ⟨hno, hvalid⟩ := noFurther_outcome (merged given found file)
    · exact iff_of_true hfault hyes
    · exact iff_of_false (by simp [hvalid]) hno
  rw [← Checked.isSome_fault?_iff, fault?_config_merged h hfound hhomes, Option.isSome_or,
    Bool.or_eq_true, hfurther, hasFurther_merged_iff hfound, List.findSome?_isSome_iff]
  refine or_congr_left ?_
  simp only [Leaf.mem_all, true_and, Checked.isSome_fault?_iff, (hsame _).invalid]

end Merged

/-- Settings are taken one by one. Where keys are texts, sections are mappings, variables that have
to hold JSON hold it and the outputs that are taken name no unknown home directory, a load checks
every setting with the value of the first source that has one, whole and whatever is said about its
neighbours, or else gives it its default. It is refused exactly if a value that is taken so is
invalid or a key names no section, so a value that is outweighed does no harm. Only a mapping, which
no setting may hold, is joined with the mappings of weaker sources before it is refused. -/
theorem settings_from_first_source {opened : Option (Text × Opened)}
    (hsource : source files root named = .ok opened) (hfile : settings opened = .ok file)
    (h : Orderly (loweredNames surroundings.vars) given file) :
    ∃ found, environment (loweredNames surroundings.vars) Layers.sections = .ok found ∧
      (∀ leaf : Leaf, leaf.Plain (loweredNames surroundings.vars) →
        leaf.supplied? found = Data.over? (leaf.ownVariable? (loweredNames surroundings.vars))
          (leaf.inObject? (loweredNames surroundings.vars))) ∧
      (KnownHomes surroundings.home (outputs.first? [given, found, file]) →
        PerSetting surroundings.home given found file
          (load files root named surroundings given)) := by
  obtain ⟨found, hfound⟩ := h.exists_environment
  refine ⟨found, hfound, fun leaf hleaf =>
    supplied?_environment (tidy_loweredNames _) h.objects hfound hleaf, fun hhomes => ?_⟩
  have hload := load_eq_conclude hsource hfile h.keys hfound
  have hinvalid := exists_invalid_config_merged_iff h hfound hhomes
  exact {
    checked := hload
    supplied := supplied?_merged h hfound
    fromFirst := fun leaf => joined?_fromFirst leaf _
    loaded := fun c => by rw [hload, conclude_eq_ok, config_merged_eq_valid_iff h hfound]
    refused := by rw [hload, conclude_refused_iff, hinvalid]
    reported := fun fault hfault => by
      have hfirst : (Validation.config surroundings.home (merged given found file)).fault? =
          some fault := by
        rw [fault?_config_merged h hfound hhomes, hfault, Option.some_or]
      rw [hload, Checked.fault?_eq_some_iff.mp hfirst, conclude]
    ends := by
      rw [hload, conclude_refused_iff]
      simp only [conclude_eq_ok]
      cases hchecked : Validation.config surroundings.home (merged given found file) with
      | valid c => exact .inl ⟨c, rfl⟩
      | invalid fault => exact .inr ⟨fault, rfl⟩
      | unknownHome => exact absurd hchecked (config_merged_ne_unknownHome h hfound hhomes) }

def fileWith (content : String) (path : Text) : Option Opened :=
  if path = text "statelint.yaml" then some (.ok (Utf8.encode content.toList)) else none

/-- A level and a name that are invalid. -/
def faultyFile : String := "logging:\n  level: LOUD\nresolver:\n  index_basename: a/b\n"

/-- A level, a list, and an object with the same list and a name. -/
def layeredVars : List (Text × Text) :=
  [(text "STATELINT__LOGGING__LEVEL", text "ERROR"),
    (text "STATELINT__RESOLVER__EXTENSIONS", text "[\".b\", \".c\"]"),
    (text "STATELINT__RESOLVER",
      text "\x7b\"index_basename\": \"main\", \"extensions\": [\"x\"]\x7d")]

def namesGiven : List (Data × Data) :=
  [(.string (text "resolver"), .record [(text "attribute_names", .list [.string (text "tw")])])]

def layered : Surroundings := ⟨layeredVars, fun _ => none⟩

theorem faultyFile_outweighed :
    ∃ file found c,
      environment (loweredNames layered.vars) Layers.sections = .ok found ∧
      load (fileWith faultyFile) [] none layered namesGiven = .ok c ∧
      PerSetting (fun _ => none) namesGiven found file (.ok c) ∧
      (c.logging.level, c.resolver.extensions, c.resolver.indexBasename,
        c.resolver.attributeNames) =
          (.error, [text ".b", text ".c"], text "main", [text "tw"]) := by
  have hsource : source (fileWith faultyFile) [] none =
      .ok (some (text "statelint.yaml", .ok (Utf8.encode faultyFile.toList))) := rfl
  obtain ⟨file, hfile, hgood⟩ := exists_ok_of_map_toOption
    (show (settings (some (text "statelint.yaml",
        .ok (Utf8.encode faultyFile.toList)))).toOption.map
        (fun file => decide (Orderly (loweredNames layered.vars) namesGiven file) &&
          (outputs.supplied? file).isNone) = some true by
      decide +kernel)
  obtain ⟨horderly, houtputs⟩ := Bool.and_eq_true_iff.mp hgood
  obtain ⟨c, hc, hvalues⟩ := exists_ok_of_map_toOption
    (show (load (fileWith faultyFile) [] none layered namesGiven).toOption.map
        (fun c => (c.logging.level, c.resolver.extensions, c.resolver.indexBasename,
          c.resolver.attributeNames)) =
          some (.error, [text ".b", text ".c"], text "main", [text "tw"]) by
      decide +kernel)
  obtain ⟨found, hfound, -, hsettings⟩ :=
    settings_from_first_source hsource hfile (of_decide_eq_true horderly)
  obtain ⟨found', hfound', hnone⟩ := exists_ok_of_map_toOption
    (show (environment (loweredNames layered.vars) Layers.sections).toOption.map
        (fun found => (outputs.supplied? found).isNone) = some true by
      decide +kernel)
  obtain rfl : found = found' := Except.ok.inj (hfound.symm.trans hfound')
  have hfirst : outputs.first? [namesGiven, found, file] = none := by
    have hgiven : (outputs.supplied? namesGiven).isNone := by decide +kernel
    simp only [Option.isNone_iff_eq_none] at hgiven hnone houtputs
    simp [first?, hgiven, hnone, houtputs]
  refine ⟨file, found, c, hfound, hc, ?_, hvalues⟩
  rw [← hc]
  refine hsettings fun items o s hitems => ?_
  rw [hfirst] at hitems
  cases hitems

/-- What an error says: where a value stands, and the value as it is shown. -/
def shownFault? : Except LoadError Config → Option (Text × Text)
  | .error (.config (.invalidValue field value _)) => some (field, value.shown)
  | _ => none

def mappedLevelFile : String := "logging:\n  level:\n    b: 2\n"

def mappedLevel : List (Data × Data) :=
  [(.string (text "logging"), .record [(text "level", .record [(text "a", .int 1)])])]

/-- The value that is refused is not always that of the first source: a mapping is joined with one
below. -/
theorem mappedLevel_joined :
    ¬ ∀ files root named surroundings given opened file found (leaf : Leaf) value shown,
      source files root named = .ok opened → settings opened = .ok file →
      Orderly (loweredNames surroundings.vars) given file →
      environment (loweredNames surroundings.vars) Layers.sections = .ok found →
      KnownHomes surroundings.home (outputs.first? [given, found, file]) →
      leaf.first? [given, found, file] = some value →
      shownFault? (load files root named surroundings given) =
        some (Text.join (text ".") leaf.location, shown) → shown = value.shown := by
  intro h
  have hsource : source (fileWith mappedLevelFile) [] none =
      .ok (some (text "statelint.yaml", .ok (Utf8.encode mappedLevelFile.toList))) := rfl
  obtain ⟨file, hfile, hgood⟩ := exists_ok_of_map_toOption
    (show (settings (some (text "statelint.yaml",
        .ok (Utf8.encode mappedLevelFile.toList)))).toOption.map
        (fun file => decide (Orderly (loweredNames []) mappedLevel file) &&
          (outputs.supplied? file).isNone) = some true by
      decide +kernel)
  obtain ⟨horderly, houtputs⟩ := Bool.and_eq_true_iff.mp hgood
  have hfound : environment (loweredNames []) Layers.sections = .ok [] := rfl
  have hfirst : outputs.first? [mappedLevel, [], file] = none := by
    have hgiven : (outputs.supplied? mappedLevel).isNone := by decide +kernel
    have hnone : outputs.supplied? [] = none := rfl
    simp only [Option.isNone_iff_eq_none] at hgiven houtputs
    simp [first?, hgiven, hnone, houtputs]
  have hhomes : KnownHomes (fun _ => none) (outputs.first? [mappedLevel, [], file]) := by
    rw [hfirst]
    rintro items o s ⟨⟩
  have hlevel : level.first? [mappedLevel, [], file] = some (.record [(text "a", .int 1)]) := rfl
  have hshown : shownFault?
      (load (fileWith mappedLevelFile) [] none ⟨[], fun _ => none⟩ mappedLevel) =
        some (Text.join (text ".") level.location, text "\x7b'b': 2, 'a': 1\x7d") := by
    decide +kernel
  have hsame := h _ _ _ ⟨[], fun _ => none⟩ _ _ _ _ level _ _ hsource hfile
    (of_decide_eq_true horderly) hfound hhomes hlevel hshown
  exact absurd hsame (by decide +kernel)

end Config

end StateCoverage
