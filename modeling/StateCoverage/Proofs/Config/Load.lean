import StateCoverage.Proofs.Config.Layers

/-!
Loading a configuration gives one, or an error of the configuration, or it breaks off. What makes it
break off is listed here: a file that cannot be opened or decoded, a scalar without a value, a
variable without JSON, a key that is no text, an unknown home directory. The second check of the
data never does. The list goes as far as the model does, which has no limits on how deeply a file or
a variable may be nested, nor on the digits of a number.
-/
namespace StateCoverage.Config
open Layers Validation

/-- A configuration, or an error of the configuration. -/
inductive Proper : Except LoadError Config → Prop
  | loaded (c : Config) : Proper (.ok c)
  | refused (cause : ConfigError) : Proper (.error (.config cause))

instance decidableProper : (outcome : Except LoadError Config) → Decidable (Proper outcome)
  | .ok c => .isTrue (.loaded c)
  | .error (.config cause) => .isTrue (.refused cause)
  | .error (.unopened _) | .error (.undecodable _) | .error (.unconvertible _)
  | .error (.unreadableVariable _) | .error .nonTextKey | .error .unknownHome
  | .error (.refusedAgain _) => .isFalse (by rintro ⟨⟩)

/-- No error of the configuration. -/
def Foreign (e : LoadError) : Prop := ∀ cause, e ≠ .config cause

theorem not_proper_iff {outcome : Except LoadError Config} :
    ¬ Proper outcome ↔ ∃ e, outcome = .error e ∧ Foreign e := by
  constructor
  · intro h
    cases outcome with
    | ok c => exact absurd (.loaded c) h
    | error e =>
      refine ⟨e, rfl, fun cause he => h ?_⟩
      rw [he]
      exact .refused cause
  · rintro ⟨e, rfl, he⟩ h
    cases h with
    | refused cause => exact he cause rfl

/-! ### The file -/

theorem source_error {files : Text → Option Opened} {root : Text} {named : Option Text}
    {e : LoadError} (h : source files root named = .error e) : ¬ Foreign e := by
  unfold source at h
  split at h
  · split at h
    · cases h
    · cases h
      exact fun he => he _ rfl
  · cases h

/-- The file breaks the load off. -/
inductive FileCrash : Option (Text × Opened) → LoadError → Prop
  | unopened {path reason : Text} : FileCrash (some (path, .error reason)) (.unopened reason)
  | undecodable {path : Text} {bytes : List UInt8} {fault : Utf8.Fault × Nat × List UInt8} :
      Utf8.decodeStrict 0 bytes = .error fault →
        FileCrash (some (path, .ok bytes)) (.undecodable (text (Utf8.faultMessage fault)))
  | unconvertible {path : Text} {bytes : List UInt8} {cs : List Char} {cause : Yaml.Unconvertible} :
      Utf8.decodeStrict 0 bytes = .ok cs →
        Yaml.read (plainLines cs) = .error (.unconvertible cause) →
          FileCrash (some (path, .ok bytes)) (.unconvertible cause)

theorem fileCrash_iff {found : Option (Text × Opened)} {e : LoadError} :
    FileCrash found e ↔ settings found = .error e ∧ Foreign e := by
  constructor
  · intro h
    cases h with
    | unopened => exact ⟨rfl, by rintro cause ⟨⟩⟩
    | undecodable hbytes =>
      refine ⟨?_, by rintro cause ⟨⟩⟩
      rw [settings, file, hbytes]
    | unconvertible hbytes hread =>
      refine ⟨?_, by rintro cause ⟨⟩⟩
      rw [settings, file, hbytes]
      dsimp only
      rw [hread]
  · rintro ⟨h, he⟩
    unfold settings at h
    split at h
    · cases h
    · cases h
      exact .unopened
    · unfold file at h
      split at h
      · next fault hbytes =>
        cases h
        exact .undecodable hbytes
      · next cs hbytes =>
        split at h
        · cases h
          exact absurd rfl (he _)
        · next cause hread =>
          cases h
          exact .unconvertible hbytes hread
        · cases h
        · split at h
          · cases h
          · cases h
            exact absurd rfl (he _)

/-! ### The layers -/

/-- What is let through is let through again. -/
theorem recheck_of_valid {home : Text → Option Text} {entries : List (Data × Data)} {c : Config}
    (h : Validation.config home entries = .valid c) : recheck home c = .ok c := by
  rw [recheck, config_toEntries (config_valid h)]

/-- The layers break the load off. -/
inductive LayersCrash (surroundings : Surroundings) (entries given : List (Data × Data)) :
    LoadError → Prop
  /-- The first section with an unreadable variable. -/
  | unreadableVariable {before after : List Section} {s : Section} :
      sections = before ++ s :: after →
        (∀ s ∈ before, ¬ Unreadable s (loweredNames surroundings.vars)) →
          Unreadable s (loweredNames surroundings.vars) →
            LayersCrash surroundings entries given (.unreadableVariable (text s.name))
  | nonTextKey :
      (∀ s ∈ sections, ¬ Unreadable s (loweredNames surroundings.vars)) →
        ¬ TextKeys (given ++ entries) → LayersCrash surroundings entries given .nonTextKey
  | unknownHome {found : List (Data × Data)} :
      environment (loweredNames surroundings.vars) sections = .ok found →
        TextKeys (given ++ entries) →
          AsksUnknownHome surroundings.home
              (Data.entriesOver (Data.entriesOver given found) entries) →
            LayersCrash surroundings entries given .unknownHome

/-- The environment adds no key that is no text. -/
theorem all_isText_layers_iff {vars : List (Text × Text)} {found given entries : List (Data × Data)}
    (hfound : environment vars sections = .ok found) :
    ((Data.entriesOver (Data.entriesOver given found) entries).all fun entry => isText entry.1) =
      true ↔ TextKeys (given ++ entries) := by
  have hall {entries : List (Data × Data)} :
      (entries.all fun entry => isText entry.1) = true ↔ TextKeys entries := by
    simp [TextKeys]
  rw [hall, textKeys_entriesOver, textKeys_entriesOver, textKeys_append]
  simp [textKeys_environment hfound]

theorem layersCrash_iff {surroundings : Surroundings} {entries given : List (Data × Data)}
    {e : LoadError} :
    LayersCrash surroundings entries given e ↔
      ofLayers surroundings entries given = .error e ∧ Foreign e := by
  have huncut : ∀ s ∈ sections, Uncut s := fun _ => uncut_of_mem
  constructor
  · intro h
    cases h with
    | unreadableVariable hall hbefore hbad =>
      have hfound := (environment_eq_error_iff huncut).mpr ⟨_, _, _, hall, hbefore, hbad, rfl⟩
      exact ⟨by rw [ofLayers, hfound], by rintro cause ⟨⟩⟩
    | nonTextKey hgood hkey =>
      obtain ⟨found, hfound⟩ := (exists_environment_iff huncut).mpr hgood
      refine ⟨?_, by rintro cause ⟨⟩⟩
      rw [ofLayers, hfound]
      exact if_neg fun h => hkey ((all_isText_layers_iff hfound).mp h)
    | unknownHome hfound hkey hhome =>
      refine ⟨?_, by rintro cause ⟨⟩⟩
      rw [ofLayers, hfound]
      dsimp only
      rw [if_pos ((all_isText_layers_iff hfound).mpr hkey), config_eq_unknownHome.mpr hhome]
  · rintro ⟨h, he⟩
    unfold ofLayers at h
    split at h
    · next e' hfound =>
      cases h
      obtain ⟨before, s, after, hall, hbefore, hbad, rfl⟩ :=
        (environment_eq_error_iff huncut).mp hfound
      exact .unreadableVariable hall hbefore hbad
    · next found hfound =>
      dsimp only at h
      split at h
      · next hkey =>
        split at h
        · next c hvalid =>
          rw [recheck_of_valid hvalid] at h
          cases h
        · cases h
          exact absurd rfl (he _)
        · next hunknown =>
          cases h
          exact .unknownHome hfound ((all_isText_layers_iff hfound).mp hkey)
            (config_eq_unknownHome.mp hunknown)
      · next hkey =>
        cases h
        exact .nonTextKey ((exists_environment_iff huncut).mp ⟨found, hfound⟩)
          fun h => hkey ((all_isText_layers_iff hfound).mpr h)

/-! ### The whole -/

/-- What breaks a load off: the file, or else the layers. -/
inductive Crash (files : Text → Option Opened) (root : Text) (named : Option Text)
    (surroundings : Surroundings) (given : List (Data × Data)) (e : LoadError) : Prop
  | file {found : Option (Text × Opened)} :
      source files root named = .ok found → FileCrash found e →
        Crash files root named surroundings given e
  | layers {found : Option (Text × Opened)} {entries : List (Data × Data)} :
      source files root named = .ok found → settings found = .ok entries →
        LayersCrash surroundings entries given e → Crash files root named surroundings given e

section Load
variable {files : Text → Option Opened} {root : Text} {named : Option Text}
  {surroundings : Surroundings} {given : List (Data × Data)}

theorem crash_iff {e : LoadError} :
    Crash files root named surroundings given e ↔
      load files root named surroundings given = .error e ∧ Foreign e := by
  constructor
  · intro h
    cases h with
    | file hfound h =>
      obtain ⟨hsettings, he⟩ := fileCrash_iff.mp h
      exact ⟨by simp only [load, hfound, hsettings], he⟩
    | layers hfound hsettings h =>
      obtain ⟨hlayers, he⟩ := layersCrash_iff.mp h
      exact ⟨by simp only [load, hfound, hsettings, hlayers], he⟩
  · rintro ⟨h, he⟩
    unfold load at h
    split at h
    · next hfound =>
      cases h
      exact absurd he (source_error hfound)
    · next found hfound =>
      split at h
      · next hsettings =>
        cases h
        exact .file hfound (fileCrash_iff.mpr ⟨hsettings, he⟩)
      · next entries hsettings =>
        exact .layers hfound hsettings (layersCrash_iff.mpr ⟨h, he⟩)

/-- A load gives a configuration or an error of the configuration exactly if nothing breaks it off,
and otherwise it ends in what broke it off. -/
theorem load_proper_iff_not_crash :
    (Proper (load files root named surroundings given) ↔
      ∀ e, ¬ Crash files root named surroundings given e) ∧
    ∀ e, Crash files root named surroundings given e →
      load files root named surroundings given = .error e := by
  refine ⟨?_, fun e h => (crash_iff.mp h).1⟩
  -- What is not proper is an error of another kind, and each of these has a cause in the list.
  rw [← not_iff_not, not_proper_iff, not_forall]
  simp only [not_not, crash_iff]

end Load

/-- A directory with a configuration whose only key is a number. -/
def numberedFile (path : Text) : Option Opened :=
  if path = text "statelint.yaml" then some (.ok [0x31, 0x3A, 0x20, 0x78, 0x0A]) else none

/-- Not every load is proper. -/
theorem numberedFile_not_proper :
    ¬ ∀ files root named surroundings given, Proper (load files root named surroundings given) := by
  intro h
  have hfalse : ¬ Proper (load numberedFile [] none ⟨[], fun _ => none⟩ []) := by decide +kernel
  exact hfalse (h _ _ _ _ _)

end StateCoverage.Config
