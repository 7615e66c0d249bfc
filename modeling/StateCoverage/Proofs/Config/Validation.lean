import StateCoverage.Config.Dump
import StateCoverage.Proofs.Path
import Mathlib.Data.List.Basic

/-!
What the check of settings lets through. A configuration that is let through is sound: its own data
passes the check again and gives the same configuration. The check stops for an unknown home
directory exactly if the destination of some output names one.
-/
namespace StateCoverage

theorem map_eq_error_iff {α β ε : Type} {f : α → β} {x : Except ε α} {e : ε} :
    x.map f = .error e ↔ x = .error e := by
  cases x <;> simp [Except.map]

namespace Checked
variable {α β : Type} {c : Checked α} {d : Checked β}

theorem map_eq_valid {f : α → β} {y : β} : c.map f = .valid y ↔ ∃ x, c = .valid x ∧ f x = y := by
  cases c <;> simp [map]

theorem map_eq_unknownHome {f : α → β} : c.map f = .unknownHome ↔ c = .unknownHome := by
  cases c <;> simp [map]

theorem both_eq_valid {x : α} {y : β} :
    c.both d = .valid (x, y) ↔ c = .valid x ∧ d = .valid y := by
  cases c <;> cases d <;> simp [both]

theorem both_eq_unknownHome : c.both d = .unknownHome ↔ c = .unknownHome ∨ d = .unknownHome := by
  cases c <;> cases d <;> simp [both]

theorem andThen_eq_valid {check : α → Checked β} {y : β} :
    c.andThen check = .valid y ↔ ∃ x, c = .valid x ∧ check x = .valid y := by
  cases c <;> simp [andThen]

theorem andThen_eq_unknownHome {check : α → Checked β} :
    c.andThen check = .unknownHome ↔
      c = .unknownHome ∨ ∃ x, c = .valid x ∧ check x = .unknownHome := by
  cases c <;> simp [andThen]

theorem all_eq_valid {list : List (Checked α)} {xs : List α} :
    all list = .valid xs ↔ list = xs.map .valid := by
  induction list generalizing xs with
  | nil => cases xs <;> simp [all]
  | cons c rest ih =>
    rw [all, map_eq_valid]
    constructor
    · rintro ⟨⟨x, ys⟩, hboth, rfl⟩
      obtain ⟨rfl, hrest⟩ := both_eq_valid.mp hboth
      rw [ih.mp hrest, List.map_cons]
    · intro h
      cases xs with
      | nil => cases h
      | cons x xs =>
        obtain ⟨rfl, hrest⟩ := List.cons.inj h
        exact ⟨(x, xs), both_eq_valid.mpr ⟨rfl, ih.mpr hrest⟩, rfl⟩

theorem all_eq_unknownHome {list : List (Checked α)} :
    all list = .unknownHome ↔ .unknownHome ∈ list := by
  induction list with
  | nil => simp [all]
  | cons c rest ih =>
    rw [all, map_eq_unknownHome, both_eq_unknownHome, ih, List.mem_cons, eq_comm]

end Checked

namespace Validation
open Checked
variable {α : Type} {home : Text → Option Text} {location : Location} {d : Data}

section Parts
variable {check : Location → Data → Checked α} {default : α} {name : String}

theorem field_of_some {value : Data} (h : d.field? (text name) = some value) :
    field check default name location d = check (location ++ [text name]) value := by
  rw [field, h]

theorem field_of_none (h : d.field? (text name) = none) :
    field check default name location d = .valid default := by
  rw [field, h]

/-- A field holds its default, or what its check lets through. -/
theorem field_valid {p : α → Prop} (hdefault : p default)
    (hcheck : ∀ location value x, check location value = .valid x → p x) {x : α}
    (h : field check default name location d = .valid x) : p x := by
  cases hfield : d.field? (text name) with
  | none =>
    rw [field_of_none hfield] at h
    cases h
    exact hdefault
  | some value =>
    rw [field_of_some hfield] at h
    exact hcheck _ value x h

theorem field_eq_unknownHome :
    field check default name location d = .unknownHome ↔
      ∃ value, d.field? (text name) = some value ∧
        check (location ++ [text name]) value = .unknownHome := by
  cases h : d.field? (text name) with
  | none => simp [field_of_none h]
  | some value => simp [field_of_some h]

theorem inSection_valid {kind : String} {value : Data} {x : α}
    (h : inSection kind check location value = .valid x) :
    ∃ entries, value = .map entries ∧ check location (.map entries) = .valid x := by
  unfold inSection at h
  split at h
  · exact ⟨_, rfl, h⟩
  · cases h

theorem inSection_eq_unknownHome {kind : String} {value : Data} :
    inSection kind check location value = .unknownHome ↔
      ∃ entries, value = .map entries ∧ check location (.map entries) = .unknownHome := by
  unfold inSection
  split
  · simp
  · next hmap =>
    simp only [fault, reduceCtorEq, false_iff]
    rintro ⟨entries, rfl, -⟩
    exact hmap entries rfl

theorem list_valid {value : Data} {xs : List α} (h : list check location value = .valid xs) {x : α}
    (hx : x ∈ xs) : ∃ location value, check location value = .valid x := by
  unfold list at h
  split at h
  · have hmem : Checked.valid x ∈ xs.map .valid := List.mem_map_of_mem hx
    rw [← all_eq_valid.mp h] at hmem
    obtain ⟨⟨value, i⟩, -, hvalue⟩ := List.mem_map.mp hmem
    exact ⟨_, value, hvalue⟩
  · cases h

theorem list_eq_unknownHome {value : Data} :
    list check location value = .unknownHome ↔
      ∃ items, value = .list items ∧ ∃ i item, items[i]? = some item ∧
        check (location ++ [Text.ofNat i]) item = .unknownHome := by
  unfold list
  split
  · next items =>
    rw [all_eq_unknownHome]
    simp only [List.mem_map, Prod.exists, List.mem_zipIdx_iff_getElem?, Data.list.injEq,
      exists_eq_left']
    exact exists_comm
  · next hlist =>
    simp only [fault, reduceCtorEq, false_iff]
    rintro ⟨items, rfl, -⟩
    exact hlist items rfl

/-- A list of data that a check reads back is valid. -/
theorem list_of_forall {f : α → Data} {xs : List α}
    (h : ∀ x ∈ xs, ∀ location, check location (f x) = .valid x) :
    list check location (.list (xs.map f)) = .valid xs := by
  rw [list, all_eq_valid]
  refine List.ext_getElem (by simp) fun i hi hi' => ?_
  simp only [List.getElem_map, List.getElem_zipIdx]
  exact h _ (List.getElem_mem _) _

end Parts

/-! ### Unknown home directories -/

/-- The path starts in the home directory of somebody who can be looked up, and is unknown. -/
def NamesUnknownHome (home : Text → Option Text) (path : Text) : Prop :=
  Path.isAbsolute path = false ∧
    ∃ user rest, Path.names path = (.scalar '~' :: user) :: rest ∧ impossibleName? user = none ∧
      ∀ directory, home user = some directory → Text.startsWith (text "~") directory = true

theorem homeDirectory_eq_unknown {user : Text} :
    homeDirectory home user = .error .unknown ↔ impossibleName? user = none ∧
      ∀ directory, home user = some directory → Text.startsWith (text "~") directory = true := by
  unfold homeDirectory
  cases impossibleName? user with
  | some reason => simp
  | none =>
    cases home user with
    | none => simp
    | some directory => simp

theorem expandHome_eq_unknown {path : Text} :
    expandHome home path = .error .unknown ↔ NamesUnknownHome home path := by
  unfold expandHome NamesUnknownHome
  split
  · next user rest hnames =>
    cases Path.isAbsolute path with
    | true => simp
    | false =>
      rw [if_neg Bool.false_ne_true, map_eq_error_iff, homeDirectory_eq_unknown, hnames]
      simp
  · next hfirst =>
    simp only [reduceCtorEq, false_iff]
    rintro ⟨-, user, rest, hnames, -⟩
    exact hfirst user rest hnames

theorem expandHome_of_absolute {path : Text} (h : Path.isAbsolute path = true) :
    expandHome home path = .ok (Path.tidy path) := by
  unfold expandHome
  split
  · exact if_pos h
  · rfl

/-- A path with its home directory is listed. -/
theorem tidy_of_expandHome {path whole : Text} (h : expandHome home path = .ok whole) :
    Path.tidy whole = whole := by
  unfold expandHome at h
  split at h
  · next user rest hnames =>
    split at h
    · cases h
      exact Path.tidy_tidy _
    · cases hdirectory : homeDirectory home user with
      | error reason => simp [hdirectory, Except.map] at h
      | ok directory =>
        rw [hdirectory] at h
        cases h
        exact Path.tidy_tidy _
  · cases h
    exact Path.tidy_tidy _

theorem string_eq_valid {value : Data} {s : Text} :
    string location value = .valid s ↔ value = .string s := by
  cases value <;> simp [string, fault]

theorem string_ne_unknownHome (value : Data) : string location value ≠ .unknownHome := by
  cases value <;> simp [string, fault]

theorem word_ne_unknownHome (name : α → String) (all : List α) (expected : String) (value : Data) :
    word name all expected location value ≠ .unknownHome := by
  unfold word
  dsimp only
  split <;> simp [fault]

theorem bool_ne_unknownHome (value : Data) : bool location value ≠ .unknownHome := by
  unfold bool
  dsimp only
  repeat' split
  all_goals simp [fault]

theorem list_ne_unknownHome {check : Location → Data → Checked α}
    (h : ∀ location value, check location value ≠ .unknownHome) (value : Data) :
    list check location value ≠ .unknownHome := by
  rw [Ne, list_eq_unknownHome]
  rintro ⟨items, -, i, item, -, hitem⟩
  exact h _ item hitem

theorem field_ne_unknownHome {check : Location → Data → Checked α} {default : α} {name : String}
    (h : ∀ location value, check location value ≠ .unknownHome) :
    field check default name location d ≠ .unknownHome := by
  rw [Ne, field_eq_unknownHome]
  rintro ⟨value, -, hvalue⟩
  exact h _ value hvalue

theorem resolver_ne_unknownHome (value : Data) : resolver location value ≠ .unknownHome := by
  rw [resolver, Ne, inSection_eq_unknownHome]
  rintro ⟨entries, -, h⟩
  dsimp only at h
  simp only [map_eq_unknownHome, both_eq_unknownHome] at h
  obtain h | h | h | h := h
  · refine field_ne_unknownHome (fun location value h => ?_) h
    rw [extensions, andThen_eq_unknownHome] at h
    obtain h | ⟨found, -, h⟩ := h
    · exact list_ne_unknownHome (fun _ => string_ne_unknownHome) value h
    · split at h <;> cases h
  · refine field_ne_unknownHome (fun location value h => ?_) h
    rw [basename, andThen_eq_unknownHome] at h
    obtain h | ⟨s, -, h⟩ := h
    · exact string_ne_unknownHome value h
    · split at h <;> cases h
  · exact field_ne_unknownHome (fun _ => bool_ne_unknownHome) h
  · exact field_ne_unknownHome (fun _ => list_ne_unknownHome fun _ => string_ne_unknownHome) h

theorem noFurther_ne_unknownHome (entries : List (Text × Data)) :
    noFurther entries ≠ .unknownHome := by
  unfold noFurther
  split <;> simp [fault]

theorem destination_eq_unknownHome {value : Data} :
    destination home location value = .unknownHome ↔
      ∃ s, value = .string s ∧ NamesUnknownHome home s := by
  rw [destination, andThen_eq_unknownHome]
  simp only [string_ne_unknownHome, false_or, string_eq_valid]
  refine exists_congr fun s => and_congr_right fun _ => ?_
  rw [← expandHome_eq_unknown]
  split
  · next hstream =>
    have hpath : expandHome home s = .ok s := by
      obtain rfl | rfl := hstream <;> rfl
    simp [hpath]
  · cases expandHome home s with
    | error reason => cases reason <;> simp [refuse]
    | ok path =>
      dsimp only
      split <;> simp [refuse]

theorem output_eq_unknownHome {value : Data} :
    output home location value = .unknownHome ↔
      ∃ s, value.field? (text "destination") = some (.string s) ∧ NamesUnknownHome home s := by
  rw [output, inSection_eq_unknownHome]
  constructor
  · rintro ⟨entries, rfl, h⟩
    dsimp only at h
    simp only [map_eq_unknownHome, both_eq_unknownHome] at h
    obtain h | h | h := h
    · exact absurd h (field_ne_unknownHome fun _ => word_ne_unknownHome _ _ _)
    · obtain ⟨value, hvalue, h⟩ := field_eq_unknownHome.mp h
      obtain ⟨s, rfl, hs⟩ := destination_eq_unknownHome.mp h
      exact ⟨s, hvalue, hs⟩
    · refine absurd h (field_ne_unknownHome fun location value h => ?_)
      split at h
      · cases h
      · exact word_ne_unknownHome _ _ _ _ (map_eq_unknownHome.mp h)
  · rintro ⟨s, hs, hunknown⟩
    cases value with
    | map entries =>
      refine ⟨entries, rfl, ?_⟩
      simp only [map_eq_unknownHome, both_eq_unknownHome]
      refine .inr (.inl (field_eq_unknownHome.mpr ⟨_, hs, ?_⟩))
      exact destination_eq_unknownHome.mpr ⟨s, rfl, hunknown⟩
    | _ => cases hs

/-- The destination of some output starts in the home directory of somebody unknown. -/
def AsksUnknownHome (home : Text → Option Text) (entries : List (Data × Data)) : Prop :=
  ∃ logging outputs output s, (Data.map entries).field? (text "logging") = some logging ∧
    logging.field? (text "outputs") = some (.list outputs) ∧ output ∈ outputs ∧
    output.field? (text "destination") = some (.string s) ∧ NamesUnknownHome home s

/-- The check stops exactly for such an output. -/
theorem config_eq_unknownHome {entries : List (Data × Data)} :
    config home entries = .unknownHome ↔ AsksUnknownHome home entries := by
  have hlogging : config home entries = .unknownHome ↔ ∃ value,
      (Data.map entries).field? (text "logging") = some value ∧
        logging home ([] ++ [text "logging"]) value = .unknownHome := by
    rw [config]
    simp only [map_eq_unknownHome, both_eq_unknownHome, noFurther_ne_unknownHome, or_false,
      field_ne_unknownHome fun _ => resolver_ne_unknownHome]
    exact field_eq_unknownHome
  rw [hlogging]
  refine exists_congr fun value => ?_
  rw [logging, inSection_eq_unknownHome]
  constructor
  · rintro ⟨hvalue, entries, rfl, h⟩
    simp only [map_eq_unknownHome, both_eq_unknownHome] at h
    obtain h | h := h
    · exact absurd h (field_ne_unknownHome fun _ => word_ne_unknownHome _ _ _)
    · obtain ⟨list, hlist, h⟩ := field_eq_unknownHome.mp h
      obtain ⟨outputs, rfl, i, o, ho, h⟩ := list_eq_unknownHome.mp h
      obtain ⟨s, hs, hunknown⟩ := output_eq_unknownHome.mp h
      exact ⟨outputs, o, s, hvalue, hlist, List.mem_of_getElem? ho, hs, hunknown⟩
  · rintro ⟨outputs, o, s, hvalue, hlist, ho, hs, hunknown⟩
    refine ⟨hvalue, ?_⟩
    cases value with
    | map entries =>
      refine ⟨entries, rfl, ?_⟩
      simp only [map_eq_unknownHome, both_eq_unknownHome]
      obtain ⟨i, hi⟩ := List.getElem?_of_mem ho
      refine .inr (field_eq_unknownHome.mpr ⟨_, hlist, list_eq_unknownHome.mpr ?_⟩)
      exact ⟨outputs, rfl, i, o, hi, output_eq_unknownHome.mpr ⟨s, hs, hunknown⟩⟩
    | _ => cases hlist

end Validation

/-! ### What is let through -/

def LogOutput.Sound (o : LogOutput) : Prop :=
  o.destination = text "stderr" ∨ o.destination = text "stdout" ∨
    (Path.isAbsolute o.destination = true ∧ Path.tidy o.destination = o.destination)

structure ResolverOptions.Sound (o : ResolverOptions) : Prop where
  extensions : ∀ extension ∈ o.extensions, Text.startsWith (text ".") extension = true
  indexBasename : o.indexBasename ≠ [] ∧ Path.slash ∉ o.indexBasename

structure Config.Sound (c : Config) : Prop where
  outputs : ∀ o ∈ c.logging.outputs, o.Sound
  resolver : c.resolver.Sound

namespace Validation
open Checked
variable {home : Text → Option Text} {location : Location}

theorem destination_valid {value : Data} {s : Text}
    (h : destination home location value = .valid s) :
    s = text "stderr" ∨ s = text "stdout" ∨ (Path.isAbsolute s = true ∧ Path.tidy s = s) := by
  rw [destination, andThen_eq_valid] at h
  obtain ⟨given, -, h⟩ := h
  split at h
  · next hstream =>
    cases h
    exact hstream.imp_right .inl
  · split at h
    · cases h
    · cases h
    · next path hpath =>
      split at h
      · next habsolute =>
        cases h
        exact .inr (.inr ⟨habsolute, tidy_of_expandHome hpath⟩)
      · cases h

theorem output_valid {value : Data} {o : LogOutput} (h : output home location value = .valid o) :
    o.Sound := by
  obtain ⟨entries, rfl, h⟩ := inSection_valid h
  obtain ⟨⟨format, path, level⟩, hparts, rfl⟩ := map_eq_valid.mp h
  obtain ⟨-, hparts⟩ := both_eq_valid.mp hparts
  obtain ⟨hpath, -⟩ := both_eq_valid.mp hparts
  exact field_valid (p := fun s =>
      s = text "stderr" ∨ s = text "stdout" ∨ (Path.isAbsolute s = true ∧ Path.tidy s = s))
    (.inl rfl) (fun location value s => destination_valid) hpath

theorem resolver_valid {value : Data} {o : ResolverOptions}
    (h : resolver location value = .valid o) : o.Sound := by
  obtain ⟨entries, rfl, h⟩ := inSection_valid h
  obtain ⟨⟨found, name, follow, names⟩, hparts, rfl⟩ := map_eq_valid.mp h
  obtain ⟨hfound, hparts⟩ := both_eq_valid.mp hparts
  obtain ⟨hname, -⟩ := both_eq_valid.mp hparts
  have hdefault : ({} : ResolverOptions).Sound := ⟨by decide, by decide⟩
  constructor
  · refine field_valid (p := fun list => ∀ e ∈ list, Text.startsWith (text ".") e = true)
      hdefault.extensions (fun location value list hlist => ?_) hfound
    rw [extensions, andThen_eq_valid] at hlist
    obtain ⟨given, -, hlist⟩ := hlist
    split at hlist
    · cases hlist
    · next hnone =>
      cases hlist
      simpa using hnone
  · refine field_valid (p := fun name => name ≠ [] ∧ Path.slash ∉ name) hdefault.indexBasename
      (fun location value name hname => ?_) hname
    rw [basename, andThen_eq_valid] at hname
    obtain ⟨given, -, hname⟩ := hname
    split at hname
    · cases hname
    · next hbare =>
      cases hname
      exact not_or.mp hbare

theorem config_valid {entries : List (Data × Data)} {c : Config}
    (h : config home entries = .valid c) : c.Sound := by
  rw [config, map_eq_valid] at h
  obtain ⟨⟨loggingOptions, resolverOptions, _⟩, hparts, rfl⟩ := h
  obtain ⟨hlogging, hparts⟩ := both_eq_valid.mp hparts
  obtain ⟨hresolver, -⟩ := both_eq_valid.mp hparts
  constructor
  · refine field_valid (p := fun l : LoggingOptions => ∀ o : LogOutput, o ∈ l.outputs → o.Sound) ?_
      (fun location value o ho => ?_) hlogging
    · intro o ho
      obtain rfl := List.mem_singleton.mp ho
      exact .inl rfl
    · obtain ⟨entries, rfl, ho⟩ := inSection_valid ho
      obtain ⟨⟨level, outputs⟩, hparts, rfl⟩ := map_eq_valid.mp ho
      obtain ⟨-, houtputs⟩ := both_eq_valid.mp hparts
      refine field_valid (p := fun outputs : List LogOutput => ∀ o, o ∈ outputs → o.Sound) ?_
        (fun location value outputs houtputs o ho => ?_) houtputs
      · intro o ho
        obtain rfl := List.mem_singleton.mp ho
        exact .inl rfl
      · obtain ⟨location, value, ho⟩ := list_valid houtputs ho
        exact output_valid ho
  · have hdefault : ({} : ResolverOptions).Sound := ⟨by decide, by decide⟩
    exact field_valid hdefault (fun location value o ho => resolver_valid ho) hresolver

section Again

theorem level_name (l : LogLevel) : level location (.string (text l.name)) = .valid l := by
  cases l <;> rfl

theorem format_name (f : LogFormat) : format location (.string (text f.name)) = .valid f := by
  cases f <;> rfl

theorem destination_of_sound {o : LogOutput} (h : o.Sound) :
    destination home location (.string o.destination) = .valid o.destination := by
  rw [destination, andThen_eq_valid]
  refine ⟨o.destination, rfl, ?_⟩
  split
  · rfl
  · next hstream =>
    obtain habsolute | habsolute | ⟨habsolute, htidy⟩ := h
    · exact absurd (.inl habsolute) hstream
    · exact absurd (.inr habsolute) hstream
    · rw [expandHome_of_absolute habsolute, htidy]
      exact if_pos habsolute

theorem output_toData {o : LogOutput} (h : o.Sound) :
    output home location o.toData = .valid o := by
  have hformat : field format ({} : LogOutput).format "format" location o.toData =
      .valid o.format :=
    format_name o.format
  have hpath : field (destination home) ({} : LogOutput).destination "destination" location
      o.toData = .valid o.destination :=
    destination_of_sound h
  rw [output]
  refine map_eq_valid.mpr ⟨(o.format, o.destination, o.level), ?_, rfl⟩
  refine both_eq_valid.mpr ⟨hformat, both_eq_valid.mpr ⟨hpath, ?_⟩⟩
  obtain ⟨f, path, l⟩ := o
  cases l with
  | none => rfl
  | some l => exact map_eq_valid.mpr ⟨l, level_name l, rfl⟩

theorem logging_toData {o : LoggingOptions} (h : ∀ output, output ∈ o.outputs → output.Sound) :
    logging home location o.toData = .valid o := by
  have hlevel : field level ({} : LoggingOptions).level "level" location o.toData =
      .valid o.level :=
    level_name o.level
  have houtputs : field (list (output home)) ({} : LoggingOptions).outputs "outputs" location
      o.toData = .valid o.outputs :=
    list_of_forall fun o ho location => output_toData (h o ho)
  exact map_eq_valid.mpr ⟨(o.level, o.outputs), both_eq_valid.mpr ⟨hlevel, houtputs⟩, rfl⟩

theorem resolver_toData {o : ResolverOptions} (h : o.Sound) :
    resolver location o.toData = .valid o := by
  have hextensions : field extensions ({} : ResolverOptions).extensions "extensions" location
      o.toData = .valid o.extensions := by
    refine andThen_eq_valid.mpr ⟨o.extensions, list_of_forall fun e he location => rfl, ?_⟩
    have hnone : (o.extensions.find? fun e => !Text.startsWith (text ".") e) = none := by
      simpa using h.extensions
    simp only [hnone]
  have hbasename : field basename ({} : ResolverOptions).indexBasename "index_basename" location
      o.toData = .valid o.indexBasename := by
    have hname : o.toData.field? (text "index_basename") = some (.string o.indexBasename) := rfl
    rw [field_of_some hname, basename, andThen_eq_valid]
    exact ⟨o.indexBasename, rfl, if_neg (not_or.mpr h.indexBasename)⟩
  have hfollow : field bool ({} : ResolverOptions).followImports "follow_imports" location
      o.toData = .valid o.followImports := rfl
  have hnames : field (list string) ({} : ResolverOptions).attributeNames "attribute_names"
      location o.toData = .valid o.attributeNames :=
    list_of_forall fun e he location => rfl
  rw [resolver]
  refine map_eq_valid.mpr ⟨(o.extensions, o.indexBasename, o.followImports, o.attributeNames),
    ?_, rfl⟩
  exact both_eq_valid.mpr ⟨hextensions, both_eq_valid.mpr ⟨hbasename,
    both_eq_valid.mpr ⟨hfollow, hnames⟩⟩⟩

/-- A sound configuration is read back from its own data. -/
theorem config_toEntries {c : Config} (h : c.Sound) : config home c.toEntries = .valid c := by
  have hlogging : field (logging home) ({} : Config).logging "logging" [] (.map c.toEntries) =
      .valid c.logging :=
    logging_toData h.outputs
  have hresolver : field resolver ({} : Config).resolver "resolver" [] (.map c.toEntries) =
      .valid c.resolver :=
    resolver_toData h.resolver
  have hfurther : noFurther (Data.fields c.toEntries) = .valid () := rfl
  exact map_eq_valid.mpr ⟨(c.logging, c.resolver, ()),
    both_eq_valid.mpr ⟨hlogging, both_eq_valid.mpr ⟨hresolver, hfurther⟩⟩, rfl⟩

end Again

end Validation

end StateCoverage
