import StateCoverage.Config.Layers
import StateCoverage.Proofs.Config.Validation
import StateCoverage.Proofs.Text.Words

/-!
The layers of the settings. The environment fails exactly for a variable that has to hold JSON and
holds none, and laying entries over others adds no key that is no text.
-/
namespace StateCoverage

namespace Layers
variable {s : Section} {vars : List (Text × Text)}

/-- A variable of a section has to hold JSON and holds none: the section's own one, or that of a
list. A variable of a list is read unless it is empty or the section's own variable holds something
other than a mapping. -/
inductive Unreadable (s : Section) (vars : List (Text × Text)) : Prop
  | own {value : Text} :
      Bindings.valueOf? (text ("statelint__" ++ s.name)) vars = some value →
        Json.read? value = none →
        Unreadable s vars
  | list {name : String} {value : Text} :
      (∀ own, Bindings.valueOf? (text ("statelint__" ++ s.name)) vars = some own →
        ∃ entries, Json.read? own = some (.map entries)) →
      name ∈ s.lists → (text ("statelint__" ++ s.name ++ "__") ++ text name, value) ∈ vars →
      value ≠ [] → Json.read? value = none → Unreadable s vars

/-- A fold fails where one of its steps fails, if that does not depend on what came before. -/
theorem foldlM_eq_none_iff {α β : Type} {f : β → α → Option β} {p : α → Prop}
    (h : ∀ b a, f b a = none ↔ p a) {items : List α} {b : β} :
    items.foldlM f b = none ↔ ∃ a ∈ items, p a := by
  induction items generalizing b with
  | nil => simp
  | cons a rest ih =>
    rw [List.foldlM_cons, List.exists_mem_cons_iff]
    cases hstep : f b a with
    | none => simpa using .inl ((h b a).mp hstep)
    | some next =>
      have ha : ¬ p a := fun hp => by
        rw [(h b a).mpr hp] at hstep
        cases hstep
      simpa [ha] using ih

theorem cutDouble_ne_nil (t : Text) : cutDouble t ≠ [] := by
  fun_cases cutDouble t <;> simp_all

/-- What is not cut is the whole text. -/
theorem eq_of_cutDouble {t part : Text} (h : cutDouble t = [part]) : t = part := by
  fun_induction cutDouble t generalizing part with
  | case1 => simpa using h
  | case2 rest ih => exact absurd (List.cons.inj h).2 (cutDouble_ne_nil rest)
  | case3 c rest hnot hnil ih => exact absurd hnil (cutDouble_ne_nil rest)
  | case4 c rest hnot first others hcut ih =>
    obtain ⟨rfl, rfl⟩ : c :: first = part ∧ others = [] := by simpa using h
    rw [ih hcut]

theorem variableValue?_eq_none_iff {path : List Text} {value : Text} :
    variableValue? s path value = none ↔
      ∃ name ∈ s.lists, path = [text name] ∧ value ≠ [] ∧ Json.read? value = none := by
  unfold variableValue?
  split
  · next part =>
    by_cases h : part ∈ s.lists.map text ∧ value ≠ []
    · rw [if_pos h]
      obtain ⟨⟨name, hname, rfl⟩, hvalue⟩ := And.imp_left List.mem_map.mp h
      exact ⟨fun hnone => ⟨name, hname, rfl, hvalue, hnone⟩, fun ⟨_, _, _, _, hnone⟩ => hnone⟩
    · rw [if_neg h]
      simp only [reduceCtorEq, false_iff]
      rintro ⟨name, hname, hpart, hvalue, -⟩
      obtain rfl : part = text name := by simpa using hpart
      exact h ⟨List.mem_map_of_mem hname, hvalue⟩
  · next hpath =>
    simp only [reduceCtorEq, false_iff]
    rintro ⟨name, -, rfl, -⟩
    exact hpath _ rfl

def Uncut (s : Section) : Prop := ∀ name ∈ s.lists, cutDouble (text name) = [text name]

theorem uncut_of_mem (h : s ∈ sections) : Uncut s := by
  simp only [sections, List.mem_cons, List.not_mem_nil, or_false] at h
  obtain rfl | rfl := h <;> simp only [Uncut] <;> decide

theorem fieldVariables?_eq_none_iff (hs : Uncut s) :
    fieldVariables? s vars = none ↔
      ∃ name ∈ s.lists, ∃ value,
        (text ("statelint__" ++ s.name ++ "__") ++ text name, value) ∈ vars ∧
          value ≠ [] ∧ Json.read? value = none := by
  -- Whether a variable is readable does not depend on the entries that those before it wrote.
  rw [fieldVariables?, foldlM_eq_none_iff (p := fun found =>
    ∃ name ∈ s.lists, found.1 = text ("statelint__" ++ s.name ++ "__") ++ text name ∧
      found.2 ≠ [] ∧ Json.read? found.2 = none)]
  · constructor
    · rintro ⟨⟨_, value⟩, hmem, name, hname, rfl, hvalue, hnone⟩
      exact ⟨name, hname, value, hmem, hvalue, hnone⟩
    · rintro ⟨name, hname, value, hmem, hvalue, hnone⟩
      exact ⟨_, hmem, name, hname, rfl, hvalue, hnone⟩
  · rintro entries ⟨key, value⟩
    dsimp only
    cases hrest : Text.after? (text ("statelint__" ++ s.name ++ "__")) key with
    | none =>
      simp only [reduceCtorEq, false_iff]
      rintro ⟨name, -, hkey, -⟩
      rw [Text.after?_eq_some_iff.mpr hkey] at hrest
      cases hrest
    | some rest =>
      obtain rfl := Text.after?_eq_some_iff.mp hrest
      rw [Option.map_eq_none_iff, variableValue?_eq_none_iff]
      refine exists_congr fun name => and_congr_right fun hname => and_congr_left fun _ => ?_
      rw [List.append_cancel_left_eq]
      exact ⟨eq_of_cutDouble, fun h => h ▸ hs name hname⟩

/-- Where the section's own variable leaves room for others, only those of lists can be
unreadable. -/
theorem unreadable_iff_fieldVariables? (hs : Uncut s)
    (hown : ∀ own, Bindings.valueOf? (text ("statelint__" ++ s.name)) vars = some own →
      ∃ entries, Json.read? own = some (.map entries)) :
    Unreadable s vars ↔ fieldVariables? s vars = none := by
  rw [fieldVariables?_eq_none_iff hs]
  constructor
  · intro h
    cases h with
    | own hvalue hnone =>
      obtain ⟨entries, hmap⟩ := hown _ hvalue
      rw [hnone] at hmap
      cases hmap
    | list _ hname hmem hvalue hnone => exact ⟨_, hname, _, hmem, hvalue, hnone⟩
  · rintro ⟨name, hname, value, hmem, hvalue, hnone⟩
    exact .list hown hname hmem hvalue hnone

theorem sectionVariables?_eq_none_iff (hs : Uncut s) :
    sectionVariables? vars s = none ↔ Unreadable s vars := by
  unfold sectionVariables?
  cases hown : Bindings.valueOf? (text ("statelint__" ++ s.name)) vars with
  | none =>
    have hroom : Unreadable s vars ↔ fieldVariables? s vars = none :=
      unreadable_iff_fieldVariables? hs (by simp [hown])
    rw [Option.map_eq_none_iff, hroom]
  | some own =>
    dsimp only
    cases hread : Json.read? own with
    | none => simpa using Unreadable.own hown hread
    | some found =>
      by_cases hmap : ∃ entries, found = .map entries
      · obtain ⟨entries, rfl⟩ := hmap
        have hroom : Unreadable s vars ↔ fieldVariables? s vars = none :=
          unreadable_iff_fieldVariables? hs (by simp [hown, hread])
        dsimp only
        rw [Option.map_eq_none_iff, hroom]
      · -- Variables of lists are not looked at behind such a value.
        have hreadable : ¬ Unreadable s vars := by
          intro h
          cases h with
          | own hvalue hnone => simp_all
          | list hroom =>
            obtain ⟨entries, hentries⟩ := hroom own hown
            exact hmap ⟨entries, Option.some.inj (hread.symm.trans hentries)⟩
        cases found <;> simp_all

/-- The environment fails for the first section with an unreadable variable. -/
theorem environment_eq_error_iff {all : List Section} (hs : ∀ s ∈ all, Uncut s) {e : LoadError} :
    environment vars all = .error e ↔
      ∃ before s after, all = before ++ s :: after ∧ (∀ s ∈ before, ¬ Unreadable s vars) ∧
        Unreadable s vars ∧ e = .unreadableVariable (text s.name) := by
  -- A section at fault is the first one if it stands in front, and is not if an unreadable one
  -- does.
  induction all with
  | nil => simp [environment]
  | cons s rest ih =>
    obtain ⟨hhead, hrest⟩ := List.forall_mem_cons.mp hs
    rw [environment]
    cases hfound : sectionVariables? vars s with
    | none =>
      have hbad := (sectionVariables?_eq_none_iff hhead).mp hfound
      constructor
      · intro h
        cases h
        exact ⟨[], s, rest, rfl, by simp, hbad, rfl⟩
      · rintro ⟨before, s', after, hall, hbefore, -, rfl⟩
        cases before with
        | nil =>
          cases hall
          rfl
        | cons first before =>
          cases hall
          exact absurd hbad (hbefore s List.mem_cons_self)
    | some found =>
      have hgood : ¬ Unreadable s vars := fun h => by
        rw [(sectionVariables?_eq_none_iff hhead).mpr h] at hfound
        cases hfound
      dsimp only
      rw [map_eq_error_iff, ih hrest]
      constructor
      · rintro ⟨before, s', after, rfl, hbefore, hbad, he⟩
        exact ⟨s :: before, s', after, rfl, List.forall_mem_cons.mpr ⟨hgood, hbefore⟩, hbad, he⟩
      · rintro ⟨before, s', after, hall, hbefore, hbad, he⟩
        cases before with
        | nil =>
          cases hall
          exact absurd hbad hgood
        | cons first before =>
          cases hall
          exact ⟨before, s', after, rfl, (List.forall_mem_cons.mp hbefore).2, hbad, he⟩

/-- The environment can be read if the variables of every section can. -/
theorem exists_environment_iff {all : List Section} (hs : ∀ s ∈ all, Uncut s) :
    (∃ entries, environment vars all = .ok entries) ↔ ∀ s ∈ all, ¬ Unreadable s vars := by
  induction all with
  | nil => simp [environment]
  | cons s rest ih =>
    obtain ⟨hhead, hrest⟩ := List.forall_mem_cons.mp hs
    rw [environment, List.forall_mem_cons, ← ih hrest, ← sectionVariables?_eq_none_iff hhead]
    cases sectionVariables? vars s with
    | none => simp
    | some found => cases environment vars rest <;> simp [Except.map]

/-! ### Keys -/

def TextKeys (entries : List (Data × Data)) : Prop := ∀ entry ∈ entries, isText entry.1 = true

theorem textKeys_append {xs ys : List (Data × Data)} :
    TextKeys (xs ++ ys) ↔ TextKeys xs ∧ TextKeys ys :=
  List.forall_mem_append

theorem isText_eq_of_sameKey {a b : Data} (h : Data.sameKey a b = true) : isText a = isText b := by
  cases a <;> cases b <;> simp_all [Data.sameKey, Data.keyNumber?, isText]

theorem textKeys_changeEntry {key value : Data} {change : Data → Data}
    {entries : List (Data × Data)} :
    TextKeys (Data.changeEntry key change value entries) ↔
      isText key = true ∧ TextKeys entries := by
  induction entries with
  | nil => simp [Data.changeEntry, TextKeys]
  | cons entry rest ih =>
    obtain ⟨old, before⟩ := entry
    rw [Data.changeEntry]
    by_cases h : Data.sameKey old key = true
    · rw [if_pos h]
      simp [TextKeys, isText_eq_of_sameKey h]
    · rw [if_neg h]
      have hcons {value : Data} {rest : List (Data × Data)} :
          TextKeys ((old, value) :: rest) ↔ isText old = true ∧ TextKeys rest := by
        simp [TextKeys]
      rw [hcons, hcons, ih, and_left_comm]

/-- Laying entries over others keeps the keys of both. -/
theorem textKeys_entriesOver {strong weak : List (Data × Data)} :
    TextKeys (Data.entriesOver strong weak) ↔ TextKeys strong ∧ TextKeys weak := by
  induction strong generalizing weak with
  | nil => simp [Data.entriesOver, TextKeys]
  | cons entry rest ih =>
    obtain ⟨key, value⟩ := entry
    rw [Data.entriesOver, ih, textKeys_changeEntry]
    simp only [TextKeys, List.forall_mem_cons]
    tauto

theorem textKeys_environment {all : List Section} {entries : List (Data × Data)}
    (h : environment vars all = .ok entries) : TextKeys entries := by
  induction all generalizing entries with
  | nil =>
    cases h
    simp [TextKeys]
  | cons s rest ih =>
    rw [environment] at h
    split at h
    · cases h
    · next found hfound =>
      cases hrest : environment vars rest with
      | error e => simp [hrest, Except.map] at h
      | ok others =>
        obtain rfl : _ = entries := by simpa [hrest, Except.map] using h
        cases found with
        | none => exact ih hrest
        | some value => exact List.forall_mem_cons.mpr ⟨rfl, ih hrest⟩

end Layers

end StateCoverage
