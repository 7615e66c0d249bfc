import StateCoverage.Proofs.Config.Leaf
import StateCoverage.Proofs.Json

/-!
What environment variables say about a setting. Its own variable outweighs what the object in the
variable of its section holds under its name, and no other variable matters to it.
-/
namespace StateCoverage

namespace Text

/-- No letter of the text is a capital one. -/
def Lowered (t : Text) : Prop := ∀ c : Char, .scalar c ∈ t → c.toLower = c

theorem toLower_toLower (c : Char) : c.toLower.toLower = c.toLower := by
  by_cases h : c.val ≥ 'A'.val ∧ c.val ≤ 'Z'.val
  · have hval : c.toLower.val = c.val + ('a'.val - 'A'.val) := congrArg Char.val (dif_pos h)
    have hup : ¬ (c.toLower.val ≥ 'A'.val ∧ c.toLower.val ≤ 'Z'.val) := by
      have hfirst : 'A'.val.toNat = 65 := rfl
      have hlast : 'Z'.val.toNat = 90 := rfl
      have hdistance : ('a'.val - 'A'.val).toNat = 32 := rfl
      simp only [ge_iff_le, UInt32.le_iff_toNat_le] at h ⊢
      rw [hval, UInt32.toNat_add]
      omega
    exact dif_neg hup
  · have hsame : c.toLower = c := dif_neg h
    rw [hsame, hsame]

theorem lowered_lowerAscii (t : Text) : t.lowerAscii.Lowered := by
  intro c hc
  obtain ⟨p, -, hp⟩ := List.mem_map.mp hc
  cases p with
  | scalar d =>
    obtain rfl := CodePoint.scalar.inj hp
    exact toLower_toLower d
  | surrogate offset => cases hp

theorem Lowered.lowerAscii {t : Text} (h : t.Lowered) : t.lowerAscii = t := by
  refine (List.map_congr_left fun p hp => ?_).trans (List.map_id t)
  cases p with
  | scalar c => exact congrArg CodePoint.scalar (h c hp)
  | surrogate offset => rfl

end Text

namespace Layers
open Bindings
variable {s : Section} {vars : List (Text × Text)} {name : Text} {value : Data} {path : List Text}
  {entries : List (Data × Data)}

/-- The parts of a text hold nothing else. -/
theorem mem_of_mem_cutDouble {t part : Text} {p : CodePoint} (hpart : part ∈ cutDouble t)
    (hp : p ∈ part) : p ∈ t := by
  fun_induction cutDouble t generalizing part with
  | case1 =>
    obtain rfl := List.mem_singleton.mp hpart
    cases hp
  | case2 rest ih =>
    obtain rfl | hpart := List.mem_cons.mp hpart
    · cases hp
    · exact List.mem_cons_of_mem _ (List.mem_cons_of_mem _ (ih hpart hp))
  | case3 c rest hnot hnil ih => exact absurd hnil (cutDouble_ne_nil rest)
  | case4 c rest hnot first others hcut ih =>
    rw [hcut] at ih
    obtain rfl | hpart := List.mem_cons.mp hpart
    · obtain rfl | hp := List.mem_cons.mp hp
      · exact List.mem_cons_self
      · exact List.mem_cons_of_mem _ (ih List.mem_cons_self hp)
    · exact List.mem_cons_of_mem _ (ih (List.mem_cons_of_mem _ hpart) hp)

/-! ### The variables of single fields -/

/-- What a step preserves holds at the end. -/
theorem invariant_foldlM {α β : Type} {f : β → α → Option β} {p : β → Prop} {items : List α}
    (hstep : ∀ b a b', a ∈ items → p b → f b a = some b' → p b') {b b' : β} (hb : p b)
    (h : items.foldlM f b = some b') : p b' := by
  induction items generalizing b with
  | nil =>
    cases h
    exact hb
  | cons a rest ih =>
    rw [List.foldlM_cons] at h
    obtain ⟨next, hnext, h⟩ := Option.bind_eq_some_iff.mp h
    exact ih (fun b a b' ha => hstep b a b' (List.mem_cons_of_mem _ ha))
      (hstep b a next List.mem_cons_self hb hnext) h

def variableName (s : Section) (name : Text) : Text :=
  text ("statelint__" ++ s.name ++ "__") ++ name

/-- No variable names something inside the field. -/
def Whole (s : Section) (name : Text) (vars : List (Text × Text)) : Prop :=
  ∀ rest more, variableName s rest ∈ names vars → cutDouble rest = name :: more → more = []

/-- What one variable adds. -/
def addVariable? (s : Section) (entries : List (Data × Data)) (v : Text × Text) :
    Option (List (Data × Data)) :=
  match Text.after? (text ("statelint__" ++ s.name ++ "__")) v.1 with
  | some rest =>
    (variableValue? s (cutDouble rest) v.2).map fun found => putPath found (cutDouble rest) entries
  | none => some entries

/-- A variable of another section adds nothing, one of this section writes the first name of its
path. -/
inductive Adds (s : Section) (entries : List (Data × Data)) (v : Text × Text) :
    List (Data × Data) → Prop
  | nothing : (∀ rest, v.1 ≠ variableName s rest) → Adds s entries v entries
  | field {rest name : Text} {path : List Text} {found : Data} :
      v.1 = variableName s rest → cutDouble rest = name :: path →
        variableValue? s (name :: path) v.2 = some found →
          Adds s entries v (putPath found (name :: path) entries)

theorem adds_of_addVariable? {v : Text × Text} {after : List (Data × Data)}
    (h : addVariable? s entries v = some after) : Adds s entries v after := by
  unfold addVariable? at h
  split at h
  · next rest hrest =>
    obtain ⟨found, hfound, rfl⟩ := Option.map_eq_some_iff.mp h
    cases hcut : cutDouble rest with
    | nil => exact absurd hcut (cutDouble_ne_nil rest)
    | cons name path => exact .field (Text.after?_eq_some_iff.mp hrest) hcut (hcut ▸ hfound)
  · next hnone =>
    cases h
    refine .nothing fun rest hrest => ?_
    rw [Text.after?_eq_some_iff.mpr hrest] at hnone
    cases hnone

/-- Writing under a path writes its first name. -/
theorem exists_fields_putPath (name : Text) (path : List Text) (value : Data)
    (entries : List (Data × Data)) :
    ∃ written, Data.fields (putPath value (name :: path) entries) =
      put name written (Data.fields entries) ∧ (path = [] → written = value) := by
  cases path with
  | nil => exact ⟨value, Data.fields_putEntry name value entries, fun _ => rfl⟩
  | cons next rest => exact ⟨_, Data.fields_changeEntry name _ _ entries, fun h => by cases h⟩

/-- Behind some variables, a field that they leave whole is what its own variable says, or what it
was before. -/
theorem valueOf?_addVariables (hnodup : (names vars).Nodup) (hwhole : Whole s name vars)
    (hname : cutDouble name = [name]) {start : List (Data × Data)}
    (h : vars.foldlM (addVariable? s) start = some entries) :
    valueOf? name (Data.fields entries) =
      ((valueOf? (variableName s name) vars).bind (variableValue? s [name])).or
        (valueOf? name (Data.fields start)) := by
  induction vars generalizing start with
  | nil =>
    cases h
    rfl
  | cons v rest ih =>
    obtain ⟨key, t⟩ := v
    obtain ⟨hkey, hnodup⟩ : key ∉ names rest ∧ (names rest).Nodup := by simpa [names] using hnodup
    rw [List.foldlM_cons] at h
    obtain ⟨next, hnext, h⟩ := Option.bind_eq_some_iff.mp h
    rw [ih hnodup (fun r more hr => hwhole r more (List.mem_cons_of_mem _ hr)) h]
    cases adds_of_addVariable? hnext with
    | nothing hother => rw [valueOf?_cons_of_ne (hother name)]
    | @field part first path found hpart hcut hfound =>
      obtain ⟨written, hfields, hwritten⟩ := exists_fields_putPath first path found start
      rw [hfields]
      by_cases hfirst : first = name
      · -- The variable of the field itself; no other one has its name.
        subst hfirst
        obtain rfl : key = variableName s part := hpart
        obtain rfl := hwhole part path List.mem_cons_self hcut
        obtain rfl := eq_of_cutDouble hcut
        rw [hwritten rfl, valueOf?_put_self, valueOf?_eq_none_iff.mpr hkey]
        simp [valueOf?, hfound]
      · have hne : key ≠ variableName s name := by
          rintro rfl
          obtain rfl : name = part := List.append_cancel_left hpart
          rw [hname] at hcut
          exact hfirst (List.cons.inj hcut).1.symm
        rw [valueOf?_cons_of_ne hne, valueOf?_put_of_ne (Ne.symm hfirst)]

theorem field?_fieldVariables (hnodup : (names vars).Nodup) (hwhole : Whole s name vars)
    (hname : cutDouble name = [name]) (h : fieldVariables? s vars = some entries) :
    (Data.map entries).field? name =
      (valueOf? (variableName s name) vars).bind (variableValue? s [name]) := by
  rw [Data.field?_map, valueOf?_addVariables hnodup hwhole hname h]
  exact Option.or_none

/-- The variables of a section write every name once, with small letters if theirs are small. -/
theorem distinct_fieldVariables (h : fieldVariables? s vars = some entries) :
    Data.Distinct entries := by
  refine invariant_foldlM (p := Data.Distinct) (fun before v after _ hbefore hstep => ?_)
    Data.distinct_nil h
  cases adds_of_addVariable? hstep with
  | nothing => exact hbefore
  | @field rest first path found =>
    obtain ⟨written, hfields, -⟩ := exists_fields_putPath first path found before
    rw [Data.Distinct, hfields]
    exact nodup_names_put hbefore first written

theorem lowered_fieldVariables (hvars : ∀ name ∈ names vars, name.Lowered)
    (h : fieldVariables? s vars = some entries) :
    ∀ name ∈ names (Data.fields entries), name.Lowered := by
  refine invariant_foldlM (p := fun entries => ∀ name ∈ names (Data.fields entries), name.Lowered)
    (fun before v after hv hbefore hstep => ?_) (by simp [Data.fields, names]) h
  cases adds_of_addVariable? hstep with
  | nothing => exact hbefore
  | @field rest first path found hrest hcut =>
    obtain ⟨written, hfields, -⟩ := exists_fields_putPath first path found before
    rw [hfields]
    intro name hname
    obtain rfl | hname := mem_names_put.mp hname
    · intro c hc
      have hmem : CodePoint.scalar c ∈ v.1 := by
        rw [hrest]
        exact List.mem_append_right _ (mem_of_mem_cutDouble (hcut ▸ List.mem_cons_self) hc)
      exact hvars v.1 (List.mem_map_of_mem hv) c hmem
    · exact hbefore name hname

/-! ### The names of fields -/

def namedKey (s : Section) (key : Data) : Data :=
  match key with
  | .string written =>
    match s.fields.find? fun name => text name = written.lowerAscii with
    | some name => .string (text name)
    | none => key
  | _ => key

theorem namedFields_eq : namedFields s entries =
    entries.foldl (fun found entry => Data.putEntry (namedKey s entry.1) entry.2 found) [] := rfl

theorem distinct_namedFields : Data.Distinct (namedFields s entries) := by
  have hgeneral {found : List (Data × Data)} (h : Data.Distinct found) : Data.Distinct
      (entries.foldl (fun found entry => Data.putEntry (namedKey s entry.1) entry.2 found)
        found) := by
    induction entries generalizing found with
    | nil => exact h
    | cons entry rest ih => exact ih (h.putEntry _ _)
  exact hgeneral Data.distinct_nil

section NamedFields
variable {field : String} (hfield : field ∈ s.fields)
  (hsmall : (text field).lowerAscii = text field)
include hfield hsmall

/-- The keys that are kept under the name of a field are its spellings. -/
theorem namedKey_eq_iff {key : Data} :
    namedKey s key = .string (text field) ↔
      ∃ written, key = .string written ∧ written.lowerAscii = text field := by
  cases key with
  | string written =>
    rw [namedKey]
    cases h : s.fields.find? fun name => text name = written.lowerAscii with
    | some name =>
      have hname : text name = written.lowerAscii := by simpa using List.find?_some h
      simp [hname]
    | none =>
      have hnone : ∀ name ∈ s.fields, text name ≠ written.lowerAscii := by simpa using h
      simp only [Data.string.injEq, exists_eq_left']
      refine ⟨?_, fun hwritten => absurd hwritten.symm (hnone field hfield)⟩
      rintro rfl
      exact absurd hsmall.symm (hnone field hfield)
  | _ => simp [namedKey]

theorem field?_namedFields (hdistinct : Data.Distinct entries)
    (hspelled : ∀ name ∈ names (Data.fields entries),
      name.lowerAscii = text field → name = text field) :
    (Data.map (namedFields s entries)).field? (text field) =
      (Data.map entries).field? (text field) := by
  rw [Data.field?_map, Data.field?_map, namedFields_eq]
  have hgeneral {found : List (Data × Data)} : valueOf? (text field) (Data.fields
      (entries.foldl (fun found entry => Data.putEntry (namedKey s entry.1) entry.2 found) found)) =
        (valueOf? (text field) (Data.fields entries)).or
          (valueOf? (text field) (Data.fields found)) := by
    induction entries generalizing found with
    | nil => rfl
    | cons entry rest ih =>
      obtain ⟨key, value⟩ := entry
      rw [List.foldl_cons]
      obtain ⟨written, rfl, hfields⟩ | ⟨hother, hfields⟩ := Data.fields_cons key value rest
      · have hnames : names (Data.fields ((.string written, value) :: rest)) =
            written :: names (Data.fields rest) := rfl
        rw [Data.Distinct, hnames, List.nodup_cons] at hdistinct
        rw [hnames, List.forall_mem_cons] at hspelled
        rw [ih hdistinct.2 hspelled.2, hfields]
        by_cases heq : written = text field
        · have hkey : namedKey s (.string written) = .string (text field) :=
            (namedKey_eq_iff hfield hsmall).mpr ⟨written, rfl, heq ▸ hsmall⟩
          rw [hkey, Data.fields_putEntry, valueOf?_put_self,
            valueOf?_eq_none_iff.mpr (heq ▸ hdistinct.1)]
          simp [valueOf?, heq]
        · have hkey : namedKey s (.string written) ≠ .string (text field) := by
            rw [Ne, namedKey_eq_iff hfield hsmall]
            rintro ⟨other, hother, hlower⟩
            obtain rfl := Data.string.inj hother
            exact heq (hspelled.1 hlower)
          rw [Data.valueOf?_putEntry_of_ne hkey, valueOf?_cons_of_ne heq]
      · have hkey : namedKey s key ≠ .string (text field) := by
          rw [Ne, namedKey_eq_iff hfield hsmall]
          rintro ⟨written, rfl, -⟩
          simpa [Data.sameKey] using (hother written).1
        rw [Data.Distinct, hfields] at hdistinct
        rw [hfields] at hspelled
        rw [ih hdistinct hspelled, Data.valueOf?_putEntry_of_ne hkey, hfields]
  exact hgeneral.trans Option.or_none

end NamedFields

/-! ### Sections -/

/-- The variable of a section, if there is one, holds an object. -/
def HoldsObject (s : Section) (vars : List (Text × Text)) : Prop :=
  ∀ own, valueOf? (text ("statelint__" ++ s.name)) vars = some own →
    ∃ inner, Json.read? own = some (.map inner)

instance decidableHoldsObject : Decidable (HoldsObject s vars) :=
  decidable_of_iff (∀ own ∈ valueOf? (text ("statelint__" ++ s.name)) vars,
      ∃ d ∈ Json.read? own, ∃ inner, d = .map inner)
    (forall₂_congr fun own _ => by simp)

def ownEntries (s : Section) (vars : List (Text × Text)) : List (Data × Data) :=
  match (valueOf? (text ("statelint__" ++ s.name)) vars).bind Json.read? with
  | some (.map inner) => inner
  | _ => []

theorem distinct_ownEntries : Data.Distinct (ownEntries s vars) := by
  unfold ownEntries
  split
  · next h =>
    obtain ⟨own, -, hread⟩ := Option.bind_eq_some_iff.mp h
    exact Json.distinct_of_read? hread
  · exact Data.distinct_nil

/-- What is said about a section: nothing, or the variables of its fields over its own object, with
every field under its name. -/
theorem sectionVariables?_eq_some (hobject : HoldsObject s vars) {found : Option Data}
    (h : sectionVariables? vars s = some found) :
    ∃ set all, fieldVariables? s vars = some set ∧
      (all = set ∧ ownEntries s vars = [] ∨ all = Data.entriesOver set (ownEntries s vars)) ∧
      (found = none ∧ all = [] ∨ found = some (.map (namedFields s all))) := by
  unfold sectionVariables? at h
  cases hown : valueOf? (text ("statelint__" ++ s.name)) vars with
  | none =>
    rw [hown] at h
    obtain ⟨set, hset, rfl⟩ := Option.map_eq_some_iff.mp h
    refine ⟨set, set, hset, .inl ⟨rfl, by rw [ownEntries, hown]; rfl⟩, ?_⟩
    cases set with
    | nil => exact .inl ⟨rfl, rfl⟩
    | cons entry rest => exact .inr rfl
  | some own =>
    obtain ⟨inner, hread⟩ := hobject own hown
    have hinner : ownEntries s vars = inner := by
      rw [ownEntries, hown, Option.bind_some, hread]
    rw [hown] at h
    dsimp only at h
    rw [hread] at h
    obtain ⟨set, hset, rfl⟩ := Option.map_eq_some_iff.mp h
    exact ⟨set, _, hset, .inr rfl, .inr (by rw [hinner])⟩

/-- What is said about a section is a mapping with distinct keys. -/
theorem exists_map_of_sectionVariables? (hobject : HoldsObject s vars) {value : Data}
    (h : sectionVariables? vars s = some (some value)) :
    ∃ inner, value = .map inner ∧ Data.Distinct inner := by
  obtain ⟨set, all, -, -, hfound⟩ := sectionVariables?_eq_some hobject h
  obtain ⟨hnone, -⟩ | hsome := hfound
  · cases hnone
  · obtain rfl := Option.some.inj hsome
    exact ⟨_, rfl, distinct_namedFields⟩

/-- The variables have distinct names without capital letters. -/
structure Tidy (vars : List (Text × Text)) : Prop where
  nodup : (names vars).Nodup
  lowered : ∀ name ∈ names vars, name.Lowered

theorem tidy_loweredNames (vars : List (Text × Text)) : Tidy (loweredNames vars) := by
  have hnames (name : Text) (hname : name ∈ names (loweredNames vars)) : name.Lowered := by
    obtain hname | hname := mem_names_putAll.mp hname
    · obtain ⟨⟨_, _⟩, hv, rfl⟩ := List.mem_map.mp hname
      obtain ⟨⟨name, value⟩, -, heq⟩ := List.mem_map.mp hv
      obtain ⟨rfl, -⟩ := Prod.mk.inj heq
      exact Text.lowered_lowerAscii name
    · cases hname
  have hnil : (names ([] : Bindings Text)).Nodup := List.nodup_nil
  exact ⟨nodup_names_putAll hnil, hnames⟩

/-- What is said about a field that the variables leave whole and the object spells one way. -/
theorem field?_sectionVariables (hvars : Tidy vars) (hobject : HoldsObject s vars)
    {found : Option Data} (h : sectionVariables? vars s = some found) {field : String}
    (hfield : field ∈ s.fields)
    (hsmall : (text field).lowerAscii = text field) (hcut : cutDouble (text field) = [text field])
    (hwhole : Whole s (text field) vars)
    (hspelled : ∀ name ∈ names (Data.fields (ownEntries s vars)),
      name.lowerAscii = text field → name = text field) :
    found.bind (Data.field? (text field)) =
      Data.over?
        ((valueOf? (variableName s (text field)) vars).bind (variableValue? s [text field]))
        ((Data.map (ownEntries s vars)).field? (text field)) := by
  obtain ⟨set, all, hset, hall, hfound⟩ := sectionVariables?_eq_some hobject h
  have hfields : (Data.map all).field? (text field) =
      Data.over? ((Data.map set).field? (text field))
        ((Data.map (ownEntries s vars)).field? (text field)) := by
    obtain ⟨rfl, hown⟩ | rfl := hall
    · rw [hown]
      exact (Data.over?_none _).symm
    · exact Data.field?_entriesOver (distinct_fieldVariables hset)
  have hdistinct : Data.Distinct all := by
    obtain ⟨rfl, -⟩ | rfl := hall
    · exact distinct_fieldVariables hset
    · exact Data.distinct_entriesOver distinct_ownEntries
  have hspelledAll : ∀ name ∈ names (Data.fields all),
      name.lowerAscii = text field → name = text field := by
    intro name hname hlower
    have hmem : name ∈ names (Data.fields set) ∨
        name ∈ names (Data.fields (ownEntries s vars)) := by
      obtain ⟨rfl, -⟩ | rfl := hall
      · exact .inl hname
      · exact Data.mem_names_entriesOver.mp hname
    obtain hmem | hmem := hmem
    · rwa [(lowered_fieldVariables hvars.lowered hset name hmem).lowerAscii] at hlower
    · exact hspelled name hmem hlower
  rw [← field?_fieldVariables hvars.nodup hwhole hcut hset, ← hfields,
    ← field?_namedFields hfield hsmall hdistinct hspelledAll]
  obtain ⟨rfl, rfl⟩ | rfl := hfound <;> rfl

/-! ### The whole environment -/

/-- The environment holds what is said about each section, and nothing else. -/
theorem environment_eq_ok {all : List Section} (hall : (all.map fun s => text s.name).Nodup)
    {found : List (Data × Data)} (h : environment vars all = .ok found) :
    Data.Distinct found ∧
      (∀ name ∈ names (Data.fields found), name ∈ all.map fun s => text s.name) ∧
      ∀ s ∈ all, sectionVariables? vars s = some ((Data.map found).field? (text s.name)) := by
  induction all generalizing found with
  | nil =>
    cases h
    exact ⟨Data.distinct_nil, by simp [Data.fields, names], by simp⟩
  | cons s rest ih =>
    rw [List.map_cons, List.nodup_cons] at hall
    rw [environment] at h
    split at h
    · cases h
    · next said hsaid =>
      cases hothers : environment vars rest with
      | error e => simp [hothers, Except.map] at h
      | ok others =>
        rw [hothers] at h
        obtain ⟨hdistinct, hnames, hsections⟩ := ih hall.2 hothers
        have hnew : text s.name ∉ names (Data.fields others) := fun hmem => hall.1 (hnames _ hmem)
        cases said with
        | none =>
          obtain rfl : others = found := by simpa [Except.map] using h
          have hnone : (Data.map others).field? (text s.name) = none := by
            rw [Data.field?_map, valueOf?_eq_none_iff.mpr hnew]
          exact ⟨hdistinct, fun name hname => List.mem_cons_of_mem _ (hnames name hname),
            List.forall_mem_cons.mpr ⟨by rw [hsaid, hnone], hsections⟩⟩
        | some value =>
          obtain rfl : (Data.string (text s.name), value) :: others = found := by
            simpa [Except.map] using h
          refine ⟨List.nodup_cons.mpr ⟨hnew, hdistinct⟩, List.forall_mem_cons.mpr
            ⟨List.mem_cons_self, fun name hname => List.mem_cons_of_mem _ (hnames name hname)⟩,
            List.forall_mem_cons.mpr ⟨?_, fun s' hs' => ?_⟩⟩
          · rw [hsaid, Data.field?_map]
            simp [Data.fields, valueOf?]
          · have hne : text s.name ≠ text s'.name := fun heq =>
              hall.1 (heq ▸ List.mem_map_of_mem hs')
            rw [hsections s' hs', Data.field?_map, Data.field?_map]
            exact congrArg some (valueOf?_cons_of_ne hne value _).symm

end Layers

end StateCoverage
