import StateCoverage.Proofs.List
import StateCoverage.Proofs.State.Mark
import Mathlib.Data.List.Infix
import Mathlib.Data.List.Induction
import Mathlib.Data.Prod.Lex

/-!
The states of a class list are exactly those whose marks stand in its classes, in the order of the
marks. Neither the order in which states are tried nor a match in front hides one.
-/
namespace StateCoverage.State

section Search
variable {name r cls : Text}

theorem find?_headMark {order : List State} (h : ∀ x, x ∈ order) (cls : Text) :
    (order.find? fun x => Text.startsWith x.headMark cls) = ofPrefix? cls := by
  ext x
  rw [find?_headMark_eq_some_iff h, ofPrefix?_eq_some_iff]

/-- The variants found one after the other: behind one that is found, the search goes on behind its
bracket. -/
def scan : Text → List Text
  | [] => []
  | c :: rest =>
    match variantAt? (c :: rest) with
    | some name => name :: scan (rest.drop (name.length + 3))
    | none => scan rest
termination_by t => t.length
decreasing_by all_goals simp only [List.length_cons, List.length_drop]; omega

theorem variants_append_of_not_mem {s : Text} (h : CodePoint.scalar '[' ∉ s) (r : Text) :
    variants (s ++ r) = variants r := by
  induction s with
  | nil => rfl
  | cons c s ih =>
    rw [List.mem_cons, not_or] at h
    have hnone : variantAt? (c :: (s ++ r)) = none := by
      cases hv : variantAt? (c :: (s ++ r)) with
      | none => rfl
      | some name =>
        obtain ⟨-, -, u, hu⟩ := variantAt?_eq_some_iff.mp hv
        exact absurd (List.cons.inj hu).1 h.1
    rw [List.cons_append, variants, hnone, ih h.2]
    rfl

theorem bracket_not_mem_of_variant (h : ∀ p ∈ name, isVariantCharacter p = true) :
    CodePoint.scalar '[' ∉ text "&:" ++ name ++ text "]" := by
  have hbracket : isVariantCharacter (.scalar '[') = false := by decide
  simp only [List.mem_append, not_or]
  refine ⟨⟨by decide, fun hin => ?_⟩, by decide⟩
  rw [h _ hin] at hbracket
  cases hbracket

/-- No variant begins inside another, so the search in one pass finds them all. -/
theorem scan_eq_variants (cls : Text) : scan cls = variants cls := by
  fun_induction scan cls with
  | case1 => rfl
  | case2 c rest name hv ih =>
    obtain ⟨-, hname, r, hr⟩ := variantAt?_eq_some_iff.mp hv
    have hrest : rest = text "&:" ++ name ++ text "]" ++ r := by
      have hcons := hr.symm
      simp only [text] at hcons ⊢
      exact (List.cons.inj hcons).2
    -- What is skipped holds no bracket, so the search at every place finds nothing there either.
    have hdrop : rest.drop (name.length + 3) = r := by
      have hlength : (text "&:" ++ name ++ text "]").length = name.length + 3 := by
        simp [text]
      rw [hrest, ← hlength, List.drop_left]
    rw [ih, variants, hv, hdrop, hrest,
      variants_append_of_not_mem (bracket_not_mem_of_variant hname)]
    rfl
  | case3 c rest hv ih =>
    rw [ih, variants, hv]
    rfl

end Search

section Firsts

theorem firsts_concat (states : List State) (s : State) :
    firsts (states ++ [s]) =
      if s ∈ firsts states then firsts states else firsts states ++ [s] :=
  List.foldl_concat ..

/-- What comes later adds the states that are new. -/
theorem firsts_append (before after : List State) :
    firsts (before ++ after) =
      firsts before ++ (firsts after).filter fun s => s ∉ firsts before := by
  induction after using List.reverseRecOn with
  | nil => simp [firsts]
  | append_singleton after s ih =>
    rw [← List.append_assoc, firsts_concat, firsts_concat, ih]
    by_cases hafter : s ∈ firsts after
    · simp only [hafter, if_true]
      rw [if_pos]
      by_cases hbefore : s ∈ firsts before
      · exact List.mem_append_left _ hbefore
      · exact List.mem_append_right _ (List.mem_filter.mpr ⟨hafter, by simpa using hbefore⟩)
    · by_cases hbefore : s ∈ firsts before
      · simp [hafter, hbefore]
      · simp [hafter, hbefore]

/-- States with places in ascending order: a state comes before another if its first place does. -/
theorem pairwise_firsts {β : Type} {R : β → β → Prop} {placed : List (State × β)}
    (h : placed.Pairwise fun p q => R p.2 q.2) :
    (firsts (placed.map Prod.fst)).Pairwise fun x y =>
      ∃ b, (x, b) ∈ placed ∧ ∀ b', (y, b') ∈ placed → R b b' := by
  induction placed using List.reverseRecOn with
  | nil => exact List.Pairwise.nil
  | append_singleton placed p ih =>
    obtain ⟨s, last⟩ := p
    obtain ⟨hplaced, -, hlast⟩ := List.pairwise_append.mp h
    have hbefore (x : State) (b : β) (hb : (x, b) ∈ placed) : R b last :=
      hlast (x, b) hb (s, last) List.mem_cons_self
    -- The first place of a state stays its first one when a later place is added.
    have hold : (firsts (placed.map Prod.fst)).Pairwise fun x y =>
        ∃ b, (x, b) ∈ placed ++ [(s, last)] ∧ ∀ b', (y, b') ∈ placed ++ [(s, last)] → R b b' := by
      refine (ih hplaced).imp fun {x y} hex => ?_
      obtain ⟨b, hb, hfirst⟩ := hex
      refine ⟨b, List.mem_append_left _ hb, fun b' hb' => ?_⟩
      obtain hb' | hb' := List.mem_append.mp hb'
      · exact hfirst b' hb'
      · cases List.mem_singleton.mp hb'
        exact hbefore x b hb
    rw [List.map_append, List.map_singleton, firsts_concat]
    split
    · exact hold
    · next hnew =>
      refine List.pairwise_append.mpr ⟨hold, List.pairwise_singleton .., fun x hx y hy => ?_⟩
      obtain rfl := List.mem_singleton.mp hy
      obtain ⟨⟨x, b⟩, hb, rfl⟩ := List.mem_map.mp (mem_firsts.mp hx)
      refine ⟨b, List.mem_append_left _ hb, fun b' hb' => ?_⟩
      obtain hb' | hb' := List.mem_append.mp hb'
      · exact absurd (mem_firsts.mpr (List.mem_map_of_mem hb')) hnew
      · cases List.mem_singleton.mp hb'
        exact hbefore x b hb

end Firsts

section Places

/-- The states in some rows, each with its row and its place in the row. -/
def placed (rows : List (List (Option State))) : List (State × (Nat × Nat)) :=
  rows.zipIdx.flatMap fun row => row.1.zipIdx.filterMap fun q => q.1.map (·, (row.2, q.2))

variable {rows : List (List (Option State))}

theorem map_fst_placed (rows : List (List (Option State))) :
    (placed rows).map Prod.fst = rows.flatMap fun row => row.filterMap id := by
  have hrow (row : List (Option State)) (i : Nat) :
      (row.zipIdx.filterMap fun q => q.1.map fun x => (x, (i, q.2))).map Prod.fst =
        row.filterMap id := by
    conv_rhs => rw [← List.zipIdx_map_fst 0 row]
    rw [List.map_filterMap, List.filterMap_map]
    refine List.filterMap_congr fun q _ => ?_
    cases hq : q.1 <;> simp [hq]
  rw [placed, List.map_flatMap]
  simp only [hrow]
  conv_rhs => rw [← List.zipIdx_map_fst 0 rows]
  rw [List.flatMap_map]

theorem mem_placed_iff {x : State} {i j : Nat} :
    (x, (i, j)) ∈ placed rows ↔ ∃ row, rows[i]? = some row ∧ row[j]? = some (some x) := by
  simp only [placed, List.mem_flatMap, List.mem_filterMap, Prod.exists,
    List.mem_zipIdx_iff_getElem?]
  constructor
  · intro hex
    obtain ⟨row, i', hi, o, j', hj, ho⟩ := hex
    obtain ⟨y, rfl, heq⟩ := Option.map_eq_some_iff.mp ho
    cases heq
    exact ⟨row, hi, hj⟩
  · intro hex
    obtain ⟨row, hi, hj⟩ := hex
    exact ⟨row, i, hi, some x, j, hj, rfl⟩

theorem pairwise_placed (rows : List (List (Option State))) :
    (placed rows).Pairwise fun p q => Prod.Lex (· < ·) (· < ·) p.2 q.2 := by
  rw [placed, List.pairwise_flatMap]
  constructor
  · intro row _
    rw [List.pairwise_filterMap]
    refine (pairwise_zipIdx row.1).imp fun {q q'} hlt p hp p' hp' => ?_
    obtain ⟨x, -, rfl⟩ := Option.map_eq_some_iff.mp hp
    obtain ⟨x', -, rfl⟩ := Option.map_eq_some_iff.mp hp'
    exact .right _ hlt
  · refine (pairwise_zipIdx rows).imp fun {row row'} hlt p hp p' hp' => ?_
    obtain ⟨q, -, hq⟩ := List.mem_filterMap.mp hp
    obtain ⟨q', -, hq'⟩ := List.mem_filterMap.mp hp'
    obtain ⟨x, -, rfl⟩ := Option.map_eq_some_iff.mp hq
    obtain ⟨x', -, rfl⟩ := Option.map_eq_some_iff.mp hq'
    exact .left _ _ hlt

/-- What a class shows at each place: at 0 what it begins with, at `j + 1` the variant behind `j`
characters. -/
def readings (cls : Text) : List (Option State) :=
  ofPrefix? cls :: cls.tails.map fun rest => (variantAt? rest).bind ofName?

theorem variants_eq_flatMap (cls : Text) :
    variants cls = cls.tails.flatMap fun rest => (variantAt? rest).toList := by
  induction cls with
  | nil => rfl
  | cons c rest ih => rw [variants, ih, List.tails_cons, List.flatMap_cons]

theorem ofClass_eq (cls : Text) : ofClass cls = (readings cls).filterMap id := by
  rw [ofClass, readings, variants_eq_flatMap, List.filterMap_flatMap]
  have hvariants : (cls.tails.flatMap fun rest => (variantAt? rest).toList.filterMap ofName?) =
      (cls.tails.map fun rest => (variantAt? rest).bind ofName?).filterMap id := by
    rw [List.filterMap_map]
    induction cls.tails with
    | nil => rfl
    | cons rest tails ih =>
      rw [List.flatMap_cons, ih]
      cases hv : variantAt? rest with
      | none => simp [hv]
      | some name => cases hn : ofName? name <;> simp [hv, hn]
  rw [hvariants]
  cases hp : ofPrefix? cls <;> simp

/-- Where a class list shows a state: the number of the class, and a place in it. That is 0 for what
the class begins with, and `j + 1` for a variant behind `j` characters. -/
inductive ShownAt (x : State) (t : Text) : Nat × Nat → Prop
  | head {i : Nat} {cls : Text} : t.words[i]? = some cls → x.headMark <+: cls → ShownAt x t (i, 0)
  | variant {i j : Nat} {cls : Text} :
      t.words[i]? = some cls → x.variantMark <+: cls.drop j → ShownAt x t (i, j + 1)

theorem getElem?_readings_succ {x : State} {cls : Text} {j : Nat} :
    (readings cls)[j + 1]? = some (some x) ↔ x.variantMark <+: cls.drop j := by
  have hvariant (rest : Text) :
      (variantAt? rest).bind ofName? = some x ↔ x.variantMark <+: rest := by
    rw [Option.bind_eq_some_iff]
    constructor
    · intro hex
      obtain ⟨name, hv, hn⟩ := hex
      obtain rfl := ofName?_eq_some_iff.mp hn
      exact (variantAt?_eq_some_iff.mp hv).2.2
    · intro h
      exact ⟨text x.name, variantAt?_eq_some_iff.mpr
        ⟨name_ne_nil x, name_isVariantCharacter x, h⟩, ofName?_eq_some_iff.mpr rfl⟩
  rw [readings, List.getElem?_cons_succ, List.getElem?_map]
  by_cases hj : j < cls.tails.length
  · rw [List.getElem?_eq_getElem hj, List.getElem_tails, Option.map_some, Option.some.injEq,
      hvariant]
  · rw [List.length_tails] at hj
    have hdrop : cls.drop j = [] := List.drop_eq_nil_of_le (by omega)
    rw [List.getElem?_eq_none (by rw [List.length_tails]; omega), hdrop]
    simp [variantMark_ne_nil x]

theorem shownAt_iff {x : State} {t : Text} {p : Nat × Nat} :
    ShownAt x t p ↔ (x, p) ∈ placed (t.words.map readings) := by
  obtain ⟨i, j⟩ := p
  rw [mem_placed_iff]
  simp only [List.getElem?_map, Option.map_eq_some_iff]
  constructor
  · intro h
    cases h with
    | head hi hx =>
      refine ⟨_, ⟨_, hi, rfl⟩, ?_⟩
      rw [readings, List.getElem?_cons_zero, ofPrefix?_eq_some_iff.mpr hx]
    | variant hi hx => exact ⟨_, ⟨_, hi, rfl⟩, getElem?_readings_succ.mpr hx⟩
  · intro hex
    obtain ⟨row, ⟨cls, hi, rfl⟩, hj⟩ := hex
    cases j with
    | zero =>
      rw [readings, List.getElem?_cons_zero, Option.some.injEq] at hj
      exact .head hi (ofPrefix?_eq_some_iff.mp hj)
    | succ j => exact .variant hi (getElem?_readings_succ.mp hj)

theorem ofText_eq (t : Text) :
    ofText t = firsts ((placed (t.words.map readings)).map Prod.fst) := by
  rw [map_fst_placed, List.flatMap_map, ofText]
  congr 1
  exact List.flatMap_congr fun cls _ => ofClass_eq cls

/-- A state comes before another exactly if it is shown before it. -/
theorem pairwise_ofText (t : Text) :
    (ofText t).Pairwise fun x y =>
      ∃ p, ShownAt x t p ∧ ∀ q, ShownAt y t q → Prod.Lex (· < ·) (· < ·) p q := by
  rw [ofText_eq]
  refine (pairwise_firsts (pairwise_placed _)).imp fun {x y} hex => ?_
  obtain ⟨p, hp, hfirst⟩ := hex
  exact ⟨p, shownAt_iff.mpr hp, fun q hq => hfirst q (shownAt_iff.mp hq)⟩

theorem nodup_ofText (t : Text) : (ofText t).Nodup := by
  refine (pairwise_ofText t).imp fun {x y} hex => ?_
  obtain ⟨p, hp, hfirst⟩ := hex
  intro heq
  obtain rfl := heq
  obtain hlt | hand := Prod.lex_def.mp (hfirst p hp)
  · exact absurd hlt (Nat.lt_irrefl _)
  · exact absurd hand.2 (Nat.lt_irrefl _)

end Places

theorem ofText_append {w : Text} (hne : w ≠ []) (hw : ∀ c ∈ w, c.isBlank = true) (a b : Text) :
    ofText (a ++ w ++ b) = ofText a ++ (ofText b).filter fun x => x ∉ ofText a := by
  have hb : Text.words (w ++ b) = Text.words b := by
    clear hne
    induction w with
    | nil => rfl
    | cons c w ih =>
      rw [List.forall_mem_cons] at hw
      rw [List.cons_append, Text.words_cons_blank hw.1, ih hw.2]
  obtain ⟨c, w, rfl⟩ := List.exists_cons_of_ne_nil hne
  have hc : c.isBlank = true := hw c List.mem_cons_self
  have hwords : Text.words (a ++ (c :: w) ++ b) = a.words ++ b.words := by
    rw [List.cons_append, Text.words_cons_blank hc] at hb
    rw [List.append_assoc, List.cons_append, Text.words_append_blank hc, hb]
  rw [ofText, hwords, List.flatMap_append, firsts_append]
  rfl

theorem variants_ne_nil_iff {cls : Text} :
    variants cls ≠ [] ↔ ∃ name, name ≠ [] ∧ (∀ p ∈ name, isVariantCharacter p = true) ∧
      text "[&:" ++ name ++ text "]" <:+: cls := by
  simp only [← mem_variants_iff]
  constructor
  · exact List.exists_mem_of_ne_nil _
  · intro hex
    obtain ⟨name, hname⟩ := hex
    exact List.ne_nil_of_mem hname

theorem stylesState_iff {t : Text} :
    stylesState t = true ↔ ∃ cls ∈ t.words, (∃ x : State, x.headMark <+: cls) ∨
      ∃ name, name ≠ [] ∧ (∀ p ∈ name, isVariantCharacter p = true) ∧
        text "[&:" ++ name ++ text "]" <:+: cls := by
  simp only [stylesState, List.any_eq_true, Bool.or_eq_true, Option.isSome_iff_exists,
    ofPrefix?_eq_some_iff, decide_eq_true_eq, variants_ne_nil_iff]

theorem mem_ofText_iff_exists_word {x : State} {t : Text} :
    x ∈ ofText t ↔ ∃ cls ∈ t.words, x.headMark <+: cls ∨ x.variantMark <:+: cls := by
  simp only [ofText, mem_firsts, List.mem_flatMap, mem_ofClass_iff]

theorem stylesState_of_ofText {t : Text} (h : ofText t ≠ []) : stylesState t = true := by
  obtain ⟨x, hx⟩ := List.exists_mem_of_ne_nil _ h
  obtain ⟨cls, hcls, hmark⟩ := mem_ofText_iff_exists_word.mp hx
  rw [stylesState_iff]
  refine ⟨cls, hcls, hmark.imp (fun hhead => ⟨x, hhead⟩) fun hvariant => ?_⟩
  exact ⟨text x.name, name_ne_nil x, name_isVariantCharacter x, hvariant⟩

/-- A class list has exactly the states whose marks stand in its classes: the name and a colon at
the start of a class, or the variant anywhere in it. Each is listed once, and before another exactly
if it is shown before it: in a class in front, or in the same class, where what it begins with comes
before its variants and those stand from left to right. So behind white space a class list only adds
the states that are new. The heads can be tried in any order, and a search for variants that goes on
behind each match misses none. A state is styled exactly where a class begins with a head or has a
variant of any name, so wherever a state is found. -/
theorem ofText_lists_marks (t : Text) :
    (∀ x, x ∈ ofText t ↔ ∃ cls ∈ t.words, x.headMark <+: cls ∨ x.variantMark <:+: cls) ∧
    (∀ (cls : Text) (order : List State), (∀ x, x ∈ order) →
      (order.find? fun x => Text.startsWith x.headMark cls) = ofPrefix? cls) ∧
    (∀ cls, scan cls = variants cls) ∧
    (ofText t).Nodup ∧
    ((ofText t).Pairwise fun x y =>
      ∃ p, ShownAt x t p ∧ ∀ q, ShownAt y t q → Prod.Lex (· < ·) (· < ·) p q) ∧
    (∀ w b, w ≠ [] → (∀ c ∈ w, c.isBlank = true) →
      ofText (t ++ w ++ b) = ofText t ++ (ofText b).filter fun x => x ∉ ofText t) ∧
    (stylesState t = true ↔ ∃ cls ∈ t.words, (∃ x : State, x.headMark <+: cls) ∨
      ∃ name, name ≠ [] ∧ (∀ p ∈ name, isVariantCharacter p = true) ∧
        text "[&:" ++ name ++ text "]" <:+: cls) ∧
    (ofText t ≠ [] → stylesState t = true) := by
  refine ⟨fun x => mem_ofText_iff_exists_word, fun cls order h => find?_headMark h cls,
    scan_eq_variants, nodup_ofText t, pairwise_ofText t, ?_, stylesState_iff,
    stylesState_of_ofText⟩
  intro w b hne hw
  exact ofText_append hne hw t b

/-- A prefix behind a longer one that it begins like, and a variant twice in one class. -/
def focusClasses : Text := text "focus-visible:ring x[&:[&:hover]-[&:hover] focus:p-1"

/-- The longer names before the shorter ones. -/
def longestFirst : List State :=
  [focusVisible, focusWithin, placeholder, disabled, invalid, checked, active, hover, focus]

theorem focusClasses_lists_marks :
    (∀ x, x ∈ longestFirst) ∧
    (longestFirst.find? fun x => Text.startsWith x.headMark (text "focus-visible:ring")) =
      some focusVisible ∧
    text "\t" ≠ [] ∧ (∀ c ∈ text "\t", c.isBlank = true) ∧
    ofText (focusClasses ++ text "\t" ++ text "active:x focus:y") =
      [focusVisible, hover, focus, active] ∧
    ofText focusClasses ≠ [] ∧ stylesState focusClasses = true := by
  have horder : ∀ x, x ∈ longestFirst := by
    intro x
    cases x <;> decide
  have hw : ∀ c ∈ text "\t", c.isBlank = true := by decide
  have hfound : ofText focusClasses ≠ [] := by decide +kernel
  obtain ⟨-, hsearch, -, -, -, hadd, -, hstyled⟩ := ofText_lists_marks focusClasses
  exact ⟨horder, (hsearch _ _ horder).trans (by decide), by decide, hw,
    (hadd _ (text "active:x focus:y") (by decide) hw).trans (by decide +kernel), hfound,
    hstyled hfound⟩

end StateCoverage.State
