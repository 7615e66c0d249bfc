import StateCoverage.Markup.State
import StateCoverage.Proofs.Text.Words
import Mathlib.Data.List.TakeWhile

/-!
The marks by which a text shows a state: `hover:` at the start of a class, and `[&:hover]`
anywhere. A text shows a state exactly when, with a space in front, it has a mark of it inside.
-/
namespace StateCoverage.State

/-- What a class of the state starts with. -/
def headMark (x : State) : Text := text x.name ++ text ":"

/-- The arbitrary variant of the state. -/
def variantMark (x : State) : Text := text "[&:" ++ text x.name ++ text "]"

/-- The marks of a state: its head behind a blank, or its variant. -/
inductive Mark (x : State) : Text → Prop
  | head {b : CodePoint} : b.isBlank = true → Mark x (b :: x.headMark)
  | variant : Mark x x.variantMark

/-- A mark of the state stands in the text. -/
def Carries (x : State) (t : Text) : Prop := ∃ m, Mark x m ∧ m <:+: t

theorem Carries.mono {x : State} {s t : Text} (h : Carries x s) (hi : s <:+: t) : Carries x t := by
  obtain ⟨m, hm, hs⟩ := h
  exact ⟨m, hm, hs.trans hi⟩

section Characters
variable {x y : State}

theorem mem_all (x : State) : x ∈ all := by
  cases x <;> decide

theorem headMark_solid (x : State) : x.headMark.Solid := by
  cases x <;> unfold Text.Solid <;> decide

theorem variantMark_solid (x : State) : x.variantMark.Solid := by
  cases x <;> unfold Text.Solid <;> decide

theorem name_isVariantCharacter (x : State) : ∀ p ∈ text x.name, isVariantCharacter p = true := by
  cases x <;> decide

theorem name_ne_nil (x : State) : text x.name ≠ [] := by
  cases x <;> decide

theorem name_injective (h : text x.name = text y.name) : x = y := by
  revert h
  cases x <;> cases y <;> decide

/-- No head is the start of another. -/
theorem headMark_prefix_injective (h : x.headMark <+: y.headMark) : x = y := by
  revert h
  cases x <;> cases y <;> decide

end Characters

theorem mem_firsts {x : State} {states : List State} : x ∈ firsts states ↔ x ∈ states := by
  suffices h : ∀ found,
      x ∈ states.foldl (fun found s => if s ∈ found then found else found ++ [s]) found ↔
        x ∈ found ∨ x ∈ states by
    rw [firsts, h]
    simp
  induction states with
  | nil => simp
  | cons s rest ih =>
    intro found
    rw [List.foldl_cons, ih]
    by_cases hs : s ∈ found
    · rw [if_pos hs, List.mem_cons]
      constructor
      · intro hor
        obtain h | h := hor
        · exact .inl h
        · exact .inr (.inr h)
      · intro hor
        obtain h | rfl | h := hor
        · exact .inl h
        · exact .inl hs
        · exact .inr h
    · rw [if_neg hs, List.mem_append, List.mem_singleton, List.mem_cons, or_assoc]

/-- At most one head fits a class, so the states can be tried in any order. -/
theorem find?_headMark_eq_some_iff {order : List State} (horder : ∀ y, y ∈ order) {x : State}
    {cls : Text} :
    (order.find? fun y => Text.startsWith y.headMark cls) = some x ↔ x.headMark <+: cls := by
  have hp (y : State) : Text.startsWith y.headMark cls = true ↔ y.headMark <+: cls :=
    List.isPrefixOf_iff_prefix
  constructor
  · intro h
    have hx := List.find?_some h
    exact (hp x).mp hx
  · intro h
    cases hf : order.find? fun y => Text.startsWith y.headMark cls with
    | none =>
      have hn := List.find?_eq_none.mp hf x (horder x)
      exact absurd ((hp x).mpr h) hn
    | some y =>
      have hy := List.find?_some hf
      obtain hxy | hyx := List.prefix_or_prefix_of_prefix h ((hp y).mp hy)
      · rw [headMark_prefix_injective hxy]
      · rw [headMark_prefix_injective hyx]

theorem ofPrefix?_eq_some_iff {x : State} {cls : Text} :
    ofPrefix? cls = some x ↔ x.headMark <+: cls :=
  find?_headMark_eq_some_iff mem_all

theorem ofName?_eq_some_iff {x : State} {name : Text} :
    ofName? name = some x ↔ name = text x.name := by
  rw [ofName?]
  constructor
  · intro h
    have hn := List.find?_some h
    exact (of_decide_eq_true hn).symm
  · intro heq
    obtain rfl := heq
    cases hf : all.find? fun s => text s.name = text x.name with
    | none =>
      have hn := List.find?_eq_none.mp hf x (mem_all x)
      simp at hn
    | some y =>
      have hn := List.find?_some hf
      rw [name_injective (of_decide_eq_true hn)]

theorem takeWhile_variant {name r : Text} (h : ∀ p ∈ name, isVariantCharacter p = true) :
    (name ++ text "]" ++ r).takeWhile isVariantCharacter = name := by
  have hclose : isVariantCharacter (.scalar ']') = false := by decide
  rw [List.append_assoc, List.takeWhile_append_of_pos h]
  simp [text, hclose]

/-- A variant begins exactly where brackets stand around a name. -/
theorem variantAt?_eq_some_iff {t name : Text} :
    variantAt? t = some name ↔
      name ≠ [] ∧ (∀ p ∈ name, isVariantCharacter p = true) ∧
        text "[&:" ++ name ++ text "]" <+: t := by
  unfold variantAt?
  constructor
  · intro h
    split at h
    · cases h
    · rename_i rest hrest
      obtain rfl := Text.after?_eq_some_iff.mp hrest
      dsimp only at h
      split at h
      · rename_i hn
        obtain ⟨hne, hclose⟩ := hn
        obtain rfl : rest.takeWhile isVariantCharacter = name := by simpa using h
        refine ⟨hne, fun p hp => List.mem_takeWhile_imp hp, ?_⟩
        have hd : rest.drop (rest.takeWhile isVariantCharacter).length =
            .scalar ']' :: rest.drop ((rest.takeWhile isVariantCharacter).length + 1) := by
          obtain ⟨hlt, hget⟩ := List.getElem?_eq_some_iff.mp hclose
          rw [List.drop_eq_getElem_cons hlt, hget]
        have htake :=
          List.prefix_iff_eq_take.mp (List.takeWhile_prefix (l := rest) isVariantCharacter)
        have hrest : rest = rest.takeWhile isVariantCharacter ++ text "]" ++
            rest.drop ((rest.takeWhile isVariantCharacter).length + 1) := by
          conv_lhs => rw [← List.take_append_drop (rest.takeWhile isVariantCharacter).length rest]
          rw [← htake, hd]
          simp [text]
        refine ⟨rest.drop ((rest.takeWhile isVariantCharacter).length + 1), ?_⟩
        rw [List.append_assoc, List.append_assoc, ← List.append_assoc (rest.takeWhile _), ← hrest]
      · cases h
  · intro hex
    obtain ⟨hne, hall, r, rfl⟩ := hex
    have hafter : Text.after? (text "[&:") (text "[&:" ++ name ++ text "]" ++ r) =
        some (name ++ text "]" ++ r) := by
      rw [Text.after?_eq_some_iff]
      simp only [List.append_assoc]
    rw [hafter]
    dsimp only
    rw [takeWhile_variant hall, if_pos]
    refine ⟨hne, ?_⟩
    simp [text]

theorem mem_variants_iff {name cls : Text} :
    name ∈ variants cls ↔ name ≠ [] ∧ (∀ p ∈ name, isVariantCharacter p = true) ∧
      text "[&:" ++ name ++ text "]" <:+: cls := by
  induction cls with
  | nil => simp [variants, text]
  | cons c rest ih =>
    rw [variants, List.mem_append, ih, Option.mem_toList, variantAt?_eq_some_iff,
      ← and_or_left, ← and_or_left, List.infix_cons_iff]

/-- A class has the state it begins with and those of its variants. -/
theorem mem_ofClass_iff {x : State} {cls : Text} :
    x ∈ ofClass cls ↔ x.headMark <+: cls ∨ x.variantMark <:+: cls := by
  rw [ofClass, List.mem_append, Option.mem_toList, ofPrefix?_eq_some_iff, List.mem_filterMap]
  refine or_congr_right ?_
  constructor
  · intro hex
    obtain ⟨name, hv, hn⟩ := hex
    obtain rfl := ofName?_eq_some_iff.mp hn
    exact (mem_variants_iff.mp hv).2.2
  · intro h
    refine ⟨text x.name, mem_variants_iff.mpr ⟨name_ne_nil x, name_isVariantCharacter x, h⟩, ?_⟩
    exact ofName?_eq_some_iff.mpr rfl

theorem headMark_ne_nil (x : State) : x.headMark ≠ [] := by
  cases x <;> decide

theorem variantMark_ne_nil (x : State) : x.variantMark ≠ [] := by
  cases x <;> decide

/-- A text has the states whose marks it carries, once a space stands in front. -/
theorem mem_ofText_iff {x : State} {t : Text} : x ∈ ofText t ↔ Carries x (.scalar ' ' :: t) := by
  have hspace : (CodePoint.scalar ' ').isBlank = true := by decide
  simp only [ofText, mem_firsts, List.mem_flatMap, mem_ofClass_iff]
  constructor
  · intro hex
    obtain ⟨w, hw, hm⟩ := hex
    obtain ⟨b, hb, hi⟩ := Text.exists_blank_of_mem_words hw
    obtain hm | hm := hm
    · exact ⟨b :: x.headMark, .head hb, (List.cons_prefix_cons.mpr ⟨rfl, hm⟩).isInfix.trans hi⟩
    · exact ⟨x.variantMark, .variant, hm.trans ((List.suffix_cons b w).isInfix.trans hi)⟩
  · intro hcarries
    obtain ⟨m, hm, hi⟩ := hcarries
    rw [← Text.words_cons_blank hspace t]
    cases hm with
    | head hb =>
      obtain ⟨w, hw, hp⟩ :=
        Text.exists_word_of_blank_infix (headMark_solid x) (headMark_ne_nil x) hb hi
      exact ⟨w, hw, .inl hp⟩
    | variant =>
      obtain ⟨w, hw, hp⟩ :=
        Text.exists_word_of_infix (variantMark_solid x) (variantMark_ne_nil x) hi
      exact ⟨w, hw, .inr hp⟩

end StateCoverage.State
