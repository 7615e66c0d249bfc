import StateCoverage.Text.Blank
import Mathlib.Data.List.Infix

/-!
Words of a concatenation. A blank cuts a text into two whose words stay apart, and a run of
non-blanks lies inside one word.
-/
namespace StateCoverage.Text

def Solid (t : Text) : Prop := ∀ c ∈ t, c.isBlank = false

def startsBlank (t : Text) : Bool := t.head?.any CodePoint.isBlank

def endsBlank (t : Text) : Bool := t.getLast?.any CodePoint.isBlank

theorem startsBlank_iff (t : Text) :
    t.startsBlank = true ↔ ∃ b r, t = b :: r ∧ b.isBlank = true := by
  cases t with
  | nil => simp [startsBlank]
  | cons c r => simp [startsBlank]

theorem endsBlank_iff (t : Text) : t.endsBlank = true ↔ ∃ r b, t = r ++ [b] ∧ b.isBlank = true := by
  constructor
  · intro h
    obtain rfl | ⟨r, b, rfl⟩ := List.eq_nil_or_concat' t
    · simp [endsBlank] at h
    · exact ⟨r, b, rfl, by simpa [endsBlank] using h⟩
  · intro hex
    obtain ⟨r, b, rfl, hb⟩ := hex
    simp [endsBlank, hb]

theorem consWord_append (word : Text) (us vs : List Text) :
    consWord word (us ++ vs) = consWord word us ++ vs := by
  by_cases h : word = [] <;> simp [consWord, h]

theorem mem_consWord {c word : Text} {rest : List Text} :
    c ∈ consWord word rest ↔ (c = word ∧ word ≠ []) ∨ c ∈ rest := by
  by_cases h : word = []
  · simp [consWord, h]
  · simp [consWord, h]

theorem splitWord_cons_blank {b : CodePoint} (hb : b.isBlank = true) (t : Text) :
    splitWord (b :: t) = ([], words t) := by
  simp [splitWord, words, hb]

theorem splitWord_cons_solid {c : CodePoint} (hc : c.isBlank = false) (t : Text) :
    splitWord (c :: t) = (c :: (splitWord t).1, (splitWord t).2) := by
  simp [splitWord, hc]

theorem words_eq (t : Text) : words t = consWord (splitWord t).1 (splitWord t).2 := rfl

@[simp] theorem words_nil : words [] = [] := rfl

theorem words_cons_blank {b : CodePoint} (hb : b.isBlank = true) (t : Text) :
    words (b :: t) = words t := by
  rw [words_eq, splitWord_cons_blank hb]
  rfl

theorem splitWord_append_blank {b : CodePoint} (hb : b.isBlank = true) (s t : Text) :
    splitWord (s ++ b :: t) = ((splitWord s).1, (splitWord s).2 ++ words t) := by
  induction s with
  | nil => simp [splitWord_cons_blank hb, splitWord]
  | cons c s ih =>
    by_cases hc : c.isBlank = true
    · simp only [List.cons_append, splitWord_cons_blank hc, words_eq (s ++ b :: t), ih,
        consWord_append, words_eq s]
    · have hc : c.isBlank = false := by simpa using hc
      simp only [List.cons_append, splitWord_cons_solid hc, ih]

/-- A blank keeps the words on its two sides apart. -/
theorem words_append_blank {b : CodePoint} (hb : b.isBlank = true) (s t : Text) :
    words (s ++ b :: t) = words s ++ words t := by
  rw [words_eq, splitWord_append_blank hb, consWord_append, words_eq s]

theorem words_append_of_startsBlank (s : Text) {t : Text} (h : t.startsBlank = true) :
    words (s ++ t) = words s ++ words t := by
  obtain ⟨b, r, rfl, hb⟩ := (startsBlank_iff t).mp h
  rw [words_append_blank hb, words_cons_blank hb]

theorem words_append_of_endsBlank {s : Text} (h : s.endsBlank = true) (t : Text) :
    words (s ++ t) = words s ++ words t := by
  obtain ⟨r, b, rfl, hb⟩ := (endsBlank_iff s).mp h
  rw [List.append_assoc, List.singleton_append, words_append_blank hb, words_append_blank hb]
  simp

/-- Texts joined by spaces have the words of each in turn. -/
theorem words_join (parts : List Text) :
    words (join (text " ") parts) = parts.flatMap words := by
  have hb : (CodePoint.scalar ' ').isBlank = true := by decide
  induction parts with
  | nil => rfl
  | cons part rest ih =>
    cases rest with
    | nil => simp [join]
    | cons next rest =>
      have hj : join (text " ") (part :: next :: rest) =
          part ++ CodePoint.scalar ' ' :: join (text " ") (next :: rest) := by
        simp [join, text]
      rw [hj, words_append_blank hb, ih, List.flatMap_cons, List.flatMap_cons, List.flatMap_cons]

theorem splitWord_append_solid {s : Text} (hs : s.Solid) (t : Text) :
    splitWord (s ++ t) = (s ++ (splitWord t).1, (splitWord t).2) := by
  induction s with
  | nil => rfl
  | cons c s ih =>
    have hc : c.isBlank = false := hs c (by simp)
    have ht : Solid s := fun d hd => hs d (List.mem_cons_of_mem c hd)
    rw [List.cons_append, splitWord_cons_solid hc, ih ht]
    rfl

/-- A run of non-blanks at the start of a text starts a word. -/
theorem exists_word_of_prefix {s t : Text} (hs : s.Solid) (hne : s ≠ []) (h : s <+: t) :
    ∃ w ∈ words t, s <+: w := by
  obtain ⟨r, rfl⟩ := h
  refine ⟨s ++ (splitWord r).1, ?_, List.prefix_append s _⟩
  rw [words_eq, splitWord_append_solid hs, mem_consWord]
  exact .inl ⟨rfl, by simp [hne]⟩

/-- So does one behind a blank. -/
theorem exists_word_of_blank_infix {s t : Text} {b : CodePoint} (hs : s.Solid) (hne : s ≠ [])
    (hb : b.isBlank = true) (h : b :: s <:+: t) : ∃ w ∈ words t, s <+: w := by
  obtain ⟨u, r, rfl⟩ := h
  obtain ⟨w, hw, hp⟩ := exists_word_of_prefix hs hne (List.prefix_append s r)
  refine ⟨w, ?_, hp⟩
  rw [List.append_assoc, List.cons_append, words_append_blank hb]
  exact List.mem_append_right _ hw

/-- A run of non-blanks anywhere lies inside a word. -/
theorem exists_word_of_infix {s t : Text} (hs : s.Solid) (hne : s ≠ []) (h : s <:+: t) :
    ∃ w ∈ words t, s <:+: w := by
  obtain ⟨u, r, rfl⟩ := h
  induction u with
  | nil =>
    obtain ⟨w, hw, hp⟩ := exists_word_of_prefix hs hne (List.prefix_append s r)
    exact ⟨w, by simpa using hw, hp.isInfix⟩
  | cons c u ih =>
    obtain ⟨w, hw, hi⟩ := ih
    by_cases hc : c.isBlank = true
    · exact ⟨w, by simpa only [List.cons_append, words_cons_blank hc] using hw, hi⟩
    · have hc : c.isBlank = false := by simpa using hc
      simp only [List.cons_append, words_eq (c :: (u ++ s ++ r)), splitWord_cons_solid hc]
      obtain ⟨rfl, -⟩ | hr := mem_consWord.mp (words_eq (u ++ s ++ r) ▸ hw)
      · exact ⟨_, mem_consWord.mpr (.inl ⟨rfl, by simp⟩), hi.trans (List.suffix_cons c _).isInfix⟩
      · exact ⟨w, mem_consWord.mpr (.inr hr), hi⟩

theorem splitWord_fst_prefix (t : Text) : (splitWord t).1 <+: t := by
  induction t with
  | nil => exact List.prefix_rfl
  | cons c t ih =>
    by_cases hc : c.isBlank = true
    · simp [splitWord_cons_blank hc]
    · have hc : c.isBlank = false := by simpa using hc
      rw [splitWord_cons_solid hc]
      exact List.cons_prefix_cons.mpr ⟨rfl, ih⟩

theorem exists_blank_of_mem_splitWord {w t : Text} (h : w ∈ (splitWord t).2) :
    ∃ b, b.isBlank = true ∧ b :: w <:+: t := by
  induction t with
  | nil => simp [splitWord] at h
  | cons c t ih =>
    by_cases hc : c.isBlank = true
    · rw [splitWord_cons_blank hc, words_eq, mem_consWord] at h
      obtain ⟨rfl, -⟩ | h := h
      · exact ⟨c, hc, (List.cons_prefix_cons.mpr ⟨rfl, splitWord_fst_prefix t⟩).isInfix⟩
      · obtain ⟨b, hb, hi⟩ := ih h
        exact ⟨b, hb, hi.trans (List.suffix_cons c t).isInfix⟩
    · have hc : c.isBlank = false := by simpa using hc
      rw [splitWord_cons_solid hc] at h
      obtain ⟨b, hb, hi⟩ := ih h
      exact ⟨b, hb, hi.trans (List.suffix_cons c t).isInfix⟩

/-- Behind a space, every word of a text follows a blank. -/
theorem exists_blank_of_mem_words {w t : Text} (h : w ∈ words t) :
    ∃ b, b.isBlank = true ∧ b :: w <:+: CodePoint.scalar ' ' :: t := by
  rw [words_eq, mem_consWord] at h
  obtain ⟨rfl, -⟩ | h := h
  · exact ⟨.scalar ' ', by decide,
      (List.cons_prefix_cons.mpr ⟨rfl, splitWord_fst_prefix t⟩).isInfix⟩
  · obtain ⟨b, hb, hi⟩ := exists_blank_of_mem_splitWord h
    exact ⟨b, hb, hi.trans (List.suffix_cons _ t).isInfix⟩

/-- What stands behind a start. -/
theorem after?_eq_some_iff {start t rest : Text} :
    after? start t = some rest ↔ t = start ++ rest := by
  induction start generalizing t with
  | nil => simp [after?]
  | cons c start ih =>
    cases t with
    | nil => simp [after?]
    | cons d t =>
      by_cases h : c = d
      · simp [after?, h, ih]
      · simp [after?, h, Ne.symm h]

end StateCoverage.Text
