import StateCoverage.Proofs.Expr.Outcome
import StateCoverage.Proofs.Text.Words

/-!
The classes of a resolved text. Where white space keeps the substitutions of every template apart
from its quasis, they are exactly the classes of all texts that the expression can be.
-/
namespace StateCoverage

namespace Text

/-- The quasis behind the first: each starts with white space, and ends with it if a substitution
follows. The last may be empty. -/
def SpacedBehind : List Text → Prop
  | [] => True
  | [last] => last = [] ∨ last.startsBlank = true
  | quasi :: next :: rest =>
    quasi.startsBlank = true ∧ quasi.endsBlank = true ∧ SpacedBehind (next :: rest)

/-- White space parts each substitution from the quasis around it; the first and the last quasi may
be empty. -/
def Spaced : List Text → Prop
  | [] => True
  | [_] => True
  | first :: next :: rest => (first = [] ∨ first.endsBlank = true) ∧ SpacedBehind (next :: rest)

theorem startsBlank_append {s : Text} (h : s.startsBlank = true) (t : Text) :
    Text.startsBlank (s ++ t) = true := by
  obtain ⟨b, r, rfl, hb⟩ := (startsBlank_iff s).mp h
  exact (startsBlank_iff _).mpr ⟨b, r ++ t, rfl, hb⟩

theorem words_append_of_eq_nil_or_startsBlank (s : Text) {t : Text}
    (h : t = [] ∨ t.startsBlank = true) : words (s ++ t) = words s ++ words t := by
  obtain rfl | h := h
  · simp
  · exact words_append_of_startsBlank s h

theorem words_append_of_eq_nil_or_endsBlank {s : Text} (h : s = [] ∨ s.endsBlank = true)
    (t : Text) : words (s ++ t) = words s ++ words t := by
  obtain rfl | h := h
  · simp
  · exact words_append_of_endsBlank h t

/-- What follows a substitution is empty or starts with white space. -/
theorem weave_startsBlank {quasi : Text} {rest : List Text} (h : SpacedBehind (quasi :: rest))
    {ts : List Text} (hlen : rest.length = ts.length) :
    weave (quasi :: rest) ts = [] ∨ (weave (quasi :: rest) ts).startsBlank = true := by
  cases rest with
  | nil =>
    obtain rfl : ts = [] := List.length_eq_zero_iff.mp hlen.symm
    simpa [weave, SpacedBehind] using h
  | cons next rest =>
    cases ts with
    | nil => simp at hlen
    | cons t ts =>
      rw [weave, List.append_assoc]
      exact .inr (startsBlank_append h.1 _)

/-- A spaced template has the classes of its quasis and of what stands between them. -/
theorem mem_words_weave {c quasi : Text} {rest ts : List Text} (h : Spaced (quasi :: rest))
    (hlen : rest.length = ts.length) :
    c ∈ words (weave (quasi :: rest) ts) ↔
      (∃ q ∈ quasi :: rest, c ∈ words q) ∨ ∃ t ∈ ts, c ∈ words t := by
  induction ts generalizing quasi rest with
  | nil =>
    obtain rfl : rest = [] := List.length_eq_zero_iff.mp hlen
    simp [weave]
  | cons t ts ih =>
    cases rest with
    | nil => simp at hlen
    | cons next rest =>
      have hlen : rest.length = ts.length := by simpa using hlen
      have hnext : Spaced (next :: rest) := by
        cases rest with
        | nil => trivial
        | cons => exact ⟨.inr h.2.2.1, h.2.2.2⟩
      have hw : words (weave (quasi :: next :: rest) (t :: ts)) =
          words quasi ++ (words t ++ words (weave (next :: rest) ts)) := by
        rw [weave, List.append_assoc, words_append_of_eq_nil_or_endsBlank h.1,
          words_append_of_eq_nil_or_startsBlank t (weave_startsBlank h.2 hlen)]
      rw [hw, List.mem_append, List.mem_append, ih hnext hlen]
      simp only [List.mem_cons, exists_eq_or_imp, or_assoc, or_left_comm]

theorem mem_words_join_filter {c : Text} (parts : List Text) :
    c ∈ words (join (text " ") (parts.filter (· ≠ []))) ↔ ∃ part ∈ parts, c ∈ words part := by
  rw [words_join, List.mem_flatMap]
  constructor
  · intro hex
    obtain ⟨part, hp, hc⟩ := hex
    exact ⟨part, (List.mem_filter.mp hp).1, hc⟩
  · intro hex
    obtain ⟨part, hp, hc⟩ := hex
    have hne : part ≠ [] := by
      intro heq
      obtain rfl := heq
      simp at hc
    exact ⟨part, List.mem_filter.mpr ⟨hp, by simpa using hne⟩, hc⟩

end Text

namespace Expr
open Text
variable {table : Table}

/-- A template with one more quasi than substitutions, set apart by white space. -/
def ClassDelimited (quasis : List Text) (substitutions : List Expr) : Prop :=
  quasis.length = substitutions.length + 1 ∧ Spaced quasis

/-- Every class of an outcome of a substitution is one of an outcome of the template. -/
theorem mem_words_template_iff {quasis : List Text} {substitutions : List Expr}
    (h : ClassDelimited quasis substitutions) (c : Text) :
    (∃ s, Outcome table (.template quasis substitutions) s ∧ c ∈ words s) ↔
      (∃ q ∈ quasis, c ∈ words q) ∨ ∃ e ∈ substitutions, ∃ s, Outcome table e s ∧ c ∈ words s := by
  obtain ⟨hlen, hs⟩ := h
  cases quasis with
  | nil => simp at hlen
  | cons quasi rest =>
    have hlen : rest.length = substitutions.length := by simpa using hlen
    have hall : ∀ e ∈ substitutions, ∃ s, Outcome table e s := fun e _ => exists_outcome table e
    constructor
    · intro hex
      obtain ⟨s, ho, hc⟩ := hex
      cases ho with
      | template htexts =>
        obtain hq | ⟨t, ht, hc⟩ := (mem_words_weave hs (hlen.trans htexts.length_eq)).mp hc
        · exact .inl hq
        · obtain ⟨e, he, ho⟩ := mem_of_forall₂ htexts ht
          exact .inr ⟨e, he, t, ho, hc⟩
    · intro hor
      obtain hq | ⟨e, he, s, ho, hc⟩ := hor
      · obtain ⟨texts, htexts⟩ := exists_forall₂ hall
        have hw := (mem_words_weave hs (hlen.trans htexts.length_eq)).mpr (.inl hq)
        exact ⟨_, .template htexts, hw⟩
      · obtain ⟨texts, htexts, hmem⟩ := exists_forall₂_mem hall he ho
        exact ⟨_, .template htexts,
          (mem_words_weave hs (hlen.trans htexts.length_eq)).mpr (.inr ⟨s, hmem, hc⟩)⟩

theorem mem_words_index_iff (target key : Expr) (c : Text) :
    c ∈ words (resolve table (.index target key)).text ↔
      ∃ s, Outcome table (.index target key) s ∧ c ∈ words s := by
  by_cases h : ∃ properties, base? table target = some (.object properties)
  · obtain ⟨properties, hb⟩ := h
    simp only [outcome_index_iff_of_object hb, resolve_index_of_object table hb, Resolution.known,
      words_join, List.mem_flatMap, Value.mem_strings_iff]
    constructor
    · intro hex
      obtain ⟨s, ⟨hl, -⟩, hc⟩ := hex
      exact ⟨s, .inl hl, hc⟩
    · intro hex
      obtain ⟨s, hl | ⟨rfl, -⟩, hc⟩ := hex
      · refine ⟨s, ⟨hl, ?_⟩, hc⟩
        intro heq
        obtain rfl := heq
        simp at hc
      · simp at hc
  · push Not at h
    simp [outcome_index_iff_of_not_object h, resolve_index_of_not_object table h,
      Resolution.unknown]

/-- A class with a property, in one of many texts. -/
theorem exists_word_iff {p : Text → Prop} {R : Text → Prop} :
    (∃ c, (∃ s, R s ∧ c ∈ words s) ∧ p c) ↔ ∃ s, R s ∧ ∃ c ∈ words s, p c := by
  constructor
  · rintro ⟨c, ⟨s, hs, hc⟩, hp⟩
    exact ⟨s, hs, c, hc, hp⟩
  · rintro ⟨s, hs, c, hc, hp⟩
    exact ⟨c, ⟨s, hs, hc⟩, hp⟩

theorem exists_word_template_iff {p : Text → Prop} {quasis : List Text} {substitutions : List Expr}
    (h : ClassDelimited quasis substitutions) :
    (∃ s, Outcome table (.template quasis substitutions) s ∧ ∃ c ∈ words s, p c) ↔
      (∃ q ∈ quasis, ∃ c ∈ words q, p c) ∨
        ∃ e ∈ substitutions, ∃ s, Outcome table e s ∧ ∃ c ∈ words s, p c := by
  simp only [← exists_word_iff, mem_words_template_iff h, or_and_right, exists_or]
  refine or_congr_right ?_
  constructor
  · rintro ⟨c, ⟨e, he, hc⟩, hp⟩
    exact ⟨e, he, c, hc, hp⟩
  · rintro ⟨e, he, c, hc, hp⟩
    exact ⟨c, ⟨e, he, hc⟩, hp⟩

/-- Whatever is asked of a class, the resolved text holds such a class if and only if some text that
the expression can be does. -/
theorem exists_word_resolve_iff (table : Table) (p : Text → Prop) (e : Expr)
    (h : e.EveryTemplate ClassDelimited) :
    (∃ c ∈ words (e.resolve table).text, p c) ↔
      ∃ s, e.Outcome table s ∧ ∃ c ∈ words s, p c := by
  induction e with
  | string value => simp [resolve, Resolution.known, outcome_string_iff]
  | template quasis substitutions ih =>
    obtain ⟨hd, hsub⟩ := everyTemplate_template.mp h
    rw [exists_word_template_iff hd, text_resolve_template]
    obtain ⟨hlen, hs⟩ := hd
    cases quasis with
    | nil => simp at hlen
    | cons quasi rest =>
      have hlen : rest.length = (substitutions.map fun e => (e.resolve table).text).length := by
        simpa using hlen
      simp only [mem_words_weave hs hlen, or_and_right, exists_or, exists_word_iff]
      refine or_congr_right ?_
      simp only [List.mem_map, exists_exists_and_eq_and]
      exact exists_congr fun e => and_congr_right fun he => ih e he (hsub e he)
  | name x => simp [text_resolve_name, outcome_name_iff]
  | member target property => simp [text_resolve_member, outcome_member_iff]
  | index target key => simp only [← exists_word_iff, mem_words_index_iff]
  | conditional test consequent alternate _ ihc iha =>
    obtain ⟨-, hc, ha⟩ := everyTemplate_conditional.mp h
    simp only [text_resolve_conditional, mem_words_join_filter, List.mem_cons, List.not_mem_nil,
      or_false, exists_eq_left, or_and_right, exists_or, ihc hc, iha ha,
      outcome_conditional_iff]
  | call callee arguments _ _ ih =>
    cases hr : callee.receiver? with
    | none =>
      simp [resolve_call_of_not_receiver table hr, outcome_call_iff_of_not_receiver hr,
        Resolution.unknown]
    | some target =>
      obtain ⟨method, -, rfl⟩ := receiver?_eq_some hr
      have htarget := (everyTemplate_member.mp (everyTemplate_call.mp h).1).1
      simp only [resolve_call_of_receiver table hr, ih target _ rfl htarget,
        outcome_call_iff_of_receiver hr]
  | object properties => simp [resolve, Resolution.unknown, outcome_object_iff]
  | assertion operand ih =>
    simp only [resolve, ih (everyTemplate_assertion.mp h), outcome_assertion_iff]
  | other kind source => simp [resolve, Resolution.unknown, outcome_other_iff]

def sizes : Table :=
  [(text "sizes", .object [(text "sm", .string (text "p-1")), (text "lg", .string (text "p-2"))])]

end Expr

end StateCoverage
