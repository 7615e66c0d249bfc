import StateCoverage.Proofs.Expr.ClassUnion
import StateCoverage.Proofs.State.Seam

/-!
The states of a resolved text against those of all texts that the expression can be. A template
without seams keeps the states of its substitutions; with a seam there are substitutions whose
state it loses, unless the quasis show that state themselves.
-/
namespace StateCoverage

namespace State
open Text
variable {x : State}

section Guard
variable {q : Text} {quasis ts : List Text}

/-- No mark of the state is lost in a template of these quasis, for it has no seams or a quasi
carries a mark itself. -/
def Guarded (x : State) : List Text → Prop
  | [] => True
  | first :: rest => Seamless x (.scalar ' ' :: first) rest ∨ ∃ q ∈ first :: rest, Carries x q

theorem infix_weave (h : q ∈ quasis) (ts : List Text) : q <:+: weave quasis ts := by
  induction quasis generalizing ts with
  | nil => simp at h
  | cons quasi rest ih =>
    have hw : ∃ u us, weave (quasi :: rest) ts = quasi ++ (u ++ weave rest us) := by
      cases ts with
      | nil => exact ⟨[], [], by simp [weave]⟩
      | cons t ts => exact ⟨t, ts, by simp [weave]⟩
    obtain ⟨u, us, hw⟩ := hw
    rw [hw]
    obtain rfl | h := List.mem_cons.mp h
    · exact (List.prefix_append q _).isInfix
    · exact (ih h us).trans ⟨quasi ++ u, [], by simp⟩

theorem Guarded.kept_weave {us : List Text} (h : Guarded x quasis)
    (hlen : quasis.length = ts.length + 1) (hkept : List.Forall₂ (Kept x) ts us) :
    Kept x (weave quasis ts) (weave quasis us) := by
  cases quasis with
  | nil => simp at hlen
  | cons first rest =>
    have hlen : ts.length = rest.length := by simpa using hlen.symm
    obtain hseam | ⟨q, hq, hc⟩ := h
    · exact State.kept_weave hseam hlen hkept
    · have hw : Carries x (weave (first :: rest) us) := hc.mono (infix_weave hq us)
      exact ⟨fun _ => hw, fun b _ _ => hw.mono (List.suffix_cons b _).isInfix⟩

end Guard

/-- White space around each substitution leaves no seams. -/
theorem seamless_of_spaced {p : Text} {rest : List Text} (hp : p.endsBlank = true)
    (h : SpacedBehind rest) : Seamless x p rest := by
  have hfrom {p : Text} (hp : p.endsBlank = true) : NoMarkFrom x p := by
    intro l r hand hs
    obtain ⟨hm, hl, -⟩ := hand
    obtain ⟨u, b, rfl, hb⟩ := (endsBlank_iff p).mp hp
    obtain rfl | ⟨l, rfl, -⟩ := List.suffix_concat_iff.mp hs
    · exact absurd rfl hl
    · cases l with
      | nil => exact ⟨b, rfl, hb⟩
      | cons c l =>
        have hsolid := hm.solid_tail b (by simp)
        exact absurd hb (by simp [hsolid])
  have hstart {q r : Text} (hr : r.Solid) (hne : r ≠ []) (hq : q.startsBlank = true) :
      ¬ r <+: q ∧ ¬ q <+: r := by
    obtain ⟨b, u, rfl, hb⟩ := (startsBlank_iff q).mp hq
    constructor
    · intro hp
      obtain ⟨c, r, rfl⟩ := List.exists_cons_of_ne_nil hne
      obtain ⟨rfl, -⟩ := List.cons_prefix_cons.mp hp
      exact absurd (hr c (by simp)) (by simp [hb])
    · intro hp
      exact absurd (hr b (hp.subset (by simp))) (by simp [hb])
  induction rest generalizing p with
  | nil => trivial
  | cons q rest ih =>
    cases rest with
    | nil =>
      refine ⟨hfrom hp, fun l r hc hr => ?_, fun hne => absurd rfl hne, trivial⟩
      obtain rfl | hq := h
      · exact hc.2.2 (List.prefix_nil.mp hr)
      · exact (hstart hc.solid_right hc.2.2 hq).1 hr
    | cons next rest =>
      obtain ⟨hq, hend, htail⟩ := h
      exact ⟨hfrom hp, fun l r hc => (hstart hc.solid_right hc.2.2 hq).1,
        fun _ l r hc => (hstart hc.solid_right hc.2.2 hq).2, ih hend htail⟩

end State

namespace Expr
open Text State
variable {x : State} {table : Table}

/-- A template with one more quasi than substitutions that loses no mark of the state. -/
def StateGuarded (x : State) (quasis : List Text) (substitutions : List Expr) : Prop :=
  quasis.length = substitutions.length + 1 ∧ Guarded x quasis

/-- A template whose classes stay apart has no seams. -/
theorem stateGuarded_of_classDelimited {quasis : List Text} {substitutions : List Expr}
    (h : ClassDelimited quasis substitutions) : StateGuarded x quasis substitutions := by
  obtain ⟨hlen, hs⟩ := h
  refine ⟨hlen, ?_⟩
  cases quasis with
  | nil => simp at hlen
  | cons first rest =>
    cases rest with
    | nil => exact .inl trivial
    | cons next rest =>
      refine .inl (seamless_of_spaced ?_ hs.2)
      obtain rfl | hend := hs.1
      · decide
      · obtain ⟨r, b, rfl, hb⟩ := (endsBlank_iff first).mp hend
        exact (endsBlank_iff _).mpr ⟨.scalar ' ' :: r, b, rfl, hb⟩

/-- Resolution keeps the states of an outcome, alone and behind a blank. -/
theorem kept_resolve {e : Expr} (h : e.EveryTemplate (StateGuarded x)) {s : Text}
    (ho : Outcome table e s) : Kept x s (e.resolve table).text := by
  induction e generalizing s with
  | string value =>
    obtain rfl := outcome_string_iff.mp ho
    simpa [resolve, Resolution.known] using Kept.refl x s
  | template quasis substitutions ih =>
    obtain ⟨⟨hlen, hg⟩, hsub⟩ := everyTemplate_template.mp h
    obtain ⟨ts, hts, rfl⟩ := outcome_template_iff.mp ho
    rw [text_resolve_template]
    refine hg.kept_weave (hlen.trans (by rw [hts.length_eq])) ?_
    clear hlen hg h ho
    induction hts with
    | nil => exact .nil
    | @cons e t es ts het _ ihts =>
      refine .cons (ih e (by simp) (hsub e (by simp)) het) (ihts ?_ ?_)
      · exact fun e he => ih e (List.mem_cons_of_mem _ he)
      · exact fun e he => hsub e (List.mem_cons_of_mem _ he)
  | name y =>
    rw [outcome_name_iff.mp ho, text_resolve_name]
    exact Kept.refl x _
  | member target property =>
    rw [outcome_member_iff.mp ho, text_resolve_member]
    exact Kept.refl x _
  | index target key =>
    by_cases hobj : ∃ properties, base? table target = some (.object properties)
    · obtain ⟨properties, hb⟩ := hobj
      rw [resolve_index_of_object table hb]
      obtain hl | ⟨rfl, -⟩ := (outcome_index_iff_of_object hb).mp ho
      · by_cases hs : s = []
        · rw [hs]
          exact kept_nil x _
        · exact kept_join (Value.mem_strings_iff.mpr ⟨hl, hs⟩)
      · exact kept_nil x _
    · push Not at hobj
      obtain rfl := (outcome_index_iff_of_not_object hobj).mp ho
      exact kept_nil x _
  | conditional test consequent alternate _ ihc iha =>
    obtain ⟨-, hc, ha⟩ := everyTemplate_conditional.mp h
    rw [text_resolve_conditional]
    obtain ho | ho := outcome_conditional_iff.mp ho
    · exact (ihc hc ho).trans (kept_join_filter (by simp))
    · exact (iha ha ho).trans (kept_join_filter (by simp))
  | call callee arguments _ _ ih =>
    cases hr : callee.receiver? with
    | none =>
      obtain rfl := (outcome_call_iff_of_not_receiver hr).mp ho
      exact kept_nil x _
    | some target =>
      obtain ⟨method, -, rfl⟩ := receiver?_eq_some hr
      rw [resolve_call_of_receiver table hr]
      have htarget := (everyTemplate_member.mp (everyTemplate_call.mp h).1).1
      exact ih target _ rfl htarget ((outcome_call_iff_of_receiver hr).mp ho)
  | object properties =>
    obtain rfl := outcome_object_iff.mp ho
    exact kept_nil x _
  | assertion operand ih =>
    rw [resolve]
    exact ih (everyTemplate_assertion.mp h) (outcome_assertion_iff.mp ho)
  | other kind source =>
    obtain rfl := outcome_other_iff.mp ho
    exact kept_nil x _

section Loss
variable {p q : Text} {rest : List Text}

def fork (a b : Text) : Expr := .conditional (.name (text "test")) (.string a) (.string b)

theorem text_resolve_fork (table : Table) {a b : Text} (ha : a ≠ []) (hb : b ≠ []) :
    ((fork a b).resolve table).text = a ++ .scalar ' ' :: b := by
  rw [fork, text_resolve_conditional]
  simp [resolve, Resolution.known, ha, hb, join, text]

/-- Substitutions without templates, with texts that they can be. -/
def Choices (table : Table) (substitutions : List Expr) (ts : List Text) : Prop :=
  List.Forall₂ (fun e s => Outcome table e s ∧ ∀ P, e.EveryTemplate P) substitutions ts

theorem choices_string (t : Text) {es : List Expr} {ts : List Text} (h : Choices table es ts) :
    Choices table (.string t :: es) (t :: ts) :=
  .cons ⟨.string t, fun _ => everyTemplate_string⟩ h

theorem choices_fork_left (a b : Text) {es : List Expr} {ts : List Text} (h : Choices table es ts) :
    Choices table (fork a b :: es) (a :: ts) :=
  .cons ⟨.consequent (.string a), fun _ => by simp [fork]⟩ h

theorem choices_fork_right (a b : Text) {es : List Expr} {ts : List Text}
    (h : Choices table es ts) : Choices table (fork a b :: es) (b :: ts) :=
  .cons ⟨.alternate (.string b), fun _ => by simp [fork]⟩ h

theorem choices_fences (table : Table) (rest : List Text) :
    Choices table (rest.map fun _ => .string [fence]) (rest.map fun _ => [fence]) := by
  induction rest with
  | nil => exact .nil
  | cons q rest ih => exact choices_string [fence] ih

def resolved (table : Table) (quasis : List Text) (substitutions : List Expr) : Text :=
  weave quasis (substitutions.map fun e => (e.resolve table).text)

theorem resolved_fences (table : Table) (q : Text) (rest : List Text) :
    resolved table (q :: rest) (rest.map fun _ => .string [fence]) = fenced (q :: rest) := by
  simp [resolved, fenced, resolve, Resolution.known]

/-- Substitutions exist with which a template loses its mark of the state. -/
def Loses (x : State) (table : Table) (p : Text) (rest : List Text) : Prop :=
  ∃ es ts, es.length = rest.length ∧ Choices table es ts ∧ Carries x (weave (p :: rest) ts) ∧
    ¬ Carries x (resolved table (p :: rest) es)

theorem Loses.cons (h : Loses x table q rest) (hp : ¬ Carries x p) :
    Loses x table p (q :: rest) := by
  obtain ⟨es, ts, hlen, hch, hs, hr⟩ := h
  refine ⟨.string [fence] :: es, [fence] :: ts, by simp [hlen], choices_string [fence] hch, ?_, ?_⟩
  · exact hs.mono ⟨p ++ [fence], [], by simp [weave]⟩
  · have he : resolved table (p :: q :: rest) (.string [fence] :: es) =
        p ++ fence :: resolved table (q :: rest) es := by
      simp [resolved, weave, resolve, Resolution.known]
    rw [he]
    exact not_carries_append_fence hp hr

/-- A mark that begins in `p`: another branch takes the place of its rest. -/
theorem loses_of_not_noMarkFrom (h : ¬ NoMarkFrom x p) (hp : ¬ Carries x p)
    (hrest : ∀ q' ∈ q :: rest, ¬ Carries x q') : Loses x table p (q :: rest) := by
  unfold NoMarkFrom at h
  push Not at h
  obtain ⟨l, r, hc, ⟨u, rfl⟩, hb⟩ := h
  refine ⟨fork [fence] (r ++ [fence]) :: rest.map fun _ => .string [fence],
    (r ++ [fence]) :: rest.map fun _ => [fence], by simp,
    choices_fork_right _ _ (choices_fences table rest), ?_, ?_⟩
  · refine ⟨l ++ r, hc.1, u, fence :: fenced (q :: rest), ?_⟩
    simp [weave, fenced]
  · have he : resolved table ((u ++ l) :: q :: rest)
        (fork [fence] (r ++ [fence]) :: rest.map fun _ => .string [fence]) =
        (u ++ l) ++ fence :: ((.scalar ' ' :: r) ++ fence :: fenced (q :: rest)) := by
      rw [← resolved_fences table]
      simp [resolved, weave, text_resolve_fork]
    rw [he]
    apply not_carries_append_fence hp
    apply not_carries_append_fence
    · apply hc.not_carries_space_right
      intro hex
      obtain ⟨b, rfl, hblank⟩ := hex
      exact hb b rfl hblank
    · exact not_carries_fenced hrest

/-- A mark that ends in `q`: another branch comes between its start and `q`. -/
theorem loses_of_not_noMarkInto (h : ¬ NoMarkInto x q) (hp : ¬ Carries x p)
    (hrest : ∀ q' ∈ q :: rest, ¬ Carries x q') : Loses x table p (q :: rest) := by
  unfold NoMarkInto at h
  push Not at h
  obtain ⟨l, r, hc, hr⟩ := h
  obtain ⟨v, hv⟩ : r <+: fenced (q :: rest) := by
    cases rest with
    | nil => simpa [fenced, weave] using hr
    | cons next rest =>
      rw [fenced_cons_cons]
      exact hr.trans (List.prefix_append q _)
  refine ⟨fork (fence :: l) [fence] :: rest.map fun _ => .string [fence],
    (fence :: l) :: rest.map fun _ => [fence], by simp,
    choices_fork_left _ _ (choices_fences table rest), ?_, ?_⟩
  · refine ⟨l ++ r, hc.1, p ++ [fence], v, ?_⟩
    have hw : weave (p :: q :: rest) ((fence :: l) :: rest.map fun _ => [fence]) =
        p ++ (fence :: l) ++ fenced (q :: rest) := by
      simp [weave, fenced]
    rw [hw, ← hv]
    simp
  · have he : resolved table (p :: q :: rest)
        (fork (fence :: l) [fence] :: rest.map fun _ => .string [fence]) =
        p ++ fence :: ((l ++ [.scalar ' ']) ++ fence :: fenced (q :: rest)) := by
      rw [← resolved_fences table]
      simp [resolved, weave, text_resolve_fork]
    rw [he]
    apply not_carries_append_fence hp
    apply not_carries_append_fence hc.not_carries_left_space
    exact not_carries_fenced hrest

/-- A mark that `q` is in the middle of. -/
theorem loses_of_not_noMarkAcross {next : Text} (h : ¬ NoMarkAcross x q) (hp : ¬ Carries x p)
    (hrest : ∀ q' ∈ next :: rest, ¬ Carries x q') : Loses x table p (q :: next :: rest) := by
  unfold NoMarkAcross at h
  push Not at h
  obtain ⟨l, _, hc, r, rfl⟩ := h
  refine ⟨fork (fence :: l) [fence] :: .string (r ++ [fence]) :: rest.map fun _ => .string [fence],
    (fence :: l) :: (r ++ [fence]) :: rest.map fun _ => [fence], by simp,
    choices_fork_left _ _ (choices_string _ (choices_fences table rest)), ?_, ?_⟩
  · refine ⟨l ++ (q ++ r), hc.1, p ++ [fence], fence :: fenced (next :: rest), ?_⟩
    simp [weave, fenced]
  · have he : resolved table (p :: q :: next :: rest)
        (fork (fence :: l) [fence] :: .string (r ++ [fence]) :: rest.map fun _ => .string [fence]) =
        p ++ fence :: ((l ++ [.scalar ' ']) ++
          fence :: ((q ++ r) ++ fence :: fenced (next :: rest))) := by
      rw [← resolved_fences table]
      simp [resolved, weave, text_resolve_fork, resolve, Resolution.known]
    rw [he]
    apply not_carries_append_fence hp
    apply not_carries_append_fence hc.not_carries_left_space
    apply not_carries_append_fence hc.not_carries_right
    exact not_carries_fenced hrest

/-- Every seam can lose a mark. -/
theorem loses_of_not_seamless (table : Table) (h : ¬ Seamless x p rest) (hp : ¬ Carries x p)
    (hrest : ∀ q ∈ rest, ¬ Carries x q) : Loses x table p rest := by
  induction rest generalizing p with
  | nil => exact absurd trivial h
  | cons q rest ih =>
    obtain ⟨hq, hnext⟩ := List.forall_mem_cons.mp hrest
    by_cases hfrom : NoMarkFrom x p
    · by_cases hinto : NoMarkInto x q
      · by_cases htail : Seamless x q rest
        · have hacross : rest ≠ [] ∧ ¬ NoMarkAcross x q := by
            by_contra hn
            exact h ⟨hfrom, hinto, fun hne => by_contra fun ha => hn ⟨hne, ha⟩, htail⟩
          obtain ⟨hne, hacross⟩ := hacross
          obtain ⟨next, rest, rfl⟩ := List.exists_cons_of_ne_nil hne
          exact loses_of_not_noMarkAcross hacross hp hnext
        · exact (ih htail hq hnext).cons hp
      · exact loses_of_not_noMarkInto hinto hp hrest
    · exact loses_of_not_noMarkFrom hfrom hp hrest

end Loss

theorem mem_ofText_template_iff {first : Text} {rest : List Text} {substitutions : List Expr} :
    x ∈ State.ofText ((Expr.template (first :: rest) substitutions).resolve table).text ↔
      Carries x (resolved table ((.scalar ' ' :: first) :: rest) substitutions) := by
  rw [mem_ofText_iff, text_resolve_template, cons_weave, resolved]

/-- Where every template is guarded, no state of any text that the expression can be is lost. For
one template this is exact: with other quasis there are substitutions that lose the state, unless
the quasis show it in every text. -/
theorem outcome_states_kept (x : State) :
    (∀ table e s, e.EveryTemplate (StateGuarded x) → Outcome table e s → x ∈ State.ofText s →
      x ∈ State.ofText (e.resolve table).text) ∧
    ∀ first rest,
      (∀ table substitutions s, substitutions.length = rest.length →
        (∀ e ∈ substitutions, e.EveryTemplate (StateGuarded x)) →
        Outcome table (.template (first :: rest) substitutions) s → x ∈ State.ofText s →
        x ∈ State.ofText ((Expr.template (first :: rest) substitutions).resolve table).text) ↔
      Seamless x (.scalar ' ' :: first) rest ∨ x ∈ State.ofText first ∨
        ∃ q ∈ rest, Carries x q := by
  have hspace : (CodePoint.scalar ' ').isBlank = true := by decide
  have hkeep (table : Table) (e : Expr) (s : Text) (h : e.EveryTemplate (StateGuarded x))
      (ho : Outcome table e s) (hx : x ∈ State.ofText s) :
      x ∈ State.ofText (e.resolve table).text := by
    rw [mem_ofText_iff] at hx ⊢
    exact (kept_resolve h ho).2 _ hspace hx
  refine ⟨hkeep, fun first rest => ⟨fun hall => ?_, ?_⟩⟩
  · by_contra hn
    push Not at hn
    obtain ⟨hseam, hfirst, hrest⟩ := hn
    rw [mem_ofText_iff] at hfirst
    obtain ⟨es, ts, hlen, hch, hs, hr⟩ := loses_of_not_seamless [] hseam hfirst hrest
    have hplain : ∀ e ∈ es, e.EveryTemplate (StateGuarded x) := by
      intro e he
      obtain ⟨s, -, h⟩ := mem_of_forall₂ (List.Forall₂.flip hch) he
      exact h.2 _
    have ho : Outcome [] (.template (first :: rest) es) (weave (first :: rest) ts) :=
      .template (hch.imp fun _ _ h => h.1)
    apply hr
    apply mem_ofText_template_iff.mp
    refine hall [] es _ hlen hplain ho ?_
    rwa [mem_ofText_iff, cons_weave]
  · intro hor table es s hlen hes ho hx
    obtain hseam | hfirst | ⟨q, hq, hc⟩ := hor
    · refine hkeep table _ s ?_ ho hx
      exact everyTemplate_template.mpr ⟨⟨by simp [hlen], .inl hseam⟩, hes⟩
    · rw [mem_ofText_iff] at hfirst
      rw [mem_ofText_template_iff]
      exact hfirst.mono (infix_weave (by simp) _)
    · rw [mem_ofText_template_iff]
      exact hc.mono (infix_weave (List.mem_cons_of_mem _ hq) _)

def activeLink : Expr :=
  .conditional (.name (text "active")) (.string (text "hover:underline"))
    (.string (text "underline"))

def denseLink : Expr :=
  .template [[], [], []]
    [.conditional (.name (text "dense")) (.string (text "p-1")) (.string []), activeLink]

/-- The hover class of one branch is lost behind the text of another. -/
theorem denseLink_loses_hover :
    denseLink.EveryTemplate (fun quasis substitutions => quasis.length = substitutions.length + 1) ∧
      Outcome [] denseLink (text "hover:underline") ∧
      .hover ∈ State.ofText (text "hover:underline") ∧
      .hover ∉ State.ofText (denseLink.resolve []).text := by
  refine ⟨by simp [denseLink, activeLink], ?_, by decide, by decide⟩
  exact .template (.cons (.alternate (.string [])) (.cons (.consequent (.string _)) .nil))

def spacedLink : Expr := .template [text "p-1 ", []] [activeLink]

theorem spacedLink_keeps_hover :
    spacedLink.EveryTemplate (StateGuarded .hover) ∧
      Outcome [] spacedLink (text "p-1 hover:underline") ∧
      .hover ∈ State.ofText (text "p-1 hover:underline") ∧
      .hover ∈ State.ofText (spacedLink.resolve []).text ∧
      (∀ table substitutions s, substitutions.length = 1 →
        (∀ e ∈ substitutions, e.EveryTemplate (StateGuarded .hover)) →
        Outcome table (.template [text "p-1 ", []] substitutions) s → .hover ∈ State.ofText s →
        .hover ∈
          State.ofText ((Expr.template [text "p-1 ", []] substitutions).resolve table).text) := by
  have hseam : Seamless .hover (.scalar ' ' :: text "p-1 ") [[]] :=
    seamless_of_spaced (by decide) (.inl rfl)
  have hd : ClassDelimited [text "p-1 ", []] [activeLink] := ⟨rfl, .inr (by decide), .inl rfl⟩
  have hg : spacedLink.EveryTemplate (StateGuarded .hover) := by
    simpa [spacedLink, activeLink] using stateGuarded_of_classDelimited hd
  have ho : Outcome [] spacedLink (text "p-1 hover:underline") :=
    .template (.cons (.consequent (.string _)) .nil)
  have hs : State.hover ∈ State.ofText (text "p-1 hover:underline") := by decide
  exact ⟨hg, ho, hs, (outcome_states_kept .hover).1 _ _ _ hg ho hs,
    ((outcome_states_kept .hover).2 (text "p-1 ") [[]]).mpr (.inl hseam)⟩

end Expr

end StateCoverage
