import StateCoverage.Proofs.Expr.Outcome
import StateCoverage.Proofs.State.Mark

/-!
Marks of a state where texts meet. A mark that a substitution and the quasis around it make
together may fall apart when another text is substituted. A template without seams for a state
leaves no room for such a mark, but for a head that the substitution starts with and that has its
blank in the quasi before.
-/
namespace StateCoverage.State

variable {x : State}

section Marks

theorem headMark_not_infix_variantMark (x : State) : ¬ x.headMark <:+: x.variantMark := by
  cases x <;> decide

theorem length_headMark_lt (x : State) : x.headMark.length + 1 < x.variantMark.length := by
  simp [headMark, variantMark, text]

/-- Only the first character of a mark can be blank. -/
theorem Mark.solid_tail {c : CodePoint} {r : Text} (h : Mark x (c :: r)) : r.Solid := by
  intro d hd
  generalize hm : c :: r = m at h
  cases h with
  | head =>
    obtain ⟨-, rfl⟩ := List.cons.inj hm
    exact headMark_solid x d hd
  | variant => exact variantMark_solid x d (hm ▸ List.mem_cons_of_mem c hd)

theorem Mark.two_le_length {m : Text} (h : Mark x m) : 2 ≤ m.length := by
  have hne : 0 < x.headMark.length := List.length_pos_iff.mpr (headMark_ne_nil x)
  have hlt := length_headMark_lt x
  cases h with
  | head => simp only [List.length_cons]; omega
  | variant => omega

/-- No mark of a state stands inside a longer one. -/
theorem Mark.not_infix {m n : Text} (hm : Mark x m) (hn : Mark x n) (hlt : n.length < m.length) :
    ¬ n <:+: m := by
  have hlen := length_headMark_lt x
  intro h
  cases hm with
  | head =>
    cases hn with
    | head => simp at hlt
    | variant => simp only [List.length_cons] at hlt; omega
  | variant =>
    cases hn with
    | head => exact headMark_not_infix_variantMark x ((List.suffix_cons _ _).isInfix.trans h)
    | variant => omega

end Marks

/-- A mark of the state in two pieces. -/
def Cut (x : State) (l r : Text) : Prop := Mark x (l ++ r) ∧ l ≠ [] ∧ r ≠ []

section Pieces
variable {l r : Text}

theorem Cut.solid_right (h : Cut x l r) : r.Solid := by
  obtain ⟨hm, hl, -⟩ := h
  obtain ⟨c, l, rfl⟩ := List.exists_cons_of_ne_nil hl
  intro d hd
  exact hm.solid_tail d (List.mem_append_right l hd)

/-- The rest of a mark carries none. -/
theorem Cut.not_carries_right (h : Cut x l r) : ¬ Carries x r := by
  obtain ⟨hm, hl, -⟩ := h
  intro hcarries
  obtain ⟨n, hn, hi⟩ := hcarries
  have hlen : 0 < l.length := List.length_pos_iff.mpr hl
  have hle := hi.length_le
  refine hm.not_infix hn ?_ (hi.trans (List.suffix_append l r).isInfix)
  rw [List.length_append]
  omega

/-- Nor does it behind a space, unless all that is missing is a blank. -/
theorem Cut.not_carries_space_right (h : Cut x l r) (hb : ¬ ∃ b, l = [b] ∧ b.isBlank = true) :
    ¬ Carries x (.scalar ' ' :: r) := by
  intro hcarries
  obtain ⟨n, hn, hi⟩ := hcarries
  obtain hp | hi := List.infix_cons_iff.mp hi
  · cases hn with
    | variant =>
      have hhead := (List.cons_prefix_cons.mp hp).1
      exact absurd hhead (by decide)
    | head =>
      have hr : x.headMark <+: r := (List.cons_prefix_cons.mp hp).2
      obtain ⟨hm, hl, -⟩ := h
      generalize he : l ++ r = m at hm
      cases hm with
      | variant =>
        apply headMark_not_infix_variantMark x
        rw [← he]
        exact hr.isInfix.trans (List.suffix_append l r).isInfix
      | head hblank =>
        obtain ⟨c, l, rfl⟩ := List.exists_cons_of_ne_nil hl
        rw [List.cons_append] at he
        obtain ⟨rfl, htail⟩ := List.cons.inj he
        have hne : l ≠ [] := by
          intro heq
          obtain rfl := heq
          exact hb ⟨_, rfl, hblank⟩
        have hpos : 0 < l.length := List.length_pos_iff.mpr hne
        have hle := hr.length_le
        have hlen := congrArg List.length htail
        rw [List.length_append] at hlen
        omega
  · exact h.not_carries_right ⟨n, hn, hi⟩

/-- The start of a mark carries none, with a space behind it or not. -/
theorem Cut.not_carries_left_space (h : Cut x l r) : ¬ Carries x (l ++ [.scalar ' ']) := by
  obtain ⟨hm, -, hr⟩ := h
  intro hcarries
  obtain ⟨n, hn, hi⟩ := hcarries
  have hpos : 0 < r.length := List.length_pos_iff.mpr hr
  obtain hs | hi := List.infix_concat_iff.mp hi
  · obtain rfl | ⟨t, rfl, -⟩ := List.suffix_concat_iff.mp hs
    · exact absurd hn.two_le_length (by simp)
    · have htwo := hn.two_le_length
      cases t with
      | nil => simp at htwo
      | cons c t =>
        have hspace := hn.solid_tail (.scalar ' ') (by simp)
        exact absurd hspace (by decide)
  · have hle := hi.length_le
    refine hm.not_infix hn ?_ (hi.trans (List.prefix_append l r).isInfix)
    rw [List.length_append]
    omega

end Pieces

section Blanks
variable {b b' : CodePoint} {t : Text}

/-- One blank is as good as another. -/
theorem Mark.with_blank (h : Mark x (b :: t)) (hb : b.isBlank = true) (hb' : b'.isBlank = true) :
    Mark x (b' :: t) := by
  generalize hm : b :: t = m at h
  cases h with
  | head =>
    obtain ⟨-, rfl⟩ := List.cons.inj hm
    exact .head hb'
  | variant =>
    obtain ⟨rfl, -⟩ := List.cons.inj hm
    exact absurd hb (by decide)

theorem Carries.with_blank (h : Carries x (b :: t)) (hb : b.isBlank = true)
    (hb' : b'.isBlank = true) : Carries x (b' :: t) := by
  obtain ⟨m, hm, hi⟩ := h
  obtain hp | hi := List.infix_cons_iff.mp hi
  · cases m with
    | nil => exact absurd hm.two_le_length (by simp)
    | cons c m =>
      obtain ⟨rfl, htail⟩ := List.cons_prefix_cons.mp hp
      exact ⟨b' :: m, hm.with_blank hb hb', (List.cons_prefix_cons.mpr ⟨rfl, htail⟩).isInfix⟩
  · exact ⟨m, hm, hi.trans (List.suffix_cons b' t).isInfix⟩

end Blanks

/-- The state of `s` is not lost in `t`, neither by itself nor behind a blank. -/
def Kept (x : State) (s t : Text) : Prop :=
  (Carries x s → Carries x t) ∧
    ∀ b : CodePoint, b.isBlank = true → Carries x (b :: s) → Carries x (b :: t)

section Kept
variable {s t u : Text}

theorem Kept.refl (x : State) (t : Text) : Kept x t t := ⟨id, fun _ _ => id⟩

theorem Kept.trans (h : Kept x s t) (h' : Kept x t u) : Kept x s u :=
  ⟨fun hs => h'.1 (h.1 hs), fun b hb hs => h'.2 b hb (h.2 b hb hs)⟩

/-- The empty text has nothing to lose. -/
theorem kept_nil (x : State) (t : Text) : Kept x [] t := by
  have hshort : ∀ s : Text, s.length < 2 → ¬ Carries x s := by
    intro s hs hcarries
    obtain ⟨m, hm, hi⟩ := hcarries
    have htwo := hm.two_le_length
    have hle := hi.length_le
    omega
  exact ⟨fun h => absurd h (hshort _ (by simp)), fun b _ h => absurd h (hshort _ (by simp))⟩

/-- Each part of a join stands at its start or behind a space. -/
theorem exists_of_mem_join {parts : List Text} (h : t ∈ parts) :
    ∃ u v, Text.join (text " ") parts = u ++ t ++ v ∧ (u = [] ∨ ∃ w, u = w ++ [.scalar ' ']) := by
  induction parts with
  | nil => simp at h
  | cons part rest ih =>
    cases rest with
    | nil =>
      obtain rfl := List.mem_singleton.mp h
      exact ⟨[], [], by simp [Text.join], .inl rfl⟩
    | cons next rest =>
      have hj : Text.join (text " ") (part :: next :: rest) =
          part ++ [.scalar ' '] ++ Text.join (text " ") (next :: rest) := by
        simp [Text.join, text]
      obtain rfl | h := List.mem_cons.mp h
      · exact ⟨[], [.scalar ' '] ++ Text.join (text " ") (next :: rest), by simp [hj], .inl rfl⟩
      · obtain ⟨u, v, he, hu⟩ := ih h
        refine ⟨part ++ [.scalar ' '] ++ u, v, by rw [hj, he]; simp, .inr ?_⟩
        obtain rfl | ⟨w, rfl⟩ := hu
        · exact ⟨part, by simp⟩
        · exact ⟨part ++ [.scalar ' '] ++ w, by simp⟩

/-- A join keeps the states of its parts. -/
theorem kept_join {parts : List Text} (h : t ∈ parts) : Kept x t (Text.join (text " ") parts) := by
  obtain ⟨u, v, he, hu⟩ := exists_of_mem_join h
  rw [he]
  refine ⟨fun ht => ht.mono (List.infix_append u t v), fun b hb ht => ?_⟩
  obtain rfl | ⟨w, rfl⟩ := hu
  · exact ht.mono ⟨[], v, by simp⟩
  · have hspace : Carries x (.scalar ' ' :: t) := ht.with_blank hb (by decide)
    exact hspace.mono ⟨b :: w, v, by simp⟩

theorem kept_join_filter {parts : List Text} (h : t ∈ parts) :
    Kept x t (Text.join (text " ") (parts.filter (· ≠ []))) := by
  by_cases hne : t = []
  · rw [hne]
    exact kept_nil x _
  · exact kept_join (List.mem_filter.mpr ⟨h, by simpa using hne⟩)

end Kept

/-- No mark begins in `p` and ends behind it, unless all that `p` has of it is a blank. -/
def NoMarkFrom (x : State) (p : Text) : Prop :=
  ∀ l r, Cut x l r → l <:+ p → ∃ b, l = [b] ∧ b.isBlank = true

/-- No mark begins before `q` and ends in it. -/
def NoMarkInto (x : State) (q : Text) : Prop := ∀ l r, Cut x l r → ¬ r <+: q

/-- No mark begins before `q` and ends behind it. -/
def NoMarkAcross (x : State) (q : Text) : Prop := ∀ l r, Cut x l r → ¬ q <+: r

/-- No mark can lie across the border of a substitution, where `p` stands before the first one and
the quasis behind one each. -/
def Seamless (x : State) (p : Text) : List Text → Prop
  | [] => True
  | q :: rest =>
    NoMarkFrom x p ∧ NoMarkInto x q ∧ (rest ≠ [] → NoMarkAcross x q) ∧ Seamless x q rest

section Seamless
variable {p q first : Text} {rest ts us : List Text}

theorem Seamless.of_suffix (h : Seamless x p rest) (hq : q <:+ p) : Seamless x q rest := by
  cases rest with
  | nil => trivial
  | cons next rest =>
    obtain ⟨hfrom, htail⟩ := h
    exact ⟨fun l r hc hl => hfrom l r hc (hl.trans hq), htail⟩

theorem Seamless.with_blank (h : Seamless x (.scalar ' ' :: p) rest) {b : CodePoint}
    (hb : b.isBlank = true) : Seamless x (b :: p) rest := by
  cases rest with
  | nil => trivial
  | cons next rest =>
    obtain ⟨hfrom, htail⟩ := h
    refine ⟨fun l r hc hl => ?_, htail⟩
    obtain rfl | hl := List.suffix_cons_iff.mp hl
    · have hc' : Cut x (.scalar ' ' :: p) r :=
        ⟨hc.1.with_blank hb (by decide), List.cons_ne_nil _ _, hc.2.2⟩
      obtain ⟨b', he, -⟩ := hfrom _ r hc' List.suffix_rfl
      obtain ⟨-, rfl⟩ := List.cons.inj he
      exact ⟨b, rfl, hb⟩
    · exact hfrom l r hc (hl.trans (List.suffix_cons _ p))

/-- No mark that begins before a quasi ends in it or behind it. -/
theorem not_prefix_weave (hinto : NoMarkInto x q) (hacross : rest ≠ [] → NoMarkAcross x q)
    (hlen : ts.length = rest.length) {l r : Text} (hc : Cut x l r) :
    ¬ r <+: Text.weave (q :: rest) ts := by
  intro hr
  cases ts with
  | nil =>
    obtain rfl : rest = [] := List.length_eq_zero_iff.mp hlen.symm
    rw [Text.weave, Text.weave, List.append_nil] at hr
    exact hinto l r hc hr
  | cons t ts =>
    have hne : rest ≠ [] := by
      intro heq
      obtain rfl := heq
      simp at hlen
    rw [Text.weave, List.append_assoc] at hr
    obtain hr | hq := List.prefix_or_prefix_of_prefix hr (List.prefix_append q _)
    · exact hinto l r hc hr
    · exact hacross hne l r hc hq

/-- Without seams a template keeps the state when each substitution does. -/
theorem Carries.weave (hseam : Seamless x p rest) (hlen : ts.length = rest.length)
    (hkept : List.Forall₂ (Kept x) ts us) (h : Carries x (Text.weave (p :: rest) ts)) :
    Carries x (Text.weave (p :: rest) us) := by
  induction hkept generalizing p rest with
  | nil => exact h
  | @cons t u ts us htu _ ih =>
    cases rest with
    | nil => simp at hlen
    | cons q rest =>
      have hlen : ts.length = rest.length := by simpa using hlen
      obtain ⟨hfrom, hinto, hacross, htail⟩ := hseam
      rw [Text.weave, List.append_assoc] at h ⊢
      obtain ⟨m, hm, hi⟩ := h
      -- The mark stands in `p`, behind `p`, or across the border of `p`.
      obtain hi | hi | ⟨l, r, hl, hr, rfl, hlp, hrt⟩ := List.infix_append_iff_ne_nil.mp hi
      · exact ⟨m, hm, hi.trans (List.prefix_append p _).isInfix⟩
      · obtain hi | hi | ⟨l, r, hl, hr, rfl, -, hrw⟩ := List.infix_append_iff_ne_nil.mp hi
        · have hu : Carries x u := htu.1 ⟨m, hm, hi⟩
          exact hu.mono (List.infix_append' p u _)
        · have hw : Carries x (Text.weave (q :: rest) us) := ih htail hlen ⟨m, hm, hi⟩
          exact hw.mono ⟨p ++ u, [], by simp⟩
        · exact absurd hrw (not_prefix_weave hinto hacross hlen ⟨hm, hl, hr⟩)
      -- Only its blank is in `p`, and the substitution holds the rest: it cannot reach the next
      -- quasi.
      · obtain ⟨b, rfl, hb⟩ := hfrom l r ⟨hm, hl, hr⟩ hlp
        have hrt : r <+: t := by
          obtain h | ⟨r', rfl⟩ := List.prefix_or_prefix_of_prefix hrt (List.prefix_append t _)
          · exact h
          · by_cases hr' : r' = []
            · simp [hr']
            · have hc : Cut x ([b] ++ t) r' := ⟨by rwa [List.append_assoc], by simp, hr'⟩
              have hw := (List.prefix_append_right_inj t).mp hrt
              exact absurd hw (not_prefix_weave hinto hacross hlen hc)
        have hbt : Carries x (b :: t) :=
          ⟨b :: r, hm, (List.cons_prefix_cons.mpr ⟨rfl, hrt⟩).isInfix⟩
        obtain ⟨p, rfl⟩ := hlp
        exact (htu.2 b hb hbt).mono ⟨p, Text.weave (q :: rest) us, by simp⟩

theorem cons_weave (c : CodePoint) (p : Text) (rest ts : List Text) :
    c :: Text.weave (p :: rest) ts = Text.weave ((c :: p) :: rest) ts := by
  cases ts <;> simp [Text.weave]

theorem kept_weave (hseam : Seamless x (.scalar ' ' :: first) rest)
    (hlen : ts.length = rest.length) (hkept : List.Forall₂ (Kept x) ts us) :
    Kept x (Text.weave (first :: rest) ts) (Text.weave (first :: rest) us) := by
  constructor
  · exact Carries.weave (hseam.of_suffix (List.suffix_cons _ first)) hlen hkept
  · intro b hb h
    rw [cons_weave] at h ⊢
    exact Carries.weave (hseam.with_blank hb) hlen hkept h

end Seamless

section Fence
variable {a d m : Text} {c : CodePoint}

theorem infix_append_cons_of_not_mem (hc : c ∉ m) (h : m <:+: a ++ c :: d) :
    m <:+: a ∨ m <:+: d := by
  have hstart {r : Text} (hr : r ≠ []) (hsub : r ⊆ m) : ¬ r <+: c :: d := by
    intro hp
    obtain ⟨e, r, rfl⟩ := List.exists_cons_of_ne_nil hr
    obtain ⟨rfl, -⟩ := List.cons_prefix_cons.mp hp
    exact hc (hsub (by simp))
  obtain h | h | ⟨l, r, -, hr, rfl, -, hp⟩ := List.infix_append_iff_ne_nil.mp h
  · exact .inl h
  · obtain hp | hi := List.infix_cons_iff.mp h
    · by_cases hm : m = []
      · exact .inl (hm ▸ List.nil_infix)
      · exact absurd hp (hstart hm (List.Subset.refl m))
    · exact .inr hi
  · exact absurd hp (hstart hr (List.subset_append_right l r))

/-- A character of no mark. -/
def fence : CodePoint := .scalar '#'

theorem Mark.fence_not_mem (h : Mark x m) : fence ∉ m := by
  cases h with
  | head hb =>
    rw [List.mem_cons, not_or]
    constructor
    · intro heq
      obtain rfl := heq
      exact absurd hb (by decide)
    · cases x <;> decide
  | variant => cases x <;> decide

/-- A fence keeps the marks on its two sides apart. -/
theorem not_carries_append_fence (ha : ¬ Carries x a) (hd : ¬ Carries x d) :
    ¬ Carries x (a ++ fence :: d) := by
  intro hcarries
  obtain ⟨m, hm, hi⟩ := hcarries
  obtain h | h := infix_append_cons_of_not_mem hm.fence_not_mem hi
  · exact ha ⟨m, hm, h⟩
  · exact hd ⟨m, hm, h⟩

def fenced (quasis : List Text) : Text := Text.weave quasis (quasis.tail.map fun _ => [fence])

theorem fenced_cons_cons (p q : Text) (rest : List Text) :
    fenced (p :: q :: rest) = p ++ fence :: fenced (q :: rest) := by
  simp [fenced, Text.weave]

theorem not_carries_fenced {p : Text} {rest : List Text}
    (h : ∀ q ∈ p :: rest, ¬ Carries x q) : ¬ Carries x (fenced (p :: rest)) := by
  induction rest generalizing p with
  | nil => simpa [fenced, Text.weave] using h
  | cons q rest ih =>
    obtain ⟨hp, hrest⟩ := List.forall_mem_cons.mp h
    rw [fenced_cons_cons]
    exact not_carries_append_fence hp (ih hrest)

end Fence

end StateCoverage.State
