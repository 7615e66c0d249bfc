import StateCoverage.Grammar.Parse

/-!
What parsers give, wherever they read. Each way of putting parsers together has its rule, so that a
property of what a grammar gives is proved along the grammar.
-/
namespace StateCoverage.Grammar

section Yields
variable {α β : Type} {P : α → Prop} {Q : β → Prop} {p q : Parser α}

def Yields (P : α → Prop) (p : Parser α) : Prop := ∀ c x c', p c = some (x, c') → P x

abbrev YieldsIf (P : α → Prop) (p : Parser (Option α)) : Prop :=
  Yields (fun found => ∀ x ∈ found, P x) p

theorem yields_pure {x : α} (h : P x) : Yields P (pure x) := by
  intro c y c' hy
  cases hy
  exact h

theorem yields_failure : Yields P failure := nofun

theorem bind_eq_some {p : Parser β} {f : β → Parser α} {c c' : Cursor} {x : α} :
    (p >>= f) c = some (x, c') ↔ ∃ y d, p c = some (y, d) ∧ f y d = some (x, c') := by
  change (p c).bind (fun r => f r.1 r.2) = _ ↔ _
  rw [Option.bind_eq_some_iff]
  simp [Prod.exists]

theorem yields_bind {p : Parser β} {f : β → Parser α} (hp : Yields Q p)
    (hf : ∀ y, Q y → Yields P (f y)) :
    Yields P (p >>= f) := by
  intro c x c' h
  obtain ⟨y, d, hy, hx⟩ := bind_eq_some.mp h
  exact hf y (hp c y d hy) d x c' hx

theorem yields_bind' {p : Parser β} {f : β → Parser α} (hf : ∀ y, Yields P (f y)) :
    Yields P (p >>= f) :=
  yields_bind (Q := fun _ => True) (fun _ _ _ _ => trivial) fun y _ => hf y

theorem yields_failure_bind {f : β → Parser α} : Yields P (failure >>= f) :=
  yields_bind (yields_failure (P := fun _ => False)) nofun

theorem yields_and {R : α → Prop} (hP : Yields P p) (hR : Yields R p) :
    Yields (fun x => P x ∧ R x) p :=
  fun c x c' hx => ⟨hP c x c' hx, hR c x c' hx⟩

theorem yields_orElse (hp : Yields P p) (hq : Yields P q) : Yields P (p <|> q) := by
  intro c x c' hx
  change (p c <|> q c) = some (x, c') at hx
  cases h : p c with
  | none =>
    rw [h] at hx
    exact hq c x c' hx
  | some found =>
    rw [h] at hx
    exact hp c x c' (h.trans hx)

theorem yields_ite {b : Prop} [Decidable b] (hp : Yields P p) (hq : Yields P q) :
    Yields P (if b then p else q) := by
  split
  · exact hp
  · exact hq

/-- Something may be passed over before the rest is read. -/
theorem yields_skip {b : Prop} [Decidable b] {p : Parser Unit} {rest : Unit → Parser α}
    (h : ∀ x, Yields P (rest x)) : Yields P (if b then p >>= rest else rest ()) :=
  yields_ite (yields_bind' h) (h ())

theorem yieldsIf_none : YieldsIf P (pure none) := yields_pure nofun

theorem yieldsIf_some (h : Yields P p) : YieldsIf P (p >>= fun x => pure (some x)) :=
  yields_bind h fun _ hx => yields_pure fun _ hy => Option.some.inj hy ▸ hx

theorem yieldsIf_attempt (h : Yields P p) : YieldsIf P (attempt p) := by
  intro c found c' hfound x hx
  unfold attempt at hfound
  split at hfound
  · next y d hy =>
    cases hfound
    cases hx
    exact h c x _ hy
  · cases hfound
    cases hx

theorem yields_many {step : Parser (Option α)} (h : YieldsIf P step) (fuel : Nat) {found : List α}
    (hfound : ∀ x ∈ found, P x) : Yields (fun list => ∀ x ∈ list, P x) (many step fuel found) := by
  have hend {found : List α} (hfound : ∀ x ∈ found, P x) : ∀ x ∈ found.reverse, P x :=
    fun x hx => hfound x (List.mem_reverse.mp hx)
  induction fuel generalizing found with
  | zero => exact yields_pure (hend hfound)
  | succ fuel ih =>
    refine yields_bind h fun next hnext => ?_
    cases next with
    | none => exact yields_pure (hend hfound)
    | some x => exact ih (List.forall_mem_cons.mpr ⟨hnext x rfl, hfound⟩)

theorem yields_extend {step : α → Parser (Option α)} (h : ∀ x, P x → YieldsIf P (step x))
    (fuel : Nat) {x : α} (hx : P x) : Yields P (extend step fuel x) := by
  induction fuel generalizing x with
  | zero => exact yields_pure hx
  | succ fuel ih =>
    refine yields_bind (h x hx) fun found hfound => ?_
    cases found with
    | none => exact yields_pure hx
    | some y => exact ih (hfound y rfl)

theorem yields_foldlM {f : α → β → Parser α} {list : List β} {x : α} (hx : P x)
    (hf : ∀ x, P x → ∀ y ∈ list, Yields P (f x y)) : Yields P (list.foldlM f x) := by
  induction list generalizing x with
  | nil => exact yields_pure hx
  | cons y rest ih =>
    rw [List.foldlM_cons]
    exact yields_bind (hf x hx y List.mem_cons_self) fun z hz =>
      ih hz fun x hx y hy => hf x hx y (List.mem_cons_of_mem _ hy)

end Yields

end StateCoverage.Grammar
