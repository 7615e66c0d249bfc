import StateCoverage.Proofs.Expr.Chain
import StateCoverage.Proofs.Expr.Parts
import Mathlib.Data.List.Forall2

/-!
The texts that an expression can be, one for each way in which its branches and keys are chosen.
Resolution gives one text for all of them; here stand the two side by side.
-/
namespace StateCoverage

/-- The quasis of a template with texts in between; a text counts only behind a quasi. -/
def Text.weave : List Text → List Text → Text
  | [], _ => []
  | quasi :: quasis, [] => quasi ++ weave quasis []
  | quasi :: quasis, t :: ts => quasi ++ t ++ weave quasis ts

def Value.boundText : Option Value → Text
  | some (.string s) => s
  | _ => []

theorem Resolution.text_ofValue (fragment : Text) (v : Option Value) :
    (ofValue fragment v).text = Value.boundText v := by
  obtain _ | ⟨s | properties | _⟩ := v <;> rfl

theorem Resolution.interleave_text (quasis : List Text) (outcomes : List Resolution) :
    (interleave quasis outcomes).text = Text.weave quasis (outcomes.map (·.text)) := by
  induction quasis generalizing outcomes with
  | nil => simp [interleave, Text.weave]
  | cons quasi quasis ih =>
    cases outcomes with
    | nil => simpa [interleave, Text.weave] using ih []
    | cons r rest => simp [interleave, Text.weave, ih rest]

namespace Expr

/-- The target of a method that resolution sees through, if the callee is one. -/
def receiver? : Expr → Option Expr
  | .member target (.name method) => if method ∈ passthroughMethods then some target else none
  | _ => none

theorem receiver?_eq_some {callee target : Expr} (h : callee.receiver? = some target) :
    ∃ method ∈ passthroughMethods, callee = .member target (.name method) := by
  unfold receiver? at h
  split at h
  · rename_i target' method
    by_cases hm : method ∈ passthroughMethods
    · rw [if_pos hm, Option.some.injEq] at h
      exact ⟨method, hm, h ▸ rfl⟩
    · simp [hm] at h
  · cases h

section Resolve
variable (table : Table)

theorem resolveAll_eq_map (list : List Expr) :
    resolveAll table list = list.map (resolve table) := by
  induction list with
  | nil => simp [resolveAll]
  | cons e rest ih => simp [resolveAll, ih]

theorem text_resolve_name (x : Text) :
    (resolve table (.name x)).text = Value.boundText (Bindings.valueOf? x table) := by
  rw [resolve_name, Resolution.text_ofValue]

theorem text_resolve_member (target property : Expr) :
    (resolve table (.member target property)).text =
      Value.boundText (base? table (.member target property)) := by
  cases property with
  | name x => rw [resolve_access, Resolution.text_ofValue]
  | _ =>
    rw [resolve]
    simp only [base?, Value.boundText]
    unfold resolveMember
    split <;> rfl

theorem resolve_index_of_object {target : Expr} {properties : Bindings Value}
    (h : base? table target = some (.object properties)) (key : Expr) :
    resolve table (.index target key) =
      .known (Text.join (text " ") (Value.strings (.object properties))) := by
  rw [resolve, h, resolveIndex]

theorem resolve_index_of_not_object {target : Expr}
    (h : ∀ properties, base? table target ≠ some (.object properties)) (key : Expr) :
    resolve table (.index target key) = .unknown (render (.index target key)) := by
  rw [resolve]
  unfold resolveIndex
  split
  · rename_i properties hb
    exact absurd hb (h properties)
  · rfl

theorem text_resolve_conditional (test consequent alternate : Expr) :
    (resolve table (.conditional test consequent alternate)).text =
      Text.join (text " ")
        ([(resolve table consequent).text, (resolve table alternate).text].filter (· ≠ [])) := by
  rw [resolve, Resolution.joinBranches]

theorem text_resolve_template (quasis : List Text) (substitutions : List Expr) :
    (resolve table (.template quasis substitutions)).text =
      Text.weave quasis (substitutions.map fun e => (resolve table e).text) := by
  rw [resolve, Resolution.interleave_text, resolveAll_eq_map, List.map_map]
  rfl

theorem resolve_call_of_receiver {callee target : Expr} (h : callee.receiver? = some target)
    (arguments : List Expr) : resolve table (.call callee arguments) = resolve table target := by
  obtain ⟨method, hm, rfl⟩ := receiver?_eq_some h
  rw [resolve, if_pos hm]

theorem resolve_call_of_not_receiver {callee : Expr} (h : callee.receiver? = none)
    (arguments : List Expr) :
    resolve table (.call callee arguments) = .unknown (render (.call callee arguments)) := by
  unfold resolve
  split <;> simp_all [receiver?]

end Resolve

/-- `s` is a text that `e` can be when each conditional takes one of its branches and each computed
access one of the strings below its target. What cannot be resolved is the empty text. -/
inductive Outcome (table : Table) : Expr → Text → Prop
  | string (value : Text) : Outcome table (.string value) value
  | name (x : Text) : Outcome table (.name x) (Value.boundText (Bindings.valueOf? x table))
  | member (target property : Expr) :
      Outcome table (.member target property)
        (Value.boundText (base? table (.member target property)))
  | leaf {target key : Expr} {properties : Bindings Value} {s : Text} :
      base? table target = some (.object properties) → Value.Leaf (.object properties) s →
      Outcome table (.index target key) s
  | noLeaf {target key : Expr} :
      (∀ properties s, base? table target = some (.object properties) →
        ¬ Value.Leaf (.object properties) s) →
      Outcome table (.index target key) []
  | consequent {test consequent alternate : Expr} {s : Text} :
      Outcome table consequent s → Outcome table (.conditional test consequent alternate) s
  | alternate {test consequent alternate : Expr} {s : Text} :
      Outcome table alternate s → Outcome table (.conditional test consequent alternate) s
  | template {quasis : List Text} {substitutions : List Expr} {texts : List Text} :
      List.Forall₂ (Outcome table) substitutions texts →
      Outcome table (.template quasis substitutions) (Text.weave quasis texts)
  | call {callee target : Expr} {arguments : List Expr} {s : Text} :
      callee.receiver? = some target → Outcome table target s →
      Outcome table (.call callee arguments) s
  | otherCall {callee : Expr} {arguments : List Expr} :
      callee.receiver? = none → Outcome table (.call callee arguments) []
  | assertion {operand : Expr} {s : Text} :
      Outcome table operand s → Outcome table (.assertion operand) s
  | object (properties : List (Expr × Expr)) : Outcome table (.object properties) []
  | other (kind : String) (source : Text) : Outcome table (.other kind source) []

section Inversion
variable {table : Table} {s : Text}

theorem outcome_string_iff {value : Text} : Outcome table (.string value) s ↔ s = value := by
  constructor
  · intro ho
    cases ho
    rfl
  · intro hs
    rw [hs]
    exact .string value

theorem outcome_name_iff {x : Text} :
    Outcome table (.name x) s ↔ s = Value.boundText (Bindings.valueOf? x table) := by
  constructor
  · intro ho
    cases ho
    rfl
  · intro hs
    rw [hs]
    exact .name x

theorem outcome_member_iff {target property : Expr} :
    Outcome table (.member target property) s ↔
      s = Value.boundText (base? table (.member target property)) := by
  constructor
  · intro ho
    cases ho
    rfl
  · intro hs
    rw [hs]
    exact .member target property

theorem outcome_index_iff_of_object {target key : Expr} {properties : Bindings Value}
    (h : base? table target = some (.object properties)) :
    Outcome table (.index target key) s ↔ Value.Leaf (.object properties) s ∨
      (s = [] ∧ ∀ t, ¬ Value.Leaf (.object properties) t) := by
  constructor
  · intro ho
    cases ho with
    | leaf hb hl =>
      obtain rfl : properties = _ := by simpa using h.symm.trans hb
      exact .inl hl
    | noLeaf hn => exact .inr ⟨rfl, fun t => hn properties t h⟩
  · intro hor
    obtain hl | ⟨rfl, hn⟩ := hor
    · exact .leaf h hl
    · refine .noLeaf fun properties' t hb => ?_
      obtain rfl : properties = properties' := by simpa using h.symm.trans hb
      exact hn t

theorem outcome_index_iff_of_not_object {target key : Expr}
    (h : ∀ properties, base? table target ≠ some (.object properties)) :
    Outcome table (.index target key) s ↔ s = [] := by
  constructor
  · intro ho
    cases ho with
    | leaf hb => exact absurd hb (h _)
    | noLeaf => rfl
  · intro heq
    obtain rfl := heq
    exact .noLeaf fun properties _ hb => absurd hb (h properties)

theorem outcome_conditional_iff {test consequent alternate : Expr} :
    Outcome table (.conditional test consequent alternate) s ↔
      Outcome table consequent s ∨ Outcome table alternate s := by
  constructor
  · intro ho
    cases ho with
    | consequent ho => exact .inl ho
    | alternate ho => exact .inr ho
  · intro hor
    obtain ho | ho := hor
    · exact .consequent ho
    · exact .alternate ho

theorem outcome_template_iff {quasis : List Text} {substitutions : List Expr} :
    Outcome table (.template quasis substitutions) s ↔
      ∃ texts, List.Forall₂ (Outcome table) substitutions texts ∧ s = Text.weave quasis texts := by
  constructor
  · intro ho
    cases ho with
    | template h => exact ⟨_, h, rfl⟩
  · intro hex
    obtain ⟨texts, h, rfl⟩ := hex
    exact .template h

theorem outcome_call_iff_of_receiver {callee target : Expr} {arguments : List Expr}
    (h : callee.receiver? = some target) :
    Outcome table (.call callee arguments) s ↔ Outcome table target s := by
  constructor
  · intro ho
    cases ho with
    | call h' ho =>
      obtain rfl : target = _ := by simpa using h.symm.trans h'
      exact ho
    | otherCall h' => simp [h] at h'
  · exact .call h

theorem outcome_call_iff_of_not_receiver {callee : Expr} {arguments : List Expr}
    (h : callee.receiver? = none) : Outcome table (.call callee arguments) s ↔ s = [] := by
  constructor
  · intro ho
    cases ho with
    | call h' => simp [h] at h'
    | otherCall => rfl
  · intro heq
    obtain rfl := heq
    exact .otherCall h

theorem outcome_assertion_iff {operand : Expr} :
    Outcome table (.assertion operand) s ↔ Outcome table operand s :=
  ⟨fun ho => by cases ho with | assertion ho => exact ho, .assertion⟩

theorem outcome_object_iff {properties : List (Expr × Expr)} :
    Outcome table (.object properties) s ↔ s = [] := by
  constructor
  · intro ho
    cases ho
    rfl
  · intro hs
    rw [hs]
    exact .object properties

theorem outcome_other_iff {kind : String} {source : Text} :
    Outcome table (.other kind source) s ↔ s = [] := by
  constructor
  · intro ho
    cases ho
    rfl
  · intro hs
    rw [hs]
    exact .other kind source

end Inversion

theorem mem_of_forall₂ {α β : Type} {R : α → β → Prop} {as : List α} {bs : List β} {b : β}
    (h : List.Forall₂ R as bs) (hb : b ∈ bs) : ∃ a ∈ as, R a b := by
  induction h with
  | nil => simp at hb
  | cons hr _ ih =>
    obtain rfl | hb := List.mem_cons.mp hb
    · exact ⟨_, List.mem_cons_self, hr⟩
    · obtain ⟨a, ha, hr⟩ := ih hb
      exact ⟨a, List.mem_cons_of_mem _ ha, hr⟩

theorem exists_forall₂ {α β : Type} {R : α → β → Prop} {as : List α} (h : ∀ a ∈ as, ∃ b, R a b) :
    ∃ bs, List.Forall₂ R as bs := by
  induction as with
  | nil => exact ⟨[], .nil⟩
  | cons a as ih =>
    obtain ⟨b, hb⟩ := h a List.mem_cons_self
    obtain ⟨bs, hbs⟩ := ih fun a ha => h a (List.mem_cons_of_mem _ ha)
    exact ⟨b :: bs, .cons hb hbs⟩

/-- One place of the second list can be chosen freely. -/
theorem exists_forall₂_mem {α β : Type} {R : α → β → Prop} {as : List α} {a : α} {b : β}
    (h : ∀ a ∈ as, ∃ b, R a b) (ha : a ∈ as) (hr : R a b) :
    ∃ bs, List.Forall₂ R as bs ∧ b ∈ bs := by
  induction as with
  | nil => simp at ha
  | cons a' as ih =>
    have htail : ∀ a ∈ as, ∃ b, R a b := fun a ha => h a (List.mem_cons_of_mem _ ha)
    obtain rfl | ha := List.mem_cons.mp ha
    · obtain ⟨bs, hbs⟩ := exists_forall₂ htail
      exact ⟨b :: bs, .cons hr hbs, List.mem_cons_self⟩
    · obtain ⟨b', hb'⟩ := h a' List.mem_cons_self
      obtain ⟨bs, hbs, hmem⟩ := ih htail ha
      exact ⟨b' :: bs, .cons hb' hbs, List.mem_cons_of_mem _ hmem⟩

/-- Every expression can be some text. -/
theorem exists_outcome (table : Table) (e : Expr) : ∃ s, Outcome table e s := by
  induction e with
  | string value => exact ⟨value, .string value⟩
  | template quasis substitutions ih =>
    obtain ⟨texts, h⟩ := exists_forall₂ ih
    exact ⟨_, .template h⟩
  | name x => exact ⟨_, .name x⟩
  | member target property => exact ⟨_, .member target property⟩
  | index target key =>
    by_cases h : ∃ properties s, base? table target = some (.object properties) ∧
        Value.Leaf (.object properties) s
    · obtain ⟨properties, s, hb, hl⟩ := h
      exact ⟨s, .leaf hb hl⟩
    · push Not at h
      exact ⟨[], .noLeaf h⟩
  | conditional test consequent alternate _ ih =>
    obtain ⟨s, h⟩ := ih
    exact ⟨s, .consequent h⟩
  | call callee arguments _ _ ih =>
    cases h : callee.receiver? with
    | none => exact ⟨[], .otherCall h⟩
    | some target =>
      obtain ⟨method, -, rfl⟩ := receiver?_eq_some h
      obtain ⟨s, hs⟩ := ih target (.name method) rfl
      exact ⟨s, .call h hs⟩
  | object properties => exact ⟨[], .object properties⟩
  | assertion operand ih =>
    obtain ⟨s, h⟩ := ih
    exact ⟨s, .assertion h⟩
  | other kind source => exact ⟨[], .other kind source⟩

end Expr

end StateCoverage
