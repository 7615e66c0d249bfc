import StateCoverage.Expr.Basic
import Mathlib.Data.List.Basic

/-!
The expressions inside an expression, at any depth, with induction over them.
-/
namespace StateCoverage.Expr

def children : Expr → List Expr
  | string _ | name _ | other _ _ => []
  | template _ substitutions => substitutions
  | member target property => [target, property]
  | index target key => [target, key]
  | conditional test consequent alternate => [test, consequent, alternate]
  | call callee arguments => callee :: arguments
  | object properties => properties.flatMap fun p => [p.1, p.2]
  | assertion operand => [operand]

theorem sizeOf_lt_of_mem_children {c e : Expr} (h : c ∈ e.children) : sizeOf c < sizeOf e := by
  cases e with
  | string | name | other => simp [children] at h
  | template quasis substitutions =>
    have hs := List.sizeOf_lt_of_mem h
    simp only [template.sizeOf_spec]
    simp only [children] at hs
    omega
  | member target property =>
    simp only [children, List.mem_cons, List.not_mem_nil, or_false] at h
    obtain rfl | rfl := h <;> simp only [member.sizeOf_spec] <;> omega
  | index target key =>
    simp only [children, List.mem_cons, List.not_mem_nil, or_false] at h
    obtain rfl | rfl := h <;> simp only [index.sizeOf_spec] <;> omega
  | conditional test consequent alternate =>
    simp only [children, List.mem_cons, List.not_mem_nil, or_false] at h
    obtain rfl | rfl | rfl := h <;> simp only [conditional.sizeOf_spec] <;> omega
  | call callee arguments =>
    obtain rfl | h := List.mem_cons.mp h
    · simp only [call.sizeOf_spec]
      omega
    · have hs := List.sizeOf_lt_of_mem h
      simp only [call.sizeOf_spec]
      omega
  | object properties =>
    obtain ⟨⟨k, v⟩, hp, hc⟩ := List.mem_flatMap.mp h
    have hs := List.sizeOf_lt_of_mem hp
    simp only [List.mem_cons, List.not_mem_nil, or_false] at hc
    simp only [Prod.mk.sizeOf_spec] at hs
    simp only [object.sizeOf_spec]
    obtain rfl | rfl := hc <;> omega
  | assertion operand =>
    simp only [children, List.mem_singleton] at h
    simp only [h, assertion.sizeOf_spec]
    omega

/-- A fact about every expression that follows from the same fact about its children. -/
theorem induct_children {P : Expr → Prop} (step : ∀ e, (∀ c ∈ e.children, P c) → P e) (e : Expr) :
    P e :=
  step e fun c _ => induct_children step c
termination_by sizeOf e
decreasing_by exact sizeOf_lt_of_mem_children ‹_›

/-- The same, shape by shape. A method call also has the fact for what the method is called on. -/
@[elab_as_elim, induction_eliminator]
theorem induct {P : Expr → Prop} (string : ∀ value, P (.string value))
    (template : ∀ quasis substitutions, (∀ e ∈ substitutions, P e) →
      P (.template quasis substitutions))
    (name : ∀ x, P (.name x))
    (member : ∀ target property, P target → P property → P (.member target property))
    (index : ∀ target key, P target → P key → P (.index target key))
    (conditional : ∀ test consequent alternate, P test → P consequent → P alternate →
      P (.conditional test consequent alternate))
    (call : ∀ callee arguments, P callee → (∀ e ∈ arguments, P e) →
      (∀ target property, callee = .member target property → P target) → P (.call callee arguments))
    (object : ∀ properties, (∀ k v, (k, v) ∈ properties → P k ∧ P v) → P (.object properties))
    (assertion : ∀ operand, P operand → P (.assertion operand))
    (other : ∀ kind source, P (.other kind source)) (e : Expr) : P e := by
  suffices h : P e ∧ ∀ c ∈ e.children, P c from h.1
  refine induct_children (P := fun e => P e ∧ ∀ c ∈ e.children, P c) (fun e ih => ?_) e
  have hc : ∀ c ∈ e.children, P c := fun c hc => (ih c hc).1
  refine ⟨?_, hc⟩
  cases e with
  | string value => exact string value
  | template quasis substitutions => exact template quasis substitutions hc
  | name x => exact name x
  | member target property =>
    exact member target property (hc target (by simp [children])) (hc property (by simp [children]))
  | index target key =>
    exact index target key (hc target (by simp [children])) (hc key (by simp [children]))
  | conditional test consequent alternate =>
    exact conditional test consequent alternate (hc test (by simp [children]))
      (hc consequent (by simp [children])) (hc alternate (by simp [children]))
  | call callee arguments =>
    have hcallee := ih callee (by simp [children])
    refine call callee arguments hcallee.1 (fun e he => hc e (List.mem_cons_of_mem callee he)) ?_
    intro target property heq
    obtain rfl := heq
    exact hcallee.2 target (by simp [children])
  | object properties =>
    refine object properties fun k v hp => ⟨hc k ?_, hc v ?_⟩
    · exact List.mem_flatMap.mpr ⟨(k, v), hp, by simp⟩
    · exact List.mem_flatMap.mpr ⟨(k, v), hp, by simp⟩
  | assertion operand => exact assertion operand (hc operand (by simp [children]))
  | other kind source => exact other kind source

inductive Part : Expr → Expr → Prop
  | self (e : Expr) : Part e e
  | child {p c e : Expr} : c ∈ e.children → Part p c → Part p e

/-- Every template in an expression is as `P` says. -/
def EveryTemplate (P : List Text → List Expr → Prop) (e : Expr) : Prop :=
  ∀ quasis substitutions, Part (.template quasis substitutions) e → P quasis substitutions

theorem everyTemplate_iff {P : List Text → List Expr → Prop} {e : Expr} :
    EveryTemplate P e ↔
      (∀ quasis substitutions, e = .template quasis substitutions → P quasis substitutions) ∧
        ∀ c ∈ e.children, EveryTemplate P c := by
  constructor
  · intro h
    refine ⟨?_, fun c hc quasis substitutions hp => h quasis substitutions (.child hc hp)⟩
    intro quasis substitutions heq
    obtain rfl := heq
    exact h quasis substitutions (.self _)
  · intro hand quasis substitutions hp
    obtain ⟨hself, hchild⟩ := hand
    cases hp with
    | self => exact hself quasis substitutions rfl
    | child hc hp => exact hchild _ hc quasis substitutions hp

section EveryTemplate
variable {P : List Text → List Expr → Prop}

@[simp] theorem everyTemplate_string {value : Text} : EveryTemplate P (.string value) := by
  simp [everyTemplate_iff (e := .string value), children]

@[simp] theorem everyTemplate_name {x : Text} : EveryTemplate P (.name x) := by
  simp [everyTemplate_iff (e := .name x), children]

@[simp] theorem everyTemplate_other {kind : String} {source : Text} :
    EveryTemplate P (.other kind source) := by
  simp [everyTemplate_iff (e := .other kind source), children]

@[simp] theorem everyTemplate_template {quasis : List Text} {substitutions : List Expr} :
    EveryTemplate P (.template quasis substitutions) ↔
      P quasis substitutions ∧ ∀ e ∈ substitutions, EveryTemplate P e := by
  rw [everyTemplate_iff]
  refine and_congr_left' ⟨fun h => h _ _ rfl, ?_⟩
  intro h _ _ heq
  cases heq
  exact h

@[simp] theorem everyTemplate_member {target property : Expr} :
    EveryTemplate P (.member target property) ↔
      EveryTemplate P target ∧ EveryTemplate P property := by
  simp [everyTemplate_iff (e := .member target property), children]

@[simp] theorem everyTemplate_conditional {test consequent alternate : Expr} :
    EveryTemplate P (.conditional test consequent alternate) ↔
      EveryTemplate P test ∧ EveryTemplate P consequent ∧ EveryTemplate P alternate := by
  simp [everyTemplate_iff (e := .conditional test consequent alternate), children]

@[simp] theorem everyTemplate_call {callee : Expr} {arguments : List Expr} :
    EveryTemplate P (.call callee arguments) ↔
      EveryTemplate P callee ∧ ∀ e ∈ arguments, EveryTemplate P e := by
  simp [everyTemplate_iff (e := .call callee arguments), children]

@[simp] theorem everyTemplate_assertion {operand : Expr} :
    EveryTemplate P (.assertion operand) ↔ EveryTemplate P operand := by
  simp [everyTemplate_iff (e := .assertion operand), children]

end EveryTemplate

end StateCoverage.Expr
