import StateCoverage.Proofs.Expr.Outcome

/-!
Another expression in the place of a name. Where nothing more is known of the one than of the other,
what surrounds them resolves to the same text, with as many unresolved parts.
-/
namespace StateCoverage

/-- What is known of a value that may be missing. An unresolved one is as good as none. -/
def Value.known? (v : Option Value) : Option Value := v.filter fun v => !v.isUnresolved

@[simp] theorem Value.known?_none : known? none = none := rfl

@[simp] theorem Value.known?_unresolved : known? (some .unresolved) = none := rfl

theorem Value.known?_some {v : Value} (h : v.isUnresolved = false) : known? (some v) = some v := by
  simp [known?, Option.filter, h]

/-- The same object, or no object on either side. An access looks at nothing else. -/
def Value.SameObject (v w : Option Value) : Prop :=
  ∀ properties, v = some (.object properties) ↔ w = some (.object properties)

namespace Resolution

/-- The same text, and as many unresolved parts, whatever they are called. -/
structure Alike (r r' : Resolution) : Prop where
  text : r.text = r'.text
  count : r.unresolved.length = r'.unresolved.length

variable {r r' : Resolution}

theorem Alike.refl (r : Resolution) : Alike r r := ⟨rfl, rfl⟩

theorem Alike.trans {r'' : Resolution} (h : Alike r r') (h' : Alike r' r'') : Alike r r'' :=
  ⟨h.text.trans h'.text, h.count.trans h'.count⟩

theorem Alike.isComplete (h : Alike r r') : r.isComplete = r'.isComplete := by
  have hempty (r : Resolution) : r.isComplete = decide (r.unresolved.length = 0) := by
    cases hr : r.unresolved <;> simp [Resolution.isComplete, hr]
  rw [hempty, hempty, h.count]

theorem unknown_alike (fragment fragment' : Text) : Alike (unknown fragment) (unknown fragment') :=
  ⟨rfl, rfl⟩

theorem joinBranches_alike {a a' b b' : Resolution} (ha : Alike a a') (hb : Alike b b') :
    Alike (joinBranches a b) (joinBranches a' b') := by
  refine ⟨?_, ?_⟩
  · simp only [joinBranches, ha.text, hb.text]
  · simp only [joinBranches, List.length_append, ha.count, hb.count]

theorem interleave_alike (quasis : List Text) {rs rs' : List Resolution}
    (h : List.Forall₂ Alike rs rs') : Alike (interleave quasis rs) (interleave quasis rs') := by
  induction quasis generalizing rs rs' with
  | nil => exact Alike.refl _
  | cons quasi quasis ih =>
    cases h with
    | nil => exact Alike.refl _
    | cons hr hrest =>
      have hrest := ih hrest
      refine ⟨?_, ?_⟩
      · simp only [interleave, hr.text, hrest.text]
      · simp only [interleave, List.length_append, hr.count, hrest.count]

end Resolution

namespace Expr
open Bindings Resolution

def isName : Expr → Bool
  | name _ => true
  | _ => false

section Substitute
variable (x : Text) (e : Expr) (reworded : Text → Text)

mutual

/-- Puts `e` in the place of `x` wherever `x` stands for its binding. A name behind a dot and the
key of a property stand for themselves. Shapes that are kept as source text are `reworded`. -/
def substitute : Expr → Expr
  | string value => string value
  | template quasis substitutions => template quasis (substituteAll substitutions)
  | name y => if y = x then e else name y
  | member target property =>
    member (substitute target) (if property.isName then property else substitute property)
  | index target key => index (substitute target) (substitute key)
  | conditional test consequent alternate =>
    conditional (substitute test) (substitute consequent) (substitute alternate)
  | call callee arguments => call (substitute callee) (substituteAll arguments)
  | object properties => object (substituteEntries properties)
  | assertion operand => assertion (substitute operand)
  | other kind source => other kind (reworded source)

def substituteAll : List Expr → List Expr
  | [] => []
  | first :: rest => substitute first :: substituteAll rest

def substituteEntries : List (Expr × Expr) → List (Expr × Expr)
  | [] => []
  | (key, value) :: rest =>
    (if key.isName then key else substitute key, substitute value) :: substituteEntries rest

end

theorem substituteAll_eq_map (list : List Expr) :
    substituteAll x e reworded list = list.map (substitute x e reworded) := by
  induction list with
  | nil => simp [substituteAll]
  | cons first rest ih => simp [substituteAll, ih]

end Substitute

section Base
variable {base base' : Option Value}

theorem eq_some_of_known? (h : Value.known? base = Value.known? base') {v : Value}
    (hv : v.isUnresolved = false) (hb : base = some v) : base' = some v := by
  have hkept : Value.known? base = some v := by rw [hb, Value.known?_some hv]
  exact (Option.filter_eq_some_iff.mp (h ▸ hkept)).1

/-- A name looks only at a string: both values are the same one, or neither is any. -/
theorem string_cases (h : Value.known? base = Value.known? base') :
    (∃ s, base = some (.string s) ∧ base' = some (.string s)) ∨
      ((∀ s, base ≠ some (.string s)) ∧ ∀ s, base' ≠ some (.string s)) := by
  by_cases hb : ∃ s, base = some (.string s)
  · obtain ⟨s, hb⟩ := hb
    exact .inl ⟨s, hb, eq_some_of_known? h rfl hb⟩
  · exact .inr ⟨fun s heq => hb ⟨s, heq⟩, fun s heq => hb ⟨s, eq_some_of_known? h.symm rfl heq⟩⟩

theorem ofValue_alike (h : Value.known? base = Value.known? base') (fragment fragment' : Text) :
    Alike (ofValue fragment base) (ofValue fragment' base') := by
  obtain ⟨s, rfl, rfl⟩ | ⟨hs, hs'⟩ := string_cases h
  · exact Alike.refl _
  · rw [ofValue_of_not_string hs, ofValue_of_not_string hs']
    exact unknown_alike _ _

theorem sameObject_of_known? (h : Value.known? base = Value.known? base') :
    Value.SameObject base base' :=
  fun _ => ⟨eq_some_of_known? h rfl, eq_some_of_known? h.symm rfl⟩

theorem object_cases (h : Value.SameObject base base') :
    (∃ properties, base = some (.object properties) ∧ base' = some (.object properties)) ∨
      ((∀ properties, base ≠ some (.object properties)) ∧
        ∀ properties, base' ≠ some (.object properties)) := by
  by_cases hb : ∃ properties, base = some (.object properties)
  · obtain ⟨properties, hb⟩ := hb
    exact .inl ⟨properties, hb, (h properties).mp hb⟩
  · refine .inr ⟨fun properties heq => hb ⟨properties, heq⟩, fun properties heq => ?_⟩
    exact hb ⟨properties, (h properties).mpr heq⟩

theorem resolveMember_of_not_object (h : ∀ properties, base ≠ some (.object properties))
    (e property : Expr) : resolveMember e property base = .unknown (render e) := by
  unfold resolveMember
  split
  · exact absurd rfl (h _)
  · rfl

theorem resolveIndex_of_not_object (h : ∀ properties, base ≠ some (.object properties)) (e : Expr) :
    resolveIndex e base = .unknown (render e) := by
  unfold resolveIndex
  split
  · exact absurd rfl (h _)
  · rfl

theorem resolveMember_of_not_name {property : Expr} (h : property.isName = false) (e : Expr) :
    resolveMember e property base = .unknown (render e) := by
  unfold resolveMember
  split
  · cases property with
    | name => cases h
    | _ => rfl
  · rfl

theorem resolve_name_of_not_string {table : Table} {x : Text}
    (h : ∀ s, valueOf? x table ≠ some (.string s)) : resolve table (.name x) = .unknown x := by
  rw [resolve_name, ofValue_of_not_string h]

theorem base?_member_of_not_object {table : Table} {target : Expr}
    (h : ∀ properties, base? table target ≠ some (.object properties)) (x : Text) :
    base? table (.member target (.name x)) = none := by
  rw [base?]
  split
  · rename_i properties hb
    exact absurd hb (h properties)
  · rfl

theorem base?_member_of_not_name {property : Expr} (h : property.isName = false) (table : Table)
    (target : Expr) : base? table (.member target property) = none := by
  cases property with
  | name => cases h
  | _ => rfl

theorem resolveMember_alike (h : Value.SameObject base base') (e e' : Expr) (x : Text) :
    Alike (resolveMember e (.name x) base) (resolveMember e' (.name x) base') := by
  obtain ⟨properties, rfl, rfl⟩ | ⟨hb, hb'⟩ := object_cases h
  · cases hx : valueOf? x properties with
    | none => simp only [resolveMember, hx, unknown_alike]
    | some v => cases v <;> simp only [resolveMember, hx, unknown_alike, Alike.refl]
  · rw [resolveMember_of_not_object hb, resolveMember_of_not_object hb']
    exact unknown_alike _ _

theorem resolveIndex_alike (h : Value.SameObject base base') (e e' : Expr) :
    Alike (resolveIndex e base) (resolveIndex e' base') := by
  obtain ⟨properties, rfl, rfl⟩ | ⟨hb, hb'⟩ := object_cases h
  · exact Alike.refl _
  · rw [resolveIndex_of_not_object hb, resolveIndex_of_not_object hb']
    exact unknown_alike _ _

end Base

section Congruence
variable {table : Table}

theorem resolve_template_alike (quasis : List Text) {f : Expr → Expr} {substitutions : List Expr}
    (h : ∀ e ∈ substitutions, Alike ((f e).resolve table) (e.resolve table)) :
    Alike (resolve table (.template quasis (substitutions.map f)))
      (resolve table (.template quasis substitutions)) := by
  rw [resolve, resolve, resolveAll_eq_map, resolveAll_eq_map]
  apply interleave_alike
  simpa [List.forall₂_map_left_iff, List.forall₂_map_right_iff, List.forall₂_same] using h

/-- A property that is no name can be any other one that is none. -/
theorem resolve_member_alike {target target' property property' : Expr}
    (h : Value.SameObject (base? table target) (base? table target'))
    (hp : property = property' ∨ (property.isName = false ∧ property'.isName = false)) :
    Alike (resolve table (.member target property))
      (resolve table (.member target' property')) := by
  rw [resolve, resolve]
  obtain rfl | ⟨hp, hp'⟩ := hp
  · cases hp : property.isName with
    | true =>
      cases property with
      | name x => exact resolveMember_alike h _ _ x
      | _ => cases hp
    | false =>
      rw [resolveMember_of_not_name hp, resolveMember_of_not_name hp]
      exact unknown_alike _ _
  · rw [resolveMember_of_not_name hp, resolveMember_of_not_name hp']
    exact unknown_alike _ _

end Congruence

/-- As much is known of `e` as of the name `x`, wherever the two stand: in front of a dot, by
themselves, or as what is called. -/
structure StandsFor (table : Table) (e : Expr) (x : Text) : Prop where
  base : Value.SameObject (base? table e) (valueOf? x table)
  alone : Alike (e.resolve table) (resolve table (.name x))
  called : ∀ arguments, Alike (resolve table (.call e arguments)) (.unknown [])

/-- A property can stand for a name that is known as well. Where nothing is known of its target, the
name must be unknown. -/
theorem standsFor_member {table : Table} {x target key : Text}
    (h : (∃ properties, valueOf? target table = some (.object properties) ∧
        Value.known? (valueOf? key properties) = Value.known? (valueOf? x table)) ∨
      (valueOf? target table = some .unresolved ∧ valueOf? x table = some .unresolved)) :
    StandsFor table (.member (.name target) (.name key)) x := by
  have htarget : ∀ s, valueOf? target table ≠ some (.string s) := by
    obtain ⟨properties, ht, -⟩ | ⟨ht, -⟩ := h <;> simp [ht]
  have hbase : Value.known? (base? table (.member (.name target) (.name key))) =
      Value.known? (valueOf? x table) := by
    obtain ⟨properties, ht, hk⟩ | ⟨ht, hx⟩ := h
    · simpa [base?, ht] using hk
    · simp [base?, ht, hx]
  refine ⟨sameObject_of_known? hbase, ?_, fun arguments => ?_⟩
  · rw [resolve_access, resolve_name]
    exact ofValue_alike hbase _ _
  · rw [resolve]
    split
    · rw [resolve_name_of_not_string htarget]
      exact unknown_alike _ _
    · exact unknown_alike _ _

section StandsFor
variable {table : Table} {x : Text} {e : Expr} (h : StandsFor table e x) (reworded : Text → Text)
include h

omit h in
/-- Only names are replaced by another shape. -/
theorem isName_substitute (e c : Expr) (hc : c.isName = false) :
    (substitute x e reworded c).isName = false := by
  cases c with
  | name => cases hc
  | _ => rfl

/-- A chain of accesses names the same object as before, or none. -/
theorem StandsFor.base_substitute (c : Expr) :
    Value.SameObject (base? table (substitute x e reworded c)) (base? table c) := by
  induction c with
  | name y =>
    rw [substitute]
    split
    · next hy => exact hy ▸ h.base
    · exact fun _ => Iff.rfl
  | assertion operand ih => simpa only [substitute, base?] using ih
  | member target property ih =>
    rw [substitute]
    cases hp : property.isName with
    | true =>
      cases property with
      | name y =>
        rw [if_pos rfl]
        obtain ⟨properties, hb, hb'⟩ | ⟨hb, hb'⟩ := object_cases ih
        · rw [base?, base?, hb, hb']
          exact fun _ => Iff.rfl
        · rw [base?_member_of_not_object hb, base?_member_of_not_object hb']
          exact fun _ => Iff.rfl
      | _ => cases hp
    | false =>
      rw [if_neg Bool.false_ne_true, base?_member_of_not_name hp,
        base?_member_of_not_name (isName_substitute reworded e property hp)]
      exact fun _ => Iff.rfl
  | _ => simp [substitute, base?, Value.SameObject]

/-- What is called is a method that resolution sees through, or it is not known. -/
theorem StandsFor.resolve_substitute_call {callee : Expr} (arguments arguments' : List Expr)
    (ih : ∀ target property, callee = .member target property →
      Alike ((substitute x e reworded target).resolve table) (target.resolve table)) :
    Alike (resolve table (.call (substitute x e reworded callee) arguments'))
      (resolve table (.call callee arguments)) := by
  have hunknown {callee callee' : Expr} (hr : callee.receiver? = none)
      (hr' : callee'.receiver? = none) :
      Alike (resolve table (.call callee' arguments'))
        (resolve table (.call callee arguments)) := by
    rw [resolve_call_of_not_receiver table hr, resolve_call_of_not_receiver table hr']
    exact unknown_alike _ _
  cases callee with
  | name y =>
    rw [substitute]
    split
    · have hr : (Expr.name y).receiver? = none := rfl
      rw [resolve_call_of_not_receiver table hr]
      exact (h.called arguments').trans (unknown_alike _ _)
    · exact hunknown rfl rfl
  | member target property =>
    cases property with
    | name method =>
      simp only [substitute, isName, if_true]
      by_cases hm : method ∈ passthroughMethods
      · rw [resolve, if_pos hm, resolve, if_pos hm]
        exact ih target _ rfl
      · refine hunknown ?_ ?_ <;> simp [receiver?, hm]
    | _ => exact hunknown rfl rfl
  | _ => exact hunknown rfl rfl

/-- What surrounds the place of a name does not see what stands there. -/
theorem StandsFor.resolve_substitute (c : Expr) :
    Alike ((substitute x e reworded c).resolve table) (c.resolve table) := by
  induction c with
  | string value => exact Alike.refl _
  | template quasis substitutions ih =>
    rw [substitute, substituteAll_eq_map]
    exact resolve_template_alike quasis ih
  | name y =>
    rw [substitute]
    split
    · next hy => exact hy ▸ h.alone
    · exact Alike.refl _
  | member target property =>
    rw [substitute]
    refine resolve_member_alike (h.base_substitute reworded target) ?_
    cases hp : property.isName with
    | true => exact .inl (if_pos rfl)
    | false =>
      rw [if_neg Bool.false_ne_true]
      exact .inr ⟨isName_substitute reworded e property hp, rfl⟩
  | index target key =>
    rw [substitute, resolve, resolve]
    exact resolveIndex_alike (h.base_substitute reworded target) _ _
  | conditional test consequent alternate _ ihc iha =>
    rw [substitute, resolve, resolve]
    exact joinBranches_alike ihc iha
  | call callee arguments _ _ ih =>
    rw [substitute]
    exact h.resolve_substitute_call reworded arguments _ ih
  | object properties =>
    simp only [substitute, resolve]
    exact unknown_alike _ _
  | assertion operand ih => simpa only [substitute, resolve] using ih
  | other kind source =>
    simp only [substitute, resolve]
    exact unknown_alike _ _

end StandsFor

end Expr

end StateCoverage
