import StateCoverage.Proofs.Bindings
import StateCoverage.Proofs.Expr.Outcome

/-!
What resolution gains from a better table. Values are ordered by what is known of them, and with
more known of its bindings an expression has no new unresolved part and keeps all of its text.
-/
namespace StateCoverage

namespace Value
open Bindings

/-- The second value is what the first is known to be: nothing is known of an unresolved one, and an
object can gain properties. -/
inductive Below : Value → Value → Prop
  | unresolved (v : Value) : Below .unresolved v
  | string (s : Text) : Below (.string s) (.string s)
  | object {ps qs : Bindings Value} : Under Below ps qs → Below (.object ps) (.object qs)

theorem Below.refl (v : Value) : Below v v := by
  induction v with
  | string s => exact .string s
  | object properties ih => exact .object (Under.refl ih)
  | unresolved => exact .unresolved _

/-- The strings inside a value stay when more of it is known. -/
theorem Below.strings_sublist {v w : Value} (h : Below v w) : (strings v).Sublist (strings w) := by
  induction v generalizing w with
  | string s =>
    cases h
    exact List.Sublist.refl _
  | object properties ih =>
    cases h with
    | object h =>
      rw [strings_object, strings_object]
      exact h.flatMap_sublist fun k v hp w hw => ih k v hp hw
  | unresolved =>
    rw [strings]
    exact List.nil_sublist _

end Value

namespace Text

/-- A join grows with its parts and with their number. -/
theorem join_sublist (separator : Text) {parts parts' : List Text}
    (h : List.SublistForall₂ List.Sublist parts parts') :
    (join separator parts).Sublist (join separator parts') := by
  induction h with
  | nil => exact List.nil_sublist _
  | @cons part part' rest rest' hpart hrest ih =>
    cases rest with
    | nil =>
      cases rest' with
      | nil => exact hpart
      | cons next' rest' =>
        exact hpart.trans ((List.sublist_append_left _ _).trans (List.sublist_append_left _ _))
    | cons next rest =>
      cases rest' with
      | nil => cases hrest
      | cons next' rest' => exact (hpart.append_right _).append ih
  | @cons_right part' rest rest' _ ih =>
    cases rest' with
    | nil => exact ih.trans (List.nil_sublist _)
    | cons next rest' => exact ih.trans (List.sublist_append_right _ _)

/-- Parts that grow are dropped less often for being empty. -/
theorem filter_sublistForall₂ {parts parts' : List Text}
    (h : List.Forall₂ List.Sublist parts parts') :
    List.SublistForall₂ List.Sublist (parts.filter (· ≠ [])) (parts'.filter (· ≠ [])) := by
  induction h with
  | nil => exact .nil
  | @cons part part' rest rest' hpart _ ih =>
    by_cases hne : part = []
    · have hskip : (part :: rest).filter (· ≠ []) = rest.filter (· ≠ []) := by
        simp [hne]
      rw [hskip, List.filter_cons]
      split
      · exact .cons_right ih
      · exact ih
    · have hne' : part' ≠ [] := by
        intro heq
        obtain rfl := heq
        exact hne (List.sublist_nil.mp hpart)
      simpa [List.filter_cons, hne, hne'] using List.SublistForall₂.cons hpart ih

end Text

namespace Resolution
open Text

/-- The second outcome has no other unresolved parts than the first, and all of its text. -/
def Below (r r' : Resolution) : Prop :=
  r'.unresolved.Sublist r.unresolved ∧ r.text.Sublist r'.text

theorem Below.refl (r : Resolution) : Below r r := ⟨List.Sublist.refl _, List.Sublist.refl _⟩

theorem unknown_below_known (fragment t : Text) : Below (unknown fragment) (known t) :=
  ⟨List.nil_sublist _, List.nil_sublist _⟩

theorem known_below_known {s t : Text} (h : s.Sublist t) : Below (known s) (known t) :=
  ⟨List.Sublist.refl _, h⟩

theorem Below.isComplete {r r' : Resolution} (h : Below r r') (hr : r.isComplete = true) :
    r'.isComplete = true := by
  have hnil : r.unresolved = [] := by simpa [Resolution.isComplete] using hr
  have hsub : r'.unresolved.Sublist [] := hnil ▸ h.1
  simpa [Resolution.isComplete] using hsub

theorem joinBranches_below {a a' b b' : Resolution} (ha : Below a a') (hb : Below b b') :
    Below (joinBranches a b) (joinBranches a' b') := by
  have hparts : List.Forall₂ List.Sublist [a.text, b.text] [a'.text, b'.text] :=
    .cons ha.2 (.cons hb.2 .nil)
  exact ⟨ha.1.append hb.1, join_sublist _ (filter_sublistForall₂ hparts)⟩

theorem interleave_below (quasis : List Text) {rs rs' : List Resolution}
    (h : List.Forall₂ Below rs rs') : Below (interleave quasis rs) (interleave quasis rs') := by
  induction quasis generalizing rs rs' with
  | nil => simp [interleave, Below.refl]
  | cons quasi quasis ih =>
    cases h with
    | nil => exact Below.refl _
    | cons hr hrest =>
      obtain ⟨hun, htext⟩ := ih hrest
      exact ⟨hr.1.append hun, (hr.2.append_left quasi).append htext⟩

end Resolution

namespace Expr
open Bindings Resolution
variable {table table' : Table}

/-- What a chain of accesses names is known at least as well in the better table. -/
theorem exists_base?_below (h : Under Value.Below table table') {e : Expr} {v : Value}
    (hv : base? table e = some v) : ∃ w, base? table' e = some w ∧ v.Below w := by
  induction e generalizing v with
  | name x => exact h.exists_valueOf? hv
  | assertion operand ih => exact ih hv
  | member target property ih =>
    cases property with
    | name x =>
      rw [base?] at hv
      split at hv
      · rename_i ps hps
        obtain ⟨w, hw, hbelow⟩ := ih hps
        cases hbelow with
        | object hunder =>
          obtain ⟨w, hx, hbelow⟩ := hunder.exists_valueOf? hv
          exact ⟨w, by simpa [base?, hw] using hx, hbelow⟩
      · cases hv
    | _ => simp [base?] at hv
  | _ => simp [base?] at hv

/-- A static access is known only as a string property of an object. -/
theorem resolveMember_cases (e property : Expr) (base : Option Value) :
    resolveMember e property base = .unknown (render e) ∨
      ∃ ps x s, base = some (.object ps) ∧ property = .name x ∧
        valueOf? x ps = some (.string s) ∧ resolveMember e property base = .known s := by
  unfold resolveMember
  split
  · rename_i ps
    split
    · rename_i x
      split
      · rename_i s hs
        exact .inr ⟨ps, x, s, rfl, rfl, hs, rfl⟩
      · exact .inl rfl
    · exact .inl rfl
  · exact .inl rfl

theorem resolveIndex_cases (e : Expr) (base : Option Value) :
    resolveIndex e base = .unknown (render e) ∨
      ∃ ps, base = some (.object ps) ∧
        resolveIndex e base = .known (Text.join (text " ") (Value.strings (.object ps))) := by
  unfold resolveIndex
  split
  · rename_i ps
    exact .inr ⟨ps, rfl, rfl⟩
  · exact .inl rfl

section Base
variable {base base' : Option Value}

theorem resolveMember_below (e property : Expr)
    (h : ∀ v, base = some v → ∃ w, base' = some w ∧ v.Below w) :
    Below (resolveMember e property base) (resolveMember e property base') := by
  obtain hu | ⟨ps, x, s, rfl, rfl, hs, hk⟩ := resolveMember_cases e property base
  · rw [hu]
    obtain hu' | ⟨-, -, s, -, -, -, hk⟩ := resolveMember_cases e property base'
    · rw [hu']
      exact Below.refl _
    · rw [hk]
      exact unknown_below_known _ s
  · obtain ⟨w, rfl, hw⟩ := h _ rfl
    cases hw with
    | object hunder =>
      obtain ⟨w, hx, hw⟩ := hunder.exists_valueOf? hs
      cases hw
      rw [hk]
      simp only [resolveMember, hx]
      exact Below.refl _

theorem resolveIndex_below (e : Expr)
    (h : ∀ v, base = some v → ∃ w, base' = some w ∧ v.Below w) :
    Below (resolveIndex e base) (resolveIndex e base') := by
  obtain hu | ⟨ps, rfl, hk⟩ := resolveIndex_cases e base
  · rw [hu]
    obtain hu' | ⟨qs, -, hk⟩ := resolveIndex_cases e base'
    · rw [hu']
      exact Below.refl _
    · rw [hk]
      exact unknown_below_known _ _
  · obtain ⟨w, rfl, hw⟩ := h _ rfl
    have hsame := List.forall₂_same.mpr fun s (_ : s ∈ Value.strings (.object ps)) =>
      List.Sublist.refl s
    have hparts := List.sublistForall₂_iff.mpr ⟨_, hsame, hw.strings_sublist⟩
    cases hw with
    | object hunder =>
      rw [hk]
      exact known_below_known (Text.join_sublist (text " ") hparts)

end Base

/-- A better table gives a better outcome. -/
theorem resolve_below (h : Under Value.Below table table') (e : Expr) :
    Below (e.resolve table) (e.resolve table') := by
  have hbase : ∀ e v, base? table e = some v → ∃ w, base? table' e = some w ∧ v.Below w :=
    fun e v hv => exists_base?_below h hv
  induction e with
  | string value => exact Below.refl _
  | template quasis substitutions ih =>
    rw [resolve, resolve, resolveAll_eq_map, resolveAll_eq_map]
    apply interleave_below
    rw [List.forall₂_map_left_iff, List.forall₂_map_right_iff, List.forall₂_same]
    exact ih
  | name x =>
    rw [resolve, resolve]
    cases hv : valueOf? x table with
    | none =>
      dsimp only
      split
      · exact unknown_below_known _ _
      · exact Below.refl _
    | some v =>
      obtain ⟨w, hw, hbelow⟩ := h.exists_valueOf? hv
      rw [hw]
      cases hbelow with
      | string s => exact Below.refl _
      | object hunder => exact Below.refl _
      | unresolved w =>
        dsimp only
        split
        · exact unknown_below_known _ _
        · exact Below.refl _
  | member target property =>
    rw [resolve, resolve]
    exact resolveMember_below _ property (hbase target)
  | index target key =>
    rw [resolve, resolve]
    exact resolveIndex_below _ (hbase target)
  | conditional test consequent alternate _ ihc iha =>
    rw [resolve, resolve]
    exact joinBranches_below ihc iha
  | call callee arguments _ _ ih =>
    cases hr : callee.receiver? with
    | none =>
      rw [resolve_call_of_not_receiver table hr, resolve_call_of_not_receiver table' hr]
      exact Below.refl _
    | some target =>
      obtain ⟨method, -, rfl⟩ := receiver?_eq_some hr
      rw [resolve_call_of_receiver table hr, resolve_call_of_receiver table' hr]
      exact ih target _ rfl
  | object properties =>
    simp only [resolve]
    exact Below.refl _
  | assertion operand ih =>
    rw [resolve, resolve]
    exact ih
  | other kind source =>
    simp only [resolve]
    exact Below.refl _

end Expr

end StateCoverage
