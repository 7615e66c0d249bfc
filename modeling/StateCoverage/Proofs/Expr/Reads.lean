import StateCoverage.Proofs.Bindings
import StateCoverage.Proofs.Expr.Extraction

/-!
The names that an expression looks up. Tables that agree on them resolve it alike, and a binding
that is declared with it holds the same value.
-/
namespace StateCoverage

/-- The tables hold the same under every name in `R`. -/
def Table.AgreeOn (R : Text → Prop) (table table' : Table) : Prop :=
  ∀ x, R x → Bindings.valueOf? x table = Bindings.valueOf? x table'

theorem Table.AgreeOn.mono {R S : Text → Prop} {table table' : Table} (h : AgreeOn R table table')
    (hsub : ∀ x, S x → R x) : AgreeOn S table table' :=
  fun x hx => h x (hsub x hx)

namespace Expr
open Bindings Resolution

/-- The name that a chain of static accesses starts from. -/
def root? : Expr → Option Text
  | name x => some x
  | assertion operand => root? operand
  | member target _ => root? target
  | _ => none

mutual

/-- The names that resolution looks up. A test, an argument, a key and a property name are not
looked up, nor is what stands inside a shape that resolution does not enter. -/
def reads : Expr → List Text
  | name x => [x]
  | member target _ => (root? target).toList
  | index target _ => (root? target).toList
  | conditional _ consequent alternate => reads consequent ++ reads alternate
  | template quasis substitutions => substitutionReads quasis substitutions
  | call (member target (name method)) _ =>
    if method ∈ passthroughMethods then reads target else []
  | assertion operand => reads operand
  | _ => []

/-- The names that the substitutions of a template look up. One that is behind no quasi is
skipped. -/
def substitutionReads : List Text → List Expr → List Text
  | _ :: quasis, e :: rest => reads e ++ substitutionReads quasis rest
  | _, _ => []

end

mutual

/-- The names that are looked up for a binding that is declared with this initializer: those in the
substitutions of its templates. -/
def initializerReads : Expr → List Text
  | assertion operand => initializerReads operand
  | template quasis substitutions => substitutionReads quasis substitutions
  | object properties => propertyReads properties
  | _ => []

/-- The same for the properties of a literal. A property whose key is neither a name nor a string is
skipped. -/
def propertyReads : List (Expr × Expr) → List Text
  | [] => []
  | (name _, value) :: rest => initializerReads value ++ propertyReads rest
  | (string _, value) :: rest => initializerReads value ++ propertyReads rest
  | _ :: rest => propertyReads rest

end

theorem reads_call_of_receiver {callee target : Expr} (h : callee.receiver? = some target)
    (arguments : List Expr) : reads (.call callee arguments) = reads target := by
  obtain ⟨method, hm, rfl⟩ := receiver?_eq_some h
  rw [reads, if_pos hm]

section Congr
variable {table table' : Table}

theorem base?_congr {e : Expr} (h : Table.AgreeOn (· ∈ (root? e).toList) table table') :
    base? table e = base? table' e := by
  induction e with
  | name x => exact h x (by simp [root?])
  | assertion operand ih =>
    rw [base?, base?]
    exact ih h
  | member target property ih =>
    cases property with
    | name x => rw [base?, base?, ih h]
    | _ => rfl
  | _ => rfl

theorem interleave_resolveAll_congr {quasis : List Text} {substitutions : List Expr}
    (h : Table.AgreeOn (· ∈ substitutionReads quasis substitutions) table table')
    (ih : ∀ e ∈ substitutions, Table.AgreeOn (· ∈ e.reads) table table' →
      e.resolve table = e.resolve table') :
    interleave quasis (resolveAll table substitutions) =
      interleave quasis (resolveAll table' substitutions) := by
  induction quasis generalizing substitutions with
  | nil => rfl
  | cons quasi quasis ihq =>
    cases substitutions with
    | nil => rfl
    | cons e rest =>
      have he : e.resolve table = e.resolve table' :=
        ih e List.mem_cons_self (h.mono fun x hx => List.mem_append_left _ hx)
      have hrest : interleave quasis (resolveAll table rest) =
          interleave quasis (resolveAll table' rest) :=
        ihq (h.mono fun x hx => List.mem_append_right _ hx)
          fun e hmem => ih e (List.mem_cons_of_mem _ hmem)
      rw [resolveAll, resolveAll, interleave, interleave, he, hrest]

/-- Resolution sees no more of a table than the names that it looks up. -/
theorem resolve_congr {e : Expr} (h : Table.AgreeOn (· ∈ e.reads) table table') :
    e.resolve table = e.resolve table' := by
  induction e with
  | template quasis substitutions ih =>
    rw [resolve, resolve]
    exact interleave_resolveAll_congr h ih
  | name x => rw [resolve, resolve, h x (by simp [reads])]
  | member target property => rw [resolve, resolve, base?_congr h]
  | index target key => rw [resolve, resolve, base?_congr h]
  | conditional test consequent alternate _ ihc iha =>
    have hc := ihc (h.mono fun x hx => List.mem_append_left _ hx)
    have ha := iha (h.mono fun x hx => List.mem_append_right _ hx)
    rw [resolve, resolve, hc, ha]
  | call callee arguments _ _ ih =>
    cases hr : callee.receiver? with
    | none => rw [resolve_call_of_not_receiver table hr, resolve_call_of_not_receiver table' hr]
    | some target =>
      rw [reads_call_of_receiver hr] at h
      obtain ⟨method, -, rfl⟩ := receiver?_eq_some hr
      rw [resolve_call_of_receiver table hr, resolve_call_of_receiver table' hr]
      exact ih target _ rfl h
  | assertion operand ih =>
    rw [resolve, resolve]
    exact ih h
  | _ => rfl

theorem extractOnto_congr {properties : List (Expr × Expr)}
    (h : Table.AgreeOn (· ∈ propertyReads properties) table table')
    (ih : ∀ k v, (k, v) ∈ properties → Table.AgreeOn (· ∈ v.initializerReads) table table' →
      v.extract table = v.extract table') (before : Bindings Value) :
    extractOnto table before properties = extractOnto table' before properties := by
  induction properties generalizing before with
  | nil => rfl
  | cons p rest ihp =>
    obtain ⟨key, value⟩ := p
    have ihrest : ∀ k v, (k, v) ∈ rest → Table.AgreeOn (· ∈ v.initializerReads) table table' →
        v.extract table = v.extract table' := fun k v hp => ih k v (List.mem_cons_of_mem _ hp)
    have hvalue : Table.AgreeOn (· ∈ value.initializerReads) table table' →
        value.extract table = value.extract table' := ih key value List.mem_cons_self
    cases key with
    | name x | string x =>
      have heq := hvalue (h.mono fun x hx => List.mem_append_left _ hx)
      rw [extractOnto, extractOnto, heq]
      exact ihp (h.mono fun x hx => List.mem_append_right _ hx) ihrest _
    | _ => exact ihp h ihrest before

/-- What a binding holds depends on no more of the table than the names that are looked up for
it. -/
theorem extract_congr {e : Expr} (h : Table.AgreeOn (· ∈ e.initializerReads) table table') :
    e.extract table = e.extract table' := by
  induction e with
  | template quasis substitutions =>
    have heq := interleave_resolveAll_congr h fun e _ => resolve_congr
    rw [extract, extract, templateText?_eq, templateText?_eq, heq]
  | object properties ih =>
    rw [extract, extract, extractOnto_congr h (fun k v hp => (ih k v hp).2) []]
  | assertion operand ih =>
    rw [extract, extract]
    exact ih h
  | _ => rfl

end Congr

end Expr

end StateCoverage
