import StateCoverage.Expr.Resolve
import StateCoverage.Proofs.Text.Join
import StateCoverage.Proofs.Value.Path
import Mathlib.Data.List.Induction

/-!
Static accesses one behind the other. They name the value under a chain of properties, and they
resolve to it when it is a string; otherwise all that is left is how the accesses are written.
-/
namespace StateCoverage
open Bindings

namespace Resolution

def ofValue (fragment : Text) : Option Value → Resolution
  | some (.string s) => .known s
  | _ => .unknown fragment

variable {fragment s : Text} {v : Option Value}

theorem ofValue_of_not_string (h : ∀ s, v ≠ some (.string s)) :
    ofValue fragment v = .unknown fragment := by
  unfold ofValue
  split
  · next s => exact absurd rfl (h s)
  · rfl

theorem ofValue_eq_known_iff : ofValue fragment v = .known s ↔ v = some (.string s) := by
  unfold ofValue
  split
  · simp [known]
  · next h =>
    constructor
    · intro heq
      cases heq
    · intro heq
      exact absurd heq (h s)

theorem eq_known_iff {r : Resolution} : r = .known s ↔ r.isComplete = true ∧ r.text = s := by
  obtain ⟨t, unresolved⟩ := r
  cases unresolved <;> simp [known, isComplete]

end Resolution

namespace Expr

def accesses (e : Expr) (path : List Text) : Expr :=
  path.foldl (fun target k => .member target (.name k)) e

theorem accesses_concat (e : Expr) (path : List Text) (k : Text) :
    accesses e (path ++ [k]) = .member (accesses e path) (.name k) :=
  List.foldl_concat ..

theorem base?_accesses (table : Table) (e : Expr) (path : List Text) :
    base? table (accesses e path) = (base? table e).bind (Value.get? path) := by
  induction path using List.reverseRecOn with
  | nil =>
    change base? table e = (base? table e).bind some
    rw [Option.bind_fun_some]
  | append_singleton path k ih =>
    rw [accesses_concat, base?, ih]
    cases base? table e with
    | none => rfl
    | some v =>
      rw [Option.bind_some, Option.bind_some, Value.get?_concat]
      cases Value.get? path v with
      | none => rfl
      | some w =>
        cases w with
        | object properties =>
          change valueOf? k properties = (valueOf? k properties).bind some
          rw [Option.bind_fun_some]
        | string s => rfl
        | unresolved => rfl

theorem resolve_name (table : Table) (x : Text) :
    resolve table (.name x) = .ofValue x (valueOf? x table) := by
  rw [resolve]
  split
  · next s hs =>
    rw [hs]
    rfl
  · next hs => exact (Resolution.ofValue_of_not_string hs).symm

theorem resolve_access (table : Table) (target : Expr) (k : Text) :
    resolve table (.member target (.name k)) =
      .ofValue (render (.member target (.name k))) (base? table (.member target (.name k))) := by
  rw [resolve, base?]
  cases base? table target with
  | none => rfl
  | some v =>
    cases v with
    | object properties =>
      dsimp only [resolveMember]
      split
      · next s hs =>
        rw [hs]
        rfl
      · next hs => exact (Resolution.ofValue_of_not_string hs).symm
    | string s => rfl
    | unresolved => rfl

/-- Accesses behind a target resolve to the string under their chain of properties. -/
theorem resolve_accesses {path : List Text} (h : path ≠ []) (table : Table) (e : Expr) :
    resolve table (accesses e path) =
      .ofValue (render (accesses e path)) ((base? table e).bind (Value.get? path)) := by
  obtain rfl | ⟨front, k, rfl⟩ := List.eq_nil_or_concat' path
  · exact absurd rfl h
  · rw [← base?_accesses, accesses_concat, resolve_access]

theorem resolve_accesses_name (table : Table) (x : Text) (path : List Text) :
    resolve table (accesses (.name x) path) =
      .ofValue (render (accesses (.name x) path))
        ((valueOf? x table).bind (Value.get? path)) := by
  cases path with
  | nil =>
    change resolve table (.name x) = .ofValue x ((valueOf? x table).bind some)
    rw [resolve_name, Option.bind_fun_some]
  | cons k rest => exact resolve_accesses (List.cons_ne_nil k rest) table (.name x)

/-- Accesses to a name are resolved completely just to the string that they name. -/
theorem resolve_accesses_eq_known_iff {table : Table} {x : Text} {path : List Text} {s : Text} :
    resolve table (accesses (.name x) path) = .known s ↔
      base? table (accesses (.name x) path) = some (.string s) := by
  rw [resolve_accesses_name, base?_accesses, Resolution.ofValue_eq_known_iff]
  rfl

theorem render_accesses (x : Text) (path : List Text) :
    render (accesses (.name x) path) = Text.join (text ".") (x :: path) := by
  induction path using List.reverseRecOn with
  | nil => rfl
  | append_singleton path k ih =>
    rw [accesses_concat, render, ih, ← List.cons_append,
      Text.join_concat _ _ (List.cons_ne_nil x path)]

end Expr

end StateCoverage
