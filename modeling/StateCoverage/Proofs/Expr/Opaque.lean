import StateCoverage.Proofs.Expr.Extraction
import StateCoverage.Proofs.Expr.Literal

/-!
Expressions that class text cannot be read from keep their source text. Nothing looks at it:
resolution, extraction and rendering are the same without it.
-/
namespace StateCoverage.Expr
open Bindings Resolution

mutual

/-- The expression without the source text of its opaque parts. -/
def blank : Expr → Expr
  | string value => string value
  | template quasis substitutions => template quasis (blankAll substitutions)
  | name x => name x
  | member target property => member (blank target) (blank property)
  | index target key => index (blank target) (blank key)
  | conditional test consequent alternate =>
    conditional (blank test) (blank consequent) (blank alternate)
  | call callee arguments => call (blank callee) (blankAll arguments)
  | object properties => object (blankEntries properties)
  | assertion operand => assertion (blank operand)
  | other kind _ => other kind []

def blankAll : List Expr → List Expr
  | [] => []
  | first :: rest => blank first :: blankAll rest

def blankEntries : List (Expr × Expr) → List (Expr × Expr)
  | [] => []
  | (key, value) :: rest => (blank key, blank value) :: blankEntries rest

end

theorem blankAll_eq_map (list : List Expr) : blankAll list = list.map blank := by
  induction list with
  | nil => simp [blankAll]
  | cons first rest ih => simp [blankAll, ih]

theorem blankEntries_eq_map (list : List (Expr × Expr)) :
    blankEntries list = list.map (Prod.map blank blank) := by
  induction list with
  | nil => simp [blankEntries]
  | cons first rest ih => simp [blankEntries, ih, Prod.map]

theorem render_blank (e : Expr) : render e.blank = render e := by
  induction e with
  | member target property ih =>
    cases property <;> simp [blank, render, ih]
  | index target key iht ihk => rw [blank, render, render, iht, ihk]
  | _ => simp [blank, render]

theorem literalKey?_blank (e : Expr) : e.blank.literalKey? = e.literalKey? := by
  cases e <;> simp [blank, literalKey?]

theorem receiver?_blank (callee : Expr) : callee.blank.receiver? = callee.receiver?.map blank := by
  cases callee with
  | member target property =>
    cases property with
    | name method => by_cases hm : method ∈ passthroughMethods <;> simp [blank, receiver?, hm]
    | _ => simp [blank, receiver?]
  | _ => simp [blank, receiver?]

section Table
variable (table : Table)

theorem base?_blank (e : Expr) : base? table e.blank = base? table e := by
  induction e with
  | assertion operand ih =>
    rw [blank, base?, base?]
    exact ih
  | member target property ih =>
    cases property with
    | name x =>
      rw [blank, blank, base?, base?, ih]
    | _ => simp [blank, base?]
  | _ => simp [blank, base?]

theorem resolve_blank (e : Expr) : e.blank.resolve table = e.resolve table := by
  induction e with
  | template quasis substitutions ih =>
    rw [blank, resolve, resolve, resolveAll_eq_map, resolveAll_eq_map, blankAll_eq_map,
      List.map_map]
    exact congrArg _ (List.map_congr_left ih)
  | member target property =>
    have hrender := render_blank (.member target property)
    rw [blank] at hrender ⊢
    rw [resolve, resolve, base?_blank]
    cases property <;> simp only [blank, resolveMember] at hrender ⊢ <;> simp only [hrender]
  | index target key =>
    have hrender := render_blank (.index target key)
    rw [blank] at hrender ⊢
    rw [resolve, resolve, base?_blank]
    simp only [resolveIndex, hrender]
  | conditional test consequent alternate _ ihc iha => rw [blank, resolve, resolve, ihc, iha]
  | call callee arguments _ _ ih =>
    have hreceiver := receiver?_blank callee
    rw [blank]
    cases hr : callee.receiver? with
    | none =>
      rw [hr] at hreceiver
      rw [resolve_call_of_not_receiver table hr, resolve_call_of_not_receiver table hreceiver]
      rfl
    | some target =>
      rw [hr] at hreceiver
      rw [resolve_call_of_receiver table hr, resolve_call_of_receiver table hreceiver]
      obtain ⟨method, -, rfl⟩ := receiver?_eq_some hr
      exact ih target _ rfl
  | assertion operand ih =>
    rw [blank, resolve, resolve]
    exact ih
  | _ => simp [blank, resolve, render]

theorem extract_blank (e : Expr) : e.blank.extract table = e.extract table := by
  induction e with
  | template quasis substitutions =>
    have hresolve := resolve_blank table (.template quasis substitutions)
    rw [blank] at hresolve ⊢
    rw [(Textual.template _ _).extract_eq, (Textual.template _ _).extract_eq, hresolve]
  | object properties ih =>
    rw [blank, extract, extract, blankEntries_eq_map]
    refine congrArg _ (extractOnto_of_forall₂ ?_ [])
    rw [List.forall₂_map_left_iff, List.forall₂_same]
    exact fun p hp => ⟨literalKey?_blank p.1, (ih p.1 p.2 hp).2⟩
  | assertion operand ih =>
    rw [blank, extract, extract]
    exact ih
  | _ => simp [blank, extract]

end Table

end StateCoverage.Expr
