import StateCoverage.Proofs.Expr.Chain
import StateCoverage.Proofs.Expr.Substitution

/-!
What a binding holds against what its initializer resolves to. It is a string exactly where the
initializer is a string literal or a template that resolves completely, and then it is the resolved
text. So the initializer can be written for such a binding anywhere.
-/
namespace StateCoverage.Expr
open Bindings Resolution

/-- A string literal or a template, under any number of type assertions. -/
inductive Textual : Expr → Prop
  | string (value : Text) : Textual (.string value)
  | template (quasis : List Text) (substitutions : List Expr) :
      Textual (.template quasis substitutions)
  | assertion {operand : Expr} : Textual operand → Textual (.assertion operand)

variable {table : Table} {x s : Text} {e : Expr}

theorem isComplete_interleave_cons (quasi : Text) (quasis : List Text) (r : Resolution)
    (rs : List Resolution) :
    (interleave (quasi :: quasis) (r :: rs)).isComplete =
      (r.isComplete && (interleave quasis rs).isComplete) := by
  cases hr : r.unresolved <;> simp [interleave, isComplete, hr]

/-- The reading that ends at the first gap and the one that collects all gaps agree: the first gives
a text where the second has no gap, and then it is the same text. -/
theorem templateText?_eq (table : Table) (quasis : List Text) (substitutions : List Expr) :
    templateText? table quasis substitutions =
      if (interleave quasis (resolveAll table substitutions)).isComplete then
        some (interleave quasis (resolveAll table substitutions)).text
      else none := by
  induction quasis generalizing substitutions with
  | nil => rfl
  | cons quasi quasis ih =>
    cases substitutions with
    | nil =>
      have hrest : (interleave (quasi :: quasis) []).isComplete =
          (interleave quasis []).isComplete := rfl
      rw [templateText?, ih, resolveAll, hrest]
      cases (interleave quasis []).isComplete <;> rfl
    | cons e rest =>
      rw [templateText?, ih, resolveAll, isComplete_interleave_cons]
      cases (e.resolve table).isComplete with
      | false => rfl
      | true => cases (interleave quasis (resolveAll table rest)).isComplete <;> rfl

theorem Textual.extract_eq (h : e.Textual) (table : Table) :
    e.extract table =
      if (e.resolve table).isComplete then .string (e.resolve table).text else .unresolved := by
  induction h with
  | string value =>
    rw [extract, resolve]
    rfl
  | template quasis substitutions =>
    rw [extract, resolve, templateText?_eq]
    cases (interleave quasis (resolveAll table substitutions)).isComplete <;> rfl
  | assertion _ ih => rw [extract, resolve, ih]

/-- No other shape gives a string. -/
theorem textual_of_extract (h : e.extract table = .string s) : e.Textual := by
  induction e with
  | string value => exact .string value
  | template quasis substitutions => exact .template quasis substitutions
  | assertion operand ih => exact .assertion (ih (by rwa [extract] at h))
  | _ => simp [extract] at h

theorem resolve_of_extract (h : e.extract table = .string s) : e.resolve table = .known s := by
  rw [(textual_of_extract h).extract_eq] at h
  split at h
  · next hcomplete =>
    cases h
    exact eq_known_iff.mpr ⟨hcomplete, rfl⟩
  · cases h

/-- What is bound and what is resolved agree on every initializer. Where the binding is a string,
the initializer resolves completely, to that string. A string literal or a template, however many
quasis and substitutions it has and under any number of type assertions, is bound to what it
resolves to when that is complete, and else nothing is known of the binding. Nothing else is bound
to a string. -/
theorem extract_agrees_with_resolve (table : Table) (e : Expr) :
    (∀ s, e.extract table = .string s →
      (e.resolve table).isComplete = true ∧ (e.resolve table).text = s) ∧
    (e.Textual → e.extract table =
      if (e.resolve table).isComplete then .string (e.resolve table).text else .unresolved) ∧
    (¬ e.Textual → ∀ s, e.extract table ≠ .string s) := by
  refine ⟨fun s hs => ?_, fun ht => ht.extract_eq table, fun hn s hs => hn (textual_of_extract hs)⟩
  rw [resolve_of_extract hs]
  exact ⟨rfl, rfl⟩

def oneSize : Table := [(text "sm", .string (text "p-1"))]

/-- `flex ${sm}` under a type assertion. A substitution that stands behind no quasi is added. -/
def overfullClass : Expr :=
  .assertion (.template [text "flex "] [.name (text "sm"), .name (text "lg")])

def gappedClass : Expr :=
  .template [text "flex ", text " ", []] [.name (text "sm"), .name (text "lg")]

theorem overfullClass_agrees :
    overfullClass.extract oneSize = .string (text "flex p-1") ∧
    (overfullClass.resolve oneSize).isComplete = true ∧
    (overfullClass.resolve oneSize).text = text "flex p-1" ∧
    gappedClass.Textual ∧
    gappedClass.extract oneSize = (if (gappedClass.resolve oneSize).isComplete then
      .string (gappedClass.resolve oneSize).text else .unresolved) ∧
    gappedClass.extract oneSize = .unresolved ∧
    ¬ (Expr.name (text "sm")).Textual ∧
    (Expr.name (text "sm")).extract oneSize ≠ .string (text "p-1") := by
  have hs : overfullClass.extract oneSize = .string (text "flex p-1") := rfl
  have ht : gappedClass.Textual := .template _ _
  have hn : ¬ (Expr.name (text "sm")).Textual := nofun
  obtain ⟨hknown, -, -⟩ := extract_agrees_with_resolve oneSize overfullClass
  obtain ⟨-, heq, -⟩ := extract_agrees_with_resolve oneSize gappedClass
  obtain ⟨-, -, hnone⟩ := extract_agrees_with_resolve oneSize (.name (text "sm"))
  exact ⟨hs, (hknown _ hs).1, (hknown _ hs).2, ht, heq ht, rfl, hn, hnone hn _⟩

section Inlining

theorem Textual.base?_eq_none (h : e.Textual) (table : Table) : base? table e = none := by
  induction h with
  | string value => rfl
  | template quasis substitutions => rfl
  | assertion _ ih => rwa [base?]

/-- An initializer stands for the string that it is bound to. In front of a dot neither is an
object: the name is a string there, the initializer is nothing. -/
theorem standsFor_of_extract (hx : valueOf? x table = some (.string s))
    (he : e.extract table = .string s) : StandsFor table e x := by
  have ht : e.Textual := textual_of_extract he
  refine ⟨fun properties => ?_, ?_, fun arguments => ?_⟩
  · simp [ht.base?_eq_none, hx]
  · rw [resolve_of_extract he, resolve, hx]
    exact Alike.refl _
  · have hr : e.receiver? = none := by
      cases ht with
      | _ => rfl
    rw [resolve_call_of_not_receiver table hr]
    exact unknown_alike _ _

/-- A string binding can be inlined. Where a name holds a string, and an initializer would be bound
to the same string, the initializer can be written for the name wherever the name stands for its
binding: the text stays the same, it is complete as before, and as many parts stay unresolved. -/
theorem inlined_resolves_alike (hx : valueOf? x table = some (.string s))
    (he : e.extract table = .string s) (reworded : Text → Text) (c : Expr) :
    ((substitute x e reworded c).resolve table).text = (c.resolve table).text ∧
    ((substitute x e reworded c).resolve table).isComplete = (c.resolve table).isComplete ∧
    ((substitute x e reworded c).resolve table).unresolved.length =
      (c.resolve table).unresolved.length := by
  have halike := (standsFor_of_extract hx he).resolve_substitute reworded c
  exact ⟨halike.text, halike.isComplete, halike.count⟩

/-- `open ? sm.trim() : (sm as T).sm`, and behind it a call of `sm`. -/
def usedSize : Expr :=
  .template [[], text " ", []]
    [.conditional (.name (text "open"))
      (.call (.member (.name (text "sm")) (.name (text "trim"))) [])
      (.member (.assertion (.name (text "sm"))) (.name (text "sm"))),
    .call (.name (text "sm")) []]

/-- A template that evaluates to the known size. -/
def spelledSize : Expr := .template [text "p-", []] [.string (text "1")]

theorem spelledSize_resolves_alike :
    valueOf? (text "sm") oneSize = some (.string (text "p-1")) ∧
    spelledSize.extract oneSize = .string (text "p-1") ∧
    ((substitute (text "sm") spelledSize id usedSize).resolve oneSize).text =
      (usedSize.resolve oneSize).text ∧
    ((substitute (text "sm") spelledSize id usedSize).resolve oneSize).isComplete =
      (usedSize.resolve oneSize).isComplete ∧
    ((substitute (text "sm") spelledSize id usedSize).resolve oneSize).unresolved.length =
      (usedSize.resolve oneSize).unresolved.length ∧
    usedSize.resolve oneSize = ⟨text "p-1 ", [text "<expr>.sm", placeholder]⟩ := by
  have hx : valueOf? (text "sm") oneSize = some (.string (text "p-1")) := rfl
  have he : spelledSize.extract oneSize = .string (text "p-1") := rfl
  obtain ⟨htext, hcomplete, hcount⟩ := inlined_resolves_alike hx he id usedSize
  exact ⟨hx, he, htext, hcomplete, hcount, by decide⟩

end Inlining

end StateCoverage.Expr
