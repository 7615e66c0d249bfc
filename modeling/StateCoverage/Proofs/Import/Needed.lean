import StateCoverage.Proofs.Expr.Reads
import StateCoverage.Proofs.Import.Contents

/-!
What an expression needs of the file that it stands in: the names that it looks up, and what the
definitions of those names look up in turn. All other declarations can go, and the expression
resolves as before.
-/
namespace StateCoverage
open Bindings

/-- The second list is the first without some of the elements of which `P` holds. -/
inductive Without {α : Type} (P : α → Prop) : List α → List α → Prop
  | nil : Without P [] []
  | keep {list list' : List α} (a : α) : Without P list list' → Without P (a :: list) (a :: list')
  | drop {list list' : List α} {a : α} : P a → Without P list list' → Without P (a :: list) list'

namespace Without
variable {α β : Type} {P : α → Prop} {Q : β → Prop} {list list' : List α}

theorem refl (list : List α) : Without P list list := by
  induction list with
  | nil => exact .nil
  | cons a rest ih => exact .keep a ih

theorem nil_of_all (h : ∀ a ∈ list, P a) : Without P list [] := by
  induction list with
  | nil => exact .nil
  | cons a rest ih =>
    exact .drop (h a List.mem_cons_self) (ih fun b hb => h b (List.mem_cons_of_mem _ hb))

theorem append {after after' : List α} (h : Without P list list')
    (hafter : Without P after after') : Without P (list ++ after) (list' ++ after') := by
  induction h with
  | nil => exact hafter
  | keep a _ ih => exact .keep a ih
  | drop ha _ ih => exact .drop ha ih

theorem filterMap {f : α → Option β} (h : Without P list list')
    (hf : ∀ a b, P a → f a = some b → Q b) :
    Without Q (list.filterMap f) (list'.filterMap f) := by
  induction h with
  | nil => exact .nil
  | keep a _ ih =>
    cases hfa : f a with
    | none => simpa [hfa] using ih
    | some b => simpa [hfa] using ih.keep b
  | @drop list list' a ha _ ih =>
    cases hfa : f a with
    | none => simpa [hfa] using ih
    | some b => simpa [hfa] using ih.drop (hf a b ha hfa)

end Without

/-- The declarator gives no name in `R` a value. -/
def Declarator.Outside (R : Text → Prop) (d : Declarator) : Prop := ∀ x, d.name = some x → ¬ R x

/-- The second list of statements is the first without some declarators of names outside `R`. A
statement that is left with nothing to define may go as a whole, an import stays. -/
inductive Trimmed (R : Text → Prop) : List Statement → List Statement → Prop
  | nil : Trimmed R [] []
  | keep {body body' : List Statement} (s : Statement) :
      Trimmed R body body' → Trimmed R (s :: body) (s :: body')
  | declaration {kind : Text} {declarators kept : List Declarator} {body body' : List Statement} :
      Without (Declarator.Outside R) declarators kept → Trimmed R body body' →
      Trimmed R (.declaration ⟨kind, declarators⟩ :: body) (.declaration ⟨kind, kept⟩ :: body')
  | exported {kind : Text} {declarators kept : List Declarator} {body body' : List Statement} :
      Without (Declarator.Outside R) declarators kept → Trimmed R body body' →
      Trimmed R (.exported ⟨kind, declarators⟩ :: body) (.exported ⟨kind, kept⟩ :: body')
  | drop {s : Statement} {body body' : List Statement} :
      s.isImport = false → (∀ d ∈ s.definitions, ¬ R d.1) → Trimmed R body body' →
      Trimmed R (s :: body) body'

namespace Trimmed
variable {R : Text → Prop} {body body' : List Statement}

theorem imports (h : Trimmed R body body') :
    body'.flatMap Statement.imports = body.flatMap Statement.imports := by
  induction h with
  | nil => rfl
  | keep s _ ih => rw [List.flatMap_cons, List.flatMap_cons, ih]
  | declaration _ _ ih => exact ih
  | exported _ _ ih => exact ih
  | @drop s body body' hs _ _ ih =>
    have hnone : s.imports = [] := by
      cases s with
      | importing source specifiers => cases hs
      | _ => rfl
    rw [List.flatMap_cons, hnone, ih]
    rfl

/-- Dropped declarators are dropped definitions. -/
theorem definitions_without {kind : Text} {declarators kept : List Declarator}
    (h : Without (Declarator.Outside R) declarators kept) :
    Without (fun d : Text × Expr => ¬ R d.1) (⟨kind, declarators⟩ : Declaration).definitions
      (⟨kind, kept⟩ : Declaration).definitions := by
  refine h.filterMap fun declarator d hout hd => ?_
  obtain ⟨name, initializer⟩ := declarator
  cases name with
  | none => cases hd
  | some x =>
    cases initializer with
    | none => cases hd
    | some e =>
      cases hd
      exact hout x rfl

theorem definitions (h : Trimmed R body body') :
    Without (fun d => ¬ R d.1) (body.flatMap Statement.definitions)
      (body'.flatMap Statement.definitions) := by
  induction h with
  | nil => exact .nil
  | keep s _ ih => exact (Without.refl _).append ih
  | declaration hkept _ ih => exact (definitions_without hkept).append ih
  | exported hkept _ ih => exact (definitions_without hkept).append ih
  | drop _ hs _ ih => exact (Without.nil_of_all hs).append ih

end Trimmed

namespace Table.AgreeOn
variable {R : Text → Prop} {table table' : Table} {x : Text}

/-- A write of the same value, or of any value outside of `R`. -/
theorem put (h : AgreeOn R table table') {v w : Value} (hv : R x → v = w) :
    AgreeOn R (Bindings.put x v table) (Bindings.put x w table') := by
  intro y hy
  by_cases hyx : y = x
  · rw [hyx, valueOf?_put_self, valueOf?_put_self, hv (hyx ▸ hy)]
  · rw [valueOf?_put_of_ne hyx, valueOf?_put_of_ne hyx, h y hy]

theorem put_outside (h : AgreeOn R table table') (hx : ¬ R x) (v : Value) :
    AgreeOn R (Bindings.put x v table) table' := by
  intro y hy
  have hyx : y ≠ x := fun heq => hx (heq ▸ hy)
  rw [valueOf?_put_of_ne hyx, h y hy]

/-- The same writes on both sides, of values that do not depend on the tables. -/
theorem putAll {α : Type} (h : AgreeOn R table table') (key : α → Text) (value : α → Value)
    (items : List α) :
    AgreeOn R (Bindings.putAll key (fun _ => value) items table)
      (Bindings.putAll key (fun _ => value) items table') := by
  induction items generalizing table table' with
  | nil => exact h
  | cons a rest ih => exact ih (h.put fun _ => rfl)

/-- Definitions of names in `R` look up names in `R`, so they are evaluated as before when others
are left out. -/
theorem define {definitions kept : List (Text × Expr)}
    (hkept : Without (fun d => ¬ R d.1) definitions kept)
    (hclosed : ∀ d ∈ definitions, R d.1 → ∀ x ∈ d.2.initializerReads, R x)
    (h : AgreeOn R table table') :
    AgreeOn R (Table.define definitions table) (Table.define kept table') := by
  induction hkept generalizing table table' with
  | nil => exact h
  | keep d _ ih =>
    refine ih (fun d' hd' => hclosed d' (List.mem_cons_of_mem _ hd')) (h.put fun hd => ?_)
    exact Expr.extract_congr (h.mono (hclosed d List.mem_cons_self hd))
  | drop hd _ ih =>
    exact ih (fun d' hd' => hclosed d' (List.mem_cons_of_mem _ hd')) (h.put_outside hd _)

end Table.AgreeOn

namespace Module

/-- The names that an expression needs in a file: those that it looks up, and those that are looked
up for a definition of a name that it needs. It is the least such set, so most can be dropped by
it. -/
inductive Needed (m : Module) (e : Expr) : Text → Prop
  | read {x : Text} : x ∈ e.reads → Needed m e x
  | definition {x y : Text} {initializer : Expr} :
      Needed m e y → (y, initializer) ∈ m.definitions → x ∈ initializer.initializerReads →
      Needed m e x

/-- Only names in `R` are needed where `R` holds what is read, and what is looked up for its own
definitions. -/
theorem Needed.of_closed {m : Module} {e : Expr} {R : Text → Prop} (hread : ∀ x ∈ e.reads, R x)
    (hclosed : ∀ d ∈ m.definitions, R d.1 → ∀ x ∈ d.2.initializerReads, R x) {x : Text}
    (h : m.Needed e x) : R x := by
  induction h with
  | read hx => exact hread _ hx
  | definition _ hd hx ih => exact hclosed _ hd ih _ hx

/-- Declarations that an expression does not need can be dropped, any number of them: the expression
resolves to the same text, with the same unresolved parts, whether imports are chased or not and
whatever was imported before. -/
theorem resolve_eq_of_trimmed {m m' : Module} {e : Expr}
    (h : Trimmed (m.Needed e) m.body m'.body) (access : FileAccess) (options : ImportOptions)
    (importer : Option Text) (s : Session) :
    e.resolve (m'.tableWithImports access options importer s).1 =
      e.resolve (m.tableWithImports access options importer s).1 := by
  have hpending : m'.pending = m.pending := h.imports
  have hdeclared : Table.AgreeOn (m.Needed e) m.declared m'.declared := by
    rw [declared_eq, declared_eq]
    refine Table.AgreeOn.define h.definitions (fun d hd hneeded x hx => ?_) fun _ _ => rfl
    exact .definition hneeded hd hx
  have htable := hdeclared.putAll Pending.binding
    (fun p => p.value access options importer s) m.pending
  rw [tableWithImports_fst, tableWithImports_fst, hpending]
  exact (Expr.resolve_congr (htable.mono fun x hx => .read hx)).symm

end Module

/-- A constant, a table of classes one of which is made of it, and two more constants: `spare` is
the first one again, `last` is the table. -/
def spareFile : Module :=
  ⟨[.declaration ⟨text "const", [⟨some (text "base"), some (.string (text "p-1"))⟩,
      ⟨some (text "spare"), some (.template [[], []] [.name (text "base")])⟩]⟩,
    .declaration ⟨text "const", [⟨some (text "sizes"), some (.object
      [(.name (text "sm"), .template [[], text " m-1"] [.name (text "base")])])⟩]⟩,
    .exported ⟨text "const", [⟨some (text "last"), some (.name (text "sizes"))⟩]⟩],
    text "/a.tsx", 0⟩

def sparedFile : Module :=
  ⟨[.declaration ⟨text "const", [⟨some (text "base"), some (.string (text "p-1"))⟩]⟩,
    .declaration ⟨text "const", [⟨some (text "sizes"), some (.object
      [(.name (text "sm"), .template [[], text " m-1"] [.name (text "base")])])⟩]⟩],
    text "/a.tsx", 0⟩

def smallSize : Expr := .member (.name (text "sizes")) (.name (text "sm"))

theorem sparedFile_resolves_smallSize :
    spareFile.Needed smallSize (text "base") ∧
    Trimmed (spareFile.Needed smallSize) spareFile.body sparedFile.body ∧
    smallSize.resolve (sparedFile.tableWithImports .empty {} none {}).1 =
      smallSize.resolve (spareFile.tableWithImports .empty {} none {}).1 ∧
    smallSize.resolve (spareFile.tableWithImports .empty {} none {}).1 =
      .known (text "p-1 m-1") := by
  have hbase : spareFile.Needed smallSize (text "base") :=
    .definition (.read (x := text "sizes") (by decide)) (.tail _ (.tail _ (.head _))) (by decide)
  have hneeded {x : Text} (h : spareFile.Needed smallSize x) :
      x ∈ [text "base", text "sizes"] :=
    h.of_closed (R := (· ∈ [text "base", text "sizes"])) (by decide) (by decide)
  have hspare : ¬ spareFile.Needed smallSize (text "spare") :=
    fun h => absurd (hneeded h) (by decide)
  have hlast : ¬ spareFile.Needed smallSize (text "last") :=
    fun h => absurd (hneeded h) (by decide)
  have htrimmed : Trimmed (spareFile.Needed smallSize) spareFile.body sparedFile.body := by
    refine .declaration (.keep _ (.drop ?_ .nil)) (.keep _ (.drop rfl ?_ .nil))
    · rintro x ⟨⟩
      exact hspare
    · intro d hd
      obtain rfl := List.mem_singleton.mp hd
      exact hlast
  exact ⟨hbase, htrimmed, Module.resolve_eq_of_trimmed htrimmed _ _ _ _, rfl⟩

end StateCoverage
