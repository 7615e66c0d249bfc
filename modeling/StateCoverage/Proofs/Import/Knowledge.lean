import StateCoverage.Proofs.Expr.Knowledge
import StateCoverage.Proofs.Import.Value
import StateCoverage.Proofs.Table

/-!
What chasing imports adds to the table of a file. It binds the same names; a value changes only
where an import binds the name, and only from nothing to something.
-/
namespace StateCoverage
open Bindings

namespace Module
variable (access : FileAccess) (options : ImportOptions) (importer : Option Text) (m : Module)
  (s : Session)

/-- Bound to their values, imports are above what they are when left unresolved. -/
theorem table_beside :
    Beside Value.Below m.table (m.tableWithImports access options importer s).1 := by
  have hrefl : Beside Value.Below m.declared m.declared :=
    List.forall₂_same.mpr fun p _ => ⟨rfl, Value.Below.refl p.2⟩
  rw [table_eq, tableWithImports_fst]
  exact hrefl.putAll (fun _ _ _ => .unresolved _) m.pending

theorem valueOf?_tableWithImports {k : Text} (hk : k ∉ m.pending.map (·.binding)) :
    valueOf? k (m.tableWithImports access options importer s).1 = valueOf? k m.table := by
  rw [tableWithImports_fst, table_eq, valueOf?_putAll_of_not_mem hk, valueOf?_putAll_of_not_mem hk]

end Module

/-- More knowledge never hurts: against a better table an expression has no new unresolved part and
all of its text. Chasing imports gives a better table, with the same names and the same values for
all that is not imported, and so a better outcome. No name is repeated in it; a table without
repeated names is better when its names include the others in order, with better values. -/
theorem imports_only_add_knowledge :
    (∀ (table table' : Table) (e : Expr), Under Value.Below table table' →
      (e.resolve table').unresolved.Sublist (e.resolve table).unresolved ∧
      ((e.resolve table).isComplete = true → (e.resolve table').isComplete = true) ∧
      (e.resolve table).text.Sublist (e.resolve table').text) ∧
    (∀ (m : Module) (access : FileAccess) (options : ImportOptions) (importer : Option Text)
        (s : Session),
      Under Value.Below (m.tableWithImports access options none s).1
        (m.tableWithImports access options importer s).1 ∧
      names (m.tableWithImports access options importer s).1 =
        names (m.tableWithImports access options none s).1 ∧
      (names (m.tableWithImports access options none s).1).Nodup ∧
      (∀ k, k ∉ m.pending.map (·.binding) →
        valueOf? k (m.tableWithImports access options importer s).1 =
          valueOf? k (m.tableWithImports access options none s).1) ∧
      ∀ e : Expr,
        (e.resolve (m.tableWithImports access options importer s).1).unresolved.Sublist
          (e.resolve (m.tableWithImports access options none s).1).unresolved ∧
        (e.resolve (m.tableWithImports access options none s).1).text.Sublist
          (e.resolve (m.tableWithImports access options importer s).1).text) ∧
    ∀ table table' : Table, (names table).Nodup → (names table').Nodup →
      (Under Value.Below table table' ↔ (names table).Sublist (names table') ∧
        ∀ k v w, valueOf? k table = some v → valueOf? k table' = some w → v.Below w) := by
  refine ⟨fun table table' e h => ?_, fun m access options importer s => ?_, ?_⟩
  · have hbelow := Expr.resolve_below h e
    exact ⟨hbelow.1, hbelow.isComplete, hbelow.2⟩
  · have hoff : (m.tableWithImports access options none s).1 = m.table := rfl
    have hbeside := m.table_beside access options importer s
    rw [hoff]
    refine ⟨hbeside.under, hbeside.names_eq.symm, m.nodup_table, fun k hk => ?_, fun e => ?_⟩
    · exact m.valueOf?_tableWithImports access options importer s hk
    · exact Expr.resolve_below hbeside.under e
  · exact fun table table' h h' => under_iff_of_nodup h h'

def fewSizes : Table := [(text "sizes", .object [(text "sm", .string (text "p-1"))])]

def moreSizes : Table :=
  [(text "sizes", .object [(text "sm", .string (text "p-1")), (text "lg", .string (text "p-2"))])]

def sizeClass : Expr := .index (.name (text "sizes")) (.name (text "size"))

def sizesUser : Module :=
  ⟨[.importing (text "./sizes") [⟨text "sizes", text "default"⟩]], text "/a.tsx", 0⟩

theorem moreSizes_add_knowledge :
    Under Value.Below fewSizes moreSizes ∧
    (sizeClass.resolve fewSizes).isComplete = true ∧
    ((sizeClass.resolve moreSizes).unresolved.Sublist (sizeClass.resolve fewSizes).unresolved ∧
      (sizeClass.resolve moreSizes).isComplete = true ∧
      (sizeClass.resolve fewSizes).text.Sublist (sizeClass.resolve moreSizes).text) ∧
    text "size" ∉ sizesUser.pending.map (·.binding) ∧
    valueOf? (text "size") (sizesUser.tableWithImports ⟨fun _ => true, fun _ => .ok [], text "/"⟩ {}
        (some (text "/a.tsx")) {}).1 =
      valueOf? (text "size")
        (sizesUser.tableWithImports ⟨fun _ => true, fun _ => .ok [], text "/"⟩ {} none {}).1 ∧
    (names fewSizes).Nodup ∧ (names moreSizes).Nodup ∧
    (Under Value.Below fewSizes moreSizes ↔ (names fewSizes).Sublist (names moreSizes) ∧
      ∀ k v w, valueOf? k fewSizes = some v → valueOf? k moreSizes = some w → v.Below w) := by
  have hlg : text "lg" ∉ names ([] : Bindings Value) := by simp [names]
  have h : Under Value.Below fewSizes moreSizes :=
    .both (.object (.both (.string _) (.skip hlg .nil))) .nil
  have hc : (sizeClass.resolve fewSizes).isComplete = true := by decide
  have hk : text "size" ∉ sizesUser.pending.map (·.binding) := by decide
  have hn : (names fewSizes).Nodup := by decide
  have hn' : (names moreSizes).Nodup := by decide
  obtain ⟨hmore, hchase, horder⟩ := imports_only_add_knowledge
  obtain ⟨hun, hcomplete, htext⟩ := hmore fewSizes moreSizes sizeClass h
  exact ⟨h, hc, ⟨hun, hcomplete hc, htext⟩, hk, (hchase sizesUser _ _ _ _).2.2.2.1 _ hk, hn, hn',
    horder _ _ hn hn'⟩

end StateCoverage
