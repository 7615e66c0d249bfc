import StateCoverage.Proofs.Import.Value
import StateCoverage.Proofs.Table

/-!
What the table of a file holds, name by name: the last import of a name, or else its last
definition, evaluated against the definitions before it. Where the imports stand among the other
statements does not matter.
-/
namespace StateCoverage
open Bindings

/-- Statements that bring nothing can be left out. -/
theorem flatMap_filter_of_eq_nil {α : Type} {f : Statement → List α} {p : Statement → Bool}
    (h : ∀ s, p s = false → f s = []) (body : List Statement) :
    (body.filter p).flatMap f = body.flatMap f := by
  induction body with
  | nil => rfl
  | cons s rest ih =>
    cases hs : p s with
    | false => simp [hs, h s hs, ih]
    | true => simp [hs, ih]

def Statement.isImport : Statement → Bool
  | importing .. => true
  | _ => false

namespace Module
variable (m : Module)

theorem pending_eq_filter :
    m.pending = (m.body.filter Statement.isImport).flatMap Statement.imports := by
  refine (flatMap_filter_of_eq_nil (fun s hs => ?_) m.body).symm
  cases s with
  | importing source specifiers => cases hs
  | _ => rfl

theorem definitions_eq_filter :
    m.definitions = (m.body.filter fun s => !s.isImport).flatMap Statement.definitions := by
  refine (flatMap_filter_of_eq_nil (fun s hs => ?_) m.body).symm
  cases s with
  | importing source specifiers => rfl
  | _ => cases hs

/-- The table needs no more of a file than its imports and what it declares. -/
theorem tableWithImports_congr_declared {m m' : Module} (hpending : m.pending = m'.pending)
    (hdeclared : m.declared = m'.declared) (access : FileAccess) (options : ImportOptions)
    (importer : Option Text) (s : Session) :
    m.tableWithImports access options importer s =
      m'.tableWithImports access options importer s := by
  have htable : m.table = m'.table := by rw [table_eq, table_eq, hpending, hdeclared]
  unfold tableWithImports
  rw [hpending, hdeclared, htable]

theorem tableWithImports_congr {m m' : Module} (hpending : m.pending = m'.pending)
    (hdefinitions : m.definitions = m'.definitions) (access : FileAccess) (options : ImportOptions)
    (importer : Option Text) (s : Session) :
    m.tableWithImports access options importer s =
      m'.tableWithImports access options importer s :=
  tableWithImports_congr_declared hpending (by rw [declared_eq, declared_eq, hdefinitions]) access
    options importer s

/-- The last definition of a name counts, and it sees those before it. -/
theorem valueOf?_declared {before after : List (Text × Expr)} {x : Text} {e : Expr}
    (h : m.definitions = before ++ (x, e) :: after) (hx : x ∉ after.map Prod.fst) :
    valueOf? x m.declared = some (e.extract (Table.define before [])) := by
  rw [declared_eq, h]
  exact @valueOf?_putAll_last _ _ Prod.fst _ before after (x, e) hx []

variable (access : FileAccess) (options : ImportOptions) (importer : Option Text) (s : Session)

/-- The table of a file, name by name. A name that is imported holds what its last import gives, and
nothing is known of it where imports are not chased or that import fails, whatever is declared
under the name. Another one that is defined holds its last definition, evaluated in the table of the
definitions before it; imports are not visible there. Names stand in the order in which they are
first defined, and then first imported. So imports can stand anywhere among the other statements. -/
theorem tableWithImports_contents :
    (∀ x,
      (∃ before p after, m.pending = before ++ p :: after ∧ p.binding = x ∧
        x ∉ after.map Pending.binding ∧
        valueOf? x (m.tableWithImports access options importer s).1 =
          some (p.value access options importer s)) ∨
      (x ∉ m.pending.map Pending.binding ∧
        ∃ before e after, m.definitions = before ++ (x, e) :: after ∧ x ∉ after.map Prod.fst ∧
          valueOf? x (m.tableWithImports access options importer s).1 =
            some (e.extract (Table.define before []))) ∨
      (x ∉ m.pending.map Pending.binding ∧ x ∉ m.definitions.map Prod.fst ∧
        valueOf? x (m.tableWithImports access options importer s).1 = none)) ∧
    names (m.tableWithImports access options importer s).1 =
      (m.definitions.map Prod.fst ++ m.pending.map Pending.binding).eraseDups ∧
    ∀ m' : Module, m'.body.filter Statement.isImport = m.body.filter Statement.isImport →
      (m'.body.filter fun s => !s.isImport) = (m.body.filter fun s => !s.isImport) →
      m'.tableWithImports access options importer s =
        m.tableWithImports access options importer s := by
  refine ⟨fun x => ?_, ?_, fun m' himports hothers => ?_⟩
  · rw [tableWithImports_fst]
    by_cases himported : x ∈ m.pending.map Pending.binding
    · obtain ⟨before, p, after, heq, rfl, hlast⟩ := exists_last_write himported
      refine .inl ⟨before, p, after, heq, rfl, hlast, ?_⟩
      rw [heq]
      exact valueOf?_putAll_last hlast m.declared
    · rw [valueOf?_putAll_of_not_mem himported]
      by_cases hdefined : x ∈ m.definitions.map Prod.fst
      · obtain ⟨before, ⟨x, e⟩, after, heq, rfl, hlast⟩ := exists_last_write hdefined
        exact .inr (.inl ⟨himported, before, e, after, heq, hlast,
          m.valueOf?_declared heq hlast⟩)
      · refine .inr (.inr ⟨himported, hdefined, ?_⟩)
        rw [declared_eq]
        exact valueOf?_putAll_of_not_mem hdefined []
  · have hdeclared : names m.declared = (m.definitions.map Prod.fst).eraseDups := by
      have hnil : names ([] : Table) = ([] : List Text).eraseDups := rfl
      rw [declared_eq]
      exact names_putAll hnil
    rw [tableWithImports_fst]
    exact names_putAll hdeclared
  · apply tableWithImports_congr
    · rw [pending_eq_filter, pending_eq_filter, himports]
    · rw [definitions_eq_filter, definitions_eq_filter, hothers]

end Module

def resizedFile : Module :=
  ⟨[.declaration ⟨text "const", [⟨some (text "size"), some (.string (text "p-1"))⟩]⟩,
    .exportDefault (.template [text "flex ", []] [.name (text "size")]),
    .importing (text "./sizes") [⟨text "size", text "lg"⟩]], text "/a/b.tsx", 0⟩

def importFirstFile : Module :=
  ⟨[.importing (text "./sizes") [⟨text "size", text "lg"⟩],
    .declaration ⟨text "const", [⟨some (text "size"), some (.string (text "p-1"))⟩]⟩,
    .exportDefault (.template [text "flex ", []] [.name (text "size")])], text "/a/b.tsx", 0⟩

theorem importFirstFile_contents :
    importFirstFile.body.filter Statement.isImport =
      resizedFile.body.filter Statement.isImport ∧
    (importFirstFile.body.filter fun s => !s.isImport) =
      (resizedFile.body.filter fun s => !s.isImport) ∧
    importFirstFile.tableWithImports .empty {} none {} =
      resizedFile.tableWithImports .empty {} none {} ∧
    -- The default export sees the declared size, the finished table does not hold it.
    valueOf? (text "default")
        (importFirstFile.tableWithImports .empty {} none {}).1 =
      some (.string (text "flex p-1")) ∧
    valueOf? (text "size")
        (importFirstFile.tableWithImports .empty {} none {}).1 =
      some .unresolved := by
  obtain ⟨-, -, hmoved⟩ :=
    resizedFile.tableWithImports_contents .empty {} none {}
  exact ⟨rfl, rfl, hmoved importFirstFile rfl rfl, rfl, rfl⟩

end StateCoverage
