import StateCoverage.Proofs.Bindings
import StateCoverage.Table

/-!
The declarations of a file as one list of definitions. The bindings that need no other file are what
these definitions write, each evaluated against those before it; no name is bound twice.
-/
namespace StateCoverage
open Bindings

/-- The names that a declaration gives an initializer, with it. Patterns define nothing. -/
def Declaration.definitions (d : Declaration) : List (Text × Expr) :=
  d.declarators.filterMap fun declarator =>
    match declarator.name, declarator.initializer with
    | some name, some initializer => some (name, initializer)
    | _, _ => none

/-- The names that a statement defines by itself. -/
def Statement.definitions : Statement → List (Text × Expr)
  | declaration d => d.definitions
  | exported d => d.definitions
  | exportDefault e => [(text "default", e)]
  | importing .. => []

def Module.definitions (m : Module) : List (Text × Expr) := m.body.flatMap Statement.definitions

/-- Definitions written onto a table, each evaluated in the table that it is written onto. -/
def Table.define (definitions : List (Text × Expr)) (table : Table) : Table :=
  putAll Prod.fst (fun table d => d.2.extract table) definitions table

theorem Declaration.bind_eq (table : Table) (d : Declaration) :
    d.bind table = Table.define d.definitions table := by
  unfold bind definitions
  induction d.declarators generalizing table with
  | nil => rfl
  | cons declarator rest ih =>
    obtain ⟨name, initializer⟩ := declarator
    cases name with
    | none => exact ih table
    | some x =>
      cases initializer with
      | none => exact ih table
      | some e => exact ih (put x (e.extract table) table)

theorem Statement.bind_eq (table : Table) (s : Statement) :
    s.bind table = Table.define s.definitions table := by
  cases s with
  | declaration d => exact d.bind_eq table
  | exported d => exact d.bind_eq table
  | exportDefault e => rfl
  | importing source specifiers => rfl

namespace Module

theorem declared_eq (m : Module) : m.declared = Table.define m.definitions [] := by
  have hfold : ∀ table : Table, m.body.foldl Statement.bind table =
      Table.define (m.body.flatMap Statement.definitions) table := by
    induction m.body with
    | nil => exact fun table => rfl
    | cons s rest ih =>
      intro table
      rw [List.foldl_cons, ih, s.bind_eq, List.flatMap_cons]
      exact (putAll_append s.definitions _ table).symm
  exact hfold []

theorem table_eq (m : Module) :
    m.table = putAll Pending.binding (fun _ _ => .unresolved) m.pending m.declared := rfl

theorem nodup_declared (m : Module) : (names m.declared).Nodup := by
  rw [declared_eq]
  exact nodup_names_putAll List.nodup_nil

theorem nodup_table (m : Module) : (names m.table).Nodup :=
  nodup_names_putAll m.nodup_declared

/-- Nothing is known of what a file imports while its own imports are not chased. -/
theorem valueOf?_table_of_mem {m : Module} {k : Text} (hk : k ∈ m.pending.map Pending.binding) :
    valueOf? k m.table = some .unresolved := by
  obtain ⟨before, p, after, heq, rfl, hafter⟩ := exists_last_write hk
  rw [table_eq, heq]
  exact valueOf?_putAll_last hafter m.declared

end Module

end StateCoverage
