import StateCoverage.Expr.Resolve

/-!
The bindings of one file. Declarations are evaluated in source order, each against those before
it; imports come last, so that no declaration depends on whether an import is found.
-/
namespace StateCoverage

structure Pending where
  binding : Text
  exported : Text
  source : Text

namespace Declaration

/-- The declared values, written onto a table. Only plain names with an initializer are bound. -/
def bind (table : Table) (d : Declaration) : Table :=
  d.declarators.foldl (fun table declarator =>
    match declarator.name, declarator.initializer with
    | some name, some initializer => Bindings.put name (initializer.extract table) table
    | _, _ => table) table

end Declaration

namespace Statement

def bind (table : Table) : Statement → Table
  | declaration d => d.bind table
  | exported d => d.bind table
  | exportDefault e => Bindings.put (text "default") (e.extract table) table
  | importing .. => table

def imports : Statement → List Pending
  | importing source specifiers => specifiers.map fun s => ⟨s.binding, s.exported, source⟩
  | _ => []

end Statement

namespace Module

def declared (m : Module) : Table := m.body.foldl Statement.bind []

def pending (m : Module) : List Pending := m.body.flatMap Statement.imports

def table (m : Module) : Table :=
  m.pending.foldl (fun table p => Bindings.put p.binding .unresolved table) m.declared

end Module

end StateCoverage
