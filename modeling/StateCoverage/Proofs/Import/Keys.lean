import StateCoverage.Proofs.Expr.Literal
import StateCoverage.Proofs.Import.Value
import StateCoverage.Proofs.Table

/-!
What holds of the table of every module holds of every table that an import sees. So no table that
is made of a file binds a name twice, and no object in it a key.
-/
namespace StateCoverage
open Bindings

/-- All tables in the cache are as `P` says. -/
def Session.HoldsOnly (P : Table → Prop) (s : Session) : Prop :=
  ∀ path table, s.cached? path = some table → P table

section HoldsOnly
variable {P : Table → Prop} (hP : ∀ m : Module, P m.table)
include hP

theorem Session.HoldsOnly.tableOf? {access : FileAccess} {s : Session} (hs : s.HoldsOnly P)
    {path : Text} {table : Table} (ht : s.tableOf? access path = some table) : P table := by
  obtain hc | ⟨-, ha⟩ := Option.or_eq_some_iff.mp ht
  · exact hs path table hc
  · obtain ⟨content, m, -, -, rfl⟩ := Import.Attempt.table?_eq_some_iff.mp ha
    exact hP m

theorem Import.Run.holdsOnly_after (access : FileAccess) (steps : List Import.Step) :
    (after access steps).session.HoldsOnly P := by
  intro path table hc
  rw [(follows_after access steps).cached path] at hc
  obtain ⟨a, -, ha⟩ := List.exists_of_findSome?_eq_some hc
  obtain ⟨content, m, -, -, rfl⟩ := Attempt.table?_eq_some_iff.mp ha
  exact hP m

end HoldsOnly

theorem Table.KeyedOnce.putAll {β : Type} {key : β → Text} {value : Table → β → Value}
    {items : List β} {table : Table} (h : table.KeyedOnce)
    (hvalue : ∀ b ∈ items, ∀ table, (value table b).KeyedOnce) :
    Table.KeyedOnce (Bindings.putAll key value items table) := by
  obtain ⟨hnames, hvalues⟩ := Value.keyedOnce_object_iff.mp h
  exact .object (nodup_names_putAll hnames) (forall_putAll hvalues hvalue)

namespace Module

theorem keyedOnce_declared (m : Module) : m.declared.KeyedOnce := by
  have hnil : Table.KeyedOnce [] := .object List.nodup_nil (List.forall_mem_nil _)
  rw [declared_eq]
  exact hnil.putAll fun d _ table => Expr.keyedOnce_extract table d.2

theorem keyedOnce_table (m : Module) : m.table.KeyedOnce :=
  m.keyedOnce_declared.putAll fun _ _ _ => .unresolved

end Module

theorem Import.keyedOnce_of_exported? {table : Table} {name : Text} {v : Value}
    (h : table.KeyedOnce) (hv : exported? table name = some v) : v.KeyedOnce := by
  obtain ⟨hnames, hvalues⟩ := Value.keyedOnce_object_iff.mp h
  unfold exported? at hv
  split at hv
  · obtain rfl := Option.some.inj hv
    refine .object ?_ fun p hp => hvalues p (List.mem_of_mem_filter hp)
    exact hnames.sublist (List.filter_sublist.map Prod.fst)
  · exact hvalues (name, v) (mem_of_valueOf? hv)

section Tables
variable {access : FileAccess} {s : Session} (hs : s.HoldsOnly Table.KeyedOnce)
include hs

theorem Pending.keyedOnce_value (options : ImportOptions) (importer : Option Text) (p : Pending) :
    (p.value access options importer s).KeyedOnce := by
  cases importer with
  | none => exact .unresolved
  | some path =>
    simp only [value, Import.resolve_fst_eq]
    cases (Import.locate access.isFile options path p.source access.cwd).1 with
    | none => exact .unresolved
    | some file =>
      cases ht : s.tableOf? access file with
      | none => simpa [ht] using .unresolved
      | some table =>
        have hkeyed := hs.tableOf? Module.keyedOnce_table ht
        cases hv : Import.exported? table p.exported with
        | none => simpa [ht, hv] using .unresolved
        | some v => simpa [ht, hv] using Import.keyedOnce_of_exported? hkeyed hv

/-- No table of a file binds a name twice, nor an object in it a key. -/
theorem Module.keyedOnce_tableWithImports (options : ImportOptions) (importer : Option Text)
    (m : Module) : (m.tableWithImports access options importer s).1.KeyedOnce := by
  rw [tableWithImports_fst]
  exact m.keyedOnce_declared.putAll fun p _ _ => p.keyedOnce_value hs options importer

end Tables

/-- This goes for every file of a run, whatever was read and changed before. -/
theorem Import.Run.keyedOnce_tableWithImports (access : FileAccess) (steps : List Import.Step)
    (options : ImportOptions) (importer : Option Text) (m : Module) :
    (m.tableWithImports (after access steps).access options importer
      (after access steps).session).1.KeyedOnce :=
  m.keyedOnce_tableWithImports (holdsOnly_after Module.keyedOnce_table access steps) options
    importer

end StateCoverage
