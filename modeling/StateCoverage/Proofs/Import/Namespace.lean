import StateCoverage.Proofs.Expr.Substitution
import StateCoverage.Proofs.Import.Keys

/-!
Two ways to import one binding: by its name, or as a property of all that its module exports. An
expression that uses the one resolves like the same expression with the other.
-/
namespace StateCoverage
open Bindings

def Session.NoRepeats (s : Session) : Prop :=
  ∀ path table, s.cached? path = some table → (names table).Nodup

/-- The tables of modules are such. -/
theorem Import.Run.noRepeats_after (access : FileAccess) (steps : List Import.Step) :
    (after access steps).session.NoRepeats :=
  holdsOnly_after Module.nodup_table access steps

theorem Session.NoRepeats.tableOf? {access : FileAccess} {s : Session} (hs : s.NoRepeats)
    {path : Text} {table : Table} (ht : s.tableOf? access path = some table) :
    (names table).Nodup :=
  Session.HoldsOnly.tableOf? Module.nodup_table hs ht

namespace Import
variable {table : Table} {exported : Text}

theorem exported?_of_ne (h : exported ≠ text "*") :
    exported? table exported = valueOf? exported table := if_neg h

theorem exported?_all :
    exported? table (text "*") = some (.object (table.filter fun p => !p.2.isUnresolved)) :=
  if_pos rfl

end Import

/-- The last import of its binding in a file. -/
def Module.LastImport (m : Module) (p : Pending) : Prop :=
  ∃ before after, m.pending = before ++ p :: after ∧ p.binding ∉ after.map Pending.binding

section Namespace
variable (access : FileAccess) (options : ImportOptions) (importer : Option Text) {m : Module}
  {s : Session} {x all exported source : Text}

theorem Module.LastImport.valueOf? {p : Pending} (h : m.LastImport p) :
    valueOf? p.binding (m.tableWithImports access options importer s).1 =
      some (p.value access options importer s) := by
  obtain ⟨before, after, heq, hlast⟩ := h
  rw [tableWithImports_fst, heq]
  exact valueOf?_putAll_last hlast m.declared

/-- Two imports from one module: both have it, and then as much is known of the binding as of the
property of all that the module exports, or nothing is known of either. -/
theorem Pending.known?_value (x all source : Text) (hs : s.NoRepeats)
    (hx : exported ≠ text "*") :
    (∃ properties,
      (⟨all, text "*", source⟩ : Pending).value access options importer s = .object properties ∧
      Value.known? (Bindings.valueOf? exported properties) =
        Value.known? (some ((⟨x, exported, source⟩ : Pending).value access options importer s))) ∨
    ((⟨all, text "*", source⟩ : Pending).value access options importer s = .unresolved ∧
      (⟨x, exported, source⟩ : Pending).value access options importer s = .unresolved) := by
  cases importer with
  | none => exact .inr ⟨rfl, rfl⟩
  | some path =>
    simp only [value, Import.resolve_fst_eq, Import.exported?_of_ne hx, Import.exported?_all]
    cases (Import.locate access.isFile options path source access.cwd).1 with
    | none => exact .inr ⟨rfl, rfl⟩
    | some file =>
      cases ht : s.tableOf? access file with
      | none => exact .inr ⟨by simp [ht], by simp [ht]⟩
      | some table =>
        refine .inl ⟨table.filter fun p => !p.2.isUnresolved, by simp [ht], ?_⟩
        rw [valueOf?_filter (hs.tableOf? ht) fun v => !v.isUnresolved]
        -- What is dropped from the object is unresolved under its own name.
        cases hv : Bindings.valueOf? exported table with
        | none => simp [ht, hv]
        | some v => cases v <;> simp [ht, hv, Value.known?, Value.isUnresolved]

/-- An import by name and an import of everything agree. Where a file imports a binding of a module
as `x`, and all of the same module as `all`, `all.exported` can be written for `x` in any
expression: it resolves to the same text, it is complete as before, and as many parts of it stay
unresolved. It does not matter whether the module is found, read and parsed, nor what it binds. -/
theorem Module.namespace_access_agrees (hs : s.NoRepeats) (hx : exported ≠ text "*")
    (hname : m.LastImport ⟨x, exported, source⟩) (hall : m.LastImport ⟨all, text "*", source⟩)
    (reworded : Text → Text) (e : Expr) :
    ((Expr.substitute x (.member (.name all) (.name exported)) reworded e).resolve
        (m.tableWithImports access options importer s).1).text =
      (e.resolve (m.tableWithImports access options importer s).1).text ∧
    ((Expr.substitute x (.member (.name all) (.name exported)) reworded e).resolve
        (m.tableWithImports access options importer s).1).isComplete =
      (e.resolve (m.tableWithImports access options importer s).1).isComplete ∧
    ((Expr.substitute x (.member (.name all) (.name exported)) reworded e).resolve
        (m.tableWithImports access options importer s).1).unresolved.length =
      (e.resolve (m.tableWithImports access options importer s).1).unresolved.length := by
  have hxv := hname.valueOf? access options importer (s := s)
  have hallv := hall.valueOf? access options importer (s := s)
  have hstands : Expr.StandsFor (m.tableWithImports access options importer s).1
      (.member (.name all) (.name exported)) x := by
    apply Expr.standsFor_member
    rw [hxv, hallv]
    obtain ⟨properties, ho, hk⟩ | ⟨ho, hk⟩ :=
      Pending.known?_value access options importer x all source hs hx
    · exact .inl ⟨properties, congrArg some ho, hk⟩
    · exact .inr ⟨congrArg some ho, congrArg some hk⟩
  have halike := hstands.resolve_substitute reworded e
  exact ⟨halike.text, halike.isComplete, halike.count⟩

end Namespace

def sizesTwice : Module :=
  ⟨[.importing (text "./sizes") [⟨text "md", text "sm"⟩, ⟨text "sizes", text "*"⟩]],
    text "/a/b.tsx", 0⟩

/-- A session in which the sizes are read already, and one of them is not known. -/
def sizesRead : Session :=
  { cache := [(text "/a/sizes.ts", [(text "sm", .string (text "p-1")), (text "lg", .unresolved)])] }

def sizesAccess : FileAccess :=
  { isFile path := path = text "/a/sizes.ts", read _ := .error [] }

def trimmedSize : Expr :=
  .template [text "flex ", []] [.call (.member (.name (text "md")) (.name (text "trim"))) []]

theorem sizesTwice_agrees :
    sizesRead.NoRepeats ∧ text "sm" ≠ text "*" ∧
    sizesTwice.LastImport ⟨text "md", text "sm", text "./sizes"⟩ ∧
    sizesTwice.LastImport ⟨text "sizes", text "*", text "./sizes"⟩ ∧
    ((Expr.substitute (text "md") (.member (.name (text "sizes")) (.name (text "sm"))) id
          trimmedSize).resolve
        (sizesTwice.tableWithImports sizesAccess {}
          (some (text "/a/b.tsx")) sizesRead).1).text =
      (trimmedSize.resolve
        (sizesTwice.tableWithImports sizesAccess {}
          (some (text "/a/b.tsx")) sizesRead).1).text ∧
    (trimmedSize.resolve
      (sizesTwice.tableWithImports sizesAccess {}
        (some (text "/a/b.tsx")) sizesRead).1).text = text "flex p-1" := by
  have hs : sizesRead.NoRepeats := by
    intro path table hc
    have hmem : table = [(text "sm", .string (text "p-1")), (text "lg", .unresolved)] := by
      simp only [sizesRead, Session.cached?, valueOf?] at hc
      split at hc
      · exact (Option.some.inj hc).symm
      · cases hc
    rw [hmem]
    decide
  have hsm : text "sm" ≠ text "*" := by decide
  have hname : sizesTwice.LastImport ⟨text "md", text "sm", text "./sizes"⟩ :=
    ⟨[], [⟨text "sizes", text "*", text "./sizes"⟩], rfl, by decide⟩
  have hall : sizesTwice.LastImport ⟨text "sizes", text "*", text "./sizes"⟩ :=
    ⟨[⟨text "md", text "sm", text "./sizes"⟩], [], rfl, by decide⟩
  exact ⟨hs, hsm, hname, hall,
    (Module.namespace_access_agrees _ _ _ hs hsm hname hall id trimmedSize).1, by decide⟩

end StateCoverage
