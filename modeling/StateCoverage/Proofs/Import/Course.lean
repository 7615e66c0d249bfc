import StateCoverage.Proofs.Import.Attempt

/-!
The courses that an import can take: no file is found, the table of the file is kept already, the
file has no table, or its table is new. Whatever is said of an import is said course by course.
-/
namespace StateCoverage.Import
open Bindings

/-- The value of a binding of a module, or the failure that the module does not have it. -/
def pick (path exported : Text) (table : Table) : Except ResolutionError Value :=
  match exported? table exported with
  | some value => .ok value
  | none => .error (.exportMissing path exported)

section
variable (access : FileAccess) (options : ImportOptions) (importer specifier exported : Text)
  (s : Session)

def looked : Session :=
  { s with probes := s.probes ++ (locate access.isFile options importer specifier access.cwd).2 }

theorem outcome_eq :
    outcome access options importer specifier exported s =
      match (locate access.isFile options importer specifier access.cwd).1 with
      | none =>
        (.error (.moduleNotFound specifier importer), looked access options importer specifier s)
      | some path =>
        match (looked access options importer specifier s).getOrBuild path
            (readTable access path) with
        | (.error cause, s) => (.error cause, s)
        | (.ok table, s) => (pick path exported table, s) := by
  unfold outcome looked
  obtain ⟨found, probes⟩ := locate access.isFile options importer specifier access.cwd
  cases found with
  | none => rfl
  | some path =>
    dsimp only
    generalize Session.getOrBuild path (readTable access path)
      { s with probes := s.probes ++ probes } = result
    obtain ⟨built, s'⟩ := result
    cases built with
    | error cause => rfl
    | ok table =>
      unfold pick
      dsimp only
      cases exported? table exported with
      | none => rfl
      | some value => rfl

inductive Course : Prop
  | notFound
    (located : (locate access.isFile options importer specifier access.cwd).1 = none)
    (outcome_eq : outcome access options importer specifier exported s =
      (.error (.moduleNotFound specifier importer), looked access options importer specifier s))
  | kept (path : Text) (table : Table)
    (located : (locate access.isFile options importer specifier access.cwd).1 = some path)
    (cached : s.cached? path = some table)
    (outcome_eq : outcome access options importer specifier exported s =
      (pick path exported table, looked access options importer specifier s))
  | failed (path : Text) (cause : ResolutionError)
    (located : (locate access.isFile options importer specifier access.cwd).1 = some path)
    (cached : s.cached? path = none)
    (result : (⟨path, access.read path⟩ : Attempt).result = .error cause)
    (outcome_eq : outcome access options importer specifier exported s =
      (.error cause,
        (looked access options importer specifier s).attempt ⟨path, access.read path⟩))
  | built (path : Text) (m : Module)
    (located : (locate access.isFile options importer specifier access.cwd).1 = some path)
    (cached : s.cached? path = none)
    (result : (⟨path, access.read path⟩ : Attempt).result = .ok m)
    (outcome_eq : outcome access options importer specifier exported s =
      (pick path exported m.table,
        ((looked access options importer specifier s).attempt ⟨path, access.read path⟩).record
          (.importParsed path m.errors)))

/-- Every import takes one of the courses. -/
theorem course : Course access options importer specifier exported s := by
  have ho := outcome_eq access options importer specifier exported s
  cases hl : (locate access.isFile options importer specifier access.cwd).1 with
  | none =>
    rw [hl] at ho
    exact .notFound hl ho
  | some path =>
    rw [hl] at ho
    dsimp only at ho
    cases hc : s.cached? path with
    | some table =>
      rw [Session.getOrBuild_of_some (s := looked access options importer specifier s) hc] at ho
      exact .kept path table hl hc ho
    | none =>
      have hc' : (looked access options importer specifier s).cached? path = none := hc
      cases hr : (⟨path, access.read path⟩ : Attempt).result with
      | error cause =>
        rw [Session.getOrBuild_of_error hc' hr] at ho
        exact .failed path cause hl hc hr ho
      | ok m =>
        rw [Session.getOrBuild_of_ok hc' hr] at ho
        exact .built path m hl hc hr ho

end

end StateCoverage.Import
