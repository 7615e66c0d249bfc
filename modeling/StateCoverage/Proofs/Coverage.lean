import StateCoverage.Coverage
import StateCoverage.Proofs.Import.Value

/-!
Component files that are read one after the other in one session. What one of them gives depends on
the others only by the tables that imports see, and those stay as they are.
-/
namespace StateCoverage

/-- An answer whose value has a known image is no error. -/
theorem exists_ok_of_map_toOption {ε α β : Type} {answer : Except ε α} {f : α → β} {b : β}
    (h : answer.toOption.map f = some b) : ∃ a, answer = .ok a ∧ f a = b := by
  cases answer with
  | error e => cases h
  | ok a => exact ⟨a, rfl, Option.some.inj h⟩

/-- The result depends on the session only by the tables that imports see, and these are left as
they are. -/
structure Steady {α : Type} (access : FileAccess) (f : Session → α × Session) : Prop where
  fst_congr : ∀ {s s' : Session}, (∀ path, s.tableOf? access path = s'.tableOf? access path) →
    (f s).1 = (f s').1
  tableOf? : ∀ (s : Session) path, (f s).2.tableOf? access path = s.tableOf? access path

namespace Steady
variable {access : FileAccess} {α β : Type}

theorem const (a : α) : Steady access fun s => (a, s) := ⟨fun _ => rfl, fun _ _ => rfl⟩

theorem map {f : Session → α × Session} (hf : Steady access f) (g : α → β) :
    Steady access fun s => (g (f s).1, (f s).2) :=
  ⟨fun h => congrArg g (hf.fst_congr h), hf.tableOf?⟩

end Steady

namespace ParsedFile
variable (access : FileAccess) (options : ResolverOptions) (path : Text) (file : ParsedFile)

theorem steady_table : Steady access (file.table access options path) := by
  unfold table
  cases file.module path with
  | error e => exact .const _
  | ok m =>
    constructor
    · intro s s' h
      exact congrArg Except.ok (m.tableWithImports_fst_congr access options.toImportOptions _ h)
    · exact m.tableOf?_tableWithImports access options.toImportOptions _

/-- The elements of a file are read alike in every session, and the same events are added. -/
theorem exists_readElements {α : Type}
    (read : Syntax → Except Markup.NamelessAttribute (α × List Event)) :
    ∃ answer events, ∀ s : Session,
      file.readElements read s = (answer, { s with events := s.events ++ events }) := by
  unfold readElements
  cases (Markup.elements file.root).mapM read with
  | error e => exact ⟨.error .namelessAttribute, [], fun s => by rw [List.append_nil]⟩
  | ok found => exact ⟨_, found.flatMap (·.2), fun _ => rfl⟩

/-- A reading of a component file: what is read in every element with the table of the file, what is
made of it, and what is reported of that. -/
def reading {α β : Type}
    (read : Table → Syntax → Except Markup.NamelessAttribute (α × List Event))
    (finish : List α → β) (report : β → Event) (s : Session) : Except CoverageError β × Session :=
  match file.table access options path s with
  | (.error e, s) => (.error (.resolution e), s)
  | (.ok table, s) =>
    match file.readElements (read table) s with
    | (.error e, s) => (.error e, s)
    | (.ok found, s) => (.ok (finish found), s.record (report (finish found)))

theorem steady_reading {α β : Type}
    (read : Table → Syntax → Except Markup.NamelessAttribute (α × List Event))
    (finish : List α → β) (report : β → Event) :
    Steady access (file.reading access options path read finish report) := by
  have htable := file.steady_table access options path
  constructor
  · intro s s' h
    have hsame := htable.fst_congr h
    unfold reading
    generalize file.table access options path s = made at hsame ⊢
    generalize file.table access options path s' = made' at hsame ⊢
    obtain ⟨made, s₁⟩ := made
    obtain ⟨made', s₁'⟩ := made'
    obtain rfl : made = made' := hsame
    cases made with
    | error e => rfl
    | ok table =>
      obtain ⟨answer, events, heq⟩ := file.exists_readElements (read table)
      dsimp only
      rw [heq, heq]
      cases answer <;> rfl
  · intro s p
    have hkept := htable.tableOf? s p
    unfold reading
    generalize file.table access options path s = made at hkept ⊢
    obtain ⟨made, s₁⟩ := made
    cases made with
    | error e => exact hkept
    | ok table =>
      obtain ⟨answer, events, heq⟩ := file.exists_readElements (read table)
      dsimp only
      rw [heq]
      cases answer <;> exact hkept

theorem classAttributes_eq :
    file.classAttributes access options path =
      file.reading access options path
        (fun table => Markup.elementClasses file.source table options.attributeNames) List.flatten
        fun found => .classAttributesExtracted path found.length
          (found.countP fun a => !a.result.isComplete) := by
  funext s
  unfold classAttributes reading
  generalize file.table access options path s = made
  obtain ⟨made, s₁⟩ := made
  cases made with
  | error e => rfl
  | ok table =>
    dsimp only
    generalize file.readElements _ s₁ = answer
    obtain ⟨answer, s₂⟩ := answer
    cases answer <;> rfl

theorem interactiveElements_eq :
    file.interactiveElements access options path =
      file.reading access options path
        (fun table => Markup.classify file.source table options.attributeNames)
        (List.filterMap id) fun found => .interactiveElementsExtracted path found.length := by
  funext s
  unfold interactiveElements reading
  generalize file.table access options path s = made
  obtain ⟨made, s₁⟩ := made
  cases made with
  | error e => rfl
  | ok table =>
    dsimp only
    generalize file.readElements _ s₁ = answer
    obtain ⟨answer, s₂⟩ := answer
    cases answer <;> rfl

end ParsedFile

theorem Coverage.steady_ofText {α : Type} {access : FileAccess} {reading : Coverage.Reading α}
    (h : ∀ file, Steady access (reading file)) (path content : Text) :
    Steady access (Coverage.ofText reading path content) := by
  unfold Coverage.ofText
  cases ParsedFile.ofText path [] content with
  | error e => exact .const _
  | ok file => exact h file

end StateCoverage
