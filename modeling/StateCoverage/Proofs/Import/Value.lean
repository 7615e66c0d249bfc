import StateCoverage.Proofs.Import.Course
import StateCoverage.Proofs.Import.Run

/-!
What an import is bound to. As long as the files stay the same, it is known from the start: others
may come in between, they change only whether a file is read again.
-/
namespace StateCoverage
open Bindings
open Import (Attempt)

namespace Session

/-- The table that an import of a path sees: the kept one, or else the one that the file has. -/
def tableOf? (access : FileAccess) (path : Text) (s : Session) : Option Table :=
  (s.cached? path).or (⟨path, access.read path⟩ : Attempt).table?

variable {access : FileAccess} {path : Text} {s : Session}

theorem tableOf?_of_cached {table : Table} (hc : s.cached? path = some table) :
    s.tableOf? access path = some table := by
  rw [tableOf?, hc]
  rfl

theorem tableOf?_of_error {cause : ResolutionError} (hc : s.cached? path = none)
    (hr : (⟨path, access.read path⟩ : Attempt).result = .error cause) :
    s.tableOf? access path = none := by
  rw [tableOf?, hc, Attempt.table?_of_error hr]
  rfl

theorem tableOf?_of_ok {m : Module} (hc : s.cached? path = none)
    (hr : (⟨path, access.read path⟩ : Attempt).result = .ok m) :
    s.tableOf? access path = some m.table := by
  rw [tableOf?, hc, Attempt.table?_of_ok hr]
  rfl

/-- What an attempt keeps was seen before. -/
theorem tableOf?_attempt {a : Attempt} (ha : a.answer = access.read a.path) (path : Text) :
    (s.attempt a).tableOf? access path = s.tableOf? access path := by
  unfold tableOf?
  rw [cached?_attempt]
  by_cases hp : a.path = path
  · have heq : a = ⟨path, access.read path⟩ := by
      obtain ⟨apath, answer⟩ := a
      dsimp only at hp ha
      rw [ha, hp]
    rw [if_pos hp, ← heq, Option.or_assoc, Option.or_self]
  · rw [if_neg hp]

theorem tableOf?_attemptAll {attempts : List Attempt}
    (h : ∀ a ∈ attempts, a.answer = access.read a.path) (path : Text) :
    (s.attemptAll attempts).tableOf? access path = s.tableOf? access path := by
  induction attempts generalizing s with
  | nil => rfl
  | cons a rest ih =>
    calc
      (s.attemptAll (a :: rest)).tableOf? access path
          = (s.attempt a).tableOf? access path := ih fun b hb => h b (List.mem_cons_of_mem _ hb)
      _ = s.tableOf? access path := tableOf?_attempt (h a List.mem_cons_self) path

end Session

namespace Import
variable (access : FileAccess) (options : ImportOptions) (importer specifier exported : Text)
  (s : Session)

theorem resolve_fst :
    (resolve access options importer specifier exported s).1 =
      (outcome access options importer specifier exported s).1.toOption := by
  unfold resolve
  obtain ⟨ended, s'⟩ := outcome access options importer specifier exported s
  cases ended with
  | error cause => rfl
  | ok value => rfl

theorem pick_toOption (path : Text) (table : Table) :
    (pick path exported table).toOption = exported? table exported := by
  unfold pick
  cases exported? table exported with
  | none => rfl
  | some value => rfl

/-- The value of an import is that of the binding in the table that it sees. -/
theorem resolve_fst_eq :
    (resolve access options importer specifier exported s).1 =
      (locate access.isFile options importer specifier access.cwd).1.bind fun path =>
        (s.tableOf? access path).bind fun table => exported? table exported := by
  rw [resolve_fst]
  cases course access options importer specifier exported s with
  | notFound located ho =>
    rw [ho, located]
    rfl
  | kept path table located cached ho =>
    rw [ho, located, pick_toOption, Option.bind_some, Session.tableOf?_of_cached cached,
      Option.bind_some]
  | failed path cause located cached result ho =>
    rw [ho, located, Option.bind_some, Session.tableOf?_of_error cached result]
    rfl
  | built path m located cached result ho =>
    rw [ho, located, pick_toOption, Option.bind_some, Session.tableOf?_of_ok cached result,
      Option.bind_some]

theorem attempt?_answer {a : Attempt} (h : attempt? access options importer specifier = some a) :
    a.answer = access.read a.path := by
  unfold attempt? at h
  obtain ⟨path, -, rfl⟩ := Option.map_eq_some_iff.mp h
  rfl

/-- An import leaves every later one what it would have seen without it. -/
theorem tableOf?_resolve (path : Text) :
    (resolve access options importer specifier exported s).2.tableOf? access path =
      s.tableOf? access path := by
  obtain ⟨probes, events, hs⟩ := resolve_session access options importer specifier exported s
  rw [hs]
  apply Session.tableOf?_attemptAll
  intro a ha
  exact attempt?_answer access options importer specifier (Option.mem_toList.mp ha)

end Import

/-- What a pending import is bound to, if it is resolved in this session; nothing is known of it
where imports are not chased. -/
def Pending.value (access : FileAccess) (options : ImportOptions) (importer : Option Text)
    (s : Session) (p : Pending) : Value :=
  match importer with
  | none => .unresolved
  | some path => (Import.resolve access options path p.source p.exported s).1.getD .unresolved

section Congr
variable {access : FileAccess} {s s' : Session}

/-- Only what is seen of the files matters to an import. -/
theorem Pending.value_congr (h : ∀ path, s.tableOf? access path = s'.tableOf? access path)
    (options : ImportOptions) (importer : Option Text) (p : Pending) :
    p.value access options importer s = p.value access options importer s' := by
  cases importer with
  | none => rfl
  | some path =>
    unfold value
    dsimp only
    simp only [Import.resolve_fst_eq, h]

end Congr

variable (access : FileAccess) (options : ImportOptions)

theorem Import.resolvePending_fst (importer : Text) (pending : List Pending) (table : Table)
    (s : Session) :
    (resolvePending access options importer pending table s).1 =
      putAll Pending.binding (fun _ p => p.value access options (some importer) s) pending
        table := by
  induction pending generalizing table s with
  | nil => rfl
  | cons p rest ih =>
    rw [resolvePending, ih]
    -- The imports behind `p` see in the session that it leaves what they saw before it.
    have hrest (q : Pending) :
        q.value access options (some importer)
            (resolve access options importer p.source p.exported s).2 =
          q.value access options (some importer) s :=
      q.value_congr (tableOf?_resolve access options importer p.source p.exported s) _ _
    simp only [hrest]
    rfl

namespace Module
variable (importer : Option Text) (m : Module) (s : Session)

/-- The table of a file: what it declares, and then every import, each as if it came first. -/
theorem tableWithImports_fst :
    (m.tableWithImports access options importer s).1 =
      putAll Pending.binding (fun _ p => p.value access options importer s) m.pending
        m.declared := by
  unfold tableWithImports
  cases importer with
  | none => rfl
  | some path =>
    cases hp : m.pending with
    | nil =>
      dsimp only
      rw [table, hp]
      rfl
    | cons first rest =>
      dsimp only
      rw [Import.resolvePending_fst]

/-- The table that is made of a file shows only what its imports see. -/
theorem tableWithImports_fst_congr {s s' : Session}
    (h : ∀ path, s.tableOf? access path = s'.tableOf? access path) :
    (m.tableWithImports access options importer s).1 =
      (m.tableWithImports access options importer s').1 := by
  have hvalue (p : Pending) :
      p.value access options importer s = p.value access options importer s' :=
    p.value_congr h options importer
  rw [tableWithImports_fst, tableWithImports_fst]
  simp only [hvalue]

theorem tableOf?_tableWithImports (path : Text) :
    (m.tableWithImports access options importer s).2.tableOf? access path =
      s.tableOf? access path := by
  obtain ⟨probes, events, hs⟩ := m.tableWithImports_session access options importer s
  rw [hs]
  apply Session.tableOf?_attemptAll
  intro a ha
  unfold attempts at ha
  cases importer with
  | none => cases ha
  | some importing =>
    obtain ⟨p, -, hp⟩ := List.mem_filterMap.mp ha
    exact Import.attempt?_answer access options importing p.source hp

end Module

end StateCoverage
