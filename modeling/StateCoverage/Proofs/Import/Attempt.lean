import StateCoverage.Import.Session
import StateCoverage.Proofs.Bindings
import Mathlib.Data.List.TakeWhile

/-!
Attempts to import a module. What a session keeps depends on the attempts only: the first one that
gives a table is kept, and until then each of them reads the file.
-/
namespace StateCoverage
open Bindings

namespace Import

/-- An import that found a file, with what reading the file gives at that time. -/
structure Attempt where
  path : Text
  answer : Except Text Text

namespace Attempt

def table? (a : Attempt) : Option Table :=
  match a.answer with
  | .error _ => none
  | .ok content =>
    match Module.ofText a.path [] content with
    | .error _ => none
    | .ok m => some m.table

def fails (a : Attempt) : Bool := a.table?.isNone

def result (a : Attempt) : Except ResolutionError Module :=
  match a.answer with
  | .error reason => .error (.readFailed a.path reason)
  | .ok content => Module.ofText a.path [] content

theorem table?_of_ok {a : Attempt} {m : Module} (h : a.result = .ok m) :
    a.table? = some m.table := by
  unfold result at h
  unfold table?
  cases hr : a.answer with
  | error reason => simp [hr] at h
  | ok content =>
    rw [hr] at h
    dsimp only at h ⊢
    rw [h]

theorem table?_of_error {a : Attempt} {e : ResolutionError} (h : a.result = .error e) :
    a.table? = none := by
  unfold result at h
  unfold table?
  cases hr : a.answer with
  | error reason => rfl
  | ok content =>
    rw [hr] at h
    dsimp only at h ⊢
    rw [h]

theorem table?_eq_some_iff {a : Attempt} {table : Table} :
    a.table? = some table ↔
      ∃ content m, a.answer = .ok content ∧ Module.ofText a.path [] content = .ok m ∧
        table = m.table := by
  unfold table?
  cases a.answer with
  | error reason => simp
  | ok content =>
    cases hm : Module.ofText a.path [] content with
    | error e => simp [hm]
    | ok m => simp [hm, eq_comm]

theorem fails_iff {a : Attempt} :
    a.fails = true ↔ (∃ reason, a.answer = .error reason) ∨
      ∃ content e, a.answer = .ok content ∧ Module.ofText a.path [] content = .error e := by
  unfold fails table?
  cases a.answer with
  | error reason => simp
  | ok content =>
    cases hm : Module.ofText a.path [] content with
    | error e => simp [hm]
    | ok m => simp [hm]

section First
variable {attempts : List Attempt} {a : Attempt}

/-- Before the first success comes the same, whatever is attempted afterwards. -/
theorem takeWhile_fails_append_of_some {table : Table}
    (h : attempts.findSome? table? = some table) :
    (attempts ++ [a]).takeWhile fails = attempts.takeWhile fails := by
  rw [List.takeWhile_append, if_neg]
  intro hlen
  have hall : ∀ b ∈ attempts, b.fails = true := by
    have heq : attempts.takeWhile fails = attempts :=
      (List.takeWhile_prefix fails).eq_of_length hlen
    exact List.takeWhile_eq_self_iff.mp heq
  obtain ⟨b, hb, ht⟩ := List.exists_of_findSome?_eq_some h
  have hf := hall b hb
  simp [fails, ht] at hf

theorem takeWhile_fails_of_none (h : attempts.findSome? table? = none) :
    attempts.takeWhile fails = attempts := by
  apply List.takeWhile_eq_self_iff.mpr
  intro b hb
  have hn : b.table? = none := List.findSome?_eq_none_iff.mp h b hb
  simp [fails, hn]

theorem takeWhile_fails_append_of_none (h : attempts.findSome? table? = none) :
    (attempts ++ [a]).takeWhile fails = attempts ++ [a].takeWhile fails := by
  have hall := List.takeWhile_eq_self_iff.mp (takeWhile_fails_of_none h)
  exact List.takeWhile_append_of_pos hall

end First

end Attempt

/-- The attempt that an import makes, unless it finds no file. -/
def attempt? (access : FileAccess) (options : ImportOptions) (importer specifier : Text) :
    Option Attempt :=
  (locate access.isFile options importer specifier access.cwd).1.map fun path =>
    ⟨path, access.read path⟩

end Import

namespace Session
open Import (Attempt)

/-- What an attempt does to the kept tables and to the reads. -/
def attempt (a : Attempt) (s : Session) : Session :=
  match s.cached? a.path with
  | some _ => s
  | none =>
    { s with
      cache := match a.table? with
        | some table => put a.path table s.cache
        | none => s.cache
      reads := s.reads ++ [a.path]
      building := s.building.filter (· ≠ a.path) }

def attemptAll (attempts : List Attempt) (s : Session) : Session :=
  attempts.foldl (fun s a => s.attempt a) s

section Frame
variable (probes : List Text) (events : List Event) (s : Session)

/-- Neither the probes nor the events matter to an attempt. -/
theorem attempt_frame (a : Attempt) :
    ({ s with probes := probes, events := events } : Session).attempt a =
      { s.attempt a with probes := probes, events := events } := by
  unfold attempt cached?
  dsimp only
  cases valueOf? a.path s.cache <;> rfl

theorem attemptAll_frame (attempts : List Attempt) :
    ({ s with probes := probes, events := events } : Session).attemptAll attempts =
      { s.attemptAll attempts with probes := probes, events := events } := by
  induction attempts generalizing s with
  | nil => rfl
  | cons a rest ih =>
    unfold attemptAll at ih ⊢
    rw [List.foldl_cons, List.foldl_cons, attempt_frame, ih]

end Frame

section Effect
variable {a : Attempt} {s : Session} {path : Text}

theorem attempt_of_some {table : Table} (hc : s.cached? a.path = some table) : s.attempt a = s := by
  unfold attempt
  rw [hc]

/-- A table is kept for good, and only a first one is taken. -/
theorem cached?_attempt (a : Attempt) (s : Session) (path : Text) :
    (s.attempt a).cached? path =
      if a.path = path then (s.cached? path).or a.table? else s.cached? path := by
  cases hc : s.cached? a.path with
  | some table =>
    rw [attempt_of_some hc]
    by_cases h : a.path = path
    · rw [if_pos h, ← h, hc]
      rfl
    · rw [if_neg h]
  | none =>
    unfold attempt
    rw [hc]
    dsimp only [cached?] at hc ⊢
    by_cases h : a.path = path
    · rw [if_pos h, ← h, hc]
      cases a.table? with
      | none => exact hc
      | some table => exact valueOf?_put_self a.path table s.cache
    · rw [if_neg h]
      cases a.table? with
      | none => rfl
      | some table => exact valueOf?_put_of_ne (Ne.symm h) table s.cache

theorem reads_attempt_of_some {table : Table} (hc : s.cached? a.path = some table) :
    (s.attempt a).reads = s.reads := by
  rw [attempt_of_some hc]

theorem reads_attempt_of_none (hc : s.cached? a.path = none) :
    (s.attempt a).reads = s.reads ++ [a.path] := by
  unfold attempt
  rw [hc]

theorem cache_attempt_of_some {table : Table} (hc : s.cached? a.path = some table) :
    (s.attempt a).cache = s.cache := by
  rw [attempt_of_some hc]

/-- A failure keeps nothing. -/
theorem cache_attempt_of_fails (hf : a.fails = true) : (s.attempt a).cache = s.cache := by
  have ht : a.table? = none := by simpa [Attempt.fails] using hf
  unfold attempt
  cases s.cached? a.path with
  | some table => rfl
  | none =>
    dsimp only
    rw [ht]

theorem probes_attempt (a : Attempt) (s : Session) : (s.attempt a).probes = s.probes := by
  unfold attempt
  cases s.cached? a.path <;> rfl

theorem events_attempt (a : Attempt) (s : Session) : (s.attempt a).events = s.events := by
  unfold attempt
  cases s.cached? a.path <;> rfl

theorem building_attempt (h : s.building = []) (a : Attempt) : (s.attempt a).building = [] := by
  unfold attempt
  cases s.cached? a.path with
  | some table => exact h
  | none => simp [h]

theorem building_attempt_of_none (hc : s.cached? a.path = none) :
    (s.attempt a).building = s.building.filter (· ≠ a.path) := by
  unfold attempt
  rw [hc]

end Effect

theorem filter_building_startBuild (path : Text) (s : Session) :
    (s.startBuild path).building.filter (· ≠ path) = s.building.filter (· ≠ path) := by
  unfold startBuild
  by_cases h : path ∈ s.building
  · simp [h]
  · simp [h, List.filter_append]

section GetOrBuild
variable {access : FileAccess} {path : Text} {s : Session}

theorem getOrBuild_of_some {ε : Type} {table : Table} (hc : s.cached? path = some table)
    (build : Session → Except ε Table × Session) : s.getOrBuild path build = (.ok table, s) := by
  unfold getOrBuild
  rw [hc]

/-- A miss reads the file and keeps its table. -/
theorem getOrBuild_of_ok {m : Module} (hc : s.cached? path = none)
    (hr : (⟨path, access.read path⟩ : Attempt).result = .ok m) :
    s.getOrBuild path (Import.readTable access path) =
      (.ok m.table, (s.attempt ⟨path, access.read path⟩).record (.importParsed path m.errors)) := by
  unfold getOrBuild attempt
  dsimp only
  rw [hc, Attempt.table?_of_ok hr, ← filter_building_startBuild]
  unfold Attempt.result at hr
  unfold Import.readTable
  dsimp only at hr ⊢
  cases ha : access.read path with
  | error reason => simp [ha] at hr
  | ok content =>
    rw [ha] at hr
    dsimp only at hr ⊢
    rw [hr]
    rfl

/-- A miss whose file has no table keeps nothing. -/
theorem getOrBuild_of_error {e : ResolutionError} (hc : s.cached? path = none)
    (hr : (⟨path, access.read path⟩ : Attempt).result = .error e) :
    s.getOrBuild path (Import.readTable access path) =
      (.error e, s.attempt ⟨path, access.read path⟩) := by
  unfold getOrBuild attempt
  dsimp only
  rw [hc, Attempt.table?_of_error hr, ← filter_building_startBuild]
  unfold Attempt.result at hr
  unfold Import.readTable
  dsimp only at hr ⊢
  cases ha : access.read path with
  | error reason =>
    rw [ha] at hr
    cases hr
    rfl
  | ok content =>
    rw [ha] at hr
    dsimp only at hr ⊢
    rw [hr]
    rfl

/-- Looking a table up changes the session by an attempt, events apart. -/
theorem getOrBuild_readTable_snd (access : FileAccess) (path : Text) (s : Session) :
    ∃ events, (s.getOrBuild path (Import.readTable access path)).2 =
      { s.attempt ⟨path, access.read path⟩ with events := events } := by
  cases hc : s.cached? path with
  | some table =>
    have ha : s.attempt ⟨path, access.read path⟩ = s := attempt_of_some hc
    rw [getOrBuild_of_some hc, ha]
    exact ⟨s.events, rfl⟩
  | none =>
    cases hr : (⟨path, access.read path⟩ : Attempt).result with
    | error e =>
      rw [getOrBuild_of_error hc hr]
      exact ⟨_, rfl⟩
    | ok m =>
      rw [getOrBuild_of_ok hc hr]
      exact ⟨_, rfl⟩

/-- A miss whose file gives no table ends in an error. -/
theorem getOrBuild_readTable_fst (access : FileAccess) (path : Text) (s : Session)
    (hc : s.cached? path = none) (hf : (⟨path, access.read path⟩ : Attempt).fails = true) :
    ∃ e, (s.getOrBuild path (Import.readTable access path)).1 = .error e := by
  cases hr : (⟨path, access.read path⟩ : Attempt).result with
  | error e =>
    rw [getOrBuild_of_error hc hr]
    exact ⟨e, rfl⟩
  | ok m => simp [Attempt.fails, Attempt.table?_of_ok hr] at hf

end GetOrBuild

end Session

end StateCoverage
