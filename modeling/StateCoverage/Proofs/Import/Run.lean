import StateCoverage.Proofs.Import.Attempt

/-!
Runs with one cache. Between any two steps of a run, whatever becomes of the files, a module is kept
exactly when an attempt on it since the last clearing gave a table, and its table is the first one.
-/
namespace StateCoverage
open Bindings

namespace Import
variable (access : FileAccess) (options : ImportOptions) (importer : Text)

/-- An import changes the session by its attempt, probes and events apart. -/
theorem resolve_session (specifier exported : Text) (s : Session) :
    ∃ probes events, (resolve access options importer specifier exported s).2 =
      { s.attemptAll (attempt? access options importer specifier).toList with
        probes := probes, events := events } := by
  unfold resolve outcome attempt?
  obtain ⟨found, probes⟩ := locate access.isFile options importer specifier access.cwd
  cases found with
  | none => exact ⟨s.probes ++ probes, _, rfl⟩
  | some path =>
    dsimp only
    obtain ⟨events, hs⟩ :=
      Session.getOrBuild_readTable_snd access path { s with probes := s.probes ++ probes }
    have hframe := Session.attempt_frame (s.probes ++ probes) s.events s ⟨path, access.read path⟩
    rw [hframe] at hs
    generalize Session.getOrBuild path (readTable access path)
      { s with probes := s.probes ++ probes } = result at hs ⊢
    obtain ⟨built, s'⟩ := result
    obtain rfl : s' = _ := hs
    refine ⟨s.probes ++ probes, ?_⟩
    cases built with
    | error e => exact ⟨_, rfl⟩
    | ok table =>
      dsimp only
      cases exported? table exported with
      | none => exact ⟨_, rfl⟩
      | some value => exact ⟨_, rfl⟩

theorem resolvePending_session (pending : List Pending) (table : Table) (s : Session) :
    ∃ probes events, (resolvePending access options importer pending table s).2 =
      { s.attemptAll (pending.filterMap fun p => attempt? access options importer p.source) with
        probes := probes, events := events } := by
  induction pending generalizing table s with
  | nil => exact ⟨s.probes, s.events, rfl⟩
  | cons p rest ih =>
    obtain ⟨probes, events, hs⟩ := resolve_session access options importer p.source p.exported s
    rw [resolvePending]
    dsimp only
    obtain ⟨probes', events', hrest⟩ := ih
      (put p.binding
        ((resolve access options importer p.source p.exported s).1.getD .unresolved) table)
      (resolve access options importer p.source p.exported s).2
    refine ⟨probes', events', ?_⟩
    rw [hrest, hs, Session.attemptAll_frame]
    have happ : (p :: rest).filterMap (fun p => attempt? access options importer p.source) =
        (attempt? access options importer p.source).toList ++
          rest.filterMap fun p => attempt? access options importer p.source := by
      cases h : attempt? access options importer p.source <;> simp [h]
    rw [happ, Session.attemptAll, Session.attemptAll, Session.attemptAll, List.foldl_append]

end Import

namespace Import
variable {access : FileAccess} {options : ImportOptions} {importer specifier path : Text}
  {s : Session}

theorem resolve_session_of_locate
    (hl : (locate access.isFile options importer specifier access.cwd).1 = some path)
    (exported : Text) (s : Session) :
    ∃ probes events, (resolve access options importer specifier exported s).2 =
      { s.attempt ⟨path, access.read path⟩ with probes := probes, events := events } := by
  have ha : attempt? access options importer specifier = some ⟨path, access.read path⟩ := by
    rw [attempt?, hl]
    rfl
  have hs := resolve_session access options importer specifier exported s
  rwa [ha] at hs

/-- A kept module is not read again. -/
theorem resolve_of_cached
    (hl : (locate access.isFile options importer specifier access.cwd).1 = some path)
    (hc : (s.cached? path).isSome = true) (exported : Text) :
    (resolve access options importer specifier exported s).2.cache = s.cache ∧
      (resolve access options importer specifier exported s).2.reads = s.reads := by
  obtain ⟨table, hc⟩ := Option.isSome_iff_exists.mp hc
  obtain ⟨probes, events, hs⟩ := resolve_session_of_locate hl exported s
  rw [hs]
  exact ⟨Session.cache_attempt_of_some hc, Session.reads_attempt_of_some hc⟩

/-- A failed attempt has no value and leaves no trace but its read. -/
theorem resolve_of_fails
    (hl : (locate access.isFile options importer specifier access.cwd).1 = some path)
    (hc : s.cached? path = none) (hf : (⟨path, access.read path⟩ : Attempt).fails = true)
    (exported : Text) :
    (resolve access options importer specifier exported s).1 = none ∧
      (resolve access options importer specifier exported s).2.cache = s.cache ∧
      (resolve access options importer specifier exported s).2.reads = s.reads ++ [path] ∧
      (resolve access options importer specifier exported s).2.building =
        s.building.filter (· ≠ path) := by
  have hvalue : (resolve access options importer specifier exported s).1 = none := by
    unfold resolve outcome
    generalize locate access.isFile options importer specifier access.cwd = located at hl ⊢
    obtain ⟨found, probes⟩ := located
    obtain rfl : found = some path := hl
    dsimp only
    obtain ⟨e, he⟩ := Session.getOrBuild_readTable_fst access path
      { s with probes := s.probes ++ probes } hc hf
    generalize Session.getOrBuild path (readTable access path)
      { s with probes := s.probes ++ probes } = result at he ⊢
    obtain ⟨built, s'⟩ := result
    obtain rfl : built = .error e := he
    rfl
  obtain ⟨probes, events, hs⟩ := resolve_session_of_locate hl exported s
  refine ⟨hvalue, ?_⟩
  rw [hs]
  refine ⟨Session.cache_attempt_of_fails hf, Session.reads_attempt_of_none hc, ?_⟩
  exact Session.building_attempt_of_none hc

end Import

open Import (Attempt)

namespace Module

/-- The attempts that the imports of a file make, if they are chased. -/
def attempts (access : FileAccess) (options : ImportOptions) (importer : Option Text) (m : Module) :
    List Attempt :=
  match importer with
  | none => []
  | some path => m.pending.filterMap fun p => Import.attempt? access options path p.source

theorem tableWithImports_session (access : FileAccess) (options : ImportOptions)
    (importer : Option Text) (m : Module) (s : Session) :
    ∃ probes events, (m.tableWithImports access options importer s).2 =
      { s.attemptAll (m.attempts access options importer) with
        probes := probes, events := events } := by
  unfold tableWithImports attempts
  cases importer with
  | none => exact ⟨s.probes, s.events, rfl⟩
  | some path =>
    cases hp : m.pending with
    | nil => exact ⟨s.probes, s.events, rfl⟩
    | cons first rest =>
      dsimp only
      obtain ⟨probes, events, hs⟩ :=
        Import.resolvePending_session access options path (first :: rest) m.declared s
      rw [hs]
      exact ⟨probes, _, rfl⟩

end Module

namespace Import

/-- A step of a run: the files change in any way, something is imported, a table is built, or the
cache is cleared. -/
inductive Step where
  | edit (access : FileAccess)
  | resolve (options : ImportOptions) (importer specifier exported : Text)
  | table (options : ImportOptions) (importer : Option Text) (m : Module)
  | clear

/-- A state of a run, with what happened so far: the attempts since the last clearing, and the reads
before it. -/
structure Run where
  access : FileAccess
  session : Session := {}
  attempts : List Attempt := []
  earlierReads : List Text := []

namespace Run

def step (r : Run) : Step → Run
  | .edit access => { r with access := access }
  | .resolve options importer specifier exported =>
    { r with
      session := (Import.resolve r.access options importer specifier exported r.session).2
      attempts := r.attempts ++ (Import.attempt? r.access options importer specifier).toList }
  | .table options importer m =>
    { r with
      session := (m.tableWithImports r.access options importer r.session).2
      attempts := r.attempts ++ m.attempts r.access options importer }
  | .clear =>
    { r with session := r.session.clear, attempts := [], earlierReads := r.session.reads }

def after (access : FileAccess) (steps : List Step) : Run := steps.foldl step { access := access }

def attemptsOn (path : Text) (r : Run) : List Attempt := r.attempts.filter (·.path = path)

end Run

end Import

/-- What a session holds after these attempts, with reads before them: of each path the first table
that one of its attempts gave, read by that attempt and by those before it. -/
structure Session.Follows (attempts : List Attempt) (earlier : List Text) (s : Session) : Prop where
  building : s.building = []
  cached (path : Text) :
    s.cached? path = (attempts.filter (·.path = path)).findSome? Attempt.table?
  reads : ∃ reads, s.reads = earlier ++ reads ∧ ∀ path, reads.count path =
    ((attempts.filter (·.path = path)).takeWhile Attempt.fails).length +
      if (s.cached? path).isSome then 1 else 0

namespace Session
variable {attempts : List Attempt} {earlier : List Text} {s : Session}

/-- A new session follows no attempts. -/
theorem follows_new : Follows [] [] {} :=
  ⟨rfl, fun _ => rfl, [], rfl, fun _ => rfl⟩

theorem follows_clear (s : Session) : Follows [] s.reads s.clear :=
  ⟨rfl, fun _ => rfl, [], (List.append_nil _).symm, fun _ => rfl⟩

theorem Follows.frame (h : Follows attempts earlier s) (probes : List Text) (events : List Event) :
    Follows attempts earlier { s with probes := probes, events := events } :=
  ⟨h.building, h.cached, h.reads⟩

theorem Follows.attempt (h : Follows attempts earlier s) (a : Attempt) :
    Follows (attempts ++ [a]) earlier (s.attempt a) := by
  have hcached : ∀ path, (s.attempt a).cached? path =
      ((attempts ++ [a]).filter (·.path = path)).findSome? Attempt.table? := by
    intro path
    rw [cached?_attempt, List.filter_append, List.findSome?_append, ← h.cached path]
    by_cases hp : a.path = path
    · simp [hp]
    · simp [hp]
  refine ⟨building_attempt h.building a, hcached, ?_⟩
  obtain ⟨reads, hreads, hcount⟩ := h.reads
  cases hc : s.cached? a.path with
  | some table =>
    refine ⟨reads, by rw [reads_attempt_of_some hc, hreads], fun path => ?_⟩
    rw [hcount, List.filter_append, cached?_attempt]
    by_cases hp : a.path = path
    · have hfirst : (attempts.filter (·.path = path)).findSome? Attempt.table? = some table := by
        rw [← h.cached, ← hp, hc]
      have hon : [a].filter (·.path = path) = [a] := by simp [hp]
      rw [hon, Attempt.takeWhile_fails_append_of_some hfirst, if_pos hp, ← hp, hc]
      rfl
    · have hon : [a].filter (·.path = path) = [] := by simp [hp]
      rw [hon, List.append_nil, if_neg hp]
  | none =>
    refine ⟨reads ++ [a.path], by rw [reads_attempt_of_none hc, hreads, List.append_assoc],
      fun path => ?_⟩
    rw [List.count_append, hcount, List.filter_append, cached?_attempt]
    by_cases hp : a.path = path
    · have hnone : (attempts.filter (·.path = path)).findSome? Attempt.table? = none := by
        rw [← h.cached, ← hp, hc]
      have hon : [a].filter (·.path = path) = [a] := by simp [hp]
      rw [hon, Attempt.takeWhile_fails_append_of_none hnone, Attempt.takeWhile_fails_of_none hnone,
        if_pos hp, ← hp, hc]
      cases ht : a.table? with
      | none => simp [Attempt.fails, ht]
      | some table => simp [Attempt.fails, ht]
    · have hon : [a].filter (·.path = path) = [] := by simp [hp]
      rw [hon, List.append_nil, if_neg hp]
      simp [hp]

theorem Follows.attemptAll (h : Follows attempts earlier s) (more : List Attempt) :
    Follows (attempts ++ more) earlier (s.attemptAll more) := by
  induction more generalizing attempts s with
  | nil => simpa [Session.attemptAll] using h
  | cons a rest ih =>
    have hnext := ih (h.attempt a)
    rwa [List.append_assoc, List.singleton_append] at hnext

end Session

namespace Import.Run

/-- Every step keeps the session in line with the attempts. -/
theorem follows_step {r : Run} (h : r.session.Follows r.attempts r.earlierReads) (step : Step) :
    (r.step step).session.Follows (r.step step).attempts (r.step step).earlierReads := by
  cases step with
  | edit access => exact h
  | resolve options importer specifier exported =>
    obtain ⟨probes, events, hs⟩ :=
      Import.resolve_session r.access options importer specifier exported r.session
    dsimp only [Run.step]
    rw [hs]
    exact (h.attemptAll _).frame probes events
  | table options importer m =>
    obtain ⟨probes, events, hs⟩ := m.tableWithImports_session r.access options importer r.session
    dsimp only [Run.step]
    rw [hs]
    exact (h.attemptAll _).frame probes events
  | clear => exact Session.follows_clear r.session

theorem follows_foldl {r : Run} (h : r.session.Follows r.attempts r.earlierReads)
    (steps : List Step) :
    (steps.foldl step r).session.Follows (steps.foldl step r).attempts
      (steps.foldl step r).earlierReads := by
  induction steps generalizing r with
  | nil => exact h
  | cons step rest ih => exact ih (follows_step h step)

/-- So does every run. -/
theorem follows_after (access : FileAccess) (steps : List Step) :
    (after access steps).session.Follows (after access steps).attempts
      (after access steps).earlierReads :=
  follows_foldl Session.follows_new steps

/-- In every state of every run: a module is kept exactly when an attempt since the last clearing
gave a table, and the first such table is kept; it was read by that attempt and by the failed ones
before. Nothing is left half built. An import of a kept module reads nothing, and a failed one keeps
nothing, whatever the session. -/
theorem cache_after_run (access : FileAccess) (steps : List Step) (path : Text) :
    (∀ table, (after access steps).session.cached? path = some table ↔
      ∃ failed content m later,
        (after access steps).attemptsOn path = failed ++ ⟨path, .ok content⟩ :: later ∧
        (∀ a ∈ failed, a.fails = true) ∧ Module.ofText path [] content = .ok m ∧
        table = m.table) ∧
    (∃ reads, (after access steps).session.reads = (after access steps).earlierReads ++ reads ∧
      reads.count path =
        (((after access steps).attemptsOn path).takeWhile Attempt.fails).length +
          if ((after access steps).session.cached? path).isSome then 1 else 0) ∧
    (after access steps).session.building = [] ∧
    ∀ files options importer specifier exported s,
      (Import.locate files.isFile options importer specifier files.cwd).1 = some path →
      ((s.cached? path).isSome = true →
        (Import.resolve files options importer specifier exported s).2.cache = s.cache ∧
        (Import.resolve files options importer specifier exported s).2.reads = s.reads) ∧
      (s.cached? path = none →
        ((∃ reason, files.read path = .error reason) ∨
          ∃ content e, files.read path = .ok content ∧ Module.ofText path [] content = .error e) →
        (Import.resolve files options importer specifier exported s).1 = none ∧
        (Import.resolve files options importer specifier exported s).2.cache = s.cache ∧
        (Import.resolve files options importer specifier exported s).2.reads = s.reads ++ [path] ∧
        (Import.resolve files options importer specifier exported s).2.building =
          s.building.filter (· ≠ path)) := by
  have h := follows_after access steps
  refine ⟨fun table => ?_, ?_, h.building, ?_⟩
  · have hon : ∀ a ∈ (after access steps).attemptsOn path, a.path = path := by
      intro a ha
      simpa using (List.mem_filter.mp ha).2
    rw [h.cached path, List.findSome?_eq_some_iff]
    constructor
    · intro hex
      obtain ⟨failed, a, later, heq, ht, hfailed⟩ := hex
      obtain ⟨content, m, hanswer, hm, htable⟩ := Attempt.table?_eq_some_iff.mp ht
      have hpath : a.path = path := hon a (by rw [attemptsOn, heq]; simp)
      obtain ⟨apath, answer⟩ := a
      obtain rfl : apath = path := hpath
      obtain rfl : answer = .ok content := hanswer
      exact ⟨failed, content, m, later, heq, fun b hb => by simp [Attempt.fails, hfailed b hb],
        hm, htable⟩
    · intro hex
      obtain ⟨failed, content, m, later, heq, hfailed, hm, htable⟩ := hex
      refine ⟨failed, ⟨path, .ok content⟩, later, heq, ?_, fun b hb => ?_⟩
      · exact Attempt.table?_eq_some_iff.mpr ⟨content, m, rfl, hm, htable⟩
      · simpa [Attempt.fails] using hfailed b hb
  · obtain ⟨reads, hreads, hcount⟩ := h.reads
    exact ⟨reads, hreads, hcount path⟩
  · intro files options importer specifier exported s hl
    refine ⟨fun hc => Import.resolve_of_cached hl hc exported, fun hc hcause => ?_⟩
    exact Import.resolve_of_fails hl hc (Attempt.fails_iff.mpr hcause) exported

def lostFile : FileAccess :=
  { isFile path := path = text "/a/c.ts", read _ := .error (text "gone") }

theorem cache_after_lost_file :
    (Import.locate lostFile.isFile {} (text "/a/b.ts") (text "./c") lostFile.cwd).1 =
      some (text "/a/c.ts") ∧
    (({ cache := [(text "/a/c.ts", [])] } : Session).cached? (text "/a/c.ts")).isSome = true ∧
    (Import.resolve lostFile {} (text "/a/b.ts") (text "./c") (text "size")
      { cache := [(text "/a/c.ts", [])] }).2.reads = [] ∧
    ({} : Session).cached? (text "/a/c.ts") = none ∧
    lostFile.read (text "/a/c.ts") = .error (text "gone") ∧
    (Import.resolve lostFile {} (text "/a/b.ts") (text "./c") (text "size") {}).1 = none ∧
    (Import.resolve lostFile {} (text "/a/b.ts") (text "./c") (text "size") {}).2.cache = [] := by
  have hl : (Import.locate lostFile.isFile {} (text "/a/b.ts") (text "./c") lostFile.cwd).1 =
      some (text "/a/c.ts") := by decide
  have hc : (({ cache := [(text "/a/c.ts", [])] } : Session).cached?
      (text "/a/c.ts")).isSome = true := by decide
  obtain ⟨-, -, -, h⟩ := cache_after_run lostFile [] (text "/a/c.ts")
  have hkept := (h lostFile {} _ _ (text "size") { cache := [(text "/a/c.ts", [])] } hl).1 hc
  have hfailed := (h lostFile {} _ _ (text "size") {} hl).2 rfl (.inl ⟨_, rfl⟩)
  exact ⟨hl, hc, hkept.2, rfl, rfl, hfailed.1, hfailed.2.1⟩

end Import.Run

end StateCoverage
