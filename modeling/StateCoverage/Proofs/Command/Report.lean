import StateCoverage.Proofs.Command.Arguments
import StateCoverage.Proofs.Command.Output
import StateCoverage.Proofs.Coverage

/-!
The report of a run over several component files against the reports of the runs over one of them
each. All of these succeed, and the report holds their records in the order of the files; or nothing
is printed, and the run ends like the first of them that is refused, or else like the first that
fails.
-/
namespace StateCoverage.Command

section Component
variable (w : World) (action : Action) (options : ResolverOptions) (path : Text)

theorem steady_findings (content : Text) :
    Steady w.access (findings action w.access options path content) := by
  cases action with
  | resolve =>
    exact (Coverage.steady_ofText
      (fun file => file.classAttributes_eq _ options path ▸ file.steady_reading _ _ _ _ _ _)
      path content).map fun found => found.map (·.map Finding.classes)
  | elements =>
    exact (Coverage.steady_ofText
      (fun file => file.interactiveElements_eq _ options path ▸ file.steady_reading _ _ _ _ _ _)
      path content).map fun found => found.map (·.map Finding.element)

theorem steady_readComponent : Steady w.access (readComponent w action options path) := by
  unfold readComponent
  cases w.read path with
  | error reason => exact .const _
  | ok content =>
    exact (steady_findings w action options (w.realPath path) content).map
      fun found => found.mapError Failure.ofCoverage

/-- The records of a component file when no other one was read before, or why it gives none. -/
def alone : Except Failure (List Data) :=
  (readComponent w action options path {}).1.map fun found => found.map (·.record (Path.tidy path))

end Component

/-- Imports see in a session what they see in a new one. -/
def LikeNew (w : World) (s : Session) : Prop :=
  ∀ path, s.tableOf? w.access path = ({} : Session).tableOf? w.access path

def listing (records : List Data) : Text := Json.pretty (.list records) ++ text "\n"

section Components
variable {w : World} {r : Request} {c : Config} {s : Session}

/-- One file of a run: it gives what it gives alone, and what is reported of it goes to the outputs
only. -/
theorem readComponents_cons (hjson : r.asJson = true) (hs : LikeNew w s) (path : Text)
    (rest : List Text) (records : List Data) (o : Outcome) :
    ∃ s' looked events, LikeNew w s' ∧
      readComponents w r c (path :: rest) records s o =
        match alone w r.action c.resolver path with
        | .error cause => ((o.consult looked).report c.logging w.time events).fail cause
        | .ok found =>
          readComponents w r c rest (records ++ found) s'
            ((o.consult looked).report c.logging w.time events) := by
  have hsteady := steady_readComponent w r.action c.resolver path
  -- the events and the look-ups that a session remembers are not seen by imports
  have hreset : LikeNew w { s with events := [], probes := [], reads := [] } := hs
  have hfound := hsteady.fst_congr hreset
  have hkept := hsteady.tableOf? { s with events := [], probes := [], reads := [] }
  rw [readComponents]
  generalize readComponent w r.action c.resolver path _ = read at hfound hkept ⊢
  obtain ⟨found, s'⟩ := read
  refine ⟨s', s'.probes ++ s'.reads, s'.events, fun path => (hkept path).trans (hs path), ?_⟩
  rw [alone, ← hfound]
  cases found with
  | error cause => rfl
  | ok found => simp only [hjson, if_true]; rfl

/-- Files that all give something alone, one after the other. -/
theorem readComponents_of_ok (hjson : r.asJson = true) (hspares : c.logging.SparesStdout)
    {found : Text → List Data} {paths : List Text}
    (halone : ∀ path ∈ paths, alone w r.action c.resolver path = .ok (found path))
    (hs : LikeNew w s) (records : List Data) (o : Outcome) :
    (readComponents w r c paths records s o).ending = o.ending ∧
      (readComponents w r c paths records s o).stdout =
        o.stdout ++ listing (records ++ paths.flatMap found) := by
  induction paths generalizing s records o with
  | nil =>
    simp only [readComponents, hjson, if_true, List.flatMap_nil, List.append_nil]
    exact ⟨rfl, rfl⟩
  | cons path rest ih =>
    obtain ⟨hpath, hrest⟩ := List.forall_mem_cons.mp halone
    obtain ⟨s', looked, events, hs', heq⟩ := readComponents_cons hjson hs path rest records o
    rw [hpath] at heq
    obtain ⟨hending, hout⟩ := ih hrest hs' (records ++ found path)
      ((o.consult looked).report c.logging w.time events)
    rw [heq]
    constructor
    · rw [hending, Outcome.ending_report]
      rfl
    · rw [hout, Outcome.stdout_report _ _ _ hspares, List.flatMap_cons, List.append_assoc records]
      rfl

/-- Files that give something alone, and behind them one that does not. -/
theorem readComponents_of_error (hjson : r.asJson = true) (hspares : c.logging.SparesStdout)
    {found : Text → List Data} {before : List Text} {path : Text} {cause : Failure}
    (halone : ∀ path ∈ before, alone w r.action c.resolver path = .ok (found path))
    (herror : alone w r.action c.resolver path = .error cause) (after : List Text)
    (hs : LikeNew w s) (records : List Data) (o : Outcome) :
    (readComponents w r c (before ++ path :: after) records s o).ending =
        (1, cause.unhandled?) ∧
      (readComponents w r c (before ++ path :: after) records s o).stdout = o.stdout ∧
      ∃ events, (readComponents w r c (before ++ path :: after) records s o).stderr =
        o.stderr ++ c.logging.loggedTo (text "stderr") w.time events ++ cause.shown := by
  -- each file in front leaves another session and outcome, with its events on the standard error
  induction before generalizing s records o with
  | nil =>
    obtain ⟨s', looked, events, -, heq⟩ := readComponents_cons hjson hs path after records o
    rw [herror] at heq
    rw [List.nil_append, heq]
    refine ⟨rfl, Outcome.stdout_report w.time events (o.consult looked) hspares, events, ?_⟩
    simp only [Outcome.fail, Outcome.isStream_stderr.report]
    rfl
  | cons first before ih =>
    obtain ⟨hfirst, hbefore⟩ := List.forall_mem_cons.mp halone
    obtain ⟨s', looked, events, hs', heq⟩ :=
      readComponents_cons hjson hs first (before ++ path :: after) records o
    rw [hfirst] at heq
    obtain ⟨hending, hout, later, herr⟩ := ih hbefore hs' (records ++ found first)
      ((o.consult looked).report c.logging w.time events)
    rw [List.cons_append, heq]
    refine ⟨hending, ?_, events ++ later, ?_⟩
    · rw [hout, Outcome.stdout_report _ _ _ hspares]
      rfl
    · rw [herr, Outcome.isStream_stderr.report, LoggingOptions.loggedTo_append,
        ← List.append_assoc o.stderr]
      rfl

end Components

namespace Request

def settings (r : Request) (w : World) : Except LoadError Config := (loadConfig w r).map r.adjust

def errorLog (r : Request) (w : World) (events : List Event) : Text :=
  match r.settings w with
  | .error _ => []
  | .ok c => c.logging.loggedTo (text "stderr") w.time events

/-- The configuration of a run whose log is open, or why there is none. -/
def ready (r : Request) (w : World) : Except Failure Config :=
  match r.settings w with
  | .error e => .error (.ofLoad e)
  | .ok c =>
    match c.logging.outputs.findSome? (outputFault? w) with
    | some cause => .error (.unhandled cause)
    | none => .ok c

/-- The records of a component file of a request when no other one was read before, or why there are
none. -/
def alone (r : Request) (w : World) (path : Text) : Except Failure (List Data) :=
  match r.ready w with
  | .error cause => .error cause
  | .ok c => Command.alone w r.action c.resolver path

def found (r : Request) (w : World) (path : Text) : List Data :=
  match r.alone w path with
  | .error _ => []
  | .ok found => found

def only (r : Request) (path : Text) : Request := { r with paths := [path] }

/-- The arguments of a request for one file are refused: the configuration file is a directory or
may not be read, or the file itself is not there, is a directory or may not be read. -/
def Refused (r : Request) (w : World) (path : Text) : Prop :=
  (∃ config, r.config = some config ∧
    (w.entry config = .directory ∨ ∃ real reason, w.entry config = .denied real reason)) ∨
  ¬ ∃ real bytes, w.entry path = .file real bytes

end Request

section Start
variable {w : World} {r : Request}

theorem settings_of_ready {c : Config} (h : r.ready w = .ok c) : r.settings w = .ok c := by
  unfold Request.ready at h
  split at h
  · cases h
  · next c' hsettings =>
    split at h
    · cases h
    · obtain rfl := Except.ok.inj h
      exact hsettings

theorem pathFault?_eq_none_iff {path : Text} :
    pathFault? w path = none ↔ ∃ real bytes, w.entry path = .file real bytes := by
  unfold pathFault?
  cases w.entry path <;> simp

theorem configFault?_eq_none_iff {path : Text} :
    configFault? w path = none ↔
      ¬ (w.entry path = .directory ∨ ∃ real reason, w.entry path = .denied real reason) := by
  unfold configFault?
  cases w.entry path <;> simp

theorem requestFault?_only (r : Request) (path : Text) :
    requestFault? w (r.only path) =
      (r.config.bind (configFault? w)).or (pathFault? w path) := by
  simp [requestFault?, Request.only]

theorem refused_iff {path : Text} :
    r.Refused w path ↔ ∃ fault, requestFault? w (r.only path) = some fault := by
  rw [← Option.ne_none_iff_exists', ne_eq, requestFault?_only, Option.or_eq_none_iff,
    pathFault?_eq_none_iff, Option.bind_eq_none_iff, not_and_or, not_forall, Request.Refused]
  simp only [configFault?_eq_none_iff, Classical.not_imp, not_not]

/-- What is wrong with a request is what is wrong with it for the first of its files that has a
fault. -/
theorem requestFault?_eq (hsome : r.paths ≠ []) :
    requestFault? w r = r.paths.findSome? fun path => requestFault? w (r.only path) := by
  rw [requestFault?, if_neg hsome]
  simp only [requestFault?_only]
  cases r.config.bind (configFault? w) with
  | none => rfl
  | some fault =>
    obtain ⟨first, rest, hpaths⟩ := List.exists_cons_of_ne_nil hsome
    simp [hpaths]

theorem requestFault?_eq_none (hsome : r.paths ≠ [])
    (hadmitted : ∀ path ∈ r.paths, ¬ r.Refused w path) : requestFault? w r = none := by
  rw [requestFault?_eq hsome, List.findSome?_eq_none_iff]
  intro path hmem
  exact Option.eq_none_iff_forall_ne_some.mpr fun fault hfault =>
    hadmitted path hmem (refused_iff.mpr ⟨fault, hfault⟩)

/-- The first refused file of a request is what it is refused for. -/
theorem exists_first_refused (h : ∃ path ∈ r.paths, r.Refused w path) :
    ∃ before path after fault, r.paths = before ++ path :: after ∧
      (∀ path ∈ before, ¬ r.Refused w path) ∧
      requestFault? w (r.only path) = some fault ∧ requestFault? w r = some fault := by
  obtain ⟨before, path, after, hpaths, hbefore, hpath⟩ := exists_first_of_mem h
  obtain ⟨fault, hfault⟩ := refused_iff.mp hpath
  have hnone : before.findSome? (fun path => requestFault? w (r.only path)) = none := by
    rw [List.findSome?_eq_none_iff]
    intro path hmem
    exact Option.eq_none_iff_forall_ne_some.mpr fun fault hfault =>
      hbefore path hmem (refused_iff.mpr ⟨fault, hfault⟩)
  have hsome : r.paths ≠ [] := by simp [hpaths]
  refine ⟨before, path, after, fault, hpaths, hbefore, hfault, ?_⟩
  rw [requestFault?_eq hsome, hpaths, List.findSome?_append, hnone, List.findSome?_cons, hfault]
  rfl

/-- A request without faults. -/
theorem exists_serve_eq (h : requestFault? w r = none) :
    ∃ o : Outcome, o.IsBlank ∧
      serve w r =
        match r.ready w with
        | .error cause => o.fail cause
        | .ok c => readComponents w r c r.paths [] {} o := by
  unfold serve
  rw [h, Request.ready, Request.settings]
  cases loadConfig w r with
  | error e => exact ⟨_, Outcome.isBlank_consult _, rfl⟩
  | ok c =>
    dsimp only [Except.map]
    cases (r.adjust c).logging.outputs.findSome? (outputFault? w) with
    | some cause => exact ⟨_, (Outcome.isBlank_consult _).openOutputs _, rfl⟩
    | none => exact ⟨_, (Outcome.isBlank_consult _).openOutputs _, rfl⟩

end Start

namespace Outcome

/-- The run succeeds, and these records are what it prints. -/
structure Reports (o : Outcome) (records : List Data) : Prop where
  ending : o.ending = (0, none)
  stdout : o.stdout = listing records

/-- The run ends with the usage of an action, and prints nothing else. -/
structure Refuses (o : Outcome) (action : Action) (fault : UsageFault) : Prop where
  ending : o.ending = (2, none)
  stdout : o.stdout = []
  stderr : o.stderr = UsageError.lines ⟨some action, fault⟩

/-- The run fails and prints nothing. It is broken off, or ends with a message, behind what the log
says on the standard error. -/
structure GivesUp (o : Outcome) (w : World) (r : Request) (cause : Failure) : Prop where
  ending : o.ending = (1, cause.unhandled?)
  stdout : o.stdout = []
  stderr : ∃ events, o.stderr = r.errorLog w events ++ cause.shown

variable {o : Outcome}

theorem exitCode_of_ending {code : Nat} {cause : Option Unhandled} (h : o.ending = (code, cause)) :
    o.exitCode = code :=
  congrArg Prod.fst h

end Outcome

section Serve
variable {w : World} {r : Request}

theorem serve_refuses {fault : UsageFault} (h : requestFault? w r = some fault) :
    (serve w r).Refuses r.action fault := by
  unfold serve
  rw [h]
  exact ⟨rfl, rfl, rfl⟩

variable (hjson : r.asJson = true)
  (hspares : ∀ c, r.settings w = .ok c → c.logging.SparesStdout)
  (hclear : requestFault? w r = none)

include hjson hspares hclear

theorem serve_reports (hsome : r.paths ≠ [])
    (halone : ∀ path ∈ r.paths, r.alone w path = .ok (r.found w path)) :
    (serve w r).Reports (r.paths.flatMap (r.found w)) := by
  obtain ⟨o, hblank, heq⟩ := exists_serve_eq hclear
  rw [heq]
  unfold Request.alone at halone
  cases hready : r.ready w with
  | error cause =>
    obtain ⟨path, hpath⟩ := List.exists_mem_of_ne_nil _ hsome
    have hno := halone path hpath
    rw [hready] at hno
    cases hno
  | ok c =>
    simp only [hready] at halone
    obtain ⟨hending, hout⟩ := readComponents_of_ok hjson (hspares c (settings_of_ready hready))
      halone (fun _ => rfl) [] o
    refine ⟨hending.trans hblank.ending, ?_⟩
    rw [hout, hblank.stdout]
    rfl

theorem serve_givesUp {before after : List Text} {path : Text} {cause : Failure}
    (hpaths : r.paths = before ++ path :: after)
    (halone : ∀ path ∈ before, r.alone w path = .ok (r.found w path))
    (herror : r.alone w path = .error cause) :
    (serve w r).GivesUp w r cause := by
  obtain ⟨o, hblank, heq⟩ := exists_serve_eq hclear
  rw [heq]
  unfold Request.alone at halone herror
  cases hready : r.ready w with
  | error cause' =>
    rw [hready] at herror
    -- before any file is read every file fails alike, the first one too
    obtain rfl : cause' = cause := Except.error.inj herror
    refine ⟨rfl, hblank.stdout, [], ?_⟩
    have hsilent : r.errorLog w [] = [] := by
      unfold Request.errorLog
      split <;> rfl
    rw [hsilent]
    exact congrArg (· ++ cause'.shown) hblank.stderr
  | ok c =>
    simp only [hready] at halone herror
    have hsettings := settings_of_ready hready
    obtain ⟨hending, hout, events, herr⟩ := readComponents_of_error hjson (hspares c hsettings)
      halone herror after (fun _ => rfl) [] o
    simp only [hpaths]
    refine ⟨hending, hout.trans hblank.stdout, events, ?_⟩
    rw [herr, hblank.stderr, Request.errorLog, hsettings]
    rfl

end Serve

theorem run_of_wish (w : World) {arguments : List Text} {r : Request}
    (h : wish arguments = .ok (.run r)) : run w arguments = serve w r := by
  have hsome : arguments ≠ [] := by
    rintro rfl
    cases h
  rw [run, if_neg hsome, h]

section Run
variable {w : World} {r : Request}

theorem run_only (w : World) (r : Request) (path : Text) :
    run w (r.only path).arguments = serve w (r.only path) :=
  run_of_wish w (r.only path).wish_arguments

theorem run_only_refuses {path : Text} {fault : UsageFault}
    (h : requestFault? w (r.only path) = some fault) :
    (run w (r.only path).arguments).Refuses r.action fault := by
  rw [run_only]
  exact serve_refuses h

variable (hjson : r.asJson = true)
  (hspares : ∀ c, r.settings w = .ok c → c.logging.SparesStdout)

include hjson hspares

section One
variable {path : Text} (hclear : requestFault? w (r.only path) = none)

include hclear

theorem run_only_reports (h : r.alone w path = .ok (r.found w path)) :
    (run w (r.only path).arguments).Reports (r.found w path) := by
  rw [run_only]
  have hreports := serve_reports (r := r.only path) hjson hspares hclear (List.cons_ne_nil _ _)
    (List.forall_mem_singleton.mpr h)
  rwa [Request.only, List.flatMap_singleton] at hreports

theorem run_only_givesUp {cause : Failure} (h : r.alone w path = .error cause) :
    (run w (r.only path).arguments).GivesUp w r cause := by
  rw [run_only]
  have hpaths : (r.only path).paths = [] ++ path :: [] := rfl
  obtain ⟨hending, hout, herr⟩ := serve_givesUp (r := r.only path) hjson hspares hclear hpaths
    (List.forall_mem_nil _) h
  exact ⟨hending, hout, herr⟩

end One

/-- The three ends of a run over one file. -/
theorem run_only_cases (path : Text) :
    (∃ fault, requestFault? w (r.only path) = some fault ∧
      (run w (r.only path).arguments).Refuses r.action fault) ∨
    (requestFault? w (r.only path) = none ∧ r.alone w path = .ok (r.found w path) ∧
      (run w (r.only path).arguments).Reports (r.found w path)) ∨
    (requestFault? w (r.only path) = none ∧ ∃ cause, r.alone w path = .error cause ∧
      (run w (r.only path).arguments).GivesUp w r cause) := by
  cases hfault : requestFault? w (r.only path) with
  | some fault => exact .inl ⟨fault, rfl, run_only_refuses hfault⟩
  | none =>
    cases h : r.alone w path with
    | error cause => exact .inr (.inr ⟨rfl, cause, rfl, run_only_givesUp hjson hspares hfault h⟩)
    | ok found =>
      have hfound : r.alone w path = .ok (r.found w path) := by simp only [Request.found, h]
      exact .inr (.inl ⟨rfl, h ▸ hfound, run_only_reports hjson hspares hfault hfound⟩)

/-- The run over one file succeeds exactly when its arguments are in order and the file gives
something alone. -/
theorem run_only_exitCode_eq_zero_iff {path : Text} :
    (run w (r.only path).arguments).exitCode = 0 ↔
      requestFault? w (r.only path) = none ∧ r.alone w path = .ok (r.found w path) := by
  obtain ⟨fault, hfault, hrefuses⟩ | ⟨hclear, hfound, hreports⟩ | ⟨-, cause, herror, hgives⟩ :=
    run_only_cases hjson hspares path
  · simp [hfault, Outcome.exitCode_of_ending hrefuses.ending]
  · simp [hclear, hfound, Outcome.exitCode_of_ending hreports.ending]
  · simp [herror, Outcome.exitCode_of_ending hgives.ending]

theorem run_only_exitCode_eq_two_iff {path : Text} :
    (run w (r.only path).arguments).exitCode = 2 ↔ r.Refused w path := by
  rw [refused_iff]
  obtain ⟨fault, hfault, hrefuses⟩ | ⟨hclear, -, hreports⟩ | ⟨hclear, cause, -, hgives⟩ :=
    run_only_cases hjson hspares path
  · simp [hfault, Outcome.exitCode_of_ending hrefuses.ending]
  · simp [hclear, Outcome.exitCode_of_ending hreports.ending]
  · simp [hclear, Outcome.exitCode_of_ending hgives.ending]

section Several
variable (hsome : r.paths ≠ [])

include hsome

/-- If the runs over each file succeed, so does the run over all. -/
theorem serve_reports_all
    (hall : ∀ path ∈ r.paths, (run w (r.only path).arguments).exitCode = 0) :
    (∀ path ∈ r.paths, (run w (r.only path).arguments).Reports (r.found w path)) ∧
      (serve w r).Reports (r.paths.flatMap (r.found w)) := by
  have hfound : ∀ path ∈ r.paths, requestFault? w (r.only path) = none ∧
      r.alone w path = .ok (r.found w path) := fun path hmem =>
    (run_only_exitCode_eq_zero_iff hjson hspares).mp (hall path hmem)
  have hclear : requestFault? w r = none := by
    rw [requestFault?_eq hsome]
    exact List.findSome?_eq_none_iff.mpr fun path hmem => (hfound path hmem).1
  constructor
  · intro path hmem
    exact run_only_reports hjson hspares (hfound path hmem).1 (hfound path hmem).2
  · exact serve_reports hjson hspares hclear hsome fun path hmem => (hfound path hmem).2

/-- If no run over one file is refused and some fail, the run over all ends like the first of
these. -/
theorem serve_givesUp_first (hadmitted : ∀ path ∈ r.paths, ¬ r.Refused w path)
    (hfails : ∃ path ∈ r.paths, (run w (r.only path).arguments).exitCode ≠ 0) :
    ∃ before path after cause, r.paths = before ++ path :: after ∧
      (∀ path ∈ before, (run w (r.only path).arguments).exitCode = 0) ∧
      (run w (r.only path).arguments).GivesUp w r cause ∧ (serve w r).GivesUp w r cause := by
  obtain ⟨before, path, after, hpaths, hbefore, hpath⟩ := exists_first_of_mem hfails
  have hsucceed : ∀ path ∈ before, (run w (r.only path).arguments).exitCode = 0 :=
    fun path hmem => not_not.mp (hbefore path hmem)
  have hfound : ∀ path ∈ before, r.alone w path = .ok (r.found w path) := fun path hmem =>
    ((run_only_exitCode_eq_zero_iff hjson hspares).mp (hsucceed path hmem)).2
  obtain ⟨fault, hfault, -⟩ | ⟨-, -, hreports⟩ | ⟨-, cause, herror, hgives⟩ :=
    run_only_cases hjson hspares path
  · have hmem : path ∈ r.paths := by simp [hpaths]
    exact absurd (refused_iff.mpr ⟨fault, hfault⟩) (hadmitted path hmem)
  · exact absurd (Outcome.exitCode_of_ending hreports.ending) hpath
  · exact ⟨before, path, after, cause, hpaths, hsucceed, hgives,
      serve_givesUp hjson hspares (requestFault?_eq_none hsome hadmitted) hpaths hfound herror⟩

end Several

/-- A run over several component files, with the events kept off the standard output, against the
runs over each of them alone. If all of these succeed, the run prints the records that they print,
in the order of the files, although the imports of all files share one session. If one of them is
refused, for what its paths lead to, the run is refused like the first such one. Else it ends like
the first one that fails: with its message, or broken off by its error. In both cases it prints
nothing on the standard output. -/
theorem run_reports_or_ends_alike {arguments : List Text} (hrun : wish arguments = .ok (.run r))
    (hsome : r.paths ≠ []) :
    ((∀ path ∈ r.paths, (run w (r.only path).arguments).exitCode = 0) →
      (∀ path ∈ r.paths, (run w (r.only path).arguments).Reports (r.found w path)) ∧
        (run w arguments).Reports (r.paths.flatMap (r.found w))) ∧
    (∀ path, (run w (r.only path).arguments).exitCode = 2 ↔ r.Refused w path) ∧
    ((∃ path ∈ r.paths, r.Refused w path) →
      ∃ before path after fault, r.paths = before ++ path :: after ∧
        (∀ path ∈ before, ¬ r.Refused w path) ∧
        (run w (r.only path).arguments).Refuses r.action fault ∧
        (run w arguments).Refuses r.action fault) ∧
    ((∀ path ∈ r.paths, ¬ r.Refused w path) →
      (∃ path ∈ r.paths, (run w (r.only path).arguments).exitCode ≠ 0) →
        ∃ before path after cause, r.paths = before ++ path :: after ∧
          (∀ path ∈ before, (run w (r.only path).arguments).exitCode = 0) ∧
          (run w (r.only path).arguments).GivesUp w r cause ∧
          (run w arguments).GivesUp w r cause) := by
  rw [run_of_wish w hrun]
  refine ⟨serve_reports_all hjson hspares hsome,
    fun path => run_only_exitCode_eq_two_iff hjson hspares, fun hrefused => ?_,
    serve_givesUp_first hjson hspares hsome⟩
  obtain ⟨before, path, after, fault, hpaths, hbefore, hpath, hfault⟩ :=
    exists_first_refused hrefused
  exact ⟨before, path, after, fault, hpaths, hbefore, run_only_refuses hpath,
    serve_refuses hfault⟩

end Run

/-- A page with the file that it imports, a file that is no text, one that may not be read, one
whose name looks like an option, and a directory. -/
def importingPage : World where
  cwd := text "/"
  entry path :=
    if path = text "a.jsx" then
      .file (text "/a.jsx")
        (.ok ("import{s}from'./s.js';<a class={s}/>".toList.map (.ofNat ·.toNat)))
    else if path = text "s.js" ∨ path = text "/s.js" then
      .file (text "/s.js") (.ok ("export let s='p'".toList.map (.ofNat ·.toNat)))
    else if path = text "b.jsx" then .file (text "/b.jsx") (.ok [0xFF])
    else if path = text "c.jsx" then .denied (text "/c.jsx") (text "Permission denied")
    else if path = text "--bogus" then .file path (.ok [])
    else if path = text "d" then .directory
    else .missing
  surroundings := ⟨[], fun _ => none⟩
  time := []

/-- `resolve --json` for some files. -/
def listPaths (paths : List Text) : Request := ⟨.resolve, paths, true, false, none, false⟩

theorem sparesStdout_of_all {w : World} {r : Request}
    (h : (r.settings w).toOption.map
      (fun c => c.logging.outputs.all fun output => !output.takesDebug c.logging.level) = some true)
    (c : Config) (hc : r.settings w = .ok c) : c.logging.SparesStdout := by
  obtain ⟨c', hc', hmuted⟩ := exists_ok_of_map_toOption h
  obtain rfl : c' = c := Except.ok.inj (hc'.symm.trans hc)
  intro output hmem _
  simpa using List.all_eq_true.mp hmuted output hmem

theorem sparesStdout_importingPage (paths : List Text) (c : Config) :
    (listPaths paths).settings importingPage = .ok c → c.logging.SparesStdout :=
  sparesStdout_of_all (r := listPaths []) (by decide +kernel) c

theorem importingPage_reports :
    let page := text "a.jsx"
    let imported := text "s.js"
    let request := listPaths [page, imported, page]
    let spoilt := listPaths [imported, text "b.jsx", page]
    let locked := listPaths [page, text "b.jsx", text "c.jsx"]
    (request.found importingPage page).length = 1 ∧
    (run importingPage request.arguments).Reports
      ([page, imported, page].flatMap (request.found importingPage)) ∧
    (∃ cause, (run importingPage spoilt.arguments).GivesUp importingPage spoilt cause) ∧
    ∃ fault, (run importingPage locked.arguments).Refuses .resolve fault := by
  intro page imported request spoilt locked
  obtain ⟨ofPage, halone, hlength⟩ := exists_ok_of_map_toOption
    (show (request.alone importingPage page).toOption.map List.length = some 1 by decide +kernel)
  have hfound : request.found importingPage page = ofPage := by
    simp only [Request.found, halone]
  have hpage : (run importingPage (request.only page).arguments).exitCode = 0 :=
    (run_only_exitCode_eq_zero_iff rfl (sparesStdout_importingPage _)).mpr
      ⟨by decide, hfound ▸ halone⟩
  have himported : (run importingPage (request.only imported).arguments).exitCode = 0 := by
    decide +kernel
  have hgarbled : (run importingPage (spoilt.only (text "b.jsx")).arguments).exitCode ≠ 0 := by
    decide +kernel
  have hadmitted : ∀ path ∈ spoilt.paths, ¬ spoilt.Refused importingPage path := by
    intro path hmem hrefused
    obtain ⟨fault, hfault⟩ := refused_iff.mp hrefused
    have hclear : ∀ path ∈ spoilt.paths, requestFault? importingPage (spoilt.only path) = none := by
      decide
    rw [hclear path hmem] at hfault
    cases hfault
  have hreports := (run_reports_or_ends_alike rfl (sparesStdout_importingPage _)
    request.wish_arguments (List.cons_ne_nil _ _)).1
    (List.forall_mem_cons.mpr ⟨hpage, List.forall_mem_cons.mpr
      ⟨himported, List.forall_mem_singleton.mpr hpage⟩⟩)
  obtain ⟨before, path, after, cause, -, -, -, hgives⟩ := (run_reports_or_ends_alike rfl
    (sparesStdout_importingPage _) spoilt.wish_arguments (List.cons_ne_nil _ _)).2.2.2
    hadmitted ⟨text "b.jsx", .tail _ (.head _), hgarbled⟩
  obtain ⟨before, path, after, fault, -, -, -, hrefuses⟩ := (run_reports_or_ends_alike rfl
    (sparesStdout_importingPage _) locked.wish_arguments (List.cons_ne_nil _ _)).2.2.1
    ⟨text "c.jsx", .tail _ (.tail _ (.head _)), .inr (by rintro ⟨real, bytes, ⟨⟩⟩)⟩
  exact ⟨hfound ▸ hlength, hreports.2, ⟨cause, hgives⟩, fault, hrefuses⟩

/-- A page and a file that may not be read. -/
def lockedFiles : Request := listPaths [text "a.jsx", text "c.jsx"]

/-- A page, with a directory in the place of the configuration file. -/
def misplacedConfig : Request := { listPaths [text "a.jsx"] with config := some (text "d") }

/-- A run over files that are there does not exit with 1 whenever one of them alone fails: a file
that may not be read, or a directory in the place of the configuration file, is refused with 2, and
so is a name that is taken for an option. -/
theorem refused_exitCode :
    ((∀ path ∈ lockedFiles.paths, importingPage.isFile path = true) ∧
      (run importingPage (lockedFiles.only (text "c.jsx")).arguments).exitCode = 2 ∧
      (run importingPage lockedFiles.arguments).exitCode = 2) ∧
    ((∀ path ∈ misplacedConfig.paths, importingPage.isFile path = true) ∧
      (run importingPage (misplacedConfig.only (text "a.jsx")).arguments).exitCode = 2 ∧
      (run importingPage misplacedConfig.arguments).exitCode = 2) ∧
    (importingPage.isFile (text "--bogus") = true ∧
      (run importingPage (["resolve", "--json", "--bogus"].map text)).exitCode = 2) ∧
    ¬ ∀ (w : World) (r : Request), r.asJson = true →
      (∀ c, r.settings w = .ok c → c.logging.SparesStdout) →
      r.paths ≠ [] → (∀ path ∈ r.paths, w.isFile path = true) →
      (∃ path ∈ r.paths, (run w (r.only path).arguments).exitCode ≠ 0) →
      (run w r.arguments).exitCode = 1 := by
  have hthere : ∀ path ∈ lockedFiles.paths, importingPage.isFile path = true := by decide
  have hone : (run importingPage (lockedFiles.only (text "c.jsx")).arguments).exitCode = 2 := by
    decide +kernel
  have hall : (run importingPage lockedFiles.arguments).exitCode = 2 := by decide +kernel
  refine ⟨⟨hthere, hone, hall⟩, ⟨by decide, by decide +kernel, by decide +kernel⟩,
    ⟨by decide, by decide +kernel⟩, fun h => ?_⟩
  have hfails : (run importingPage (lockedFiles.only (text "c.jsx")).arguments).exitCode ≠ 0 := by
    omega
  have hcode := h importingPage lockedFiles rfl (sparesStdout_importingPage _)
    (List.cons_ne_nil _ _)
    hthere ⟨text "c.jsx", .tail _ (.head _), hfails⟩
  omega

end StateCoverage.Command
