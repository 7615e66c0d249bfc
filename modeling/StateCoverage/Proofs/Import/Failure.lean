import StateCoverage.Proofs.Import.Location
import StateCoverage.Proofs.Import.Value
import StateCoverage.Proofs.Lowering.Traversal

/-!
Why an import has no value. There are five causes, decided in a fixed order, and each import that
has one of them is recorded once; every other import has a value and is not recorded.
-/
namespace StateCoverage
open Bindings

/-- A file with this text has no abstract form: the text holds half of a surrogate pair, and so has
no bytes, or an expression in it nests too deep. -/
inductive Unparsable (dialect : Dialect) (content : Text) : Prop
  | surrogate {offset : Fin 2048} (h : .surrogate offset ∈ content)
  | tooDeep {cs : List Char} {t e : Syntax} (hcs : content = cs.map .scalar)
    (ht : t ∈ (Grammar.parse dialect cs).statementNodes) (he : e ∈ t.statementExpressions)
    (h : Syntax.nestingLimit < e.nesting)

theorem mapM_toChar?_scalar (cs : List Char) :
    (cs.map CodePoint.scalar).mapM CodePoint.toChar? = some cs := by
  induction cs with
  | nil => rfl
  | cons c rest ih => simp [CodePoint.toChar?, ih]

/-- A text is one of characters, or it holds a surrogate and has no encoding. -/
theorem mapM_toChar?_cases (content : Text) :
    (∃ cs, content = cs.map .scalar ∧ content.mapM CodePoint.toChar? = some cs) ∨
      (∃ offset, .surrogate offset ∈ content) ∧ content.mapM CodePoint.toChar? = none := by
  induction content with
  | nil => exact .inl ⟨[], rfl, rfl⟩
  | cons p rest ih =>
    cases p with
    | surrogate offset =>
      exact .inr ⟨⟨offset, List.mem_cons_self⟩, by simp [CodePoint.toChar?]⟩
    | scalar c =>
      obtain ⟨cs, rfl, hcs⟩ | ⟨⟨offset, hin⟩, hnone⟩ := ih
      · exact .inl ⟨c :: cs, rfl, mapM_toChar?_scalar (c :: cs)⟩
      · exact .inr ⟨⟨offset, List.mem_cons_of_mem _ hin⟩, by simp [CodePoint.toChar?, hnone]⟩

theorem not_unparsable {dialect : Dialect} {cs : List Char} {source : Source}
    {body : List Statement} (h : (Grammar.parse dialect cs).statements? source = some body) :
    ¬ Unparsable dialect (cs.map .scalar) := by
  intro hun
  cases hun with
  | surrogate hin => simp at hin
  | tooDeep hcs ht he hdeep =>
    obtain rfl := List.map_injective_iff.mpr (fun _ _ => CodePoint.scalar.inj) hcs
    have hnone : (Grammar.parse dialect _).statements? source = none :=
      statements?_eq_none_iff.mpr ⟨_, ht, _, he, hdeep⟩
    rw [hnone] at h
    cases h

/-- A file without a dialect is not looked into; another one has an abstract form unless its text
has none. -/
theorem ofText_cases (path content : Text) :
    (Dialect.ofPath? path = none ∧
      Module.ofText path [] content = .error (.unsupportedLanguage path)) ∨
    ∃ dialect, Dialect.ofPath? path = some dialect ∧
      ((Unparsable dialect content ∧
          ∃ reason, Module.ofText path [] content = .error (.parseFailed path reason)) ∨
        (¬ Unparsable dialect content ∧ ∃ m, Module.ofText path [] content = .ok m)) := by
  unfold Module.ofText ParsedFile.ofText Dialect.choose
  rw [if_pos rfl]
  cases Dialect.ofPath? path with
  | none => exact .inl ⟨rfl, rfl⟩
  | some dialect =>
    refine .inr ⟨dialect, rfl, ?_⟩
    dsimp only
    obtain ⟨cs, rfl, hcs⟩ | ⟨⟨offset, hin⟩, hnone⟩ := mapM_toChar?_cases content
    · rw [hcs]
      dsimp only [ParsedFile.module, ParsedFile.ofChars]
      cases hbody : (Grammar.parse dialect cs).statements? (.ofBytes (Utf8.encode cs)) with
      | none =>
        obtain ⟨t, ht, e, he, hdeep⟩ := statements?_eq_none_iff.mp hbody
        exact .inl ⟨.tooDeep rfl ht he hdeep, _, rfl⟩
      | some body => exact .inr ⟨not_unparsable hbody, _, rfl⟩
    · rw [hnone]
      exact .inl ⟨.surrogate hin, _, rfl⟩

namespace Import

/-- Why a file that was found has no table, under the name by which it is reported. -/
inductive Attempt.FailsWith (a : Attempt) : String → Prop
  | unreadable {reason : Text} (ha : a.answer = .error reason) : a.FailsWith "MODULE_READ_ERROR"
  | noDialect {content : Text} (ha : a.answer = .ok content)
    (hd : Dialect.ofPath? a.path = none) : a.FailsWith "UNSUPPORTED_LANGUAGE"
  | unparsable {content : Text} {dialect : Dialect} (ha : a.answer = .ok content)
    (hd : Dialect.ofPath? a.path = some dialect) (h : Unparsable dialect content) :
    a.FailsWith "MODULE_PARSE_ERROR"

/-- An attempt has at most one of these causes, and it has one exactly when it gives no module. -/
theorem Attempt.failsWith_iff {a : Attempt} {name : String} :
    a.FailsWith name ↔ ∃ cause, a.result = .error cause ∧ cause.report.name = name := by
  unfold result
  constructor
  · intro h
    cases h with
    | @unreadable reason ha =>
      rw [ha]
      exact ⟨_, rfl, rfl⟩
    | @noDialect content ha hd =>
      rw [ha]
      obtain ⟨-, herror⟩ | ⟨dialect, hsome, -⟩ := ofText_cases a.path content
      · exact ⟨_, herror, rfl⟩
      · rw [hd] at hsome
        cases hsome
    | @unparsable content dialect ha hd hun =>
      rw [ha]
      obtain ⟨hnone, -⟩ | ⟨dialect', hsome, ⟨-, reason, herror⟩ | ⟨hnot, -⟩⟩ :=
        ofText_cases a.path content
      · rw [hd] at hnone
        cases hnone
      · exact ⟨_, herror, rfl⟩
      · rw [hd] at hsome
        cases hsome
        exact absurd hun hnot
  · intro h
    obtain ⟨cause, hcause, rfl⟩ := h
    cases ha : a.answer with
    | error reason =>
      rw [ha] at hcause
      cases hcause
      exact .unreadable ha
    | ok content =>
      rw [ha] at hcause
      dsimp only at hcause
      obtain ⟨hd, herror⟩ | ⟨dialect, hd, ⟨hun, reason, herror⟩ | ⟨-, m, hok⟩⟩ :=
        ofText_cases a.path content
      · rw [herror] at hcause
        cases hcause
        exact .noDialect ha hd
      · rw [herror] at hcause
        cases hcause
        exact .unparsable ha hd hun
      · rw [hok] at hcause
        cases hcause

section
variable (access : FileAccess) (options : ImportOptions) (importer specifier exported : Text)
  (s : Session)

/-- Why an import has no value, under the name by which it is reported: no file is found, the file
has no table and none is kept, or its table does not have the name. -/
inductive FailsWith : String → Prop
  | notFound
    (h : isRelative specifier = false ∨
      ∀ path ∈ candidates options (target importer specifier access.cwd),
        access.isFile path = false) :
    FailsWith "MODULE_NOT_FOUND"
  | attempt {path : Text} {name : String}
    (hl : (locate access.isFile options importer specifier access.cwd).1 = some path)
    (hc : s.cached? path = none) (h : (⟨path, access.read path⟩ : Attempt).FailsWith name) :
    FailsWith name
  | noExport {path : Text} {table : Table}
    (hl : (locate access.isFile options importer specifier access.cwd).1 = some path)
    (ht : s.tableOf? access path = some table) (hname : exported ≠ text "*")
    (hk : exported ∉ names table) : FailsWith "EXPORT_NOT_FOUND"

end

theorem exported?_eq_none_iff {table : Table} {exported : Text} :
    exported? table exported = none ↔ exported ≠ text "*" ∧ exported ∉ names table := by
  unfold exported?
  by_cases h : exported = text "*"
  · simp [h]
  · rw [if_neg h, valueOf?_eq_none_iff]
    simp [h]

section
variable {access : FileAccess} {options : ImportOptions} {importer specifier exported path : Text}
  {s : Session} {name : String}

theorem failsWith_iff_of_not_located
    (hl : (locate access.isFile options importer specifier access.cwd).1 = none) :
    FailsWith access options importer specifier exported s name ↔ name = "MODULE_NOT_FOUND" := by
  constructor
  · intro h
    cases h with
    | notFound => rfl
    | attempt hl' => simp [hl] at hl'
    | noExport hl' => simp [hl] at hl'
  · intro h
    rw [h]
    exact .notFound (locate_eq_none_iff.mp hl)

theorem failsWith_iff_of_located
    (hl : (locate access.isFile options importer specifier access.cwd).1 = some path) :
    FailsWith access options importer specifier exported s name ↔
      (s.cached? path = none ∧ (⟨path, access.read path⟩ : Attempt).FailsWith name) ∨
        name = "EXPORT_NOT_FOUND" ∧
          ∃ table, s.tableOf? access path = some table ∧ exported? table exported = none := by
  constructor
  · intro h
    cases h with
    | notFound hnone =>
      rw [locate_eq_none_iff.mpr hnone] at hl
      cases hl
    | attempt hl' hc hfails =>
      obtain rfl := Option.some.inj (hl.symm.trans hl')
      exact .inl ⟨hc, hfails⟩
    | noExport hl' ht hname hk =>
      obtain rfl := Option.some.inj (hl.symm.trans hl')
      exact .inr ⟨rfl, _, ht, exported?_eq_none_iff.mpr ⟨hname, hk⟩⟩
  · intro h
    obtain ⟨hc, hfails⟩ | ⟨rfl, table, ht, hnone⟩ := h
    · exact .attempt hl hc hfails
    · obtain ⟨hname, hk⟩ := exported?_eq_none_iff.mp hnone
      exact .noExport hl ht hname hk

theorem pick_eq_error_iff {table : Table} {cause : ResolutionError} :
    pick path exported table = .error cause ↔
      exported? table exported = none ∧ cause = .exportMissing path exported := by
  unfold pick
  cases exported? table exported with
  | none => simp [eq_comm]
  | some value => simp

/-- An import ends with a cause exactly when it has it. -/
theorem failsWith_iff :
    FailsWith access options importer specifier exported s name ↔
      ∃ cause, (outcome access options importer specifier exported s).1 = .error cause ∧
        cause.report.name = name := by
  -- A table that is seen fails an import only by not having the name.
  have hseen {path : Text} {table : Table} (ht : s.tableOf? access path = some table) :
      (name = "EXPORT_NOT_FOUND" ∧
          ∃ table, s.tableOf? access path = some table ∧ exported? table exported = none) ↔
        ∃ cause, pick path exported table = .error cause ∧ cause.report.name = name := by
    simp only [pick_eq_error_iff, ht]
    constructor
    · intro h
      obtain ⟨rfl, _, ⟨⟩, hnone⟩ := h
      exact ⟨_, ⟨hnone, rfl⟩, rfl⟩
    · intro h
      obtain ⟨_, ⟨hnone, rfl⟩, rfl⟩ := h
      exact ⟨rfl, table, rfl, hnone⟩
  cases course access options importer specifier exported s with
  | notFound located ho =>
    rw [failsWith_iff_of_not_located located, ho]
    constructor
    · intro h
      exact ⟨_, rfl, h.symm⟩
    · intro h
      obtain ⟨_, ⟨⟩, rfl⟩ := h
      rfl
  | kept path table located cached ho =>
    rw [failsWith_iff_of_located located, ho, ← hseen (Session.tableOf?_of_cached cached)]
    simp [cached]
  | failed path cause located cached result ho =>
    have hnone : s.tableOf? access path = none := Session.tableOf?_of_error cached result
    rw [failsWith_iff_of_located located, ho, Attempt.failsWith_iff]
    simp [cached, hnone, result]
  | built path m located cached result ho =>
    rw [failsWith_iff_of_located located, ho, ← hseen (Session.tableOf?_of_ok cached result),
      Attempt.failsWith_iff]
    simp [result]

end

section
variable (access : FileAccess) (options : ImportOptions) (importer specifier exported : Text)
  (s : Session)

/-- Before it ends, an import records at most that a file was parsed. -/
theorem outcome_events :
    ∃ parsed, (outcome access options importer specifier exported s).2.events = s.events ++ parsed ∧
      (parsed.filter fun e => e.name = "import_unresolved") = [] := by
  cases course access options importer specifier exported s with
  | notFound located ho => exact ⟨[], by simp [ho, looked], rfl⟩
  | kept path table located cached ho => exact ⟨[], by simp [ho, looked], rfl⟩
  | failed path cause located cached result ho =>
    exact ⟨[], by simp [ho, Session.events_attempt, looked], rfl⟩
  | built path m located cached result ho =>
    refine ⟨[.importParsed path m.errors], ?_, rfl⟩
    simp [ho, Session.record, Session.events_attempt, looked]

/-- An import that fails keeps no new table, unless the table does not have the name. -/
theorem outcome_cache {cause : ResolutionError}
    (h : (outcome access options importer specifier exported s).1 = .error cause) :
    (outcome access options importer specifier exported s).2.cache = s.cache ∨
      cause.report.name = "EXPORT_NOT_FOUND" := by
  cases course access options importer specifier exported s with
  | notFound located ho => exact .inl (by rw [ho, looked])
  | kept path table located cached ho => exact .inl (by rw [ho, looked])
  | failed path cause' located cached result ho =>
    have hfails : (⟨path, access.read path⟩ : Attempt).fails = true := by
      rw [Attempt.fails, Attempt.table?_of_error result]
      rfl
    exact .inl (by rw [ho, Session.cache_attempt_of_fails hfails, looked])
  | built path m located cached result ho =>
    rw [ho] at h
    obtain ⟨-, rfl⟩ := pick_eq_error_iff.mp h
    exact .inr rfl

/-- An import touches the kept tables only at the path that it finds, which then has the table
that the import saw; and it reads that file only, when no table was kept. -/
theorem resolve_cached? :
    (∀ path, (resolve access options importer specifier exported s).2.cached? path =
      if (locate access.isFile options importer specifier access.cwd).1 = some path
      then s.tableOf? access path else s.cached? path) ∧
    (resolve access options importer specifier exported s).2.reads = s.reads ++
      ((locate access.isFile options importer specifier access.cwd).1.toList.filter
        fun path => (s.cached? path).isNone) := by
  obtain ⟨probes, events, hs⟩ := resolve_session access options importer specifier exported s
  rw [hs, attempt?]
  cases (locate access.isFile options importer specifier access.cwd).1 with
  | none =>
    refine ⟨fun path => ?_, ?_⟩
    · rw [if_neg (by simp)]
      rfl
    · exact (List.append_nil s.reads).symm
  | some found =>
    refine ⟨fun path => ?_, ?_⟩
    · have hattempt := Session.cached?_attempt ⟨found, access.read found⟩ s path
      refine hattempt.trans ?_
      by_cases hpath : found = path
      · rw [if_pos hpath, if_pos (congrArg some hpath), hpath]
        rfl
      · rw [if_neg hpath, if_neg (by simpa using hpath)]
    · cases hc : s.cached? found with
      | some table =>
        have hreads := Session.reads_attempt_of_some (a := ⟨found, access.read found⟩) hc
        simpa [hc, Session.attemptAll] using hreads
      | none =>
        have hreads := Session.reads_attempt_of_none (a := ⟨found, access.read found⟩) hc
        simpa [hc, Session.attemptAll] using hreads

/-- Every import ends. Either it has a value and none of the five causes to fail, and is not
recorded as unresolved; or it has no value and exactly one of the causes, and is recorded once, with
it. The value is what is bound in the table of the file that is found, be it known or not, or
everything known there as one object. No table is kept but that of the file that is found, and none
if it cannot be read or parsed. -/
theorem resolve_ends :
    (∃ new, (resolve access options importer specifier exported s).2.events = s.events ++ new ∧
      ((∃ value, (resolve access options importer specifier exported s).1 = some value ∧
          (new.filter fun e => e.name = "import_unresolved") = [] ∧
          ∀ name, ¬ FailsWith access options importer specifier exported s name) ∨
        ∃ cause, (resolve access options importer specifier exported s).1 = none ∧
          (new.filter fun e => e.name = "import_unresolved") =
            [.importUnresolved cause specifier exported importer] ∧
          (∀ name, FailsWith access options importer specifier exported s name ↔
            name = cause.report.name) ∧
          ((resolve access options importer specifier exported s).2.cache = s.cache ∨
            cause.report.name = "EXPORT_NOT_FOUND"))) ∧
    (resolve access options importer specifier exported s).1 =
      ((locate access.isFile options importer specifier access.cwd).1.bind fun path =>
        (s.tableOf? access path).bind fun table =>
          if exported = text "*" then some (.object (table.filter fun p => !p.2.isUnresolved))
          else valueOf? exported table) ∧
    (∀ path, (resolve access options importer specifier exported s).2.cached? path =
      if (locate access.isFile options importer specifier access.cwd).1 = some path
      then s.tableOf? access path else s.cached? path) ∧
    (resolve access options importer specifier exported s).2.reads = s.reads ++
      ((locate access.isFile options importer specifier access.cwd).1.toList.filter
        fun path => (s.cached? path).isNone) := by
  refine ⟨?_, resolve_fst_eq access options importer specifier exported s,
    resolve_cached? access options importer specifier exported s⟩
  obtain ⟨parsed, hevents, hparsed⟩ := outcome_events access options importer specifier exported s
  have hcause (name : String) :
      FailsWith access options importer specifier exported s name ↔
        ∃ cause, (outcome access options importer specifier exported s).1 = .error cause ∧
          cause.report.name = name := failsWith_iff
  have hcache (cause : ResolutionError) :
      (outcome access options importer specifier exported s).1 = .error cause →
        (outcome access options importer specifier exported s).2.cache = s.cache ∨
          cause.report.name = "EXPORT_NOT_FOUND" :=
    outcome_cache access options importer specifier exported s
  unfold resolve
  generalize outcome access options importer specifier exported s = result
    at hevents hcause hcache ⊢
  obtain ⟨ended, s'⟩ := result
  cases ended with
  | ok value =>
    refine ⟨parsed, hevents, .inl ⟨value, rfl, hparsed, fun name hfails => ?_⟩⟩
    obtain ⟨cause, ⟨⟩, -⟩ := (hcause name).mp hfails
  | error cause =>
    refine ⟨parsed ++ [.importUnresolved cause specifier exported importer], ?_,
      .inr ⟨cause, rfl, ?_, fun name => ?_, hcache cause rfl⟩⟩
    · rw [← List.append_assoc, ← hevents]
      rfl
    · rw [List.filter_append, hparsed]
      rfl
    · rw [hcause name]
      simp [eq_comm]

end

end Import

end StateCoverage
