import StateCoverage.Proofs.Import.Location
import StateCoverage.Proofs.Import.Value
import StateCoverage.Proofs.Table

/-!
How far imports reach. The table of a file depends on the files that its own imports lead to, and on
no others: not on what those import, and on nothing behind a specifier that names a package.
-/
namespace StateCoverage
open Bindings
open Import (Attempt)

/-- An import of the file leads to this path. -/
def Module.Reaches (access : FileAccess) (options : ImportOptions) (importer : Option Text)
    (m : Module) (path : Text) : Prop :=
  ∃ importing, importer = some importing ∧ ∃ p ∈ m.pending,
    (Import.locate access.isFile options importing p.source access.cwd).1 = some path

section Agree
variable {access access' : FileAccess} {options : ImportOptions}
  (hcwd : access.cwd = access'.cwd)

include hcwd

/-- Only the file that a specifier leads to matters to an import. -/
theorem Import.resolve_congr {importer specifier : Text}
    (h : ∀ path, (locate access.isFile options importer specifier access.cwd).1 = some path ∨
      (locate access'.isFile options importer specifier access'.cwd).1 = some path →
        access.isFile path = access'.isFile path ∧ access.read path = access'.read path)
    (exported : Text) (s : Session) :
    resolve access options importer specifier exported s =
      resolve access' options importer specifier exported s := by
  have hl : locate access.isFile options importer specifier access.cwd =
      locate access'.isFile options importer specifier access'.cwd := by
    rw [hcwd] at h ⊢
    exact locate_congr fun path hp => (h path hp).1
  have houtcome : outcome access options importer specifier exported s =
      outcome access' options importer specifier exported s := by
    rw [outcome_eq, outcome_eq, looked, looked, hl]
    cases hfound : (locate access'.isFile options importer specifier access'.cwd).1 with
    | none => rfl
    | some path =>
      have hread : readTable access path = readTable access' path := by
        funext s
        unfold readTable
        rw [(h path (.inr hfound)).2]
      dsimp only
      rw [hread]
  unfold resolve
  rw [houtcome]

theorem Import.resolvePending_congr {importer : Text} {pending : List Pending}
    (h : ∀ p ∈ pending, ∀ path,
      (locate access.isFile options importer p.source access.cwd).1 = some path ∨
        (locate access'.isFile options importer p.source access'.cwd).1 = some path →
      access.isFile path = access'.isFile path ∧ access.read path = access'.read path)
    (table : Table) (s : Session) :
    resolvePending access options importer pending table s =
      resolvePending access' options importer pending table s := by
  induction pending generalizing table s with
  | nil => rfl
  | cons p rest ih =>
    have hp := resolve_congr hcwd (h p List.mem_cons_self) p.exported s
    rw [resolvePending, resolvePending, hp]
    exact ih (fun q hq => h q (List.mem_cons_of_mem p hq)) _ _

theorem Module.tableWithImports_congr_access {importer : Option Text} {m : Module}
    (h : ∀ path, m.Reaches access options importer path ∨ m.Reaches access' options importer path →
      access.isFile path = access'.isFile path ∧ access.read path = access'.read path)
    (s : Session) :
    m.tableWithImports access options importer s =
      m.tableWithImports access' options importer s := by
  cases importer with
  | none => rfl
  | some importing =>
    have hpending (table : Table) :
        Import.resolvePending access options importing m.pending table s =
          Import.resolvePending access' options importing m.pending table s := by
      refine Import.resolvePending_congr hcwd (fun p hp path hfound => h path ?_) table s
      exact hfound.imp (fun hl => ⟨importing, rfl, p, hp, hl⟩) fun hl => ⟨importing, rfl, p, hp, hl⟩
    unfold tableWithImports
    cases hm : m.pending with
    | nil => rfl
    | cons first rest =>
      rw [hm] at hpending
      dsimp only
      rw [hpending]

end Agree

namespace Session
variable {s : Session} {a : Attempt} {path : Text}

theorem mem_reads_attempt (h : path ∈ (s.attempt a).reads) : path ∈ s.reads ∨ path = a.path := by
  cases hc : s.cached? a.path with
  | some table => exact .inl (reads_attempt_of_some hc ▸ h)
  | none => simpa [reads_attempt_of_none hc] using h

theorem mem_reads_attemptAll {attempts : List Attempt}
    (h : path ∈ (s.attemptAll attempts).reads) :
    path ∈ s.reads ∨ ∃ a ∈ attempts, a.path = path := by
  induction attempts generalizing s with
  | nil => exact .inl h
  | cons a rest ih =>
    obtain hfirst | ⟨b, hb, heq⟩ := ih (s := s.attempt a) h
    · obtain hs | ha := mem_reads_attempt hfirst
      · exact .inl hs
      · exact .inr ⟨a, List.mem_cons_self, ha.symm⟩
    · exact .inr ⟨b, List.mem_cons_of_mem a hb, heq⟩

end Session

namespace Import
variable (access : FileAccess) (options : ImportOptions) (importer : Text)

/-- An import looks for its file, and nowhere else. -/
theorem resolve_probes (specifier exported : Text) (s : Session) :
    (resolve access options importer specifier exported s).2.probes =
      s.probes ++ (locate access.isFile options importer specifier access.cwd).2 := by
  have houtcome : (outcome access options importer specifier exported s).2.probes =
      s.probes ++ (locate access.isFile options importer specifier access.cwd).2 := by
    cases course access options importer specifier exported s with
    | notFound located ho => rw [ho, looked]
    | kept path table located cached ho => rw [ho, looked]
    | failed path cause located cached result ho => rw [ho, Session.probes_attempt, looked]
    | built path m located cached result ho =>
      rw [ho, Session.record, Session.probes_attempt, looked]
  unfold resolve
  generalize outcome access options importer specifier exported s = result at houtcome ⊢
  obtain ⟨ended, s'⟩ := result
  cases ended with
  | error cause => exact houtcome
  | ok value => exact houtcome

theorem resolvePending_probes (pending : List Pending) (table : Table) (s : Session) :
    (resolvePending access options importer pending table s).2.probes =
      s.probes ++ pending.flatMap fun p =>
        (locate access.isFile options importer p.source access.cwd).2 := by
  induction pending generalizing table s with
  | nil => simp [resolvePending]
  | cons p rest ih =>
    rw [resolvePending, ih, resolve_probes, List.flatMap_cons, List.append_assoc]

/-- An import from a package is only recorded. -/
theorem resolve_of_not_relative {specifier : Text} (h : isRelative specifier = false)
    (exported : Text) (s : Session) :
    resolve access options importer specifier exported s =
      (none, s.record
        (.importUnresolved (.moduleNotFound specifier importer) specifier exported importer)) := by
  simp [resolve, outcome, locate_of_not_relative h]

end Import

namespace Module
variable {access : FileAccess} {options : ImportOptions} {importer : Option Text} {m : Module}
  {path : Text}

theorem reaches_iff :
    m.Reaches access options importer path ↔
      ∃ a ∈ m.attempts access options importer, a.path = path := by
  unfold Reaches attempts
  cases importer with
  | none => simp
  | some importing => simp [Import.attempt?]

theorem reaches_of_mem_reads
    (h : path ∈ (m.tableWithImports access options importer {}).2.reads) :
    m.Reaches access options importer path := by
  obtain ⟨probes, events, hs⟩ := m.tableWithImports_session access options importer {}
  rw [hs] at h
  obtain hnone | hattempt := Session.mem_reads_attemptAll h
  · cases hnone
  · exact reaches_iff.mpr hattempt

theorem exists_candidate_of_mem_probes
    (h : path ∈ (m.tableWithImports access options importer {}).2.probes) :
    ∃ importing, importer = some importing ∧ ∃ p ∈ m.pending,
      Import.isRelative p.source = true ∧
      path ∈ Import.candidates options (Import.target importing p.source access.cwd) := by
  unfold tableWithImports at h
  cases importer with
  | none => cases h
  | some importing =>
    cases hm : m.pending with
    | nil =>
      rw [hm] at h
      cases h
    | cons first rest =>
      rw [hm] at h
      dsimp only at h
      rw [Session.record, Import.resolvePending_probes] at h
      obtain ⟨p, hp, hprobe⟩ := List.mem_flatMap.mp h
      exact ⟨importing, rfl, p, hp, Import.mem_locate_snd hprobe⟩

/-- What is kept after a file was read is the table of a file that its imports reach. -/
theorem imported_of_cached? {table : Table}
    (h : (m.tableWithImports access options importer {}).2.cached? path = some table) :
    m.Reaches access options importer path ∧
      ∃ content imported, access.read path = .ok content ∧
        Module.ofText path [] content = .ok imported ∧ table = imported.table := by
  constructor
  · obtain ⟨probes, events, hs⟩ := m.tableWithImports_session access options importer {}
    rw [hs] at h
    have hfollows := Session.follows_new.attemptAll (m.attempts access options importer)
    have hfirst := hfollows.cached path
    obtain ⟨a, ha, -⟩ := List.exists_of_findSome?_eq_some (hfirst.symm.trans h)
    obtain ⟨hmem, hpath⟩ := List.mem_filter.mp ha
    exact reaches_iff.mpr ⟨a, hmem, by simpa using hpath⟩
  · have hseen := m.tableOf?_tableWithImports access options importer {} path
    rw [Session.tableOf?, h] at hseen
    exact Import.Attempt.table?_eq_some_iff.mp hseen.symm

/-- Nothing of what a file imports is known where only its own declarations are. -/
theorem not_mem_namespace {k : Text} (hk : k ∈ m.pending.map Pending.binding) :
    k ∉ names (m.table.filter fun p => !p.2.isUnresolved) := by
  intro hin
  obtain ⟨⟨k', v⟩, hp, rfl⟩ := List.mem_map.mp hin
  obtain ⟨hmem, hknown⟩ := List.mem_filter.mp hp
  have hv := valueOf?_of_mem m.nodup_table hmem
  rw [valueOf?_table_of_mem hk] at hv
  cases hv
  cases hknown

/-- Imports are chased one level. Two sights of the files, from one working directory, that agree on
the files to which the file's own imports lead give the same table, the same events and the same
reads, whatever else differs. Only those files are read, and only candidates of relative specifiers
are looked for; one from a package is recorded and does nothing else. The kept tables are those of
the files themselves: what they import is unresolved in them, and missing when they are imported as
a whole. -/
theorem imports_reach_one_level (m : Module) (options : ImportOptions) (importer : Option Text)
    (access access' : FileAccess) (hcwd : access.cwd = access'.cwd)
    (hagree : ∀ path,
      m.Reaches access options importer path ∨ m.Reaches access' options importer path →
        access.isFile path = access'.isFile path ∧ access.read path = access'.read path) :
    m.tableWithImports access options importer {} =
      m.tableWithImports access' options importer {} ∧
    (∀ path ∈ (m.tableWithImports access options importer {}).2.reads,
      m.Reaches access options importer path) ∧
    (∀ path ∈ (m.tableWithImports access options importer {}).2.probes,
      ∃ importing, importer = some importing ∧ ∃ p ∈ m.pending,
        Import.isRelative p.source = true ∧
        path ∈ Import.candidates options (Import.target importing p.source access.cwd)) ∧
    (∀ importing specifier exported s, Import.isRelative specifier = false →
      Import.resolve access options importing specifier exported s =
        (none, s.record
          (.importUnresolved (.moduleNotFound specifier importing) specifier exported importing))) ∧
    ∀ path table, (m.tableWithImports access options importer {}).2.cached? path = some table →
      m.Reaches access options importer path ∧
      ∃ content imported, access.read path = .ok content ∧
        Module.ofText path [] content = .ok imported ∧ table = imported.table ∧
        ∀ q ∈ imported.pending, valueOf? q.binding table = some .unresolved ∧
          ∃ properties, Import.exported? table (text "*") = some (.object properties) ∧
            q.binding ∉ names properties := by
  refine ⟨tableWithImports_congr_access hcwd hagree {}, fun path => reaches_of_mem_reads,
    fun path => exists_candidate_of_mem_probes, fun importing specifier exported s hbare => ?_,
    fun path table hkept => ?_⟩
  · exact Import.resolve_of_not_relative access options importing hbare exported s
  · obtain ⟨hreach, content, imported, hread, hparsed, rfl⟩ := imported_of_cached? hkept
    refine ⟨hreach, content, imported, hread, hparsed, rfl, fun q hq => ?_⟩
    have hbinding : q.binding ∈ imported.pending.map Pending.binding := List.mem_map_of_mem hq
    exact ⟨valueOf?_table_of_mem hbinding, _, rfl, not_mem_namespace hbinding⟩

end Module

/-- A file beside one with this text, from which it imports. -/
def chain (content : String) : FileAccess :=
  { isFile path := path ∈ [text "/a/b.ts", text "/a/c.ts"]
    read path :=
      .ok (text (if path = text "/a/b.ts" then "import \x7bx\x7d from \"./c\";" else content)) }

def emptyChain : FileAccess := chain ""

def sizedChain : FileAccess := chain "export const x = \"p-1\";"

/-- A file that imports from the first file of the chain what that file imports. -/
def chainStart : Module := ⟨[.importing (text "./b") [⟨text "x", text "x"⟩]], text "/a/a.ts", 0⟩

def chainImporter : Option Text := some (text "/a/a.ts")

theorem reaches_chainStart {content : String} {path : Text}
    (h : chainStart.Reaches (chain content) {} chainImporter path) : path = text "/a/b.ts" := by
  obtain ⟨importing, himporting, p, hp, hl⟩ := h
  cases himporting
  obtain rfl : p = ⟨text "x", text "x", text "./b"⟩ := List.mem_singleton.mp hp
  have hfound : (Import.locate (chain "").isFile {} (text "/a/a.ts") (text "./b")
      (chain "").cwd).1 =
      some (text "/a/b.ts") := by decide
  exact Option.some.inj (hl.symm.trans hfound)

theorem chain_reaches_one_level :
    emptyChain.cwd = sizedChain.cwd ∧
    (∀ path, chainStart.Reaches emptyChain {} chainImporter path ∨
        chainStart.Reaches sizedChain {} chainImporter path →
      emptyChain.isFile path = sizedChain.isFile path ∧
      emptyChain.read path = sizedChain.read path) ∧
    chainStart.tableWithImports emptyChain {} chainImporter {} =
      chainStart.tableWithImports sizedChain {} chainImporter {} ∧
    text "/a/b.ts" ∈ (chainStart.tableWithImports emptyChain {} chainImporter {}).2.reads ∧
    chainStart.Reaches emptyChain {} chainImporter (text "/a/b.ts") ∧
    text "/a/b" ∈ (chainStart.tableWithImports emptyChain {} chainImporter {}).2.probes ∧
    (∃ p ∈ chainStart.pending, Import.isRelative p.source = true ∧
      text "/a/b" ∈ Import.candidates {} (Import.target (text "/a/a.ts") p.source [Path.slash])) ∧
    Import.isRelative (text "react") = false ∧
    (Import.resolve emptyChain {} (text "/a/a.ts") (text "react") (text "x") {}).2.reads = [] ∧
    ∃ table, (chainStart.tableWithImports emptyChain {} chainImporter {}).2.cached?
        (text "/a/b.ts") = some table ∧
      ∃ imported : Module,
        Module.ofText (text "/a/b.ts") [] (text "import \x7bx\x7d from \"./c\";") = .ok imported ∧
        ∀ q ∈ imported.pending, valueOf? q.binding table = some .unresolved := by
  have hagree : ∀ path, chainStart.Reaches emptyChain {} chainImporter path ∨
      chainStart.Reaches sizedChain {} chainImporter path →
      emptyChain.isFile path = sizedChain.isFile path ∧
      emptyChain.read path = sizedChain.read path := by
    intro path hreach
    obtain rfl : path = text "/a/b.ts" := hreach.elim reaches_chainStart reaches_chainStart
    exact ⟨rfl, rfl⟩
  have hread : text "/a/b.ts" ∈
      (chainStart.tableWithImports emptyChain {} chainImporter {}).2.reads := by decide +kernel
  have hprobe : text "/a/b" ∈
      (chainStart.tableWithImports emptyChain {} chainImporter {}).2.probes := by decide +kernel
  have hbare : Import.isRelative (text "react") = false := by decide
  have hkept : ((chainStart.tableWithImports emptyChain {} chainImporter {}).2.cached?
      (text "/a/b.ts")).isSome = true := by decide +kernel
  obtain ⟨table, hkept⟩ := Option.isSome_iff_exists.mp hkept
  obtain ⟨hsame, hreads, hprobes, hpackage, hcached⟩ :=
    Module.imports_reach_one_level chainStart {} chainImporter emptyChain sizedChain rfl hagree
  obtain ⟨_, ⟨⟩, hcandidate⟩ := hprobes _ hprobe
  have hpackage := hpackage (text "/a/a.ts") (text "react") (text "x") {} hbare
  obtain ⟨-, content, imported, hcontent, hparsed, -, hunresolved⟩ := hcached _ table hkept
  cases hcontent
  exact ⟨rfl, hagree, hsame, hread, hreads _ hread, hprobe, hcandidate, hbare,
    by rw [hpackage]; rfl,
    table, hkept, imported, hparsed, fun q hq => (hunresolved q hq).1⟩

end StateCoverage
