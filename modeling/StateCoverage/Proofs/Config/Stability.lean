import StateCoverage.Proofs.Config.Load
import StateCoverage.Proofs.Coverage

/-!
What every loaded configuration is like. Its fields hold what they may hold, and it is stable: its
own data passes the check again, whoever is known then, and gives the same configuration.
-/
namespace StateCoverage
open Validation

/-- What the fields of a configuration may hold. -/
structure Config.Valid (c : Config) : Prop where
  extensions : ∀ extension ∈ c.resolver.extensions, ∃ rest, extension = .scalar '.' :: rest
  indexBasename : c.resolver.indexBasename ≠ [] ∧ Path.slash ∉ c.resolver.indexBasename
  levels : ∀ l : LogLevel, l = c.logging.level ∨ (∃ o ∈ c.logging.outputs, o.level = some l) →
    l.name ∈ ["DEBUG", "INFO", "WARNING", "ERROR", "CRITICAL"]
  destinations : ∀ o ∈ c.logging.outputs, o.destination = text "stderr" ∨
    o.destination = text "stdout" ∨ Path.isAbsolute o.destination = true

theorem LogLevel.name_mem (l : LogLevel) :
    l.name ∈ ["DEBUG", "INFO", "WARNING", "ERROR", "CRITICAL"] := by
  cases l <;> decide

theorem Config.Sound.valid {c : Config} (h : c.Sound) : c.Valid where
  extensions extension hmem := by
    obtain ⟨rest, rfl⟩ := List.isPrefixOf_iff_prefix.mp (h.resolver.extensions extension hmem)
    exact ⟨rest, rfl⟩
  indexBasename := h.resolver.indexBasename
  levels l _ := l.name_mem
  destinations o ho := (h.outputs o ho).imp_right (Or.imp_right And.left)

namespace Config
variable {files : Text → Option Opened} {root : Text} {named : Option Text}
  {surroundings : Surroundings} {given entries : List (Data × Data)} {c : Config}

/-- What the check lets through passes it again as its own data, with any home directories. -/
theorem recheck_eq_ok {home : Text → Option Text} (h : Validation.config home entries = .valid c)
    (home' : Text → Option Text) : recheck home' c = .ok c := by
  rw [recheck, config_toEntries (config_valid h)]

/-- A loaded configuration is one that the first check let through. -/
theorem exists_valid_of_load (h : load files root named surroundings given = .ok c) :
    ∃ entries, Validation.config surroundings.home entries = .valid c := by
  unfold load at h
  split at h
  · cases h
  · split at h
    · cases h
    · next fileEntries _ =>
      unfold ofLayers at h
      split at h
      · cases h
      · dsimp only at h
        split at h
        · split at h
          · next first hvalid =>
            rw [recheck_eq_ok hvalid surroundings.home] at h
            cases h
            exact ⟨_, hvalid⟩
          · cases h
          · cases h
        · cases h

theorem load_ne_refusedAgain (fault : Fault) :
    load files root named surroundings given ≠ .error (.refusedAgain fault) := by
  intro h
  cases crash_iff.mpr ⟨h, by rintro cause ⟨⟩⟩ with
  | file _ hcrash => cases hcrash
  | layers _ _ hcrash => cases hcrash

/-- Whatever a configuration is loaded from, its fields hold what they may hold, and the check of
its own data gives the same configuration. That check never refuses or changes what the first one
let through, so no load ends in it. -/
theorem loaded_valid_and_stable :
    (∀ files root named surroundings given c,
      load files root named surroundings given = .ok c →
        c.Valid ∧ ∀ home, Validation.config home c.toEntries = .valid c) ∧
    (∀ home entries c, Validation.config home entries = .valid c →
      ∀ home', recheck home' c = .ok c) ∧
    ∀ files root named surroundings given fault,
      load files root named surroundings given ≠ .error (.refusedAgain fault) := by
  refine ⟨fun files root named surroundings given c h => ?_, fun home entries c => recheck_eq_ok,
    fun files root named surroundings given => load_ne_refusedAgain⟩
  obtain ⟨entries, hvalid⟩ := exists_valid_of_load h
  have hsound := config_valid hvalid
  exact ⟨hsound.valid, fun home => config_toEntries hsound⟩

def homeLog : List (Data × Data) :=
  [(.string (text "logging"), .record [(text "outputs",
    .list [.record [(text "destination", .string (text "~//logs/./a.log"))]])])]

theorem homeLog_valid_and_stable :
    let home := fun user => if user = [] then some (text "/home/me/") else none
    ∃ c, load (fun _ => none) [] none ⟨[], home⟩ homeLog = .ok c ∧
      c.logging.outputs.map (·.destination) = [text "/home/me/logs/a.log"] ∧
      c.Valid ∧ Validation.config (fun _ => none) c.toEntries = .valid c ∧
      recheck (fun _ => none) c = .ok c := by
  intro home
  obtain ⟨c, hc, hdestination⟩ := exists_ok_of_map_toOption
    (show (load (fun _ => none) [] none ⟨[], home⟩ homeLog).toOption.map
        (·.logging.outputs.map (·.destination)) = some [text "/home/me/logs/a.log"] by
      decide +kernel)
  obtain ⟨hload, hagain, -⟩ := loaded_valid_and_stable
  obtain ⟨hvalid, hstable⟩ := hload _ _ _ _ _ c hc
  exact ⟨c, hc, hdestination, hvalid, hstable _, hagain _ _ c (hstable fun _ => none) _⟩

end Config

end StateCoverage
