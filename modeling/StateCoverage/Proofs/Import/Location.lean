import StateCoverage.Import.Location

/-!
Which file a specifier leads to. It is the first candidate that exists, and whether the others exist
behind it does not matter.
-/
namespace StateCoverage.Import

section Probe
variable {isFile isFile' : Text → Bool} {paths : List Text}

theorem probe_fst (isFile : Text → Bool) (paths : List Text) :
    (probe isFile paths).1 = paths.find? isFile := by
  induction paths with
  | nil => rfl
  | cons path rest ih =>
    by_cases h : isFile path = true
    · simp [probe, h]
    · simp [probe, h, ih]

theorem probe_snd_subset (isFile : Text → Bool) (paths : List Text) :
    (probe isFile paths).2 ⊆ paths := by
  induction paths with
  | nil => exact List.Subset.refl []
  | cons path rest ih =>
    by_cases h : isFile path = true
    · simp [probe, h]
    · simpa [probe, h] using List.cons_subset_cons path ih

/-- Two sights of the files that agree where either of them stops take the same course. -/
theorem probe_congr
    (h : ∀ path, (probe isFile paths).1 = some path ∨ (probe isFile' paths).1 = some path →
      isFile path = isFile' path) :
    probe isFile paths = probe isFile' paths := by
  induction paths with
  | nil => rfl
  | cons path rest ih =>
    by_cases hp : isFile path = true
    · have hp' : isFile' path = true := by
        rw [← h path (.inl (by simp [probe, hp]))]
        exact hp
      simp [probe, hp, hp']
    · have hp' : ¬ isFile' path = true := by
        intro hstop
        rw [← h path (.inr (by simp [probe, hstop]))] at hstop
        exact hp hstop
      have hrest : probe isFile rest = probe isFile' rest :=
        ih fun q hq => h q (by simpa [probe, hp, hp'] using hq)
      simp [probe, hp, hp', hrest]

end Probe

section Locate
variable {isFile isFile' : Text → Bool} {options : ImportOptions}
  {importer specifier cwd path : Text}

/-- A package is not looked for. -/
theorem locate_of_not_relative (h : isRelative specifier = false) :
    locate isFile options importer specifier cwd = (none, []) := by
  simp [locate, h]

theorem locate_of_relative (h : isRelative specifier = true) :
    locate isFile options importer specifier cwd =
      probe isFile (candidates options (target importer specifier cwd)) := by
  simp [locate, h]

theorem locate_eq_none_iff :
    (locate isFile options importer specifier cwd).1 = none ↔
      isRelative specifier = false ∨
        ∀ path ∈ candidates options (target importer specifier cwd), isFile path = false := by
  cases h : isRelative specifier with
  | false => simp [locate_of_not_relative h]
  | true => simp [locate_of_relative h, probe_fst]

/-- Only candidates of relative specifiers are looked at. -/
theorem mem_locate_snd (h : path ∈ (locate isFile options importer specifier cwd).2) :
    isRelative specifier = true ∧ path ∈ candidates options (target importer specifier cwd) := by
  cases hr : isRelative specifier with
  | false => simp [locate_of_not_relative hr] at h
  | true =>
    rw [locate_of_relative hr] at h
    exact ⟨rfl, probe_snd_subset isFile _ h⟩

theorem locate_congr
    (h : ∀ path, (locate isFile options importer specifier cwd).1 = some path ∨
      (locate isFile' options importer specifier cwd).1 = some path → isFile path = isFile' path) :
    locate isFile options importer specifier cwd =
      locate isFile' options importer specifier cwd := by
  cases hr : isRelative specifier with
  | false => rw [locate_of_not_relative hr, locate_of_not_relative hr]
  | true =>
    rw [locate_of_relative hr, locate_of_relative hr] at h ⊢
    exact probe_congr h

end Locate

end StateCoverage.Import
