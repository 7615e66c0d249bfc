import StateCoverage.Proofs.Import.Location
import StateCoverage.Proofs.Path.Place

/-!
The search for the file of a specifier. A specifier is a walk from the directory of the importing
file, and the paths that are tried are those of the place where the walk ends, in a fixed order up
to the first that exists.
-/
namespace StateCoverage.Import
open StateCoverage.Path

/-- The place that a specifier names: the walk of its segments from the directory of the importing
file, or from the root. -/
def place (importer specifier cwd : Text) : Place :=
  if isAbsolute specifier then Place.ofPath specifier
  else (Place.seenFrom cwd importer).directory.walk specifier

/-- A search through paths: it ends at the first that is a file, or has looked at all. -/
inductive Search (isFile : Text → Bool) : List Text → Option Text × List Text → Prop
  | found {before after : List Text} {path : Text} :
      (∀ p ∈ before, isFile p = false) → isFile path = true →
      Search isFile (before ++ path :: after) (some path, before ++ [path])
  | missed {paths : List Text} : (∀ p ∈ paths, isFile p = false) → Search isFile paths (none, paths)

section Places
variable (importer specifier cwd : Text)

theorem proper_place : (place importer specifier cwd).Proper := by
  unfold place
  split
  · exact Place.proper_ofPath specifier
  · exact (Place.proper_seenFrom cwd importer).directory.walk specifier

/-- The target of a specifier is the written form of its place. -/
theorem target_eq : target importer specifier cwd = (place importer specifier cwd).path := by
  have hdir := (Place.proper_seenFrom cwd importer).directory
  rw [target, Place.absolute_eq, Place.parent_path (Place.proper_seenFrom cwd importer), place]
  cases hs : isAbsolute specifier with
  | true => rw [join, if_pos hs, if_pos rfl, Place.normalize_eq hs]
  | false =>
    rw [Place.normalize_eq (Place.isAbsolute_join (Place.isAbsolute_path hdir)),
      Place.ofPath_join (Place.isAbsolute_path hdir) hs, Place.ofPath_path hdir]
    rfl

/-- The walk to a relative path starts in the working directory, so its absolute form leads to the
same place. -/
theorem place_absolute (cwd' : Text) :
    place (absolute cwd importer) specifier cwd' = place importer specifier cwd := by
  rw [place, place, Place.seenFrom, if_pos (Place.isAbsolute_absolute cwd importer),
    Place.ofPath_absolute]

theorem place_of_relative (himporter : isAbsolute importer = false)
    (hspecifier : isAbsolute specifier = false) :
    place importer specifier cwd = ((Place.ofPath cwd).walk importer).directory.walk specifier := by
  rw [place, if_neg (Bool.eq_false_iff.mp hspecifier), Place.seenFrom,
    if_neg (Bool.eq_false_iff.mp himporter)]

end Places

theorem target_eq_target_iff {importer specifier cwd importer' specifier' cwd' : Text} :
    target importer specifier cwd = target importer' specifier' cwd' ↔
      place importer specifier cwd = place importer' specifier' cwd' := by
  rw [target_eq, target_eq]
  refine ⟨fun h => ?_, fun h => congrArg Place.path h⟩
  rw [← Place.ofPath_path (proper_place importer specifier cwd), h,
    Place.ofPath_path (proper_place importer' specifier' cwd')]

section Search
variable {isFile : Text → Bool} {options : ImportOptions}

theorem search_probe (isFile : Text → Bool) (paths : List Text) :
    Search isFile paths (probe isFile paths) := by
  induction paths with
  | nil => exact .missed fun p hp => absurd hp List.not_mem_nil
  | cons path rest ih =>
    by_cases h : isFile path = true
    · rw [probe, if_pos h]
      exact @Search.found _ [] rest path (fun p hp => absurd hp List.not_mem_nil) h
    · have hfirst : isFile path = false := Bool.eq_false_iff.mpr h
      rw [probe, if_neg h]
      generalize probe isFile rest = answer at ih ⊢
      cases ih with
      | @found before after found hbefore hpath =>
        exact @Search.found _ (path :: before) after found
          (List.forall_mem_cons.mpr ⟨hfirst, hbefore⟩) hpath
      | missed hnone => exact .missed (List.forall_mem_cons.mpr ⟨hfirst, hnone⟩)

/-- Does an extension make a file name of whatever it is put behind? -/
def IsExtension (extension : Text) : Prop :=
  slash ∉ extension ∧ ¬ ∀ p ∈ extension, p = .scalar '.'

instance (extension : Text) : Decidable (IsExtension extension) :=
  inferInstanceAs (Decidable (_ ∧ _))

theorem IsExtension.isName {extension t : Text} (h : IsExtension extension) (ht : slash ∉ t) :
    Place.IsName (t ++ extension) := by
  obtain ⟨p, hp, hdot⟩ : ∃ p ∈ extension, p ≠ .scalar '.' := by
    simpa only [not_forall, exists_prop] using h.2
  have hmem : p ∈ t ++ extension := List.mem_append_right t hp
  refine ⟨List.ne_nil_of_mem hmem, ?_, ?_, fun hslash => ?_⟩
  · intro heq
    exact hdot (by simpa [heq, here] using hmem)
  · intro heq
    exact hdot (by simpa [heq, up] using hmem)
  · exact (List.mem_append.mp hslash).elim ht h.1

/-- With such extensions every path that is tried for a place is the written form of one. -/
theorem exists_place_of_mem_candidates {place : Place} {path : Text} (hplace : place.Proper)
    (hextensions : ∀ e ∈ options.extensions, IsExtension e)
    (hbasename : slash ∉ options.indexBasename) (h : path ∈ candidates options place.path) :
    ∃ p : Place, p.Proper ∧ path = p.path := by
  simp only [candidates, List.cons_append, List.mem_cons, List.mem_append, List.mem_map] at h
  obtain rfl | ⟨e, he, rfl⟩ | ⟨e, he, rfl⟩ := h
  · exact ⟨place, hplace, rfl⟩
  · exact Place.exists_path_append hplace fun t ht => (hextensions e he).isName ht
  · have hname := (hextensions e he).isName hbasename
    have habs : isAbsolute (options.indexBasename ++ e) = false :=
      Bool.eq_false_iff.mpr fun habs => hname.2.2.2 (List.mem_of_head? (of_decide_eq_true habs))
    exact ⟨_, hplace.enter hname, Place.join_path hplace habs⟩

variable {importer specifier cwd : Text}

theorem locate_eq_probe (h : isRelative specifier = true) :
    locate isFile options importer specifier cwd =
      probe isFile (candidates options (place importer specifier cwd).path) := by
  rw [locate_of_relative h, target_eq]

theorem head?_probe_candidates (path : Text) :
    (probe isFile (candidates options path)).2.head? = some path := by
  rw [candidates, List.cons_append, probe]
  split <;> rfl

theorem isRelative_of_locate {found : Text}
    (h : (locate isFile options importer specifier cwd).1 = some found) :
    isRelative specifier = true := by
  by_contra hn
  rw [locate_of_not_relative (Bool.eq_false_iff.mpr hn)] at h
  cases h

theorem normal_of_locate (hextensions : ∀ e ∈ options.extensions, IsExtension e)
    (hbasename : slash ∉ options.indexBasename) {found : Text}
    (h : (locate isFile options importer specifier cwd).1 = some found) :
    isAbsolute found = true ∧ normalize found = found := by
  rw [locate_eq_probe (isRelative_of_locate h), probe_fst] at h
  obtain ⟨p, hp, rfl⟩ := exists_place_of_mem_candidates (proper_place importer specifier cwd)
    hextensions hbasename (List.mem_of_find?_eq_some h)
  exact ⟨Place.isAbsolute_path hp, Place.normalize_path hp⟩

end Search

/-- Where a specifier leads. A package is not looked for. A relative specifier is a walk from the
directory of the importing file, or from the root, to a place; the paths that are looked at are the
written form of this place, this with each extension, and the index files in it, up to the first
that exists. (An index file is in the directory of the place unless its name is an absolute path.)
With extensions that make file names, and a name for index files without a slash, what is found is
an absolute path in normal form. Two specifiers have the same target exactly if they are walks to
the same place, and then the search for both is the same. The walk to an importing path that is
relative starts in the working directory, and so the absolute form of the path leads to the same
place. -/
theorem locate_walks (isFile : Text → Bool) (options : ImportOptions)
    (importer specifier cwd : Text) :
    let path := (place importer specifier cwd).path
    (isRelative specifier = false →
      locate isFile options importer specifier cwd = (none, [])) ∧
    (isRelative specifier = true →
      let paths := path :: options.extensions.map (fun e => path ++ e) ++
        options.extensions.map fun e => join path (options.indexBasename ++ e)
      Search isFile paths (locate isFile options importer specifier cwd) ∧
        (locate isFile options importer specifier cwd).2.head? = some path ∧
        paths.length = 1 + 2 * options.extensions.length) ∧
    (∀ name, isAbsolute name = false →
      join path name = ((place importer specifier cwd).enter name).path) ∧
    ((∀ e ∈ options.extensions, IsExtension e) → slash ∉ options.indexBasename →
      ∀ found, (locate isFile options importer specifier cwd).1 = some found →
        isAbsolute found = true ∧ normalize found = found) ∧
    (∀ importer' specifier' cwd',
      (target importer specifier cwd = target importer' specifier' cwd' ↔
        place importer specifier cwd = place importer' specifier' cwd') ∧
      (isRelative specifier = true → isRelative specifier' = true →
        place importer specifier cwd = place importer' specifier' cwd' →
        locate isFile options importer specifier cwd =
          locate isFile options importer' specifier' cwd')) ∧
    (isAbsolute importer = false → isAbsolute specifier = false →
      place importer specifier cwd =
        ((Place.ofPath cwd).walk importer).directory.walk specifier) ∧
    ∀ cwd', place (absolute cwd importer) specifier cwd' = place importer specifier cwd := by
  intro path
  refine ⟨locate_of_not_relative, fun h => ⟨?_, ?_, ?_⟩,
    fun name => Place.join_path (proper_place importer specifier cwd),
    fun hextensions hbasename found => normal_of_locate hextensions hbasename,
    fun importer' specifier' cwd' => ⟨target_eq_target_iff, fun h h' heq => ?_⟩,
    place_of_relative importer specifier cwd, place_absolute importer specifier cwd⟩
  · rw [locate_eq_probe h]
    exact search_probe isFile _
  · rw [locate_eq_probe h]
    exact head?_probe_candidates path
  · simp only [List.length_append, List.length_cons, List.length_map]
    omega
  · rw [locate_eq_probe h, locate_eq_probe h', heq]

def isThemeIndex (path : Text) : Bool := path = text "/project/src/theme/index.ts"

/-- It is found from a sibling of its directory and from within, and from a relative path; all
searches are the same. -/
theorem themeIndex_found_alike :
    let options : ImportOptions := {}
    let sibling := text "/project/src/ui/Button.tsx"
    let inner := text "/project/src/theme/Button.tsx"
    let found := text "/project/src/theme/index.ts"
    let cwd := text "/project/src"
    (isRelative (text ".././theme") = true ∧ isRelative (text ".") = true ∧
      (∀ e ∈ options.extensions, IsExtension e) ∧ slash ∉ options.indexBasename ∧
      place sibling (text ".././theme") cwd = place inner (text ".") cwd) ∧
    locate isThemeIndex options sibling (text ".././theme") cwd =
      locate isThemeIndex options inner (text ".") cwd ∧
    (locate isThemeIndex options sibling (text ".././theme") cwd).1 = some found ∧
    isAbsolute found = true ∧ normalize found = found ∧
    locate isThemeIndex options sibling (text "react") cwd = (none, []) ∧
    Search isThemeIndex (candidates options (text "/project/src/theme"))
      (locate isThemeIndex options sibling (text ".././theme") cwd) ∧
    join (text "/project/src/theme") (text "index.ts") =
      ((place sibling (text ".././theme") cwd).enter (text "index.ts")).path ∧
    place (text "ui/Button.tsx") (text ".././theme") cwd =
      ((Place.ofPath cwd).walk (text "ui/Button.tsx")).directory.walk (text ".././theme") ∧
    place sibling (text ".././theme") [slash] = place (text "ui/Button.tsx") (text ".././theme") cwd
    := by
  intro options sibling inner found cwd
  have hr : isRelative (text ".././theme") = true := by decide
  have hr' : isRelative (text ".") = true := by decide
  have hextensions : ∀ e ∈ options.extensions, IsExtension e := by decide
  have hbasename : slash ∉ options.indexBasename := by decide
  have hpath : (place sibling (text ".././theme") cwd).path = text "/project/src/theme" := by
    decide +kernel
  have hplace : place sibling (text ".././theme") cwd = place inner (text ".") cwd := by
    decide +kernel
  have hfound : (locate isThemeIndex options sibling (text ".././theme") cwd).1 = some found := by
    decide +kernel
  have hsibling : absolute cwd (text "ui/Button.tsx") = sibling := by decide +kernel
  obtain ⟨-, hsearch, hjoin, hnormal, halike, -⟩ :=
    locate_walks isThemeIndex options sibling (text ".././theme") cwd
  obtain ⟨-, -, -, -, -, hrelative, habsolute⟩ :=
    locate_walks isThemeIndex options (text "ui/Button.tsx") (text ".././theme") cwd
  rw [hpath] at hsearch hjoin
  rw [hsibling] at habsolute
  obtain ⟨habs, hself⟩ := hnormal hextensions hbasename found hfound
  exact ⟨⟨hr, hr', hextensions, hbasename, hplace⟩,
    (halike inner (text ".") cwd).2 hr hr' hplace, hfound, habs, hself,
    (locate_walks isThemeIndex options sibling (text "react") cwd).1 (by decide), (hsearch hr).1,
    hjoin (text "index.ts") (by decide), hrelative (by decide) (by decide), habsolute [slash]⟩

end StateCoverage.Import
