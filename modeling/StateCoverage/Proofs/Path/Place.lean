import StateCoverage.Proofs.Path
import Mathlib.Data.List.Basic

/-!
Places below the root, and paths as walks to them. The normal form of an absolute path is the
written form of the place that its segments lead to, and each place has one written form.
-/
namespace StateCoverage.Path

/-- A place below the root: the slashes that stand for the root, and the names on the way. -/
structure Place where
  slashes : Nat
  names : List Text
deriving DecidableEq

namespace Place

/-- One segment further: an empty one and `.` stay, `..` drops the last name, if there is one. -/
def step (place : Place) (segment : Text) : Place :=
  if segment = [] ∨ segment = here then place
  else if segment = up then { place with names := place.names.dropLast }
  else { place with names := place.names ++ [segment] }

/-- Where the segments of a path lead. -/
def walk (place : Place) (path : Text) : Place := (segments path).foldl step place

/-- The root that a path starts from: it has two slashes where exactly two lead the path, else
one. -/
def root (path : Text) : Place := ⟨if (path.takeWhile (· = slash)).length = 2 then 2 else 1, []⟩

def ofPath (path : Text) : Place := (root path).walk path

/-- The place that a path names, seen from a directory. -/
def seenFrom (cwd path : Text) : Place :=
  if isAbsolute path then ofPath path else (ofPath cwd).walk path

def directory (place : Place) : Place := { place with names := place.names.dropLast }

def enter (place : Place) (name : Text) : Place := { place with names := place.names ++ [name] }

def path (place : Place) : Text := List.replicate place.slashes slash ++ ofSegments place.names

/-- A name that no walk resolves any further. -/
def IsName (name : Text) : Prop := name ≠ [] ∧ name ≠ here ∧ name ≠ up ∧ slash ∉ name

/-- What walks lead to: a root of one or two slashes, and names. -/
structure Proper (place : Place) : Prop where
  slashes : place.slashes = 1 ∨ place.slashes = 2
  names : ∀ name ∈ place.names, IsName name

section Walk
variable {place : Place} {segment a b : Text}

theorem walk_nil (place : Place) : place.walk [] = place := rfl

theorem walk_append (place : Place) (a b : Text) :
    place.walk (a ++ slash :: b) = (place.walk a).walk b := by
  rw [walk, segments, slash, Text.cut_append, List.foldl_append]
  rfl

theorem walk_slash_cons (place : Place) (b : Text) : place.walk (slash :: b) = place.walk b :=
  walk_append place [] b

theorem walk_replicate_append (place : Place) (count : Nat) (b : Text) :
    place.walk (List.replicate count slash ++ b) = place.walk b := by
  induction count with
  | zero => rfl
  | succ count ih => rw [List.replicate_succ, List.cons_append, walk_slash_cons, ih]

theorem step_of_isName (h : IsName segment) (place : Place) :
    place.step segment = place.enter segment := by
  rw [step, if_neg (not_or.mpr ⟨h.1, h.2.1⟩), if_neg h.2.2.1, enter]

theorem foldl_step_of_isName {names : List Text} (h : ∀ name ∈ names, IsName name)
    (place : Place) : names.foldl step place = { place with names := place.names ++ names } := by
  induction names generalizing place with
  | nil => simp
  | cons name rest ih =>
    have hrest := ih fun n hn => h n (List.mem_cons_of_mem _ hn)
    rw [List.foldl_cons, step_of_isName (h name List.mem_cons_self), hrest]
    simp [enter]

theorem walk_ofSegments {names : List Text} (h : ∀ name ∈ names, IsName name) (place : Place) :
    place.walk (ofSegments names) = { place with names := place.names ++ names } := by
  by_cases hne : names = []
  · subst hne
    simp [ofSegments, Text.join, walk_nil]
  · rw [walk, segments, ofSegments, slash, Text.cut_join hne fun n hn => (h n hn).2.2.2,
      foldl_step_of_isName h]

theorem Proper.step (h : place.Proper) (hs : slash ∉ segment) : (place.step segment).Proper := by
  unfold Place.step
  split
  · exact h
  · next hstay =>
    obtain ⟨hne, hhere⟩ := not_or.mp hstay
    split
    · exact ⟨h.slashes, fun n hn => h.names n (List.dropLast_subset _ hn)⟩
    · next hup =>
      refine ⟨h.slashes, fun n hn => ?_⟩
      obtain hn | hn := List.mem_append.mp hn
      · exact h.names n hn
      · exact List.mem_singleton.mp hn ▸ ⟨hne, hhere, hup, hs⟩

theorem Proper.walk (h : place.Proper) (path : Text) : (place.walk path).Proper := by
  have hsegments : ∀ s ∈ segments path, slash ∉ s := fun s hs => Text.not_mem_of_mem_cut hs
  unfold Place.walk
  generalize segments path = list at hsegments
  induction list generalizing place with
  | nil => exact h
  | cons s rest ih =>
    exact ih (h.step (hsegments s List.mem_cons_self)) fun t ht =>
      hsegments t (List.mem_cons_of_mem _ ht)

theorem proper_root (path : Text) : (root path).Proper := by
  refine ⟨?_, fun n hn => absurd hn List.not_mem_nil⟩
  unfold root
  split
  · exact .inr rfl
  · exact .inl rfl

theorem proper_ofPath (path : Text) : (ofPath path).Proper := (proper_root path).walk path

theorem Proper.directory (h : place.Proper) : place.directory.Proper :=
  ⟨h.slashes, fun n hn => h.names n (List.dropLast_subset _ hn)⟩

theorem Proper.enter {name : Text} (h : place.Proper) (hn : IsName name) :
    (place.enter name).Proper := by
  rw [← step_of_isName hn]
  exact h.step hn.2.2.2

end Walk

section Written
variable {place : Place} {name path : Text}

theorem ofSegments_concat {names : List Text} (hne : names ≠ []) (name : Text) :
    ofSegments (names ++ [name]) = ofSegments names ++ slash :: name := by
  rw [ofSegments, Text.join_concat _ _ hne, List.append_assoc]
  rfl

theorem ofSegments_ne_nil {names : List Text} (h : ∀ name ∈ names, IsName name)
    (hne : names ≠ []) : ofSegments names ≠ [] := by
  obtain ⟨first, rest, rfl⟩ := List.exists_cons_of_ne_nil hne
  have hfirst := (h first List.mem_cons_self).1
  cases rest with
  | nil => exact hfirst
  | cons next rest => simp [ofSegments, Text.join, hfirst]

theorem getLast?_ofSegments {names : List Text} (h : ∀ name ∈ names, IsName name) :
    (ofSegments names).getLast? ≠ some slash := by
  intro hslash
  obtain rfl | ⟨init, last, rfl⟩ := List.eq_nil_or_concat' names
  · cases hslash
  · have hlast : IsName last := h last (by simp)
    have heq : (ofSegments (init ++ [last])).getLast? = last.getLast? := by
      obtain rfl | hne := eq_or_ne init []
      · rfl
      · rw [ofSegments_concat hne, ← List.singleton_append, ← List.append_assoc,
          List.getLast?_append_of_ne_nil _ hlast.1]
    exact hlast.2.2.2 (List.mem_of_getLast? (heq.symm.trans hslash))

theorem root_path (h : place.Proper) : root place.path = ⟨place.slashes, []⟩ := by
  have hhead : (ofSegments place.names).head? ≠ some slash :=
    head?_ofSegments fun name hname => ⟨(h.names name hname).1, (h.names name hname).2.2.2⟩
  rw [root, path, takeWhile_slash_replicate_append _ hhead, List.length_replicate]
  obtain hone | htwo := h.slashes
  · rw [hone]; rfl
  · rw [htwo]; rfl

/-- The written form leads back to the place. -/
theorem ofPath_path (h : place.Proper) : ofPath place.path = place := by
  rw [ofPath, root_path h, path, walk_replicate_append, walk_ofSegments h.names]
  rfl

theorem isAbsolute_path (h : place.Proper) : isAbsolute place.path = true := by
  rw [path, isAbsolute]
  obtain hone | htwo := h.slashes
  · rw [hone]; rfl
  · rw [htwo]; rfl

/-- The last character is a slash at the root only. -/
theorem getLast?_path (h : place.Proper) :
    place.path.getLast? = some slash ↔ place.names = [] := by
  constructor
  · intro hslash
    by_contra hne
    rw [path, List.getLast?_append_of_ne_nil _ (ofSegments_ne_nil h.names hne)] at hslash
    exact getLast?_ofSegments h.names hslash
  · intro hnil
    rw [path, hnil, ofSegments, Text.join, List.append_nil, List.getLast?_replicate]
    obtain hone | htwo := h.slashes <;> simp [*]

/-- A file in a directory is written behind it. -/
theorem join_path (h : place.Proper) (hname : isAbsolute name = false) :
    join place.path name = (place.enter name).path := by
  have hne : place.path ≠ [] := by
    intro hnil
    have habs := isAbsolute_path h
    rw [hnil] at habs
    cases habs
  rw [join, if_neg (Bool.eq_false_iff.mp hname)]
  by_cases hroot : place.names = []
  · rw [if_pos (.inr ((getLast?_path h).mpr hroot)), path, path, enter, hroot]
    simp [ofSegments, Text.join]
  · rw [if_neg (not_or.mpr ⟨hne, fun hslash => hroot ((getLast?_path h).mp hslash)⟩), path, path,
      enter, ofSegments_concat hroot, List.append_assoc]

theorem bare_concat_slash (p : Text) : bare (p ++ [slash]) = bare p := by
  simp [bare]

theorem bare_of_getLast? {p : Text} (h : p.getLast? ≠ some slash) : bare p = p := by
  obtain rfl | ⟨init, last, rfl⟩ := List.eq_nil_or_concat' p
  · rfl
  · have hlast : last ≠ slash := by simpa using h
    simp [bare, hlast]

theorem bare_replicate (count : Nat) : bare (List.replicate count slash) = [] := by
  simp [bare]

theorem parent_append {last : Text} (front : Text) (h : slash ∉ last) :
    parent (front ++ slash :: last) =
      if bare front = [] then front ++ [slash] else bare front := by
  have hdrop : (front ++ slash :: last).reverse.dropWhile (· ≠ slash) = slash :: front.reverse := by
    rw [List.reverse_append, List.reverse_cons, List.append_assoc, List.dropWhile_append_of_pos]
    · simp
    · intro p hp
      exact decide_eq_true fun hslash => h (hslash ▸ List.mem_reverse.mp hp)
  rw [parent, hdrop, List.reverse_cons, List.reverse_reverse, bare_concat_slash]

theorem parent_path (h : place.Proper) : parent place.path = place.directory.path := by
  obtain ⟨slashes, names⟩ := place
  obtain rfl | ⟨init, last, rfl⟩ := List.eq_nil_or_concat' names
  · obtain hone | htwo := h.slashes
    · cases hone; rfl
    · cases htwo; rfl
  · have hlast : IsName last := h.names last (by simp)
    have hinit : ∀ name ∈ init, IsName name := fun n hn => h.names n (List.mem_append_left _ hn)
    rw [directory, path, path, List.dropLast_concat]
    obtain rfl | hne := eq_or_ne init []
    · obtain ⟨count, rfl⟩ : ∃ count, slashes = count + 1 := by
        obtain hone | htwo := h.slashes
        · exact ⟨0, hone⟩
        · exact ⟨1, htwo⟩
      rw [List.replicate_succ', List.append_assoc]
      exact (parent_append _ hlast.2.2.2).trans
        ((if_pos (bare_replicate count)).trans (List.append_nil _).symm)
    · have hfront : (List.replicate slashes slash ++ ofSegments init).getLast? ≠ some slash := by
        rw [List.getLast?_append_of_ne_nil _ (ofSegments_ne_nil hinit hne)]
        exact getLast?_ofSegments hinit
      rw [ofSegments_concat hne, ← List.append_assoc, parent_append _ hlast.2.2.2,
        bare_of_getLast? hfront, if_neg]
      simp [ofSegments_ne_nil hinit hne]

/-- Characters behind the last name, or behind the slashes of the root, make another name. -/
theorem exists_path_append {ending : Text} (h : place.Proper)
    (hending : ∀ t, slash ∉ t → IsName (t ++ ending)) :
    ∃ other : Place, other.Proper ∧ place.path ++ ending = other.path := by
  obtain ⟨slashes, names⟩ := place
  obtain rfl | ⟨init, last, rfl⟩ := List.eq_nil_or_concat' names
  · refine ⟨⟨slashes, [ending]⟩, ⟨h.slashes, ?_⟩, by simp [path, ofSegments, Text.join]⟩
    simpa using hending [] List.not_mem_nil
  · have hlast : IsName last := h.names last (by simp)
    have hinit : ∀ name ∈ init, IsName name := fun n hn => h.names n (List.mem_append_left _ hn)
    refine ⟨⟨slashes, init ++ [last ++ ending]⟩, ⟨h.slashes, fun n hn => ?_⟩, ?_⟩
    · obtain hn | hn := List.mem_append.mp hn
      · exact hinit n hn
      · exact List.mem_singleton.mp hn ▸ hending last hlast.2.2.2
    · obtain rfl | hne := eq_or_ne init []
      · simp [path, ofSegments, Text.join]
      · rw [path, path, ofSegments_concat hne, ofSegments_concat hne]
        simp

end Written

section Join
variable {base p : Text}

theorem join_eq (hbase : isAbsolute base = true) (hp : isAbsolute p = false) :
    (∃ front, base = front ++ [slash] ∧ join base p = front ++ slash :: p) ∨
      base.getLast? ≠ some slash ∧ join base p = base ++ slash :: p := by
  have hne : base ≠ [] := by
    intro hnil
    rw [hnil] at hbase
    cases hbase
  rw [join, if_neg (Bool.eq_false_iff.mp hp)]
  by_cases hlast : base.getLast? = some slash
  · obtain ⟨front, rfl⟩ := List.getLast?_eq_some_iff.mp hlast
    rw [if_pos (.inr hlast), List.append_assoc]
    exact .inl ⟨front, rfl, rfl⟩
  · rw [if_neg (not_or.mpr ⟨hne, hlast⟩)]
    exact .inr ⟨hlast, rfl⟩

theorem isAbsolute_join (hbase : isAbsolute base = true) : isAbsolute (join base p) = true := by
  obtain ⟨rest, rfl⟩ : ∃ rest, base = slash :: rest :=
    List.head?_eq_some_iff.mp (of_decide_eq_true hbase)
  unfold join
  split
  · assumption
  · split <;> rfl

theorem takeWhile_slash_join (hbase : isAbsolute base = true) (hp : isAbsolute p = false) :
    (join base p).takeWhile (· = slash) = base.takeWhile (· = slash) := by
  have hnone : p.takeWhile (· = slash) = [] :=
    takeWhile_slash_replicate_append 0 fun h => by simp [isAbsolute, h] at hp
  obtain ⟨front, rfl, hjoin⟩ | ⟨hlast, hjoin⟩ := join_eq hbase hp
  · have happend : front ++ slash :: p = (front ++ [slash]) ++ p := by simp
    rw [hjoin, happend, List.takeWhile_append, hnone, List.append_nil]
    split
    · next hall => exact (List.takeWhile_prefix _).eq_of_length hall |>.symm
    · rfl
  · rw [hjoin, List.takeWhile_append, if_neg]
    intro hall
    obtain rfl | ⟨init, last, rfl⟩ := List.eq_nil_or_concat' base
    · cases hbase
    · have hself := (List.takeWhile_prefix _).eq_of_length hall
      have hslash := List.all_takeWhile (p := (· = slash)) (l := init ++ [last])
      rw [hself, List.all_eq_true] at hslash
      exact hlast (by simpa using hslash last (by simp))

theorem ofPath_join (hbase : isAbsolute base = true) (hp : isAbsolute p = false) :
    ofPath (join base p) = (ofPath base).walk p := by
  have hroot : root (join base p) = root base := by
    rw [root, takeWhile_slash_join hbase hp, root]
  rw [ofPath, ofPath, hroot]
  obtain ⟨front, rfl, hjoin⟩ | ⟨-, hjoin⟩ := join_eq hbase hp
  · rw [hjoin, walk_append, walk_append, walk_nil]
  · rw [hjoin, walk_append]

end Join

section Normal
variable {place : Place} {p : Text}

theorem walkSegment_reverse {names : List Text} (slashes : Nat) (hup : up ∉ names)
    (segment : Text) :
    walkSegment true names.reverse segment = (step ⟨slashes, names⟩ segment).names.reverse := by
  unfold walkSegment step
  split
  · rfl
  · split
    · obtain rfl | ⟨init, last, rfl⟩ := List.eq_nil_or_concat' names
      · rfl
      · have hlast : last ≠ up := fun h => hup (by simp [h])
        simp [hlast]
    · simp

theorem up_not_mem_step {place : Place} (hup : up ∉ place.names) (segment : Text) :
    up ∉ (place.step segment).names := by
  unfold step
  split
  · exact hup
  · split
    · exact fun h => hup (List.dropLast_subset _ h)
    · next hsegment => simp [hup, Ne.symm hsegment]

/-- The walk of the normal form has its last name first, and never meets `..`. -/
theorem foldl_walkSegment (parts : List Text) (place : Place) (hup : up ∉ place.names) :
    parts.foldl (walkSegment true) place.names.reverse =
      (parts.foldl step place).names.reverse := by
  induction parts generalizing place with
  | nil => rfl
  | cons segment rest ih =>
    rw [List.foldl_cons, List.foldl_cons, walkSegment_reverse place.slashes hup]
    exact ih (place.step segment) (up_not_mem_step hup segment)

theorem slashes_step (place : Place) (segment : Text) :
    (place.step segment).slashes = place.slashes := by
  unfold step
  repeat' split
  all_goals rfl

theorem slashes_walk (place : Place) (path : Text) : (place.walk path).slashes = place.slashes := by
  unfold walk
  generalize segments path = list
  induction list generalizing place with
  | nil => rfl
  | cons segment rest ih => exact (ih (place.step segment)).trans (slashes_step place segment)

theorem rootSlashes_eq (h : isAbsolute p = true) : rootSlashes p = (root p).slashes := by
  have hsome : (p.takeWhile (· = slash)).length ≠ 0 := by
    cases p with
    | nil => cases h
    | cons c rest =>
      have hc : c = slash := by simpa [isAbsolute] using h
      simp [hc]
  rw [rootSlashes, root]
  split
  · next hzero => exact absurd hzero hsome
  · next htwo => rw [htwo]; rfl
  · next htwo => rw [if_neg htwo]

/-- The normal form of an absolute path is that of its place. -/
theorem normalize_eq (h : isAbsolute p = true) : normalize p = (ofPath p).path := by
  have hslashes : rootSlashes p = (ofPath p).slashes :=
    (rootSlashes_eq h).trans (slashes_walk (root p) p).symm
  have hnames : Path.walk true (segments p) = (ofPath p).names := by
    rw [Path.walk, ← List.reverse_nil]
    exact (congrArg _ (foldl_walkSegment _ (root p) List.not_mem_nil)).trans
      (List.reverse_reverse _)
  have hzero : (ofPath p).slashes ≠ 0 := by
    obtain hone | htwo := (proper_ofPath p).slashes <;> simp [*]
  rw [normalize, hslashes, decide_eq_true hzero, hnames]
  exact if_neg (by simp [hzero])

theorem normalize_path (h : place.Proper) : normalize place.path = place.path := by
  rw [normalize_eq (isAbsolute_path h), ofPath_path h]

theorem ofPath_join_slash (p : Text) : ofPath (join [slash] p) = ofPath p := by
  cases hp : isAbsolute p with
  | true => rw [join, if_pos hp]
  | false =>
    have hroot : root p = ⟨1, []⟩ := by
      have hnone : p.takeWhile (· = slash) = [] :=
        takeWhile_slash_replicate_append 0 fun h => by simp [isAbsolute, h] at hp
      rw [root, hnone]
      rfl
    rw [ofPath_join rfl hp, ofPath, ofPath, hroot]
    rfl

theorem proper_seenFrom (cwd p : Text) : (seenFrom cwd p).Proper := by
  unfold seenFrom
  split
  · exact proper_ofPath p
  · exact (proper_ofPath cwd).walk p

/-- An absolute form is the written form of the place. -/
theorem absolute_eq (cwd p : Text) : absolute cwd p = (seenFrom cwd p).path := by
  have hcwd : isAbsolute (join [slash] cwd) = true := isAbsolute_join rfl
  rw [absolute, normalize_eq (isAbsolute_join hcwd), seenFrom]
  split
  · next hp => rw [join, if_pos hp]
  · next hp => rw [ofPath_join hcwd (Bool.eq_false_iff.mpr hp), ofPath_join_slash]

theorem ofPath_absolute (cwd p : Text) : ofPath (absolute cwd p) = seenFrom cwd p := by
  rw [absolute_eq, ofPath_path (proper_seenFrom cwd p)]

theorem isAbsolute_absolute (cwd p : Text) : isAbsolute (absolute cwd p) = true := by
  rw [absolute_eq, isAbsolute_path (proper_seenFrom cwd p)]

end Normal

end Place

end StateCoverage.Path
