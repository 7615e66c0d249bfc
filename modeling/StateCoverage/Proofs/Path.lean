import StateCoverage.Path
import StateCoverage.Proofs.Text.Join

/-!
Paths as they are listed. A listed path has the names of the path it comes from behind as many
slashes, so listing it again changes nothing.
-/
namespace StateCoverage

namespace Path

/-- The segments that count as names are no more than those that are in the path. -/
theorem mem_names {path segment : Text} :
    segment ∈ names path ↔ segment ∈ segments path ∧ segment ≠ [] ∧ segment ≠ here := by
  simp [names]

theorem slash_not_mem_of_mem_names {path segment : Text} (h : segment ∈ names path) :
    slash ∉ segment :=
  Text.not_mem_of_mem_cut (mem_names.mp h).1

theorem names_slash_cons (path : Text) : names (slash :: path) = names path := by
  have hcut : segments (slash :: path) = [] :: segments path := by
    rw [segments, slash, Text.cut, if_pos rfl, segments]
  rw [names, hcut]
  rfl

theorem names_replicate_append (count : Nat) (path : Text) :
    names (List.replicate count slash ++ path) = names path := by
  induction count with
  | zero => rfl
  | succ count ih => rw [List.replicate_succ, List.cons_append, names_slash_cons, ih]

theorem names_ofSegments_names (path : Text) : names (ofSegments (names path)) = names path := by
  by_cases hne : names path = []
  · rw [hne]
    rfl
  · have hsegments : segments (ofSegments (names path)) = names path :=
      Text.cut_join hne fun part hpart => slash_not_mem_of_mem_names hpart
    rw [names, hsegments, names, List.filter_filter]
    simp only [Bool.and_self]

theorem rootSlashes_le_two (path : Text) : rootSlashes path ≤ 2 := by
  unfold rootSlashes
  split <;> omega

/-- What comes from names does not start with a slash. -/
theorem head?_ofSegments {list : List Text} (h : ∀ name ∈ list, name ≠ [] ∧ slash ∉ name) :
    (ofSegments list).head? ≠ some slash := by
  intro hhead
  cases list with
  | nil => cases hhead
  | cons first rest =>
    have hfirst := h first List.mem_cons_self
    cases first with
    | nil => exact hfirst.1 rfl
    | cons p more =>
      have hp : p = slash := by cases rest <;> exact Option.some.inj hhead
      exact hfirst.2 (hp ▸ List.mem_cons_self)

theorem takeWhile_slash_replicate_append (count : Nat) {path : Text}
    (h : path.head? ≠ some slash) :
    (List.replicate count slash ++ path).takeWhile (· = slash) = List.replicate count slash := by
  have hpath : path.takeWhile (· = slash) = [] := by
    cases path with
    | nil => rfl
    | cons p rest =>
      have hp : p ≠ slash := fun hp => h (congrArg some hp)
      simp [hp]
  rw [List.takeWhile_append_of_pos (by simp), hpath, List.append_nil]

theorem rootSlashes_replicate_append {count : Nat} (hcount : count ≤ 2) {path : Text}
    (h : path.head? ≠ some slash) : rootSlashes (List.replicate count slash ++ path) = count := by
  rw [rootSlashes, takeWhile_slash_replicate_append count h, List.length_replicate]
  match count, hcount with
  | 0, _ => rfl
  | 1, _ => rfl
  | 2, _ => rfl

/-- A listed path is listed as it is. -/
theorem tidy_tidy (path : Text) : tidy (tidy path) = tidy path := by
  by_cases hempty : List.replicate (rootSlashes path) slash ++ ofSegments (names path) = []
  · have hhere : tidy path = here := if_pos hempty
    rw [hhere]
    rfl
  · have htidy : tidy path = List.replicate (rootSlashes path) slash ++ ofSegments (names path) :=
      if_neg hempty
    have hroot : rootSlashes (tidy path) = rootSlashes path := by
      rw [htidy]
      exact rootSlashes_replicate_append (rootSlashes_le_two path)
        (head?_ofSegments fun s hs => ⟨(mem_names.mp hs).2.1, slash_not_mem_of_mem_names hs⟩)
    have hnames : names (tidy path) = names path := by
      rw [htidy, names_replicate_append, names_ofSegments_names]
    calc
      tidy (tidy path)
          = List.replicate (rootSlashes path) slash ++ ofSegments (names path) := by
            rw [tidy, hroot, hnames]
            exact if_neg hempty
      _ = tidy path := htidy.symm

end Path

end StateCoverage
