import StateCoverage.Json.Reader
import StateCoverage.Proofs.Data.Entries

/-!
Objects of JSON. However often a key is written, the object that is read names it once.
-/
namespace StateCoverage

namespace Data

theorem fields_record (fields : List (Text × Data)) :
    Data.fields (fields.map fun (name, value) => (.string name, value)) = fields := by
  induction fields with
  | nil => rfl
  | cons p rest ih =>
    rw [List.map_cons, Data.fields, ih]

end Data

namespace Json
variable {input rest : Text} {d : Data} {fuel : Nat}

theorem number?_ne_map (entries : List (Data × Data)) :
    number? input ≠ some (.map entries, rest) := by
  unfold number?
  intro h
  dsimp only at h
  repeat' split at h
  all_goals cases h

theorem atom?_ne_map (entries : List (Data × Data)) : atom? input ≠ some (.map entries, rest) := by
  intro h
  rw [atom?, Option.orElse_eq_or, Option.or_eq_some_iff] at h
  obtain h | ⟨-, h⟩ := h
  · obtain ⟨⟨word, value⟩, hword, h⟩ := List.exists_of_findSome?_eq_some h
    obtain ⟨_, -, h⟩ := Option.map_eq_some_iff.mp h
    obtain ⟨rfl, -⟩ := Prod.mk.inj h
    simp at hword
  · exact number?_ne_map entries h

theorem items?_eq_list {found : List Data} (h : items? fuel found input = some (d, rest)) :
    ∃ items, d = .list items := by
  induction fuel generalizing found input with
  | zero => cases h
  | succ fuel ih =>
    rw [items?] at h
    split at h
    · cases h
    · split at h
      · exact ih h
      · cases h
        exact ⟨_, rfl⟩
      · cases h

theorem members?_eq_record {found : List (Text × Data)}
    (h : members? fuel found input = some (d, rest)) :
    ∃ pairs, d = .record (Bindings.ofPairs pairs) := by
  induction fuel generalizing found input with
  | zero => cases h
  | succ fuel ih =>
    rw [members?] at h
    repeat' (split at h)
    all_goals first
      | exact ih h
      | cases h
    exact ⟨_, rfl⟩

/-- No object that is read names a key twice. -/
theorem distinct_of_read? {entries : List (Data × Data)} (h : read? input = some (.map entries)) :
    Data.Distinct entries := by
  have hrecord {pairs : List (Text × Data)}
      (hmap : Data.map entries = .record (Bindings.ofPairs pairs)) : Data.Distinct entries := by
    obtain rfl := Data.map.inj hmap
    have hnil : (Bindings.names ([] : Bindings Data)).Nodup := List.nodup_nil
    rw [Data.Distinct, Data.fields_record]
    exact Bindings.nodup_names_putAll hnil
  have hvalue {fuel : Nat} {input rest : Text} (h : value? fuel input = some (.map entries, rest)) :
      Data.Distinct entries := by
    cases fuel with
    | zero => cases h
    | succ fuel =>
      rw [value?] at h
      split at h
      · obtain ⟨_, -, h⟩ := Option.map_eq_some_iff.mp h
        cases h
      · split at h
        · cases h
        · obtain ⟨items, h⟩ := items?_eq_list h
          cases h
      · split at h
        · cases h
          exact Data.distinct_nil
        · obtain ⟨pairs, h⟩ := members?_eq_record h
          exact hrecord h
      · exact absurd h (atom?_ne_map entries)
  unfold read? at h
  split at h
  · next value rest hread =>
    split at h
    · obtain rfl := Option.some.inj h
      exact hvalue hread
    · cases h
  · cases h

end Json

end StateCoverage
