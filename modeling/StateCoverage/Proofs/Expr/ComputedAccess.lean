import StateCoverage.Proofs.Expr.Chain
import StateCoverage.Proofs.Expr.Outcome

/-!
A computed access against the static ones. It stands for all of them at once: its text is made of
the texts of all chains of accesses into the same object.
-/
namespace StateCoverage.Expr
open Bindings Resolution

variable {table : Table} {b : Expr}

theorem keyedOnce_of_valueOf? {properties : Bindings Value} {x : Text} {v : Value}
    (h : (Value.object properties).KeyedOnce) (hv : valueOf? x properties = some v) :
    v.KeyedOnce :=
  (Value.keyedOnce_object_iff.mp h).2 (x, v) (mem_of_valueOf? hv)

theorem keyedOnce_of_base? (h : table.KeyedOnce) {v : Value} (hb : base? table b = some v) :
    v.KeyedOnce := by
  induction b generalizing v with
  | name x => exact keyedOnce_of_valueOf? h hb
  | assertion operand ih =>
    rw [base?] at hb
    exact ih hb
  | member target property ih =>
    cases property with
    | name x =>
      rw [base?] at hb
      split at hb
      · next properties ht => exact keyedOnce_of_valueOf? (ih ht) hb
      · cases hb
    | _ => cases hb
  | _ => cases hb

/-- The text that an access resolves to completely, unless it is empty. -/
def knownText? (table : Table) (e : Expr) : Option Text :=
  if (e.resolve table).isComplete ∧ (e.resolve table).text ≠ [] then some (e.resolve table).text
  else none

theorem knownText?_eq_some_iff {e : Expr} {s : Text} :
    knownText? table e = some s ↔ e.resolve table = .known s ∧ s ≠ [] := by
  unfold knownText?
  rw [eq_known_iff]
  constructor
  · intro h
    split at h
    · next hknown =>
      obtain rfl := Option.some.inj h
      exact ⟨⟨hknown.1, rfl⟩, hknown.2⟩
    · cases h
  · intro h
    obtain ⟨⟨hcomplete, rfl⟩, hs⟩ := h
    rw [if_pos ⟨hcomplete, hs⟩]

/-- A chain of accesses has the text that stands at the end of its properties. -/
theorem knownText?_accesses {v : Value} (hb : base? table b = some v) {path : List Text}
    (hpath : path ≠ []) : knownText? table (accesses b path) = v.stringAt? path := by
  ext s
  rw [knownText?_eq_some_iff, resolve_accesses hpath, ofValue_eq_known_iff, hb, Option.bind_some,
    Value.stringAt?]
  constructor
  · intro h
    rw [h.1]
    simp [h.2]
  · intro h
    split at h
    · next s' hs =>
      split at h
      · cases h
      · next hne =>
        obtain rfl := Option.some.inj h
        exact ⟨hs, hne⟩
    · cases h

/-- A computed access is the union of all static ones. Where the target is an object, it resolves
completely, whatever the key, and its text is made of those to which the accesses behind the target
resolve completely, the empty ones left out: one for each chain of properties of the object, in
order. No chain is missing there or listed twice, and all other accesses stay unresolved. Where the
target is anything else, the computed access itself is the only unresolved part, without text. -/
theorem computed_access_joins_static (h : table.KeyedOnce) (b : Expr) :
    (∀ properties, base? table b = some (.object properties) →
      (∀ key, ((Expr.index b key).resolve table).isComplete = true ∧
        ((Expr.index b key).resolve table).text =
          Text.join (text " ") ((Value.paths (.object properties)).filterMap fun path =>
            knownText? table (accesses b path))) ∧
      (Value.paths (.object properties)).Nodup ∧
      (∀ path, path ∈ Value.paths (.object properties) ↔
        path ≠ [] ∧ ∃ v, (Value.object properties).get? path = some v) ∧
      ∀ path ≠ [], ((accesses b path).resolve table).isComplete = true →
        path ∈ Value.paths (.object properties)) ∧
    ((∀ properties, base? table b ≠ some (.object properties)) → ∀ key,
      ((Expr.index b key).resolve table).text = [] ∧
      ((Expr.index b key).resolve table).unresolved = [render (.index b key)]) := by
  refine ⟨fun properties hb => ?_, fun hb key => ?_⟩
  · have honce : (Value.object properties).KeyedOnce := keyedOnce_of_base? h hb
    have hmem (path : List Text) : path ∈ Value.paths (.object properties) ↔
        path ≠ [] ∧ ∃ v, (Value.object properties).get? path = some v := by
      rw [← honce.mem_paths_iff, List.mem_cons]
      constructor
      · intro hp
        exact ⟨Value.ne_nil_of_mem_paths hp, .inr hp⟩
      · intro hp
        exact hp.2.resolve_left hp.1
    refine ⟨fun key => ?_, honce.nodup_paths, hmem, fun path hpath hcomplete => ?_⟩
    · have htexts : Value.strings (.object properties) =
          (Value.paths (.object properties)).filterMap fun path =>
            knownText? table (accesses b path) := by
        have hself : (Value.object properties).stringAt? [] = none := rfl
        rw [honce.strings_eq, List.filterMap_cons_none hself]
        refine List.filterMap_congr fun path hp => ?_
        exact (knownText?_accesses hb (Value.ne_nil_of_mem_paths hp)).symm
      rw [resolve_index_of_object table hb, htexts]
      exact ⟨rfl, rfl⟩
    · have hknown := eq_known_iff.mpr ⟨hcomplete, rfl⟩
      rw [resolve_accesses hpath, hb, Option.bind_some, ofValue_eq_known_iff] at hknown
      exact (hmem path).mpr ⟨hpath, _, hknown⟩
  · rw [resolve_index_of_not_object table hb]
    exact ⟨rfl, rfl⟩

def mixedSizes : Bindings Value :=
  [(text "sm", .string (text "p-1")), (text "none", .string []),
    (text "more", .object [(text "lg", .string (text "p-2")), (text "auto", .unresolved),
      (text "rest", .object [])]),
    (text "md", .string (text "p-1"))]

def mixedTable : Table := [(text "sizes", .object mixedSizes)]

def anySize : Expr := .index (.name (text "sizes")) (.name (text "size"))

theorem mixedTable_joins :
    mixedTable.KeyedOnce ∧
    base? mixedTable (.name (text "sizes")) = some (.object mixedSizes) ∧
    (anySize.resolve mixedTable).isComplete = true ∧
    (anySize.resolve mixedTable).text = text "p-1 p-2 p-1" ∧
    [text "more", text "auto"] ∈ Value.paths (.object mixedSizes) ∧
    -- A size is no object.
    (∀ properties, base? mixedTable (.member (.name (text "sizes")) (.name (text "sm"))) ≠
      some (.object properties)) ∧
    (resolve mixedTable (.index (.member (.name (text "sizes")) (.name (text "sm")))
      (.name (text "size")))).unresolved = [text "sizes.sm[size]"] := by
  have h : mixedTable.KeyedOnce := by
    refine .object (by decide) (List.forall_mem_singleton.mpr (.object (by decide) ?_))
    simp only [List.forall_mem_cons, mixedSizes]
    refine ⟨.string _, .string _, .object (by decide) ?_, .string _, List.forall_mem_nil _⟩
    simp only [List.forall_mem_cons]
    exact ⟨.string _, .unresolved, .object (by decide) (List.forall_mem_nil _),
      List.forall_mem_nil _⟩
  have hb : base? mixedTable (.name (text "sizes")) = some (.object mixedSizes) := rfl
  have hn (properties : Bindings Value) :
      base? mixedTable (.member (.name (text "sizes")) (.name (text "sm"))) ≠
        some (.object properties) := nofun
  obtain ⟨hobject, -⟩ := computed_access_joins_static h (.name (text "sizes"))
  obtain ⟨-, hother⟩ :=
    computed_access_joins_static h (.member (.name (text "sizes")) (.name (text "sm")))
  obtain ⟨hindex, -, hpaths, -⟩ := hobject mixedSizes hb
  obtain ⟨hcomplete, htext⟩ := hindex (.name (text "size"))
  exact ⟨h, hb, hcomplete, htext.trans (by decide),
    (hpaths _).mpr ⟨List.cons_ne_nil _ _, .unresolved, rfl⟩, hn, (hother hn _).2⟩

end StateCoverage.Expr
