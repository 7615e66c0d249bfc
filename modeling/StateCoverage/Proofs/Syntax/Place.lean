import StateCoverage.Proofs.Lowering.Traversal

/-!
The named nodes of a tree with their places, which are paths of child indexes from the root. The
walk visits each place once, in the order of the paths; in a tree that lies over its source in
order, the visits go forward in the source.
-/
namespace StateCoverage

namespace Syntax

/-- The node at a path of child indexes, if every node on the path can be entered. -/
def nodeAt? (enters : Syntax → Bool) : Syntax → List Nat → Option Syntax
  | t, [] => some t
  | t, i :: path => (t.children[i]?.filter enters).bind (nodeAt? enters · path)

/-- The node at a path through named nodes. -/
abbrev namedAt? : Syntax → List Nat → Option Syntax := nodeAt? isNamed

variable {t u c : Syntax} {path : List Nat}

theorem namedAt?_cons_eq_some_iff {i : Nat} :
    t.namedAt? (i :: path) = some u ↔
      ∃ c, t.children[i]? = some c ∧ c.isNamed = true ∧ c.namedAt? path = some u := by
  simp [nodeAt?, Option.bind_eq_some_iff, Option.filter_eq_some_iff, and_assoc]

/-- The named nodes of a tree with their paths, parents before children and siblings in order. -/
def places (t : Syntax) : List (List Nat × Syntax) :=
  ([], t) :: t.namedPlaces.attach.flatMap fun ⟨c, hc⟩ =>
    have : c.2.size < t.size := by
      have hnamed : c.2 ∈ t.namedChildren := map_snd_namedPlaces t ▸ List.mem_map_of_mem hc
      exact size_lt_of_mem_children (mem_children_of_mem_namedChildren hnamed)
    (places c.2).map fun p => (c.1 ++ p.1, p.2)
termination_by t.size

theorem places_eq (t : Syntax) :
    t.places = ([], t) :: t.namedPlaces.flatMap fun c =>
      (places c.2).map fun p => (c.1 ++ p.1, p.2) := by
  rw [places, List.flatMap_subtype (fun c hc => rfl), List.unattach_attach]

/-- What holds of a node whenever it holds of its named children holds of every node. -/
theorem induct_named {motive : Syntax → Prop}
    (node : ∀ t, (∀ c ∈ t.namedChildren, motive c) → motive t) (t : Syntax) : motive t :=
  induct_next sizeOfAll_namedChildren_lt node t

/-- The walk with a stack is the recursive traversal. -/
theorem preorder_eq (t : Syntax) : t.preorder = t :: t.namedChildren.flatMap preorder := by
  have hwalk : preorder = descend sizeOfAll_namedChildren_lt := funext (walk_eq _)
  rw [hwalk, descend_eq]

theorem map_snd_places (t : Syntax) : t.places.map Prod.snd = t.preorder := by
  induction t using induct_named with
  | node t ih =>
    rw [← map_snd_namedPlaces] at ih
    rw [places_eq, preorder_eq, List.map_cons, List.map_flatMap, ← map_snd_namedPlaces,
      List.flatMap_map]
    refine congrArg _ (List.flatMap_congr fun c hc => ?_)
    rw [List.map_map, ← ih c.2 (List.mem_map_of_mem hc)]
    rfl

theorem mem_places_iff : (path, u) ∈ t.places ↔ t.namedAt? path = some u := by
  induction t using induct_named generalizing path with
  | node t ih =>
    rw [← map_snd_namedPlaces] at ih
    rw [places_eq]
    simp only [List.mem_cons, Prod.mk.injEq, List.mem_flatMap, List.mem_map]
    constructor
    · rintro (⟨rfl, rfl⟩ | ⟨⟨p, c⟩, hc, ⟨rest, v⟩, hv, rfl, rfl⟩)
      · rfl
      · obtain ⟨i, rfl, hi, hnamed⟩ := mem_namedPlaces_iff.mp hc
        exact namedAt?_cons_eq_some_iff.mpr
          ⟨c, hi, hnamed, (ih c (List.mem_map_of_mem hc)).mp hv⟩
    · intro h
      cases path with
      | nil => exact .inl ⟨rfl, (Option.some.inj h).symm⟩
      | cons i path =>
        obtain ⟨c, hi, hnamed, hu⟩ := namedAt?_cons_eq_some_iff.mp h
        have hc := mem_namedPlaces_iff.mpr ⟨i, rfl, hi, hnamed⟩
        exact .inr ⟨([i], c), hc, (path, u), (ih c (List.mem_map_of_mem hc)).mpr hu, rfl, rfl⟩

/-- The places come in the order of their paths, a path before those that continue it. -/
theorem pairwise_places (t : Syntax) : t.places.Pairwise fun a b => a.1 < b.1 := by
  induction t using induct_named with
  | node t ih =>
    rw [← map_snd_namedPlaces] at ih
    rw [places_eq, List.pairwise_cons, List.pairwise_flatMap]
    refine ⟨fun b hb => ?_, fun c hc => ?_,
      (pairwise_namedPlaces t).imp fun h a ha b hb => ?_⟩
    · obtain ⟨⟨p, c⟩, hc, hb⟩ := List.mem_flatMap.mp hb
      obtain ⟨b', -, rfl⟩ := List.mem_map.mp hb
      obtain ⟨i, rfl, -, -⟩ := mem_namedPlaces_iff.mp hc
      exact List.nil_lt_cons _ _
    · -- below one child
      rw [List.pairwise_map]
      exact (ih c.2 (List.mem_map_of_mem hc)).imp List.append_left_lt
    · -- below two children, whose own indexes decide
      obtain ⟨a', -, rfl⟩ := List.mem_map.mp ha
      obtain ⟨b', -, rfl⟩ := List.mem_map.mp hb
      exact h a'.1 b'.1

theorem mem_preorder_iff : u ∈ t.preorder ↔ ∃ path, t.namedAt? path = some u := by
  rw [← map_snd_places, List.mem_map]
  constructor
  · rintro ⟨⟨path, u⟩, hu, rfl⟩
    exact ⟨path, mem_places_iff.mp hu⟩
  · rintro ⟨path, hu⟩
    exact ⟨(path, u), mem_places_iff.mpr hu, rfl⟩

def Everywhere (root : Syntax) (P : Syntax → Prop) : Prop :=
  ∀ path t, root.namedAt? path = some t → P t

section Everywhere
variable {P : Syntax → Prop}

theorem everywhere_iff : t.Everywhere P ↔ ∀ u ∈ t.preorder, P u := by
  simp only [mem_preorder_iff]
  exact ⟨fun h u ⟨path, hu⟩ => h path u hu, fun h path u hu => h u ⟨path, hu⟩⟩

theorem Everywhere.self (h : t.Everywhere P) : P t := h [] t rfl

theorem Everywhere.child (h : t.Everywhere P) (hc : c ∈ t.namedChildren) : c.Everywhere P := by
  rw [everywhere_iff] at h ⊢
  intro u hu
  refine h u ?_
  rw [preorder_eq]
  exact List.mem_cons_of_mem _ (List.mem_flatMap.mpr ⟨c, hc, hu⟩)

theorem Everywhere.of_mem_preorder (h : t.Everywhere P) (hu : u ∈ t.preorder) : u.Everywhere P := by
  induction t using induct_named with
  | node t ih =>
    rw [preorder_eq, List.mem_cons, List.mem_flatMap] at hu
    obtain rfl | ⟨c, hc, hu⟩ := hu
    · exact h
    · exact ih c hc (h.child hc) hu

end Everywhere

/-! ### Trees over their source -/

/-- A node lies over its source in order: its range encloses those of its children, and these follow
one another. -/
structure IsOrdered (t : Syntax) : Prop where
  start_le_stop : t.start ≤ t.stop
  encloses : ∀ c ∈ t.children, t.start ≤ c.start ∧ c.stop ≤ t.stop
  pairwise : t.children.Pairwise fun a b => a.stop ≤ b.start

instance decidableIsOrdered (t : Syntax) : Decidable t.IsOrdered :=
  decidable_of_iff
    (t.start ≤ t.stop ∧ (∀ c ∈ t.children, t.start ≤ c.start ∧ c.stop ≤ t.stop) ∧
      t.children.Pairwise fun a b => a.stop ≤ b.start)
    ⟨fun ⟨h, h', h''⟩ => ⟨h, h', h''⟩, fun ⟨h, h', h''⟩ => ⟨h, h', h''⟩⟩

/-- Everything below a node starts within its range. -/
theorem IsOrdered.start_mem (h : t.Everywhere IsOrdered) (hu : u ∈ t.preorder) :
    t.start ≤ u.start ∧ u.start ≤ t.stop := by
  induction t using induct_named with
  | node t ih =>
    rw [preorder_eq, List.mem_cons, List.mem_flatMap] at hu
    obtain rfl | ⟨c, hc, hu⟩ := hu
    · exact ⟨Nat.le_refl _, h.self.start_le_stop⟩
    · obtain ⟨hstart, hstop⟩ :=
        h.self.encloses c (mem_children_of_mem_namedChildren hc)
      obtain ⟨hleft, hright⟩ := ih c hc (h.child hc) hu
      exact ⟨Nat.le_trans hstart hleft, Nat.le_trans hright hstop⟩

/-- The walk goes forward in the source. -/
theorem IsOrdered.pairwise_preorder (h : t.Everywhere IsOrdered) :
    t.preorder.Pairwise fun a b => a.start ≤ b.start := by
  induction t using induct_named with
  | node t ih =>
    have hbehind : t.namedChildren.Pairwise fun a b => a.stop ≤ b.start :=
      h.self.pairwise.filter _
    rw [preorder_eq, List.pairwise_cons, List.pairwise_flatMap]
    refine ⟨fun u hu => (start_mem h ?_).1, fun c hc => ih c hc (h.child hc), ?_⟩
    · rw [preorder_eq]
      exact List.mem_cons_of_mem _ hu
    · refine hbehind.imp_of_mem fun {a b} ha hb hab u hu v hv => ?_
      calc u.start ≤ a.stop := (start_mem (h.child ha) hu).2
        _ ≤ b.start := hab
        _ ≤ v.start := (start_mem (h.child hb) hv).1

/-- The children without a name of their own are bare tokens. -/
def HasBareTokens (t : Syntax) : Prop := ∀ c ∈ t.children, c.isNamed = false → c.children = []

instance decidableHasBareTokens (t : Syntax) : Decidable t.HasBareTokens :=
  inferInstanceAs (Decidable (∀ c ∈ t.children, c.isNamed = false → c.children = []))

/-- Where tokens are bare every named node is reached through named nodes. -/
theorem HasBareTokens.namedAt?_of_nodeAt? (h : t.Everywhere HasBareTokens)
    (hu : t.nodeAt? (fun _ => true) path = some u) (hnamed : u.isNamed = true) :
    t.namedAt? path = some u := by
  induction path generalizing t with
  | nil => exact hu
  | cons i path ih =>
    obtain ⟨c, hc, hu⟩ := Option.bind_eq_some_iff.mp hu
    have hi : t.children[i]? = some c := (Option.filter_eq_some_iff.mp hc).1
    have hmem : c ∈ t.children := List.mem_of_getElem? hi
    cases hname : c.isNamed with
    | true =>
      have hbelow := ih (h.child (List.mem_filter.mpr ⟨hmem, hname⟩)) hu
      exact namedAt?_cons_eq_some_iff.mpr ⟨c, hi, hname, hbelow⟩
    | false =>
      -- Nothing is below a token, so the path ends at it.
      have hbare := h.self c hmem hname
      cases path with
      | nil =>
        cases hu
        rw [hname] at hnamed
        cases hnamed
      | cons j path => simp [nodeAt?, hbare] at hu

end Syntax

namespace Source

/-- Positions further on are on the same line or a later one. -/
theorem row_le_row (source : Source) {p q : Nat} (h : p ≤ q) : source.row p ≤ source.row q := by
  unfold row
  rw [Array.toList_extract, Array.toList_extract]
  exact ((List.take_sublist_take_left h)).count_le 10

end Source

end StateCoverage
