import StateCoverage.ParsedFile
import StateCoverage.Proofs.List
import StateCoverage.Proofs.Syntax.Walk

/-!
The statements of a file against a recursive traversal of its tree. Each statement has its place, a
path of child indexes from the root; the statements of a file are those of all places that the
traversal reaches, in the order of the tree.
-/
namespace StateCoverage

namespace Syntax

/-- The child `d` at index `i` is what the export statement `t` declares: the first child in the
field `declaration`, if it declares names. -/
def ExportsAt (t : Syntax) (i : Nat) (d : Syntax) : Prop :=
  t.kind = "export_statement" ∧ d.isDeclaration ∧ t.children[i]? = some d ∧
    d.field = some "declaration" ∧
    ∀ j < i, ∀ c, t.children[j]? = some c → c.field ≠ some "declaration"

/-- The traversal of the first tree comes to the node `u` along a path of child indexes. It goes on
to the named children of a node, but an import is not entered, and an export that declares names is
left for the named children of its declaration. -/
inductive Reached : Syntax → List Nat → Syntax → Prop
  | here (t : Syntax) : Reached t [] t
  | child {t c u : Syntax} {i : Nat} {path : List Nat} :
      t.kind ≠ "import_statement" → (∀ j d, ¬ t.ExportsAt j d) →
      t.children[i]? = some c → c.isNamed → Reached c path u → Reached t (i :: path) u
  | declared {t d c u : Syntax} {i j : Nat} {path : List Nat} :
      t.ExportsAt i d → d.children[j]? = some c → c.isNamed → Reached c path u →
      Reached t (i :: j :: path) u

section Places
variable {t d c : Syntax} {i : Nat} {path : List Nat}

/-- What an export statement declares, with its index. -/
def exportedAt? (t : Syntax) : Option (Syntax × Nat) :=
  if t.kind = "export_statement" then
    (t.children.zipIdx.find? fun c => c.1.field = some "declaration").filter (·.1.isDeclaration)
  else none

theorem exportedAt?_eq_some_iff : t.exportedAt? = some (d, i) ↔ t.ExportsAt i d := by
  unfold exportedAt? ExportsAt
  split
  · next hk =>
    rw [Option.filter_eq_some_iff, List.find?_eq_some_iff_getElem]
    simp only [hk, true_and, List.getElem_zipIdx, Prod.mk.injEq, List.length_zipIdx, Nat.zero_add,
      decide_eq_true_eq, Bool.not_eq_true', decide_eq_false_iff_not]
    constructor
    · intro h
      obtain ⟨⟨hfield, j, hj, ⟨hd, rfl⟩, hbefore⟩, hdecl⟩ := h
      refine ⟨hdecl, by rw [List.getElem?_eq_getElem hj, hd], hfield, fun k hk c hc => ?_⟩
      obtain ⟨hlt, rfl⟩ := List.getElem?_eq_some_iff.mp hc
      exact hbefore k hk
    · intro h
      obtain ⟨hdecl, hd, hfield, hbefore⟩ := h
      obtain ⟨hlt, hget⟩ := List.getElem?_eq_some_iff.mp hd
      exact ⟨⟨hfield, i, hlt, ⟨hget, rfl⟩, fun j hj => hbefore j hj _ (List.getElem?_eq_getElem _)⟩,
        hdecl⟩
  · next hk => simp [hk]

theorem exportedAt?_eq_none_iff : t.exportedAt? = none ↔ ∀ i d, ¬ t.ExportsAt i d := by
  rw [Option.eq_none_iff_forall_ne_some]
  simp only [← exportedAt?_eq_some_iff, Prod.forall]
  exact forall_comm

theorem map_fst_exportedAt? (hk : t.kind = "export_statement") :
    t.exportedAt?.map Prod.fst = t.exported? := by
  rw [exportedAt?, if_pos hk, exported?, field?]
  conv_rhs => rw [← List.zipIdx_map_fst 0 t.children, List.find?_map, Option.filter_map]
  rfl

/-- The named children with their paths. -/
def namedPlaces (t : Syntax) : List (List Nat × Syntax) :=
  (t.children.zipIdx.filter (·.1.isNamed)).map fun c => ([c.2], c.1)

theorem map_snd_namedPlaces (t : Syntax) : t.namedPlaces.map Prod.snd = t.namedChildren := by
  rw [namedPlaces, namedChildren, List.map_map]
  conv_rhs => rw [← List.zipIdx_map_fst 0 t.children, List.filter_map]
  rfl

theorem mem_namedPlaces_iff :
    (path, c) ∈ t.namedPlaces ↔ ∃ i, path = [i] ∧ t.children[i]? = some c ∧ c.isNamed := by
  simp only [namedPlaces, List.mem_map, List.mem_filter, Prod.exists, Prod.mk.injEq,
    List.mem_zipIdx_iff_getElem?]
  constructor
  · intro h
    obtain ⟨c', i, ⟨hi, hnamed⟩, rfl, rfl⟩ := h
    exact ⟨i, rfl, hi, hnamed⟩
  · intro h
    obtain ⟨i, rfl, hi, hnamed⟩ := h
    exact ⟨c, i, ⟨hi, hnamed⟩, rfl, rfl⟩

/-- One path comes before another, whatever follows either. -/
def Before (p q : List Nat) : Prop := ∀ p' q', p ++ p' < q ++ q'

theorem Before.cons {p q : List Nat} (h : Before p q) (i : Nat) : Before (i :: p) (i :: q) :=
  fun p' q' => List.cons_lt_cons_self.mpr (h p' q')

theorem pairwise_namedPlaces (t : Syntax) :
    t.namedPlaces.Pairwise fun a b => Before a.1 b.1 := by
  rw [namedPlaces, List.pairwise_map]
  refine ((pairwise_zipIdx t.children).filter _).imp fun h p' q' => ?_
  exact List.cons_lt_cons_iff.mpr (.inl h)

/-- The nodes to look at behind a node, with their paths. -/
def placesNext (t : Syntax) : List (List Nat × Syntax) :=
  if t.kind = "import_statement" then []
  else
    match t.exportedAt? with
    | some (d, i) => d.namedPlaces.map fun c => (i :: c.1, c.2)
    | none => t.namedPlaces

theorem map_snd_placesNext (t : Syntax) : t.placesNext.map Prod.snd = t.statementsNext := by
  unfold placesNext statementsNext
  split
  · rfl
  · split
    · next d i hd =>
      have hk := (exportedAt?_eq_some_iff.mp hd).1
      rw [if_pos hk, ← map_fst_exportedAt? hk, hd, List.map_map]
      exact map_snd_namedPlaces d
    · next hd =>
      split
      · next hk =>
        rw [← map_fst_exportedAt? hk, hd]
        exact map_snd_namedPlaces t
      · exact map_snd_namedPlaces t

theorem mem_placesNext_iff :
    (path, c) ∈ t.placesNext ↔
      (∃ i, path = [i] ∧ t.kind ≠ "import_statement" ∧ (∀ j d, ¬ t.ExportsAt j d) ∧
        t.children[i]? = some c ∧ c.isNamed) ∨
      ∃ i j d, path = [i, j] ∧ t.ExportsAt i d ∧ d.children[j]? = some c ∧ c.isNamed := by
  unfold placesNext
  split
  · next hk => simp [hk, ExportsAt]
  · next hk =>
    split
    · next d i hd =>
      have he := exportedAt?_eq_some_iff.mp hd
      simp only [List.mem_map, Prod.exists, Prod.mk.injEq, mem_namedPlaces_iff]
      constructor
      · intro h
        obtain ⟨-, c', ⟨j, rfl, hj, hnamed⟩, rfl, rfl⟩ := h
        exact .inr ⟨i, j, d, rfl, he, hj, hnamed⟩
      · intro h
        obtain ⟨-, -, -, hnone, -⟩ | ⟨i', j, d', rfl, he', hj, hnamed⟩ := h
        · exact absurd he (hnone i d)
        · cases (exportedAt?_eq_some_iff.mpr he').symm.trans hd
          exact ⟨[j], c, ⟨j, rfl, hj, hnamed⟩, rfl, rfl⟩
    · next hd =>
      have hnone := exportedAt?_eq_none_iff.mp hd
      rw [mem_namedPlaces_iff]
      constructor
      · intro h
        obtain ⟨i, rfl, hi, hnamed⟩ := h
        exact .inl ⟨i, rfl, hk, hnone, hi, hnamed⟩
      · intro h
        obtain ⟨i, rfl, -, -, hi, hnamed⟩ | ⟨i, -, d, -, he, -⟩ := h
        · exact ⟨i, rfl, hi, hnamed⟩
        · exact absurd he (hnone i d)

theorem pairwise_placesNext (t : Syntax) :
    t.placesNext.Pairwise fun a b => Before a.1 b.1 := by
  unfold placesNext
  split
  · exact .nil
  · split
    · next d i _ =>
      rw [List.pairwise_map]
      exact (pairwise_namedPlaces d).imp fun h => h.cons i
    · exact pairwise_namedPlaces t

end Places

/-- The traversal reaches a node itself, and what it reaches from the nodes behind it. -/
theorem reached_iff {t u : Syntax} {path : List Nat} :
    Reached t path u ↔
      (path = [] ∧ u = t) ∨
        ∃ c ∈ t.placesNext, ∃ rest, path = c.1 ++ rest ∧ Reached c.2 rest u := by
  constructor
  · intro h
    cases h with
    | here => exact .inl ⟨rfl, rfl⟩
    | child hk hnone hi hnamed hbelow =>
      exact .inr ⟨(_, _), mem_placesNext_iff.mpr (.inl ⟨_, rfl, hk, hnone, hi, hnamed⟩), _, rfl,
        hbelow⟩
    | declared he hj hnamed hbelow =>
      exact .inr ⟨(_, _), mem_placesNext_iff.mpr (.inr ⟨_, _, _, rfl, he, hj, hnamed⟩), _, rfl,
        hbelow⟩
  · intro h
    obtain ⟨rfl, rfl⟩ | ⟨⟨p, c⟩, hc, rest, rfl, hbelow⟩ := h
    · exact .here u
    · obtain ⟨i, rfl, hk, hnone, hi, hnamed⟩ | ⟨i, j, d, rfl, he, hj, hnamed⟩ :=
        mem_placesNext_iff.mp hc
      · exact .child hk hnone hi hnamed hbelow
      · exact .declared he hj hnamed hbelow

/-- The walk over the statements visits the nodes that the traversal reaches. -/
theorem mem_statementNodes_iff {root u : Syntax} :
    u ∈ root.statementNodes ↔ ∃ path, Reached root path u := by
  rw [statementNodes, walk_eq]
  induction root using induct_next sizeOfAll_statementsNext_lt with
  | node t ih =>
    rw [← map_snd_placesNext] at ih
    rw [descend_eq, List.mem_cons, List.mem_flatMap, ← map_snd_placesNext]
    constructor
    · intro h
      obtain rfl | ⟨c, hc, hu⟩ := h
      · exact ⟨[], .here u⟩
      · obtain ⟨path, hpath⟩ := (ih c hc).mp hu
        obtain ⟨p, hp, rfl⟩ := List.mem_map.mp hc
        exact ⟨p.1 ++ path, reached_iff.mpr (.inr ⟨p, hp, path, rfl, hpath⟩)⟩
    · intro h
      obtain ⟨path, hpath⟩ := h
      obtain ⟨-, rfl⟩ | ⟨p, hp, rest, -, hrest⟩ := reached_iff.mp hpath
      · exact .inl rfl
      · have hc := List.mem_map_of_mem (f := Prod.snd) hp
        exact .inr ⟨p.2, hc, (ih p.2 hc).mpr ⟨rest, hrest⟩⟩

end Syntax

theorem statements?_eq_none_iff {source : Source} {root : Syntax} :
    root.statements? source = none ↔
      ∃ t ∈ root.statementNodes, ∃ e ∈ t.statementExpressions,
        Syntax.nestingLimit < e.nesting := by
  simp [Syntax.statements?]

namespace Source
open Syntax
variable (source : Source)

def traversal (t : Syntax) : List Statement :=
  if t.kind = "import_statement" then [source.importOf t]
  else if t.isDeclaration then
    .declaration (source.declarationOf t) :: t.namedChildren.attach.flatMap fun ⟨c, hc⟩ =>
      have := size_lt_of_mem_children (mem_children_of_mem_namedChildren hc)
      traversal c
  else if t.kind = "export_statement" then
    match hd : (t.field? "declaration").filter isDeclaration with
    | some d =>
      .exported (source.declarationOf d) :: d.namedChildren.attach.flatMap fun ⟨c, hc⟩ =>
        have := size_lt_of_mem_children (mem_children_of_mem_namedChildren hc)
        have := size_lt_of_mem_children
          (mem_children_of_field? (Option.filter_eq_some_iff.mp hd).1)
        traversal c
    | none =>
      ((t.field? "value").map fun value => .exportDefault (value.lower source)).toList ++
        t.namedChildren.attach.flatMap fun ⟨c, hc⟩ =>
          have := size_lt_of_mem_children (mem_children_of_mem_namedChildren hc)
          traversal c
  else t.namedChildren.attach.flatMap fun ⟨c, hc⟩ =>
    have := size_lt_of_mem_children (mem_children_of_mem_namedChildren hc)
    traversal c
termination_by t.size

/-- The statement of a node comes before those of the nodes behind it. -/
theorem traversal_eq (t : Syntax) :
    source.traversal t = (source.statement? t).toList ++
      t.statementsNext.flatMap source.traversal := by
  have hflat (l : List Syntax) (f : {c // c ∈ l} → List Statement)
      (h : ∀ c hc, f ⟨c, hc⟩ = source.traversal c) :
      l.attach.flatMap f = l.flatMap source.traversal := by
    rw [List.flatMap_subtype h, List.unattach_attach]
  rw [traversal]
  unfold statement? statementsNext exported?
  by_cases hi : t.kind = "import_statement"
  · simp [hi]
  · by_cases hd : t.isDeclaration = true
    · -- a declaration is no export, so the order of the two tests does not matter
      have hk : t.kind ≠ "export_statement" := by
        intro hk
        simp [isDeclaration, hk] at hd
      simp [hi, hd, hk, hflat]
    · by_cases hk : t.kind = "export_statement"
      · simp only [if_neg hi, if_neg hd, if_pos hk]
        split
        · next d hexp => simp [hexp, hflat]
        · next hexp => simp [hexp, hflat]
      · simp [hi, hd, hk, hflat]

theorem filterMap_statementNodes (root : Syntax) :
    root.statementNodes.filterMap source.statement? = source.traversal root := by
  rw [statementNodes, walk_eq]
  induction root using induct_next sizeOfAll_statementsNext_lt with
  | node t ih =>
    rw [descend_eq, traversal_eq, List.filterMap_cons, List.filterMap_flatMap,
      List.flatMap_congr ih]
    cases source.statement? t <;> rfl

/-- What a node itself yields, with its path from the node: an export is where its declaration
is. -/
inductive Yields (t : Syntax) : List Nat → Statement → Prop
  | importing : t.kind = "import_statement" → Yields t [] (source.importOf t)
  | declaration : t.isDeclaration → Yields t [] (.declaration (source.declarationOf t))
  | exported {i : Nat} {d : Syntax} :
      t.ExportsAt i d → Yields t [i] (.exported (source.declarationOf d))
  | exportDefault {value : Syntax} :
      t.kind = "export_statement" → (∀ i d, ¬ t.ExportsAt i d) → t.field? "value" = some value →
      Yields t [] (.exportDefault (value.lower source))

/-- A statement stands where a node that the traversal reaches yields it. -/
def StandsAt (root : Syntax) (path : List Nat) (s : Statement) : Prop :=
  ∃ t before rest, path = before ++ rest ∧ Reached root before t ∧ source.Yields t rest s

def ownPlaced (t : Syntax) : List (List Nat × Statement) :=
  (source.statement? t).toList.map (t.exportedAt?.toList.map Prod.snd, ·)

def placed (t : Syntax) : List (List Nat × Statement) :=
  source.ownPlaced t ++ t.placesNext.attach.flatMap fun ⟨c, hc⟩ =>
    have : c.2.size < t.size := by
      have hnext : c.2 ∈ t.statementsNext := map_snd_placesNext t ▸ List.mem_map_of_mem hc
      exact Nat.lt_of_le_of_lt (size_le_sizeOfAll hnext) (sizeOfAll_statementsNext_lt t)
    (placed c.2).map fun s => (c.1 ++ s.1, s.2)
termination_by t.size

theorem placed_eq (t : Syntax) :
    source.placed t = source.ownPlaced t ++
      t.placesNext.flatMap fun c => (source.placed c.2).map fun s => (c.1 ++ s.1, s.2) := by
  rw [placed, List.flatMap_subtype (fun c hc => rfl), List.unattach_attach]

section Placed
variable {source} {t : Syntax} {path : List Nat} {s : Statement}

theorem map_snd_placed (t : Syntax) : (source.placed t).map Prod.snd = source.traversal t := by
  induction t using induct_next sizeOfAll_statementsNext_lt with
  | node t ih =>
    have hown : (source.ownPlaced t).map Prod.snd = (source.statement? t).toList := by
      rw [ownPlaced, List.map_map]
      exact List.map_id _
    rw [placed_eq, traversal_eq, List.map_append, hown, List.map_flatMap]
    rw [← map_snd_placesNext] at ih ⊢
    rw [List.flatMap_map]
    refine congrArg _ (List.flatMap_congr fun c hc => ?_)
    rw [List.map_map, ← ih c.2 (List.mem_map_of_mem hc)]
    rfl

theorem mem_ownPlaced_iff : (path, s) ∈ source.ownPlaced t ↔ source.Yields t path s := by
  simp only [ownPlaced, List.mem_map, Option.mem_toList, Prod.mk.injEq, exists_eq_right_right]
  constructor
  · intro h
    obtain ⟨hs, rfl⟩ := h
    cases hat : t.exportedAt? with
    | some c =>
      obtain ⟨d, i⟩ := c
      have he := exportedAt?_eq_some_iff.mp hat
      have hexp := map_fst_exportedAt? he.1
      rw [hat] at hexp
      simp [statement?, isDeclaration, he.1, ← hexp] at hs
      exact hs ▸ .exported he
    | none =>
      have hnone := exportedAt?_eq_none_iff.mp hat
      unfold statement? at hs
      split at hs
      · next hk => exact Option.some.inj hs ▸ .importing hk
      · split at hs
        · next hd => exact Option.some.inj hs ▸ .declaration hd
        · split at hs
          · next hk =>
            rw [← map_fst_exportedAt? hk, hat] at hs
            obtain ⟨value, hvalue, rfl⟩ := Option.map_eq_some_iff.mp hs
            exact .exportDefault hk hnone hvalue
          · cases hs
  · intro h
    cases h with
    | importing hk =>
      have hat : t.exportedAt? = none := by simp [exportedAt?, hk]
      simp [statement?, hk, hat]
    | declaration hd =>
      have hk : t.kind ≠ "import_statement" ∧ t.kind ≠ "export_statement" := by
        constructor <;> intro hk <;> simp [isDeclaration, hk] at hd
      simp [statement?, exportedAt?, hk, hd]
    | exported he =>
      have hexp := map_fst_exportedAt? he.1
      rw [exportedAt?_eq_some_iff.mpr he] at hexp
      simp [statement?, isDeclaration, he.1, ← hexp, exportedAt?_eq_some_iff.mpr he]
    | exportDefault hk hnone hvalue =>
      have hat := exportedAt?_eq_none_iff.mpr hnone
      simp [statement?, isDeclaration, hk, ← map_fst_exportedAt? hk, hat, hvalue]

theorem mem_placed_iff : (path, s) ∈ source.placed t ↔ source.StandsAt t path s := by
  induction t using induct_next sizeOfAll_statementsNext_lt generalizing path with
  | node t ih =>
    rw [← map_snd_placesNext] at ih
    rw [placed_eq]
    simp only [List.mem_append, mem_ownPlaced_iff, List.mem_flatMap, List.mem_map]
    constructor
    · intro h
      obtain hown | ⟨c, hc, ⟨rest, s⟩, hs, heq⟩ := h
      · exact ⟨t, [], path, rfl, .here t, hown⟩
      · cases heq
        obtain ⟨u, before, after, rfl, hu, hy⟩ := (ih c.2 (List.mem_map_of_mem hc)).mp hs
        exact ⟨u, c.1 ++ before, after, (List.append_assoc ..).symm,
          reached_iff.mpr (.inr ⟨c, hc, before, rfl, hu⟩), hy⟩
    · intro h
      obtain ⟨u, before, after, rfl, hu, hy⟩ := h
      obtain ⟨rfl, rfl⟩ | ⟨c, hc, rest, rfl, hrest⟩ := reached_iff.mp hu
      · exact .inl hy
      · refine .inr ⟨c, hc, (rest ++ after, s), ?_, ?_⟩
        · exact (ih c.2 (List.mem_map_of_mem hc)).mpr ⟨u, rest, after, rfl, hrest, hy⟩
        · rw [List.append_assoc]

/-- The path of a statement of the node itself comes before all paths behind it. -/
theorem Yields.lt (h : source.Yields t path s) {c : List Nat × Syntax} (hc : c ∈ t.placesNext)
    (rest : List Nat) : path < c.1 ++ rest := by
  obtain ⟨i, hi, -, hnone, -⟩ | ⟨i, j, d, hij, he, -⟩ := mem_placesNext_iff.mp hc
  · rw [hi]
    cases h with
    | exported he => exact absurd he (hnone _ _)
    | _ => exact List.nil_lt_cons _ _
  · rw [hij]
    cases h with
    | exported he' =>
      cases (exportedAt?_eq_some_iff.mpr he).symm.trans (exportedAt?_eq_some_iff.mpr he')
      exact List.cons_lt_cons_self.mpr (List.nil_lt_cons _ _)
    | _ => exact List.nil_lt_cons _ _

/-- The statements come in the order of their paths. -/
theorem pairwise_placed_lt (t : Syntax) :
    (source.placed t).Pairwise fun a b => a.1 < b.1 := by
  induction t using induct_next sizeOfAll_statementsNext_lt with
  | node t ih =>
    rw [← map_snd_placesNext] at ih
    rw [placed_eq, List.pairwise_append, List.pairwise_flatMap]
    refine ⟨?_, ⟨fun c hc => ?_, (pairwise_placesNext t).imp fun h a ha b hb => ?_⟩,
      fun a ha b hb => ?_⟩
    · rw [ownPlaced]
      cases source.statement? t <;> simp
    · -- below one child
      rw [List.pairwise_map]
      exact (ih c.2 (List.mem_map_of_mem hc)).imp List.append_left_lt
    · -- below two children, whose own paths decide
      obtain ⟨a', -, rfl⟩ := List.mem_map.mp ha
      obtain ⟨b', -, rfl⟩ := List.mem_map.mp hb
      exact h a'.1 b'.1
    · -- the node itself and below a child
      obtain ⟨c, hc, hb⟩ := List.mem_flatMap.mp hb
      obtain ⟨b', -, rfl⟩ := List.mem_map.mp hb
      exact (mem_ownPlaced_iff.mp ha).lt hc b'.1

/-- No two statements stand at one path. -/
theorem filter_placed {t : Syntax} {path : List Nat} {s : Statement}
    (h : source.StandsAt t path s) :
    (source.placed t).filter (·.1 = path) = [(path, s)] := by
  have hlt : ((source.placed t).filter (·.1 = path)).Pairwise fun a b => a.1 < b.1 :=
    (pairwise_placed_lt t).filter _
  have hmem : (path, s) ∈ (source.placed t).filter (·.1 = path) :=
    List.mem_filter.mpr ⟨mem_placed_iff.mpr h, by simp⟩
  have hpath : ∀ a ∈ (source.placed t).filter (·.1 = path), a.1 = path :=
    fun a ha => by simpa using (List.mem_filter.mp ha).2
  generalize (source.placed t).filter (·.1 = path) = found at hlt hmem hpath
  cases found with
  | nil => cases hmem
  | cons a rest =>
    cases rest with
    | nil => exact congrArg (· :: []) (List.mem_singleton.mp hmem).symm
    | cons b rest =>
      have hab : a.1 < b.1 := (List.pairwise_cons.mp hlt).1 b List.mem_cons_self
      rw [hpath a List.mem_cons_self, hpath b (List.mem_cons_of_mem a List.mem_cons_self)] at hab
      exact absurd hab (List.lt_irrefl path)

end Placed

end Source

/-- The traversal of `root` comes to an export statement that declares names by `d`, and `path`
leads to `d`. -/
def Syntax.ReachedExport (root : Syntax) (path : List Nat) (d : Syntax) : Prop :=
  ∃ t before i, path = before ++ [i] ∧ Syntax.Reached root before t ∧ t.ExportsAt i d

open Syntax in
/-- The walk with a stack collects the statements of the recursive traversal, in its order. They are
given, unless an expression of a node that is reached nests too deep. Each statement has its place:
a statement is collected for each place where one stands, places in the order of the tree. So a
declaration that is reached is collected once, either by itself or as exported. -/
theorem Source.statements_traversed (source : Source) (root : Syntax) :
    root.statementNodes.filterMap source.statement? = source.traversal root ∧
    (root.statements? source = none ↔
      ∃ path t, Reached root path t ∧ ∃ e ∈ t.statementExpressions, nestingLimit < e.nesting) ∧
    (∀ list, root.statements? source = some list → list = source.traversal root) ∧
    ∃ placed : List (List Nat × Statement),
      placed.map Prod.snd = source.traversal root ∧
      placed.Pairwise (fun a b => a.1 < b.1) ∧
      (∀ path s, (path, s) ∈ placed ↔ source.StandsAt root path s) ∧
      ∀ path d, d.isDeclaration →
        (Reached root path d →
          placed.filter (·.1 = path) = [(path, .declaration (source.declarationOf d))]) ∧
        (ReachedExport root path d →
          placed.filter (·.1 = path) = [(path, .exported (source.declarationOf d))]) ∧
        ¬ (Reached root path d ∧ ReachedExport root path d) := by
  have hbare {path d} (hd : d.isDeclaration) (h : Reached root path d) :
      source.StandsAt root path (.declaration (source.declarationOf d)) :=
    ⟨d, path, [], (List.append_nil path).symm, h, .declaration hd⟩
  have hexported {path d} (h : ReachedExport root path d) :
      source.StandsAt root path (.exported (source.declarationOf d)) := by
    obtain ⟨t, before, i, rfl, ht, he⟩ := h
    exact ⟨t, before, [i], rfl, ht, .exported he⟩
  refine ⟨source.filterMap_statementNodes root, ?_, fun list h => ?_, source.placed root,
    map_snd_placed root, pairwise_placed_lt root, fun path s => mem_placed_iff,
    fun path d hd => ⟨fun h => filter_placed (hbare hd h), fun h => filter_placed (hexported h),
      fun h => ?_⟩⟩
  · rw [statements?_eq_none_iff]
    simp only [mem_statementNodes_iff]
    constructor
    · intro hex
      obtain ⟨t, ⟨path, ht⟩, he⟩ := hex
      exact ⟨path, t, ht, he⟩
    · intro hex
      obtain ⟨path, t, ht, he⟩ := hex
      exact ⟨t, ⟨path, ht⟩, he⟩
  · rw [statements?] at h
    split at h
    · exact (Option.some.inj h).symm.trans (source.filterMap_statementNodes root)
    · cases h
  · have hboth := (filter_placed (hbare hd h.1)).symm.trans (filter_placed (hexported h.2))
    cases hboth

/-- A declaration in what an exported name holds. -/
def innerDeclaration : ParsedFile :=
  .ofChars .tsx "export const a = () => \x7b let b = \"p-1\"; \x7d;".toList

open Syntax in
theorem innerDeclaration_traversed :
    let source := innerDeclaration.source
    let root := innerDeclaration.root
    ∃ (list : List Statement) (placed : List (List Nat × Statement)),
      root.statements? source = some list ∧ list = source.traversal root ∧
      placed.map Prod.snd = list ∧
      (∃ path d, d.isDeclaration ∧ Reached root path d ∧
        placed.filter (·.1 = path) = [(path, .declaration (source.declarationOf d))]) ∧
      ∃ path d, d.isDeclaration ∧ ReachedExport root path d ∧
        placed.filter (·.1 = path) = [(path, .exported (source.declarationOf d))] := by
  intro source root
  have hsome : (root.statements? source).isSome = true := by decide +kernel
  have hbare : root.statementNodes.any isDeclaration = true := by decide +kernel
  have hexported : root.statementNodes.any (·.exportedAt?.isSome) = true := by decide +kernel
  obtain ⟨list, hlist⟩ := Option.isSome_iff_exists.mp hsome
  obtain ⟨d, hd, hdecl⟩ := List.any_eq_true.mp hbare
  obtain ⟨path, hpath⟩ := mem_statementNodes_iff.mp hd
  obtain ⟨t, ht, hat⟩ := List.any_eq_true.mp hexported
  obtain ⟨before, hbefore⟩ := mem_statementNodes_iff.mp ht
  obtain ⟨⟨e, i⟩, he⟩ := Option.isSome_iff_exists.mp hat
  have he := exportedAt?_eq_some_iff.mp he
  have hexport : ReachedExport root (before ++ [i]) e := ⟨t, before, i, rfl, hbefore, he⟩
  obtain ⟨-, -, heq, placed, hsnd, -, -, honce⟩ := Source.statements_traversed source root
  exact ⟨list, placed, hlist, heq list hlist, hsnd.trans (heq list hlist).symm,
    ⟨path, d, hdecl, hpath, (honce path d hdecl).1 hpath⟩,
    ⟨before ++ [i], e, he.2.1, hexport, (honce _ e he.2.1).2.1 hexport⟩⟩

end StateCoverage
