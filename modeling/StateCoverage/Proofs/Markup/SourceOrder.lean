import StateCoverage.Proofs.Grammar.AttributeName.Parse
import StateCoverage.Proofs.Markup.ClassText
import StateCoverage.Proofs.Markup.Classify
import StateCoverage.Proofs.Syntax.Place

/-!
The elements of a file in source order. The walk comes to every element once; the class attributes
are listed element by element, one entry for each attribute that says something about classes, and
the interactive elements are a selection of the elements in their order.
-/
namespace StateCoverage

/-- Where every item of a list can be read, the list can. -/
theorem exists_mapM_eq_ok {ε α β : Type} {f : α → Except ε β} {R : α → β → Prop} {list : List α}
    (h : ∀ a ∈ list, ∃ b, f a = .ok b ∧ R a b) :
    ∃ found, list.mapM f = .ok found ∧ List.Forall₂ R list found := by
  induction list with
  | nil => exact ⟨[], rfl, .nil⟩
  | cons a rest ih =>
    obtain ⟨⟨b, hb, hab⟩, hrest⟩ := List.forall_mem_cons.mp h
    obtain ⟨found, hfound, hall⟩ := ih hrest
    exact ⟨b :: found, by rw [List.mapM_cons, hb, hfound]; rfl, .cons hab hall⟩

/-- The answers that are there belong to items that follow one another in the list; the other items
have none. -/
theorem exists_sublist_of_forall₂ {α β : Type} {R : α → Option β → Prop} {list : List α}
    {answers : List (Option β)} (h : List.Forall₂ R list answers) :
    ∃ chosen, chosen.Sublist list ∧
      List.Forall₂ (fun a b => R a (some b)) chosen (answers.filterMap id) ∧
      ∀ a ∈ list, a ∉ chosen → R a none := by
  induction h with
  | nil => exact ⟨[], .slnil, .nil, by simp⟩
  | @cons a answer rest answers ha _ ih =>
    obtain ⟨chosen, hsub, hchosen, hothers⟩ := ih
    cases answer with
    | none =>
      refine ⟨chosen, hsub.cons a, hchosen, fun b hb hnot => ?_⟩
      obtain rfl | hb := List.mem_cons.mp hb
      · exact ha
      · exact hothers b hb hnot
    | some answer =>
      refine ⟨a :: chosen, hsub.cons_cons a, .cons ha hchosen, fun b hb hnot => ?_⟩
      obtain ⟨hne, hnot⟩ := not_or.mp (List.mem_cons.not.mp hnot)
      exact hothers b ((List.mem_cons.mp hb).resolve_left hne) hnot

namespace Markup

/-! ### Elements -/

/-- The elements of a tree with their paths, as the walk comes to them. -/
def elementPlaces (root : Syntax) : List (List Nat × Syntax) := root.places.filter (isElement ·.2)

section Elements
variable {root element : Syntax}

theorem map_snd_elementPlaces (root : Syntax) :
    (elementPlaces root).map Prod.snd = elements root := by
  rw [elements, ← Syntax.map_snd_places, List.filter_map]
  rfl

theorem mem_elementPlaces_iff {path : List Nat} :
    (path, element) ∈ elementPlaces root ↔
      root.namedAt? path = some element ∧ isElement element = true := by
  rw [elementPlaces, List.mem_filter, Syntax.mem_places_iff]

theorem pairwise_elementPlaces (root : Syntax) :
    (elementPlaces root).Pairwise fun a b => a.1 < b.1 :=
  (Syntax.pairwise_places root).filter _

end Elements

/-! ### Attributes -/

/-- A value that is more than empty braces. Comments between the braces do not count. -/
def IsFilled (value : Syntax) : Prop := value.kind = "jsx_expression" → value.content ≠ []

/-- The child `i` of a named element is an attribute under one of the names, with a filled value. -/
structure IsClassAttribute (source : Source) (names : List Text) (element : Syntax) (i : Nat)
    (tag name value : Syntax) : Prop where
  tag : element.field? "name" = some tag
  node : ∃ a rest, element.children[i]? = some a ∧ a.isNamed = true ∧
    a.kind = "jsx_attribute" ∧ a.namedChildren = name :: value :: rest
  configured : source.textOf name ∈ names
  filled : IsFilled value

def placedAttributes (element : Syntax) : List (Syntax × Nat) :=
  element.children.zipIdx.filter fun c => c.1.isNamed && c.1.kind = "jsx_attribute"

def attributeOf (source : Source) (a : Syntax) : Attribute :=
  ⟨(a.namedChildren.head?.map source.textOf).getD [], a.namedChildren.tail.head?⟩

section Attributes
variable {source : Source} {table : Table} {names : List Text} {element : Syntax}

theorem map_fst_placedAttributes (element : Syntax) :
    (placedAttributes element).map Prod.fst = attributeNodes element := by
  rw [attributeNodes, Syntax.namedChildren, List.filter_filter, placedAttributes]
  conv_rhs => rw [← List.zipIdx_map_fst 0 element.children, List.filter_map]
  simp only [Function.comp_def, Bool.and_comm]

theorem attribute?_eq_some {a : Syntax} (h : a.namedChildren ≠ []) :
    attribute? source a = some (attributeOf source a) := by
  obtain ⟨name, rest, hparts⟩ := List.exists_cons_of_ne_nil h
  rw [attribute?, attributeOf, hparts]
  rfl

theorem attributes_eq_ok (h : ∀ a ∈ element.namedChildren, a.HasName) :
    attributes source element =
      .ok ((placedAttributes element).map fun a => attributeOf source a.1) := by
  have hread : ∀ a ∈ attributeNodes element,
      attribute? source a = some (attributeOf source a) := by
    intro a ha
    obtain ⟨hmem, hkind⟩ := List.mem_filter.mp ha
    exact attribute?_eq_some (h a hmem (of_decide_eq_true hkind))
  have hall : (attributeNodes element).all (fun node => (attribute? source node).isSome) = true :=
    List.all_eq_true.mpr fun a ha => by rw [hread a ha]; rfl
  rw [attributes_eq, if_pos hall, List.filterMap_congr hread, List.filterMap_eq_map',
    ← map_fst_placedAttributes, List.map_map]
  rfl

theorem mem_placedAttributes_iff {a : Syntax} {i : Nat} :
    (a, i) ∈ placedAttributes element ↔
      element.children[i]? = some a ∧ a.isNamed = true ∧ a.kind = "jsx_attribute" := by
  simp [placedAttributes, List.mem_zipIdx_iff_getElem?]

/-- A value says something about classes exactly if it is filled. -/
theorem isFilled_iff (source : Source) (table : Table) {value : Syntax} :
    IsFilled value ↔ ∃ result, (classOutcome source table value).1 = some result := by
  rw [classOutcome_fst, ← Option.isSome_iff_exists, Option.isSome_map, classExpression?, IsFilled]
  split_ifs with hstring hbraces
  · simp [hstring]
  · simp [hbraces, expression?]
  · simp [hbraces]

theorem classReading_fst_eq_some_iff {a : Attribute} {result : Resolution} :
    (classReading source table names a).1 = some result ↔
      ∃ value, a.value = some value ∧ a.name ∈ names ∧
        (classOutcome source table value).1 = some result := by
  unfold classReading
  cases a.value with
  | none => simp
  | some value => by_cases hname : a.name ∈ names <;> simp [hname]

/-- The class attributes of an element with the indexes of their nodes. -/
def entriesOf (source : Source) (table : Table) (names : List Text) (element : Syntax) :
    List (Nat × ClassAttribute) :=
  match element.field? "name" with
  | none => []
  | some tag =>
    (placedAttributes element).flatMap fun a =>
      (classReading source table names (attributeOf source a.1)).1.toList.map fun result =>
        (a.2, ⟨source.textOf tag, (attributeOf source a.1).name, source.line element, result⟩)

theorem exists_elementClasses_eq_ok (h : ∀ a ∈ element.namedChildren, a.HasName) :
    ∃ events, elementClasses source table names element =
      .ok ((entriesOf source table names element).map Prod.snd, events) := by
  cases htag : element.field? "name" with
  | none => exact ⟨[], by rw [elementClasses, entriesOf, htag]; rfl⟩
  | some tag =>
    rw [elementClasses_eq source table names htag, attributes_eq_ok h, entriesOf, htag]
    refine ⟨_, congrArg Except.ok (Prod.ext ?_ rfl)⟩
    dsimp only
    rw [List.flatMap_map, List.map_flatMap]
    simp only [List.map_map, Function.comp_def]

/-- An entry comes from a class attribute with a filled value, and says what that value says. -/
theorem exists_of_mem_entriesOf {i : Nat} {entry : ClassAttribute}
    (h : (i, entry) ∈ entriesOf source table names element) :
    ∃ tag name value, IsClassAttribute source names element i tag name value ∧
      entry.tag = source.textOf tag ∧ entry.name = source.textOf name ∧
      entry.line = source.line element ∧
      (classOutcome source table value).1 = some entry.result := by
  unfold entriesOf at h
  split at h
  · cases h
  · next tag htag =>
    obtain ⟨⟨a, j⟩, ha, h⟩ := List.mem_flatMap.mp h
    obtain ⟨result, hresult, heq⟩ := List.mem_map.mp h
    cases heq
    obtain ⟨value, hvalue, hname, hresult⟩ :=
      classReading_fst_eq_some_iff.mp (Option.mem_toList.mp hresult)
    obtain ⟨hchild, hnamed, hkind⟩ := mem_placedAttributes_iff.mp ha
    obtain ⟨name, rest, hparts⟩ : ∃ name rest, a.namedChildren = name :: value :: rest := by
      unfold attributeOf at hvalue
      match hparts : a.namedChildren, hvalue with
      | name :: value :: rest, rfl => exact ⟨name, rest, rfl⟩
    have heqname : (attributeOf source a).name = source.textOf name := by
      rw [attributeOf, hparts]
      rfl
    exact ⟨tag, name, value, ⟨htag, ⟨a, rest, hchild, hnamed, hkind, hparts⟩, heqname ▸ hname,
      (isFilled_iff source table).mpr ⟨result, hresult⟩⟩, rfl, heqname, rfl, hresult⟩

/-- Every such attribute has its entry. -/
theorem exists_mem_entriesOf (table : Table) {i : Nat} {tag name value : Syntax}
    (h : IsClassAttribute source names element i tag name value) :
    ∃ entry, (i, entry) ∈ entriesOf source table names element := by
  obtain ⟨htag, ⟨a, rest, hchild, hnamed, hkind, hparts⟩, hname, hfilled⟩ := h
  obtain ⟨result, hresult⟩ := (isFilled_iff source table).mp hfilled
  have hof : attributeOf source a = ⟨source.textOf name, some value⟩ := by
    rw [attributeOf, hparts]
    rfl
  have hreading : (classReading source table names (attributeOf source a)).1 = some result :=
    classReading_fst_eq_some_iff.mpr ⟨value, by rw [hof], by rwa [hof], hresult⟩
  rw [entriesOf, htag]
  exact ⟨_, List.mem_flatMap.mpr ⟨(a, i), mem_placedAttributes_iff.mpr ⟨hchild, hnamed, hkind⟩,
    List.mem_map.mpr ⟨result, Option.mem_toList.mpr hreading, rfl⟩⟩⟩

/-- One entry for an attribute, and attributes in their order. -/
theorem pairwise_entriesOf (source : Source) (table : Table) (names : List Text)
    (element : Syntax) :
    (entriesOf source table names element).Pairwise fun a b => a.1 < b.1 := by
  unfold entriesOf
  split
  · exact .nil
  · rw [List.pairwise_flatMap]
    refine ⟨fun a ha => ?_, ((pairwise_zipIdx element.children).filter _).imp
      fun {a b} hab x hx y hy => ?_⟩
    · cases (classReading source table names (attributeOf source a.1)).1 <;> simp
    · obtain ⟨-, -, rfl⟩ := List.mem_map.mp hx
      obtain ⟨-, -, rfl⟩ := List.mem_map.mp hy
      exact hab

end Attributes

/-! ### All class attributes of a tree -/

/-- The class attributes of a tree. Each has its place: the path of the element, and the index of
the attribute in it. -/
def classPlaces (source : Source) (table : Table) (names : List Text) (root : Syntax) :
    List ((List Nat × Nat) × ClassAttribute) :=
  (elementPlaces root).flatMap fun p =>
    (entriesOf source table names p.2).map fun e => ((p.1, e.1), e.2)

section Tree
variable {source : Source} {table : Table} {names : List Text} {root : Syntax}

theorem map_snd_classPlaces (source : Source) (table : Table) (names : List Text) (root : Syntax) :
    (classPlaces source table names root).map Prod.snd =
      (elements root).flatMap fun element =>
        (entriesOf source table names element).map Prod.snd := by
  rw [classPlaces, List.map_flatMap, ← map_snd_elementPlaces, List.flatMap_map]
  simp only [List.map_map, Function.comp_def]

theorem mem_classPlaces_iff {path : List Nat} {i : Nat} {entry : ClassAttribute} :
    ((path, i), entry) ∈ classPlaces source table names root ↔
      ∃ element, root.namedAt? path = some element ∧ isElement element = true ∧
        (i, entry) ∈ entriesOf source table names element := by
  rw [classPlaces, List.mem_flatMap]
  constructor
  · rintro ⟨⟨p, element⟩, hplace, h⟩
    obtain ⟨⟨j, e⟩, he, heq⟩ := List.mem_map.mp h
    cases heq
    obtain ⟨hat, helement⟩ := mem_elementPlaces_iff.mp hplace
    exact ⟨element, hat, helement, he⟩
  · rintro ⟨element, hat, helement, he⟩
    exact ⟨(path, element), mem_elementPlaces_iff.mpr ⟨hat, helement⟩,
      List.mem_map.mpr ⟨(i, entry), he, rfl⟩⟩

/-- Element by element, and within an element attribute by attribute. -/
theorem pairwise_classPlaces (source : Source) (table : Table) (names : List Text)
    (root : Syntax) :
    (classPlaces source table names root).Pairwise fun a b =>
      Prod.Lex (· < ·) (· < ·) a.1 b.1 := by
  rw [classPlaces, List.pairwise_flatMap]
  refine ⟨fun p hp => ?_, (pairwise_elementPlaces root).imp fun {p q} hpq a ha b hb => ?_⟩
  · rw [List.pairwise_map]
    exact (pairwise_entriesOf source table names p.2).imp fun h => .right _ h
  · obtain ⟨-, -, rfl⟩ := List.mem_map.mp ha
    obtain ⟨-, -, rfl⟩ := List.mem_map.mp hb
    exact .left _ _ hpq

/-- Lines never go back. -/
theorem pairwise_line_classPlaces (h : root.Everywhere Syntax.IsOrdered) :
    ((classPlaces source table names root).map Prod.snd).Pairwise fun a b => a.line ≤ b.line := by
  have hline {element : Syntax} {e : Nat × ClassAttribute}
      (he : e ∈ entriesOf source table names element) : e.2.line = source.line element := by
    obtain ⟨-, -, -, -, -, -, hline, -⟩ := exists_of_mem_entriesOf he
    exact hline
  have hforward : (elements root).Pairwise fun a b => a.start ≤ b.start :=
    (Syntax.IsOrdered.pairwise_preorder h).filter _
  rw [map_snd_classPlaces, List.pairwise_flatMap]
  refine ⟨fun element _ => ?_, hforward.imp fun {element next} hle a ha b hb => ?_⟩
  · rw [List.pairwise_map]
    exact (pairwise_entriesOf source table names element).imp_of_mem
      fun ha hb _ => by rw [hline ha, hline hb]
  · obtain ⟨e, he, rfl⟩ := List.mem_map.mp ha
    obtain ⟨e', he', rfl⟩ := List.mem_map.mp hb
    rw [hline he, hline he']
    exact Nat.succ_le_succ (source.row_le_row hle)

theorem exists_classify_eq_ok {element : Syntax} (h : ∀ a ∈ element.namedChildren, a.HasName) :
    ∃ answer, classify source table names element = .ok answer := by
  unfold classify
  cases (element.field? "name").filter (·.kind = "identifier") with
  | none => exact ⟨_, rfl⟩
  | some name =>
    rw [attributes_eq_ok h]
    exact ⟨_, rfl⟩

end Tree

/-! ### Whole files -/

/-- The places of all elements of a tree, in the order of a recursive traversal: an element comes
before those inside it, and what is inside it before what is behind it. -/
structure WalksElements (root : Syntax) (places : List (List Nat × Syntax)) : Prop where
  elements : places.map Prod.snd = elements root
  ordered : places.Pairwise fun a b => a.1 < b.1
  reached : ∀ path t, (path, t) ∈ places ↔ root.namedAt? path = some t ∧ isElement t = true
  anywhere : root.Everywhere Syntax.HasBareTokens → ∀ path t,
    root.nodeAt? (fun _ => true) path = some t → t.isNamed = true → isElement t = true →
      (path, t) ∈ places

theorem walksElements (root : Syntax) : WalksElements root (elementPlaces root) where
  elements := map_snd_elementPlaces root
  ordered := pairwise_elementPlaces root
  reached _ _ := mem_elementPlaces_iff
  anywhere hbare _ _ hat hnamed helement :=
    mem_elementPlaces_iff.mpr
      ⟨Syntax.HasBareTokens.namedAt?_of_nodeAt? hbare hat hnamed, helement⟩

/-- The entries for the class attributes of a tree: one for each class attribute with a filled
value, element by element and in an element attribute by attribute. -/
structure ListsClasses (source : Source) (table : Table) (names : List Text) (root : Syntax)
    (found : List ClassAttribute) (placed : List ((List Nat × Nat) × ClassAttribute)) : Prop where
  entries : placed.map Prod.snd = found
  ordered : placed.Pairwise fun a b => Prod.Lex (· < ·) (· < ·) a.1 b.1
  exists_entry : ∀ path element i tag name value, root.namedAt? path = some element →
    isElement element = true → IsClassAttribute source names element i tag name value →
      ∃ entry, ((path, i), entry) ∈ placed
  entry : ∀ path i entry, ((path, i), entry) ∈ placed → ∃ element tag name value,
    root.namedAt? path = some element ∧ isElement element = true ∧
      IsClassAttribute source names element i tag name value ∧
      entry.tag = source.textOf tag ∧ entry.name = source.textOf name ∧
      entry.line = source.line element ∧ (classOutcome source table value).1 = some entry.result
  lines : root.Everywhere Syntax.IsOrdered → found.Pairwise fun a b => a.line ≤ b.line

theorem listsClasses (source : Source) (table : Table) (names : List Text) (root : Syntax) :
    ListsClasses source table names root
      ((elements root).flatMap fun element => (entriesOf source table names element).map Prod.snd)
      (classPlaces source table names root) where
  entries := map_snd_classPlaces source table names root
  ordered := pairwise_classPlaces source table names root
  exists_entry path element i tag name value hat helement hclass := by
    obtain ⟨entry, he⟩ := exists_mem_entriesOf table hclass
    exact ⟨entry, mem_classPlaces_iff.mpr ⟨element, hat, helement, he⟩⟩
  entry path i entry h := by
    obtain ⟨element, hat, helement, he⟩ := mem_classPlaces_iff.mp h
    obtain ⟨tag, name, value, hentry⟩ := exists_of_mem_entriesOf he
    exact ⟨element, tag, name, value, hat, helement, hentry⟩
  lines h := map_snd_classPlaces source table names root ▸ pairwise_line_classPlaces h

/-- A selection of elements in their order, with what is reported of each; nothing is reported of
the others. -/
structure SelectsElements (source : Source) (table : Table) (names : List Text)
    (places chosen : List (List Nat × Syntax)) (reported : List InteractiveElement) : Prop where
  ordered : chosen.Sublist places
  reported : List.Forall₂ (fun p e => ∃ events,
    classify source table names p.2 = .ok (some e, events)) chosen reported
  others : ∀ p ∈ places, p ∉ chosen → ∃ events,
    classify source table names p.2 = .ok (none, events)

end Markup

namespace ParsedFile
open Markup

variable {file : ParsedFile} {access : FileAccess} {options : ResolverOptions} {path : Text}
  {s : Session} {table : Table}

/-- A reading of a file whose elements can all be read gives something for each of them in turn. -/
theorem exists_reading_eq_ok {α β : Type} {R : Syntax → α → Prop}
    (read : Table → Syntax → Except NamelessAttribute (α × List Event)) (finish : List α → β)
    (report : β → Event) (htable : (file.table access options path s).1 = .ok table)
    (h : ∀ element ∈ elements file.root,
      ∃ answer, read table element = .ok answer ∧ R element answer.1) :
    ∃ found s', file.reading access options path read finish report s = (.ok (finish found), s') ∧
      List.Forall₂ R (elements file.root) found := by
  obtain ⟨answers, hanswers, hall⟩ := exists_mapM_eq_ok h
  unfold reading readElements
  generalize file.table access options path s = made at htable ⊢
  obtain ⟨made, s₁⟩ := made
  obtain rfl : made = .ok table := htable
  dsimp only
  rw [hanswers]
  exact ⟨answers.map Prod.fst, _, rfl, List.forall₂_map_right_iff.mpr hall⟩

/-- The elements of a file in source order. The walk with a stack is the recursive traversal, and it
comes to every element once, wherever one is nested. Where every attribute has its name, as in the
tree of every source, the class attributes of a file are listed, one entry for each with a filled
value, element by element and in their order in an element, on lines that never go back; and the
interactive elements are a selection of the elements in their order. -/
theorem elements_in_source_order :
    (∀ t : Syntax, t.preorder = t :: t.namedChildren.flatMap Syntax.preorder) ∧
    (∀ root, WalksElements root (elementPlaces root)) ∧
    (∀ dialect cs, (ofChars dialect cs).root.Everywhere Syntax.HasName) ∧
    ∀ (file : ParsedFile) access options path s table,
      (file.table access options path s).1 = .ok table → file.root.Everywhere Syntax.HasName →
      (∃ found s' placed, file.classAttributes access options path s = (.ok found, s') ∧
        ListsClasses file.source table options.attributeNames file.root found placed) ∧
      ∃ reported s' chosen, file.interactiveElements access options path s = (.ok reported, s') ∧
        SelectsElements file.source table options.attributeNames (elementPlaces file.root) chosen
          reported := by
  refine ⟨Syntax.preorder_eq, walksElements,
    fun dialect cs => (Grammar.namesAttributes_parse dialect cs).everywhere,
    fun file access options path s table htable hname => ?_⟩
  have hnames : ∀ element ∈ elements file.root, ∀ a ∈ element.namedChildren, a.HasName := by
    intro element helement a ha
    exact ((hname.of_mem_preorder (List.mem_filter.mp helement).1).child ha).self
  constructor
  · obtain ⟨classes, s', hread, hall⟩ := exists_reading_eq_ok
      (fun table => elementClasses file.source table options.attributeNames) List.flatten
      (fun found => .classAttributesExtracted path found.length
        (found.countP fun a => !a.result.isComplete))
      (R := fun element classes =>
        (entriesOf file.source table options.attributeNames element).map Prod.snd = classes)
      htable fun element helement => by
        obtain ⟨events, hevents⟩ := exists_elementClasses_eq_ok (hnames element helement)
        exact ⟨_, hevents, rfl⟩
    rw [← classAttributes_eq] at hread
    rw [← List.forall₂_map_left_iff, List.forall₂_eq_eq_eq] at hall
    refine ⟨_, s', classPlaces file.source table options.attributeNames file.root, hread, ?_⟩
    rw [← hall, ← List.flatMap_def]
    exact listsClasses file.source table options.attributeNames file.root
  · obtain ⟨reports, s', hread, hall⟩ := exists_reading_eq_ok
      (fun table => classify file.source table options.attributeNames) (List.filterMap id)
      (fun found => .interactiveElementsExtracted path found.length)
      (R := fun element report => ∃ events,
        classify file.source table options.attributeNames element = .ok (report, events))
      htable fun element helement => by
        obtain ⟨answer, hanswer⟩ := exists_classify_eq_ok (hnames element helement)
        exact ⟨answer, hanswer, answer.2, hanswer⟩
    rw [← interactiveElements_eq] at hread
    rw [← map_snd_elementPlaces, List.forall₂_map_left_iff] at hall
    obtain ⟨chosen, hsub, hchosen, hothers⟩ := exists_sublist_of_forall₂ hall
    exact ⟨_, s', chosen, hread, hsub, hchosen, hothers⟩

/-- Elements in an attribute, among the children, in an expression and in the substitution of a
template. -/
def nestedPage : ParsedFile :=
  .ofChars .tsx ("<L icon=\x7b<b class=\"x\"/>\x7d class=\x7b\x7d className=\"y\">\n" ++
    "\x7bon && <i class=\x7b`a $\x7b<u class=\"z\"/>\x7d`\x7d/>\x7d\n<a class=\"w\"/></L>;").toList

theorem nestedPage_in_source_order :
    let access : FileAccess := .empty
    let root := nestedPage.root
    let names := ({} : ResolverOptions).attributeNames
    root.Everywhere Syntax.HasName ∧ root.Everywhere Syntax.HasBareTokens ∧
      root.Everywhere Syntax.IsOrdered ∧ WalksElements root (elementPlaces root) ∧
      ∃ table found s' placed reported s'' chosen,
        (nestedPage.table access {} [] {}).1 = .ok table ∧
        nestedPage.classAttributes access {} [] {} = (.ok found, s') ∧
        found.map (fun a => (a.tag, a.line, a.result.text)) =
          [("L", 1, "y"), ("b", 1, "x"), ("i", 2, "a "), ("u", 2, "z"), ("a", 3, "w")].map
            (fun a => (text a.1, a.2.1, text a.2.2)) ∧
        ListsClasses nestedPage.source table names root found placed ∧
        found.Pairwise (fun a b => a.line ≤ b.line) ∧
        nestedPage.interactiveElements access {} [] {} = (.ok reported, s'') ∧
        SelectsElements nestedPage.source table names (elementPlaces root) chosen reported := by
  intro access root names
  have hbare : root.Everywhere Syntax.HasBareTokens := Syntax.everywhere_iff.mpr (by decide +kernel)
  have hordered : root.Everywhere Syntax.IsOrdered := Syntax.everywhere_iff.mpr (by decide +kernel)
  obtain ⟨-, hwalks, hnames, hfile⟩ := elements_in_source_order
  have hname : root.Everywhere Syntax.HasName := hnames _ _
  obtain ⟨table, htable, -⟩ := exists_ok_of_map_toOption
    (show (nestedPage.table access {} [] {}).1.toOption.map (fun _ => ()) = some () by
      decide +kernel)
  obtain ⟨⟨found, s', placed, hfound, hlists⟩, reported, s'', chosen, hreported, hselects⟩ :=
    hfile nestedPage access {} [] {} table htable hname
  obtain ⟨found', hfound', htexts⟩ := exists_ok_of_map_toOption
    (show (nestedPage.classAttributes access {} [] {}).1.toOption.map
        (·.map fun a => (a.tag, a.line, a.result.text)) =
          some ([("L", 1, "y"), ("b", 1, "x"), ("i", 2, "a "), ("u", 2, "z"), ("a", 3, "w")].map
            (fun a => (text a.1, a.2.1, text a.2.2))) by
      decide +kernel)
  obtain rfl : found = found' := Except.ok.inj ((congrArg Prod.fst hfound).symm.trans hfound')
  exact ⟨hname, hbare, hordered, hwalks root, table, found, s', placed, reported, s'', chosen,
    htable,
    hfound, htexts, hlists, hlists.lines hordered, hreported, hselects⟩

end ParsedFile

end StateCoverage
