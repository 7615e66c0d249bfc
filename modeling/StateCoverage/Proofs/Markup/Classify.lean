import StateCoverage.Proofs.Coverage
import StateCoverage.Proofs.Markup.Attribute
import Mathlib.Data.List.Perm.Basic

/-!
When an element is reported. The answer depends on what its attributes say slot by slot: their order
counts only inside a slot where the last one counts, and attributes without a slot never count.
-/
namespace StateCoverage.Markup

def Slot.ordered : List Slot := [.classes, .role, .type, .tabIndex]

section Nodes
variable (source : Source) (names : List Text)

def attributeNodes (t : Syntax) : List Syntax := t.namedChildren.filter (·.kind = "jsx_attribute")

def attribute? (node : Syntax) : Option Attribute :=
  match node.namedChildren with
  | [] => none
  | name :: rest => some ⟨source.textOf name, rest.head?⟩

def nodeSlot? (node : Syntax) : Option Slot := (attribute? source node).bind (slot? names ·.name)

/-- Does an attribute count at all? One without a name counts, for it ends the reading. -/
def isRead (node : Syntax) : Bool :=
  (attribute? source node).isNone || (nodeSlot? source names node).isSome

theorem attributes_eq (t : Syntax) :
    attributes source t =
      if (attributeNodes t).all fun node => (attribute? source node).isSome then
        .ok ((attributeNodes t).filterMap (attribute? source))
      else .error {} := by
  unfold attributes
  rw [← attributeNodes]
  induction attributeNodes t with
  | nil => rfl
  | cons node rest ih =>
    rw [List.mapM_cons, ih, List.all_cons, List.filterMap_cons, attribute?]
    cases node.namedChildren with
    | nil => rfl
    | cons name more =>
      simp only [Option.isSome_some, Bool.true_and]
      split <;> rfl

theorem filter_isRead_slot (slot : Slot) (nodes : List Syntax) :
    (nodes.filter (isRead source names)).filter (nodeSlot? source names · = some slot) =
      nodes.filter (nodeSlot? source names · = some slot) := by
  rw [List.filter_filter]
  refine List.filter_congr fun node _ => ?_
  by_cases h : nodeSlot? source names node = some slot <;> simp [h, isRead]

theorem inSlot_filterMap_nodes (slot : Slot) (nodes : List Syntax) :
    inSlot names slot ((nodes.filterMap (attribute? source)).map (·.reading source)) =
      ((nodes.filter (nodeSlot? source names · = some slot)).filterMap
        (attribute? source)).map (·.reading source) := by
  unfold inSlot
  induction nodes with
  | nil => rfl
  | cons node rest ih =>
    cases ha : attribute? source node with
    | none => simpa [ha, nodeSlot?] using ih
    | some a =>
      by_cases hslot : slot? names a.name = some slot
      · simpa [ha, nodeSlot?, hslot, Attribute.reading] using ih
      · simpa [ha, nodeSlot?, hslot, Attribute.reading] using ih

end Nodes

/-- The same element with its attributes in another order, where those of one ordered slot keep
theirs, and with other spreads and other attributes that have no slot. -/
structure Rearranged (source : Source) (names : List Text) (t t' : Syntax) : Prop where
  name : t'.field? "name" = t.field? "name"
  start : t'.start = t.start
  read : ((attributeNodes t').filter (isRead source names)).Perm
    ((attributeNodes t).filter (isRead source names))
  order : ∀ slot ∈ Slot.ordered,
    (attributeNodes t').filter (nodeSlot? source names · = some slot) =
      (attributeNodes t).filter (nodeSlot? source names · = some slot)

section Congr
variable {source : Source} {table : Table} {names : List Text} {t t' : Syntax}

theorem traitsOf_congr {list list' : List Reading}
    (horder : ∀ slot ∈ Slot.ordered, inSlot names slot list' = inSlot names slot list)
    (hperm : ∀ slot, (inSlot names slot list').Perm (inSlot names slot list)) :
    traitsOf names table list' = traitsOf names table list := by
  unfold traitsOf lastClass?
  rw [horder .classes (by decide), horder .role (by decide), horder .type (by decide),
    horder .tabIndex (by decide), (hperm .disabled).isEmpty_eq, (hperm .disabled).any_eq,
    (hperm .validation).isEmpty_eq, (hperm .placeholder).isEmpty_eq]

/-- Only class attributes leave events. -/
theorem flatMap_classReading_nodes (nodes : List Syntax) :
    ((nodes.filterMap (attribute? source)).flatMap fun a =>
        (classReading source table names a).2) =
      ((nodes.filter (nodeSlot? source names · = some .classes)).filterMap
        (attribute? source)).flatMap fun a => (classReading source table names a).2 := by
  induction nodes with
  | nil => rfl
  | cons node rest ih =>
    cases ha : attribute? source node with
    | none => simpa [ha, nodeSlot?] using ih
    | some a =>
      by_cases hmem : a.name ∈ names
      · simpa [ha, nodeSlot?, slot?_eq_classes_iff, hmem] using ih
      · simpa [ha, nodeSlot?, slot?_eq_classes_iff, hmem,
          classReading_of_not_mem source table names hmem] using ih

theorem classify_eq (source : Source) (table : Table) (names : List Text) (t : Syntax) :
    classify source table names t =
      match (t.field? "name").filter (·.kind = "identifier") with
      | none => .ok (none, [])
      | some name => (attributes source t).map fun list =>
        let answer := (traitsOf names table (list.map (·.reading source))).element?
          (source.textOf name) (source.line t)
        (answer.1, (list.flatMap fun a => (classReading source table names a).2) ++ answer.2) := by
  unfold classify
  cases (t.field? "name").filter (·.kind = "identifier") with
  | none => rfl
  | some name =>
    refine congrArg (fun f => Except.map f (attributes source t)) (funext fun list => ?_)
    have hfold := foldl_readAttribute source table names list
    generalize list.foldl (readAttribute source table names) ({}, []) = answer at hfold ⊢
    subst hfold
    rfl

namespace Rearranged

theorem perm_slot (h : Rearranged source names t t') (slot : Slot) :
    ((attributeNodes t').filter (nodeSlot? source names · = some slot)).Perm
      ((attributeNodes t).filter (nodeSlot? source names · = some slot)) := by
  rw [← filter_isRead_slot source names slot (attributeNodes t'),
    ← filter_isRead_slot source names slot (attributeNodes t)]
  exact h.read.filter _

theorem all_named (h : Rearranged source names t t') :
    ((attributeNodes t').all fun node => (attribute? source node).isSome) =
      (attributeNodes t).all fun node => (attribute? source node).isSome := by
  have hread (nodes : List Syntax) : (nodes.all fun node => (attribute? source node).isSome) =
      (nodes.filter (isRead source names)).all fun node => (attribute? source node).isSome := by
    rw [Bool.eq_iff_iff]
    simp only [List.all_eq_true, List.mem_filter, and_imp]
    refine forall₂_congr fun node _ => ?_
    cases ha : attribute? source node <;> simp [isRead, ha]
  rw [hread, hread (attributeNodes t)]
  exact h.read.all_eq

theorem classify_eq (h : Rearranged source names t t') :
    classify source table names t' = classify source table names t := by
  have htraits : traitsOf names table
        (((attributeNodes t').filterMap (attribute? source)).map (·.reading source)) =
      traitsOf names table
        (((attributeNodes t).filterMap (attribute? source)).map (·.reading source)) := by
    refine traitsOf_congr (fun slot hslot => ?_) fun slot => ?_
    · rw [inSlot_filterMap_nodes, inSlot_filterMap_nodes, h.order slot hslot]
    · rw [inSlot_filterMap_nodes, inSlot_filterMap_nodes]
      exact ((h.perm_slot slot).filterMap _).map _
  have hline : source.line t' = source.line t := congrArg (source.row · + 1) h.start
  -- an attribute without a name ends both readings, with the same answer
  rw [Markup.classify_eq, Markup.classify_eq, h.name, attributes_eq, attributes_eq, h.all_named,
    hline]
  cases (t.field? "name").filter (·.kind = "identifier") with
  | none => rfl
  | some name =>
    dsimp only
    split
    · rw [Except.map, Except.map, htraits, flatMap_classReading_nodes (attributeNodes t'),
        h.order .classes (by decide), ← flatMap_classReading_nodes]
    · rfl

end Rearranged

end Congr

def skippedClasses : List Text :=
  ["hidden", "sr-only", "invisible", "pointer-events-none"].map text

def Hides (classes : Text) : Prop := ∃ c ∈ classes.words, c ∈ skippedClasses

theorem hides_iff (classes : Text) :
    (isVisuallyHidden classes || isNonInteractive classes) = true ↔ Hides classes := by
  simp only [isVisuallyHidden, isNonInteractive, Hides, skippedClasses, Bool.or_eq_true,
    List.any_eq_true, decide_eq_true_eq, ← exists_or, ← and_or_left]
  refine exists_congr fun c => and_congr_right fun _ => ?_
  simp [or_assoc]

namespace Traits
variable {traits : Traits} {tag : Text}

def HasControlRole (traits : Traits) : Prop :=
  traits.role = some (text "button") ∨ traits.role = some (text "link")

/-- Is an element of this tag reported, by what its attributes say? -/
structure Reported (traits : Traits) (tag : Text) : Prop where
  visible : ¬ Hides traits.className.text
  reachable : traits.tabIndex.any Binary64.isMinusOne = false
  notFile : tag = text "input" → traits.inputType ≠ some (text "file")
  label : tag = text "label" → traits.HasControlRole
  used : tag ∈ interactiveTags ∨ traits.HasControlRole ∨
    traits.tabIndex.any Binary64.isZero = true

theorem roleType?_isSome_iff : (roleType? traits.role).isSome = true ↔ traits.HasControlRole := by
  unfold roleType? HasControlRole
  split_ifs <;> simp_all

theorem isExcluded_eq_false_iff :
    traits.isExcluded tag = false ↔
      ¬ Hides traits.className.text ∧
        traits.tabIndex.any Binary64.isMinusOne = false ∧
        (tag = text "input" → traits.inputType ≠ some (text "file")) ∧
        (tag = text "label" → traits.HasControlRole) := by
  rw [isExcluded, Bool.or_eq_false_iff, Bool.or_eq_false_iff, Bool.or_eq_false_iff,
    Bool.eq_false_iff, ne_eq, hides_iff, ← roleType?_isSome_iff]
  simp [and_assoc]

theorem isControl_eq_true_iff :
    traits.isControl tag = true ↔ tag ∈ interactiveTags ∨ traits.HasControlRole := by
  rw [isControl, Bool.or_eq_true, decide_eq_true_eq, roleType?_isSome_iff]

theorem isRegion_eq_true_iff :
    traits.isRegion tag = true ↔ traits.tabIndex.any Binary64.isZero = true ∧
      tag ∉ interactiveTags ∧ ¬ traits.HasControlRole := by
  rw [isRegion, Bool.and_eq_true, Bool.not_eq_true', Bool.eq_false_iff, ne_eq,
    isControl_eq_true_iff, not_or]

theorem element?_isSome_iff (line : Nat) :
    (traits.element? tag line).1.isSome = true ↔ traits.Reported tag := by
  have hused : (traits.isControl tag || traits.isRegion tag) = true ↔
      tag ∈ interactiveTags ∨ traits.HasControlRole ∨
        traits.tabIndex.any Binary64.isZero = true := by
    rw [Bool.or_eq_true, isControl_eq_true_iff, isRegion_eq_true_iff]
    tauto
  unfold element?
  cases hexcluded : traits.isExcluded tag with
  | true =>
    refine iff_of_false (by simp) fun hr => ?_
    have := isExcluded_eq_false_iff.mpr ⟨hr.visible, hr.reachable, hr.notFile, hr.label⟩
    rw [hexcluded] at this
    cases this
  | false =>
    obtain ⟨hvisible, hreachable, hfile, hlabel⟩ := isExcluded_eq_false_iff.mp hexcluded
    cases h : traits.isControl tag || traits.isRegion tag with
    | true => exact iff_of_true rfl ⟨hvisible, hreachable, hfile, hlabel, hused.mp h⟩
    | false =>
      refine iff_of_false (by simp) fun hr => ?_
      have := hused.mpr hr.used
      rw [h] at this
      cases this

theorem isContentRegion_eq {line : Nat} {e : InteractiveElement}
    (h : (traits.element? tag line).1 = some e) : e.isContentRegion = traits.isRegion tag := by
  unfold element? at h
  split_ifs at h
  cases h
  rfl

end Traits

section ReadsAs
variable {source : Source} {table : Table} {names : List Text} {t : Syntax} {tag : Text}
  {list : List Reading}

/-- An element with a plain tag, and all that its attributes say. -/
structure ReadsAs (source : Source) (t : Syntax) (tag : Text) (list : List Reading) : Prop where
  tag : ∃ name, t.field? "name" = some name ∧ name.kind = "identifier" ∧ source.textOf name = tag
  readings : ∃ all, attributes source t = .ok all ∧ all.map (·.reading source) = list

/-- Is the element among those that a user can interact with? -/
def IsReported (source : Source) (table : Table) (names : List Text) (t : Syntax) : Prop :=
  ∃ e events, classify source table names t = .ok (some e, events)

theorem isSome_classify_iff :
    ((classify source table names t).toOption.bind (·.1)).isSome = true ↔
      IsReported source table names t := by
  unfold IsReported
  cases classify source table names t with
  | error e => simp [Except.toOption]
  | ok answer =>
    obtain ⟨_ | e, events⟩ := answer <;> simp [Except.toOption]

instance : Decidable (IsReported source table names t) := decidable_of_iff _ isSome_classify_iff

theorem ReadsAs.classify_eq (h : ReadsAs source t tag list) (table : Table) (names : List Text) :
    ∃ events, classify source table names t =
      .ok (((traitsOf names table list).element? tag (source.line t)).1, events) := by
  obtain ⟨⟨name, hname, hkind, rfl⟩, all, hall, rfl⟩ := h
  rw [Markup.classify_eq, hname, Option.filter_some, if_pos (by simpa using hkind), hall]
  exact ⟨_, rfl⟩

theorem ReadsAs.isReported_iff (h : ReadsAs source t tag list) :
    IsReported source table names t ↔ (traitsOf names table list).Reported tag := by
  obtain ⟨events, heq⟩ := h.classify_eq table names
  rw [← Traits.element?_isSome_iff (source.line t), Option.isSome_iff_exists]
  constructor
  · rintro ⟨e, more, he⟩
    rw [heq] at he
    exact ⟨e, (Prod.mk.inj (Except.ok.inj he)).1⟩
  · rintro ⟨e, he⟩
    exact ⟨e, events, by rw [heq, he]⟩

theorem IsReported.exists_readsAs (h : IsReported source table names t) :
    ∃ tag list, ReadsAs source t tag list := by
  obtain ⟨e, events, h⟩ := h
  rw [Markup.classify_eq] at h
  cases hname : (t.field? "name").filter (·.kind = "identifier") with
  | none =>
    rw [hname] at h
    cases h
  | some name =>
    rw [hname] at h
    obtain ⟨hfield, hkind⟩ := Option.filter_eq_some_iff.mp hname
    cases hall : attributes source t with
    | error e =>
      rw [hall] at h
      cases h
    | ok all => exact ⟨_, _, ⟨name, hfield, by simpa using hkind, rfl⟩, all, hall, rfl⟩

theorem isReported_iff :
    IsReported source table names t ↔
      ∃ tag list, ReadsAs source t tag list ∧ (traitsOf names table list).Reported tag := by
  constructor
  · intro h
    obtain ⟨tag, list, hread⟩ := h.exists_readsAs
    exact ⟨tag, list, hread, hread.isReported_iff.mp h⟩
  · rintro ⟨tag, list, hread, hreported⟩
    exact hread.isReported_iff.mpr hreported

theorem ReadsAs.isContentRegion_iff (hread : ReadsAs source t tag list) {e : InteractiveElement}
    {events : List Event} (h : classify source table names t = .ok (some e, events)) :
    e.isContentRegion = true ↔ (traitsOf names table list).tabIndex.any Binary64.isZero = true ∧
      tag ∉ interactiveTags ∧ ¬ (traitsOf names table list).HasControlRole := by
  obtain ⟨events', h'⟩ := hread.classify_eq table names
  rw [h] at h'
  rw [Traits.isContentRegion_eq (Prod.mk.inj (Except.ok.inj h')).1.symm,
    Traits.isRegion_eq_true_iff]

end ReadsAs

/-- The classification of an element depends neither on the order of its attributes, but for those
of one ordered slot, nor on attributes that have no slot. An element is reported by what the slots
say, and it is a content region if only the tab index makes it one to report. -/
theorem classify_by_slots (source : Source) (table : Table) (names : List Text) :
    (∀ t t', Rearranged source names t t' →
      classify source table names t' = classify source table names t) ∧
    ∀ t, (IsReported source table names t ↔
        ∃ tag list, ReadsAs source t tag list ∧ (traitsOf names table list).Reported tag) ∧
      ∀ tag list e events, ReadsAs source t tag list →
        classify source table names t = .ok (some e, events) →
        (e.isContentRegion = true ↔
          (traitsOf names table list).tabIndex.any Binary64.isZero = true ∧
            tag ∉ interactiveTags ∧ ¬ (traitsOf names table list).HasControlRole) :=
  ⟨fun _ _ h => h.classify_eq, fun _ => ⟨isReported_iff,
    fun _ _ _ _ hread h => hread.isContentRegion_iff h⟩⟩

section Pick

/-- The node with its children at these places, in this order. -/
def pick (t : Syntax) (places : List Nat) : Syntax :=
  .node t.kind t.start t.stop t.field t.isNamed t.isMissing (places.map (t.children[·]!))

theorem pick_range (t : Syntax) : pick t (List.range t.children.length) = t := by
  have hchildren : (List.range t.children.length).map (t.children[·]!) = t.children := by
    refine List.ext_getElem (by simp) fun i hi hi' => ?_
    simp [hi']
  unfold pick
  rw [hchildren]
  cases t
  rfl

/-- Is the child at a place an attribute with this property? -/
def attributeAt (t : Syntax) (p : Syntax → Bool) (place : Nat) : Bool :=
  let child := t.children[place]!
  p child && (child.kind = "jsx_attribute" && child.isNamed)

theorem filter_attributeNodes_pick (t : Syntax) (places : List Nat) (p : Syntax → Bool) :
    (attributeNodes (pick t places)).filter p =
      (places.filter (attributeAt t p)).map (t.children[·]!) := by
  rw [attributeNodes, Syntax.namedChildren, pick, Syntax.children, List.filter_map,
    List.filter_map, List.filter_map, List.filter_filter, List.filter_filter]
  simp only [Function.comp_def, Bool.and_assoc]
  rfl

/-- The places of the children tell whether a node is the other one rearranged. -/
theorem rearranged_pick {source : Source} {names : List Text} {t : Syntax} {places : List Nat}
    (hname : places.find? (fun i => t.children[i]!.field = some "name") =
      (List.range t.children.length).find? fun i => t.children[i]!.field = some "name")
    (hread : (places.filter (attributeAt t (isRead source names))).Perm
      ((List.range t.children.length).filter (attributeAt t (isRead source names))))
    (horder : ∀ slot ∈ Slot.ordered,
      places.filter (attributeAt t (nodeSlot? source names · = some slot)) =
        (List.range t.children.length).filter
          (attributeAt t (nodeSlot? source names · = some slot))) :
    Rearranged source names t (pick t places) := by
  have h : Rearranged source names (pick t (List.range t.children.length)) (pick t places) := by
    refine ⟨?_, rfl, ?_, fun slot hslot => ?_⟩
    · have hfind (is : List Nat) : (pick t is).field? "name" =
          (is.find? fun i => t.children[i]!.field = some "name").map (t.children[·]!) :=
        List.find?_map ..
      rw [hfind, hfind, hname]
    · rw [filter_attributeNodes_pick, filter_attributeNodes_pick]
      exact hread.map _
    · rw [filter_attributeNodes_pick, filter_attributeNodes_pick, horder slot hslot]
  rwa [pick_range] at h

end Pick

/-- A link by its role, with a class text behind which stands an unknown one. -/
def styledLink : ParsedFile :=
  .ofChars .tsx <| String.toList
    "<div id=\"x\" \x7b...a\x7d class=\"p-1\" role=\"link\" tabIndex=\x7b0\x7d class=\x7bc\x7d/>"

theorem styledLink_rearranged :
    let t := (elements styledLink.root).head!
    let t' := pick t [5, 0, 3, 6, 4]
    Rearranged styledLink.source [text "class"] t t' ∧
      classify styledLink.source [] [text "class"] t' =
        classify styledLink.source [] [text "class"] t ∧
      ∃ tag list e events, ReadsAs styledLink.source t tag list ∧
        classify styledLink.source [] [text "class"] t = .ok (some e, events) ∧
        (traitsOf [text "class"] [] list).Reported tag ∧
        ¬ ((traitsOf [text "class"] [] list).tabIndex.any Binary64.isZero = true ∧
          tag ∉ interactiveTags ∧ ¬ (traitsOf [text "class"] [] list).HasControlRole) := by
  intro t t'
  have h : Rearranged styledLink.source [text "class"] t t' :=
    rearranged_pick (by decide +kernel) (by decide +kernel) (by decide +kernel)
  obtain ⟨hsame, hreports⟩ := classify_by_slots styledLink.source [] [text "class"]
  obtain ⟨hreported, hregion⟩ := hreports t
  obtain ⟨⟨report, events⟩, hreport, hfound⟩ := exists_ok_of_map_toOption
    (show (classify styledLink.source [] [text "class"] t).toOption.map
      (·.1.map (·.isContentRegion)) = some (some false) by decide +kernel)
  obtain ⟨e, rfl, he⟩ := Option.map_eq_some_iff.mp hfound
  obtain ⟨tag, list, hread, hrep⟩ := hreported.mp ⟨e, events, hreport⟩
  refine ⟨h, hsame t t' h, tag, list, e, events, hread, hreport, hrep, fun hzero => ?_⟩
  rw [(hregion tag list e events hread hreport).mpr hzero] at he
  cases he

end StateCoverage.Markup
