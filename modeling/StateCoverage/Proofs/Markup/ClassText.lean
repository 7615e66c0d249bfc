import StateCoverage.Proofs.Coverage
import StateCoverage.Proofs.Markup.Attribute
import Mathlib.Data.List.Forall2

/-!
Two readings of one file, of its class attributes and of its interactive elements. They agree on the
class text of an element: the last class attribute that says anything gives it.
-/
namespace StateCoverage

/-- A list that is read item by item was read at every item. -/
theorem forall₂_of_mapM_eq_ok {ε α β : Type} {f : α → Except ε β} {list : List α} {found : List β}
    (h : list.mapM f = .ok found) : List.Forall₂ (fun a b => f a = .ok b) list found := by
  induction list generalizing found with
  | nil =>
    cases h
    exact .nil
  | cons a rest ih =>
    rw [List.mapM_cons] at h
    cases ha : f a with
    | error e =>
      rw [ha] at h
      cases h
    | ok b =>
      cases hrest : rest.mapM f with
      | error e =>
        rw [ha, hrest] at h
        cases h
      | ok bs =>
        rw [ha, hrest] at h
        cases h
        exact .cons ha (ih hrest)

namespace Markup

section Attribute
variable (source : Source) (table : Table) (names : List Text)

/-- What the attributes of an element say about classes, one after the other. -/
def classReadings (list : List Attribute) : List Resolution :=
  list.filterMap fun a => (classReading source table names a).1

theorem elementClasses_eq {element name : Syntax} (hname : element.field? "name" = some name) :
    elementClasses source table names element =
      (attributes source element).map fun list =>
        (list.flatMap fun a => (classReading source table names a).1.toList.map
            (ClassAttribute.mk (source.textOf name) a.name (source.line element)),
          list.flatMap fun a => (classReading source table names a).2) := by
  unfold elementClasses
  rw [hname]
  dsimp only
  congr 1
  funext list
  rw [List.flatMap_map, List.flatMap_map]
  congr 2
  all_goals
    funext a
    unfold classReading
    cases a.value with
    | none => rfl
    | some value =>
      dsimp only
      split <;> rfl

/-- The last of them is that of the last class attribute with an expression. -/
theorem classReadings_getLast? (list : List Attribute) :
    (classReadings source table names list).getLast? =
      (lastClass? names (list.map (·.reading source))).map (·.resolve table) := by
  unfold classReadings
  induction list using List.reverseRecOn with
  | nil => rfl
  | append_singleton list a ih =>
    have hname : (a.reading source).name = a.name := rfl
    rw [List.filterMap_append, List.getLast?_append, ih, List.map_append, List.map_singleton,
      lastClass?_concat, hname]
    split_ifs with hslot
    · have hread := classReading_fst source table names
        ((slot?_eq_classes_iff names a.name).mp hslot)
      cases hclasses : (a.reading source).classes <;> simp [hread, hclasses]
    · have hread := classReading_of_not_mem source table names
        (hslot ∘ (slot?_eq_classes_iff names a.name).mpr)
      simp [hread]

end Attribute

/-- An element is reported with its own tag, line and class text. -/
theorem Traits.eq_of_element?_fst {t : Traits} {tag : Text} {line : Nat} {e : InteractiveElement}
    (h : (t.element? tag line).1 = some e) :
    e.tag = tag ∧ e.line = line ∧ e.className = t.className := by
  unfold element? at h
  split at h
  · cases h
  · split at h
    · cases h
      exact ⟨rfl, rfl, rfl⟩
    · cases h

/-- A reported element is what `classes` says of the node `element`: its tag and line are those of
every class attribute, and its class text is that of the last one, or empty if there is none. -/
structure AgreesWith (source : Source) (element : Syntax) (classes : List ClassAttribute)
    (e : InteractiveElement) : Prop where
  tag : ∃ name, element.field? "name" = some name ∧ e.tag = source.textOf name
  line : e.line = source.line element
  attributes : ∀ a ∈ classes, a.tag = e.tag ∧ a.line = e.line
  className : e.className = (classes.getLast?.map (·.result)).getD (.known [])
  states : e.states = (classes.getLast?.map (·.states)).getD []

section Classify
variable {source : Source} {table : Table} {names : List Text} {element : Syntax}

/-- Both readings go through the attributes of an element; they fail on the same. -/
theorem classify_cases {report : Option InteractiveElement} {events : List Event}
    (h : classify source table names element = .ok (report, events)) :
    report = none ∨ ∃ name list,
      element.field? "name" = some name ∧ attributes source element = .ok list ∧
      report = (((list.foldl (readAttribute source table names) ({}, [])).1).element?
        (source.textOf name) (source.line element)).1 := by
  unfold classify at h
  cases hname : (element.field? "name").filter (·.kind = "identifier") with
  | none =>
    rw [hname] at h
    cases h
    exact .inl rfl
  | some name =>
    rw [hname] at h
    cases hlist : attributes source element with
    | error e =>
      rw [hlist] at h
      cases h
    | ok list =>
      rw [hlist] at h
      cases h
      exact .inr ⟨name, list, (Option.filter_eq_some_iff.mp hname).1, rfl, rfl⟩

/-- The results of the class attributes of an element are what its attributes say. -/
theorem map_result_classes (source : Source) (table : Table) (names : List Text) (tag : Text)
    (line : Nat) (list : List Attribute) :
    (list.flatMap fun a => (classReading source table names a).1.toList.map
        (ClassAttribute.mk tag a.name line)).map (·.result) =
      classReadings source table names list := by
  induction list with
  | nil => rfl
  | cons a rest ih =>
    rw [List.flatMap_cons, List.map_append, ih, classReadings, classReadings, List.filterMap_cons]
    cases (classReading source table names a).1 <;> rfl

theorem exists_classes_of_classify {e : InteractiveElement} {events : List Event}
    (h : classify source table names element = .ok (some e, events)) :
    ∃ classes more, elementClasses source table names element = .ok (classes, more) ∧
      AgreesWith source element classes e := by
  obtain hnone | ⟨name, list, hname, hlist, he⟩ := classify_cases h
  · cases hnone
  · obtain ⟨htag, hline, hclass⟩ := Traits.eq_of_element?_fst he.symm
    rw [foldl_readAttribute, traitsOf, ← classReadings_getLast?, ← map_result_classes source table
      names (source.textOf name) (source.line element), List.getLast?_map] at hclass
    refine ⟨_, _, by rw [elementClasses_eq source table names hname, hlist]; rfl,
      ⟨name, hname, htag⟩,
      hline, ?_, hclass, ?_⟩
    · intro a ha
      simp only [List.mem_flatMap, List.mem_map] at ha
      obtain ⟨-, -, -, -, rfl⟩ := ha
      exact ⟨htag.symm, hline.symm⟩
    · rw [InteractiveElement.states, hclass]
      cases List.getLast? _ <;> rfl

end Classify

end Markup

namespace ParsedFile

theorem forall₂_of_readElements_eq_ok {α : Type}
    {read : Syntax → Except Markup.NamelessAttribute (α × List Event)} {file : ParsedFile}
    {s s' : Session} {found : List α} (h : file.readElements read s = (.ok found, s')) :
    List.Forall₂ (fun element a => ∃ events, read element = .ok (a, events))
      (Markup.elements file.root) found := by
  unfold readElements at h
  cases hread : (Markup.elements file.root).mapM read with
  | error e =>
    rw [hread] at h
    cases h
  | ok answers =>
    rw [hread] at h
    cases h
    rw [List.forall₂_map_right_iff]
    exact (forall₂_of_mapM_eq_ok hread).imp fun element answer hanswer => ⟨answer.2, hanswer⟩

variable {file : ParsedFile} {access : FileAccess} {options : ResolverOptions} {path : Text}
  {s s' : Session}

/-- The interactive elements of a file are read with its table, element by element. -/
theorem exists_reports_of_interactiveElements {found : List InteractiveElement}
    (h : file.interactiveElements access options path s = (.ok found, s')) :
    ∃ table reports, (file.table access options path s).1 = .ok table ∧
      found = reports.filterMap id ∧
      List.Forall₂ (fun element report => ∃ events,
          Markup.classify file.source table options.attributeNames element = .ok (report, events))
        (Markup.elements file.root) reports := by
  unfold interactiveElements at h
  generalize file.table access options path s = made at h ⊢
  obtain ⟨made, s₁⟩ := made
  cases made with
  | error e => cases h
  | ok table =>
    dsimp only at h
    generalize hread : file.readElements
      (Markup.classify file.source table options.attributeNames) s₁ = answer at h
    obtain ⟨answer, s₂⟩ := answer
    cases answer with
    | error e => cases h
    | ok reports =>
      cases h
      exact ⟨table, reports, rfl, rfl, forall₂_of_readElements_eq_ok hread⟩

/-- So are its class attributes. -/
theorem exists_classes_of_classAttributes {found : List ClassAttribute} {table : Table}
    (htable : (file.table access options path s).1 = .ok table)
    (h : file.classAttributes access options path s = (.ok found, s')) :
    ∃ classes, found = classes.flatten ∧
      List.Forall₂ (fun element list => ∃ events,
          Markup.elementClasses file.source table options.attributeNames element =
            .ok (list, events))
        (Markup.elements file.root) classes := by
  unfold classAttributes at h
  generalize file.table access options path s = made at h htable
  obtain ⟨made, s₁⟩ := made
  obtain rfl : made = .ok table := htable
  dsimp only at h
  generalize hread : file.readElements
    (Markup.elementClasses file.source table options.attributeNames) s₁ = answer at h
  obtain ⟨answer, s₂⟩ := answer
  cases answer with
  | error e => cases h
  | ok classes =>
    cases h
    exact ⟨classes, rfl, forall₂_of_readElements_eq_ok hread⟩

/-- The two readings of a file agree. Whatever the table and the names of class attributes, an
element that is reported has the tag and the line of its class attributes, and the class text of the
last one, or none if it has none. In a whole file the elements are read in the same order, with the
same table, and each reported one agrees with the class attributes of its own element. -/
theorem elements_agree_with_classes :
    (∀ source table names element e events,
      Markup.classify source table names element = .ok (some e, events) →
      ∃ classes more, Markup.elementClasses source table names element = .ok (classes, more) ∧
        Markup.AgreesWith source element classes e) ∧
    ∀ (file : ParsedFile) access options path s found s',
      file.interactiveElements access options path s = (.ok found, s') →
      ∃ table reports, (file.table access options path s).1 = .ok table ∧
        found = reports.filterMap id ∧
        List.Forall₂ (fun element report => ∀ e, report = some e →
            ∃ classes more, Markup.elementClasses file.source table options.attributeNames element =
                .ok (classes, more) ∧
              Markup.AgreesWith file.source element classes e)
          (Markup.elements file.root) reports ∧
        ∀ all s'', file.classAttributes access options path s = (.ok all, s'') →
          ∃ classes, all = classes.flatten ∧
            List.Forall₂ (fun element list => ∃ events,
                Markup.elementClasses file.source table options.attributeNames element =
                  .ok (list, events))
              (Markup.elements file.root) classes := by
  refine ⟨fun source table names element e events h => Markup.exists_classes_of_classify h, ?_⟩
  intro file access options path s found s' h
  obtain ⟨table, reports, htable, hfound, hreports⟩ := exists_reports_of_interactiveElements h
  refine ⟨table, reports, htable, hfound, hreports.imp fun element report hreport e he => ?_,
    fun all s'' hall => exists_classes_of_classAttributes htable hall⟩
  obtain ⟨events, hreport⟩ := hreport
  exact Markup.exists_classes_of_classify (he ▸ hreport)

/-- A link by its role. It has a class list, and behind it empty braces and a bare name under the
same attribute. -/
def twiceClassed : ParsedFile :=
  .ofChars .tsx "<div role=\"link\" class=\"p-1\" class={} class/>".toList

theorem twiceClassed_agrees :
    let access : FileAccess := .empty
    let path := text "A.tsx"
    (∃ element e events classes more,
      Markup.classify twiceClassed.source [] [text "class"] element = .ok (some e, events) ∧
      Markup.elementClasses twiceClassed.source [] [text "class"] element = .ok (classes, more) ∧
      Markup.AgreesWith twiceClassed.source element classes e) ∧
    ∃ found all, (twiceClassed.interactiveElements access {} path {}).1 = .ok found ∧
      (twiceClassed.classAttributes access {} path {}).1 = .ok all ∧
      found.map (fun e => (e.tag, e.className)) = [(text "div", .known (text "p-1"))] ∧
      all.map (fun a => (a.tag, a.result)) = [(text "div", .known (text "p-1"))] ∧
      ∃ (reports : List (Option InteractiveElement)) (classes : List (List ClassAttribute)),
        found = reports.filterMap id ∧ all = classes.flatten ∧
        reports.length = classes.length := by
  intro access path
  constructor
  · obtain ⟨⟨report, events⟩, hreport, hsome⟩ := exists_ok_of_map_toOption
      (show (Markup.classify twiceClassed.source [] [text "class"]
          (Markup.elements twiceClassed.root).head!).toOption.map (·.1.isSome) = some true by
        decide +kernel)
    obtain ⟨e, rfl⟩ := Option.isSome_iff_exists.mp hsome
    obtain ⟨classes, more, hclasses, hagree⟩ :=
      elements_agree_with_classes.1 twiceClassed.source [] [text "class"] _ e events hreport
    exact ⟨_, e, events, classes, more, hreport, hclasses, hagree⟩
  · obtain ⟨found, hfound, hreported⟩ := exists_ok_of_map_toOption
      (show (twiceClassed.interactiveElements access {} path {}).1.toOption.map
        (·.map fun e => (e.tag, e.className)) = some [(text "div", .known (text "p-1"))] by
          decide +kernel)
    obtain ⟨all, hall, hlisted⟩ := exists_ok_of_map_toOption
      (show (twiceClassed.classAttributes access {} path {}).1.toOption.map
        (·.map fun a => (a.tag, a.result)) = some [(text "div", .known (text "p-1"))] by
          decide +kernel)
    obtain ⟨table, reports, -, hreports, hread, hclasses⟩ :=
      elements_agree_with_classes.2 twiceClassed access {} path {} found _ (Prod.ext hfound rfl)
    obtain ⟨classes, hflat, hlists⟩ := hclasses all _ (Prod.ext hall rfl)
    exact ⟨found, all, hfound, hall, hreported, hlisted, reports, classes, hreports, hflat,
      hread.length_eq.symm.trans hlists.length_eq⟩

end ParsedFile

end StateCoverage
