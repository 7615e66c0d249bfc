import StateCoverage.Proofs.Expr.ClassUnion
import StateCoverage.Proofs.Lowering.Expression
import StateCoverage.Proofs.Markup.Classify

/-!
Elements that only some branches of a class expression hide. The resolved text holds the classes of
all branches, so one branch that hides an element keeps it from being reported.
-/
namespace StateCoverage.Markup
open StateCoverage.Expr

def Reading.quoted (name s : Text) : Reading where
  name := name
  string := some s
  number := none
  conditional := false
  classes := some (.string s)

theorem reading_quoted {source : Source} {name : Text} {value : Syntax}
    (h : value.kind = "string") :
    (Attribute.mk name (some value)).reading source =
      .quoted name (quotedText source value) := by
  simp [Attribute.reading, Reading.quoted, string?, number?, expression?, classExpression?, h]

/-- The last class attribute of `t` that has an expression has `e`, and `u` is the same element
but for this attribute, which has the quoted text `s`. -/
def LiteralCopy (source source' : Source) (names : List Text) (t u : Syntax) (e : Expr)
    (s : Text) : Prop :=
  ∃ tag before r after,
    ReadsAs source t tag (before ++ r :: after) ∧
    ReadsAs source' u tag (before ++ .quoted r.name s :: after) ∧
    r.name ∈ names ∧ r.classes = some e ∧
    ∀ r' ∈ after, r'.name ∈ names → r'.classes = none

section Replace
variable {names : List Text} {table : Table} {before after : List Reading} {r : Reading}
  {e : Expr}

theorem inSlot_append_cons (slot : Slot) :
    inSlot names slot (before ++ r :: after) =
      inSlot names slot before ++ inSlot names slot [r] ++ inSlot names slot after := by
  unfold inSlot
  rw [← List.singleton_append, List.filter_append, List.filter_append, List.append_assoc]

/-- Class attributes without an expression do not count. -/
theorem lastClass?_append_cons (hr : r.name ∈ names) (he : r.classes = some e)
    (hafter : ∀ r' ∈ after, r'.name ∈ names → r'.classes = none) :
    lastClass? names (before ++ r :: after) = some e := by
  have hnone : (inSlot names .classes after).filterMap (·.classes) = [] := by
    refine List.filterMap_eq_nil_iff.mpr fun r' hr' => ?_
    obtain ⟨hmem, hslot⟩ := List.mem_filter.mp hr'
    exact hafter r' hmem ((slot?_eq_classes_iff names _).mp (by simpa using hslot))
  have hsingle : inSlot names .classes [r] = [r] := by
    simp [inSlot, (slot?_eq_classes_iff names r.name).mpr hr]
  rw [lastClass?, inSlot_append_cons, hsingle, List.filterMap_append, hnone, List.append_nil,
    List.filterMap_append]
  simp [he]

/-- Another class attribute in its place changes the class text alone. -/
theorem traitsOf_replace {r' : Reading} {e' : Expr} (hr : r.name ∈ names) (hname : r'.name = r.name)
    (he' : r'.classes = some e')
    (hafter : ∀ r' ∈ after, r'.name ∈ names → r'.classes = none) :
    traitsOf names table (before ++ r' :: after) =
      { traitsOf names table (before ++ r :: after) with className := e'.resolve table } := by
  have hslot (slot : Slot) (h : slot ≠ .classes) :
      inSlot names slot (before ++ r' :: after) = inSlot names slot (before ++ r :: after) := by
    have hother : slot? names r.name ≠ some slot := by
      rw [(slot?_eq_classes_iff names r.name).mpr hr]
      exact fun heq => h (Option.some.inj heq).symm
    rw [inSlot_append_cons, inSlot_append_cons]
    simp [inSlot, hname, hother]
  unfold traitsOf
  rw [lastClass?_append_cons (hname ▸ hr) he' hafter, hslot .role (by decide),
    hslot .type (by decide), hslot .tabIndex (by decide), hslot .disabled (by decide),
    hslot .validation (by decide), hslot .placeholder (by decide)]
  rfl

end Replace

theorem Traits.Reported.of_className {traits : Traits} {tag : Text} (h : traits.Reported tag)
    {r : Resolution} (hr : ¬ Hides r.text) : { traits with className := r }.Reported tag :=
  ⟨hr, h.reachable, h.notFile, h.label, h.used⟩

section Branches
variable {source source' : Source} {table : Table} {names : List Text} {t u : Syntax} {e : Expr}
  {s : Text}

/-- An element and its copy with a literal class text are reported on the same grounds, but for
their class texts. -/
theorem LiteralCopy.exists_traits (h : LiteralCopy source source' names t u e s) (table : Table) :
    ∃ (tag : Text) (traits : Traits), traits.className = e.resolve table ∧
      (IsReported source table names t ↔ traits.Reported tag) ∧
      (IsReported source' table names u ↔
        { traits with className := Resolution.known s }.Reported tag) := by
  obtain ⟨tag, before, r, after, ht, hu, hr, he, hafter⟩ := h
  refine ⟨tag, traitsOf names table (before ++ r :: after), ?_, ht.isReported_iff, ?_⟩
  · rw [traitsOf, lastClass?_append_cons hr he hafter]
    rfl
  · have hname : (Reading.quoted r.name s).name = r.name := rfl
    rw [hu.isReported_iff, traitsOf_replace hr hname rfl hafter, resolve]

/-- The classes of the resolved text of a delimited expression hide an element if those of some
branch do. -/
theorem hides_resolve_iff (h : e.EveryTemplate ClassDelimited) :
    Hides (e.resolve table).text ↔ ∃ s, e.Outcome table s ∧ Hides s :=
  exists_word_resolve_iff table (· ∈ skippedClasses) e h

/-- Let an element be reported with a text that its last class expression can be. Then it is
reported itself if and only if nothing in the resolved text hides it. If white space parts the
substitutions of templates from their quasis, then it is reported if and only if it is with such a
text and nothing hides it in any branch. -/
theorem reported_iff_no_branch_hides (hcopy : LiteralCopy source source' names t u e s)
    (hs : e.Outcome table s) :
    (IsReported source' table names u →
      (IsReported source table names t ↔ ¬ Hides (e.resolve table).text)) ∧
    (e.EveryTemplate ClassDelimited →
      (IsReported source table names t ↔
        IsReported source' table names u ∧ ∀ s', e.Outcome table s' → ¬ Hides s')) := by
  obtain ⟨tag, traits, hclass, ht, hu⟩ := hcopy.exists_traits table
  -- the copy vouches for all grounds but the class text
  have hback (h : IsReported source' table names u) :
      IsReported source table names t ↔ ¬ Hides (e.resolve table).text := by
    rw [ht]
    constructor
    · intro hreported
      exact hclass ▸ hreported.visible
    · intro hvisible
      exact (hu.mp h).of_className (r := traits.className) (hclass ▸ hvisible)
  refine ⟨hback, fun hdelimited => ?_⟩
  have hnone : ¬ Hides (e.resolve table).text ↔ ∀ s', e.Outcome table s' → ¬ Hides s' := by
    rw [hides_resolve_iff hdelimited]
    push Not
    rfl
  constructor
  · intro h
    have hall := hnone.mp (hclass ▸ (ht.mp h).visible)
    exact ⟨hu.mpr ((ht.mp h).of_className (hall s hs)), hall⟩
  · rintro ⟨h, hall⟩
    exact (hback h).mpr (hnone.mpr hall)

end Branches

section Menu

def classNames : List Text := [text "className"]

/-- `<button className={open ? "hidden" : "block"}>` -/
def menuSource : Source :=
  .ofBytes (Utf8.encode "<button className=\x7bopen ? \"hidden\" : \"block\"\x7d>".toList)

def blockSource : Source := .ofBytes (Utf8.encode "<button className=\"block\">".toList)

def buttonOf (value : Syntax) : Syntax :=
  .node "jsx_opening_element" 0 (value.stop + 1) none true false
    [.node "identifier" 1 7 (some "name") true false [],
      .node "jsx_attribute" 8 value.stop (some "attribute") true false
        [.node "property_identifier" 8 17 none true false [], value]]

def menuChoice : Syntax :=
  .node "ternary_expression" 19 44 none true false
    [.node "identifier" 19 23 (some "condition") true false [],
      .node "string" 26 34 (some "consequence") true false [],
      .node "string" 37 44 (some "alternative") true false []]

def menuValue : Syntax := .node "jsx_expression" 18 45 none true false [menuChoice]

def blockValue : Syntax := .node "string" 18 25 none true false []

def menuClasses : Expr :=
  .conditional (.name (text "open")) (.string (text "hidden")) (.string (text "block"))

theorem lower_menuChoice : menuChoice.lower menuSource = menuClasses := by
  rw [lower_of_ternary rfl rfl rfl rfl, lower_of_identifier rfl, lower_of_string rfl,
    lower_of_string rfl]
  have htest : menuSource.textOf (.node "identifier" 19 23 (some "condition") true false []) =
      text "open" := by decide +kernel
  have hhidden : menuSource.stringOf (.node "string" 26 34 (some "consequence") true false []) =
      text "hidden" := by decide +kernel
  have hblock : menuSource.stringOf (.node "string" 37 44 (some "alternative") true false []) =
      text "block" := by decide +kernel
  rw [htest, hhidden, hblock, menuClasses]

theorem readsAs_buttonOf {source : Source} {value : Syntax} {tag name : Text}
    (htag : source.textOf (.node "identifier" 1 7 (some "name") true false []) = tag)
    (hname : source.textOf (.node "property_identifier" 8 17 none true false []) = name)
    (hvalue : value.isNamed = true) :
    ReadsAs source (buttonOf value) tag [(Attribute.mk name (some value)).reading source] := by
  obtain ⟨kind, start, stop, field, named, missing, children⟩ := value
  obtain rfl : named = true := hvalue
  subst hname
  exact ⟨⟨_, rfl, rfl, htag⟩, [_], rfl, rfl⟩

theorem literalCopy_menu :
    LiteralCopy menuSource blockSource classNames (buttonOf menuValue) (buttonOf blockValue)
      menuClasses (text "block") := by
  have hlower : menuChoice.lower? menuSource = some menuClasses := by
    rw [Syntax.lower?, if_pos (by decide +kernel), lower_menuChoice]
  have hclasses : classExpression? menuSource menuValue = some menuClasses := by
    have hinner : expression? menuValue = some menuChoice := by rfl
    have hkind : menuValue.kind = "jsx_expression" := rfl
    rw [classExpression?, if_neg (by decide), if_pos hkind, hinner, Option.map_some, hlower,
      Option.getD_some]
  have hmenu : ReadsAs menuSource (buttonOf menuValue) (text "button")
      [(Attribute.mk (text "className") (some menuValue)).reading menuSource] :=
    readsAs_buttonOf (by decide +kernel) (by decide +kernel) rfl
  have hblock : ReadsAs blockSource (buttonOf blockValue) (text "button")
      [(Attribute.mk (text "className") (some blockValue)).reading blockSource] :=
    readsAs_buttonOf (by decide +kernel) (by decide +kernel) rfl
  have htext : quotedText blockSource blockValue = text "block" := by decide +kernel
  rw [reading_quoted rfl, htext] at hblock
  exact ⟨_, [], _, [], hmenu, hblock, by decide, hclasses, fun _ h => absurd h List.not_mem_nil⟩

theorem menu_reported_iff :
    menuClasses.EveryTemplate ClassDelimited ∧
      IsReported blockSource [] classNames (buttonOf blockValue) ∧
      (IsReported menuSource [] classNames (buttonOf menuValue) ↔
        ¬ Hides (menuClasses.resolve []).text) ∧
      (IsReported menuSource [] classNames (buttonOf menuValue) ↔
        IsReported blockSource [] classNames (buttonOf blockValue) ∧
          ∀ s, menuClasses.Outcome [] s → ¬ Hides s) := by
  have hdelimited : menuClasses.EveryTemplate ClassDelimited := by
    simp only [menuClasses, everyTemplate_conditional, everyTemplate_name, everyTemplate_string,
      and_self]
  have hblock : IsReported blockSource [] classNames (buttonOf blockValue) := by decide +kernel
  have houtcome : menuClasses.Outcome [] (text "block") := .alternate (.string _)
  obtain ⟨hunion, hbranches⟩ := reported_iff_no_branch_hides literalCopy_menu houtcome
  exact ⟨hdelimited, hblock, hunion hblock, hbranches hdelimited⟩

/-- One branch leaves the button in sight, and the other keeps it from being reported. -/
theorem menu_dropped :
    ∃ e s, LiteralCopy menuSource blockSource classNames (buttonOf menuValue)
        (buttonOf blockValue) e s ∧
      e.Outcome [] s ∧ IsReported blockSource [] classNames (buttonOf blockValue) ∧
      ¬ IsReported menuSource [] classNames (buttonOf menuValue) :=
  ⟨menuClasses, text "block", literalCopy_menu, .alternate (.string _), by decide +kernel,
    by decide +kernel⟩

end Menu

end StateCoverage.Markup
