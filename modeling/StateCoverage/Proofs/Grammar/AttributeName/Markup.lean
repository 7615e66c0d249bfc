import StateCoverage.Proofs.Grammar.AttributeName.Operand

/-!
Markup names its attributes if the rules nested in it do. Only here attributes are read, and each
begins with its name.
-/
namespace StateCoverage.Grammar
open Syntax

section Tags
variable {level : Level}

theorem names_markupName {kind : String} (hkind : kind ≠ "jsx_attribute") :
    Names (markupName kind) :=
  yields_bind' fun _ => yields_ite yields_failure (names_leaf hkind _)

theorem yields_isNamed_markupName {kind : String} : Yields (·.isNamed) (markupName kind) := by
  refine yields_bind' fun _ => yields_ite yields_failure (yields_ite yields_failure_bind ?_)
  exact yields_bind' fun _ => yields_bind' fun _ => yields_bind' fun _ => yields_isNamed_nodeFrom

theorem names_tagName : Names (tagName level) := by
  refine yields_bind' fun _ => yields_bind (names_markupName (by decide)) fun first hfirst =>
    yields_bind' fun _ => yields_ite ?_ (yields_extend (fun _ hx => ?_) _ hfirst)
  · exact yields_bind (names_markupName (by decide)) fun _ hsecond =>
      names_nodeFrom (by decide) (by simp [hfirst, hsecond])
  · refine yields_bind' fun _ => yields_ite ?_ yieldsIf_none
    exact yields_bind (names_wordNode (by decide)) fun _ hproperty =>
      yieldsIf_some (names_nodeFrom (by decide) (by simp [hx, hproperty]))

theorem names_closingTag : Names (closingTag level) :=
  yields_bind' fun _ => yields_bind' fun _ => yields_bind' fun _ => yields_bind' fun _ =>
    yields_part' names_tagName (by simp) fun _ hname => yields_bind' fun _ =>
      names_nodeFrom (by decide) hname

theorem names_markupString : Names markupString := by
  refine yields_bind' fun _ => ?_
  split
  · refine yields_ite ?_ yields_failure
    exact yields_ite yields_failure_bind (names_leaf (by decide) _)
  · exact yields_failure

end Tags

/-- An attribute begins with its name. -/
theorem names_attribute {start : Nat} {name : Syntax} {rest : List Syntax}
    (hname : name.isNamed ∧ name.NamesAttributes) (hrest : AllName rest) :
    Names (nodeFrom "jsx_attribute" start (name :: rest)) := by
  have hmem : name ∈ (name :: rest).filter isNamed :=
    List.mem_filter.mpr ⟨List.mem_cons_self, hname.1⟩
  exact yields_bind' fun _ => yields_pure
    (.intro (fun _ => List.ne_nil_of_mem hmem) (allName_cons.mpr ⟨hname.2, hrest⟩))

variable {level : Level} (h : level.Names)
include h

theorem names_container : Names (container level) := by
  refine yields_bind' fun _ => yields_bind' fun _ => yields_bind' fun _ => yields_bind' fun _ => ?_
  extract_lets rest
  have hrest (inner : List Syntax) (hinner : AllName inner) : Names (rest inner) :=
    yields_bind' fun _ => names_nodeFrom (by decide) hinner
  refine yields_ite (hrest [] allName_nil) (yields_ite ?_ ?_)
  · exact yields_bind (names_spread h (by decide) _) fun _ hx => hrest _ (by simp [hx])
  · exact yields_bind (h _) fun _ hx => hrest _ (by simp [hx])

theorem names_markupAttribute : Names (markupAttribute level) := by
  refine yields_bind' fun start => yields_bind (yields_and yields_isNamed_markupName
    (names_markupName (by decide))) fun first hfirst => yields_bind' fun _ => ?_
  extract_lets rest
  have hrest (name : Syntax) (hname : name.isNamed ∧ name.NamesAttributes) : Names (rest name) := by
    refine yields_bind' fun _ =>
      yields_ite (yields_bind' fun _ => ?_) (names_attribute hname allName_nil)
    extract_lets behind
    have hbehind (value : Syntax) (hvalue : value.NamesAttributes) : Names (behind value) :=
      names_attribute hname (by simp [hvalue])
    split
    · exact yields_bind (names_container h) hbehind
    · exact yields_bind (h _) hbehind
    · exact yields_bind names_markupString hbehind
  refine yields_ite (yields_bind (names_markupName (by decide)) fun second hsecond => ?_)
    (hrest _ hfirst)
  exact yields_bind (yields_and yields_isNamed_nodeFrom
    (names_nodeFrom (by decide) (by simp [hfirst.2, hsecond]))) hrest

theorem namesAll_markupAttributes : NamesAll (markupAttributes level) := by
  refine yields_many ?_ _ nofun
  refine yields_bind' fun _ => yields_ite ?_ <| yields_bind' fun _ => yields_ite ?_ yieldsIf_none
  · exact yields_bind (names_container h) fun _ hx => yields_pure (by simp [hx])
  · exact yields_bind (names_markupAttribute h) fun _ hx => yields_pure (by simp [hx])

theorem namesAll_markupChildren : NamesAll (markupChildren level) := by
  refine yields_many ?_ _ nofun
  refine yields_bind' fun _ => yields_bind' fun _ => yields_bind' fun _ => ?_
  split
  · exact yieldsIf_some (names_container h)
  · exact yields_ite yieldsIf_none (yieldsIf_some (h _))
  · exact yields_failure

theorem names_elementRule : Names (elementRule level) := by
  have hinside {start : Nat} {parts : List Syntax} (hparts : AllName parts) : Names (do
      let opening ← nodeFrom "jsx_opening_element" start parts
      let children ← markupChildren level
      let closing ← closingTag level
      nodeFrom "jsx_element" start (opening :: children ++ [closing])) :=
    yields_bind (names_nodeFrom (by decide) hparts) fun _ hopening =>
      yields_bind (namesAll_markupChildren h) fun _ hchildren =>
        yields_bind names_closingTag fun _ hclosing =>
          names_nodeFrom (by decide) (by simp [hopening, hchildren, hclosing])
  refine yields_bind' fun start => yields_bind' fun _ => yields_bind' fun _ =>
    yields_ite (hinside allName_nil) ?_
  refine yields_bind names_tagName fun tag htag => yields_bind' fun _ => yields_bind' fun _ =>
    yields_part (names_typeArguments level) (by simp) fun typed htyped =>
      yields_bind (namesAll_markupAttributes h) fun more hmore => yields_bind' fun _ => ?_
  have hparts : AllName (tag.inField "name" :: typed ++ more) := by simp [htag, htyped, hmore]
  exact yields_ite (yields_bind' fun _ => names_nodeFrom (by decide) hparts)
    (yields_bind' fun _ => hinside hparts)

end StateCoverage.Grammar
