import StateCoverage.Proofs.Grammar.AttributeName.Basic

/-!
Operands name their attributes if the rules nested in them do.
-/
namespace StateCoverage.Grammar
open Syntax

variable {level : Level} (h : level.Names)

theorem namesAll_looseList {item : Parser Syntax} (hitem : Names item) (close : String) :
    NamesAll (looseList level item close) := by
  refine yields_bind (Q := fun lists => ∀ list ∈ lists, AllName list) (yields_many ?_ _ nofun)
    fun _ hlists => yields_pure (allName_flatten hlists)
  refine yields_bind' fun _ => yields_ite yieldsIf_none <| yields_bind' fun _ =>
    yields_ite (yields_pure (by simp)) <| yields_bind hitem fun _ hx => yields_bind' fun _ => ?_
  exact yields_skip fun _ => yields_pure (by simp [hx])

theorem names_regex : Names regex := by
  refine yields_bind' fun _ => ?_
  split
  · split
    · exact yields_ite yields_failure_bind (names_leaf (by decide) _)
    · exact yields_failure
  · exact yields_failure

include h

theorem names_spread {kind : String} (hkind : kind ≠ "jsx_attribute") (inner : Rule) :
    Names (spread level kind inner) :=
  yields_bind' fun _ => yields_bind' fun _ => yields_bind (h inner) fun _ hx =>
    names_nodeFrom hkind (by simp [hx])

theorem names_elementOrSpread : Names (elementOrSpread level) :=
  yields_bind' fun _ => yields_ite (names_spread h (by decide) _) (h _)

theorem names_arguments : Names (arguments level) :=
  yields_bind' fun _ => yields_bind' fun _ =>
    yields_bind (namesAll_looseList (names_elementOrSpread h) _) fun _ hitems =>
      yields_bind' fun _ => names_nodeFrom (by decide) hitems

theorem names_array : Names (array level) :=
  yields_bind' fun _ => yields_bind' fun _ =>
    yields_bind (namesAll_looseList (names_elementOrSpread h) _) fun _ hitems =>
      yields_bind' fun _ => names_nodeFrom (by decide) hitems

theorem names_template : Names (template level) := by
  refine yields_bind' fun _ => yields_bind' fun _ => ?_
  refine yields_bind (Q := AllName) (yields_many ?_ _ nofun) fun _ hparts =>
    yields_bind' fun _ => names_nodeFrom (by decide) hparts
  refine yields_bind' fun _ => yields_bind' fun _ => yields_bind' fun _ => ?_
  split
  · exact yields_bind' fun _ => yields_bind' fun _ => yields_bind (h _) fun _ hinner =>
      yields_bind' fun _ => yieldsIf_some (names_nodeFrom (by decide) (by simp [hinner]))
  · exact yieldsIf_none

theorem names_computedKey : Names (computedKey level) :=
  yields_bind' fun _ => yields_bind' fun _ => yields_bind (h _) fun _ hinner =>
    yields_bind' fun _ => names_nodeFrom (by decide) (by simp [hinner])

theorem names_propertyKey : Names (propertyKey level) := by
  refine yields_bind' fun _ => ?_
  split
  · exact names_computedKey h
  · exact names_privateNameNode
  · exact names_stringNode
  · exact names_stringNode
  · exact yields_ite names_numberNode (names_wordNode (by decide))

theorem names_block : Names (block level) := by
  refine yields_bind' fun _ => yields_bind' fun _ => ?_
  refine yields_bind (Q := AllName) (yields_many ?_ _ nofun) fun _ hstatements =>
    yields_bind' fun _ => names_nodeFrom (by decide) hstatements
  exact yields_bind' fun _ => yields_ite yieldsIf_none <| yields_bind' fun _ =>
    yields_ite yieldsIf_none (yieldsIf_some (h _))

theorem names_decorator : Names (decorator level) :=
  yields_bind' fun _ => yields_bind' fun _ => yields_bind (h _) fun _ hinner =>
    names_nodeFrom (by decide) (by simp [hinner])

theorem namesAll_decorators : NamesAll (decorators level) :=
  yields_many (yields_bind' fun _ => yields_ite (yieldsIf_some (names_decorator h)) yieldsIf_none) _
    nofun

theorem namesAll_defaultValue : NamesAll (defaultValue level) :=
  yields_bind' fun _ => yields_ite (namesAll_one (h _)) namesAll_none

/-! ### Functions -/

theorem names_parameter : Names (parameter level) := by
  refine yields_bind' fun _ => yields_bind (namesAll_decorators h) fun before hbefore =>
    yields_bind' fun _ => yields_skip fun _ => yields_bind (h _) fun pattern hpattern =>
      yields_bind' fun _ => ?_
  extract_lets rest
  have hrest (x : Unit) : Names (rest x) :=
    yields_bind (namesAll_defaultValue h) fun _ hvalue =>
      names_nodeFrom (by decide) (by simp [hbefore, hpattern, hvalue])
  exact yields_ite (yields_bind' fun _ => yields_bind' hrest) (hrest ())

theorem names_parameters : Names (parameters level) :=
  yields_bind' fun _ => yields_bind' fun _ =>
    yields_bind (namesAll_looseList (names_parameter h) _) fun _ hitems =>
      yields_bind' fun _ => names_nodeFrom (by decide) hitems

theorem names_signature : Names (signature level) :=
  yields_bind' fun _ => yields_skip fun _ => yields_bind (names_parameters h) fun _ hlist =>
    yields_bind' fun _ => yields_skip fun _ => yields_pure hlist

theorem namesAll_functionRest (needsBody : Bool) : NamesAll (functionRest level needsBody) :=
  yields_bind (names_signature h) fun _ hlist => yields_bind' fun _ =>
    yields_ite (yields_bind (names_block h) fun _ hbody => yields_pure (by simp [hlist, hbody]))
      (yields_pure (by simp [hlist]))

theorem names_function (declares : Bool) : Names (function level declares) := by
  refine yields_bind' fun _ => yields_bind' fun _ => yields_bind' fun _ => yields_bind' fun _ =>
    yields_bind' fun _ => yields_bind' fun _ =>
      yields_part' (names_wordNode (by decide)) (by simp) fun name hname =>
        yields_bind (namesAll_functionRest h _) fun rest hrest => yields_skip fun _ => ?_
  have hparts : AllName (name ++ rest) := by simp [hname, hrest]
  split
  · split
    · exact names_nodeFrom (by decide) hparts
    · exact names_nodeFrom (by decide) hparts
  · exact names_nodeFrom (by decide) hparts
  · exact names_nodeFrom (by decide) hparts
  · exact names_nodeFrom (by decide) hparts

/-! ### Objects and classes -/

theorem names_objectMember : Names (objectMember level) := by
  have hmethod (start : Nat) : Names (do
      let key ← propertyKey level
      let rest ← functionRest level true
      nodeFrom "method_definition" start (key.inField "name" :: rest)) :=
    yields_bind (names_propertyKey h) fun _ hkey =>
      yields_bind (namesAll_functionRest h _) fun _ hrest =>
        names_nodeFrom (by decide) (by simp [hkey, hrest])
  refine yields_bind' fun _ => yields_bind' fun _ => yields_ite (names_spread h (by decide) _) ?_
  refine yields_bind' fun _ => yields_ite ?_ ?_
  · exact yields_skip fun _ => yields_bind' fun _ => hmethod _
  · refine yields_bind (names_propertyKey h) fun key hkey => yields_bind' fun _ =>
      yields_bind' fun _ => yields_ite ?_ <| yields_bind' fun _ => yields_ite ?_ <|
        yields_ite ?_ yields_failure
    · exact yields_bind (namesAll_functionRest h _) fun _ hrest =>
        names_nodeFrom (by decide) (by simp [hkey, hrest])
    · exact yields_bind (h _) fun _ hvalue =>
        names_nodeFrom (by decide) (by simp [hkey, hvalue])
    · have hname : (key.withKind "shorthand_property_identifier").NamesAttributes :=
        hkey.withKind (by decide)
      exact yields_bind' fun _ => yields_ite (yields_bind (namesAll_defaultValue h) fun _ hvalue =>
        names_nodeFrom (by decide) (by simp [hname, hvalue])) (yields_pure hname)

theorem names_object : Names (object level) := by
  refine yields_bind' fun _ => yields_bind' fun _ => ?_
  refine yields_bind (Q := fun lists => ∀ list ∈ lists, AllName list) (yields_many ?_ _ nofun)
    fun _ hmembers => yields_bind' fun _ => yields_ite ?_ ?_
  · exact yields_bind' fun _ => yields_ite yieldsIf_none <| yields_bind' fun _ =>
      yields_ite (yields_pure (by simp)) <| yields_bind (names_objectMember h) fun _ hx =>
        yields_bind' fun _ => yields_skip fun _ => yields_pure (by simp [hx])
  · -- the brace that is missing
    exact yields_bind' fun _ => names_nodeFrom (by decide)
      (by simp [allName_flatten hmembers, namesAttributes_node])
  · exact yields_bind' fun _ => names_nodeFrom (by decide) (allName_flatten hmembers)

theorem names_classMember : Names (classMember level) := by
  refine yields_bind' fun start => yields_bind (namesAll_decorators h) fun before hbefore =>
    yields_bind' fun cs => yields_ite ?_ <| yields_bind' fun _ => yields_bind' fun signature => ?_
  · exact yields_bind' fun _ => yields_bind (names_block h) fun _ hbody =>
      names_nodeFrom (by decide) (by simp [hbefore, hbody])
  split
  · exact names_nodeFrom (by decide) hbefore
  refine yields_bind (names_propertyKey h) fun key hkey => yields_bind' fun typed => ?_
  extract_lets field rest
  have hfield (x : Unit) : Names (field x) :=
    yields_bind (namesAll_defaultValue h) fun _ hvalue =>
      yields_bind (names_nodeFrom (by decide) (by simp [hbefore, hkey, hvalue])) fun _ hnode =>
        yields_bind' fun _ => yields_pure hnode
  have hrest (x : Unit) : Names (rest x) := by
    refine yields_bind' fun _ => yields_bind' fun _ => yields_ite ?_ ?_
    · exact yields_bind (namesAll_functionRest h _) fun _ hparts => yields_skip fun _ =>
        names_nodeFrom (by decide) (by simp [hbefore, hkey, hparts])
    · exact yields_bind' fun _ => yields_ite (yields_bind' hfield) (hfield ())
  exact yields_ite
    (yields_bind' fun _ => yields_ite (yields_bind' fun _ => hrest ()) (hrest ())) (hrest ())

theorem names_classBody : Names (classBody level) := by
  refine yields_bind' fun _ => yields_bind' fun _ => ?_
  refine yields_bind (Q := fun lists => ∀ list ∈ lists, AllName list) (yields_many ?_ _ nofun)
    fun _ hmembers => yields_bind' fun _ => names_nodeFrom (by decide) (allName_flatten hmembers)
  exact yields_bind' fun _ => yields_ite yieldsIf_none <| yields_bind' fun _ =>
    yields_ite (yields_pure (by simp)) <| yields_bind (names_classMember h) fun _ hx =>
      yields_pure (by simp [hx])

theorem namesAll_heritage : NamesAll (heritage level) := by
  refine yields_bind' fun _ => yields_ite (yields_bind (h _) fun base hbase => ?_) namesAll_none
  have hend : NamesAll (pure [base]) := yields_pure (by simp [hbase])
  exact yields_bind' fun _ => yields_bind' fun _ => yields_ite (yields_bind' fun _ => hend) hend

theorem names_classFrom (start : Nat) {before : List Syntax} (hbefore : AllName before)
    (declares : Bool) : Names (classFrom level start before declares) := by
  refine yields_bind' fun _ => yields_bind' fun _ => yields_bind' fun _ => yields_bind' fun _ =>
    yields_part' (names_wordNode (by decide)) (by simp) fun name hname =>
      yields_bind' fun _ => yields_skip fun _ => yields_bind (namesAll_heritage h) fun base hbase =>
        yields_bind' fun _ => yields_bind (names_classBody h) fun body hbody => ?_
  exact names_nodeFrom (by split <;> decide) (by simp [hbefore, hname, hbase, hbody])

/-! ### Arrow functions, parentheses and names -/

theorem names_arrowBody : Names (arrowBody level) :=
  yields_bind' fun _ => yields_bind' fun _ => yields_ite
    (yields_bind (names_block h) fun _ hbody => yields_pure (by simp [hbody]))
    (yields_bind (h _) fun _ hbody => yields_pure (by simp [hbody]))

theorem names_arrowFrom (start : Nat) {before : List Syntax} (hbefore : AllName before) :
    Names (arrowFrom level start before) :=
  yields_bind (names_arrowBody h) fun _ hbody =>
    names_nodeFrom (by decide) (by simp [hbefore, hbody])

theorem names_arrowWithList : Names (arrowWithList level) :=
  yields_bind' fun _ => yields_bind' fun _ => yields_bind (names_signature h) fun _ hlist =>
    yields_bind' fun _ => yields_skip fun _ => names_arrowFrom h _ (by simp [hlist])

theorem names_arrowWithName : Names (arrowWithName level) :=
  yields_bind' fun _ => yields_bind (names_wordNode (by decide)) fun _ hname =>
    names_arrowFrom h _ (by simp [hname])

theorem names_parenthesized : Names (parenthesized level) := by
  refine yields_bind' fun _ => yields_bind' fun _ => yields_bind (h _) fun _ hinner => ?_
  exact yields_ite yields_failure_bind <| yields_bind' fun _ => yields_bind' fun _ =>
    yields_part (names_typeAnnotationNode level) (by simp) fun _ htype => yields_bind' fun _ =>
      names_nodeFrom (by decide) (by simp [hinner, htype])

theorem names_newExpression : Names (newExpression level) := by
  refine yields_bind' fun _ => yields_bind' fun _ => yields_bind' fun _ => yields_ite
    (yields_bind' fun _ => names_bare (by decide)) ?_
  exact yields_bind (h _) fun _ hcallee => yields_bind' fun _ => yields_bind' fun _ =>
    yields_part (names_arguments h) (by simp) fun _ hlist =>
      names_nodeFrom (by decide) (by simp [hcallee, hlist])

theorem names_wordOperand (word : String) : Names (wordOperand level word) := by
  refine yields_bind' fun start => ?_
  split
  · exact names_wordNode (by decide)
  · exact names_wordNode (by decide)
  · exact names_wordNode (by decide)
  · exact names_wordNode (by decide)
  · exact names_wordNode (by decide)
  · exact names_wordNode (by decide)
  · exact names_function h _
  · exact names_classFrom h _ allName_nil _
  · exact names_newExpression h
  · exact yields_bind (names_wordNode (by decide)) fun _ hword => yields_bind' fun _ => yields_ite
      (yields_bind' fun _ => yields_bind' fun _ => names_bare (by decide)) <| yields_bind' fun _ =>
        yields_ite (yields_pure hword) yields_failure
  · exact yields_bind' fun _ => yields_ite (names_function h _) <| yields_bind' fun _ =>
      yields_ite yields_failure (names_wordNode (by decide))

theorem names_operand : Names (operand level) := by
  refine yields_bind' fun cs => ?_
  split
  · exact names_parenthesized h
  · exact names_array h
  · exact names_object h
  · exact names_stringNode
  · exact names_stringNode
  · exact names_template h
  · exact names_regex
  · exact names_privateNameNode
  · exact yields_bind' fun _ => yields_ite (h _) yields_failure
  · exact yields_bind' fun _ => yields_bind (namesAll_decorators h) fun _ hbefore =>
      names_classFrom h _ hbefore _
  · exact yields_ite names_numberNode (names_wordOperand h _)

end StateCoverage.Grammar
