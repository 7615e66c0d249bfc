import StateCoverage.Proofs.Grammar.AttributeName.Operand

/-!
Expressions name their attributes if the rules nested in them do.
-/
namespace StateCoverage.Grammar
open Syntax

variable {level : Level} (h : level.Names)

/-! ### Accesses and calls -/

section Access
variable {target : Syntax} (htarget : target.NamesAttributes) (start : Nat)
include htarget

theorem names_memberOf : Names (memberOf start target) :=
  yields_bind (yields_orElse (names_wordNode (by decide)) names_privateNameNode) fun _ hproperty =>
    names_nodeFrom (by decide) (by simp [htarget, hproperty])

include h

theorem names_callOf : Names (callOf level start target) := by
  have hrest {list : Syntax} (hlist : list.NamesAttributes) : Names
      (nodeFrom "call_expression" start
      [target.inField "function", list.inField "arguments"]) :=
    names_nodeFrom (by decide) (by simp [htarget, hlist])
  exact yields_bind' fun _ => yields_ite (yields_bind (names_template h) fun _ => hrest)
    (yields_bind (names_arguments h) fun _ => hrest)

theorem names_indexOf : Names (indexOf level start target) :=
  yields_bind' fun _ => yields_bind (h _) fun _ hkey => yields_bind' fun _ =>
    names_nodeFrom (by decide) (by simp [htarget, hkey])

theorem names_typedCall : Names (typedCall level start target) := by
  refine yields_bind (names_typeArguments level) fun types htypes => yields_bind' fun _ => ?_
  have hbare : Names (nodeFrom "instantiation_expression" start [target, types]) :=
    names_nodeFrom (by decide) (by simp [htarget, htypes])
  split
  · exact names_callOf h htarget start
  · exact names_callOf h htarget start
  · exact hbare
  · exact yields_ite hbare yields_failure

theorem namesIf_accessStep (bangs calls : Bool) :
    NamesIf (accessStep level start bangs calls target) := by
  have hcall := yieldsIf_some (names_callOf h htarget start)
  have hindex := yieldsIf_some (names_indexOf h htarget start)
  have hmember := yieldsIf_some (names_memberOf htarget start)
  have hupdate (operator : Syntax) (ho : operator.NamesAttributes) : NamesIf (do
      return some (← nodeFrom "update_expression" start
        [target.inField "argument", operator.inField "operator"])) :=
    yieldsIf_some (names_nodeFrom (by decide) (by simp [htarget, ho]))
  refine yields_bind' fun cs => ?_
  split
  · exact yields_ite yieldsIf_none (yields_bind' fun _ => hmember)
  · exact hindex
  · exact yields_ite hcall yieldsIf_none
  · exact yields_ite hcall yieldsIf_none
  · refine yields_ite (yields_bind' fun _ => yields_bind' fun _ => ?_) yieldsIf_none
    split
    · exact hcall
    · exact hcall
    · exact hindex
    · exact yieldsIf_some (names_typedCall h htarget start)
    · exact hmember
  · exact yields_bind' fun _ =>
      yields_ite (yieldsIf_attempt (names_typedCall h htarget start)) yieldsIf_none
  · exact yields_bind' fun _ => yields_ite (yields_bind' fun _ => yieldsIf_some
      (names_nodeFrom (by decide) (by simp [htarget]))) yieldsIf_none
  · exact yields_bind' fun _ =>
      yields_ite (yields_bind (names_tokenNode (by decide)) hupdate) yieldsIf_none
  · exact yields_bind' fun _ =>
      yields_ite (yields_bind (names_tokenNode (by decide)) hupdate) yieldsIf_none
  · exact yieldsIf_none

theorem names_accesses (bangs calls : Bool) : Names (accesses level start bangs calls target) :=
  yields_extend (fun _ hx => namesIf_accessStep h hx start bangs calls) _ htarget

end Access

/-! ### Operators -/

/-- An operator from the list of its signs is no attribute. -/
theorem names_tokenNode_of_mem {s : String} {list : List String} (hs : s ∈ list)
    (hlist : "jsx_attribute" ∉ list) : Names (tokenNode s) :=
  names_tokenNode fun heq => hlist (heq ▸ hs)

theorem yieldsIf_prefixStep : YieldsIf (fun p => p.kind ≠ "jsx_attribute" ∧ p.part.NamesAttributes)
    (prefixStep level) := by
  have hpart {kind sign : String} (start : Nat) (hkind : kind ≠ "jsx_attribute")
      (hsign : Names (tokenNode sign)) :
      YieldsIf (fun p => p.kind ≠ "jsx_attribute" ∧ p.part.NamesAttributes) (do
        return some (⟨start, kind, (← tokenNode sign).inField "operator"⟩ : Prefix)) :=
    yields_bind hsign fun _ hpart => yields_pure (by simp [hkind, hpart])
  refine yields_bind' fun cs => yields_bind' fun start => ?_
  dsimp only
  split
  · next hupdate =>
    have hmem : operatorAt cs ∈ ["++", "--"] := by simpa using hupdate
    exact hpart start (by decide) (names_tokenNode_of_mem hmem (by decide))
  · split
    · next hmem => exact hpart start (by decide) (names_tokenNode_of_mem hmem (by decide))
    · split
      · next hmem => exact hpart start (by decide) (names_tokenNode_of_mem hmem (by decide))
      · exact yields_bind' fun _ => yields_ite (yields_bind (names_typeArguments level)
          fun _ hpart => yields_pure (by simp [hpart])) yieldsIf_none

include h

theorem names_accessRule (bangs calls : Bool) : Names (accessRule level bangs calls) :=
  yields_bind' fun _ => yields_bind (names_operand h) fun _ hfirst =>
    names_accesses h hfirst _ bangs calls

theorem names_awaitExpression : Names (awaitExpression level) :=
  yields_bind' fun _ => yields_bind' fun _ => yields_bind (h _) fun _ hx =>
    names_nodeFrom (by decide) (by simp [hx])

theorem names_unary (bangs : Bool) : Names (unary level bangs) := by
  refine yields_bind (yields_many yieldsIf_prefixStep _ nofun) fun before hbefore =>
    yields_bind' fun _ => ?_
  have hrest (x : Syntax) (hx : x.NamesAttributes) : Names (before.reverse.foldlM
      (fun x p => nodeFrom p.kind p.start [p.part, x.inField "argument"]) x) :=
    yields_foldlM hx fun x hx p hp => by
      obtain ⟨hkind, hpart⟩ := hbefore p (List.mem_reverse.mp hp)
      exact names_nodeFrom hkind (by simp [hpart, hx])
  exact yields_ite (yields_bind (names_awaitExpression h) hrest)
    (yields_bind (names_accessRule h _ _) hrest)

theorem namesIf_binaryStep {left : Syntax} (hleft : left.NamesAttributes) (start least : Nat)
    (inner : Bool) : NamesIf (binaryStep level least inner start left) := by
  refine yields_bind' fun cs => yields_bind' fun _ => yields_bind' fun _ => yields_ite ?_ ?_
  · exact yields_bind' fun _ => yields_bind (h _) fun _ htype =>
      yieldsIf_some (names_nodeFrom (by split <;> decide) (by simp [hleft, htype]))
  refine yields_bind' fun _ => yields_ite ?_ ?_
  · exact yields_bind' fun _ => yields_bind (names_nodeFrom (by decide) (by simp [hleft]))
      fun _ hwhole => yieldsIf_some (names_accesses h hwhole _ _ _)
  dsimp only
  split
  · exact yieldsIf_none
  · next binding hbinding =>
    have hsign : operatorAt cs ≠ "jsx_attribute" :=
      fun heq => by rw [heq] at hbinding; cases hbinding
    exact yields_ite yieldsIf_none <| yields_bind (names_tokenNode hsign) fun _ ho =>
      yields_bind (h _) fun _ hright =>
        yieldsIf_some (names_nodeFrom (by decide) (by simp [hleft, ho, hright]))

theorem names_binaryRule (least : Nat) (inner : Bool) : Names (binaryRule level least inner) :=
  yields_bind' fun start => yields_bind (names_unary h _) fun _ hfirst =>
    yields_extend (fun _ hx => namesIf_binaryStep h hx start least inner) _ hfirst

theorem names_branches {test : Syntax} (htest : test.NamesAttributes) (thenBranch : Rule)
    (start : Nat) : Names (branches level thenBranch start test) :=
  yields_bind' fun _ => yields_bind (h _) fun _ hyes => yields_bind' fun _ =>
    yields_bind (h _) fun _ hno => names_nodeFrom (by decide) (by simp [htest, hyes, hno])

theorem names_conditional : Names (conditional level) := by
  refine yields_bind' fun start => yields_bind (h _) fun test htest => yields_bind' fun _ => ?_
  have hbranches (thenBranch : Rule) := names_branches h htest thenBranch start
  split
  · exact yields_pure htest
  · exact yields_ite (yields_orElse (hbranches _) (hbranches _)) (hbranches _)
  · exact yields_pure htest

/-! ### Expressions -/

theorem names_yieldExpression : Names (yieldExpression level) := by
  have hvalue (start : Nat) : Names (do
      let x ← level.read .assignment
      nodeFrom "yield_expression" start [x]) :=
    yields_bind (h _) fun _ hx => names_nodeFrom (by decide) (by simp [hx])
  refine yields_bind' fun start => yields_bind' fun _ => yields_bind' fun _ =>
    yields_ite (hvalue start) (yields_bind' fun _ => ?_)
  split
  · exact names_bare (by decide)
  · exact yields_bind' fun _ => yields_ite (names_bare (by decide)) (hvalue start)

theorem names_plainAssignment : Names (plainAssignment level) := by
  refine yields_bind' fun _ => yields_bind (names_conditional h) fun left hleft =>
    yields_ite (yields_bind' fun _ => ?_) (yields_pure hleft)
  dsimp only
  split
  · exact yields_bind' fun _ => yields_bind (h _) fun _ hright =>
      names_nodeFrom (by decide) (by simp [hleft, hright])
  · split
    · next hmem =>
      exact yields_bind (names_tokenNode_of_mem hmem (by decide)) fun _ ho =>
        yields_bind (h _) fun _ hright =>
          names_nodeFrom (by decide) (by simp [hleft, ho, hright])
    · exact yields_pure hleft

theorem namesIf_arrow? (results : Bool) : NamesIf (arrow? level results) := by
  have hlist := yieldsIf_attempt (names_arrowWithList h)
  refine yields_bind' fun cs => yields_bind' fun _ => ?_
  split
  · exact yields_ite hlist yieldsIf_none
  · exact yields_bind' fun _ => yields_ite hlist <| yields_bind' fun _ => yields_ite
      (yields_ite hlist yieldsIf_none) yieldsIf_none
  · refine yields_ite yieldsIf_none <| yields_ite (yieldsIf_some (names_arrowWithName h)) <|
      yields_ite ?_ yieldsIf_none
    split
    · exact yields_ite hlist yieldsIf_none
    · exact yields_ite hlist yieldsIf_none
    · refine yields_ite ?_ yieldsIf_none
      exact yields_bind' fun _ => yields_bind' fun _ => yields_bind (names_wordNode (by decide))
        fun _ hname => yieldsIf_some (names_arrowFrom h _ (by simp [hname]))

theorem names_assignmentRule (results : Bool) : Names (assignmentRule level results) := by
  refine yields_bind (namesIf_arrow? h results) fun found hfound => ?_
  have hplain := names_plainAssignment h
  split
  · exact yields_pure (hfound _ rfl)
  · exact yields_bind' fun _ => yields_ite (names_yieldExpression h) <| yields_bind' fun _ =>
      yields_bind' fun _ => yields_ite (yields_orElse hplain (names_arrowWithList h)) hplain

theorem names_expressionRule : Names (expressionRule level) := by
  refine yields_bind' fun _ => yields_bind (h _) fun first hfirst => yields_bind' fun _ =>
    yields_ite ?_ (yields_pure hfirst)
  refine yields_bind (Q := AllName) (yields_many ?_ _ nofun) fun _ hrest =>
    names_nodeFrom (by decide) (by simp [hfirst, hrest])
  exact yields_bind' fun _ => yields_ite (yieldsIf_some (h _)) yieldsIf_none

end StateCoverage.Grammar
