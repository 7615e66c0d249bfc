import StateCoverage.Proofs.Grammar.AttributeName.Markup
import StateCoverage.Proofs.Grammar.AttributeName.Statement
import StateCoverage.Proofs.Grammar.Parenthesis

/-!
The tree of every source names its attributes: all rules do, however deep they nest, and comments
that are put into a tree take no name away.
-/
namespace StateCoverage.Grammar
open Syntax

theorem names_readRule (fuel : Nat) (rule : Rule) : Names (readRule fuel rule) := by
  induction fuel generalizing rule with
  | zero => exact yields_failure
  | succ fuel ih =>
    have h : Level.Names ⟨fuel, readRule fuel⟩ := ih
    cases rule with
    | statement => exact names_statementRule h
    | expression => exact names_expressionRule h
    | assignment => exact names_assignmentRule h true
    | consequent => exact names_assignmentRule h false
    | binary least inner => exact names_binaryRule h least inner
    | access calls => exact names_accessRule h false calls
    | pattern => exact names_patternRule h
    | type => exact names_typeRule _
    | element => exact names_elementRule h

theorem namesAll_interpreterLine : NamesAll interpreterLine := by
  refine yields_bind' fun _ => ?_
  split
  · exact namesAll_one (names_leaf (by decide) _)
  · exact namesAll_none

theorem namesAll_program (fuel : Nat) : NamesAll (program fuel) := by
  refine yields_bind namesAll_interpreterLine fun first hfirst => ?_
  refine yields_bind (Q := AllName) (yields_many ?_ _ nofun) fun statements hstatements =>
    yields_bind' fun _ => yields_ite ?_ ?_
  · exact yields_bind' fun _ => yields_ite yieldsIf_none (yieldsIf_attempt (names_readRule _ _))
  · exact yields_bind' fun _ => yields_pure (by simp [hfirst, hstatements])
  · exact yields_bind' fun _ => yields_bind' fun _ => yields_bind' fun _ =>
      yields_bind (names_bare (by decide)) fun _ herror =>
        yields_pure (by simp [hfirst, hstatements, herror])

section Weave

theorem exists_isNamed_weaveAll (comments : List Syntax) {list : List Syntax}
    (h : ∃ c ∈ list, c.isNamed) :
    ∃ c ∈ weaveAll comments list, c.isNamed := by
  obtain ⟨c, hc, hnamed⟩ := h
  induction list generalizing comments with
  | nil => cases hc
  | cons t rest ih =>
    rw [weaveAll]
    obtain rfl | hc := List.mem_cons.mp hc
    · refine ⟨_, List.mem_append_right _ List.mem_cons_self, ?_⟩
      split
      · exact hnamed
      · rwa [isNamed_weave]
    · obtain ⟨d, hd, hnamed⟩ := ih _ hc
      exact ⟨d, List.mem_append_right _ (List.mem_cons_of_mem _ hd), hnamed⟩

mutual

theorem namesAttributes_weave {comments : List Syntax} (hcomments : AllName comments) (t : Syntax)
    (ht : t.NamesAttributes) : (weave comments t).NamesAttributes := by
  cases t with
  | node kind start stop field named missing children =>
    obtain ⟨hself, hchildren⟩ := ht
    refine .intro (fun hkind => ?_) (allName_weaveAll hcomments children hchildren)
    obtain ⟨c, hc⟩ := List.exists_mem_of_ne_nil _ (hself hkind)
    obtain ⟨d, hd⟩ := exists_isNamed_weaveAll comments ⟨c, List.mem_filter.mp hc⟩
    exact List.ne_nil_of_mem (List.mem_filter.mpr hd)

theorem allName_weaveAll {comments : List Syntax} (hcomments : AllName comments)
    (list : List Syntax) (hlist : AllName list) : AllName (weaveAll comments list) := by
  cases list with
  | nil => exact hcomments
  | cons t rest =>
    obtain ⟨ht, hrest⟩ := allName_cons.mp hlist
    have hpart {part : List Syntax} (h : ∀ c ∈ part, c ∈ comments) : AllName part :=
      fun c hc => hcomments c (h c hc)
    rw [weaveAll, allName_append, allName_cons]
    refine ⟨hpart fun c hc => (List.takeWhile_sublist _).mem hc, ?_, ?_⟩
    · split
      · exact ht
      · exact namesAttributes_weave
          (hpart fun c hc => List.mem_of_mem_drop ((List.takeWhile_sublist _).mem hc)) t ht
    · exact allName_weaveAll
        (hpart fun c hc => List.mem_of_mem_drop (List.mem_of_mem_drop hc)) rest hrest

end

end Weave

theorem namesAttributes_parse (dialect : Dialect) (cs : List Char) :
    (parse dialect cs).NamesAttributes := by
  unfold parse
  split
  · exact namesAttributes_node (by decide) allName_nil
  · next statements c hprogram =>
    refine namesAttributes_weave (fun t ht => ?_) _
      (namesAttributes_node (by decide) (namesAll_program _ _ _ _ hprogram))
    obtain ⟨comment, -, rfl⟩ := List.mem_map.mp ht
    exact namesAttributes_node (by decide) allName_nil

end StateCoverage.Grammar
