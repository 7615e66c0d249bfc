import StateCoverage.Proofs.Grammar.AttributeName.Operation

/-!
Statements, declarations and patterns name their attributes if the rules nested in them do.
-/
namespace StateCoverage.Grammar
open Syntax

/-! ### Imports and types -/

section Modules
variable (level : Level)

theorem names_moduleSource : Names moduleSource :=
  yields_bind names_stringNode fun source hsource => by
    have hend : Names (pure source) := yields_pure hsource
    exact yields_bind' fun _ => yields_bind' fun _ => yields_bind' fun _ =>
      yields_ite (yields_bind' fun _ => yields_bind' fun _ => hend) hend

theorem names_moduleName : Names moduleName :=
  yields_orElse (names_wordNode (by decide)) names_stringNode

theorem names_moduleSpecifier {kind : String} (hkind : kind ≠ "jsx_attribute") :
    Names (moduleSpecifier kind) := by
  refine yields_bind' fun start => yields_bind names_moduleName fun first hfirst => ?_
  refine yields_bind (Q := AllName) (yields_many ?_ _ nofun) fun more hmore => ?_
  · exact yields_bind' fun _ => yields_bind' fun _ =>
      yields_ite yieldsIf_none (yieldsIf_some names_moduleName)
  dsimp only
  split
  · exact names_nodeFrom hkind (by simp [hfirst])
  · next name => exact names_nodeFrom hkind (by simp [hmore name])
  · next second renamed =>
    exact yields_ite (names_nodeFrom hkind (by simp [hfirst, hmore renamed])) yields_failure
  · next name second renamed =>
    exact names_nodeFrom hkind (by simp [hmore name, hmore renamed])
  · exact yields_failure

theorem names_moduleSpecifiers {list kind : String} (hlist : list ≠ "jsx_attribute")
    (hkind : kind ≠ "jsx_attribute") : Names (moduleSpecifiers level list kind) :=
  yields_bind' fun _ => yields_bind' fun _ =>
    yields_bind (namesAll_looseList (names_moduleSpecifier hkind) _) fun _ hitems =>
      yields_bind' fun _ => names_nodeFrom hlist hitems

theorem names_importClause : Names (importClause level) := by
  refine yields_bind' fun start => ?_
  extract_lets star others
  have hstar : Names star := yields_bind' fun _ => yields_bind' fun _ => yields_bind' fun _ =>
    yields_bind (names_wordNode (by decide)) fun _ hname =>
      names_nodeFrom (by decide) (by simp [hname])
  have hothers : Names others := yields_bind' fun _ =>
    yields_ite hstar (names_moduleSpecifiers level (by decide) (by decide))
  refine yields_bind' fun _ => yields_bind' fun _ => yields_ite ?_ ?_
  · exact yields_bind hothers fun _ hpart => names_nodeFrom (by decide) (by simp [hpart])
  · refine yields_bind (names_wordNode (by decide)) fun _ hname => yields_bind' fun _ =>
      yields_ite ?_ (names_nodeFrom (by decide) (by simp [hname]))
    exact yields_bind hothers fun _ hpart => names_nodeFrom (by decide) (by simp [hname, hpart])

theorem names_importStatement : Names (importStatement level) := by
  refine yields_bind' fun start => yields_bind' fun _ => yields_bind' fun _ => yields_skip fun _ =>
    yields_bind' fun _ => yields_bind' fun _ => yields_ite ?_ ?_
  · exact yields_bind names_moduleSource fun _ hsource => yields_bind' fun _ =>
      names_nodeFrom (by decide) (by simp [hsource])
  refine yields_bind (names_importClause level) fun clause hclause => yields_bind' fun _ =>
    yields_ite ?_ ?_
  · refine yields_bind (yieldsIf_attempt (P := NamesAttributes) ?_) fun required hrequired => ?_
    · exact yields_bind' fun _ => yields_bind' fun _ => yields_bind' fun _ =>
        yields_bind names_stringNode fun _ hsource => yields_bind' fun _ =>
          names_nodeFrom (by decide) (by simp [hsource])
    split
    · exact yields_bind' fun _ => names_nodeFrom (by decide) (by simp [hrequired _ rfl])
    · exact yields_bind' fun _ => yields_bind' fun _ => yields_bind' fun _ => names_bare (by decide)
  · exact yields_bind' fun _ => yields_bind names_moduleSource fun _ hsource =>
      yields_bind' fun _ => names_nodeFrom (by decide) (by simp [hclause, hsource])

theorem names_interface : Names (interface level) := by
  refine yields_bind' fun _ => yields_bind' fun _ => yields_bind' fun _ => yields_bind' fun _ =>
    yields_bind' fun _ => ?_
  extract_lets rest
  have hrest (x : Unit) : Names (rest x) := yields_bind' fun _ => names_bare (by decide)
  exact yields_ite (yields_bind' fun _ => hrest ()) (hrest ())

theorem names_typeAlias : Names (typeAlias level) :=
  yields_bind' fun _ => yields_bind' fun _ => yields_bind' fun _ => yields_bind' fun _ =>
    yields_bind' fun _ => yields_bind' fun _ => yields_bind' fun _ => names_bare (by decide)

end Modules

theorem names_closeNode {t : Syntax} (ht : t.NamesAttributes) : Names (closeNode t) := by
  obtain ⟨hself, hchildren⟩ := ht
  exact yields_bind' fun _ => yields_pure ⟨hself, hchildren⟩

variable {level : Level} (h : level.Names)
include h

/-! ### Patterns and declarations -/

theorem names_patternMember : Names (patternMember level) := by
  refine yields_bind' fun _ => yields_bind' fun _ => yields_ite (names_spread h (by decide) _) ?_
  refine yields_bind (names_propertyKey h) fun key hkey => yields_bind' fun _ => yields_ite ?_ ?_
  · exact yields_bind (h _) fun _ hinner => yields_bind (namesAll_defaultValue h) fun _ hvalue =>
      names_nodeFrom (by decide) (by simp [hkey, hinner, hvalue])
  · exact yields_bind (namesAll_defaultValue h) fun _ hvalue =>
      names_nodeFrom (by decide) (by simp [hkey, hvalue])

theorem names_patternElement : Names (patternElement level) := by
  refine yields_bind' fun _ => yields_bind' fun _ => yields_ite (names_spread h (by decide) _) ?_
  exact yields_bind (h _) fun _ hinner => yields_bind (namesAll_defaultValue h) fun _ hvalue =>
    yields_ite (yields_pure hinner) (names_nodeFrom (by decide) (by simp [hinner, hvalue]))

theorem names_patternRule : Names (patternRule level) := by
  refine yields_bind' fun _ => yields_bind' fun _ => ?_
  split
  · exact yields_bind' fun _ =>
      yields_bind (namesAll_looseList (names_patternMember h) _) fun _ hmembers =>
        yields_bind' fun _ => names_nodeFrom (by decide) hmembers
  · exact yields_bind' fun _ =>
      yields_bind (namesAll_looseList (names_patternElement h) _) fun _ helements =>
        yields_bind' fun _ => names_nodeFrom (by decide) helements
  · exact names_spread h (by decide) _
  · exact yields_ite (names_wordNode (by decide)) (names_wordNode (by decide))

theorem names_declarator : Names (declarator level) := by
  refine yields_bind' fun start => yields_bind (h _) fun name hname => yields_bind' fun _ => ?_
  extract_lets rest
  have hrest (typed : List Syntax) (htyped : AllName typed) : Names (rest typed) :=
    yields_bind' fun _ => yields_part (h _) (by simp) fun _ hvalue =>
      names_nodeFrom (by decide) (by simp [hname, htyped, hvalue])
  exact yields_ite (yields_bind' fun _ => yields_bind' fun _ =>
    yields_part (names_typeAnnotationNode level) (by simp) hrest) (hrest [] allName_nil)

theorem namesAll_declarators : NamesAll (declarators level) := by
  refine yields_bind (names_declarator h) fun _ hfirst => ?_
  refine yields_bind (Q := AllName) (yields_many ?_ _ nofun) fun _ hrest =>
    yields_pure (by simp [hfirst, hrest])
  exact yields_bind' fun _ => yields_ite (yieldsIf_some (names_declarator h)) yieldsIf_none

theorem names_bareDeclaration {word : String} (hword : word ≠ "jsx_attribute") :
    Names (bareDeclaration level word) :=
  yields_bind' fun _ => yields_bind (names_tokenNode hword) fun _ hkind =>
    yields_bind (namesAll_declarators h) fun _ hlist =>
      names_nodeFrom (by split <;> decide) (by simp [hkind, hlist])

theorem names_declaration {word : String} (hword : word ≠ "jsx_attribute") :
    Names (declaration level word) :=
  yields_bind (names_bareDeclaration h hword) fun _ hwhole =>
    yields_bind' fun _ => names_closeNode hwhole

/-! ### Statements with statements in them -/

theorem names_condition : Names (condition level) :=
  yields_bind' fun _ => yields_bind' fun _ =>
    yields_bind (h _) fun _ hinner => yields_bind' fun _ =>
    names_nodeFrom (by decide) (by simp [hinner])

theorem names_ifStatement : Names (ifStatement level) :=
  yields_bind' fun _ => yields_bind' fun _ => yields_bind (names_condition h) fun _ htest =>
    yields_bind (h _) fun _ hyes => yields_bind' fun _ => yields_part (h _) (by simp) fun _ hno =>
      names_nodeFrom (by decide) (by simp [htest, hyes, hno])

theorem namesAll_valuesHead : NamesAll (valuesHead level) := by
  refine yields_bind' fun _ => ?_
  extract_lets word rest
  have hrest (left : Syntax) (hleft : left.NamesAttributes) : NamesAll (rest left) :=
    yields_bind (namesAll_defaultValue h) fun _ hvalue => yields_bind' fun _ =>
      yields_bind (h _) fun _ hright => yields_pure (by simp [hleft, hvalue, hright])
  exact yields_ite (yields_bind' fun _ => yields_bind (h _) hrest) (yields_bind (h _) hrest)

theorem namesAll_countingHead : NamesAll (countingHead level) := by
  refine yields_bind' fun _ => ?_
  extract_lets word rest
  have hrest (first : List Syntax) (hfirst : AllName first) : NamesAll (rest first) := by
    refine yields_bind' fun _ => yields_part' (h _) (by simp) fun test htest =>
      yields_bind' fun _ => yields_bind' fun _ => ?_
    extract_lets whole
    have hwhole (update : List Syntax) (hupdate : AllName update) : NamesAll (whole update) :=
      yields_pure (by simp [hfirst, htest, hupdate])
    exact yields_ite (hwhole [] allName_nil)
      (yields_bind (h _) fun _ hx => hwhole _ (by simp [hx]))
  clear_value word
  split
  · next hmem =>
    have hword : word ≠ "jsx_attribute" := fun heq => absurd (heq ▸ hmem) (by decide)
    exact yields_bind' fun _ => yields_bind (names_bareDeclaration h hword) fun _ hwhole =>
      yields_bind' fun _ => yields_bind (names_closeNode hwhole) fun _ hx => hrest _ (by simp [hx])
  · refine yields_bind' fun _ => yields_ite ?_ ?_
    · exact yields_bind' fun _ => hrest [] allName_nil
    · exact yields_bind (h _) fun _ hx => yields_bind' fun _ => hrest _ (by simp [hx])

theorem names_forStatement : Names (forStatement level) := by
  refine yields_bind' fun _ => yields_bind' fun _ => yields_bind' fun _ => yields_bind' fun _ =>
    yields_bind (yieldsIf_attempt (namesAll_valuesHead h)) fun head hhead => ?_
  split
  · exact yields_bind' fun _ => yields_bind (h _) fun _ hbody =>
      names_nodeFrom (by decide) (by simp [hhead _ rfl, hbody])
  · exact yields_bind (namesAll_countingHead h) fun _ hhead => yields_bind' fun _ =>
      yields_bind (h _) fun _ hbody => names_nodeFrom (by decide) (by simp [hhead, hbody])

theorem names_whileStatement : Names (whileStatement level) :=
  yields_bind' fun _ => yields_bind' fun _ => yields_bind (names_condition h) fun _ htest =>
    yields_bind (h _) fun _ hbody => names_nodeFrom (by decide) (by simp [htest, hbody])

theorem names_doStatement : Names (doStatement level) :=
  yields_bind' fun _ => yields_bind' fun _ => yields_bind (h _) fun _ hbody => yields_bind' fun _ =>
    yields_bind (names_condition h) fun _ htest => yields_bind' fun _ =>
      names_nodeFrom (by decide) (by simp [htest, hbody])

theorem names_switchCase : Names (switchCase level) := by
  refine yields_bind' fun _ => yields_bind' fun _ => ?_
  extract_lets rest
  have hrest (test : List Syntax) (htest : AllName test) : Names (rest test) := by
    refine yields_bind' fun _ => yields_bind (Q := AllName) (yields_many ?_ _ nofun) fun _ hbody =>
      names_nodeFrom (by decide) (by simp [htest, hbody])
    exact yields_bind' fun _ => yields_bind' fun _ => yields_bind' fun _ =>
      yields_ite yieldsIf_none <| yields_bind' fun _ =>
        yields_ite yieldsIf_none (yieldsIf_some (h _))
  exact yields_ite (hrest [] allName_nil)
    (yields_bind' fun _ => yields_bind (h _) fun _ hx => hrest _ (by simp [hx]))

theorem names_switchStatement : Names (switchStatement level) := by
  refine yields_bind' fun _ => yields_bind' fun _ => yields_bind (names_condition h)
    fun value hvalue => yields_bind' fun _ => yields_bind (Q := AllName) (yields_many ?_ _ nofun)
      fun _ hcases => yields_bind' fun _ => names_nodeFrom (by decide) (by simp [hvalue, hcases])
  exact yields_bind' fun _ => yields_ite yieldsIf_none (yieldsIf_some (names_switchCase h))

theorem names_tryStatement : Names (tryStatement level) := by
  refine yields_bind' fun _ => yields_bind' fun _ => yields_bind (names_block h) fun body hbody =>
    yields_bind' fun _ => ?_
  extract_lets last caught
  have hlast (handler : List Syntax) (hhandler : AllName handler) : Names (last handler) :=
    yields_bind' fun _ => yields_part (names_block h) (by simp) fun _ hlast =>
      names_nodeFrom (by decide) (by simp [hbody, hhandler, hlast])
  have hcaught (before : List Syntax) (hbefore : AllName before) : Names (caught before) :=
    yields_bind (names_block h) fun _ hrest => hlast _ (by simp [hbefore, hrest])
  refine yields_ite (yields_bind' fun _ => yields_ite ?_ (hcaught [] allName_nil))
    (hlast [] allName_nil)
  exact yields_bind (h _) fun _ hinner => yields_bind' fun _ => yields_skip fun _ =>
    yields_bind' fun _ => hcaught _ (by simp [hinner])

theorem names_jumpStatement {word : String} (hword : word ++ "_statement" ≠ "jsx_attribute") :
    Names (jumpStatement level word) :=
  yields_bind' fun _ => yields_bind' fun _ => yields_bind' fun _ => yields_bind' fun _ =>
    yields_part' (h _) (by simp) fun _ hvalue => yields_bind' fun _ => names_nodeFrom hword hvalue

theorem names_expressionStatement : Names (expressionStatement level) :=
  yields_bind' fun _ => yields_bind (h _) fun _ hinner => yields_ite yields_failure_bind <|
    yields_bind' fun _ => names_nodeFrom (by decide) (by simp [hinner])

/-! ### Declarations of the typed dialects -/

theorem names_enumMember : Names (enumMember level) :=
  yields_bind' fun _ => yields_bind (names_propertyKey h) fun _ hkey =>
    yields_bind (namesAll_defaultValue h) fun _ hvalue =>
      names_nodeFrom (by decide) (by simp [hkey, hvalue])

theorem names_enumeration : Names (enumeration level) :=
  yields_bind' fun _ => yields_bind' fun _ => yields_bind' fun _ => yields_bind' fun _ =>
    yields_bind' fun _ => yields_bind (namesAll_looseList (names_enumMember h) _) fun _ hmembers =>
      yields_bind' fun _ => names_nodeFrom (by decide) hmembers

theorem names_namespaceDeclaration : Names (namespaceDeclaration level) := by
  refine yields_bind' fun start => yields_bind' fun _ => yields_bind' fun _ => ?_
  extract_lets rest
  have hrest (x : Unit) : Names (rest x) := yields_bind' fun _ => yields_ite
    (yields_bind (names_block h) fun _ hbody => names_nodeFrom (by decide) (by simp [hbody]))
    (yields_bind' fun _ => names_bare (by decide))
  refine yields_ite (yields_bind' fun _ => yields_bind' fun _ => yields_ite ?_ ?_) (hrest ())
  · exact yields_bind' fun _ => hrest ()
  · exact yields_bind' fun _ => yields_bind' hrest

theorem names_ambient : Names (ambient level) := by
  refine yields_bind' fun start => yields_bind' fun _ => yields_bind' fun _ => ?_
  extract_lets rest
  have hrest (inner : Syntax) (hinner : inner.NamesAttributes) : Names (rest inner) :=
    names_nodeFrom (by decide) (by simp [hinner])
  exact yields_ite (yields_bind (names_namespaceDeclaration h) hrest) (yields_bind (h _) hrest)

/-! ### Exports and all statements -/

theorem names_defaultExport (start : Nat) : Names (defaultExport level start) := by
  refine yields_bind' fun cs => ?_
  extract_lets word declared named
  clear_value word
  have hdeclared : Names declared := by
    unfold declared
    split
    · exact names_interface level
    · exact names_function h _
    · exact names_function h _
    · exact yields_bind' fun _ => names_classFrom h _ allName_nil _
    · exact yields_bind' fun _ => names_classFrom h _ allName_nil _
    · exact yields_ite (yields_bind' fun _ => yields_bind (namesAll_decorators h) fun _ hbefore =>
        names_classFrom h _ hbefore _) yields_failure
  refine yields_bind (yieldsIf_attempt (P := NamesAttributes) ?_) fun found hfound => ?_
  · exact yields_bind hdeclared fun _ ht => yields_ite (yields_pure ht) yields_failure
  split
  · exact names_nodeFrom (by decide) (by simp [hfound _ rfl])
  · exact yields_bind (h _) fun _ hvalue => yields_bind' fun _ =>
      names_nodeFrom (by decide) (by simp [hvalue])

theorem names_exportStatement (start : Nat) {before : List Syntax} (hbefore : AllName before) :
    Names (exportStatement level start before) := by
  have hall : Names (do
      keyword "from"
      let source ← moduleSource
      semicolon
      nodeFrom "export_statement" start [source.inField "source"]) :=
    yields_bind' fun _ => yields_bind names_moduleSource fun _ hsource => yields_bind' fun _ =>
      names_nodeFrom (by decide) (by simp [hsource])
  refine yields_bind' fun _ => yields_bind' fun cs => yields_bind' fun _ => yields_bind' fun _ =>
    yields_ite (names_defaultExport h start) ?_
  refine yields_ite ?_ (yields_ite ?_ (yields_ite ?_ ?_))
  · exact yields_bind' fun _ => yields_bind (h _) fun _ hvalue => yields_bind' fun _ =>
      names_nodeFrom (by decide) (by simp [hvalue])
  · exact yields_bind' fun _ => yields_bind' fun _ => yields_bind' fun _ => yields_bind' fun _ =>
      names_bare (by decide)
  · exact yields_bind (names_importStatement level) fun _ hinner =>
      names_nodeFrom (by decide) (by simp [hinner])
  · refine yields_skip fun _ => yields_bind' fun _ => yields_ite ?_ <| yields_bind' fun _ =>
      yields_ite ?_ ?_
    · exact yields_bind' fun _ => yields_ite (yields_bind' fun _ => hall) hall
    · exact yields_bind (names_moduleSpecifiers level (by decide) (by decide)) fun _ hclause =>
        yields_bind' fun _ => yields_part names_moduleSource (by simp) fun _ hsource =>
          yields_bind' fun _ => names_nodeFrom (by decide) (by simp [hclause, hsource])
    · exact yields_bind (h _) fun _ hinner =>
        names_nodeFrom (by decide) (by simp [hbefore, hinner])

theorem names_decorated : Names (decorated level) :=
  yields_bind' fun _ => yields_bind (namesAll_decorators h) fun _ hbefore => yields_bind' fun _ =>
    yields_ite (names_exportStatement h _ hbefore) (names_classFrom h _ hbefore _)

theorem namesIf_typedStatement? (word : String) : NamesIf (typedStatement? level word) := by
  refine yields_bind' fun _ => yields_ite yieldsIf_none <| yields_bind' fun cs => ?_
  refine yields_ite (yieldsIf_some (names_enumeration h)) <| yields_ite ?_ yieldsIf_none
  refine yields_ite yieldsIf_none <| yields_ite yieldsIf_none ?_
  split
  · exact yieldsIf_attempt (names_typeAlias level)
  · exact yieldsIf_attempt (names_interface level)
  · exact yieldsIf_attempt (names_enumeration h)
  · exact yieldsIf_attempt (names_namespaceDeclaration h)
  · exact yieldsIf_attempt (names_namespaceDeclaration h)
  · exact yieldsIf_attempt (names_ambient h)
  · exact yields_ite (yields_bind' fun _ => yieldsIf_some (names_classFrom h _ allName_nil _))
      yieldsIf_none

theorem names_wordStatement (word : String) : Names (wordStatement level word) := by
  refine yields_bind' fun start => yields_bind' fun cs => ?_
  extract_lets behind
  split
  · exact names_declaration h (by decide)
  · exact names_declaration h (by decide)
  · exact yields_ite (names_declaration h (by decide)) (names_expressionStatement h)
  · exact names_function h _
  · exact names_classFrom h _ allName_nil _
  · exact names_ifStatement h
  · exact names_forStatement h
  · exact names_whileStatement h
  · exact names_doStatement h
  · exact names_switchStatement h
  · exact names_tryStatement h
  · exact names_jumpStatement h (by decide)
  · exact names_jumpStatement h (by decide)
  · exact names_jumpStatement h (by decide)
  · exact names_jumpStatement h (by decide)
  · exact names_jumpStatement h (by decide)
  · exact yields_bind' fun _ => yields_bind (names_condition h) fun _ hscope =>
      yields_bind (h _) fun _ hbody => names_nodeFrom (by decide) (by simp [hscope, hbody])
  · exact yields_ite (names_expressionStatement h) (names_importStatement level)
  · exact names_exportStatement h _ allName_nil
  · refine yields_ite (names_function h _) <| yields_ite ?_ (names_expressionStatement h)
    exact yields_bind' fun _ => yields_bind' fun _ => yields_bind (h _) fun _ hbody =>
      names_nodeFrom (by decide) (by simp [hbody])

theorem names_statementRule : Names (statementRule level) := by
  refine yields_bind' fun _ => yields_bind' fun cs => ?_
  split
  · exact names_block h
  · exact yields_bind' fun _ => names_bare (by decide)
  · exact names_decorated h
  · refine yields_ite (names_expressionStatement h) <|
      yields_bind (namesIf_typedStatement? h _) fun found hfound => ?_
    split
    · exact yields_pure (hfound _ rfl)
    · exact names_wordStatement h _

end StateCoverage.Grammar
