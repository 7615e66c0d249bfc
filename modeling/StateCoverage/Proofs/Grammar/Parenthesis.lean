import StateCoverage.Proofs.Grammar.Yields

/-!
Sources that open with a parenthesis. Whatever rule reads an expression there gives a node that
begins at the parenthesis, so no comment can come before it. A source that holds no error begins
with an expression statement.
-/
namespace StateCoverage

/-- A node that begins at this byte. It is named, and it is no comment. -/
structure Syntax.BeginsAt (t : Syntax) (start : Nat) : Prop where
  start_eq : t.start = start
  named : t.isNamed
  kind_ne : t.kind ≠ "comment"

namespace Grammar

theorem ahead_bind {α : Type} (f : List Char → Parser α) (c : Cursor) :
    (ahead >>= f) c = f c.gap.rest c := rfl

theorem startAhead_bind {α : Type} (f : Nat → Parser α) (c : Cursor) :
    (startAhead >>= f) c = f c.gap.position c := rfl

/-- Every node that the parser gives begins at `start`. -/
abbrev Begins (start : Nat) (p : Parser Syntax) : Prop := Yields (·.BeginsAt start) p

abbrev BeginsIf (start : Nat) (p : Parser (Option Syntax)) : Prop := YieldsIf (·.BeginsAt start) p

theorem begins_nodeFrom {start : Nat} {kind : String} (children : List Syntax)
    (h : kind ≠ "comment") : Begins start (nodeFrom kind start children) := by
  intro c t c' ht
  cases ht
  exact ⟨rfl, rfl, h⟩

section Access
variable (level : Level) (start : Nat) (target : Syntax)

theorem begins_callOf : Begins start (callOf level start target) := by
  refine yields_bind' fun sees => ?_
  dsimp only
  split
  · exact yields_bind' fun _ => begins_nodeFrom _ (by decide)
  · exact yields_bind' fun _ => begins_nodeFrom _ (by decide)

theorem begins_indexOf : Begins start (indexOf level start target) :=
  yields_bind' fun _ => yields_bind' fun _ => yields_bind' fun _ => begins_nodeFrom _ (by decide)

theorem begins_memberOf : Begins start (memberOf start target) :=
  yields_bind' fun _ => begins_nodeFrom _ (by decide)

theorem begins_typedCall : Begins start (typedCall level start target) := by
  refine yields_bind' fun types => yields_bind' fun cs => ?_
  split
  · exact begins_callOf level start target
  · exact begins_callOf level start target
  · exact begins_nodeFrom _ (by decide)
  · split
    · exact begins_nodeFrom _ (by decide)
    · exact yields_failure

theorem beginsIf_accessStep (bangs calls : Bool) :
    BeginsIf start (accessStep level start bangs calls target) := by
  have hcall := yieldsIf_some (begins_callOf level start target)
  have hindex := yieldsIf_some (begins_indexOf level start target)
  have hmember := yieldsIf_some (begins_memberOf start target)
  have hupdate (operator : Syntax) : BeginsIf start (nodeFrom "update_expression" start
      [target.inField "argument", operator.inField "operator"] >>= fun t => pure (some t)) :=
    yieldsIf_some (begins_nodeFrom _ (by decide))
  refine yields_bind' fun cs => ?_
  split
  · split
    · exact yieldsIf_none
    · exact yields_bind' fun _ => hmember
  · exact hindex
  · split
    · exact hcall
    · exact yieldsIf_none
  · split
    · exact hcall
    · exact yieldsIf_none
  · split
    · refine yields_bind' fun _ => yields_bind' fun behind => ?_
      split
      · exact hcall
      · exact hcall
      · exact hindex
      · exact yieldsIf_some (begins_typedCall level start target)
      · exact hmember
    · exact yieldsIf_none
  · refine yields_bind' fun dialect => ?_
    split
    · exact yieldsIf_attempt (begins_typedCall level start target)
    · exact yieldsIf_none
  · refine yields_bind' fun bang => ?_
    split
    · exact yields_bind' fun _ => yieldsIf_some (begins_nodeFrom _ (by decide))
    · exact yieldsIf_none
  · refine yields_bind' fun newline => ?_
    split
    · exact yields_bind' hupdate
    · exact yieldsIf_none
  · refine yields_bind' fun newline => ?_
    split
    · exact yields_bind' hupdate
    · exact yieldsIf_none
  · exact yieldsIf_none

theorem begins_accesses (bangs calls : Bool) (h : target.BeginsAt start) :
    Begins start (accesses level start bangs calls target) :=
  yields_extend (fun t _ => beginsIf_accessStep level start t bangs calls) level.fuel h

theorem beginsIf_binaryStep (least : Nat) (inner : Bool) :
    BeginsIf start (binaryStep level least inner start target) := by
  refine yields_bind' fun cs => yields_bind' fun dialect => yields_bind' fun newline => ?_
  dsimp only
  split
  · refine yields_bind' fun _ => yields_bind' fun type => yieldsIf_some ?_
    split
    · exact begins_nodeFrom _ (by decide)
    · exact begins_nodeFrom _ (by decide)
  · refine yields_bind' fun bang => ?_
    split
    · refine yields_bind' fun _ => ?_
      exact yields_bind (begins_nodeFrom _ (by decide)) fun whole hwhole =>
        yieldsIf_some (begins_accesses level start whole true true hwhole)
    · split
      · exact yieldsIf_none
      · split
        · exact yieldsIf_none
        · exact yields_bind' fun operator => yields_bind' fun right =>
            yieldsIf_some (begins_nodeFrom _ (by decide))

theorem begins_branches (thenBranch : Rule) :
    Begins start (branches level thenBranch start target) :=
  yields_bind' fun _ => yields_bind' fun _ => yields_bind' fun _ => yields_bind' fun _ =>
    begins_nodeFrom _ (by decide)

theorem begins_arrowFrom (before : List Syntax) : Begins start (arrowFrom level start before) :=
  yields_bind' fun _ => begins_nodeFrom _ (by decide)

end Access

/-- Every node that the parser gives where a parenthesis opens begins there. -/
def BeginsAhead (p : Parser Syntax) : Prop :=
  ∀ c r t c', c.gap.rest = '(' :: r → p c = some (t, c') → t.BeginsAt c.gap.position

theorem beginsAhead_of_begins {f : Nat → Parser Syntax} (h : ∀ start, Begins start (f start)) :
    BeginsAhead (startAhead >>= f) :=
  fun c _ t c' _ ht => h c.gap.position c t c' ht

/-- What is read first begins there, and so does what is made of it. -/
theorem beginsAhead_bind {p : Parser Syntax} {f : Nat → Syntax → Parser Syntax} (hp : BeginsAhead p)
    (hf : ∀ start t, t.BeginsAt start → Begins start (f start t)) :
    BeginsAhead (startAhead >>= fun start => p >>= f start) := by
  intro c r t c' hc ht
  obtain ⟨u, d, hu, ht⟩ := bind_eq_some.mp (show (p >>= f c.gap.position) c = _ from ht)
  exact hf c.gap.position u (hp c r u d hc hu) d t c' ht

section Ahead
variable (level : Level)

theorem beginsAhead_parenthesized : BeginsAhead (parenthesized level) := by
  refine beginsAhead_of_begins fun start => yields_bind' fun _ => yields_bind' fun inner => ?_
  dsimp only
  split
  · exact yields_failure_bind
  · refine yields_bind' fun dialect => yields_bind' fun colon => ?_
    split
    · exact yields_bind' fun _ => yields_bind' fun _ => yields_bind' fun _ =>
        begins_nodeFrom _ (by decide)
    · exact yields_bind' fun _ => yields_bind' fun _ => begins_nodeFrom _ (by decide)

theorem beginsAhead_operand : BeginsAhead (operand level) := by
  intro c r t c' hc ht
  unfold operand at ht
  rw [ahead_bind, hc] at ht
  exact beginsAhead_parenthesized level c r t c' hc ht

theorem beginsAhead_accessRule (bangs calls : Bool) : BeginsAhead (accessRule level bangs calls) :=
  beginsAhead_bind (beginsAhead_operand level) fun start t ht =>
    begins_accesses level start t bangs calls ht

theorem prefixStep_parenthesis {c : Cursor} {r : List Char} (h : c.gap.rest = '(' :: r) :
    prefixStep level c = some (none, c) := by
  unfold prefixStep
  rw [ahead_bind, startAhead_bind, h]
  rfl

theorem seesWord_parenthesis {c : Cursor} {r : List Char} (h : c.gap.rest = '(' :: r) {s : String}
    (hs : s ≠ "") : seesWord s c = some (false, c) := by
  unfold seesWord
  rw [ahead_bind, h]
  have hword : wordAt ('(' :: r) = "" := rfl
  rw [hword, decide_eq_false hs.symm]
  rfl

theorem many_none {α : Type} {step : Parser (Option α)} {c : Cursor} (h : step c = some (none, c))
    (fuel : Nat) (found : List α) : many step fuel found c = some (found.reverse, c) := by
  cases fuel with
  | zero => rfl
  | succ fuel =>
    rw [many]
    change (step c).bind _ = _
    rw [h]
    rfl

theorem beginsAhead_unary (bangs : Bool) : BeginsAhead (unary level bangs) := by
  intro c r t c' hc ht
  unfold unary at ht
  obtain ⟨before, d, hbefore, ht⟩ := bind_eq_some.mp ht
  rw [many_none (prefixStep_parenthesis level hc)] at hbefore
  cases hbefore
  obtain ⟨await, d, hawait, ht⟩ := bind_eq_some.mp ht
  rw [seesWord_parenthesis hc (by decide)] at hawait
  cases hawait
  obtain ⟨innermost, d, hinner, ht⟩ := bind_eq_some.mp ht
  cases ht
  exact beginsAhead_accessRule level _ _ c r _ _ hc hinner

theorem beginsAhead_binaryRule (least : Nat) (inner : Bool) :
    BeginsAhead (binaryRule level least inner) :=
  beginsAhead_bind (beginsAhead_unary level _) fun start _ ht =>
    yields_extend (fun t _ => beginsIf_binaryStep level start t least inner) level.fuel ht

theorem beginsAhead_conditional (h : BeginsAhead (level.read (.binary 0 false))) :
    BeginsAhead (conditional level) := by
  refine beginsAhead_bind h fun start t ht => yields_bind' fun cs => ?_
  split
  · exact yields_pure ht
  · split
    · exact yields_orElse (begins_branches level start t _) (begins_branches level start t _)
    · exact begins_branches level start t _
  · exact yields_pure ht

theorem beginsAhead_plainAssignment (h : BeginsAhead (level.read (.binary 0 false))) :
    BeginsAhead (plainAssignment level) := by
  refine beginsAhead_bind (beginsAhead_conditional level h) fun start t ht => ?_
  split
  · refine yields_bind' fun cs => ?_
    dsimp only
    split
    · exact yields_bind' fun _ => yields_bind' fun _ => begins_nodeFrom _ (by decide)
    · split
      · exact yields_bind' fun _ => yields_bind' fun _ => begins_nodeFrom _ (by decide)
      · exact yields_pure ht
  · exact yields_pure ht

theorem beginsAhead_arrowWithList : BeginsAhead (arrowWithList level) := by
  refine beginsAhead_of_begins fun start => yields_bind' fun _ => yields_bind' fun list =>
    yields_bind' fun newline => ?_
  dsimp only
  split
  · exact yields_bind' fun _ => begins_arrowFrom level start _
  · exact begins_arrowFrom level start _

theorem arrow?_begins {results : Bool} {c c' : Cursor} {r : List Char} {found : Option Syntax}
    (hc : c.gap.rest = '(' :: r) (h : arrow? level results c = some (found, c')) :
    (found = none → c' = c) ∧ ∀ t ∈ found, t.BeginsAt c.gap.position := by
  unfold arrow? at h
  rw [ahead_bind, hc] at h
  have hopen : (if beginsParameters (Cursor.gap ⟨r, 0, [], .tsx⟩).rest &&
      arrowBehind (c.dialect.hasTypes && results) ('(' :: r) then attempt (arrowWithList level)
    else pure none : Parser (Option Syntax)) c = some (found, c') := h
  clear h
  split at hopen
  · unfold attempt at hopen
    split at hopen
    · next t d ht =>
      cases hopen
      refine ⟨nofun, fun u hu => ?_⟩
      cases hu
      exact beginsAhead_arrowWithList level c r t _ hc ht
    · cases hopen
      exact ⟨fun _ => rfl, nofun⟩
  · cases hopen
    exact ⟨fun _ => rfl, nofun⟩

theorem beginsAhead_assignmentRule (h : BeginsAhead (level.read (.binary 0 false)))
    (results : Bool) :
    BeginsAhead (assignmentRule level results) := by
  intro c r t c' hc ht
  unfold assignmentRule at ht
  obtain ⟨found, d, hfound, ht⟩ := bind_eq_some.mp ht
  obtain ⟨hsame, hbegins⟩ := arrow?_begins level hc hfound
  cases found with
  | some f =>
    cases ht
    exact hbegins t rfl
  | none =>
    rw [hsame rfl] at ht
    obtain ⟨word, d, hword, ht⟩ := bind_eq_some.mp ht
    rw [seesWord_parenthesis hc (by decide)] at hword
    cases hword
    obtain ⟨dialect, d, hd, ht⟩ := bind_eq_some.mp ht
    cases hd
    obtain ⟨angle, d, hangle, ht⟩ := bind_eq_some.mp ht
    have hsees : sees "<" c = some (false, c) := by
      unfold sees
      rw [ahead_bind, hc]
      rfl
    rw [hsees] at hangle
    cases hangle
    rw [Bool.and_false] at ht
    exact beginsAhead_plainAssignment level h c r t c' hc ht

theorem beginsAhead_expressionRule (h : BeginsAhead (level.read .assignment)) :
    BeginsAhead (expressionRule level) := by
  refine beginsAhead_bind h fun start t ht => yields_bind' fun comma => ?_
  split
  · exact yields_bind' fun _ => begins_nodeFrom _ (by decide)
  · exact yields_pure ht

end Ahead

theorem beginsAhead_failure : BeginsAhead failure := nofun

theorem beginsAhead_read_binary (fuel least : Nat) (inner : Bool) :
    BeginsAhead (readRule fuel (.binary least inner)) := by
  cases fuel with
  | zero => exact beginsAhead_failure
  | succ fuel => exact beginsAhead_binaryRule ⟨fuel, readRule fuel⟩ least inner

theorem beginsAhead_read_assignment (fuel : Nat) : BeginsAhead (readRule fuel .assignment) := by
  cases fuel with
  | zero => exact beginsAhead_failure
  | succ fuel =>
    exact beginsAhead_assignmentRule ⟨fuel, readRule fuel⟩
      (beginsAhead_read_binary fuel 0 false) true

theorem beginsAhead_read_expression (fuel : Nat) : BeginsAhead (readRule fuel .expression) := by
  cases fuel with
  | zero => exact beginsAhead_failure
  | succ fuel =>
    exact beginsAhead_expressionRule ⟨fuel, readRule fuel⟩ (beginsAhead_read_assignment fuel)

/-- A statement that opens with a parenthesis is an expression. -/
theorem read_statement_parenthesis {fuel : Nat} {c c' : Cursor} {r : List Char} {t : Syntax}
    (hc : c.gap.rest = '(' :: r) (h : readRule fuel .statement c = some (t, c')) :
    ∃ stop x, t = .node "expression_statement" c.gap.position stop none true false [x] ∧
      x.BeginsAt c.gap.position := by
  cases fuel with
  | zero => cases h
  | succ fuel =>
    change statementRule ⟨fuel, readRule fuel⟩ c = some (t, c') at h
    unfold statementRule at h
    rw [startAhead_bind, ahead_bind, hc] at h
    change expressionStatement ⟨fuel, readRule fuel⟩ c = some (t, c') at h
    unfold expressionStatement at h
    rw [startAhead_bind] at h
    obtain ⟨x, d, hx, h⟩ := bind_eq_some.mp h
    have hbegins := beginsAhead_read_expression fuel c r x d hc hx
    split at h
    · obtain ⟨_, _, hfail, -⟩ := bind_eq_some.mp h
      cases hfail
    · obtain ⟨_, d, -, h⟩ := bind_eq_some.mp h
      cases h
      exact ⟨_, x, rfl, hbegins⟩

section Program

theorem many_extends {α : Type} {step : Parser (Option α)} {fuel : Nat} {found list : List α}
    {c c' : Cursor} (h : many step fuel found c = some (list, c')) :
    ∃ more, list = found.reverse ++ more := by
  induction fuel generalizing found c with
  | zero =>
    cases h
    exact ⟨[], (List.append_nil _).symm⟩
  | succ fuel ih =>
    obtain ⟨next, d, -, h⟩ := bind_eq_some.mp h
    cases next with
    | none =>
      cases h
      exact ⟨[], (List.append_nil _).symm⟩
    | some x =>
      obtain ⟨more, rfl⟩ := ih h
      exact ⟨x :: more, by simp⟩

/-- The first node of a source that opens with a parenthesis: an expression, or all of it is one
error. -/
theorem program_parenthesis {fuel : Nat} {r : List Char} {dialect : Dialect} {nodes : List Syntax}
    {c' : Cursor} (h : program (fuel + 1) ⟨'(' :: r, 0, [], dialect⟩ = some (nodes, c')) :
    (∃ stop, nodes = [.node "ERROR" 0 stop none true false []]) ∨
    ∃ stop x more, nodes = .node "expression_statement" 0 stop none true false [x] :: more ∧
      x.BeginsAt 0 := by
  obtain ⟨first, c, hfirst, h⟩ := bind_eq_some.mp h
  cases hfirst
  obtain ⟨statements, d, hstatements, h⟩ := bind_eq_some.mp h
  cases hread : readRule (fuel + 1) .statement ⟨'(' :: r, 0, [], dialect⟩ with
  | none =>
    have hstep : (do
        if (← ahead).isEmpty then return none
        attempt (readRule (fuel + 1) .statement) : Parser (Option Syntax))
          ⟨'(' :: r, 0, [], dialect⟩ = some (none, ⟨'(' :: r, 0, [], dialect⟩) := by
      change attempt (readRule (fuel + 1) .statement) ⟨'(' :: r, 0, [], dialect⟩ = _
      rw [attempt, hread]
    rw [many_none hstep] at hstatements
    cases hstatements
    cases h
    exact .inl ⟨_, rfl⟩
  | some found =>
    obtain ⟨t, d'⟩ := found
    obtain ⟨next, e, hnext, hstatements⟩ := bind_eq_some.mp hstatements
    change attempt (readRule (fuel + 1) .statement) ⟨'(' :: r, 0, [], dialect⟩ = _ at hnext
    rw [attempt, hread] at hnext
    cases hnext
    obtain ⟨more, rfl⟩ := many_extends hstatements
    obtain ⟨stop, x, rfl, hx⟩ := read_statement_parenthesis rfl hread
    obtain ⟨rest, e, hrest, h⟩ := bind_eq_some.mp h
    cases hrest
    split at h
    · cases h
      exact .inr ⟨stop, x, more, rfl, hx⟩
    · cases h
      exact .inr ⟨stop, x, more ++ [_], rfl, hx⟩

end Program

section Weave
variable {comments : List Syntax} {t : Syntax}

@[simp] theorem kind_weave : (weave comments t).kind = t.kind := by
  cases t
  rfl

@[simp] theorem isNamed_weave : (weave comments t).isNamed = t.isNamed := by
  cases t
  rfl

theorem children_weave : (weave comments t).children = weaveAll comments t.children := by
  cases t
  rfl

mutual

theorem weave_nil (t : Syntax) : weave [] t = t := by
  cases t with
  | node kind start stop field named missing children => rw [weave, weaveAll_nil children]

theorem weaveAll_nil (list : List Syntax) : weaveAll [] list = list := by
  cases list with
  | nil => rfl
  | cons t rest =>
    rw [weaveAll]
    simp [weaveAll_nil rest]

end

def AreComments (list : List Syntax) : Prop :=
  ∀ t ∈ list, t.kind = "comment" ∧ t.isNamed ∧ 0 < t.stop

theorem areComments_map_node (list : List Comment) : AreComments (list.map Comment.node) := by
  intro t ht
  obtain ⟨c, -, rfl⟩ := List.mem_map.mp ht
  refine ⟨rfl, rfl, ?_⟩
  rw [Comment.node, Syntax.stop]
  omega

/-- No comment comes before what begins with the source. -/
theorem weaveAll_cons_of_start (hc : AreComments comments) (h : t.start = 0) (rest : List Syntax) :
    ∃ inside behind, AreComments inside ∧ AreComments behind ∧
      weaveAll comments (t :: rest) = weave inside t :: weaveAll behind rest := by
  have hbefore : (comments.takeWhile fun c => c.stop ≤ t.start) = [] := by
    cases comments with
    | nil => rfl
    | cons c comments =>
      have hstop := (hc c List.mem_cons_self).2.2
      rw [List.takeWhile_cons_of_neg]
      simp only [h, decide_eq_true_eq]
      omega
  have hothers (list : List Syntax) (hlist : ∀ t ∈ list, t ∈ comments) : AreComments list :=
    fun t ht => hc t (hlist t ht)
  refine ⟨comments.takeWhile fun c => c.stop ≤ t.stop,
    comments.drop (comments.takeWhile fun c => c.stop ≤ t.stop).length,
    hothers _ fun u hu => (List.takeWhile_sublist _).mem hu,
    hothers _ fun u hu => List.mem_of_mem_drop hu, ?_⟩
  rw [weaveAll, hbefore, List.length_nil, List.drop_zero]
  split
  · next hinside => rw [hinside, weave_nil, List.nil_append]
  · rfl

theorem errorCount_pos_of_kind (h : t.kind = "ERROR") : 0 < t.errorCount := by
  cases t with
  | node kind start stop field named missing children =>
    have hkind : kind = "ERROR" := h
    rw [Syntax.errorCount, if_pos (.inl hkind)]
    omega

/-- A statement with its expression in front, and nothing but comments behind. -/
structure IsStatementOf (s x : Syntax) : Prop where
  kind_eq : s.kind = "expression_statement"
  named : s.isNamed
  children_eq : ∃ behind, s.children = x :: behind ∧ AreComments behind
  part_named : x.isNamed
  part_kind_ne : x.kind ≠ "comment"

theorem IsStatementOf.namedChildren_eq {s x : Syntax} (h : IsStatementOf s x) :
    ∃ behind, s.namedChildren = x :: behind := by
  obtain ⟨behind, hchildren, -⟩ := h.children_eq
  rw [Syntax.namedChildren, hchildren, List.filter_cons_of_pos h.part_named]
  exact ⟨_, rfl⟩

theorem IsStatementOf.content_eq {s x : Syntax} (h : IsStatementOf s x) : s.content = [x] := by
  obtain ⟨behind, hchildren, hbehind⟩ := h.children_eq
  have hnone : (behind.filter Syntax.isNamed).filter (·.kind ≠ "comment") = [] := by
    rw [List.filter_eq_nil_iff]
    intro c hc
    simp [(hbehind c (List.mem_filter.mp hc).1).1]
  rw [Syntax.content, Syntax.namedChildren, hchildren, List.filter_cons_of_pos h.part_named,
    List.filter_cons_of_pos (by simp [h.part_kind_ne]), hnone]

/-- A source that opens with a parenthesis and holds no error begins with an expression
statement. -/
theorem parse_parenthesis {dialect : Dialect} {r : List Char}
    (h : (parse dialect ('(' :: r)).errorCount = 0) :
    ∃ s x others, (parse dialect ('(' :: r)).children = s :: others ∧ IsStatementOf s x := by
  unfold parse at h ⊢
  split at h
  · cases h
  · next nodes c hprogram =>
    have hcomments := areComments_map_node c.comments.reverse
    obtain ⟨stop, rfl⟩ | ⟨stop, x, more, rfl, hx⟩ := program_parenthesis hprogram
    · obtain ⟨inside, behind, -, -, hweave⟩ :=
        weaveAll_cons_of_start (t := .node "ERROR" 0 stop none true false []) hcomments rfl []
      have hpos := errorCount_pos_of_kind (t := weave inside (.node "ERROR" 0
          stop none true false []))
        kind_weave
      rw [weave, hweave, Syntax.errorCount, Syntax.errorCountOfAll] at h
      omega
    · obtain ⟨inside, behind, hinside, -, hweave⟩ := weaveAll_cons_of_start
        (t := .node "expression_statement" 0 stop none true false [x]) hcomments rfl more
      obtain ⟨inner, after, -, hafter, hx'⟩ := weaveAll_cons_of_start hinside hx.start_eq []
      refine ⟨weave inside (.node "expression_statement" 0 stop none true false [x]), weave inner x,
        weaveAll behind more, ?_, kind_weave, isNamed_weave, ⟨after, ?_, hafter⟩, ?_, ?_⟩
      · rw [children_weave]
        exact hweave
      · rw [children_weave]
        exact hx'
      · rw [isNamed_weave]
        exact hx.named
      · rw [kind_weave]
        exact hx.kind_ne

end Weave

end Grammar

end StateCoverage
