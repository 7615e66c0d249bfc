import StateCoverage.Lowering.Statement
import StateCoverage.Proofs.Expr.Extraction
import StateCoverage.Proofs.Expr.Outcome
import StateCoverage.Proofs.Lowering.Expression
import StateCoverage.Proofs.Text.Utf8

/-!
Templates from source to outcome. The quasis and the substitutions of a template tile the source
between its backticks. Whatever the tree, a lowered template has a quasi on either side of each
substitution, so resolution and extraction lose none.
-/
namespace StateCoverage

namespace Syntax

/-- The substitutions of a template stand as a grammar puts them into the text `cs`: one behind the
other between the backticks, from one place between characters to another. -/
structure Placed (cs : List Char) (t : Syntax) : Prop where
  ordered : t.substitutions.Pairwise fun s s' => s.stop ≤ s'.start
  inside : ∀ s ∈ t.substitutions, t.start < s.start ∧ s.start ≤ s.stop ∧ s.stop < t.stop
  between : ∀ s ∈ t.substitutions, Between cs s.start ∧ Between cs s.stop

end Syntax

namespace Source

theorem length_quasisFrom (source : Source) (stop cursor : Nat) (list : List Syntax) :
    (source.quasisFrom stop cursor list).length = list.length + 1 := by
  induction list generalizing cursor with
  | nil => rfl
  | cons s rest ih => rw [quasisFrom, List.length_cons, ih, List.length_cons]

theorem length_quasisOf (source : Source) (t : Syntax) :
    (source.quasisOf t).length = t.substitutions.length + 1 :=
  source.length_quasisFrom _ _ _

/-- The text from the cursor on, cut at nodes that stand in order, and put together again. -/
theorem weave_quasisFrom {cs : List Char} {stop cursor : Nat} {list : List Syntax}
    (hordered : list.Pairwise fun s s' => s.stop ≤ s'.start)
    (hinside : ∀ s ∈ list, cursor ≤ s.start ∧ s.start ≤ s.stop ∧ s.stop ≤ stop)
    (hbetween : ∀ s ∈ list, Between cs s.start ∧ Between cs s.stop) :
    Text.weave ((ofBytes (Utf8.encode cs)).quasisFrom stop cursor list)
      (list.map (ofBytes (Utf8.encode cs)).textOf) =
        (ofBytes (Utf8.encode cs)).slice cursor stop := by
  induction list generalizing cursor with
  | nil =>
    rw [quasisFrom, List.map_nil, Text.weave, Text.weave, List.append_nil]
    by_cases h : cursor ≤ stop
    · rw [Nat.max_eq_right h]
    · rw [Nat.max_eq_left (by omega), slice_of_le _ (Nat.le_refl cursor),
        slice_of_le _ (by omega)]
  | cons s rest ih =>
    obtain ⟨hnext, hrest⟩ := List.pairwise_cons.mp hordered
    obtain ⟨hcursor, hs, hstop⟩ := hinside s List.mem_cons_self
    obtain ⟨hstart, hend⟩ := hbetween s List.mem_cons_self
    have htail := ih hrest
      (fun s' hs' => ⟨hnext s' hs', (hinside s' (List.mem_cons_of_mem s hs')).2⟩)
      (fun s' hs' => hbetween s' (List.mem_cons_of_mem s hs'))
    rw [quasisFrom, List.map_cons, Text.weave, htail, textOf, slice_append hstart hcursor hs,
      slice_append hend (Nat.le_trans hcursor hs) hstop]

theorem weave_quasisOf {cs : List Char} {t : Syntax} (h : t.Placed cs) :
    Text.weave ((ofBytes (Utf8.encode cs)).quasisOf t)
      (t.substitutions.map (ofBytes (Utf8.encode cs)).textOf) =
        (ofBytes (Utf8.encode cs)).slice (t.start + 1) (t.stop - 1) := by
  refine weave_quasisFrom h.ordered (fun s hs => ?_) h.between
  have := h.inside s hs
  omega

end Source

namespace Expr

/-- A template has one quasi more than substitutions, and a static access has a name as its
property. -/
def WellFormed : Expr → Prop
  | .template quasis substitutions => quasis.length = substitutions.length + 1
  | .member _ property => ∃ x, property = .name x
  | _ => True

/-- Every expression in the expression is well-formed. -/
def Regular (e : Expr) : Prop := ∀ p, Part p e → p.WellFormed

theorem regular_of_children {e : Expr} (hself : e.WellFormed)
    (hchildren : ∀ c ∈ e.children, c.Regular) : e.Regular := by
  intro p hp
  cases hp with
  | self => exact hself
  | child hc hp => exact hchildren _ hc p hp

theorem regular_string (value : Text) : (Expr.string value).Regular :=
  regular_of_children trivial (by simp [children])

theorem regular_name (x : Text) : (Expr.name x).Regular :=
  regular_of_children trivial (by simp [children])

theorem regular_other (kind : String) (source : Text) : (Expr.other kind source).Regular :=
  regular_of_children trivial (by simp [children])

theorem unresolved_interleave {quasis : List Text} {rs : List Resolution}
    (h : rs.length ≤ quasis.length) :
    (Resolution.interleave quasis rs).unresolved = rs.flatMap (·.unresolved) := by
  induction quasis generalizing rs with
  | nil =>
    obtain rfl := List.length_eq_zero_iff.mp (Nat.le_zero.mp h)
    rfl
  | cons quasi quasis ih =>
    cases rs with
    | nil =>
      have hnone : ([] : List Resolution).length ≤ quasis.length := Nat.zero_le quasis.length
      exact ih hnone
    | cons r rest =>
      rw [Resolution.interleave, List.flatMap_cons]
      exact congrArg _ (ih (Nat.le_of_succ_le_succ h))

/-- With a quasi for each substitution, the outcome of a template holds the outcome of every
substitution once, in its place. -/
theorem resolve_template {quasis : List Text} {substitutions : List Expr}
    (h : substitutions.length ≤ quasis.length) (table : Table) :
    resolve table (.template quasis substitutions) =
      ⟨Text.weave quasis (substitutions.map fun e => (resolve table e).text),
        substitutions.flatMap fun e => (resolve table e).unresolved⟩ := by
  have hlength : (resolveAll table substitutions).length ≤ quasis.length := by
    rw [resolveAll_eq_map, List.length_map]
    exact h
  have hgaps := unresolved_interleave hlength
  rw [resolveAll_eq_map, List.flatMap_map] at hgaps
  rw [← text_resolve_template, ← hgaps, resolve, resolveAll_eq_map]

theorem extract_template {quasis : List Text} {substitutions : List Expr}
    (h : substitutions.length ≤ quasis.length) (table : Table) :
    extract table (.template quasis substitutions) =
      if ∀ e ∈ substitutions, (resolve table e).isComplete then
        .string (Text.weave quasis (substitutions.map fun e => (resolve table e).text))
      else .unresolved := by
  rw [(Textual.template quasis substitutions).extract_eq, resolve_template h]
  refine if_congr ?_ rfl rfl
  simp [Resolution.isComplete]

end Expr

section Lower
variable {source : Source} {t : Syntax}

theorem regular_substituted {content : Option Syntax}
    (h : ∀ c, content = some c → (c.lower source).Regular) :
    (source.substituted content).Regular := by
  cases content with
  | none => exact Expr.regular_other _ _
  | some c => exact h c rfl

theorem regular_keyOf (source : Source) (key : Syntax) : (source.keyOf key).Regular := by
  unfold Source.keyOf
  split
  · exact Expr.regular_name _
  · split
    · exact Expr.regular_string _
    · exact Expr.regular_other _ _

theorem regular_of_mem_entry {entry : Entry} {c : Expr}
    (h : ∀ v, entry.value? = some v → (v.lower source).Regular)
    (hc : c ∈ [(entry.lower source).1, (entry.lower source).2]) : c.Regular := by
  cases entry with
  | pair key value =>
    rcases List.mem_pair.mp hc with rfl | rfl
    · exact regular_keyOf source key
    · exact h value rfl
  | shorthand key =>
    rcases List.mem_pair.mp hc with rfl | rfl <;> exact Expr.regular_name _

/-- Whatever a tree looks like, its expression is regular. -/
theorem regular_lower (source : Source) (t : Syntax) : (t.lower source).Regular := by
  induction t using Syntax.lower.induct with
  | case1 t ih =>
  cases hshape : t.shape with
  | parenthesized inner =>
    rw [lower_of_shape hshape, Shape.assemble]
    exact ih inner (by simp [hshape, Shape.parts])
  | string =>
    rw [lower_of_shape hshape, Shape.assemble]
    exact Expr.regular_string _
  | template substitutions =>
    rw [lower_of_shape hshape, assemble_template]
    refine Expr.regular_of_children ?_ fun c hc => ?_
    · rw [Expr.WellFormed, source.length_quasisOf, List.length_map, substitutions_of_shape hshape,
        List.length_map]
    · obtain ⟨content, hcontent, rfl⟩ := List.mem_map.mp hc
      refine regular_substituted fun c hc => ih c ?_
      rw [hshape, Shape.parts]
      exact List.mem_filterMap.mpr ⟨content, hcontent, hc⟩
  | name =>
    rw [lower_of_shape hshape, Shape.assemble]
    exact Expr.regular_name _
  | member target property =>
    have htarget := ih target (by simp [hshape, Shape.parts])
    rw [lower_of_shape hshape, Shape.assemble]
    refine Expr.regular_of_children ⟨source.textOf property, rfl⟩ ?_
    simp [Expr.children, htarget, Expr.regular_name]
  | index target key =>
    have htarget := ih target (by simp [hshape, Shape.parts])
    have hkey := ih key (by simp [hshape, Shape.parts])
    rw [lower_of_shape hshape, Shape.assemble]
    refine Expr.regular_of_children trivial ?_
    simp [Expr.children, htarget, hkey]
  | conditional test consequent alternate =>
    have htest := ih test (by simp [hshape, Shape.parts])
    have hconsequent := ih consequent (by simp [hshape, Shape.parts])
    have halternate := ih alternate (by simp [hshape, Shape.parts])
    rw [lower_of_shape hshape, Shape.assemble]
    refine Expr.regular_of_children trivial ?_
    simp [Expr.children, htest, hconsequent, halternate]
  | call callee arguments =>
    have hcallee := ih callee (by simp [hshape, Shape.parts])
    have harguments : ∀ a ∈ arguments, (a.lower source).Regular := fun a ha =>
      ih a (by simp [hshape, Shape.parts, ha])
    rw [lower_of_shape hshape, assemble_call]
    refine Expr.regular_of_children trivial ?_
    simpa [Expr.children, hcallee] using harguments
  | object entries =>
    rw [lower_of_shape hshape, assemble_object]
    refine Expr.regular_of_children trivial fun c hc => ?_
    obtain ⟨p, hp, hc⟩ := List.mem_flatMap.mp hc
    obtain ⟨entry, hentry, rfl⟩ := List.mem_map.mp hp
    refine regular_of_mem_entry (fun v hv => ih v ?_) hc
    rw [hshape, Shape.parts]
    exact List.mem_filterMap.mpr ⟨entry, hentry, hv⟩
  | assertion operand =>
    have hoperand := ih operand (by simp [hshape, Shape.parts])
    rw [lower_of_shape hshape, Shape.assemble]
    refine Expr.regular_of_children trivial ?_
    simpa [Expr.children] using hoperand
  | other =>
    rw [lower_of_shape hshape, Shape.assemble]
    exact Expr.regular_other _ _

def Statement.expressions : Statement → List Expr
  | .declaration d | .exported d => d.declarators.filterMap (·.initializer)
  | .exportDefault e => [e]
  | .importing _ _ => []

theorem lower_of_mem_declarationOf {e : Expr}
    (h : e ∈ (source.declarationOf t).declarators.filterMap (·.initializer)) :
    ∃ c, e = Syntax.lower source c := by
  obtain ⟨d, hd, hinit⟩ := List.mem_filterMap.mp h
  obtain ⟨declarator, -, rfl⟩ := List.mem_map.mp hd
  obtain ⟨c, -, rfl⟩ := Option.map_eq_some_iff.mp hinit
  exact ⟨c, rfl⟩

theorem lower_of_mem_expressions {st : Statement} {e : Expr} (h : source.statement? t = some st)
    (he : e ∈ st.expressions) : ∃ c, e = Syntax.lower source c := by
  unfold Source.statement? at h
  split at h
  · cases h
    cases he
  · split at h
    · cases h
      exact lower_of_mem_declarationOf he
    · split at h
      · split at h
        · cases h
          exact lower_of_mem_declarationOf he
        · obtain ⟨c, -, rfl⟩ := Option.map_eq_some_iff.mp h
          exact ⟨c, List.mem_singleton.mp he⟩
      · cases h

/-- `e` is read from the source: it is the expression of some tree, or a statement of some file
holds it. -/
inductive Lowered (source : Source) : Expr → Prop
  | expression (t : Syntax) : Lowered source (t.lower source)
  | statement {root : Syntax} {body : List Statement} {st : Statement} {e : Expr} :
      root.statements? source = some body → st ∈ body → e ∈ st.expressions → Lowered source e

theorem Lowered.regular {e : Expr} (h : Lowered source e) : e.Regular := by
  cases h with
  | expression t => exact regular_lower source t
  | statement hbody hst he =>
    simp only [Syntax.statements?] at hbody
    split at hbody
    · cases hbody
      obtain ⟨node, -, hnode⟩ := List.mem_filterMap.mp hst
      obtain ⟨c, rfl⟩ := lower_of_mem_expressions hnode he
      exact regular_lower source c
    · cases hbody

/-- No text of a template is lost or repeated.

In a source of characters, where the substitutions stand in order and between characters, a template
becomes one expression for each substitution, with a quasi on either side of each. The quasis with
the source texts of the substitutions in between are the source between the backticks, character
for character.

Whatever the tree and the source, in what is read from it each template has one quasi more than
substitutions, and each static access a name for its property. So the outcome of a template holds
the text and the gaps of each substitution once and in its place. A binding holds the same text
when no substitution has a gap. The reading for a binding ends at the first that has one, and
nothing is bound then. -/
theorem template_text_kept :
    (∀ (cs : List Char) (t : Syntax), t.kind = "template_string" → t.Placed cs →
      let source := Source.ofBytes (Utf8.encode cs)
      ∃ quasis substitutions, t.lower source = .template quasis substitutions ∧
        substitutions = t.substitutions.map (fun s => source.substituted s.content.head?) ∧
        quasis.length = substitutions.length + 1 ∧
        Text.weave quasis (t.substitutions.map source.textOf) =
          source.slice (t.start + 1) (t.stop - 1) ∧
        ∀ before inner after, cs = before ++ inner ++ after →
          t.start + 1 = (Utf8.encode before).length →
          t.stop - 1 = (Utf8.encode (before ++ inner)).length →
          Text.weave quasis (t.substitutions.map source.textOf) = inner.map .scalar) ∧
    ∀ (source : Source) (e : Expr), Lowered source e →
      (∀ target property, Expr.Part (.member target property) e → ∃ x, property = .name x) ∧
      ∀ quasis substitutions, Expr.Part (.template quasis substitutions) e →
        quasis.length = substitutions.length + 1 ∧
        ∀ table,
          Expr.resolve table (.template quasis substitutions) =
            ⟨Text.weave quasis (substitutions.map fun e => (Expr.resolve table e).text),
              substitutions.flatMap fun e => (Expr.resolve table e).unresolved⟩ ∧
          Expr.extract table (.template quasis substitutions) =
            if ∀ e ∈ substitutions, (Expr.resolve table e).isComplete then
              .string (Text.weave quasis (substitutions.map fun e => (Expr.resolve table e).text))
            else .unresolved := by
  constructor
  · intro cs t hkind hplaced source
    have htiles := Source.weave_quasisOf hplaced
    refine ⟨_, _, lower_of_template hkind, rfl, ?_, htiles, ?_⟩
    · rw [source.length_quasisOf, List.length_map]
    · rintro before inner after rfl hstart hstop
      rw [htiles, hstart, hstop, Source.slice_encode]
  · intro source e he
    refine ⟨fun target property => he.regular _, fun quasis substitutions hp => ?_⟩
    have hlength := he.regular _ hp
    rw [Expr.WellFormed] at hlength
    have hle : substitutions.length ≤ quasis.length := by omega
    exact ⟨hlength, fun table => ⟨Expr.resolve_template hle table, Expr.extract_template hle table⟩⟩

/-- ``x`é${}${a}ü` `` -/
def accented : List Char :=
  ['x', '`', 'é', '$', '\x7b', '\x7d', '$', '\x7b', 'a', '\x7d', 'ü', '`']

/-- The template in it. Its two substitutions touch, and the first is empty. -/
def accentedTemplate : Syntax :=
  .node "template_string" 1 14 none true false
    [.node "string_fragment" 2 4 none true false [],
      .node "template_substitution" 4 7 none true false [],
      .node "template_substitution" 7 11 none true false
        [.node "identifier" 9 10 none true false []],
      .node "string_fragment" 11 13 none true false []]

theorem accentedTemplate_placed : accentedTemplate.Placed accented := by
  have h₄ : Between accented 4 := ⟨accented.take 3, accented.drop 3, rfl, rfl⟩
  have h₇ : Between accented 7 := ⟨accented.take 6, accented.drop 6, rfl, rfl⟩
  have h₁₁ : Between accented 11 := ⟨accented.take 10, accented.drop 10, rfl, rfl⟩
  refine ⟨by decide, by decide, fun s hs => ?_⟩
  obtain rfl | rfl := List.mem_pair.mp hs
  · exact ⟨h₄, h₇⟩
  · exact ⟨h₇, h₁₁⟩

theorem accentedTemplate_text_kept :
    accentedTemplate.kind = "template_string" ∧ accentedTemplate.Placed accented ∧
    ∃ quasis substitutions, accentedTemplate.lower (.ofBytes (Utf8.encode accented)) =
        .template quasis substitutions ∧
      substitutions = [.other "template_substitution" [], .name (text "a")] ∧
      quasis.length = substitutions.length + 1 ∧
      Text.weave quasis [text "$\x7b\x7d", text "$\x7ba\x7d"] = text "é$\x7b\x7d$\x7ba\x7dü" := by
  obtain ⟨htiles, -⟩ := template_text_kept
  obtain ⟨quasis, substitutions, hlower, hparts, hlength, -, hinner⟩ :=
    htiles accented accentedTemplate rfl accentedTemplate_placed
  have hname : Source.textOf (.ofBytes (Utf8.encode accented))
      (.node "identifier" 9 10 none true false []) = text "a" := by
    decide +kernel
  have htexts : accentedTemplate.substitutions.map
        (Source.textOf (.ofBytes (Utf8.encode accented))) =
      [text "$\x7b\x7d", text "$\x7ba\x7d"] := by
    decide +kernel
  refine ⟨rfl, accentedTemplate_placed, quasis, substitutions, hlower, ?_, hlength, ?_⟩
  · rw [hparts, ← hname, ← lower_of_identifier rfl]
    rfl
  · rw [← htexts]
    exact hinner ['x', '`'] (accented.take 11 |>.drop 2) ['`'] rfl rfl rfl

end Lower

end StateCoverage
