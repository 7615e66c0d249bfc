import StateCoverage.Proofs.Expr.Opaque
import StateCoverage.Proofs.Lowering.Expression
import StateCoverage.Proofs.Lowering.Padding

/-!
Parentheses and comments do not show: what a tree resolves to stays the same when it is padded with
them.
-/
namespace StateCoverage

section Shape
open Syntax
variable {source source' : Source} {t t' : Syntax}

theorem blank_keyOf {key key' : Syntax} (h : SameToken source source' key key') :
    (source.keyOf key).blank = (source'.keyOf key').blank := by
  unfold Source.keyOf
  rw [← h.kind]
  split
  · next hkind => rw [h.text (by simp [hkind, spelled])]
  · split
    · next hkind => rw [Source.stringOf, Source.stringOf, h.text (by simp [hkind, spelled])]
    · rfl

/-- What a shape is made into is the same, if its parts are. -/
theorem blank_assemble {shape shape' : Shape}
    (h : Shape.Padded source source' t t' shape shape')
    (hparts : ∀ c c', c' ∈ shape'.parts → Syntax.Padded source source' .expression c c' →
      (c.lower source).blank = (c'.lower source').blank) :
    (shape.assemble source t fun c _ => c.lower source).blank =
      (shape'.assemble source' t' fun c _ => c.lower source').blank := by
  cases h with
  | @parenthesized _ inner' h => exact hparts _ _ (List.mem_singleton_self inner') h
  | string h => simp only [Shape.assemble, Source.stringOf, h]
  | template hquasis h =>
    rw [assemble_template, assemble_template, Expr.blank, Expr.blank, hquasis,
      Expr.blankAll_eq_map, Expr.blankAll_eq_map, List.map_map, List.map_map]
    refine congrArg _ (map_eq_map_of_forall₂ h fun content content' hmem hrel => ?_)
    cases hrel with
    | none => rfl
    | some hc => exact hparts _ _ (List.mem_filterMap.mpr ⟨_, hmem, rfl⟩) hc
  | name h => simp only [Shape.assemble, h]
  | member h hproperty =>
    simp only [Shape.assemble, Expr.blank, hproperty, hparts _ _ (by simp [Shape.parts]) h]
  | index h hkey =>
    simp only [Shape.assemble, Expr.blank, hparts _ _ (by simp [Shape.parts]) h,
      hparts _ _ (by simp [Shape.parts]) hkey]
  | conditional h hconsequent halternate =>
    simp only [Shape.assemble, Expr.blank, hparts _ _ (by simp [Shape.parts]) h,
      hparts _ _ (by simp [Shape.parts]) hconsequent,
      hparts _ _ (by simp [Shape.parts]) halternate]
  | call h harguments =>
    rw [assemble_call, assemble_call, Expr.blank, Expr.blank, hparts _ _ (by simp [Shape.parts]) h,
      Expr.blankAll_eq_map, Expr.blankAll_eq_map, List.map_map, List.map_map]
    refine congrArg _ (map_eq_map_of_forall₂ harguments fun c c' hmem hc => ?_)
    exact hparts _ _ (List.mem_cons_of_mem _ hmem) hc
  | object h =>
    rw [assemble_object, assemble_object, Expr.blank, Expr.blank, Expr.blankEntries_eq_map,
      Expr.blankEntries_eq_map, List.map_map, List.map_map]
    refine congrArg _ (map_eq_map_of_forall₂ h fun entry entry' hmem hrel => ?_)
    cases hrel with
    | pair hkey hc =>
      have hvalue := hparts _ _ (List.mem_filterMap.mpr ⟨_, hmem, rfl⟩) hc
      exact Prod.ext (blank_keyOf hkey) hvalue
    | shorthand h => simp only [Function.comp, Entry.lower, Prod.map, h]
  | assertion h => simp only [Shape.assemble, Expr.blank, hparts _ _ (by simp [Shape.parts]) h]
  | other h => simp only [Shape.assemble, Expr.blank, h]

end Shape

section Nesting

theorem foldl_max_le {list list' : List Nat} (h : List.Forall₂ (· ≤ ·) list list') {a a' : Nat}
    (ha : a ≤ a') : list.foldl max a ≤ list'.foldl max a' := by
  induction h generalizing a a' with
  | nil => exact ha
  | cons hb _ ih => exact ih (by omega)

theorem nesting_eq (t : Syntax) :
    t.nesting = (t.shape.parts.map Syntax.nesting).foldl max 0 + 1 := by
  rw [Syntax.nesting]
  exact congrArg (fun l => List.foldl max 0 l + 1) List.attach_map_val

theorem nesting_of_parenthesized {t inner : Syntax} (h : t.kind = "parenthesized_expression")
    (hinner : t.content = [inner]) : t.nesting = inner.nesting + 1 := by
  rw [nesting_eq, shape_of_parenthesized h hinner]
  simp [Shape.parts]

end Nesting

section Padded
open Syntax
variable {source source' : Source} {t t' : Syntax}

/-- Padding leaves what an expression is lowered to, the text of its opaque parts apart. -/
theorem blank_lower (h : Syntax.Padded source source' .expression t t') :
    (t.lower source).blank = (t'.lower source').blank := by
  induction t' using Syntax.lower.induct generalizing t with
  | case1 t' ih =>
  cases h with
  | @wrapped _ _ inner hkind hcontent h =>
    rw [lower_of_parenthesized hkind hcontent]
    exact ih inner (mem_parts_of_parenthesized hkind hcontent) h
  | bare h =>
    rw [lower_of_shape rfl, lower_of_shape rfl]
    exact blank_assemble (shape_padded h) fun c c' hc' hc => ih c' hc' hc

/-- Padding can only make expressions nest deeper. -/
theorem nesting_le (h : Syntax.Padded source source' .expression t t') :
    t.nesting ≤ t'.nesting := by
  induction t' using Syntax.lower.induct generalizing t with
  | case1 t' ih =>
  cases h with
  | @wrapped _ _ inner hkind hcontent h =>
    rw [nesting_of_parenthesized hkind hcontent]
    exact Nat.le_succ_of_le (ih inner (mem_parts_of_parenthesized hkind hcontent) h)
  | bare h =>
    rw [nesting_eq, nesting_eq]
    refine Nat.succ_le_succ (foldl_max_le ?_ (Nat.le_refl 0))
    rw [List.forall₂_map_left_iff, List.forall₂_map_right_iff]
    exact forall₂_imp_of_mem_right (shape_padded h).parts fun c c' hc' hc => ih c' hc' hc

/-- Parentheses and comments do not show. A tree and the same tree padded with them, each over its
own source, are lowered to the same expression up to the text of opaque parts. So both resolve to
the same text with the same gaps, and extract to the same value. The padded tree may nest deeper, so
only it can nest too deep to be read where the other does not. -/
theorem padding_invisible (h : Syntax.Padded source source' .expression t t') :
    (t.lower source).blank = (t'.lower source').blank ∧
    (∀ table, (t.lower source).resolve table = (t'.lower source').resolve table ∧
      (t.lower source).extract table = (t'.lower source').extract table) ∧
    t.nesting ≤ t'.nesting ∧
    ∀ e', t'.lower? source' = some e' → ∃ e, t.lower? source = some e ∧ e.blank = e'.blank := by
  have hblank := blank_lower h
  have hnesting := nesting_le h
  refine ⟨hblank, fun table => ⟨?_, ?_⟩, hnesting, fun e' he' => ?_⟩
  · rw [← Expr.resolve_blank, hblank, Expr.resolve_blank]
  · rw [← Expr.extract_blank, hblank, Expr.extract_blank]
  · simp only [Syntax.lower?] at he' ⊢
    split at he'
    · next hflat =>
      obtain rfl := Option.some.inj he'
      exact ⟨_, if_pos (Nat.le_trans hnesting hflat), hblank⟩
    · cases he'

def plainCall : Syntax :=
  .node "call_expression" 0 10 none true false
    [.node "member_expression" 0 8 (some "function") true false
      [.node "member_expression" 0 3 (some "object") true false
        [.node "identifier" 0 1 (some "object") true false [],
          .node "property_identifier" 2 3 (some "property") true false []],
        .node "property_identifier" 4 8 (some "property") true false []],
      .node "arguments" 8 10 (some "arguments") true false []]

def paddedCall : Syntax :=
  .node "call_expression" 0 18 none true false
    [.node "parenthesized_expression" 0 12 (some "function") true false
      [.node "member_expression" 1 11 none true false
        [.node "member_expression" 1 6 (some "object") true false
          [.node "parenthesized_expression" 1 4 (some "object") true false
            [.node "identifier" 2 3 none true false []],
            .node "property_identifier" 5 6 (some "property") true false []],
          .node "property_identifier" 7 11 (some "property") true false []]],
      .node "arguments" 12 18 (some "arguments") true false
        [.node "comment" 13 17 none true false []]]

theorem paddedCall_padded :
    Syntax.Padded (.ofBytes (Utf8.encode "a.b.trim()".toList))
      (.ofBytes (Utf8.encode "((a).b.trim)(/**/)".toList)) .expression plainCall paddedCall := by
  refine .bare (.node ⟨rfl, by decide⟩ (by decide) ?_)
  refine .kept rfl rfl (.wrapped rfl rfl ?_) (.kept rfl rfl ?_ (.nil _))
  · refine .bare (.node ⟨rfl, by decide⟩ (by decide) ?_)
    refine .kept rfl rfl (.bare (.node ⟨rfl, by decide⟩ (by decide) ?_))
      (.kept rfl rfl (.property (by decide +kernel)) (.nil _))
    refine .kept rfl rfl (.wrapped rfl rfl ?_)
      (.kept rfl rfl (.property (by decide +kernel)) (.nil _))
    exact .bare (.node ⟨rfl, fun _ => by decide +kernel⟩ (by decide) (.nil _))
  · exact .arguments rfl (.comment rfl (.inl rfl) (.nil _))

def sizes : Table := [(text "a", .object [(text "b", .string (text "p-1"))])]

theorem paddedCall_invisible :
    let source := Source.ofBytes (Utf8.encode "a.b.trim()".toList)
    let source' := Source.ofBytes (Utf8.encode "((a).b.trim)(/**/)".toList)
    Syntax.Padded source source' .expression plainCall paddedCall ∧
    (plainCall.lower source).blank = (paddedCall.lower source').blank ∧
    (plainCall.lower source).resolve sizes = (paddedCall.lower source').resolve sizes ∧
    (paddedCall.lower source').resolve sizes = .known (text "p-1") ∧
    (plainCall.lower source).extract sizes = (paddedCall.lower source').extract sizes ∧
    plainCall.nesting ≤ paddedCall.nesting := by
  obtain ⟨hblank, htables, hnesting, -⟩ := padding_invisible paddedCall_padded
  obtain ⟨hresolve, hextract⟩ := htables sizes
  exact ⟨paddedCall_padded, hblank, hresolve, by decide +kernel, hextract, hnesting⟩

end Padded

end StateCoverage
