import StateCoverage.Lowering.Expression
import StateCoverage.Proofs.List

/-!
Trees padded with parentheses and comments, wherever an expression stands in them. Each kind of node
finds its parts in a way of its own; padding changes none of these ways, so shapes correspond part
by part.
-/
namespace StateCoverage

namespace Syntax

/-- The part that a child plays in the meaning of its parent. -/
inductive Role where
  /-- It is an expression of its own. -/
  | expression
  /-- Its own children count in turn: a pair, a substitution, a template behind what is called. -/
  | node
  /-- It lists the arguments of a call. -/
  | arguments
  /-- Its text names a property. -/
  | property
  /-- It is the key of a pair. -/
  | key
  /-- It stands as it is: a bracket, a comment, a shorthand name. -/
  | token
  /-- Nothing of it is looked at. -/
  | ignored
deriving DecidableEq

/-- The part of a child of a node of kind `parent`. The list of arguments of a call is
`"arguments"` here, whatever its kind. -/
def role (parent : String) (c : Syntax) : Role :=
  match parent with
  | "parenthesized_expression" | "as_expression" | "satisfies_expression" | "non_null_expression"
  | "arguments" | "template_substitution" =>
    if c.isNamed ∧ c.kind ≠ "comment" then .expression else .token
  | "template_string" => if c.kind = "template_substitution" then .node else .token
  | "object" => if c.kind = "pair" then .node else .token
  | "pair" =>
    if c.field = some "value" then .expression else if c.field = some "key" then .key
    else .ignored
  | "member_expression" =>
    if c.field = some "object" then .expression else if c.field = some "property" then .property
    else .ignored
  | "subscript_expression" =>
    if c.field = some "object" ∨ c.field = some "index" then .expression else .ignored
  | "ternary_expression" =>
    if c.field = some "condition" ∨ c.field = some "consequence" ∨ c.field = some "alternative" then
      .expression
    else .ignored
  | "call_expression" =>
    if c.field = some "function" then .expression
    else if c.field = some "arguments" then
      if c.kind = "template_string" then .node else .arguments
    else .ignored
  | _ => .ignored

theorem role_template (c : Syntax) : role "template_string" c =
    if c.kind = "template_substitution" then .node else .token := rfl

theorem role_object (c : Syntax) :
    role "object" c = if c.kind = "pair" then .node else .token := rfl

theorem role_callArguments {c : Syntax} (h : c.field = some "arguments") :
    role "call_expression" c = if c.kind = "template_string" then .node else .arguments := by
  simp [role, h]

/-- The kinds of the nodes whose text is read. -/
def spelled : List String :=
  ["string", "identifier", "undefined", "property_identifier", "shorthand_property_identifier"]

/-- Two nodes of one kind, with the same text if that is read. -/
structure SameToken (source source' : Source) (t t' : Syntax) : Prop where
  kind : t.kind = t'.kind
  text : t.kind ∈ spelled → source.textOf t = source'.textOf t'

mutual

/-- `t'`, in `source'`, is `t`, in `source`, padded with parentheses and comments. An expression may
stand in parentheses, any number of times. -/
inductive Padded (source source' : Source) : Role → Syntax → Syntax → Prop
  | wrapped {t w inner : Syntax} : w.kind = "parenthesized_expression" → w.content = [inner] →
      Padded source source' .expression t inner → Padded source source' .expression t w
  | bare {t t' : Syntax} : Padded source source' .node t t' →
      Padded source source' .expression t t'
  | node {t t' : Syntax} : SameToken source source' t t' →
      (t.kind = "template_string" → source.quasisOf t = source'.quasisOf t') →
      PaddedAll source source' t.kind t.children t'.children → Padded source source' .node t t'
  | arguments {t t' : Syntax} : t.kind = t'.kind →
      PaddedAll source source' "arguments" t.children t'.children →
      Padded source source' .arguments t t'
  | property {t t' : Syntax} : source.textOf t = source'.textOf t' →
      Padded source source' .property t t'
  | key {t t' : Syntax} : SameToken source source' t t' → Padded source source' .key t t'
  | token {t t' : Syntax} : SameToken source source' t t' → Padded source source' .token t t'
  | ignored (t t' : Syntax) : Padded source source' .ignored t t'

/-- The children of a node of kind `parent`, padded. Comments may stand between them, though not in
the place of a part that is read. -/
inductive PaddedAll (source source' : Source) : String → List Syntax → List Syntax → Prop
  | nil (parent : String) : PaddedAll source source' parent [] []
  | comment {parent : String} {c : Syntax} {list list' : List Syntax} : c.kind = "comment" →
      (role parent c = .token ∨ role parent c = .ignored) →
      PaddedAll source source' parent list list' → PaddedAll source source' parent list (c :: list')
  | kept {parent : String} {c c' : Syntax} {list list' : List Syntax} :
      c.field = c'.field → c.isNamed = c'.isNamed → Padded source source' (role parent c) c c' →
      PaddedAll source source' parent list list' →
      PaddedAll source source' parent (c :: list) (c' :: list')

end

section Children
variable {source source' : Source} {parent : String} {list list' : List Syntax}

/-- Only what may stand in parentheses changes its kind. -/
theorem Padded.kind_eq {r : Role} {t t' : Syntax} (h : Padded source source' r t t')
    (hr : r = .token ∨ r = .node) : t.kind = t'.kind := by
  obtain rfl | rfl := hr
  · cases h with
    | token htoken => exact htoken.kind
  · cases h with
    | node htoken => exact htoken.kind

/-- An expression does not turn into a comment. -/
theorem Padded.kind_ne_comment {t t' : Syntax} (h : Padded source source' .expression t t')
    (ht : t.kind ≠ "comment") : t'.kind ≠ "comment" := by
  cases h with
  | wrapped hkind => simp [hkind]
  | bare h => rwa [← h.kind_eq (.inr rfl)]

/-- A question that no comment between the children answers, and that each child answers as it does
when padded, picks children that correspond. -/
theorem PaddedAll.filter {p : Syntax → Bool}
    (hcomment : ∀ c, c.kind = "comment" → role parent c = .token ∨ role parent c = .ignored →
      p c = false)
    (hkept : ∀ c c', c.field = c'.field → c.isNamed = c'.isNamed →
      Padded source source' (role parent c) c c' → p c = p c')
    (h : PaddedAll source source' parent list list') :
    List.Forall₂ (fun c c' => p c = true ∧ Padded source source' (role parent c) c c')
      (list.filter p) (list'.filter p) := by
  induction list' generalizing list with
  | nil =>
    cases h
    exact .nil
  | cons c' rest' ih =>
    cases h with
    | comment hc hrole h =>
      rw [List.filter_cons_of_neg (by simp [hcomment c' hc hrole])]
      exact ih h
    | @kept _ c _ _ _ hfield hnamed hchild h =>
      have hp := hkept c c' hfield hnamed hchild
      cases hc : p c with
      | true =>
        rw [List.filter_cons_of_pos hc, List.filter_cons_of_pos (hp ▸ hc)]
        exact .cons ⟨hc, hchild⟩ (ih h)
      | false =>
        rw [List.filter_cons_of_neg (by simp [hc]), List.filter_cons_of_neg (by simp [← hp, hc])]
        exact ih h

def isContent (c : Syntax) : Bool := c.isNamed && c.kind ≠ "comment"

theorem content_eq (t : Syntax) : t.content = t.children.filter isContent := by
  rw [content, namedChildren, List.filter_filter]
  refine List.filter_congr fun c _ => ?_
  rw [isContent, Bool.and_comm]

theorem Padded.isContent_eq {r : Role} {c c' : Syntax} (h : Padded source source' r c c')
    (hnamed : c.isNamed = c'.isNamed)
    (hr : (r = .token ∨ r = .node) ∨ r = .expression ∧ c.kind ≠ "comment") :
    c.isContent = c'.isContent := by
  have hkind : c.kind = "comment" ↔ c'.kind = "comment" := by
    obtain hr | ⟨rfl, hc⟩ := hr
    · rw [h.kind_eq hr]
    · simp [hc, h.kind_ne_comment hc]
  simp [isContent, hnamed, hkind]

/-- Where every child that is named and no comment is an expression, these stay in order. -/
theorem PaddedAll.content {t t' : Syntax} (hrole : ∀ c, role parent c =
      if c.isNamed ∧ c.kind ≠ "comment" then .expression else .token)
    (h : PaddedAll source source' parent t.children t'.children) :
    List.Forall₂ (Padded source source' .expression) t.content t'.content := by
  rw [content_eq, content_eq]
  refine (h.filter (fun c hc _ => by simp [isContent, hc]) fun c c' _ hnamed hchild => ?_).imp ?_
  · refine hchild.isContent_eq hnamed ?_
    rw [hrole]
    split
    · next hc => exact .inr ⟨rfl, hc.2⟩
    · exact .inl (.inl rfl)
  · rintro c c' ⟨hc, hchild⟩
    rwa [hrole, if_pos (by simpa [isContent] using hc)] at hchild

/-- What fills a field corresponds, where only what has a meaning fills it. -/
theorem PaddedAll.field? {t t' : Syntax} (name : String)
    (hrole : ∀ c, c.field = some name → role parent c ≠ .token ∧ role parent c ≠ .ignored)
    (h : PaddedAll source source' parent t.children t'.children) :
    Option.Rel (fun c c' => c.field = some name ∧ Padded source source' (role parent c) c c')
      (t.field? name) (t'.field? name) := by
  have hfilter := h.filter (p := fun c => c.field = some name)
    (fun c _ hc => by
      rw [decide_eq_false_iff_not]
      exact fun hfield => hc.elim (hrole c hfield).1 (hrole c hfield).2)
    (fun c c' hfield _ _ => by rw [hfield])
  rw [Syntax.field?, Syntax.field?, ← List.head?_filter, ← List.head?_filter]
  simpa using rel_head? hfilter

theorem PaddedAll.expression? {t t' : Syntax} (name : String)
    (hrole : ∀ c, c.field = some name → role parent c = .expression)
    (h : PaddedAll source source' parent t.children t'.children) :
    Option.Rel (Padded source source' .expression) (t.field? name) (t'.field? name) := by
  have hfield := h.field? name fun c hc => by simp [hrole c hc]
  generalize t.field? name = o, t'.field? name = o' at hfield
  cases hfield with
  | none => exact .none
  | some hc => exact .some (hrole _ hc.1 ▸ hc.2)

end Children

end Syntax

section Shape
open Syntax
variable (source source' : Source)

inductive Entry.Padded : Entry → Entry → Prop
  | pair {key key' value value' : Syntax} : SameToken source source' key key' →
      Syntax.Padded source source' .expression value value' →
      Entry.Padded (.pair key value) (.pair key' value')
  | shorthand {name name' : Syntax} : source.textOf name = source'.textOf name' →
      Entry.Padded (.shorthand name) (.shorthand name')

inductive Shape.Padded (t t' : Syntax) : Shape → Shape → Prop
  | parenthesized {inner inner' : Syntax} : Syntax.Padded source source' .expression inner inner' →
      Shape.Padded t t' (.parenthesized inner) (.parenthesized inner')
  | string : source.textOf t = source'.textOf t' → Shape.Padded t t' .string .string
  | template {substitutions substitutions' : List (Option Syntax)} :
      source.quasisOf t = source'.quasisOf t' →
      List.Forall₂ (Option.Rel (Syntax.Padded source source' .expression)) substitutions
        substitutions' →
      Shape.Padded t t' (.template substitutions) (.template substitutions')
  | name : source.textOf t = source'.textOf t' → Shape.Padded t t' .name .name
  | member {target target' property property' : Syntax} :
      Syntax.Padded source source' .expression target target' →
      source.textOf property = source'.textOf property' →
      Shape.Padded t t' (.member target property) (.member target' property')
  | index {target target' key key' : Syntax} :
      Syntax.Padded source source' .expression target target' →
      Syntax.Padded source source' .expression key key' →
      Shape.Padded t t' (.index target key) (.index target' key')
  | conditional {test test' consequent consequent' alternate alternate' : Syntax} :
      Syntax.Padded source source' .expression test test' →
      Syntax.Padded source source' .expression consequent consequent' →
      Syntax.Padded source source' .expression alternate alternate' →
      Shape.Padded t t' (.conditional test consequent alternate)
        (.conditional test' consequent' alternate')
  | call {callee callee' : Syntax} {arguments arguments' : List Syntax} :
      Syntax.Padded source source' .expression callee callee' →
      List.Forall₂ (Syntax.Padded source source' .expression) arguments arguments' →
      Shape.Padded t t' (.call callee arguments) (.call callee' arguments')
  | object {entries entries' : List Entry} :
      List.Forall₂ (Entry.Padded source source') entries entries' →
      Shape.Padded t t' (.object entries) (.object entries')
  | assertion {operand operand' : Syntax} :
      Syntax.Padded source source' .expression operand operand' →
      Shape.Padded t t' (.assertion operand) (.assertion operand')
  | other : t.kind = t'.kind → Shape.Padded t t' .other .other

variable {source source'} {t t' : Syntax}

theorem rel_substitutions (h : PaddedAll source source' "template_string" t.children t'.children) :
    List.Forall₂ (Option.Rel (Syntax.Padded source source' .expression))
      (t.substitutions.map (·.content.head?)) (t'.substitutions.map (·.content.head?)) := by
  have hfilter := h.filter (p := fun c => c.kind = "template_substitution")
    (fun c hc _ => by simp [hc])
    (fun c c' _ _ hchild => by
      rw [role_template] at hchild
      rw [hchild.kind_eq (by split <;> simp)])
  rw [List.forall₂_map_left_iff, List.forall₂_map_right_iff]
  refine hfilter.imp fun c c' ⟨hc, hchild⟩ => ?_
  have hkind : c.kind = "template_substitution" := by simpa using hc
  rw [role_template, if_pos hkind] at hchild
  cases hchild with
  | node _ _ hchildren =>
    rw [hkind] at hchildren
    exact rel_head? (hchildren.content fun _ => rfl)

theorem rel_callArguments (h : PaddedAll source source' "call_expression" t.children t'.children) :
    List.Forall₂ (Syntax.Padded source source' .expression) t.callArguments t'.callArguments := by
  have hlist := h.field? "arguments" fun c hc => by
    rw [role_callArguments hc]
    split <;> simp
  unfold callArguments
  generalize t.field? "arguments" = o, t'.field? "arguments" = o' at hlist
  cases hlist with
  | none => exact .nil
  | @some list list' hlist =>
    obtain ⟨hfield, hlist⟩ := hlist
    rw [role_callArguments hfield] at hlist
    by_cases hkind : list.kind = "template_string"
    · rw [if_pos hkind] at hlist
      have hkind' : list'.kind = "template_string" := by rw [← hlist.kind_eq (.inr rfl), hkind]
      simp only [hkind, hkind', if_true]
      exact .cons (.bare hlist) .nil
    · rw [if_neg hkind] at hlist
      cases hlist with
      | arguments heq hchildren =>
        have hkind' : ¬ list'.kind = "template_string" := by rwa [← heq]
        simp only [hkind, hkind', if_false]
        exact hchildren.content fun _ => rfl

theorem binds_padded {c c' : Syntax} (htoken : SameToken source source' c c')
    (hchildren : c.kind = "pair" → PaddedAll source source' "pair" c.children c'.children) :
    Option.Rel (Entry.Padded source source') c.binds c'.binds := by
  unfold binds
  rw [← htoken.kind]
  split
  · next hkind =>
    have hkey := (hchildren hkind).field? "key" fun d hd => by simp [role, hd]
    have hvalue := (hchildren hkind).expression? "value" fun d hd => by simp [role, hd]
    generalize c.field? "key" = k, c'.field? "key" = k' at hkey
    generalize c.field? "value" = v, c'.field? "value" = v' at hvalue
    cases hkey with
    | none => exact .none
    | some hkey =>
      cases hvalue with
      | none => exact .none
      | some hvalue =>
        obtain ⟨hfield, hkey⟩ := hkey
        simp only [role, hfield] at hkey
        cases hkey with
        | key hkey => exact .some (.pair hkey hvalue)
  · split
    · next hkind => exact .some (.shorthand (htoken.text (by simp [hkind, spelled])))
    · exact .none

theorem rel_binds (h : PaddedAll source source' "object" t.children t'.children) :
    List.Forall₂ (Entry.Padded source source') (t.content.filterMap binds)
      (t'.content.filterMap binds) := by
  rw [content_eq, content_eq]
  have hfilter := h.filter (p := isContent) (fun c hc _ => by simp [isContent, hc])
    (fun c c' _ hnamed hchild => by
      rw [role_object] at hchild
      exact hchild.isContent_eq hnamed (.inl (by split <;> simp)))
  refine List.rel_filterMap (fun c c' hc => ?_) hfilter
  obtain ⟨-, hchild⟩ := hc
  rw [role_object] at hchild
  split at hchild
  · next hkind =>
    cases hchild with
    | node htoken _ hchildren => exact binds_padded htoken fun _ => hkind ▸ hchildren
  · next hkind =>
    cases hchild with
    | token htoken => exact binds_padded htoken fun hpair => absurd hpair hkind

theorem assertion_padded (hkind : t.kind = t'.kind)
    (hcontent : List.Forall₂ (Syntax.Padded source source' .expression) t.content t'.content) :
    Shape.Padded source source' t t'
      (match t.content with
      | operand :: _ => .assertion operand
      | [] => .other)
      (match t'.content with
      | operand :: _ => .assertion operand
      | [] => .other) := by
  generalize t.content = list, t'.content = list' at hcontent
  cases hcontent with
  | nil => exact .other hkind
  | cons h _ => exact .assertion h

/-- A shape that takes two fields is none where one of them is not filled. -/
theorem fields_padded {R S : Syntax → Syntax → Prop} {o o' p p' : Option Syntax}
    {f : Syntax → Syntax → Shape} (hkind : t.kind = t'.kind)
    (hf : ∀ a a' b b', R a a' → S b b' → Shape.Padded source source' t t' (f a b) (f a' b')) :
    Option.Rel R o o' → Option.Rel S p p' →
      Shape.Padded source source' t t'
        (match o, p with
        | some a, some b => f a b
        | _, _ => .other)
        (match o', p' with
        | some a, some b => f a b
        | _, _ => .other) := by
  intro ho hp
  cases ho with
  | none => exact .other hkind
  | some ha =>
    cases hp with
    | none => exact .other hkind
    | some hb => exact hf _ _ _ _ ha hb

theorem parentheses_padded (hkind : t.kind = t'.kind)
    (hcontent : List.Forall₂ (Syntax.Padded source source' .expression) t.content t'.content) :
    Shape.Padded source source' t t'
      (match t.content with
      | [inner] => .parenthesized inner
      | _ => .other)
      (match t'.content with
      | [inner] => .parenthesized inner
      | _ => .other) := by
  generalize t.content = list, t'.content = list' at hcontent
  cases hcontent with
  | nil => exact .other hkind
  | cons h hrest =>
    cases hrest with
    | nil => exact .parenthesized h
    | cons => exact .other hkind

/-- The property behind a dot is read as it is. -/
theorem property_padded {c c' : Syntax}
    (h : c.field = some "property" ∧
      Syntax.Padded source source' (role "member_expression" c) c c') :
    source.textOf c = source'.textOf c' := by
  obtain ⟨hfield, h⟩ := h
  simp only [role, hfield] at h
  cases h with
  | property htext => exact htext

/-- Padding does not change the shape of a node, only the trees in it. -/
theorem shape_padded (h : Syntax.Padded source source' .node t t') :
    Shape.Padded source source' t t' t.shape t'.shape := by
  cases h with
  | node htoken hquasis hchildren =>
  have hkind := htoken.kind
  unfold Syntax.shape
  rw [← hkind]
  split
  · next hk =>
    rw [hk] at hchildren
    exact parentheses_padded hkind (hchildren.content fun _ => rfl)
  · next hk => exact .string (htoken.text (by simp [hk, spelled]))
  · next hk =>
    rw [hk] at hchildren
    exact .template (hquasis hk) (rel_substitutions hchildren)
  · next hk => exact .name (htoken.text (by simp [hk, spelled]))
  · next hk => exact .name (htoken.text (by simp [hk, spelled]))
  · next hk =>
    rw [hk] at hchildren
    have htarget := hchildren.expression? "object" fun c hc => by simp [role, hc]
    have hproperty := hchildren.field? "property" fun c hc => by simp [role, hc]
    exact fields_padded hkind (fun _ _ _ _ h hp => .member h (property_padded hp)) htarget hproperty
  · next hk =>
    rw [hk] at hchildren
    have htarget := hchildren.expression? "object" fun c hc => by simp [role, hc]
    have hkey := hchildren.expression? "index" fun c hc => by simp [role, hc]
    exact fields_padded hkind (fun _ _ _ _ => .index) htarget hkey
  · next hk =>
    rw [hk] at hchildren
    have htest := hchildren.expression? "condition" fun c hc => by simp [role, hc]
    have hconsequent := hchildren.expression? "consequence" fun c hc => by simp [role, hc]
    have halternate := hchildren.expression? "alternative" fun c hc => by simp [role, hc]
    generalize t.field? "condition" = a, t'.field? "condition" = a' at htest
    generalize t.field? "consequence" = b, t'.field? "consequence" = b' at hconsequent
    generalize t.field? "alternative" = c, t'.field? "alternative" = c' at halternate
    cases htest with
    | none => exact .other hkind
    | some htest =>
      cases hconsequent with
      | none => exact .other hkind
      | some hconsequent =>
        cases halternate with
        | none => exact .other hkind
        | some halternate => exact .conditional htest hconsequent halternate
  · next hk =>
    rw [hk] at hchildren
    have hcallee := hchildren.expression? "function" fun c hc => by simp [role, hc]
    have harguments := rel_callArguments hchildren
    generalize t.field? "function" = f, t'.field? "function" = f' at hcallee
    cases hcallee with
    | none => exact .other hkind
    | some hcallee => exact .call hcallee harguments
  · next hk =>
    rw [hk] at hchildren
    exact .object (rel_binds hchildren)
  · next hk =>
    rw [hk] at hchildren
    exact assertion_padded hkind (hchildren.content fun _ => rfl)
  · next hk =>
    rw [hk] at hchildren
    exact assertion_padded hkind (hchildren.content fun _ => rfl)
  · next hk =>
    rw [hk] at hchildren
    exact assertion_padded hkind (hchildren.content fun _ => rfl)
  · exact .other hkind

/-- The expressions in a shape correspond. -/
theorem Shape.Padded.parts {shape shape' : Shape}
    (h : Shape.Padded source source' t t' shape shape') :
    List.Forall₂ (Syntax.Padded source source' .expression) shape.parts shape'.parts := by
  cases h with
  | parenthesized h => exact .cons h .nil
  | string => exact .nil
  | template _ h => exact List.rel_filterMap (fun _ _ h => h) h
  | name => exact .nil
  | member h => exact .cons h .nil
  | index h hkey => exact .cons h (.cons hkey .nil)
  | conditional h hconsequent halternate =>
    exact .cons h (.cons hconsequent (.cons halternate .nil))
  | call h harguments => exact .cons h harguments
  | object h =>
    refine List.rel_filterMap (fun entry entry' h => ?_) h
    cases h with
    | pair _ h => exact .some h
    | shorthand => exact .none
  | assertion h => exact .cons h .nil
  | other => exact .nil

end Shape

end StateCoverage
