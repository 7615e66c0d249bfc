import StateCoverage.Proofs.Grammar.Yields
import StateCoverage.Proofs.Syntax.Place

/-!
Attributes with their names. A tree names its attributes if every attribute in it, at any depth, has
a child for its name. Here are the trees that do, and the tokens and types of the grammar, which
hold no attributes at all.
-/
namespace StateCoverage

namespace Syntax

def HasName (t : Syntax) : Prop := t.kind = "jsx_attribute" → t.namedChildren ≠ []

/-- Every attribute in the tree has its name, under tokens too. -/
inductive NamesAttributes : Syntax → Prop where
  | intro {t : Syntax} (self : t.HasName) (children : ∀ c ∈ t.children, NamesAttributes c) :
    NamesAttributes t

def AllName (list : List Syntax) : Prop := ∀ t ∈ list, t.NamesAttributes

section
variable {t : Syntax} {kind : String}

theorem NamesAttributes.everywhere (h : t.NamesAttributes) : t.Everywhere HasName := by
  rw [everywhere_iff]
  induction h with
  | intro self _ ih =>
    intro u hu
    rw [preorder_eq, List.mem_cons, List.mem_flatMap] at hu
    obtain rfl | ⟨c, hc, hu⟩ := hu
    · exact self
    · exact ih c (mem_children_of_mem_namedChildren hc) u hu

/-- A node of any other kind has nothing to name. -/
theorem namesAttributes_node {start stop : Nat} {field : Option String} {named missing : Bool}
    {children : List Syntax} (hkind : kind ≠ "jsx_attribute") (h : AllName children) :
    (node kind start stop field named missing children).NamesAttributes :=
  .intro (fun heq => absurd heq hkind) h

@[simp] theorem namesAttributes_inField {field : String} :
    (t.inField field).NamesAttributes ↔ t.NamesAttributes := by
  cases t
  constructor
  · rintro ⟨hself, hchildren⟩
    exact ⟨hself, hchildren⟩
  · rintro ⟨hself, hchildren⟩
    exact ⟨hself, hchildren⟩

theorem NamesAttributes.withKind (h : t.NamesAttributes) (hkind : kind ≠ "jsx_attribute") :
    (t.withKind kind).NamesAttributes := by
  cases t
  obtain ⟨-, hchildren⟩ := h
  exact namesAttributes_node hkind hchildren

@[simp] theorem allName_nil : AllName [] := nofun

@[simp] theorem allName_cons {list : List Syntax} :
    AllName (t :: list) ↔ t.NamesAttributes ∧ AllName list := List.forall_mem_cons

@[simp] theorem allName_append {a b : List Syntax} : AllName (a ++ b) ↔ AllName a ∧ AllName b :=
  List.forall_mem_append

theorem allName_flatten {lists : List (List Syntax)} (h : ∀ list ∈ lists, AllName list) :
    AllName lists.flatten := by
  intro t ht
  obtain ⟨list, hlist, ht⟩ := List.mem_flatten.mp ht
  exact h list hlist t ht

end

end Syntax

namespace Grammar
open Syntax

abbrev Names (p : Parser Syntax) : Prop := Yields NamesAttributes p

abbrev NamesIf (p : Parser (Option Syntax)) : Prop := YieldsIf NamesAttributes p

abbrev NamesAll (p : Parser (List Syntax)) : Prop := Yields AllName p

def Level.Names (level : Level) : Prop := ∀ rule, Grammar.Names (level.read rule)

section Parts
variable {α : Type} {P : α → Prop} {p : Parser Syntax} {f : Syntax → Syntax}
  {rest : List Syntax → Parser α}

theorem namesAll_none : NamesAll (pure []) := yields_pure allName_nil

theorem namesAll_one (h : Names p) : NamesAll (p >>= fun t => pure [t]) :=
  yields_bind h fun _ ht => yields_pure (by simp [ht])

/-- A part may be there or not. -/
theorem yields_part {b : Prop} [Decidable b] (hp : Names p)
    (hf : ∀ t, t.NamesAttributes → (f t).NamesAttributes)
    (hrest : ∀ parts, AllName parts → Yields P (rest parts)) :
    Yields P (if b then p >>= fun t => pure [f t] >>= rest else pure [] >>= rest) := by
  refine yields_ite (yields_bind hp fun t ht => ?_) (yields_bind namesAll_none hrest)
  exact yields_bind (Q := AllName) (yields_pure (by simp [hf t ht])) hrest

/-- The same with the test for what stands there in place of the part. -/
theorem yields_part' {b : Prop} [Decidable b] (hp : Names p)
    (hf : ∀ t, t.NamesAttributes → (f t).NamesAttributes)
    (hrest : ∀ parts, AllName parts → Yields P (rest parts)) :
    Yields P (if b then pure [] >>= rest else p >>= fun t => pure [f t] >>= rest) := by
  refine yields_ite (yields_bind namesAll_none hrest) (yields_bind hp fun t ht => ?_)
  exact yields_bind (Q := AllName) (yields_pure (by simp [hf t ht])) hrest

end Parts

/-! ### Tokens -/

section Tokens
variable {kind : String} {start : Nat} {children : List Syntax}

theorem names_nodeFrom (hkind : kind ≠ "jsx_attribute") (h : AllName children) :
    Names (nodeFrom kind start children) :=
  yields_bind' fun _ => yields_pure (namesAttributes_node hkind h)

theorem yields_isNamed_nodeFrom : Yields (·.isNamed) (nodeFrom kind start children) :=
  yields_bind' fun _ => yields_pure rfl

theorem names_bare (hkind : kind ≠ "jsx_attribute") : Names (nodeFrom kind start []) :=
  names_nodeFrom hkind allName_nil

theorem names_tokenNode {s : String} (h : s ≠ "jsx_attribute") : Names (tokenNode s) :=
  yields_bind' fun _ => yields_bind' fun _ => yields_bind' fun _ =>
    yields_pure (namesAttributes_node h allName_nil)

theorem names_leaf (hkind : kind ≠ "jsx_attribute") (length : Nat) : Names (leaf kind length) := by
  refine yields_ite yields_failure_bind ?_
  exact yields_bind' fun _ => yields_bind' fun _ => yields_bind' fun _ => names_bare hkind

theorem names_wordNode (hkind : kind ≠ "jsx_attribute") : Names (wordNode kind) :=
  yields_bind' fun _ => names_leaf hkind _

theorem names_stringNode : Names stringNode := by
  refine yields_bind' fun cs => ?_
  split
  · refine yields_ite ?_ yields_failure
    split
    · exact names_leaf (by decide) _
    · exact yields_failure
  · exact yields_failure

theorem names_numberNode : Names numberNode := yields_bind' fun _ => names_leaf (by decide) _

theorem names_privateNameNode : Names privateNameNode := by
  refine yields_bind' fun cs => ?_
  split
  · split
    · exact yields_failure
    · exact names_leaf (by decide) _
  · exact yields_failure

end Tokens

/-! ### Types -/

section Types
variable (level : Level)

theorem names_typeArguments : Names (typeArguments level) :=
  yields_bind' fun _ => yields_bind' fun _ => yields_bind' fun _ =>
    yields_ite yields_failure_bind (yields_bind' fun _ => names_bare (by decide))

theorem names_typeAnnotationNode : Names <| typeAnnotation level :=
  yields_bind' fun _ => yields_bind' fun _ => yields_bind' fun _ => names_bare (by decide)

theorem names_typeRule : Names (typeRule level) := by
  have hend (start : Nat) : Names (nodeFrom "type" start []) := names_bare (by decide)
  exact yields_bind' fun start => yields_bind' fun _ => yields_bind' fun _ => yields_bind' fun _ =>
    yields_ite (yields_bind' fun _ => hend start) (hend start)

end Types

end Grammar

end StateCoverage
