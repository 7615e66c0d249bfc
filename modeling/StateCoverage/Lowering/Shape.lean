import StateCoverage.Syntax.Basic

/-!
The shape of an expression node: which of its sub-trees take part in its meaning, and how. A node
that lacks a part its kind needs has no shape of its own.
-/
namespace StateCoverage

inductive Entry where
  | pair (key value : Syntax)
  | shorthand (name : Syntax)

/-- How a node is to be read, with sub-trees in the place of sub-expressions. -/
inductive Shape where
  | parenthesized (inner : Syntax)
  | string
  /-- The content of each substitution, if it has any. -/
  | template (substitutions : List (Option Syntax))
  | name
  | member (target property : Syntax)
  | index (target key : Syntax)
  | conditional (test consequent alternate : Syntax)
  | call (callee : Syntax) (arguments : List Syntax)
  | object (entries : List Entry)
  | assertion (operand : Syntax)
  | other

namespace Entry

def value? : Entry → Option Syntax
  | pair _ value => some value
  | shorthand _ => none

end Entry

namespace Syntax

def substitutions (t : Syntax) : List Syntax := t.children.filter (·.kind = "template_substitution")

/-- What a member of an object literal binds. Spreads and methods bind no literal key. -/
def binds (t : Syntax) : Option Entry :=
  if t.kind = "pair" then
    match t.field? "key", t.field? "value" with
    | some key, some value => some (.pair key value)
    | _, _ => none
  else if t.kind = "shorthand_property_identifier" then some (.shorthand t)
  else none

/-- The arguments of a call. A template behind the callee is its one argument. -/
def callArguments (t : Syntax) : List Syntax :=
  match t.field? "arguments" with
  | none => []
  | some list => if list.kind = "template_string" then [list] else list.content

def shape (t : Syntax) : Shape :=
  match t.kind with
  | "parenthesized_expression" =>
    match t.content with
    | [inner] => .parenthesized inner
    | _ => .other
  | "string" => .string
  | "template_string" => .template (t.substitutions.map (·.content.head?))
  | "identifier" => .name
  | "undefined" => .name
  | "member_expression" =>
    match t.field? "object", t.field? "property" with
    | some target, some property => .member target property
    | _, _ => .other
  | "subscript_expression" =>
    match t.field? "object", t.field? "index" with
    | some target, some key => .index target key
    | _, _ => .other
  | "ternary_expression" =>
    match t.field? "condition", t.field? "consequence", t.field? "alternative" with
    | some test, some consequent, some alternate => .conditional test consequent alternate
    | _, _, _ => .other
  | "call_expression" =>
    match t.field? "function" with
    | some callee => .call callee t.callArguments
    | none => .other
  | "object" => .object (t.content.filterMap binds)
  | "as_expression" | "satisfies_expression" | "non_null_expression" =>
    match t.content with
    | operand :: _ => .assertion operand
    | [] => .other
  | _ => .other

end Syntax

def Shape.parts : Shape → List Syntax
  | parenthesized inner => [inner]
  | string | name | other => []
  | template substitutions => substitutions.filterMap id
  | member target _ => [target]
  | index target key => [target, key]
  | conditional test consequent alternate => [test, consequent, alternate]
  | call callee arguments => callee :: arguments
  | object entries => entries.filterMap Entry.value?
  | assertion operand => [operand]

namespace Syntax

theorem size_lt_of_mem_callArguments {c t : Syntax} (h : c ∈ t.callArguments) :
    c.size < t.size := by
  unfold callArguments at h
  split at h
  · cases h
  · next list hlist =>
    have hl := size_lt_of_mem_children (mem_children_of_field? hlist)
    split at h
    · rw [List.mem_singleton.1 h]
      exact hl
    · exact Nat.lt_trans (size_lt_of_mem_children (mem_children_of_mem_content h)) hl

theorem size_lt_of_binds {c v : Syntax} {e : Entry} (h : c.binds = some e)
    (hv : e.value? = some v) : v.size < c.size := by
  unfold binds at h
  split at h
  · split at h
    · next key value _ hvalue =>
      cases h
      cases hv
      exact size_lt_of_mem_children (mem_children_of_field? hvalue)
    · cases h
  · split at h
    · cases h
      cases hv
    · cases h

/-- Expressions nest: each part of a node is smaller than the node. -/
theorem size_lt_of_mem_parts {c t : Syntax} (h : c ∈ t.shape.parts) : c.size < t.size := by
  have field {name : String} {d : Syntax} (hd : t.field? name = some d) : d.size < t.size :=
    size_lt_of_mem_children (mem_children_of_field? hd)
  have inner {d : Syntax} (hd : d ∈ t.content) : d.size < t.size :=
    size_lt_of_mem_children (mem_children_of_mem_content hd)
  have operand (h : c ∈ (match t.content with
      | x :: _ => Shape.assertion x
      | [] => .other).parts) : c.size < t.size := by
    split at h
    · next x rest hx =>
      rw [List.mem_singleton.1 h]
      exact inner (by simp [hx])
    · cases h
  unfold shape at h
  split at h
  · split at h
    · next list hlist =>
      rw [List.mem_singleton.1 h]
      exact inner (by simp [hlist])
    · cases h
  · cases h
  · simp only [Shape.parts, List.mem_filterMap, List.mem_map, id] at h
    obtain ⟨_, ⟨s, hs, rfl⟩, hc⟩ := h
    have hs' : s.size < t.size := size_lt_of_mem_children (List.mem_filter.1 hs).1
    exact Nat.lt_trans
      (size_lt_of_mem_children (mem_children_of_mem_content (List.mem_of_head? hc))) hs'
  · cases h
  · cases h
  · split at h
    · next target property ht _ =>
      rw [List.mem_singleton.1 h]
      exact field ht
    · cases h
  · split at h
    · next target key ht hk =>
      rcases List.mem_cons.1 h with rfl | h
      · exact field ht
      · rw [List.mem_singleton.1 h]
        exact field hk
    · cases h
  · split at h
    · next test consequent alternate h1 h2 h3 =>
      rcases List.mem_cons.1 h with rfl | h
      · exact field h1
      · rcases List.mem_cons.1 h with rfl | h
        · exact field h2
        · rw [List.mem_singleton.1 h]
          exact field h3
    · cases h
  · split at h
    · next callee hcallee =>
      rcases List.mem_cons.1 h with rfl | h
      · exact field hcallee
      · exact size_lt_of_mem_callArguments h
    · cases h
  · simp only [Shape.parts, List.mem_filterMap] at h
    obtain ⟨e, ⟨c', hc', he⟩, hv⟩ := h
    exact Nat.lt_trans (size_lt_of_binds he hv) (inner hc')
  · exact operand h
  · exact operand h
  · exact operand h
  · cases h

end Syntax

end StateCoverage
