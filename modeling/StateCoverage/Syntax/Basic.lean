import StateCoverage.Text.Utf8

/-!
Concrete syntax trees over the bytes of a source: what a grammar finds, with kinds and fields by
name. Comments are nodes like others, and places where something is missing are nodes too.
-/
namespace StateCoverage

/-- A node with its range of bytes, the field it fills in its parent, and its children in order.
Tokens such as brackets are not `named`. -/
inductive Syntax where
  | node (kind : String) (start stop : Nat) (field : Option String) (named missing : Bool)
    (children : List Syntax)

instance : Inhabited Syntax := ⟨.node "" 0 0 none false false []⟩

namespace Syntax

def kind : Syntax → String
  | node kind _ _ _ _ _ _ => kind

def start : Syntax → Nat
  | node _ start _ _ _ _ _ => start

def stop : Syntax → Nat
  | node _ _ stop _ _ _ _ => stop

def field : Syntax → Option String
  | node _ _ _ field _ _ _ => field

def isNamed : Syntax → Bool
  | node _ _ _ _ named _ _ => named

def isMissing : Syntax → Bool
  | node _ _ _ _ _ missing _ => missing

def children : Syntax → List Syntax
  | node _ _ _ _ _ _ children => children

def namedChildren (t : Syntax) : List Syntax := t.children.filter isNamed

def content (t : Syntax) : List Syntax := t.namedChildren.filter (·.kind ≠ "comment")

def field? (t : Syntax) (name : String) : Option Syntax := t.children.find? (·.field = some name)

def inField (name : String) : Syntax → Syntax
  | node kind start stop _ named missing children =>
    node kind start stop (some name) named missing children

def withKind (name : String) : Syntax → Syntax
  | node _ start stop field named missing children =>
    node name start stop field named missing children

mutual

def size : Syntax → Nat
  | node _ _ _ _ _ _ children => sizeOfAll children + 1

def sizeOfAll : List Syntax → Nat
  | [] => 0
  | t :: rest => size t + sizeOfAll rest

end

mutual

/-- The number of faults: nodes that are an error, or that stand for something missing. -/
def errorCount : Syntax → Nat
  | node kind _ _ _ _ missing children =>
    errorCountOfAll children + if kind = "ERROR" ∨ missing then 1 else 0

def errorCountOfAll : List Syntax → Nat
  | [] => 0
  | t :: rest => errorCount t + errorCountOfAll rest

end

theorem size_eq (t : Syntax) : t.size = sizeOfAll t.children + 1 := by
  cases t
  rfl

theorem sizeOfAll_append (a b : List Syntax) : sizeOfAll (a ++ b) = sizeOfAll a + sizeOfAll b := by
  induction a with
  | nil => simp [sizeOfAll]
  | cons t rest ih => simp [sizeOfAll, ih, Nat.add_assoc]

theorem size_le_sizeOfAll {t : Syntax} {list : List Syntax} (h : t ∈ list) :
    t.size ≤ sizeOfAll list := by
  induction list with
  | nil => cases h
  | cons s rest ih =>
    cases h with
    | head => simp [sizeOfAll]
    | tail _ h => exact Nat.le_trans (ih h) (by simp [sizeOfAll])

theorem sizeOfAll_filter_le (p : Syntax → Bool) (list : List Syntax) :
    sizeOfAll (list.filter p) ≤ sizeOfAll list := by
  induction list with
  | nil => simp
  | cons t rest ih =>
    by_cases h : p t <;> simp only [List.filter, h, sizeOfAll] <;> omega

theorem size_lt_of_mem_children {c t : Syntax} (h : c ∈ t.children) : c.size < t.size := by
  have := size_le_sizeOfAll h
  rw [size_eq t]
  omega

theorem mem_children_of_mem_namedChildren {c t : Syntax} (h : c ∈ t.namedChildren) :
    c ∈ t.children :=
  (List.mem_filter.1 h).1

theorem mem_children_of_mem_content {c t : Syntax} (h : c ∈ t.content) : c ∈ t.children :=
  mem_children_of_mem_namedChildren (List.mem_filter.1 h).1

theorem mem_children_of_field? {c t : Syntax} {name : String} (h : t.field? name = some c) :
    c ∈ t.children :=
  List.mem_of_find?_eq_some h

end Syntax

structure Source where
  bytes : Array UInt8

namespace Source

def ofBytes (bytes : List UInt8) : Source := ⟨bytes.toArray⟩

def slice (source : Source) (start stop : Nat) : Text :=
  Utf8.decodeText (source.bytes.extract start stop).toList

def textOf (source : Source) (t : Syntax) : Text := source.slice t.start t.stop

def row (source : Source) (position : Nat) : Nat :=
  (source.bytes.extract 0 position).toList.count 10

/-- Lines are counted from 1. -/
def line (source : Source) (t : Syntax) : Nat := source.row t.start + 1

end Source

end StateCoverage
