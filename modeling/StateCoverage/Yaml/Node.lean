import StateCoverage.Bindings
import StateCoverage.Yaml.Token

/-!
The nodes of a document. A reference stands for the node of its anchor; a document is one node at
most.
-/
namespace StateCoverage.Yaml

inductive Node where
  | scalar (tag : Option Text) (plain : Bool) (content : Text)
  | sequence (tag : Option Text) (items : List Node)
  | mapping (tag : Option Text) (entries : List (Node × Node))

instance : Inhabited Node := ⟨.scalar none true []⟩

namespace Node

def empty : Node := scalar none true []

structure Scope where
  handles : Bindings Text
  anchors : Bindings Node

def standardTags : Text := text "tag:yaml.org,2002:"

def standardHandles : Bindings Text := [(text "!", text "!"), (text "!!", standardTags)]

/-- The whole tag of a name. A lone `!` leaves the type open. -/
def wholeTag? (scope : Scope) (name : TagName) : Option (Option Text) :=
  match name.handle with
  | none => some (if name.suffix = text "!" then none else some name.suffix)
  | some handle => (Bindings.valueOf? handle scope.handles).map fun meaning =>
    some (meaning ++ name.suffix)

inductive Position where
  | block
  /-- The value of a mapping, where a sequence need not be indented. -/
  | value
  | flow
deriving DecidableEq

structure Reading where
  tokens : List Token
  scope : Scope

namespace Reading

def peek (r : Reading) : Option Token := r.tokens.head?

def next (r : Reading) : Reading := { r with tokens := r.tokens.drop 1 }

def sees (list : List Token) (r : Reading) : Bool := r.peek.any (list.elem ·)

def expect (t : Token) (r : Reading) : Option Reading :=
  if r.peek = some t then some r.next else none

def name (anchor : Option Text) (node : Node) (r : Reading) : Reading :=
  match anchor with
  | some name =>
    { r with scope := { r.scope with anchors := Bindings.put name node r.scope.anchors } }
  | none => r

end Reading

def properties (r : Reading) : Option Text × Option TagName × Reading :=
  match r.peek with
  | some (.anchor name) =>
    match r.next.peek with
    | some (.tag tag) => (some name, some tag, r.next.next)
    | _ => (some name, none, r.next)
  | some (.tag tag) =>
    match r.next.peek with
    | some (.anchor name) => (some name, some tag, r.next.next)
    | _ => (none, some tag, r.next)
  | _ => (none, none, r)

mutual

def node? (position : Position) : Nat → Reading → Option (Node × Reading)
  | 0, _ => none
  | fuel + 1, r =>
    match r.peek with
    | some (.reference name) =>
      (Bindings.valueOf? name r.scope.anchors).map fun node => (node, r.next)
    | _ =>
      let (anchor, tagName, r) := properties r
      if anchor.any fun name => (Bindings.valueOf? name r.scope.anchors).isSome then none
      else do
        let tag ← match tagName with
          | some name => wholeTag? r.scope name
          | none => some none
        let (node, r) ← content? position tag (anchor.isSome || tagName.isSome) fuel r
        return (node, r.name anchor node)

/-- The content of a node behind its properties. One with properties may be empty. -/
def content? (position : Position) (tag : Option Text) (hasProperties : Bool) :
    Nat → Reading → Option (Node × Reading)
  | 0, _ => none
  | fuel + 1, r =>
    match r.peek with
    | some (.scalar plain content) => some (scalar tag plain content, r.next)
    | some .flowSequence => flowItems? tag [] fuel r.next
    | some .flowMapping => flowEntries? tag [] fuel r.next
    | some .blockSequence =>
      if position = .flow then emptyContent? tag hasProperties r
      else do
        let (items, r) ← blockItems? [] fuel r.next
        return (sequence tag items, ← r.expect .blockEnd)
    | some .blockMapping =>
      if position = .flow then emptyContent? tag hasProperties r
      else do
        let (entries, r) ← blockEntries? [] fuel r.next
        return (mapping tag entries, ← r.expect .blockEnd)
    | some .entry =>
      if position = .value then do
        let (items, r) ← blockItems? [] fuel r
        return (sequence tag items, r)
      else emptyContent? tag hasProperties r
    | _ => emptyContent? tag hasProperties r

def emptyContent? (tag : Option Text) (hasProperties : Bool) (r : Reading) :
    Option (Node × Reading) :=
  if hasProperties then some (scalar tag tag.isNone [], r) else none

def nodeUnless? (position : Position) (closing : List Token) :
    Nat → Reading → Option (Node × Reading)
  | 0, _ => none
  | fuel + 1, r => if r.sees closing then some (empty, r) else node? position fuel r

def blockItems? (found : List Node) : Nat → Reading → Option (List Node × Reading)
  | 0, _ => none
  | fuel + 1, r =>
    if r.peek = some .entry then
      match nodeUnless? .block [.entry, .key, .value, .blockEnd] fuel r.next with
      | some (item, r) => blockItems? (item :: found) fuel r
      | none => none
    else some (found.reverse, r)

def blockEntries? (found : List (Node × Node)) :
    Nat → Reading → Option (List (Node × Node) × Reading)
  | 0, _ => none
  | fuel + 1, r =>
    if r.peek = some .key then
      match nodeUnless? .value [.key, .value, .blockEnd] fuel r.next with
      | none => none
      | some (key, r) =>
        if r.peek = some .value then
          match nodeUnless? .value [.key, .value, .blockEnd] fuel r.next with
          | some (value, r) => blockEntries? ((key, value) :: found) fuel r
          | none => none
        else blockEntries? ((key, empty) :: found) fuel r
    else some (found.reverse, r)

/-- The items of a flow sequence, behind those found already. A pair is a mapping of its own. -/
def flowItems? (tag : Option Text) (found : List Node) : Nat → Reading → Option (Node × Reading)
  | 0, _ => none
  | fuel + 1, r =>
    match r.peek with
    | some .flowSequenceEnd => some (sequence tag found.reverse, r.next)
    | some .key =>
      match nodeUnless? .flow [.value, .comma, .flowSequenceEnd] fuel r.next with
      | none => none
      | some (key, r) =>
        match pairValue? .flowSequenceEnd fuel r with
        | some (value, r) => flowMore? tag (mapping none [(key, value)] :: found) fuel r
        | none => none
    | _ =>
      match node? .flow fuel r with
      | some (item, r) => flowMore? tag (item :: found) fuel r
      | none => none

def flowMore? (tag : Option Text) (found : List Node) : Nat → Reading → Option (Node × Reading)
  | 0, _ => none
  | fuel + 1, r =>
    match r.peek with
    | some .comma => flowItems? tag found fuel r.next
    | some .flowSequenceEnd => some (sequence tag found.reverse, r.next)
    | _ => none

def pairValue? (closing : Token) : Nat → Reading → Option (Node × Reading)
  | 0, _ => none
  | fuel + 1, r =>
    if r.peek = some .value then nodeUnless? .flow [.comma, closing] fuel r.next
    else some (empty, r)

def flowEntries? (tag : Option Text) (found : List (Node × Node)) :
    Nat → Reading → Option (Node × Reading)
  | 0, _ => none
  | fuel + 1, r =>
    match r.peek with
    | some .flowMappingEnd => some (mapping tag found.reverse, r.next)
    | some .key =>
      match nodeUnless? .flow [.value, .comma, .flowMappingEnd] fuel r.next with
      | none => none
      | some (key, r) =>
        match pairValue? .flowMappingEnd fuel r with
        | some (value, r) => flowEntriesMore? tag ((key, value) :: found) fuel r
        | none => none
    | _ =>
      match node? .flow fuel r with
      | some (key, r) => flowEntriesMore? tag ((key, empty) :: found) fuel r
      | none => none

def flowEntriesMore? (tag : Option Text) (found : List (Node × Node)) :
    Nat → Reading → Option (Node × Reading)
  | 0, _ => none
  | fuel + 1, r =>
    match r.peek with
    | some .comma => flowEntries? tag found fuel r.next
    | some .flowMappingEnd => some (mapping tag found.reverse, r.next)
    | _ => none

end

/-- Takes directives; a version must be the first, and be declared once. -/
def directives : Option Nat → Bindings Text → List Token → Option (Bindings Text × List Token)
  | version, handles, .version major :: rest =>
    if version = none ∧ major = 1 then directives (some major) handles rest else none
  | version, handles, .tagHandle handle meaning :: rest =>
    if (Bindings.valueOf? handle handles).isSome then none
    else directives version (Bindings.put handle meaning handles) rest
  | _, handles, tokens => some (handles, tokens)

def ofTokens? (tokens : List Token) : Option (Option Node) :=
  let closes (tokens : List Token) : Bool := (tokens.dropWhile (· = .documentEnd)).isEmpty
  let read (scope : Scope) (tokens : List Token) : Option (Option Node) :=
    match node? .block (4 * tokens.length + 8) ⟨tokens, scope⟩ with
    | some (node, r) => if closes r.tokens then some (some node) else none
    | none => none
  match tokens with
  | [] => some none
  | .version _ :: _ | .tagHandle .. :: _ | .documentStart :: _ => do
    let (declared, rest) ← directives none [] tokens
    let handles := standardHandles.foldl (fun table (handle, meaning) =>
      if (Bindings.valueOf? handle table).isSome then table
        else table ++ [(handle, meaning)]) declared
    match rest with
    | .documentStart :: rest => if closes rest then some (some empty) else read ⟨handles, []⟩ rest
    | _ => none
  | _ => read ⟨standardHandles, []⟩ tokens

end Node

end StateCoverage.Yaml
