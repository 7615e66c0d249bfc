import StateCoverage.Coverage
import StateCoverage.Text.Emoji
import StateCoverage.Text.Quoted
import StateCoverage.Text.Width

/-!
What a run prints about class attributes and interactive elements: lines for people, records for
programs.
-/
namespace StateCoverage

inductive Finding where
  | classes (a : ClassAttribute)
  | element (e : InteractiveElement)

namespace Listing

def styleTag? : Text → Option (Text × Text)
  | .scalar '[' :: .scalar c :: rest =>
    let body := rest.takeWhile fun p => p ≠ .scalar '[' && p ≠ .scalar ']'
    match rest.drop body.length with
    | .scalar ']' :: behind =>
      if ('a' ≤ c && c ≤ 'z') || c = '#' || c = '/' || c = '@' then
        some (.scalar '[' :: .scalar c :: body ++ [.scalar ']'], behind)
      else none
    | _ => none
  | _ => none

theorem length_lt_of_styleTag? {t tag behind : Text} (h : styleTag? t = some (tag, behind)) :
    behind.length < t.length := by
  unfold styleTag? at h
  split at h
  · dsimp only at h
    split at h
    · rename_i rest _ behind' heq
      have := congrArg List.length heq
      split at h
      · simp only [Option.some.injEq, Prod.mk.injEq] at h
        simp only [List.length_drop, List.length_cons] at this ⊢
        rw [← h.2]
        omega
      · simp at h
    · simp at h
  · simp at h

/-- A text cut at its style tags, which are parts of their own. `before` is what was read of the
part, last first. -/
def styleParts (before t : Text) : List Text :=
  match t with
  | [] => [before.reverse]
  | p :: rest =>
    match h : styleTag? (p :: rest) with
    | some (tag, behind) =>
      have := length_lt_of_styleTag? h
      before.reverse :: tag :: styleParts [] behind
    | none => styleParts (p :: before) rest
termination_by t.length
decreasing_by
  · assumption
  · exact Nat.lt_add_one rest.length

/-- A backslash right before a bracket that begins no tag is not shown. -/
def unescape : Text → Text
  | [] => []
  | .scalar '\\' :: .scalar '[' :: rest => .scalar '[' :: unescape rest
  | p :: rest => p :: unescape rest

def isDropped (p : CodePoint) : Bool := [7, 8, 11, 12, 13].elem p.toNat

def span (parts : List Text) : Text :=
  ((styleParts [] parts.flatten).flatMap fun part =>
    Emoji.replace (unescape part)).filter (!isDropped ·)

def line (spans : List (List Text)) : Text := Text.expandTabs (spans.flatMap span) ++ text "\n"

def unresolvedLines (r : Resolution) : List Text :=
  r.unresolved.map fun fragment => line [[text "    unresolved: ", fragment]]

def attributeLines (path : Text) (a : ClassAttribute) : List Text :=
  line [[text (if a.result.isComplete then "✓" else "?")],
    [text " ", path, text ":", Text.ofNat a.line, text " "],
    [text "<", a.tag, text ">"], [text " ", a.name, text ": ", a.result.text.quoted]]
    :: unresolvedLines a.result

def flags (e : InteractiveElement) : List String :=
  (if e.isContentRegion then ["content-region"] else [])
    ++ (if e.canBeDisabled then
          [if e.hasConditionalDisabled then "conditional-disabled" else "disabled"]
        else [])
    ++ (if e.canBeInvalid then ["validated"] else [])
    ++ (if e.hasPlaceholder then ["placeholder"] else [])
    ++ (if e.isRadioOrCheckbox then ["radio/checkbox"] else [])

def elementLines (path : Text) (e : InteractiveElement) : List Text :=
  let states := if e.states = [] then ["none"] else e.states.map State.name
  let marks := if flags e = [] then [] else [line [[text "    ", text (" ".intercalate (flags e))]]]
  line [[path, text ":", Text.ofNat e.line, text " "],
    [e.elementType], [text " ", text (", ".intercalate states)]]
    :: (marks ++ unresolvedLines e.className)

def resolutionFields (r : Resolution) : List (String × Data) :=
  [("text", .string r.text), ("fully_resolved", .bool r.isComplete),
    ("unresolved_fragments", .list (r.unresolved.map .string))]

def statesField (states : List State) : String × Data :=
  ("states", .list (states.map fun s => .string (text s.name)))

def attributeFields (a : ClassAttribute) : List (String × Data) :=
  [("tag", .string a.tag), ("attribute", .string a.name), ("line", .int a.line)]
    ++ resolutionFields a.result ++ [statesField a.states]

def elementFields (e : InteractiveElement) : List (String × Data) :=
  [("element_type", .string e.elementType), ("tag", .string e.tag), ("line", .int e.line)]
    ++ resolutionFields e.className
    ++ [statesField e.states, ("is_content_region", .bool e.isContentRegion),
      ("can_be_disabled", .bool e.canBeDisabled),
      ("has_conditional_disabled", .bool e.hasConditionalDisabled),
      ("can_be_invalid", .bool e.canBeInvalid), ("has_placeholder", .bool e.hasPlaceholder),
      ("is_radio_or_checkbox", .bool e.isRadioOrCheckbox)]

end Listing

namespace Finding

def lines (path : Text) : Finding → List Text
  | classes a => Listing.attributeLines path a
  | element e => Listing.elementLines path e

def fields : Finding → List (String × Data)
  | classes a => Listing.attributeFields a
  | element e => Listing.elementFields e

def record (path : Text) (f : Finding) : Data :=
  .record ((("path", Data.string path) :: f.fields).map fun (name, value) => (text name, value))

end Finding

end StateCoverage
