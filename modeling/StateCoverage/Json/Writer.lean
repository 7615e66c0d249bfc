import StateCoverage.Data.Basic

/-!
Writing JSON in ASCII: what lies outside of it is escaped as UTF-16 units of four digits.
-/
namespace StateCoverage.Json

def unitEscape (n : Nat) : Text := text "\\u" ++ hexDigits 4 n

def escapePoint (p : CodePoint) : Text :=
  match p with
  | .scalar '"' => text "\\\""
  | .scalar '\\' => text "\\\\"
  | .scalar '\n' => text "\\n"
  | .scalar '\r' => text "\\r"
  | .scalar '\t' => text "\\t"
  | .scalar '\x08' => text "\\b"
  | .scalar '\x0C' => text "\\f"
  | p =>
    let n := p.toNat
    if 32 ≤ n ∧ n ≤ 126 then [p]
    else if n < 0x10000 then unitEscape n
    else unitEscape (0xD800 + (n - 0x10000) / 0x400) ++ unitEscape (0xDC00 + (n - 0x10000) % 0x400)

def quote (t : Text) : Text := text "\"" ++ t.flatMap escapePoint ++ text "\""

/-- How the parts of a list or an object are set apart: on one line, or each on a line of its own
behind two more blanks. -/
inductive Layout where
  | line
  | indented (depth : Nat)

namespace Layout

def deeper : Layout → Layout
  | line => line
  | indented depth => indented (depth + 1)

def newline : Layout → Text
  | line => []
  | indented depth => text "\n" ++ List.replicate (2 * depth) (.scalar ' ')

def bracketed (layout : Layout) (opening closing : String) : List Text → Text
  | [] => text opening ++ text closing
  | parts =>
    let separator := match layout with
      | line => text ", "
      | indented _ => text ","
    text opening ++ Text.join separator (parts.map (layout.deeper.newline ++ ·))
      ++ layout.newline ++ text closing

end Layout

def keyText : Data → Text
  | .string s => s
  | .null => text "null"
  | .bool true => text "true"
  | .bool false => text "false"
  | key => key.shown

mutual

def write (layout : Layout) : Data → Text
  | .null => text "null"
  | .bool true => text "true"
  | .bool false => text "false"
  | .string s => quote s
  | .list items => layout.bracketed "[" "]" (writeAll layout.deeper items)
  | .map entries => layout.bracketed "\x7b" "\x7d" (writeEntries layout.deeper entries)
  | .float (.number negative .infinite) => text (if negative then "-Infinity" else "Infinity")
  | .float .notANumber => text "NaN"
  | value => value.shown

def writeAll (layout : Layout) : List Data → List Text
  | [] => []
  | item :: rest => write layout item :: writeAll layout rest

def writeEntries (layout : Layout) : List (Data × Data) → List Text
  | [] => []
  | (key, value) :: rest =>
    (quote (keyText key) ++ text ": " ++ write layout value) :: writeEntries layout rest

end

def compact (value : Data) : Text := write .line value

def pretty (value : Data) : Text := write (.indented 0) value

end StateCoverage.Json
