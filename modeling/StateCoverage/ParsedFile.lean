import StateCoverage.Error
import StateCoverage.Grammar.Parse
import StateCoverage.Lowering.Statement

/-!
Files and single expressions, from text to their abstract form. Syntax errors never stop a reading:
they are counted. What stops it is an unknown dialect, or expressions that nest too deep.
-/
namespace StateCoverage

structure ParsedFile where
  source : Source
  root : Syntax

def Dialect.choose (path language : Text) : Except ResolutionError Dialect :=
  match if language = [] then ofPath? path else ofName? language with
  | some dialect => .ok dialect
  | none => .error (.unsupportedLanguage path)

def ResolutionError.tooDeep (path : Text) : ResolutionError :=
  .parseFailed path (text "expression nesting too deep")

namespace ParsedFile

def ofChars (dialect : Dialect) (cs : List Char) : ParsedFile :=
  ⟨.ofBytes (Utf8.encode cs), Grammar.parse dialect cs⟩

/-- Reads the bytes of a file; parts that are ill-formed count as U+FFFD. -/
def ofBytes (path language : Text) (bytes : List UInt8) : Except ResolutionError ParsedFile :=
  (Dialect.choose path language).map fun dialect => ofChars dialect (Utf8.decode bytes)

/-- Reads the text of a file. One that holds a surrogate has no bytes. -/
def ofText (path language : Text) (content : Text) : Except ResolutionError ParsedFile :=
  match Dialect.choose path language with
  | .error e => .error e
  | .ok dialect =>
    match content.mapM CodePoint.toChar? with
    | some cs => .ok (ofChars dialect cs)
    | none => .error (.parseFailed path (text "surrogates not allowed"))

def module (path : Text) (file : ParsedFile) : Except ResolutionError Module :=
  match file.root.statements? file.source with
  | some body => .ok ⟨body, path, file.root.errorCount⟩
  | none => .error (.tooDeep path)

end ParsedFile

def Module.ofText (path language content : Text) : Except ResolutionError Module :=
  match ParsedFile.ofText path language content with
  | .ok file => file.module path
  | .error e => .error e

inductive ExprError where
  | unreadable (cause : ResolutionError)
  /-- The text holds a surrogate, so it has no bytes. -/
  | unencodable
  | nestedTooDeep

def expressionPath : Text := text "<expression>"

def ResolutionError.notExpression (content : Text) : ResolutionError :=
  .parseFailed expressionPath (text "not an expression: " ++ content.quoted)

def ParsedFile.inParentheses (dialect : Dialect) (cs : List Char) : ParsedFile :=
  ofChars dialect ('(' :: cs ++ [')', ';'])

/-- Reads one expression, such as `variants[size]`. It is read as a statement in parentheses, which
must hold no syntax error. -/
def Expr.ofText (content language : Text) : Except ExprError Expr :=
  match content.mapM CodePoint.toChar? with
  | none => .error .unencodable
  | some cs =>
    match Dialect.choose expressionPath language with
    | .error e => .error (.unreadable e)
    | .ok dialect =>
      let file := ParsedFile.inParentheses dialect cs
      let refused := ExprError.unreadable (.notExpression content)
      match file.root.namedChildren with
      | [] => .error refused
      | statement :: _ =>
        if statement.kind = "expression_statement" ∧ file.root.errorCount = 0 then
          match statement.namedChildren with
          | [] => .error refused
          | e :: _ =>
            match e.lower? file.source with
            | some e => .ok e
            | none => .error .nestedTooDeep
        else .error refused

end StateCoverage
