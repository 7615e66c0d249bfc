import StateCoverage.Expr.Basic

/-!
Short texts that point a reader to an expression.
-/
namespace StateCoverage

def placeholder : Text := text "<expr>"

/-- Names, string literals and access paths as they are written; all else as the placeholder. -/
def Expr.render : Expr → Text
  | .name x => x
  | .member target (.name property) => render target ++ text "." ++ property
  | .member target _ => render target ++ text "." ++ placeholder
  | .index target key => render target ++ text "[" ++ render key ++ text "]"
  | .string value => text "\"" ++ value ++ text "\""
  | _ => placeholder

end StateCoverage
