import StateCoverage.Text.Printable

/-!
Quoted texts, as messages and listings show them. The quote is `'`, or `"` when the text holds a
`'` and no `"`; what cannot be printed is written as an escape.
-/
namespace StateCoverage

def hexDigits (width n : Nat) : Text :=
  let digits := Nat.toDigits 16 n
  (List.replicate (width - digits.length) '0' ++ digits).map .scalar

namespace Text

def escapeIn (quote : Char) (p : CodePoint) : Text :=
  if p = .scalar quote ∨ p = .scalar '\\' then ['\\', p]
  else if p = .scalar '\n' then text "\\n"
  else if p = .scalar '\r' then text "\\r"
  else if p = .scalar '\t' then text "\\t"
  else if p.isPrintable then [p]
  else
    let n := p.toNat
    if n < 0x100 then text "\\x" ++ hexDigits 2 n
    else if n < 0x10000 then text "\\u" ++ hexDigits 4 n
    else text "\\U" ++ hexDigits 8 n

def quoted (t : Text) : Text :=
  let quote := if t.elem (.scalar '\'') && !t.elem (.scalar '"') then '"' else '\''
  [.scalar quote] ++ t.flatMap (escapeIn quote) ++ [.scalar quote]

end Text

end StateCoverage
