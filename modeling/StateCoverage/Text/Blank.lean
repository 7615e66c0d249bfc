import StateCoverage.Text.CodePoint

/-!
White space, and the words that it separates.
-/
namespace StateCoverage

/-- White space: the Unicode white space characters, and the four ASCII separators. -/
def CodePoint.isBlank (p : CodePoint) : Bool :=
  let n := p.toNat
  (9 ≤ n && n ≤ 13) || (28 ≤ n && n ≤ 32) || n == 0x85 || n == 0xA0 || n == 0x1680
    || (0x2000 ≤ n && n ≤ 0x200A) || n == 0x2028 || n == 0x2029 || n == 0x202F || n == 0x205F
    || n == 0x3000

namespace Text

def consWord (word : Text) (words : List Text) : List Text :=
  if word = [] then words else word :: words

def splitWord : Text → Text × List Text
  | [] => ([], [])
  | c :: rest =>
    let (word, words) := splitWord rest
    if c.isBlank then ([], consWord word words) else (c :: word, words)

/-- The maximal runs of non-blanks, in order. -/
def words (t : Text) : List Text :=
  let (word, rest) := splitWord t
  consWord word rest

end Text

end StateCoverage
