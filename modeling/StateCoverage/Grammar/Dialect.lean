import StateCoverage.Path

/-!
The dialects of component sources, and which of them a path chooses.
-/
namespace StateCoverage

/-- A dialect of the scripting language. Markup is part of `javascript` and `tsx`, types of
`typescript` and `tsx`. -/
inductive Dialect where
  | javascript
  | typescript
  | tsx
deriving DecidableEq

namespace Dialect

def name : Dialect → String
  | javascript => "javascript"
  | typescript => "typescript"
  | tsx => "tsx"

def ofName? (name : Text) : Option Dialect :=
  [javascript, typescript, tsx].find? fun d => text d.name = name

def hasTypes (d : Dialect) : Bool := d ≠ javascript

def hasMarkup (d : Dialect) : Bool := d ≠ typescript

def ofExtension : List (Text × Dialect) :=
  [("js", javascript), ("jsx", javascript), ("mjs", javascript), ("cjs", javascript),
    ("ts", typescript), ("mts", typescript), ("cts", typescript), ("tsx", tsx)].map
    fun (extension, d) => (text extension, d)

def ofPath? (path : Text) : Option Dialect :=
  ofExtension.lookup ((Path.suffix path).lowerAscii.dropWhile (· = .scalar '.'))

end Dialect

end StateCoverage
