import StateCoverage.Text.CodePoint

/-!
How many columns a text takes up, and tabs in it.
-/
namespace StateCoverage

/-- Ranges of East Asian and pictographic characters, which take two columns. -/
def wideRanges : List (Nat × Nat) := [
  (0x1100, 0x115F), (0x231A, 0x231B), (0x23E9, 0x23EC), (0x2614, 0x2615), (0x2648, 0x2653),
  (0x26AA, 0x26AB), (0x2705, 0x2705), (0x270A, 0x270B), (0x2728, 0x2728), (0x274C, 0x274C),
  (0x2753, 0x2755), (0x2795, 0x2797), (0x2B1B, 0x2B1C), (0x2B50, 0x2B50), (0x2B55, 0x2B55),
  (0x2E80, 0x303E), (0x3041, 0x33FF), (0x3400, 0x4DBF), (0x4E00, 0xA4CF), (0xA960, 0xA97C),
  (0xAC00, 0xD7A3), (0xF900, 0xFAFF), (0xFE10, 0xFE19), (0xFE30, 0xFE6F), (0xFF01, 0xFF60),
  (0xFFE0, 0xFFE6), (0x16FE0, 0x18CFF), (0x1B000, 0x1B2FB), (0x1F300, 0x1F320), (0x1F32D, 0x1F335),
  (0x1F337, 0x1F37C), (0x1F37E, 0x1F393), (0x1F3A0, 0x1F3CA), (0x1F3E0, 0x1F3F0),
  (0x1F400, 0x1F43E), (0x1F442, 0x1F4FC), (0x1F4FF, 0x1F53D), (0x1F54B, 0x1F567),
  (0x1F5FB, 0x1F64F), (0x1F680, 0x1F6C5), (0x1F7E0, 0x1F7EB), (0x1F90C, 0x1F93A),
  (0x1F93C, 0x1F945), (0x1F947, 0x1F9FF), (0x1FA70, 0x1FAFF), (0x20000, 0x3FFFD)]

/-- Ranges of characters that take no column: controls, marks on other characters, and joiners. -/
def emptyRanges : List (Nat × Nat) := [
  (0, 0x1F), (0x7F, 0x9F), (0x300, 0x36F), (0x483, 0x489), (0x591, 0x5BD), (0x610, 0x61A),
  (0x64B, 0x65F), (0x1AB0, 0x1AFF), (0x1DC0, 0x1DFF), (0x200B, 0x200F), (0x2028, 0x202E),
  (0x2060, 0x2063), (0x20D0, 0x20F0), (0xFE00, 0xFE0F), (0xFE20, 0xFE2F), (0xE0100, 0xE01EF)]

def CodePoint.columns (p : CodePoint) : Nat :=
  let isIn (ranges : List (Nat × Nat)) : Bool :=
    ranges.any fun (low, high) => low ≤ p.toNat && p.toNat ≤ high
  if isIn emptyRanges then 0 else if isIn wideRanges then 2 else 1

namespace Text

def expandTabsFrom : Nat → Text → Text
  | _, [] => []
  | column, p :: rest =>
    if p = .scalar '\t' then
      let next := (column / 8 + 1) * 8
      List.replicate (next - column) (.scalar ' ') ++ expandTabsFrom next rest
    else if p = .scalar '\n' then p :: expandTabsFrom 0 rest
    else p :: expandTabsFrom (column + p.columns) rest

def expandTabs (t : Text) : Text := expandTabsFrom 0 t

end Text

end StateCoverage
