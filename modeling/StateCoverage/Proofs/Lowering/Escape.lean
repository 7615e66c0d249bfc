import StateCoverage.Lowering.Escape
import Mathlib.Data.List.Induction

/-!
What the body of a string literal denotes, unit by unit. A unit is one code point or one escape; the
decoding of a body made of units is made of what they stand for, whatever stands next to a unit.
-/
namespace StateCoverage

namespace Escape

section Numerals

def HexDigit (p : CodePoint) (value : Nat) : Prop :=
  (text "0123456789abcdef")[value]? = some p ∨ (text "0123456789ABCDEF")[value]? = some p

/-- Digits in base 16 with the number that they write. -/
inductive HexNumeral : Text → Nat → Prop
  | nil : HexNumeral [] 0
  | snoc {digits : Text} {p : CodePoint} {n value : Nat} :
      HexNumeral digits n → HexDigit p value → HexNumeral (digits ++ [p]) (16 * n + value)

theorem hexDigit?_of_hexDigit {p : CodePoint} {value : Nat} (h : HexDigit p value) :
    hexDigit? p = some value := by
  have hlower : ∀ i : Fin 16, hexDigit? (text "0123456789abcdef")[i] = some i.val := by decide
  have hupper : ∀ i : Fin 16, hexDigit? (text "0123456789ABCDEF")[i] = some i.val := by decide
  obtain h | h := h
  · obtain ⟨hlt, rfl⟩ := List.getElem?_eq_some_iff.mp h
    exact hlower ⟨value, hlt⟩
  · obtain ⟨hlt, rfl⟩ := List.getElem?_eq_some_iff.mp h
    exact hupper ⟨value, hlt⟩

/-- A reading of digits takes a whole numeral, and goes on behind it if it may take more. -/
theorem HexNumeral.leading_append {digits : Text} {n : Nat} (h : HexNumeral digits n) :
    ∃ values, values.length = digits.length ∧ valueOf 16 values = n ∧ ∀ count rest,
      leading hexDigit? (digits.length + count) (digits ++ rest) =
        values ++ leading hexDigit? count rest := by
  induction h with
  | nil => exact ⟨[], rfl, rfl, fun count rest => by simp⟩
  | @snoc digits p n value _ hp ih =>
    obtain ⟨values, hlength, hvalue, hread⟩ := ih
    refine ⟨values ++ [value], by simp [hlength], ?_, fun count rest => ?_⟩
    · rw [valueOf, List.foldl_append, ← valueOf, hvalue]
      simp [Nat.mul_comm]
    · have hnext : leading hexDigit? (1 + count) (p :: rest) =
          value :: leading hexDigit? count rest := by
        rw [Nat.add_comm, leading, hexDigit?_of_hexDigit hp]
      rw [List.length_append, List.append_assoc, Nat.add_assoc, List.singleton_append,
        List.length_singleton, hread, hnext, List.append_assoc, List.singleton_append]

theorem HexNumeral.ne_nil {digits : Text} {n : Nat} (h : HexNumeral digits n) (hn : 0 < n) :
    digits ≠ [] := by
  intro hnil
  obtain ⟨values, hlength, hvalue, -⟩ := h.leading_append
  rw [hnil, List.length_nil, List.length_eq_zero_iff] at hlength
  rw [hlength] at hvalue
  exact absurd hvalue (Nat.ne_of_lt hn)

theorem exists_hexNumeral {digits : Text} (h : ∀ p ∈ digits, ∃ value, HexDigit p value) :
    ∃ n < Nat.pow 16 digits.length, HexNumeral digits n := by
  induction digits using List.reverseRecOn with
  | nil => exact ⟨0, by decide, .nil⟩
  | append_singleton digits p ih =>
    obtain ⟨n, hlt, hn⟩ := ih fun q hq => h q (List.mem_append_left [p] hq)
    obtain ⟨value, hp⟩ := h p (List.mem_append_right digits List.mem_cons_self)
    have hvalue : value < 16 := by
      obtain hp | hp := hp
      · exact (List.getElem?_eq_some_iff.mp hp).1
      · exact (List.getElem?_eq_some_iff.mp hp).1
    refine ⟨16 * n + value, ?_, hn.snoc hp⟩
    have hpow : Nat.pow 16 (digits.length + 1) = Nat.pow 16 digits.length * 16 := rfl
    rw [List.length_append, List.length_singleton, hpow]
    omega

theorem HexNumeral.hex?_append {digits : Text} {n : Nat} (h : HexNumeral digits n) (rest : Text) :
    hex? digits.length (digits ++ rest) = some n := by
  obtain ⟨values, hlength, hvalue, hread⟩ := h.leading_append
  have hleading : leading hexDigit? digits.length (digits ++ rest) = values := by
    have h0 := hread 0 rest
    rwa [leading, List.append_nil] at h0
  rw [hex?, hleading, if_pos hlength, hvalue]

theorem HexNumeral.braced?_append {digits : Text} {n : Nat} (h : HexNumeral digits n)
    (hne : digits ≠ []) (rest : Text) :
    braced? (digits ++ .scalar '\x7d' :: rest) = some (n, digits.length) := by
  obtain ⟨values, hlength, hvalue, hread⟩ := h.leading_append
  have hstop : leading hexDigit? (rest.length + 1) (.scalar '\x7d' :: rest) = [] := rfl
  have hleading : leading hexDigit? (digits ++ .scalar '\x7d' :: rest).length
      (digits ++ .scalar '\x7d' :: rest) = values := by
    rw [List.length_append, List.length_cons, hread, hstop, List.append_nil]
  have hvalues : values ≠ [] := by
    rwa [← List.length_pos_iff, hlength, List.length_pos_iff]
  have hclosed : (digits ++ .scalar '\x7d' :: rest)[values.length]? = some (.scalar '\x7d') := by
    rw [hlength, List.getElem?_append_right (Nat.le_refl _), Nat.sub_self, List.getElem?_cons_zero]
  rw [braced?, hleading, if_pos ⟨hvalues, hclosed⟩, hvalue, hlength]

end Numerals

section Units

def controls : List (CodePoint × CodePoint) :=
  [('n', '\n'), ('t', '\t'), ('r', '\r'), ('b', '\x08'), ('f', '\x0C'), ('v', '\x0B')].map
    fun (letter, control) => (.scalar letter, .scalar control)

def lineEnds : List Text := [text "\n", text "\r\n", text "\r", text "\u2028", text "\u2029"]

/-- A unit of the body of a literal, with what it stands for. -/
inductive Stands : Text → Text → Prop
  | plain {p : CodePoint} : p ≠ '\\' → Stands [p] [p]
  | control {letter p : CodePoint} : (letter, p) ∈ controls → Stands ['\\', letter] [p]
  | null : Stands (text "\\0") [.scalar '\x00']
  | byte {digits : Text} {p : CodePoint} :
      HexNumeral digits p.toNat → digits.length = 2 → Stands (text "\\x" ++ digits) [p]
  | unicode {digits : Text} {p : CodePoint} :
      HexNumeral digits p.toNat → digits.length = 4 → Stands (text "\\u" ++ digits) [p]
  | braced {digits : Text} {p : CodePoint} : HexNumeral digits p.toNat → digits ≠ [] →
      Stands (text "\\u\x7b" ++ digits ++ text "\x7d") [p]
  /-- No code point has this number. -/
  | tooLarge {digits : Text} {n : Nat} : HexNumeral digits n → 0x10FFFF < n →
      Stands (text "\\u\x7b" ++ digits ++ text "\x7d") (text "\\u\x7b" ++ digits ++ text "\x7d")
  | lineEnd {e : Text} : e ∈ lineEnds → Stands ('\\' :: e) []
  | itself {p : CodePoint} : p ∉ text "ux01234567" → p ∉ controls.map Prod.fst →
      [p] ∉ lineEnds → Stands ['\\', p] [p]

/-- What follows a unit is no part of it: no octal digit behind `\0`, and no line feed behind a
carriage return that ends the unit. -/
def EndsBefore (s rest : Text) : Prop :=
  (s = text "\\0" → ∀ p ∈ rest.head?, p ∉ text "01234567") ∧
  (s = text "\\\r" → rest.head? ≠ some '\n')

instance (s rest : Text) : Decidable (EndsBefore s rest) := inferInstanceAs (Decidable (_ ∧ _))

/-- No unit is continued by those behind it. -/
def Spaced : List Text → Prop
  | [] => True
  | s :: rest => EndsBefore s rest.flatten ∧ Spaced rest

instance decidableSpaced : (list : List Text) → Decidable (Spaced list)
  | [] => .isTrue trivial
  | s :: rest =>
    have := decidableSpaced rest
    inferInstanceAs (Decidable (EndsBefore s rest.flatten ∧ Spaced rest))

variable {p : CodePoint} {s rest value : Text}

theorem decodeAfter_append (s rest : Text) : decodeAfter s.length (s ++ rest) = decode rest := by
  induction s with
  | nil => rfl
  | cons p s ih => rwa [List.length_cons, List.cons_append, decodeAfter]

theorem decode_cons_of_ne (h : p ≠ '\\') : decode (p :: rest) = p :: decode rest := by
  rw [decode, decodeAfter, if_neg h]
  rfl

theorem decode_of_escape? (h : escape? (s ++ rest) = some (value, s.length)) :
    decode (.scalar '\\' :: s ++ rest) = value ++ decode rest := by
  rw [List.cons_append, decode, decodeAfter, if_pos rfl, h]
  simp only [decodeAfter_append]

theorem escape?_of_hexEscape? {found : Text × Nat} (h : hexEscape? (p :: s) = some found) :
    escape? (p :: s) = some found := by
  rw [escape?, h]

theorem hexEscape?_byte {n : Nat} (h : hex? 2 s = some n) :
    hexEscape? (.scalar 'x' :: s) = some ((CodePoint.ofNat? n).toList, 3) := by
  rw [hexEscape?, h, Option.map_some]

theorem hexEscape?_unicode {n : Nat} (h : hex? 4 s = some n) :
    hexEscape? (.scalar 'u' :: s) = some ((CodePoint.ofNat? n).toList, 5) := by
  have hbrace : ∀ digits, s = .scalar '\x7b' :: digits → False := by
    intro digits hs
    subst hs
    cases h
  rw [hexEscape?, h, Option.map_some]
  exact hbrace

theorem hexEscape?_braced {n count : Nat} (h : braced? s = some (n, count))
    (hn : CodePoint.ofNat? n = some p) :
    hexEscape? (.scalar 'u' :: .scalar '\x7b' :: s) = some ([p], count + 3) := by
  rw [hexEscape?]
  simp only [h, hn, Option.map_some]

theorem hexEscape?_tooLarge {n count : Nat} (h : braced? s = some (n, count))
    (hn : CodePoint.ofNat? n = none) :
    hexEscape? (.scalar 'u' :: .scalar '\x7b' :: s) =
      some (text "\\u\x7b" ++ s.take (count + 1), count + 3) := by
  rw [hexEscape?]
  simp only [h, hn, Option.map_some]
  rfl

/-- Other escapes than those in base 16. -/
theorem escape?_of_not_hex (h : p ∉ text "ux") (rest : Text) :
    escape? (p :: rest) =
      if leading octalDigit? 3 (p :: rest) ≠ [] then
        some ((CodePoint.ofNat? (valueOf 8 (leading octalDigit? 3 (p :: rest)))).toList,
          (leading octalDigit? 3 (p :: rest)).length)
      else if p = .scalar '\r' ∧ rest.head? = some (.scalar '\n') then some ([], 2)
      else some (simple p, 1) := by
  have hhex : hexEscape? (p :: rest) = none := by
    unfold hexEscape?
    split
    · next heq =>
      cases heq
      exact absurd h (by decide)
    · next heq =>
      cases heq
      exact absurd h (by decide)
    · rfl
  rw [escape?, hhex]

theorem mem_of_octalDigit? {v : Nat} (h : octalDigit? p = some v) : p ∈ text "01234567" := by
  cases p with
  | surrogate offset => cases h
  | scalar c =>
    rw [octalDigit?] at h
    split at h
    · next hc =>
      have hlow : 48 ≤ c.toNat := hc.1
      have hhigh : c.toNat ≤ 55 := hc.2
      have hall : ∀ i : Fin 8, CodePoint.scalar (Char.ofNat (48 + i)) ∈ text "01234567" := by decide
      have hmem := hall ⟨c.toNat - 48, by omega⟩
      rwa [Nat.add_sub_cancel' hlow, Char.ofNat_toNat] at hmem
    · cases h

theorem leading_octal_eq_nil (h : p ∉ text "01234567") (count : Nat) :
    leading octalDigit? count (p :: rest) = [] := by
  cases count with
  | zero => rfl
  | succ count =>
    rw [leading]
    cases hp : octalDigit? p with
    | none => rfl
    | some v => exact absurd (mem_of_octalDigit? hp) h

theorem escape?_eq_simple (h : p ∉ text "ux01234567")
    (hr : p = .scalar '\r' → rest.head? ≠ some (.scalar '\n')) :
    escape? (p :: rest) = some (simple p, 1) := by
  have hhex : p ∉ text "ux" := fun hp => h (List.mem_append_left (text "01234567") hp)
  have hoctal : p ∉ text "01234567" := fun hp => h (List.mem_append_right (text "ux") hp)
  rw [escape?_of_not_hex hhex rest, leading_octal_eq_nil hoctal, if_neg (by simp),
    if_neg fun hp => hr hp.1 hp.2]

theorem decode_simple (h : p ∉ text "ux01234567")
    (hr : p = .scalar '\r' → rest.head? ≠ some (.scalar '\n')) :
    decode (.scalar '\\' :: p :: rest) = simple p ++ decode rest :=
  decode_of_escape? (s := [p]) (escape?_eq_simple h hr)

theorem simple_eq_self (hcontrol : p ∉ controls.map Prod.fst) (hline : [p] ∉ lineEnds) :
    simple p = [p] := by
  unfold simple
  split
  · exact absurd (by decide) hcontrol
  · exact absurd (by decide) hcontrol
  · exact absurd (by decide) hcontrol
  · exact absurd (by decide) hcontrol
  · exact absurd (by decide) hcontrol
  · exact absurd (by decide) hcontrol
  · exact absurd (by decide) hline
  · exact absurd (by decide) hline
  · exact absurd (by decide) hline
  · exact absurd (by decide) hline
  · rfl

/-- Decoding passes one unit. -/
theorem Stands.decode_append (h : Stands s value) (hend : EndsBefore s rest) :
    decode (s ++ rest) = value ++ decode rest := by
  cases h with
  | plain hp => exact decode_cons_of_ne hp
  | @control letter p hc =>
    have hall : ∀ c ∈ controls,
        c.1 ∉ text "ux01234567" ∧ c.1 ≠ .scalar '\r' ∧ simple c.1 = [c.2] := by decide
    obtain ⟨hletter, hr, hsimple⟩ := hall _ hc
    rw [← hsimple]
    exact decode_simple hletter fun heq => absurd heq hr
  | null =>
    have hstop : leading octalDigit? 2 rest = [] := by
      cases rest with
      | nil => rfl
      | cons p rest => exact leading_octal_eq_nil (hend.1 rfl p rfl) 2
    have hzero : leading octalDigit? 3 (.scalar '0' :: rest) = [0] := by
      rw [leading, hstop]
      rfl
    have hescape := escape?_of_not_hex (p := .scalar '0') (by decide) rest
    rw [hzero] at hescape
    exact decode_of_escape? (s := text "0") hescape
  | @byte digits p hn hlength =>
    have hhex := hn.hex?_append rest
    rw [hlength] at hhex
    have hescape := escape?_of_hexEscape? (hexEscape?_byte hhex)
    rw [CodePoint.ofNat?_toNat] at hescape
    refine decode_of_escape? (s := .scalar 'x' :: digits) ?_
    rwa [List.length_cons, hlength]
  | @unicode digits p hn hlength =>
    have hhex := hn.hex?_append rest
    rw [hlength] at hhex
    have hescape := escape?_of_hexEscape? (hexEscape?_unicode hhex)
    rw [CodePoint.ofNat?_toNat] at hescape
    refine decode_of_escape? (s := .scalar 'u' :: digits) ?_
    rwa [List.length_cons, hlength]
  | @braced digits p hn hne =>
    have hescape := escape?_of_hexEscape?
      (hexEscape?_braced (hn.braced?_append hne rest) (CodePoint.ofNat?_toNat p))
    have hread : escape? (text "u\x7b" ++ digits ++ text "\x7d" ++ rest) =
        some ([p], (text "u\x7b" ++ digits ++ text "\x7d").length) := by
      simpa [text] using hescape
    simpa [text] using decode_of_escape? hread
  | @tooLarge digits n hn hlarge =>
    have hbraced := hn.braced?_append (hn.ne_nil (by omega)) rest
    have hescape := escape?_of_hexEscape?
      (hexEscape?_tooLarge hbraced (CodePoint.ofNat?_eq_none hlarge))
    have htake : (digits ++ .scalar '\x7d' :: rest).take (digits.length + 1) =
        digits ++ text "\x7d" := by
      rw [List.take_length_add_append]
      rfl
    rw [htake] at hescape
    have hread : escape? (text "u\x7b" ++ digits ++ text "\x7d" ++ rest) =
        some (text "\\u\x7b" ++ digits ++ text "\x7d",
          (text "u\x7b" ++ digits ++ text "\x7d").length) := by
      simpa [text] using hescape
    simpa [text] using decode_of_escape? hread
  | lineEnd he =>
    simp only [lineEnds, List.mem_cons, List.not_mem_nil, or_false] at he
    obtain rfl | rfl | rfl | rfl | rfl := he
    · exact decode_simple (p := .scalar '\n') (by decide) nofun
    · have hescape := escape?_of_not_hex (p := .scalar '\r') (by decide) (.scalar '\n' :: rest)
      exact decode_of_escape? (s := text "\r\n") hescape
    · exact decode_simple (p := .scalar '\r') (by decide) fun _ => hend.2 rfl
    · exact decode_simple (p := .scalar '\u2028') (by decide) nofun
    · exact decode_simple (p := .scalar '\u2029') (by decide) nofun
  | @itself p hp hcontrol hline =>
    have hr : p = .scalar '\r' → rest.head? ≠ some (.scalar '\n') := by
      intro heq
      subst heq
      exact absurd (by decide) hline
    have hdecode := decode_simple hp hr
    rwa [simple_eq_self hcontrol hline] at hdecode

/-- Every escape in base 16 is a unit. -/
theorem exists_stands {digits : Text} (h : ∀ p ∈ digits, ∃ v, HexDigit p v) :
    (digits.length = 2 → ∃ p, Stands (text "\\x" ++ digits) [p]) ∧
    (digits.length = 4 → ∃ p, Stands (text "\\u" ++ digits) [p]) ∧
    (digits ≠ [] → ∃ t, Stands (text "\\u\x7b" ++ digits ++ text "\x7d") t) := by
  obtain ⟨n, hlt, hn⟩ := exists_hexNumeral h
  have hpoint (hle : n ≤ 0x10FFFF) : ∃ p : CodePoint, HexNumeral digits p.toNat := by
    obtain ⟨p, rfl⟩ := CodePoint.exists_toNat_eq hle
    exact ⟨p, hn⟩
  refine ⟨fun hlength => ?_, fun hlength => ?_, fun hne => ?_⟩
  · have hpow : Nat.pow 16 2 = 256 := rfl
    rw [hlength, hpow] at hlt
    obtain ⟨p, hp⟩ := hpoint (by omega)
    exact ⟨p, .byte hp hlength⟩
  · have hpow : Nat.pow 16 4 = 65536 := rfl
    rw [hlength, hpow] at hlt
    obtain ⟨p, hp⟩ := hpoint (by omega)
    exact ⟨p, .unicode hp hlength⟩
  · by_cases hle : n ≤ 0x10FFFF
    · obtain ⟨p, hp⟩ := hpoint hle
      exact ⟨[p], .braced hp hne⟩
    · exact ⟨_, .tooLarge hn (by omega)⟩

/-- Decoding takes a body apart into its units: a body of units that do not run into one another
denotes what the units stand for, one after the other. All escapes in base 16 are units. -/
theorem decode_units :
    (∀ digits : Text, (∀ p ∈ digits, ∃ v, HexDigit p v) →
      (digits.length = 2 → ∃ p, Stands (text "\\x" ++ digits) [p]) ∧
      (digits.length = 4 → ∃ p, Stands (text "\\u" ++ digits) [p]) ∧
      (digits ≠ [] → ∃ t, Stands (text "\\u\x7b" ++ digits ++ text "\x7d") t)) ∧
    ∀ units : List (Text × Text), (∀ u ∈ units, Stands u.1 u.2) → Spaced (units.map Prod.fst) →
      decode (units.map Prod.fst).flatten = (units.map Prod.snd).flatten := by
  refine ⟨fun digits => exists_stands, fun units hunits hspaced => ?_⟩
  induction units with
  | nil => rfl
  | cons u units ih =>
    rw [List.map_cons, List.flatten_cons, List.map_cons, List.flatten_cons,
      (hunits u List.mem_cons_self).decode_append hspaced.1,
      ih (fun v hv => hunits v (List.mem_cons_of_mem u hv)) hspaced.2]

/-- `\0` before an eight, `\xE9` before a digit, both halves of a pair, a number that no code point
has, a doubled backslash before `n`, and a line continuation. -/
def mixedUnits : List (Text × Text) :=
  [(text "\\0", [.scalar '\x00']), (text "8", text "8"), (text "\\xE9", text "é"),
    (text "9", text "9"),
    (text "\\uD83D", [.surrogate ⟨0x3D, by decide⟩]),
    (text "\\u\x7bDE00\x7d", [.surrogate ⟨0x600, by decide⟩]),
    (text "\\u\x7b110000\x7d", text "\\u\x7b110000\x7d"), (text "\\\\", text "\\"),
    (text "n", text "n"),
    (text "\\t", text "\t"), (text "\\\r\n", [])]

theorem mixedUnits_decode :
    (∀ u ∈ mixedUnits, Stands u.1 u.2) ∧ Spaced (mixedUnits.map Prod.fst) ∧
    decode (mixedUnits.map Prod.fst).flatten = (mixedUnits.map Prod.snd).flatten := by
  have digit (i : Fin 16) : HexDigit (text "0123456789ABCDEF")[i] i := .inr (by simp)
  have hbyte : HexNumeral (text "E9") (CodePoint.scalar 'é').toNat :=
    (HexNumeral.nil.snoc (digit 14)).snoc (digit 9)
  have hunicode : HexNumeral (text "D83D") (CodePoint.surrogate ⟨0x3D, by decide⟩).toNat :=
    (((HexNumeral.nil.snoc (digit 13)).snoc (digit 8)).snoc (digit 3)).snoc (digit 13)
  have hbraced : HexNumeral (text "DE00") (CodePoint.surrogate ⟨0x600, by decide⟩).toNat :=
    (((HexNumeral.nil.snoc (digit 13)).snoc (digit 14)).snoc (digit 0)).snoc (digit 0)
  have hlarge : HexNumeral (text "110000") 0x110000 :=
    (((((HexNumeral.nil.snoc (digit 1)).snoc (digit 1)).snoc (digit 0)).snoc (digit 0)).snoc
      (digit 0)).snoc (digit 0)
  have hstands : ∀ u ∈ mixedUnits, Stands u.1 u.2 := by
    simp only [mixedUnits, List.mem_cons, List.not_mem_nil, or_false]
    intro u hu
    obtain rfl | rfl | rfl | rfl | rfl | rfl | rfl | rfl | rfl | rfl | rfl := hu
    · exact .null
    · exact .plain (by decide)
    · have h := Stands.byte hbyte rfl
      exact h
    · exact .plain (by decide)
    · have h := Stands.unicode hunicode rfl
      exact h
    · have h := Stands.braced hbraced (by decide)
      exact h
    · have h := Stands.tooLarge hlarge (by decide)
      exact h
    · exact .itself (by decide) (by decide) (by decide)
    · exact .plain (by decide)
    · exact .control (by decide)
    · exact .lineEnd (e := text "\r\n") (by decide)
  have hspaced : Spaced (mixedUnits.map Prod.fst) := by decide
  exact ⟨hstands, hspaced, decode_units.2 mixedUnits hstands hspaced⟩

end Units

end Escape

end StateCoverage
