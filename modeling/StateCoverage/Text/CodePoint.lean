/-!
Text as a list of code points. A string escape may name one half of a surrogate pair, which is no
character, so class text is a list of code points and not of characters.
-/
namespace StateCoverage

/-- A Unicode code point: a character, or one of the 2048 surrogates, counted from U+D800. -/
inductive CodePoint where
  | scalar (c : Char)
  | surrogate (offset : Fin 2048)
deriving DecidableEq

instance : Inhabited CodePoint := ⟨.scalar ' '⟩

instance : Coe Char CodePoint := ⟨.scalar⟩

abbrev Text := List CodePoint

instance decidableMemText (t : Text) : (l : List Text) → Decidable (t ∈ l)
  | [] => .isFalse List.not_mem_nil
  | u :: rest =>
    if h : t = u then .isTrue (List.mem_cons.mpr (.inl h))
    else
      match decidableMemText t rest with
      | .isTrue isIn => .isTrue (List.mem_cons.mpr (.inr isIn))
      | .isFalse isOut => .isFalse fun found => (List.mem_cons.mp found).elim h isOut

def text (s : String) : Text := s.toList.map .scalar

namespace CodePoint

def toNat : CodePoint → Nat
  | .scalar c => c.toNat
  | .surrogate offset => 0xD800 + offset

def ofNat? (n : Nat) : Option CodePoint :=
  if h : n.isValidChar then some (.scalar (Char.ofNatAux n h))
  else if h : 0xD800 ≤ n ∧ n < 0xE000 then some (.surrogate ⟨n - 0xD800, by omega⟩)
  else none

theorem exists_toNat_eq {n : Nat} (h : n ≤ 0x10FFFF) : ∃ p : CodePoint, p.toNat = n := by
  by_cases hs : 0xD800 ≤ n ∧ n < 0xE000
  · refine ⟨.surrogate ⟨n - 0xD800, by omega⟩, ?_⟩
    simp only [toNat]
    omega
  · have hv : n.isValidChar := by
      unfold Nat.isValidChar
      omega
    exact ⟨.scalar (Char.ofNatAux n hv), rfl⟩

theorem ofNat?_toNat (p : CodePoint) : ofNat? p.toNat = some p := by
  cases p with
  | scalar c =>
    have hv : (scalar c).toNat.isValidChar := c.valid
    rw [ofNat?, dif_pos hv]
    rfl
  | surrogate offset =>
    have hlt := offset.isLt
    have hv : ¬ (0xD800 + offset.val).isValidChar := by
      unfold Nat.isValidChar
      omega
    rw [ofNat?, toNat, dif_neg hv, dif_pos (by omega)]
    simp

theorem ofNat?_eq_none {n : Nat} (h : 0x10FFFF < n) : ofNat? n = none := by
  have hv : ¬ n.isValidChar := by
    unfold Nat.isValidChar
    omega
  rw [ofNat?, dif_neg hv, dif_neg (by omega)]

def toChar? : CodePoint → Option Char
  | .scalar c => some c
  | .surrogate _ => none

def isChar (p : CodePoint) (c : Char) : Bool := p = .scalar c

end CodePoint

namespace Text

def toString? (t : Text) : Option String := (t.mapM CodePoint.toChar?).map String.ofList

def ofNat (n : Nat) : Text := text (toString n)

def join (separator : Text) : List Text → Text
  | [] => []
  | [part] => part
  | part :: rest => part ++ separator ++ join separator rest

/-- The text cut at every `c`: one more part than there are `c`. -/
def cut (c : Char) : Text → List Text
  | [] => [[]]
  | p :: rest =>
    if p = .scalar c then [] :: cut c rest
    else match cut c rest with
      | [] => [[p]]
      | part :: parts => (p :: part) :: parts

def startsWith (start : Text) (t : Text) : Bool := start.isPrefixOf t

def endsWith (stop : Text) (t : Text) : Bool := stop.isSuffixOf t

def after? : Text → Text → Option Text
  | [], t => some t
  | _ :: _, [] => none
  | c :: start, d :: t => if c = d then after? start t else none

def lowerAscii (t : Text) : Text :=
  t.map fun
    | .scalar c => .scalar c.toLower
    | p => p

end Text

end StateCoverage
