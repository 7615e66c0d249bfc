import StateCoverage.Syntax.Basic
import Mathlib.Data.List.Basic

/-!
Bytes as text, whole and in parts. What is encoded is decoded to itself. Where the second of two
parts begins with no continuation byte, nothing is lost at the seam: what is ill-formed in the first
part ends there.
-/
namespace StateCoverage

namespace Utf8

/-- Bytes that begin with no continuation byte: a character may begin here. -/
def Fresh (bytes : List UInt8) : Prop := ∀ b ∈ bytes.head?, isTail b = false

theorem fresh_nil : Fresh [] := nofun

theorem fresh_cons {b : UInt8} {rest : List UInt8} : Fresh (b :: rest) ↔ isTail b = false := by
  simp [Fresh]

/-- The bounds of the first continuation byte are those of any, or narrower. -/
theorem startByte?_bounds {b low high : UInt8} {count bits : Nat}
    (h : startByte? b = some (count, low, high, bits)) : 0x80 ≤ low ∧ high ≤ 0xBF := by
  unfold startByte? at h
  repeat' split at h
  all_goals
    first
    | cases h; decide
    | cases h

theorem length_continuation (count : Nat) (low high : UInt8) (bits length : Nat)
    (bytes : List UInt8) :
    length ≤ (continuation count low high bits length bytes).length ∧
      (continuation count low high bits length bytes).length ≤ length + bytes.length := by
  induction bytes generalizing count low high bits length with
  | nil => cases count <;> simp [continuation, Lead.length]
  | cons b rest ih =>
    cases count with
    | zero => simp [continuation, Lead.length]
    | succ count =>
      rw [continuation]
      split
      · have h := ih count 0x80 0xBF (bits * 64 + tailBits b) (length + 1)
        rw [List.length_cons]
        omega
      · simp [Lead.length]

/-- Bytes that begin no continuation end it as the end of the bytes does. -/
theorem continuation_append {low high : UInt8} (count bits length : Nat) {more : List UInt8}
    (hmore : Fresh more) (hlow : 0x80 ≤ low) (hhigh : high ≤ 0xBF) (bytes : List UInt8) :
    (continuation count low high bits length (bytes ++ more)).shown =
        (continuation count low high bits length bytes).shown ∧
      (continuation count low high bits length (bytes ++ more)).length =
        (continuation count low high bits length bytes).length := by
  induction bytes generalizing count low high bits length with
  | nil =>
    cases count with
    | zero => cases more <;> exact ⟨rfl, rfl⟩
    | succ count =>
      cases more with
      | nil => exact ⟨rfl, rfl⟩
      | cons b rest =>
        have hout : ¬ (low ≤ b ∧ b ≤ high) := by
          rintro ⟨hl, hh⟩
          have htail : isTail b = true := by
            simpa [isTail] using ⟨UInt8.le_trans hlow hl, UInt8.le_trans hh hhigh⟩
          rw [fresh_cons.mp hmore] at htail
          cases htail
        have hcut : continuation (count + 1) low high bits length (b :: rest) =
            .illFormed .invalidContinuation length := by
          rw [continuation, if_neg hout]
        rw [List.nil_append, hcut]
        exact ⟨rfl, rfl⟩
  | cons b rest ih =>
    cases count with
    | zero => exact ⟨rfl, rfl⟩
    | succ count =>
      rw [List.cons_append, continuation, continuation]
      split
      · exact ih count _ _ (by decide) (by decide)
      · exact ⟨rfl, rfl⟩

theorem length_lead (b : UInt8) (rest : List UInt8) :
    1 ≤ (lead b rest).length ∧ (lead b rest).length ≤ rest.length + 1 := by
  unfold lead
  split
  · simp [Lead.length]
  · split
    · simp [Lead.length]
    · next count low high bits _ =>
      have h := length_continuation count low high bits 1 rest
      omega

theorem lead_append {more : List UInt8} (hmore : Fresh more) (b : UInt8) (rest : List UInt8) :
    (lead b (rest ++ more)).shown = (lead b rest).shown ∧
      (lead b (rest ++ more)).length = (lead b rest).length := by
  unfold lead
  split
  · exact ⟨rfl, rfl⟩
  · split
    · exact ⟨rfl, rfl⟩
    · next hstart =>
      obtain ⟨hlow, hhigh⟩ := startByte?_bounds hstart
      exact continuation_append _ _ _ hmore hlow hhigh rest

theorem decode_append {more : List UInt8} (hmore : Fresh more) (bytes : List UInt8) :
    decode (bytes ++ more) = decode bytes ++ decode more := by
  induction bytes using decode.induct with
  | case1 => rw [List.nil_append, decode, List.nil_append]
  | case2 b rest found ih =>
    obtain ⟨hshown, hlength⟩ := lead_append hmore b rest
    have hle := (length_lead b rest).2
    rw [List.cons_append, decode, decode, hshown, hlength,
      List.drop_append_of_le_length (by omega), ih, List.cons_append]

theorem decodeText_append {more : List UInt8} (hmore : Fresh more) (bytes : List UInt8) :
    decodeText (bytes ++ more) = decodeText bytes ++ decodeText more := by
  rw [decodeText, decode_append hmore, List.map_append]
  rfl

theorem isTail_ofNat {n : Nat} (h : n < 256) (hn : n < 128 ∨ 191 < n) :
    isTail (UInt8.ofNat n) = false := by
  simp only [isTail, Bool.and_eq_false_iff, decide_eq_false_iff_not, UInt8.le_iff_toNat_le,
    UInt8.toNat_ofNat_of_lt' h]
  simp only [UInt8.reduceToNat]
  omega

/-- The first byte of a character is no continuation byte. -/
theorem fresh_encode (cs : List Char) : Fresh (encode cs) := by
  cases cs with
  | nil => exact fresh_nil
  | cons c rest =>
    rw [encode, List.flatMap_cons, String.utf8EncodeChar]
    repeat' split
    all_goals exact fresh_cons.mpr (isTail_ofNat (by omega) (by omega))

theorem fresh_take {bytes : List UInt8} (h : Fresh bytes) (n : Nat) : Fresh (bytes.take n) := by
  cases n with
  | zero => exact fresh_nil
  | succ n => cases bytes <;> exact h

theorem encode_append (as bs : List Char) : encode (as ++ bs) = encode as ++ encode bs :=
  List.flatMap_append

section RoundTrip

/-- A continuation byte that carries the bits `n`. -/
theorem tail_ofNat {n : Nat} (h : n < 64) :
    tailBits (UInt8.ofNat (n + 128)) = n ∧
      0x80 ≤ UInt8.ofNat (n + 128) ∧ UInt8.ofNat (n + 128) ≤ 0xBF :=
  (show ∀ n < 64, tailBits (UInt8.ofNat (n + 128)) = n ∧
    0x80 ≤ UInt8.ofNat (n + 128) ∧ UInt8.ofNat (n + 128) ≤ 0xBF by decide) n h

/-- Two bytes carry no value that fits into one. -/
theorem startByte?_two {n : Nat} (h : n < 32) :
    startByte? (UInt8.ofNat (n + 192)) = if 2 ≤ n then some (1, 0x80, 0xBF, n) else none :=
  (show ∀ n < 32, startByte? (UInt8.ofNat (n + 192)) =
    if 2 ≤ n then some (1, 0x80, 0xBF, n) else none by decide) n h

/-- The least bound keeps out what fits into two bytes, the greatest one the surrogates. -/
theorem startByte?_three {n : Nat} (h : n < 16) :
    startByte? (UInt8.ofNat (n + 224)) =
      some (2, if n = 0 then 0xA0 else 0x80, if n = 13 then 0x9F else 0xBF, n) :=
  (show ∀ n < 16, startByte? (UInt8.ofNat (n + 224)) =
    some (2, if n = 0 then 0xA0 else 0x80, if n = 13 then 0x9F else 0xBF, n) by decide) n h

/-- The least bound keeps out what fits into three bytes, the greatest one what is above
U+10FFFF. -/
theorem startByte?_four {n : Nat} (h : n ≤ 4) :
    startByte? (UInt8.ofNat (n + 240)) =
      some (3, if n = 0 then 0x90 else 0x80, if n = 4 then 0x8F else 0xBF, n) :=
  (show ∀ n ≤ 4, startByte? (UInt8.ofNat (n + 240)) =
    some (3, if n = 0 then 0x90 else 0x80, if n = 4 then 0x8F else 0xBF, n) by decide) n h

theorem lead_of_startByte? {b low high : UInt8} {count bits : Nat} (h : 0x80 ≤ b)
    (hstart : startByte? b = some (count, low, high, bits)) (rest : List UInt8) :
    lead b rest = continuation count low high bits 1 rest := by
  rw [lead, if_neg (UInt8.not_lt.mpr h), hstart]

theorem continuation_tail {low high : UInt8} {count bits length n : Nat} (h : n < 64)
    (hbounds : low ≤ UInt8.ofNat (n + 128) ∧ UInt8.ofNat (n + 128) ≤ high) (rest : List UInt8) :
    continuation (count + 1) low high bits length (UInt8.ofNat (n + 128) :: rest) =
      continuation count 0x80 0xBF (bits * 64 + n) (length + 1) rest := by
  rw [continuation, if_pos hbounds, (tail_ofNat h).1]

/-- The last continuation byte makes the character whole. -/
theorem continuation_last {low high : UInt8} {bits length n : Nat} (h : n < 64)
    (hbounds : low ≤ UInt8.ofNat (n + 128) ∧ UInt8.ofNat (n + 128) ≤ high) :
    continuation 1 low high bits length [UInt8.ofNat (n + 128)] =
      .character (Char.ofNat (bits * 64 + n)) (length + 1) := by
  rw [continuation_tail h hbounds, continuation]

theorem decode_of_lead {b : UInt8} {rest : List UInt8} {c : Char}
    (h : lead b rest = .character c (rest.length + 1)) : decode (b :: rest) = [c] := by
  rw [decode, h]
  simp only [Lead.shown, Lead.length, Nat.add_sub_cancel, List.drop_length]
  rw [decode]

theorem le_ofNat {n k : Nat} (hn : n < 256) (hk : k ≤ n) : UInt8.ofNat k ≤ UInt8.ofNat n := by
  rwa [UInt8.le_iff_toNat_le, UInt8.toNat_ofNat_of_lt' hn,
    UInt8.toNat_ofNat_of_lt' (Nat.lt_of_le_of_lt hk hn)]

theorem lead_one {v : Nat} (h : v ≤ 127) :
    lead (UInt8.ofNat v) [] = .character (Char.ofNat v) 1 := by
  have hv : (UInt8.ofNat v).toNat = v := UInt8.toNat_ofNat_of_lt' (Nat.lt_of_le_of_lt h (by decide))
  have hlt : UInt8.ofNat v < 0x80 := by
    rw [UInt8.lt_iff_toNat_lt, hv]
    exact Nat.lt_succ_of_le h
  rw [lead, if_pos hlt, hv]

theorem lead_two {v : Nat} (hlow : 127 < v) (hhigh : v ≤ 2047) :
    lead (UInt8.ofNat (v / 64 % 32 + 192)) [UInt8.ofNat (v % 64 + 128)] =
      .character (Char.ofNat v) 2 := by
  have hstart := startByte?_two (n := v / 64 % 32) (by omega)
  rw [if_pos (by omega)] at hstart
  rw [lead_of_startByte? (le_ofNat (k := 128) (by omega) (by omega)) hstart,
    continuation_last (by omega) (tail_ofNat (by omega)).2]
  congr 2
  omega

theorem lead_three {v : Nat} (hlow : 2047 < v) (hhigh : v ≤ 65535) (hvalid : v.isValidChar) :
    lead (UInt8.ofNat (v / 4096 % 16 + 224))
        [UInt8.ofNat (v / 64 % 64 + 128), UInt8.ofNat (v % 64 + 128)] =
      .character (Char.ofNat v) 3 := by
  have hsecond : (if v / 4096 % 16 = 0 then 0xA0 else 0x80) ≤ UInt8.ofNat (v / 64 % 64 + 128) ∧
      UInt8.ofNat (v / 64 % 64 + 128) ≤ if v / 4096 % 16 = 13 then 0x9F else 0xBF := by
    constructor
    · split
      · exact le_ofNat (k := 0xA0) (by omega) (by omega)
      · exact le_ofNat (k := 0x80) (by omega) (by omega)
    · split
      · exact le_ofNat (n := 0x9F) (by omega) (by omega)
      · exact le_ofNat (n := 0xBF) (by omega) (by omega)
  rw [lead_of_startByte? (le_ofNat (k := 128) (by omega) (by omega)) (startByte?_three (by omega)),
    continuation_tail (by omega) hsecond, continuation_last (by omega) (tail_ofNat (by omega)).2]
  congr 2
  omega

theorem lead_four {v : Nat} (hlow : 65535 < v) (hhigh : v < 1114112) :
    lead (UInt8.ofNat (v / 262144 % 8 + 240))
        [UInt8.ofNat (v / 4096 % 64 + 128), UInt8.ofNat (v / 64 % 64 + 128),
          UInt8.ofNat (v % 64 + 128)] =
      .character (Char.ofNat v) 4 := by
  have hsecond : (if v / 262144 % 8 = 0 then 0x90 else 0x80) ≤ UInt8.ofNat (v / 4096 % 64 + 128) ∧
      UInt8.ofNat (v / 4096 % 64 + 128) ≤ if v / 262144 % 8 = 4 then 0x8F else 0xBF := by
    constructor
    · split
      · exact le_ofNat (k := 0x90) (by omega) (by omega)
      · exact le_ofNat (k := 0x80) (by omega) (by omega)
    · split
      · exact le_ofNat (n := 0x8F) (by omega) (by omega)
      · exact le_ofNat (n := 0xBF) (by omega) (by omega)
  rw [lead_of_startByte? (le_ofNat (k := 128) (by omega) (by omega)) (startByte?_four (by omega)),
    continuation_tail (by omega) hsecond,
    continuation_tail (by omega) (tail_ofNat (by omega)).2,
    continuation_last (by omega) (tail_ofNat (by omega)).2]
  congr 2
  omega

/-- What is encoded is decoded to itself. -/
theorem decode_encodeChar (c : Char) : decode (String.utf8EncodeChar c) = [c] := by
  have hvalid : c.val.toNat.isValidChar := c.valid
  have hc : Char.ofNat c.val.toNat = c := Char.ofNat_toNat c
  rw [String.utf8EncodeChar]
  generalize c.val.toNat = v at hc hvalid ⊢
  obtain rfl := hc
  split
  · exact decode_of_lead (lead_one (by omega))
  · split
    · exact decode_of_lead (lead_two (by omega) (by omega))
    · split
      · exact decode_of_lead (lead_three (by omega) (by omega) hvalid)
      · exact decode_of_lead (lead_four (by omega) (by omega))

theorem decode_encode (cs : List Char) : decode (encode cs) = cs := by
  induction cs with
  | nil => rw [encode, List.flatMap_nil, decode]
  | cons c rest ih =>
    have hsplit : encode (c :: rest) = String.utf8EncodeChar c ++ encode rest := List.flatMap_cons
    rw [hsplit, decode_append (fresh_encode rest), decode_encodeChar, ih]
    rfl

end RoundTrip

end Utf8

/-- A place in the bytes of some characters that stands between two of them, or at an end. -/
def Between (cs : List Char) (position : Nat) : Prop :=
  ∃ before after, cs = before ++ after ∧ position = (Utf8.encode before).length

namespace Source
variable {cs : List Char} {a b c : Nat}

theorem fresh_of_between (h : Between cs b) :
    Utf8.Fresh (((ofBytes (Utf8.encode cs)).bytes.extract b c).toList) := by
  obtain ⟨before, after, rfl, rfl⟩ := h
  rw [Array.toList_extract, List.extract_eq_take_drop, ofBytes, List.toList_toArray,
    Utf8.encode_append, List.drop_left]
  exact Utf8.fresh_take (Utf8.fresh_encode after) _

/-- Texts on both sides of a place between two characters make up the text over it. -/
theorem slice_append (hb : Between cs b) (hab : a ≤ b) (hbc : b ≤ c) :
    (ofBytes (Utf8.encode cs)).slice a b ++ (ofBytes (Utf8.encode cs)).slice b c =
      (ofBytes (Utf8.encode cs)).slice a c := by
  rw [slice, slice, ← Utf8.decodeText_append (fresh_of_between hb), slice, ← Array.toList_append,
    Array.extract_append_extract, Nat.min_eq_left hab, Nat.max_eq_right hbc]

/-- The bytes of some characters are read as these characters. -/
theorem slice_encode (before inner after : List Char) :
    (ofBytes (Utf8.encode (before ++ inner ++ after))).slice (Utf8.encode before).length
      (Utf8.encode (before ++ inner)).length = inner.map .scalar := by
  have hlength : (Utf8.encode (before ++ inner)).length - (Utf8.encode before).length =
      (Utf8.encode inner).length := by
    rw [Utf8.encode_append, List.length_append, Nat.add_sub_cancel_left]
  rw [slice, Array.toList_extract, List.extract_eq_take_drop, hlength, ofBytes, List.toList_toArray,
    Utf8.encode_append, Utf8.encode_append, List.append_assoc, List.drop_left, List.take_left,
    Utf8.decodeText, Utf8.decode_encode]

theorem slice_of_le (source : Source) (h : b ≤ a) : source.slice a b = [] := by
  rw [slice, Array.toList_extract, List.extract_eq_take_drop, Nat.sub_eq_zero_of_le h,
    List.take_zero, Utf8.decodeText, Utf8.decode, List.map_nil]

end Source

end StateCoverage
