import Mathlib.Algebra.Group.Nat.Defs
import Mathlib.Data.List.Lex

/-! # The order of texts by their bytes

Texts are ordered by code point. UTF-8 keeps this order: the first byte of a character tells
how many follow, more for larger code points, and the bytes hold the code point to base 64,
the highest digit first.
-/

namespace RpcTransport

def utf8Bytes (text : String) : List UInt8 :=
  text.toUTF8.data.toList

theorem utf8Bytes_eq (text : String) :
    utf8Bytes text = text.toList.flatMap String.utf8EncodeChar := by
  rw [utf8Bytes, String.toUTF8_eq_toByteArray, ← String.utf8Encode_toList, List.utf8Encode]
  simp

namespace Utf8

/-- The lowest digits of a code point to base 64, the highest of them first. -/
def digits (point : Nat) : Nat → List UInt8
  | 0 => []
  | count + 1 => UInt8.ofNat (point / 64 ^ count % 64 + 0x80) :: digits point count

/-- The first byte of a code point, and how many bytes follow it. -/
inductive Begins (point : Nat) : Nat → Nat → Prop where
  | one (high : point ≤ 0x7f) : Begins point point 0
  | two (low : 0x7f < point) (high : point ≤ 0x7ff) : Begins point (point / 64 + 0xc0) 1
  | three (low : 0x7ff < point) (high : point ≤ 0xffff) : Begins point (point / 4096 + 0xe0) 2
  | four (low : 0xffff < point) (high : point < 0x110000) :
      Begins point (point / 262144 + 0xf0) 3

theorem utf8EncodeChar_eq (c : Char) :
    ∃ first count, Begins c.toNat first count ∧
      String.utf8EncodeChar c = UInt8.ofNat first :: digits c.toNat count := by
  have bound : c.val.toNat < 0x110000 := by
    rcases c.valid with small | ⟨-, large⟩
    · exact Nat.lt_trans small (by omega)
    · exact large
  rw [String.utf8EncodeChar, Char.toNat]
  generalize c.val.toNat = point at bound
  split
  · next high => exact ⟨_, _, .one high, rfl⟩
  · next low =>
      split
      · next high =>
          refine ⟨_, _, .two (by omega) high, ?_⟩
          simp [digits, Nat.mod_eq_of_lt (by omega : point / 64 < 32)]
      · next low =>
          split
          · next high =>
              refine ⟨_, _, .three (by omega) high, ?_⟩
              simp [digits, Nat.mod_eq_of_lt (by omega : point / 4096 < 16)]
          · next low =>
              refine ⟨_, _, .four (by omega) bound, ?_⟩
              simp [digits, Nat.mod_eq_of_lt (by omega : point / 262144 < 8)]

variable {low high : Nat}

theorem Begins.lt_or_eq (less : low < high) {first second few many : Nat}
    (lower : Begins low first few) (upper : Begins high second many) :
    first < second ∧ second < 256 ∨
      first = second ∧ few = many ∧ low / 64 ^ many = high / 64 ^ many := by
  cases lower <;> cases upper <;> omega

theorem byte_lt (less : low < high) (small : high < 256) :
    UInt8.ofNat low < UInt8.ofNat high := by
  rw [UInt8.lt_iff_toNat_lt, UInt8.toNat_ofNat_of_lt' small,
    UInt8.toNat_ofNat_of_lt' (Nat.lt_trans less small)]
  exact less

theorem digits_append_lt (less : low < high) {count : Nat}
    (same : low / 64 ^ count = high / 64 ^ count) (behind beyond : List UInt8) :
    digits low count ++ behind < digits high count ++ beyond := by
  induction count with
  | zero =>
      simp only [Nat.pow_zero, Nat.div_one] at same
      omega
  | succ count ih =>
      rw [Nat.pow_succ, ← Nat.div_div_eq_div_mul, ← Nat.div_div_eq_div_mul] at same
      simp only [digits, List.cons_append]
      rcases Nat.eq_or_lt_of_le (Nat.div_le_div_right (c := 64 ^ count) (Nat.le_of_lt less)) with
        equal | lower
      · rw [equal]
        exact List.cons_lt_cons_iff.mpr (.inr ⟨rfl, ih equal⟩)
      · exact List.cons_lt_cons_iff.mpr (.inl (byte_lt (by omega) (by omega)))

/-- Of two characters, the lower one has the lower bytes, whatever follows them. -/
theorem utf8EncodeChar_append_lt {c d : Char} (less : c < d) (behind beyond : List UInt8) :
    String.utf8EncodeChar c ++ behind < String.utf8EncodeChar d ++ beyond := by
  obtain ⟨first, few, lower, encoded⟩ := utf8EncodeChar_eq c
  obtain ⟨second, many, upper, coded⟩ := utf8EncodeChar_eq d
  rw [encoded, coded, List.cons_append, List.cons_append]
  have less : c.toNat < d.toNat := less
  rcases lower.lt_or_eq less upper with ⟨before, small⟩ | ⟨rfl, rfl, highest⟩
  · exact List.cons_lt_cons_iff.mpr (.inl (byte_lt before small))
  · exact List.cons_lt_cons_iff.mpr (.inr ⟨rfl, digits_append_lt less highest behind beyond⟩)

end Utf8

theorem utf8Bytes_lt {first second : String} (less : first < second) :
    utf8Bytes first < utf8Bytes second := by
  rw [utf8Bytes_eq, utf8Bytes_eq]
  have less : List.Lex (· < ·) first.toList second.toList := String.lt_iff.mp less
  generalize first.toList = before at less
  generalize second.toList = behind at less
  induction less with
  | @nil c rest =>
      obtain ⟨first, count, -, encoded⟩ := Utf8.utf8EncodeChar_eq c
      rw [List.flatMap_nil, List.flatMap_cons, encoded]
      exact List.nil_lt_cons _ _
  | rel less => exact Utf8.utf8EncodeChar_append_lt less _ _
  | cons less ih =>
      rw [List.flatMap_cons, List.flatMap_cons]
      exact List.append_left_lt ih

end RpcTransport
