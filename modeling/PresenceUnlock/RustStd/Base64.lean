import PresenceUnlock.RustStd.Text

/-!
# Base64

The standard alphabet with canonical padding.  A group of three bytes is written as four digits; a
last group of one or two bytes is padded, and the bits it does not use have to be zero.
-/

namespace RustStd.Base64

/-- The digit of six bits. -/
def digit (value : Nat) : Char :=
  if value < 26 then Char.ofNat ('A'.toNat + value)
  else if value < 52 then Char.ofNat ('a'.toNat + (value - 26))
  else if value < 62 then Char.ofNat ('0'.toNat + (value - 52))
  else if value = 62 then '+'
  else '/'

/-- The six bits of a digit. -/
def digitValue (c : Char) : Option Nat :=
  if 'A' ≤ c ∧ c ≤ 'Z' then some (c.toNat - 'A'.toNat)
  else if 'a' ≤ c ∧ c ≤ 'z' then some (c.toNat - 'a'.toNat + 26)
  else if '0' ≤ c ∧ c ≤ '9' then some (c.toNat - '0'.toNat + 52)
  else if c = '+' then some 62
  else if c = '/' then some 63
  else none

theorem digitValue_digit {value : Nat} (small : value < 64) :
    digitValue (digit value) = some value := by
  have all : ∀ value < 64, digitValue (digit value) = some value := by decide
  exact all value small

theorem digit_ne_pad {value : Nat} (small : value < 64) : digit value ≠ '=' := by
  have all : ∀ value < 64, digit value ≠ '=' := by decide
  exact all value small

theorem digit_solid {value : Nat} (small : value < 64) :
    Text.isWhitespace (digit value) = false := by
  have all : ∀ value < 64, Text.isWhitespace (digit value) = false := by decide
  exact all value small

/-- The first digit of a group: the upper six bits of the first byte. -/
def digit0 (first : UInt8) : Char := digit (first.toNat / 4)

/-- The digit of the next two bits and four. -/
def digit1 (first second : UInt8) : Char := digit (first.toNat % 4 * 16 + second.toNat / 16)

/-- The digit of the next four bits and two. -/
def digit2 (second third : UInt8) : Char := digit (second.toNat % 16 * 4 + third.toNat / 64)

/-- The digit of the last six bits. -/
def digit3 (third : UInt8) : Char := digit (third.toNat % 64)

/-- The text of some bytes, padded to whole groups. -/
def encode : List UInt8 → Text
  | [] => []
  | [first] => [digit0 first, digit1 first 0, '=', '=']
  | [first, second] => [digit0 first, digit1 first second, digit2 second 0, '=']
  | first :: second :: third :: rest =>
      digit0 first :: digit1 first second :: digit2 second third :: digit3 third :: encode rest

/-- The bytes of four digits. -/
def decodeGroup (c0 c1 c2 c3 : Char) : Option (List UInt8) := do
  let d0 ← digitValue c0
  let d1 ← digitValue c1
  let d2 ← digitValue c2
  let d3 ← digitValue c3
  return [UInt8.ofNat (d0 * 4 + d1 / 16), UInt8.ofNat (d1 % 16 * 16 + d2 / 4),
    UInt8.ofNat (d2 % 4 * 64 + d3)]

/-- The bytes of a padded group; its unused bits have to be zero. -/
def decodeLast (c0 c1 c2 : Char) : Option (List UInt8) := do
  let d0 ← digitValue c0
  let d1 ← digitValue c1
  if c2 = '=' then
    if d1 % 16 = 0 then return [UInt8.ofNat (d0 * 4 + d1 / 16)] else none
  else
    let d2 ← digitValue c2
    if d2 % 4 = 0 then
      return [UInt8.ofNat (d0 * 4 + d1 / 16), UInt8.ofNat (d1 % 16 * 16 + d2 / 4)]
    else none

/-- The bytes of a text, if it is one that encoding gives. -/
def decode : Text → Option (List UInt8)
  | [] => some []
  | c0 :: c1 :: c2 :: c3 :: rest =>
      if rest = [] ∧ c3 = '=' then decodeLast c0 c1 c2
      else do
        let bytes ← decodeGroup c0 c1 c2 c3
        let others ← decode rest
        return bytes ++ others
  | _ => none

theorem digitValue_digit0 (first : UInt8) : digitValue (digit0 first) = some (first.toNat / 4) :=
  digitValue_digit (by have := first.toNat_lt; omega)

theorem digitValue_digit1 (first second : UInt8) :
    digitValue (digit1 first second) = some (first.toNat % 4 * 16 + second.toNat / 16) :=
  digitValue_digit (by have := second.toNat_lt; omega)

theorem digitValue_digit2 (second third : UInt8) :
    digitValue (digit2 second third) = some (second.toNat % 16 * 4 + third.toNat / 64) :=
  digitValue_digit (by have := third.toNat_lt; omega)

theorem digitValue_digit3 (third : UInt8) : digitValue (digit3 third) = some (third.toNat % 64) :=
  digitValue_digit (by omega)

/-- The first byte of a group, back from its digits. -/
theorem first_of_digits (first second : UInt8) :
    UInt8.ofNat (first.toNat / 4 * 4 + (first.toNat % 4 * 16 + second.toNat / 16) / 16) =
      first := by
  have bound := second.toNat_lt
  have value : first.toNat / 4 * 4 + (first.toNat % 4 * 16 + second.toNat / 16) / 16 =
      first.toNat := by omega
  rw [value, UInt8.ofNat_toNat]

theorem second_of_digits (first second third : UInt8) :
    UInt8.ofNat ((first.toNat % 4 * 16 + second.toNat / 16) % 16 * 16 +
      (second.toNat % 16 * 4 + third.toNat / 64) / 4) = second := by
  have bound := second.toNat_lt
  have bound' := third.toNat_lt
  have value : (first.toNat % 4 * 16 + second.toNat / 16) % 16 * 16 +
      (second.toNat % 16 * 4 + third.toNat / 64) / 4 = second.toNat := by omega
  rw [value, UInt8.ofNat_toNat]

theorem third_of_digits (second third : UInt8) :
    UInt8.ofNat ((second.toNat % 16 * 4 + third.toNat / 64) % 4 * 64 + third.toNat % 64) =
      third := by
  have bound := third.toNat_lt
  have value : (second.toNat % 16 * 4 + third.toNat / 64) % 4 * 64 + third.toNat % 64 =
      third.toNat := by omega
  rw [value, UInt8.ofNat_toNat]

theorem decodeGroup_digits (first second third : UInt8) :
    decodeGroup (digit0 first) (digit1 first second) (digit2 second third) (digit3 third) =
      some [first, second, third] := by
  rw [decodeGroup, digitValue_digit0, digitValue_digit1, digitValue_digit2, digitValue_digit3]
  simp only [Option.bind_eq_bind, Option.bind_some, Option.pure_def, first_of_digits,
    second_of_digits, third_of_digits]

/-- Decoding inverts encoding. -/
theorem decode_encode (bytes : List UInt8) : decode (encode bytes) = some bytes := by
  fun_induction encode bytes with
  | case1 => rfl
  | case2 first =>
      have unused : (first.toNat % 4 * 16 + (0 : UInt8).toNat / 16) % 16 = 0 := by
        simp
      rw [decode, if_pos ⟨rfl, rfl⟩, decodeLast, digitValue_digit0, digitValue_digit1]
      simp only [Option.bind_eq_bind, Option.bind_some, Option.pure_def, if_true, if_pos unused,
        first_of_digits]
  | case3 first second =>
      have small : second.toNat % 16 * 4 + (0 : UInt8).toNat / 64 < 64 := by
        simp
        omega
      have digit2_ne_pad : ¬ digit2 second 0 = '=' := digit_ne_pad small
      have unused : (second.toNat % 16 * 4 + (0 : UInt8).toNat / 64) % 4 = 0 := by
        simp
      rw [decode, if_pos ⟨rfl, rfl⟩, decodeLast, digitValue_digit0, digitValue_digit1,
        digitValue_digit2]
      simp only [Option.bind_eq_bind, Option.bind_some, Option.pure_def, if_neg digit2_ne_pad,
        if_pos unused, first_of_digits, second_of_digits]
  | case4 first second third rest induction =>
      have digit3_ne_pad : digit3 third ≠ '=' := digit_ne_pad (by omega)
      rw [decode, if_neg fun padded => digit3_ne_pad padded.2, decodeGroup_digits, induction]
      rfl

/-- Encoded bytes are free of blanks. -/
theorem encode_solid (bytes : List UInt8) :
    ∀ c ∈ encode bytes, Text.isWhitespace c = false := by
  have solid0 : ∀ first : UInt8, Text.isWhitespace (digit0 first) = false := fun first =>
    digit_solid (by have := first.toNat_lt; omega)
  have solid1 : ∀ first second : UInt8, Text.isWhitespace (digit1 first second) = false :=
    fun first second => digit_solid (by have := second.toNat_lt; omega)
  have solid2 : ∀ second third : UInt8, Text.isWhitespace (digit2 second third) = false :=
    fun second third => digit_solid (by have := third.toNat_lt; omega)
  have solid3 : ∀ third : UInt8, Text.isWhitespace (digit3 third) = false := fun third =>
    digit_solid (by omega)
  have pad : Text.isWhitespace '=' = false := by decide
  fun_induction encode bytes with
  | case1 => simp
  | case2 first => simp [solid0, solid1, pad]
  | case3 first second => simp [solid0, solid1, solid2, pad]
  | case4 first second third rest induction =>
      simp only [List.forall_mem_cons]
      exact ⟨solid0 _, solid1 _ _, solid2 _ _, solid3 _, induction⟩

end RustStd.Base64
