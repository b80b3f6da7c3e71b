import Mathlib.Data.UInt
import Mathlib.Tactic.IntervalCases
import PresenceUnlock.RustStd.Text

/-!
# Rust integers

Saturating subtraction, the conversions between integers and their digits, and the fallible
narrowing conversions.
-/

namespace RustStd

/-- `u64::saturating_sub`. -/
def saturatingSub (left right : UInt64) : UInt64 := if left ≤ right then 0 else left - right

@[simp] theorem saturatingSub_toNat (left right : UInt64) :
    (saturatingSub left right).toNat = left.toNat - right.toNat := by
  unfold saturatingSub
  split <;> rename_i order
  · rw [UInt64.le_iff_toNat_le] at order
    simp
    omega
  · rw [UInt64.not_le, UInt64.lt_iff_toNat_lt] at order
    exact UInt64.toNat_sub_of_le _ _ (UInt64.le_iff_toNat_le.mpr order.le)

/-- The `i16` with this value, when it is in range. -/
def narrowI16 (value : Int) : Option Int16 :=
  if -32768 ≤ value ∧ value ≤ 32767 then some (Int16.ofInt value) else none

/-- `i16::try_from` on an `i64`. -/
def asI16 (value : Int64) : Option Int16 := narrowI16 value.toInt

/-- `u8::try_from` on an `i64`. -/
def asU8 (value : Int64) : Option UInt8 :=
  if 0 ≤ value.toInt ∧ value.toInt ≤ 255 then some (UInt8.ofNat value.toInt.toNat) else none

/-- `u64::try_from` on an `i64`. -/
def asU64 (value : Int64) : Option UInt64 :=
  if 0 ≤ value.toInt then some (UInt64.ofNat value.toInt.toNat) else none

/-- `i64::from` on a `u8`. -/
def i64OfU8 (value : UInt8) : Int64 := Int64.ofNat value.toNat

/-- `i64::try_from(value).unwrap_or(i64::MAX)` on a `u64`. -/
def i64OfU64 (value : UInt64) : Int64 :=
  if value.toNat < 2 ^ 63 then Int64.ofNat value.toNat else Int64.maxValue

theorem narrowI16_toInt (value : Int16) : narrowI16 value.toInt = some value := by
  have lower := value.le_toInt
  have upper := value.toInt_lt
  rw [narrowI16, if_pos (by omega)]
  simp

theorem asI16_toInt64 (value : Int16) : asI16 value.toInt64 = some value := by
  rw [asI16, Int16.toInt_toInt64, narrowI16_toInt]

theorem toInt_i64OfU8 (value : UInt8) : (i64OfU8 value).toInt = value.toNat := by
  have upper := value.toNat_lt
  exact Int64.toInt_ofNat_of_lt (by omega)

theorem asU8_i64OfU8 (value : UInt8) : asU8 (i64OfU8 value) = some value := by
  have upper := value.toNat_lt
  rw [asU8, toInt_i64OfU8, if_pos (by omega)]
  simp

theorem toInt_i64OfU64_of_lt {value : UInt64} (small : value.toNat < 2 ^ 63) :
    (i64OfU64 value).toInt = value.toNat := by
  rw [i64OfU64, if_pos small]
  exact Int64.toInt_ofNat_of_lt small

theorem asU64_i64OfU64_of_lt {value : UInt64} (small : value.toNat < 2 ^ 63) :
    asU64 (i64OfU64 value) = some value := by
  rw [asU64, toInt_i64OfU64_of_lt small, if_pos (by omega)]
  simp

/-- A value past the signed range is clamped, so it is read back as the largest signed value. -/
theorem asU64_i64OfU64_of_ge {value : UInt64} (large : ¬ value.toNat < 2 ^ 63) :
    asU64 (i64OfU64 value) = some (UInt64.ofNat (2 ^ 63 - 1)) := by
  rw [i64OfU64, if_neg large]
  rfl

namespace Text

/-- `char::to_digit`. -/
def toDigit (radix : Nat) (c : Char) : Option Nat :=
  let value :=
    if '0' ≤ c ∧ c ≤ '9' then some (c.toNat - '0'.toNat)
    else if 'a' ≤ c ∧ c ≤ 'z' then some (c.toNat - 'a'.toNat + 10)
    else if 'A' ≤ c ∧ c ≤ 'Z' then some (c.toNat - 'A'.toNat + 10)
    else none
  value.filter (· < radix)

/-- The value of a run of digits, failing on any other character. -/
def digitsValue (radix : Nat) (digits : Text) : Option Nat :=
  digits.foldlM (fun value c => (toDigit radix c).map (value * radix + ·)) 0

/-- The value of a nonempty run of digits. -/
def magnitude (radix : Nat) (digits : Text) : Option Nat :=
  if digits = [] then none else digitsValue radix digits

/-- `from_str_radix` of an unsigned type with `bound` values; one leading `+` is accepted. -/
def unsignedFromStrRadix (radix bound : Nat) (text : Text) : Option Nat :=
  (magnitude radix ((stripPrefix ['+'] text).getD text)).filter (· < bound)

/-- `u8::from_str_radix`. -/
def u8FromStrRadix (radix : Nat) (text : Text) : Option UInt8 :=
  (unsignedFromStrRadix radix 256 text).map UInt8.ofNat

/-- `str::parse::<u32>`. -/
def parseU32 (text : Text) : Option UInt32 :=
  (unsignedFromStrRadix 10 (2 ^ 32) text).map UInt32.ofNat

/-- `str::parse::<i16>`; one leading sign is accepted. -/
def parseI16 (text : Text) : Option Int16 :=
  let value : Option Int :=
    match stripPrefix ['-'] text with
    | some digits => (magnitude 10 digits).map fun n : Nat => -(n : Int)
    | none => (magnitude 10 ((stripPrefix ['+'] text).getD text)).map fun n : Nat => (n : Int)
  value.bind narrowI16

/-- The decimal digits `Display` writes for an unsigned value. -/
def ofNat (value : Nat) : Text := Nat.toDigits 10 value

/-- `Display` of a signed value. -/
def ofInt : Int → Text
  | .ofNat value => ofNat value
  | .negSucc value => '-' :: ofNat (value + 1)

/-- `{:02x}` of one byte. -/
def hexByte (byte : UInt8) : Text :=
  [Nat.digitChar (byte.toNat / 16), Nat.digitChar (byte.toNat % 16)]

/-- `{:02X}` of one byte. -/
def hexByteUpper (byte : UInt8) : Text := (hexByte byte).map Char.toUpper

theorem toDigit_digitChar {radix digit : Nat} (small : digit < radix) (bound : radix ≤ 16) :
    toDigit radix (Nat.digitChar digit) = some digit := by
  have value : ∀ digit < 16, ∀ radix ≤ 16, digit < radix →
      toDigit radix (Nat.digitChar digit) = some digit := by decide
  exact value digit (by omega) radix bound small

theorem digitsValue_concat (radix : Nat) (digits : Text) (c : Char) :
    digitsValue radix (digits ++ [c]) =
      (digitsValue radix digits).bind fun value => (toDigit radix c).map (value * radix + ·) := by
  simp [digitsValue, List.foldlM_append]

theorem digitsValue_ofNat (value : Nat) : digitsValue 10 (ofNat value) = some value := by
  induction value using Nat.strongRecOn with
  | ind value induction =>
      by_cases small : value < 10
      · rw [ofNat, Nat.toDigits_of_lt_base small]
        simp [digitsValue, toDigit_digitChar small]
      · have split := Nat.toDigits_of_base_le (b := 10) (by omega) (Nat.le_of_not_lt small)
        have lead := induction (value / 10) (by omega)
        rw [ofNat] at lead
        rw [ofNat, split, digitsValue_concat, lead]
        rw [Option.bind_some, toDigit_digitChar (Nat.mod_lt _ (by omega)) (by omega)]
        simp [Nat.div_add_mod']

/-- Different numbers have different digits. -/
theorem ofNat_injective : Function.Injective ofNat := by
  intro left right same
  have values := congrArg (digitsValue 10) same
  rw [digitsValue_ofNat, digitsValue_ofNat] at values
  exact Option.some.inj values

theorem ofNat_ne_nil (value : Nat) : ofNat value ≠ [] := Nat.toDigits_ne_nil

theorem isDigit_of_mem_ofNat {value : Nat} {c : Char} (member : c ∈ ofNat value) :
    c.isDigit = true :=
  Nat.isDigit_of_mem_toDigits (by omega) (by omega) member

theorem magnitude_ofNat (value : Nat) : magnitude 10 (ofNat value) = some value := by
  simp [magnitude, ofNat_ne_nil, digitsValue_ofNat]

private theorem stripPrefix_sign_ofNat {sign : Char} (not_digit : sign.isDigit = false)
    (value : Nat) : stripPrefix [sign] (ofNat value) = none := by
  have outside : ¬ [sign] <+: ofNat value := by
    rintro ⟨rest, written⟩
    have member : sign ∈ ofNat value := by simp [← written]
    simp [isDigit_of_mem_ofNat member] at not_digit
  simp [stripPrefix, outside]

/-- A signed value is read back from its `Display` form. -/
theorem parseI16_ofInt (value : Int16) : parseI16 (ofInt value.toInt) = some value := by
  have restored := narrowI16_toInt value
  cases sign : value.toInt with
  | ofNat n =>
      rw [sign] at restored
      simp only [parseI16, ofInt, stripPrefix_sign_ofNat (by decide : '-'.isDigit = false),
        stripPrefix_sign_ofNat (by decide : '+'.isDigit = false), Option.getD_none,
        magnitude_ofNat]
      exact restored
  | negSucc n =>
      rw [sign] at restored
      have stripped : stripPrefix ['-'] ('-' :: ofNat (n + 1)) = some (ofNat (n + 1)) :=
        stripPrefix_append ['-'] (ofNat (n + 1))
      have negated : -((n + 1 : Nat) : Int) = Int.negSucc n := rfl
      simp only [parseI16, ofInt, stripped, magnitude_ofNat]
      rw [Option.map_some, Option.bind_some, negated, restored]

private theorem isAsciiWhitespace_of_isDigit {c : Char} (digit : c.isDigit = true) :
    isAsciiWhitespace c = false := by
  by_contra blank
  simp only [isAsciiWhitespace, Bool.not_eq_false, Bool.or_eq_true, beq_iff_eq] at blank
  rcases blank with (((rfl | rfl) | rfl) | rfl) | rfl <;> exact absurd digit (by decide)

/-- A printed number is one word. -/
theorem solid_ofInt (value : Int) : Solid isAsciiWhitespace (ofInt value) := by
  have unbroken : ∀ n : Nat, ∀ c ∈ ofNat n, isAsciiWhitespace c = false := fun n c member =>
    isAsciiWhitespace_of_isDigit (isDigit_of_mem_ofNat member)
  cases value with
  | ofNat n => exact ⟨ofNat_ne_nil n, unbroken n⟩
  | negSucc n =>
      refine ⟨List.cons_ne_nil _ _, List.forall_mem_cons.mpr ⟨by decide, unbroken (n + 1)⟩⟩

/-- A byte is read back from its two hexadecimal digits. -/
theorem u8FromStrRadix_hexByte (byte : UInt8) :
    u8FromStrRadix 16 (hexByte byte) = some byte := by
  have bound := byte.toNat_lt
  have high : byte.toNat / 16 < 16 := by omega
  have low : byte.toNat % 16 < 16 := Nat.mod_lt _ (by omega)
  have unsigned : stripPrefix ['+'] (hexByte byte) = none := by
    have digit : ∀ digit < 16, Nat.digitChar digit ≠ '+' := by decide
    simp [stripPrefix, hexByte, Ne.symm (digit _ high)]
  have sum : byte.toNat / 16 * 16 + byte.toNat % 16 = byte.toNat := by omega
  rw [u8FromStrRadix, unsignedFromStrRadix, unsigned]
  simp [magnitude, hexByte, digitsValue, toDigit_digitChar high, toDigit_digitChar low, sum,
    Option.filter, bound]

theorem hexByte_solid {byte : UInt8} {c : Char} (member : c ∈ hexByte byte) :
    isWhitespace c = false := by
  have bound := byte.toNat_lt
  have digit : ∀ digit < 16, isWhitespace (Nat.digitChar digit) = false := by decide
  simp only [hexByte, List.mem_cons, List.not_mem_nil, or_false] at member
  rcases member with rfl | rfl
  · exact digit _ (by omega)
  · exact digit _ (by omega)

end Text
end RustStd
