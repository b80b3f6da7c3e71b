import PresenceUnlock.RustStd.Number

/-!
# Hexadecimal octets

Which two characters `u8::from_str_radix` reads as a byte: two digits, or a plus sign and a digit.
-/

namespace RustStd.Text

@[simp] theorem len_nil : len [] = 0 := rfl

@[simp] theorem len_cons (c : Char) (text : Text) : len (c :: text) = c.utf8Size + len text := by
  simp [len, asBytes]

theorem length_le_len (text : Text) : text.length ≤ len text := by
  induction text with
  | nil => rfl
  | cons c text induction =>
      have positive := c.utf8Size_pos
      rw [len_cons, List.length_cons]
      omega

theorem len_eq_length {text : Text} (single : ∀ c ∈ text, c.utf8Size = 1) :
    len text = text.length := by
  induction text with
  | nil => rfl
  | cons c text induction =>
      obtain ⟨first, others⟩ := List.forall_mem_cons.mp single
      rw [len_cons, List.length_cons, first, induction others]
      omega

theorem fromUtf8_eq_some_iff {bytes : List UInt8} {text : Text} :
    fromUtf8 bytes = some text ↔ bytes = text.asBytes := by
  constructor
  · intro decoded
    rw [fromUtf8, Option.map_eq_some_iff] at decoded
    obtain ⟨chars, decoded, rfl⟩ := decoded
    have valid : (ByteArray.mk bytes.toArray).utf8Decode?.isSome := by rw [decoded]; rfl
    have encoded := ByteArray.utf8Encode_get_utf8Decode? (h := valid)
    simp only [decoded, Option.get_some] at encoded
    have same := congrArg (fun bytes : ByteArray => bytes.data.toList) encoded
    simpa [asBytes, List.utf8Encode] using same.symm
  · rintro rfl
    exact fromUtf8_asBytes text

theorem asBytes_injective : Function.Injective asBytes := by
  intro left right same
  have decoded := fromUtf8_eq_some_iff.mpr same
  rw [fromUtf8_asBytes] at decoded
  exact Option.some.inj decoded

/-- A digit, or one of the first six letters. -/
def isHexDigit (c : Char) : Bool := (toDigit 16 c).isSome

theorem toDigit_lt {radix digit : Nat} {c : Char} (read : toDigit radix c = some digit) :
    digit < radix := by
  simpa using (Option.filter_eq_some_iff.mp read).2

/-- Digits are ASCII characters. -/
theorem toNat_lt_of_toDigit {radix digit : Nat} {c : Char}
    (read : toDigit radix c = some digit) : c.toNat < 128 := by
  have value := (Option.filter_eq_some_iff.mp read).1
  have bound : ∀ {high : Char}, c ≤ high → high.toNat < 128 → c.toNat < 128 := by
    intro high order small
    exact Nat.lt_of_le_of_lt order small
  split at value
  · rename_i range
    exact bound range.2 (by decide)
  split at value
  · rename_i range
    exact bound range.2 (by decide)
  split at value
  · rename_i range
    exact bound range.2 (by decide)
  · cases value

/-- What holds of the 128 ASCII characters holds of one that is ASCII. -/
theorem forall_ascii (Holds : Char → Prop) (all : ∀ n < 128, Holds (Char.ofNat n)) {c : Char}
    (ascii : c.toNat < 128) : Holds c := by
  have same := all c.toNat ascii
  rwa [Char.ofNat_toNat] at same

theorem utf8Size_of_toNat_lt {c : Char} (ascii : c.toNat < 128) : c.utf8Size = 1 :=
  forall_ascii (fun c => c.utf8Size = 1) (by decide) ascii

theorem utf8Size_of_toDigit {radix digit : Nat} {c : Char}
    (read : toDigit radix c = some digit) : c.utf8Size = 1 :=
  utf8Size_of_toNat_lt (toNat_lt_of_toDigit read)

theorem utf8Size_of_isHexDigit {c : Char} (digit : isHexDigit c = true) : c.utf8Size = 1 := by
  obtain ⟨value, read⟩ := Option.isSome_iff_exists.mp digit
  exact utf8Size_of_toDigit read

/-- The digits of a byte are printed in the upper case of those that spell it. -/
theorem toUpper_digitChar {digit : Nat} {c : Char} (read : toDigit 16 c = some digit) :
    (Nat.digitChar digit).toUpper = c.toUpper := by
  have same := forall_ascii (fun c => ((toDigit 16 c).all fun digit =>
    (Nat.digitChar digit).toUpper == c.toUpper) = true) (by decide +kernel)
    (toNat_lt_of_toDigit read)
  simpa [read] using same

theorem toDigit_toUpper_digitChar {digit : Nat} (small : digit < 16) :
    toDigit 16 (Nat.digitChar digit).toUpper = some digit := by
  have all : ∀ digit < 16, toDigit 16 (Nat.digitChar digit).toUpper = some digit := by decide
  exact all digit small

/-- Two digits, and the byte they spell. -/
def HexOctet (high low : Char) (byte : UInt8) : Prop :=
  toDigit 16 high = some (byte.toNat / 16) ∧ toDigit 16 low = some (byte.toNat % 16)

/-- A plus sign and a digit: the other two characters that are read as a byte. -/
def SignedOctet (sign low : Char) (byte : UInt8) : Prop :=
  sign = '+' ∧ toDigit 16 low = some byte.toNat

/-- The two characters that are read as a byte. -/
def Octet (first second : Char) (byte : UInt8) : Prop :=
  HexOctet first second byte ∨ SignedOctet first second byte

/-- Formatting a byte in upper case gives the digits that spell it, in upper case. -/
theorem hexByteUpper_of_hexOctet {high low : Char} {byte : UInt8}
    (octet : HexOctet high low byte) : hexByteUpper byte = [high.toUpper, low.toUpper] := by
  rw [hexByteUpper, hexByte, List.map_cons, List.map_cons, List.map_nil,
    toUpper_digitChar octet.1, toUpper_digitChar octet.2]

/-- A byte that is formatted in upper case is spelled by two digits. -/
theorem exists_hexByteUpper (byte : UInt8) :
    ∃ high low, hexByteUpper byte = [high, low] ∧ HexOctet high low byte := by
  have bound := byte.toNat_lt
  exact ⟨_, _, rfl, toDigit_toUpper_digitChar (by omega), toDigit_toUpper_digitChar (by omega)⟩

theorem not_hexOctet_plus (low : Char) (byte : UInt8) : ¬ HexOctet '+' low byte := by
  have unread : toDigit 16 '+' = none := by decide
  simp [HexOctet, unread]

private theorem digitsValue_pair (first second : Char) :
    digitsValue 16 [first, second] = (toDigit 16 first).bind fun high =>
      (toDigit 16 second).map (high * 16 + ·) := by
  rw [digitsValue, List.foldlM_cons]
  cases toDigit 16 first with
  | none => rfl
  | some high => cases low : toDigit 16 second <;> simp [low]

private theorem digitsValue_single (c : Char) : digitsValue 16 [c] = toDigit 16 c := by
  cases read : toDigit 16 c <;> simp [digitsValue, read]

private theorem u8FromStrRadix_eq_some_iff (text : Text) (byte : UInt8) :
    u8FromStrRadix 16 text = some byte ↔
      magnitude 16 ((stripPrefix ['+'] text).getD text) = some byte.toNat := by
  rw [u8FromStrRadix, unsignedFromStrRadix, Option.map_eq_some_iff]
  simp only [Option.filter_eq_some_iff, decide_eq_true_eq]
  constructor
  · rintro ⟨value, ⟨read, small⟩, rfl⟩
    rw [UInt8.toNat_ofNat', Nat.mod_eq_of_lt small]
    exact read
  · intro read
    exact ⟨byte.toNat, ⟨read, byte.toNat_lt⟩, UInt8.ofNat_toNat⟩

/-- Two characters are read as a byte exactly when they are two digits or a sign and a digit. -/
theorem u8FromStrRadix_pair_iff (first second : Char) (byte : UInt8) :
    u8FromStrRadix 16 [first, second] = some byte ↔ Octet first second byte := by
  rw [u8FromStrRadix_eq_some_iff]
  by_cases sign : first = '+'
  · subst sign
    have stripped : stripPrefix ['+'] ['+', second] = some [second] :=
      stripPrefix_append ['+'] [second]
    rw [stripped, Option.getD_some, magnitude, if_neg (List.cons_ne_nil _ _), digitsValue_single]
    simp [Octet, SignedOctet, not_hexOctet_plus]
  · have unsigned : stripPrefix ['+'] [first, second] = none := by
      simp [stripPrefix, Ne.symm sign]
    rw [unsigned, Option.getD_none, magnitude, if_neg (List.cons_ne_nil _ _), digitsValue_pair]
    simp only [Octet, HexOctet, SignedOctet, sign, false_and, or_false, Option.bind_eq_some_iff,
      Option.map_eq_some_iff]
    constructor
    · rintro ⟨high, read_high, low, read_low, value⟩
      have low_small := toDigit_lt read_low
      rw [read_high, read_low, Option.some.injEq, Option.some.injEq]
      omega
    · rintro ⟨read_high, read_low⟩
      exact ⟨_, read_high, _, read_low, by omega⟩

/-- A single character of two bytes is not a number. -/
theorem u8FromStrRadix_single_of_wide {c : Char} (wide : c.utf8Size ≠ 1) :
    u8FromStrRadix 16 [c] = none := by
  have unread : toDigit 16 c = none := by
    cases read : toDigit 16 c with
    | none => rfl
    | some digit => exact absurd (utf8Size_of_toDigit read) wide
  have unsigned : stripPrefix ['+'] [c] = none := by
    have other : '+' ≠ c := by
      rintro rfl
      exact wide (by decide)
    simp [stripPrefix, other]
  rw [Option.eq_none_iff_forall_ne_some]
  intro byte
  rw [ne_eq, u8FromStrRadix_eq_some_iff, unsigned, Option.getD_none, magnitude,
    if_neg (List.cons_ne_nil _ _), digitsValue_single, unread]
  simp

/-- Two bytes of text are read as a byte exactly when they are the two characters of an octet. -/
theorem u8FromStrRadix_of_len {text : Text} (size : text.len = 2) (byte : UInt8) :
    u8FromStrRadix 16 text = some byte ↔
      ∃ first second, text = [first, second] ∧ Octet first second byte := by
  obtain _ | ⟨first, _ | ⟨second, _ | ⟨third, rest⟩⟩⟩ := text
  · cases size
  · have wide : first.utf8Size ≠ 1 := by
      rw [len_cons, len_nil] at size
      omega
    simp [u8FromStrRadix_single_of_wide wide]
  · simp [u8FromStrRadix_pair_iff]
  · have short := length_le_len (first :: second :: third :: rest)
    rw [size] at short
    simp at short

theorem Octet.len {first second : Char} {byte : UInt8} (octet : Octet first second byte) :
    Text.len [first, second] = 2 := by
  have low : second.utf8Size = 1 := by
    rcases octet with digits | signed
    · exact utf8Size_of_toDigit digits.2
    · exact utf8Size_of_toDigit signed.2
  have high : first.utf8Size = 1 := by
    rcases octet with digits | ⟨rfl, _⟩
    · exact utf8Size_of_toDigit digits.1
    · decide
  rw [len_cons, len_cons, len_nil, high, low]

/-- A text cut into pairs of characters, each of which spells a byte. -/
inductive Octets (Spells : Char → Char → UInt8 → Prop) : Text → List UInt8 → Prop
  | nil : Octets Spells [] []
  | cons {first second : Char} {rest : Text} {byte : UInt8} {bytes : List UInt8}
      (octet : Spells first second byte) (others : Octets Spells rest bytes) :
      Octets Spells (first :: second :: rest) (byte :: bytes)

namespace Octets

variable {Spells : Char → Char → UInt8 → Prop} {text : Text} {bytes : List UInt8}

theorem length_eq (octets : Octets Spells text bytes) : text.length = 2 * bytes.length := by
  induction octets with
  | nil => rfl
  | cons _ _ induction =>
      simp only [List.length_cons, induction]
      omega

theorem imp {Other : Char → Char → UInt8 → Prop}
    (implies : ∀ first second byte, Spells first second byte → Other first second byte)
    (octets : Octets Spells text bytes) : Octets Other text bytes := by
  induction octets with
  | nil => exact .nil
  | cons octet _ induction => exact .cons (implies _ _ _ octet) induction

theorem len_eq (octets : Octets Octet text bytes) : text.len = 2 * bytes.length := by
  induction octets with
  | nil => rfl
  | cons octet _ induction =>
      have pair := octet.len
      simp only [len_cons, len_nil, List.length_cons] at pair ⊢
      omega

/-- Octets that are read are digits throughout when no plus sign is among them. -/
theorem hex_iff :
    Octets HexOctet text bytes ↔ Octets Octet text bytes ∧ '+' ∉ text := by
  constructor
  · intro digits
    refine ⟨digits.imp fun _ _ _ octet => .inl octet, ?_⟩
    induction digits with
    | nil => simp
    | @cons first second rest byte bytes octet _ induction =>
        have unread : toDigit 16 '+' = none := by decide
        simp only [List.mem_cons, not_or]
        refine ⟨?_, ?_, induction⟩
        · rintro rfl
          exact not_hexOctet_plus second byte octet
        · rintro rfl
          simp [HexOctet, unread] at octet
  · rintro ⟨octets, unsigned⟩
    induction octets with
    | nil => exact .nil
    | cons octet _ induction =>
        simp only [List.mem_cons, not_or] at unsigned
        rcases octet with digits | ⟨rfl, _⟩
        · exact .cons digits (induction unsigned.2.2)
        · exact absurd rfl unsigned.1

end Octets

/-- Pairs of characters of which the second is a digit, and the first a digit or a plus sign. -/
def octetShaped : Text → Bool
  | [] => true
  | [_] => false
  | first :: second :: rest =>
      (isHexDigit first || first == '+') && isHexDigit second && octetShaped rest

theorem exists_octet_iff (first second : Char) :
    (∃ byte, Octet first second byte) ↔
      (isHexDigit first || first == '+') = true ∧ isHexDigit second = true := by
  simp only [isHexDigit, Bool.or_eq_true, beq_iff_eq, Option.isSome_iff_exists]
  constructor
  · rintro ⟨byte, ⟨high, low⟩ | ⟨sign, low⟩⟩
    · exact ⟨.inl ⟨_, high⟩, _, low⟩
    · exact ⟨.inr sign, _, low⟩
  · rintro ⟨⟨high, read_high⟩ | rfl, low, read_low⟩
    · have high_small := toDigit_lt read_high
      have low_small := toDigit_lt read_low
      have value : (UInt8.ofNat (high * 16 + low)).toNat = high * 16 + low := by
        rw [UInt8.toNat_ofNat', Nat.mod_eq_of_lt (by omega)]
      refine ⟨UInt8.ofNat (high * 16 + low), .inl ⟨?_, ?_⟩⟩
      · rw [value, read_high]
        exact congrArg some (by omega)
      · rw [value, read_low]
        exact congrArg some (by omega)
    · have low_small := toDigit_lt read_low
      refine ⟨UInt8.ofNat low, .inr ⟨rfl, ?_⟩⟩
      rw [UInt8.toNat_ofNat', Nat.mod_eq_of_lt (by omega), read_low]

/-- The texts that are read as octets are recognised by the shape of their pairs. -/
theorem exists_octets_iff (text : Text) :
    (∃ bytes, Octets Octet text bytes) ↔ octetShaped text = true := by
  induction text using octetShaped.induct with
  | case1 => exact iff_of_true ⟨[], .nil⟩ rfl
  | case2 c =>
      simp only [octetShaped, Bool.false_eq_true, iff_false]
      rintro ⟨bytes, octets⟩
      cases octets
  | case3 first second rest induction =>
      rw [octetShaped, Bool.and_eq_true, Bool.and_eq_true, ← exists_octet_iff, ← induction]
      constructor
      · rintro ⟨_, octets⟩
        obtain _ | ⟨octet, others⟩ := octets
        exact ⟨⟨_, octet⟩, _, others⟩
      · rintro ⟨⟨byte, octet⟩, bytes, others⟩
        exact ⟨byte :: bytes, .cons octet others⟩

end RustStd.Text
