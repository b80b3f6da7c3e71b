import Mathlib.Tactic.IntervalCases
import PresenceUnlock.RustStd.Hex

/-!
# Hashing

What a `str` hands to a hasher, a hash written in hexadecimal digits, and the hasher that the
standard library takes where none is asked for.
-/

namespace RustStd

namespace Text

/-- A bit that neither the mask nor the lead sets is missing. -/
private theorem masked_ne (byte mask lead : UInt8) {bit : Nat} (small : bit < 8)
    (unset : (mask.toBitVec.getLsbD bit || lead.toBitVec.getLsbD bit) = false) :
    byte &&& mask ||| lead ≠ 0xff := by
  intro full
  have bits := congrArg (fun word : UInt8 => word.toBitVec.getLsbD bit) full
  have ones : (0xff : UInt8).toBitVec.getLsbD bit = true := by
    change (BitVec.allOnes 8).getLsbD bit = true
    rw [BitVec.getLsbD_allOnes, decide_eq_true small]
  rw [Bool.or_eq_false_iff] at unset
  rw [ones] at bits
  simp [unset] at bits

theorem ff_notMem_utf8EncodeChar (c : Char) : 0xff ∉ String.utf8EncodeChar c := by
  have trailing : ∀ byte : UInt8, byte &&& 0x3f ||| 0x80 ≠ 0xff := fun byte =>
    masked_ne byte _ _ (by decide : 6 < 8) (by decide)
  have positive := c.utf8Size_pos
  have bound := c.utf8Size_le_four
  interval_cases size : c.utf8Size
  · rw [String.utf8EncodeChar_eq_singleton size, List.mem_singleton]
    have ascii := Char.utf8Size_eq_one_iff.mp size
    intro full
    have value := congrArg UInt8.toNat full
    rw [UInt32.toNat_toUInt8] at value
    rw [UInt32.le_iff_toNat_le] at ascii
    change c.val.toNat ≤ 127 at ascii
    change 255 = _ at value
    omega
  · rw [String.utf8EncodeChar_eq_cons_cons size]
    have lead := masked_ne (c.val >>> 6).toUInt8 0x1f 0xc0 (by decide : 5 < 8) (by decide)
    simp [lead.symm, (trailing _).symm]
  · rw [String.utf8EncodeChar_eq_cons_cons_cons size]
    have lead := masked_ne (c.val >>> 12).toUInt8 0x0f 0xe0 (by decide : 4 < 8) (by decide)
    simp [lead.symm, (trailing _).symm]
  · rw [String.utf8EncodeChar_eq_cons_cons_cons_cons size]
    have lead := masked_ne (c.val >>> 18).toUInt8 0x07 0xf0 (by decide : 3 < 8) (by decide)
    simp [lead.symm, (trailing _).symm]

/-- No text contains the byte that ends it for a hasher. -/
theorem ff_notMem_asBytes (text : Text) : 0xff ∉ text.asBytes := by
  intro member
  obtain ⟨c, _, encoded⟩ := List.mem_flatMap.mp member
  exact ff_notMem_utf8EncodeChar c encoded

/-- A text ends where that byte is. -/
theorem takeWhile_asBytes (text : Text) (rest : List UInt8) :
    (text.asBytes ++ 0xff :: rest).takeWhile (· ≠ 0xff) = text.asBytes := by
  rw [List.takeWhile_append_of_pos]
  · simp
  · intro byte member
    have other : byte ≠ 0xff := fun full => ff_notMem_asBytes text (full ▸ member)
    simpa using other

/-- `str::hash` on one text after the other: the bytes of each, and one that no text contains. -/
def hash : List Text → List UInt8
  | [] => []
  | text :: texts => text.asBytes ++ 0xff :: hash texts

/-- Different texts are not handed to the hasher as the same bytes. -/
theorem hash_injective : Function.Injective hash := by
  intro left
  induction left with
  | nil =>
      intro right same
      cases right with
      | nil => rfl
      | cons text texts => simp [hash] at same
  | cons text texts induction =>
      intro right same
      cases right with
      | nil => simp [hash] at same
      | cons other others =>
          have bytes := congrArg (List.takeWhile (· ≠ 0xff)) same
          rw [hash, hash, takeWhile_asBytes, takeWhile_asBytes] at bytes
          cases asBytes_injective bytes
          have rest := List.append_cancel_left same
          rw [induction (List.cons.inj rest).2]

/-- The last so many hexadecimal digits of a number. -/
def hexDigits : Nat → Nat → Text
  | 0, _ => []
  | places + 1, value => hexDigits places (value / 16) ++ [Nat.digitChar (value % 16)]

theorem hexDigits_inj {places left right : Nat} (left_lt : left < 16 ^ places)
    (right_lt : right < 16 ^ places) (same : hexDigits places left = hexDigits places right) :
    left = right := by
  induction places generalizing left right with
  | zero => omega
  | succ places induction =>
      obtain ⟨front, last⟩ := List.append_inj' same rfl
      have upper := induction (by omega) (by omega) front
      have lower := congrArg (toDigit 16) (List.singleton_inj.mp last)
      rw [toDigit_digitChar (Nat.mod_lt _ (by omega)) le_rfl,
        toDigit_digitChar (Nat.mod_lt _ (by omega)) le_rfl, Option.some_inj] at lower
      omega

theorem hexDigits_solid {places value : Nat} {c : Char} (member : c ∈ hexDigits places value) :
    isWhitespace c = false := by
  induction places generalizing value with
  | zero => cases member
  | succ places induction =>
      have digit : ∀ digit < 16, isWhitespace (Nat.digitChar digit) = false := by decide
      rcases List.mem_append.mp member with front | last
      · exact induction front
      · rw [List.mem_singleton.mp last]
        exact digit _ (Nat.mod_lt _ (by omega))

/-- `{:016x}` of a word. -/
def hexWord (word : UInt64) : Text := hexDigits 16 word.toNat

theorem hexWord_injective : Function.Injective hexWord := fun left right same =>
  UInt64.toNat_inj.mp (hexDigits_inj left.toNat_lt right.toNat_lt same)

end Text

/-- `u64::rotate_left`. -/
def rotateLeft (word bits : UInt64) : UInt64 := word <<< bits ||| word >>> (64 - bits)

/-- The state of the hash function. -/
structure SipState where
  v0 : UInt64
  v1 : UInt64
  v2 : UInt64
  v3 : UInt64

namespace SipState

/-- The state for a key of zeros. -/
def initial : SipState :=
  ⟨0x736f6d6570736575, 0x646f72616e646f6d, 0x6c7967656e657261, 0x7465646279746573⟩

/-- One round. -/
def round (state : SipState) : SipState :=
  let v0 := state.v0 + state.v1
  let v1 := rotateLeft state.v1 13 ^^^ v0
  let v2 := state.v2 + state.v3
  let v3 := rotateLeft state.v3 16 ^^^ v2
  let v0 := rotateLeft v0 32 + v3
  let v3 := rotateLeft v3 21 ^^^ v0
  let v2 := v2 + v1
  let v1 := rotateLeft v1 17 ^^^ v2
  ⟨v0, v1, rotateLeft v2 32, v3⟩

/-- Mix a word in. -/
def absorb (state : SipState) (word : UInt64) : SipState :=
  let mixed := { state with v3 := state.v3 ^^^ word }.round
  { mixed with v0 := mixed.v0 ^^^ word }

/-- The hash of what was absorbed. -/
def finish (state : SipState) : UInt64 :=
  let mixed := { state with v2 := state.v2 ^^^ 0xff }.round.round.round
  mixed.v0 ^^^ mixed.v1 ^^^ mixed.v2 ^^^ mixed.v3

end SipState

/-- A word is absorbed once its eight bytes are there, the lowest one first. -/
structure DefaultHasher where
  /-- What the whole words made of the state. -/
  state : SipState
  /-- The bytes of the word to come. -/
  tail : UInt64
  /-- How many bytes there were. -/
  length : Nat

namespace DefaultHasher

/-- One byte. -/
def write (hasher : DefaultHasher) (byte : UInt8) : DefaultHasher :=
  let place := hasher.length % 8
  let tail := hasher.tail ||| byte.toUInt64 <<< (8 * place).toUInt64
  if place = 7 then ⟨hasher.state.absorb tail, 0, hasher.length + 1⟩
  else ⟨hasher.state, tail, hasher.length + 1⟩

/-- The hash of the bytes; the last word ends in their number. -/
def finish (hasher : DefaultHasher) : UInt64 :=
  (hasher.state.absorb (hasher.length.toUInt64 <<< 56 ||| hasher.tail)).finish

/-- SipHash-1-3 of these bytes. -/
def of (bytes : List UInt8) : UInt64 := (bytes.foldl write ⟨.initial, 0, 0⟩).finish

end DefaultHasher

end RustStd
