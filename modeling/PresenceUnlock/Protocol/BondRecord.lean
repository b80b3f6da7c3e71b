import PresenceUnlock.Protocol.Irk
import PresenceUnlock.RustStd.Hex
import PresenceUnlock.RustStd.Result

/-!
# The key of a bond record

Where the reader of a bond record finds the key, and which values it takes for one.  A pair of
characters is read by a number parser that also takes a plus sign, so some values that are not
thirty-two digits are read as keys.
-/

namespace PresenceUnlock

open RustStd RustStd.Result

theorem hexOctet_eq_some_iff {pair : List UInt8} (two : pair.length = 2) (byte : UInt8) :
    hexOctet pair = some byte ↔
      ∃ first second, pair = Text.asBytes [first, second] ∧ Text.Octet first second byte := by
  simp only [hexOctet, Option.bind_eq_some_iff, Text.fromUtf8_eq_some_iff]
  constructor
  · rintro ⟨text, rfl, read⟩
    obtain ⟨first, second, rfl, octet⟩ := (Text.u8FromStrRadix_of_len two byte).mp read
    exact ⟨first, second, rfl, octet⟩
  · rintro ⟨first, second, rfl, octet⟩
    exact ⟨_, rfl, (Text.u8FromStrRadix_pair_iff first second byte).mpr octet⟩

/-- The pairs of an even run of bytes are read exactly as the octets of the text they encode. -/
theorem mapM_bytePairs_iff {encoded : List UInt8} (even : encoded.length % 2 = 0)
    (bytes : List UInt8) :
    (bytePairs encoded).mapM hexOctet = some bytes ↔
      ∃ text, encoded = Text.asBytes text ∧ Text.Octets Text.Octet text bytes := by
  rw [mapM_eq_some_iff]
  induction encoded using bytePairs.induct generalizing bytes with
  | case1 first second rest induction =>
      have rest_even : rest.length % 2 = 0 := by
        simp only [List.length_cons] at even
        omega
      rw [bytePairs, List.forall₂_cons_left_iff]
      simp only [induction rest_even]
      constructor
      · rintro ⟨byte, bytes, read, ⟨text, rfl, octets⟩, rfl⟩
        obtain ⟨high, low, encodes, octet⟩ := (hexOctet_eq_some_iff rfl byte).mp read
        refine ⟨high :: low :: text, ?_, .cons octet octets⟩
        change [first, second] ++ Text.asBytes text = Text.asBytes ([high, low] ++ text)
        rw [Text.asBytes_append, encodes]
      · rintro ⟨_, encodes, octets⟩
        cases octets with
        | nil => cases encodes
        | @cons high low text byte bytes octet octets =>
            have size := octet.len
            rw [show high :: low :: text = [high, low] ++ text from rfl,
              Text.asBytes_append] at encodes
            obtain ⟨pair, others⟩ := List.append_inj
              (show [first, second] ++ rest = _ from encodes) size.symm
            exact ⟨byte, bytes, (hexOctet_eq_some_iff rfl byte).mpr ⟨high, low, pair, octet⟩,
              ⟨text, others, octets⟩, rfl⟩
  | case2 encoded short =>
      obtain _ | ⟨first, _ | ⟨second, rest⟩⟩ := encoded
      · constructor
        · rintro ⟨⟩
          exact ⟨[], rfl, .nil⟩
        · rintro ⟨text, encodes, octets⟩
          obtain rfl : [] = text := Text.asBytes_injective encodes
          cases octets
          exact .nil
      · simp at even
      · exact absurd rfl (short first second rest)

/-- Sixteen octets are read as the key whose bytes they spell. -/
theorem readHexKey_eq_some_iff (hex : Text) (key : Key) :
    readHexKey hex = some key ↔ Text.Octets Text.Octet hex key.toList := by
  have size : key.toList.length = 16 := by simp
  constructor
  · intro read
    rw [readHexKey] at read
    split at read
    · cases read
    rename_i long
    have even : hex.asBytes.length % 2 = 0 := by
      have same : hex.asBytes.length = 32 := not_not.mp long
      rw [same]
    obtain ⟨bytes, pairs, sized⟩ := Option.bind_eq_some_iff.mp read
    obtain ⟨text, encodes, octets⟩ := (mapM_bytePairs_iff even bytes).mp pairs
    rw [Text.asBytes_injective encodes, ← keyOfBytes_eq_some_iff.mp sized]
    exact octets
  · intro octets
    have long : hex.len = 32 := by rw [octets.len_eq, size]
    have even : hex.asBytes.length % 2 = 0 := by
      rw [Text.len] at long
      rw [long]
    rw [readHexKey, if_neg (not_not.mpr long)]
    exact Option.bind_eq_some_iff.mpr ⟨key.toList,
      (mapM_bytePairs_iff even _).mpr ⟨hex, rfl, octets⟩, keyOfBytes_toList key⟩

/-- The digits of a value, after an optional `0x` or `0X`. -/
def Digits (value digits : Text) : Prop :=
  value = digits ∨ value = "0x".toList ++ digits ∨ value = "0X".toList ++ digits

/-- The digits of the value are sixteen octets that spell the key. -/
def Spelled (octet : Char → Char → UInt8 → Prop) (value : Text) (key : Key) : Prop :=
  ∃ digits, Digits value digits ∧ Text.Octets octet digits key.toList

/-- The value without its prefix, as the reader takes it off. -/
def unprefixed (value : Text) : Text :=
  ((Text.stripPrefix "0x".toList value).or (Text.stripPrefix "0X".toList value)).getD value

theorem digits_unprefixed (value : Text) : Digits value (unprefixed value) := by
  unfold unprefixed
  cases lower : Text.stripPrefix "0x".toList value with
  | some rest => exact .inr (.inl (Text.stripPrefix_eq_some.mp lower))
  | none =>
      cases upper : Text.stripPrefix "0X".toList value with
      | some rest => exact .inr (.inr (Text.stripPrefix_eq_some.mp upper))
      | none => exact .inl rfl

/-- Digits do not begin as a prefix does. -/
private theorem not_octets_of_marked {mark : Char} (unread : Text.toDigit 16 mark = none)
    {rest : Text} {bytes : List UInt8} :
    ¬ Text.Octets Text.Octet ('0' :: mark :: rest) bytes := by
  intro octets
  cases octets with
  | cons octet _ =>
      rcases octet with digits | signed
      · rw [Text.HexOctet, unread] at digits
        cases digits.2
      · exact absurd signed.1 (by decide)

/-- Octets can be the digits of a value in one way only. -/
theorem eq_unprefixed_of_octets {value digits : Text} {bytes : List UInt8}
    (split : Digits value digits) (octets : Text.Octets Text.Octet digits bytes) :
    digits = unprefixed value := by
  rcases split with rfl | rfl | rfl
  · cases lower : Text.stripPrefix "0x".toList value with
    | some rest =>
        rw [Text.stripPrefix_eq_some.mp lower] at octets
        exact absurd octets (not_octets_of_marked (by decide : Text.toDigit 16 'x' = none))
    | none =>
        cases upper : Text.stripPrefix "0X".toList value with
        | some rest =>
            rw [Text.stripPrefix_eq_some.mp upper] at octets
            exact absurd octets (not_octets_of_marked (by decide : Text.toDigit 16 'X' = none))
        | none => rw [unprefixed, lower, upper, Option.none_or, Option.getD_none]
  · rw [unprefixed, Text.stripPrefix_append, Option.some_or, Option.getD_some]
  · have notLower : Text.stripPrefix "0x".toList ("0X".toList ++ digits) = none := by
      rw [Option.eq_none_iff_forall_ne_some]
      intro rest stripped
      cases Text.stripPrefix_eq_some.mp stripped
    rw [unprefixed, notLower, Text.stripPrefix_append, Option.none_or, Option.getD_some]

theorem spelled_iff {octet : Char → Char → UInt8 → Prop}
    (reads : ∀ first second byte, octet first second byte → Text.Octet first second byte)
    (value : Text) (key : Key) :
    Spelled octet value key ↔ Text.Octets octet (unprefixed value) key.toList := by
  constructor
  · rintro ⟨digits, split, octets⟩
    rw [← eq_unprefixed_of_octets split (octets.imp reads)]
    exact octets
  · intro octets
    exact ⟨_, digits_unprefixed value, octets⟩

/-- A value of sixteen pairs, at least one of them a plus sign and a digit. -/
def Signed (value : Text) : Prop :=
  ∃ digits, Digits value digits ∧ digits.length = 32 ∧ Text.octetShaped digits = true ∧
    '+' ∈ digits

/-- A value with a sign is one that is read as a key though it is not spelled in digits. -/
theorem signed_iff (value : Text) :
    Signed value ↔ ∃ key, Spelled Text.Octet value key ∧ ¬ Spelled Text.HexOctet value key := by
  simp only [spelled_iff fun _ _ _ octet => octet, Text.Octets.hex_iff,
    spelled_iff fun _ _ _ (octet : Text.HexOctet _ _ _) => .inl octet]
  constructor
  · rintro ⟨digits, split, size, shaped, signed⟩
    obtain ⟨bytes, octets⟩ := (Text.exists_octets_iff digits).mpr shaped
    have length : bytes.length = 16 := by
      have doubled := octets.length_eq
      omega
    obtain rfl := eq_unprefixed_of_octets split octets
    have key : keyOfBytes bytes = some ⟨bytes.toArray, by simpa using length⟩ := dif_pos length
    refine ⟨_, (keyOfBytes_eq_some_iff.mp key) ▸ octets, ?_⟩
    simp [signed]
  · rintro ⟨key, octets, notHex⟩
    refine ⟨_, digits_unprefixed value, ?_, (Text.exists_octets_iff _).mp ⟨_, octets⟩, ?_⟩
    · simp [octets.length_eq]
    · exact not_not.mp fun unsigned => notHex ⟨octets, unsigned⟩

theorem readKeyValue_eq_ok_iff (raw : Text) (key : Key) :
    readKeyValue raw = .ok key ↔ Spelled Text.Octet raw.trim key := by
  rw [spelled_iff fun _ _ _ octet => octet, ← readHexKey_eq_some_iff, readKeyValue, unprefixed]
  split <;> rename_i read
  · rw [read]
    simp
  · rw [read]
    simp

/-- Without a sign among its digits, a value is read as the key that they spell. -/
theorem readKeyValue_of_unsigned {raw : Text} (unsigned : ¬ Signed raw.trim) (key : Key) :
    readKeyValue raw = .ok key ↔ Spelled Text.HexOctet raw.trim key := by
  rw [readKeyValue_eq_ok_iff]
  constructor
  · intro spelled
    by_contra notHex
    exact unsigned ((signed_iff _).mpr ⟨key, spelled, notHex⟩)
  · rintro ⟨digits, split, octets⟩
    exact ⟨digits, split, (Text.Octets.hex_iff.mp octets).1⟩

theorem readKeyValue_ne_missing (raw : Text) : readKeyValue raw ≠ .error .missing := by
  rw [readKeyValue]
  split <;> simp

namespace BondRecord

/-- A line between brackets. -/
def IsHeader (line : Text) : Prop := ∃ name, line = '[' :: name ++ [']']

/-- A line whose key is `Key`, with what follows its equals sign. -/
def KeyLine (line raw : Text) : Prop :=
  ∃ key, line = key ++ '=' :: raw ∧ '=' ∉ key ∧ key.trim = "Key".toList

/-- Neither a header nor a key line. -/
def Skipped (line : Text) : Prop := ¬ IsHeader line ∧ ∀ raw, ¬ KeyLine line raw

/-- The lines begin with a section whose first key line holds `raw`. -/
def HoldsKey (lines : List Text) (raw : Text) : Prop :=
  ∃ passed line after, lines = passed ++ line :: after ∧ (∀ other ∈ passed, Skipped other) ∧
    ¬ IsHeader line ∧ KeyLine line raw

/-- The header of the section of the remote key. -/
def heading : Text := "[IdentityResolvingKey]".toList

theorem sectionHeader_eq_some_iff (line name : Text) :
    sectionHeader line = some name ↔ line = '[' :: name ++ [']'] := by
  simp only [sectionHeader, Option.bind_eq_some_iff, Text.stripPrefix_eq_some,
    Text.stripSuffix_eq_some]
  constructor
  · rintro ⟨_, rfl, rfl⟩
    rfl
  · rintro rfl
    exact ⟨_, rfl, rfl⟩

theorem sectionHeader_eq_none_iff (line : Text) : sectionHeader line = none ↔ ¬ IsHeader line := by
  simp only [Option.eq_none_iff_forall_ne_some, ne_eq, sectionHeader_eq_some_iff, IsHeader,
    not_exists]

/-- A header of another name leads out of the section, the heading into it. -/
theorem heading_iff {line name : Text} (header : sectionHeader line = some name) :
    name = "IdentityResolvingKey".toList ↔ line = heading := by
  rw [(sectionHeader_eq_some_iff line name).mp header]
  constructor
  · rintro rfl
    rfl
  · intro same
    have written : heading = '[' :: "IdentityResolvingKey".toList ++ [']'] := rfl
    rw [written] at same
    exact List.append_cancel_right (List.cons.inj same).2

theorem keyLine_iff (line raw : Text) :
    KeyLine line raw ↔ ∃ key, line.splitOnce '=' = some (key, raw) ∧ key.trim = "Key".toList := by
  simp only [KeyLine, Text.splitOnce_eq_some_iff, and_assoc]

theorem not_holdsKey_nil (raw : Text) : ¬ HoldsKey [] raw := by
  rintro ⟨passed, line, after, lines, _⟩
  simp at lines

/-- The first key line is the first line, or it follows a line that is skipped. -/
theorem holdsKey_cons_iff (line raw : Text) (rest : List Text) :
    HoldsKey (line :: rest) raw ↔
      ¬ IsHeader line ∧ KeyLine line raw ∨ Skipped line ∧ HoldsKey rest raw := by
  constructor
  · rintro ⟨passed, found, after, lines, skipped, notHeader, keyLine⟩
    cases passed with
    | nil =>
        obtain ⟨rfl, rfl⟩ := List.cons.inj lines
        exact .inl ⟨notHeader, keyLine⟩
    | cons first passed =>
        obtain ⟨rfl, rfl⟩ := List.cons.inj lines
        obtain ⟨first_skipped, skipped⟩ := List.forall_mem_cons.mp skipped
        exact .inr ⟨first_skipped, passed, found, after, rfl, skipped, notHeader, keyLine⟩
  · rintro (⟨notHeader, keyLine⟩ | ⟨line_skipped, passed, found, after, rfl, skipped, rest⟩)
    · exact ⟨[], line, rest, rfl, by simp, notHeader, keyLine⟩
    · exact ⟨line :: passed, found, after, rfl, List.forall_mem_cons.mpr ⟨line_skipped, skipped⟩,
        rest⟩

/-- The outcome of a reading that finds no entry but those with `Holds`. -/
structure Reads (Holds : Text → Prop) (outcome : Except BluezIrkError Key) : Prop where
  /-- An entry that holds is read. -/
  found : ∀ raw, Holds raw → outcome = readKeyValue raw
  /-- Without one, it is missing. -/
  missing : (∀ raw, ¬ Holds raw) → outcome = .error .missing

theorem Reads.congr {Holds Other : Text → Prop} {outcome : Except BluezIrkError Key}
    (reads : Reads Holds outcome) (same : ∀ raw, Other raw ↔ Holds raw) : Reads Other outcome where
  found raw holds := reads.found raw ((same raw).mp holds)
  missing none := reads.missing fun raw holds => none raw ((same raw).mpr holds)

/-- Inside the section the reader takes the first key line before the next header. -/
theorem reads_section (lines : List Text) :
    Reads (HoldsKey (lines.map Text.trim)) (readBondLines true lines) := by
  induction lines with
  | nil => exact ⟨fun raw holds => absurd holds (not_holdsKey_nil raw), fun _ => rfl⟩
  | cons line rest induction =>
      rw [readBondLines, List.map_cons]
      cases header : sectionHeader line.trim with
      | some name =>
          have isHeader : IsHeader line.trim := ⟨name, (sectionHeader_eq_some_iff _ _).mp header⟩
          have none : ∀ raw, ¬ HoldsKey (line.trim :: rest.map Text.trim) raw := by
            intro raw
            simp [holdsKey_cons_iff, Skipped, isHeader]
          exact ⟨fun raw holds => absurd holds (none raw), fun _ => rfl⟩
      | none =>
          have notHeader := (sectionHeader_eq_none_iff _).mp header
          have skip : (∀ raw, ¬ KeyLine line.trim raw) → ∀ raw,
              (HoldsKey (line.trim :: rest.map Text.trim) raw ↔
                HoldsKey (rest.map Text.trim) raw) := by
            intro other raw
            simp [holdsKey_cons_iff, Skipped, notHeader, other]
          simp only [Bool.not_true, Bool.false_eq_true, if_false]
          cases split : line.trim.splitOnce '=' with
          | none =>
              refine induction.congr (skip fun raw => ?_)
              simp [keyLine_iff, split]
          | some parts =>
              obtain ⟨key, value⟩ := parts
              dsimp only
              split
              · rename_i other
                refine induction.congr (skip fun raw keyLine => other ?_)
                obtain ⟨found, same, isKey⟩ := (keyLine_iff _ _).mp keyLine
                rw [split] at same
                cases same
                exact isKey
              · rename_i isKey
                have keyLine : KeyLine line.trim value :=
                  (keyLine_iff _ _).mpr ⟨key, split, not_not.mp isKey⟩
                constructor
                · intro raw holds
                  rcases (holdsKey_cons_iff _ _ _).mp holds with ⟨_, first⟩ | ⟨skipped, _⟩
                  · obtain ⟨_, same, _⟩ := (keyLine_iff _ _).mp first
                    rw [split] at same
                    cases same
                    rfl
                  · exact absurd keyLine (skipped.2 value)
                · intro none
                  exact absurd ((holdsKey_cons_iff _ _ _).mpr (.inl ⟨notHeader, keyLine⟩))
                    (none value)

/-- The first key line of the first section of the remote key among trimmed lines. -/
def EntryIn (lines : List Text) (raw : Text) : Prop :=
  ∃ before within, lines = before ++ heading :: within ∧ heading ∉ before ∧ HoldsKey within raw

theorem entryIn_cons_heading (rest : List Text) (raw : Text) :
    EntryIn (heading :: rest) raw ↔ HoldsKey rest raw := by
  constructor
  · rintro ⟨before, within, lines, apart, holds⟩
    cases before with
    | nil => exact (List.cons.inj lines).2 ▸ holds
    | cons first before =>
        obtain ⟨rfl, _⟩ := List.cons.inj lines
        exact absurd List.mem_cons_self apart
  · intro holds
    exact ⟨[], rest, rfl, List.not_mem_nil, holds⟩

theorem entryIn_cons_of_ne {line : Text} (other : line ≠ heading) (rest : List Text) (raw : Text) :
    EntryIn (line :: rest) raw ↔ EntryIn rest raw := by
  constructor
  · rintro ⟨before, within, lines, apart, holds⟩
    cases before with
    | nil => exact absurd (List.cons.inj lines).1 other
    | cons first before =>
        obtain ⟨rfl, rfl⟩ := List.cons.inj lines
        exact ⟨before, within, rfl, fun member => apart (List.mem_cons_of_mem _ member), holds⟩
  · rintro ⟨before, within, rfl, apart, holds⟩
    exact ⟨line :: before, within, rfl, by simp [apart, Ne.symm other], holds⟩

/-- The reader takes the first key line of the first section of the remote key. -/
theorem reads_record (lines : List Text) :
    Reads (EntryIn (lines.map Text.trim)) (readBondLines false lines) := by
  induction lines with
  | nil =>
      have none : ∀ raw, ¬ EntryIn [] raw := by
        rintro raw ⟨before, within, lines, _⟩
        simp at lines
      exact ⟨fun raw holds => absurd holds (none raw), fun _ => rfl⟩
  | cons line rest induction =>
      rw [readBondLines, List.map_cons]
      cases header : sectionHeader line.trim with
      | some name =>
          simp only [Bool.false_eq_true, if_false]
          by_cases isHeading : line.trim = heading
          · rw [(heading_iff header).mpr isHeading, beq_self_eq_true, isHeading]
            exact (reads_section rest).congr (entryIn_cons_heading _)
          · have other : (name == "IdentityResolvingKey".toList) = false :=
              beq_eq_false_iff_ne.mpr fun same => isHeading ((heading_iff header).mp same)
            rw [other]
            exact induction.congr (entryIn_cons_of_ne isHeading _)
      | none =>
          have notHeading : line.trim ≠ heading := by
            intro same
            rw [sectionHeader_eq_none_iff, same] at header
            exact header ⟨"IdentityResolvingKey".toList, rfl⟩
          simp only [Bool.not_false, if_true]
          exact induction.congr (entryIn_cons_of_ne notHeading _)

/-- The entry of the remote key in a bond record. -/
def KeyEntry (info raw : Text) : Prop := EntryIn (info.lines.map Text.trim) raw

/-- The reader accepts exactly the record format: it reads the key that sixteen octets spell in the
entry of the remote key, and says whether there is no such entry or it does not spell a key. -/
structure Exact (info : Text) : Prop where
  /-- The key is what the entry spells. -/
  ok : ∀ key, parseBluezInfoIrk info = .ok key ↔
    ∃ raw, KeyEntry info raw ∧ Spelled Text.HexOctet raw.trim key
  /-- The entry spells no key. -/
  malformed : parseBluezInfoIrk info = .error .malformed ↔
    ∃ raw, KeyEntry info raw ∧ ∀ key, ¬ Spelled Text.HexOctet raw.trim key
  /-- There is no entry. -/
  missing : parseBluezInfoIrk info = .error .missing ↔ ∀ raw, ¬ KeyEntry info raw

theorem HoldsKey.unique {lines : List Text} {raw other : Text} (holds : HoldsKey lines raw)
    (again : HoldsKey lines other) : raw = other := by
  induction lines with
  | nil => exact absurd holds (not_holdsKey_nil raw)
  | cons line rest induction =>
      rw [holdsKey_cons_iff] at holds again
      rcases holds with ⟨_, first⟩ | ⟨skipped, later⟩
      · rcases again with ⟨_, second⟩ | ⟨skipped, _⟩
        · obtain ⟨_, split, _⟩ := (keyLine_iff _ _).mp first
          obtain ⟨_, split', _⟩ := (keyLine_iff _ _).mp second
          rw [split] at split'
          cases split'
          rfl
        · exact absurd first (skipped.2 raw)
      · rcases again with ⟨_, second⟩ | ⟨_, later'⟩
        · exact absurd second (skipped.2 other)
        · exact induction later later'

theorem EntryIn.unique {lines : List Text} {raw other : Text} (entry : EntryIn lines raw)
    (again : EntryIn lines other) : raw = other := by
  induction lines with
  | nil =>
      obtain ⟨before, within, lines, _⟩ := entry
      simp at lines
  | cons line rest induction =>
      by_cases isHeading : line = heading
      · subst isHeading
        rw [entryIn_cons_heading] at entry again
        exact entry.unique again
      · rw [entryIn_cons_of_ne isHeading] at entry again
        exact induction entry again

/-- A value is malformed when no key can be read from it. -/
theorem readKeyValue_eq_malformed_iff (raw : Text) :
    readKeyValue raw = .error .malformed ↔ ∀ key, readKeyValue raw ≠ .ok key := by
  have notMissing := readKeyValue_ne_missing raw
  cases outcome : readKeyValue raw with
  | ok key => simp
  | error error => cases error <;> simp_all

/-- A key with a sign among its digits is read, so the reader is not exact on its record. -/
theorem not_signed_of_exact {info raw : Text} (exact : Exact info) (entry : KeyEntry info raw) :
    ¬ Signed raw.trim := by
  intro signed
  obtain ⟨key, spelled, notHex⟩ := (signed_iff _).mp signed
  have outcome : parseBluezInfoIrk info = readKeyValue raw :=
    (reads_record info.lines).found raw entry
  obtain ⟨other, again, hex⟩ :=
    (exact.ok key).mp (outcome.trans ((readKeyValue_eq_ok_iff _ key).mpr spelled))
  rw [entry.unique again] at notHex
  exact notHex hex

/-- The reader accepts exactly the format, except for keys with plus signs among their digits. -/
theorem parseBluezInfoIrk_exact_iff (info : Text) :
    Exact info ↔ ∀ raw, KeyEntry info raw → ¬ Signed raw.trim := by
  have reads := reads_record info.lines
  by_cases exists_entry : ∃ raw, KeyEntry info raw
  · obtain ⟨raw, entry⟩ := exists_entry
    have outcome : parseBluezInfoIrk info = readKeyValue raw := reads.found raw entry
    have only : ∀ {Holds : Text → Prop},
        (∃ other, KeyEntry info other ∧ Holds other) ↔ Holds raw := by
      intro Holds
      constructor
      · rintro ⟨other, again, holds⟩
        rwa [entry.unique again]
      · intro holds
        exact ⟨raw, entry, holds⟩
    constructor
    · intro exact other again
      exact not_signed_of_exact exact again
    · intro unsigned
      have hex := readKeyValue_of_unsigned (unsigned raw entry)
      refine ⟨fun key => ?_, ?_, ?_⟩
      · rw [outcome, hex, only]
      · rw [outcome, readKeyValue_eq_malformed_iff, only]
        exact forall_congr' fun key => not_congr (hex key)
      · rw [outcome]
        exact iff_of_false (readKeyValue_ne_missing raw) fun none => none raw entry
  · have none : ∀ raw, ¬ KeyEntry info raw := not_exists.mp exists_entry
    have outcome : parseBluezInfoIrk info = .error .missing := reads.missing none
    refine iff_of_true ⟨fun key => ?_, ?_, iff_of_true outcome none⟩ fun raw entry =>
      absurd entry (none raw)
    · rw [outcome]
      simp [none]
    · rw [outcome]
      simp [none]

/-- The digits of sixteen octets that are each written with a plus sign. -/
def signedDigits : Text := "+1+1+1+1+1+1+1+1+1+1+1+1+1+1+1+1".toList

/-- A record whose key is spelled with signs. -/
def signedRecord : Text := heading ++ '\n' :: "Key=".toList ++ signedDigits

/-- Sixteen plus signs and ones are taken for the key of sixteen ones. -/
theorem parseBluezInfoIrk_takes_signedRecord :
    parseBluezInfoIrk signedRecord = .ok (Vector.replicate 16 1) ∧ ¬ Exact signedRecord := by
  have lines : signedRecord.lines.map Text.trim = [heading, "Key=".toList ++ signedDigits] := by
    decide +kernel
  have notHeader : ¬ IsHeader ("Key=".toList ++ signedDigits) := by
    rw [← sectionHeader_eq_none_iff]
    decide
  have keyLine : KeyLine ("Key=".toList ++ signedDigits) signedDigits :=
    ⟨"Key".toList, rfl, by decide, by decide⟩
  have entry : KeyEntry signedRecord signedDigits := by
    rw [KeyEntry, lines]
    exact ⟨[], _, rfl, List.not_mem_nil, [], _, [], rfl, by simp, notHeader, keyLine⟩
  have trimmed : signedDigits.trim = signedDigits := by decide +kernel
  constructor
  · have outcome : parseBluezInfoIrk signedRecord = readKeyValue signedDigits :=
      (reads_record signedRecord.lines).found _ entry
    have one : Text.Octet '+' '1' 1 := .inr ⟨rfl, by decide⟩
    rw [outcome, readKeyValue_eq_ok_iff, trimmed]
    refine ⟨signedDigits, .inl rfl, ?_⟩
    iterate 16 refine Text.Octets.cons one ?_
    exact .nil
  · intro exact
    refine not_signed_of_exact exact entry ?_
    rw [trimmed]
    exact ⟨signedDigits, .inl rfl, by decide, by decide, by decide⟩

end BondRecord
end PresenceUnlock
