import PresenceUnlock.Cli.Advertise
import PresenceUnlock.RustStd.Hex

/-!
# Recognising an address

Three readers tell an address from other text: the parser, the check that keeps an address from
being taken for a name, and the check on the directories of bond records.
-/

namespace PresenceUnlock.Cli

open RustStd

/-- `u8::is_ascii_hexdigit`. -/
def isAsciiHexdigitByte (byte : UInt8) : Bool :=
  (0x30 ≤ byte && byte ≤ 0x39) || (0x41 ≤ byte && byte ≤ 0x46) || (0x61 ≤ byte && byte ≤ 0x66)

/-- A byte of an address: a hexadecimal digit or a colon. -/
def isAddressByte (byte : UInt8) : Bool := isAsciiHexdigitByte byte || byte == 0x3A

/-- Whether a directory name of the bond storage is an address. -/
def isAddressDir (name : Text) : Bool :=
  name.len = 17 && (name.split ':').length = 6 && name.asBytes.all isAddressByte

namespace AddressText

/-- Six fields between colons, each of which `Field` allows. -/
def Six (Field : Text → Prop) (text : Text) : Prop :=
  ∃ fields : List Text, text = [':'].intercalate fields ∧ fields.length = 6 ∧
    ∀ field ∈ fields, Field field

/-- A field of two hexadecimal digits. -/
def HexField (field : Text) : Prop := field.length = 2 ∧ ∀ c ∈ field, Text.isHexDigit c = true

/-- Six octets of two hexadecimal digits, joined by colons. -/
def IsAddress : Text → Prop := Six HexField

/-- A field of two digits, or of a plus sign and a digit. -/
def OctetField (field : Text) : Prop := field.length = 2 ∧ Text.octetShaped field = true

/-- Six octets, some of them a plus sign and a digit instead of two digits. -/
def SignedAddress (text : Text) : Prop :=
  Six OctetField text ∧ '+' ∈ text

/-- Six fields of hexadecimal digits with seventeen characters in all, but not two to a field. -/
def UnevenAddress (text : Text) : Prop :=
  text.length = 17 ∧ Six (fun field => ∀ c ∈ field, Text.isHexDigit c = true) text ∧
    ¬ IsAddress text

/-- The readers agree on a text, and reading inverts writing. -/
structure Agree (text : Text) : Prop where
  /-- The parser accepts exactly the addresses. -/
  accepts : (∃ address, parseAddress text = some address) ↔ IsAddress text
  /-- What looks like an address is one, unless it is written with dashes. -/
  looks : '-' ∉ text →
    (Advertise.looksLikeAddress text = true ↔ ∃ address, parseAddress text = some address)
  /-- The name of a bond's directory is an address. -/
  dir : isAddressDir text = true → ∃ address, parseAddress text = some address
  /-- What is written is read back. -/
  restores : ∀ address, parseAddress (formatAddress address) = some address
  /-- What is read is written in upper case. -/
  upper : ∀ address, parseAddress text = some address →
    formatAddress address = text.map Char.toUpper

theorem nextOctet_eq_some_iff {fields rest : List Text} {byte : UInt8} :
    nextOctet fields = some (byte, rest) ↔
      ∃ first second, fields = [first, second] :: rest ∧ Text.Octet first second byte := by
  cases fields with
  | nil => simp [nextOctet]
  | cons field others =>
      rw [nextOctet]
      split
      · rename_i size
        constructor
        · intro read
          cases read
        · rintro ⟨first, second, same, octet⟩
          rw [(List.cons.inj same).1] at size
          exact absurd octet.len size
      · rename_i size
        simp only [Option.map_eq_some_iff, Text.u8FromStrRadix_of_len (not_not.mp size),
          Prod.mk.injEq, List.cons.injEq]
        constructor
        · rintro ⟨_, ⟨first, second, written, octet⟩, rfl, rfl⟩
          exact ⟨first, second, ⟨written, rfl⟩, octet⟩
        · rintro ⟨first, second, ⟨written, rfl⟩, octet⟩
          exact ⟨byte, ⟨first, second, written, octet⟩, rfl, rfl⟩

/-- A field that spells one byte. -/
def FieldOf (octet : Char → Char → UInt8 → Prop) (field : Text) (byte : UInt8) : Prop :=
  ∃ first second, field = [first, second] ∧ octet first second byte

/-- An address is its six bytes. -/
theorem address_cases (address : Address) :
    ∃ o0 o1 o2 o3 o4 o5, address = #v[o0, o1, o2, o3, o4, o5] := by
  obtain ⟨⟨bytes⟩, size⟩ := address
  obtain _ | ⟨o0, _ | ⟨o1, _ | ⟨o2, _ | ⟨o3, _ | ⟨o4, _ | ⟨o5, _ | ⟨o6, rest⟩⟩⟩⟩⟩⟩⟩ := bytes
  all_goals first
    | exact ⟨_, _, _, _, _, _, rfl⟩
    | simp at size

/-- The parser succeeds when the fields between colons spell the six bytes. -/
theorem parseAddress_eq_some_iff (text : Text) (address : Address) :
    parseAddress text = some address ↔
      List.Forall₂ (FieldOf Text.Octet) (text.split ':') address.toList := by
  obtain ⟨o0, o1, o2, o3, o4, o5, rfl⟩ := address_cases address
  have bytes : (#v[o0, o1, o2, o3, o4, o5] : Address).toList = [o0, o1, o2, o3, o4, o5] := rfl
  rw [bytes]
  simp only [parseAddress, Option.bind_eq_bind, Option.bind_eq_some_iff, Prod.exists,
    nextOctet_eq_some_iff, List.forall₂_cons_right_iff, List.forall₂_nil_right_iff]
  constructor
  · rintro ⟨_, _, octet0, _, _, ⟨a1, b1, rfl, octet1⟩, _, _, ⟨a2, b2, rfl, octet2⟩, _, _,
      ⟨a3, b3, rfl, octet3⟩, _, _, ⟨a4, b4, rfl, octet4⟩, _, rest, ⟨a5, b5, rfl, octet5⟩, ended⟩
    obtain ⟨a0, b0, split, octet0⟩ := octet0
    split at ended
    · cases ended
    rename_i empty
    obtain rfl : rest = [] := not_not.mp empty
    have same := congrArg Vector.toList (Option.some.inj ended)
    obtain ⟨rfl, rfl, rfl, rfl, rfl, rfl, _⟩ : _ = o0 ∧ _ = o1 ∧ _ = o2 ∧ _ = o3 ∧ _ = o4 ∧
        _ = o5 ∧ True := by simpa using same
    exact ⟨_, _, ⟨a0, b0, rfl, octet0⟩, ⟨_, _, ⟨a1, b1, rfl, octet1⟩, ⟨_, _, ⟨a2, b2, rfl, octet2⟩,
      ⟨_, _, ⟨a3, b3, rfl, octet3⟩, ⟨_, _, ⟨a4, b4, rfl, octet4⟩,
        ⟨_, _, ⟨a5, b5, rfl, octet5⟩, rfl, rfl⟩, rfl⟩, rfl⟩, rfl⟩, rfl⟩, split⟩
  · rintro ⟨_, _, ⟨a0, b0, rfl, octet0⟩, ⟨_, _, ⟨a1, b1, rfl, octet1⟩, ⟨_, _, ⟨a2, b2, rfl, octet2⟩,
      ⟨_, _, ⟨a3, b3, rfl, octet3⟩, ⟨_, _, ⟨a4, b4, rfl, octet4⟩,
        ⟨_, _, ⟨a5, b5, rfl, octet5⟩, rfl, rfl⟩, rfl⟩, rfl⟩, rfl⟩, rfl⟩, split⟩
    exact ⟨o0, _, ⟨a0, b0, split, octet0⟩, o1, _, ⟨a1, b1, rfl, octet1⟩, o2, _,
      ⟨a2, b2, rfl, octet2⟩, o3, _, ⟨a3, b3, rfl, octet3⟩, o4, _, ⟨a4, b4, rfl, octet4⟩, o5, _,
      ⟨a5, b5, rfl, octet5⟩, rfl⟩

/-- Fields without colons are the ones that splitting finds. -/
theorem six_iff {Field : Text → Prop} (free : ∀ field, Field field → ':' ∉ field) (text : Text) :
    Six Field text ↔ (text.split ':').length = 6 ∧ ∀ field ∈ text.split ':', Field field := by
  have join : ∀ {fields : List Text}, fields ≠ [] → (text.split ':' = fields ↔
      text = [':'].intercalate fields ∧ ∀ field ∈ fields, ':' ∉ field) := Text.splitOn_eq_iff
  constructor
  · rintro ⟨fields, joined, six, allowed⟩
    have nonempty : fields ≠ [] := by
      rintro rfl
      cases six
    rw [(join nonempty).mpr ⟨joined, fun field member => free field (allowed field member)⟩]
    exact ⟨six, allowed⟩
  · rintro ⟨six, allowed⟩
    have nonempty : text.split ':' ≠ [] := by
      intro empty
      rw [empty] at six
      cases six
    exact ⟨_, ((join nonempty).mp rfl).1, six, allowed⟩

/-- A character other than the colon is in a joined text when it is in a field. -/
theorem mem_intercalate_iff {c : Char} (other : c ≠ ':') (fields : List Text) :
    c ∈ [':'].intercalate fields ↔ ∃ field ∈ fields, c ∈ field := by
  induction fields with
  | nil => simp [List.intercalate]
  | cons field rest induction =>
      cases rest with
      | nil => simp [List.intercalate]
      | cons next rest =>
          have joined : [':'].intercalate (field :: next :: rest) =
              field ++ ':' :: [':'].intercalate (next :: rest) := by
            simp [List.intercalate]
          rw [joined, List.mem_append, List.mem_cons, induction]
          simp [other]

theorem not_isHexDigit_colon : Text.isHexDigit ':' = false := by decide

theorem octetField_iff (field : Text) :
    OctetField field ↔ ∃ byte, FieldOf Text.Octet field byte := by
  constructor
  · rintro ⟨size, shaped⟩
    obtain _ | ⟨first, _ | ⟨second, _ | ⟨third, rest⟩⟩⟩ := field
    · cases size
    · cases size
    · simp only [Text.octetShaped, Bool.and_true, Bool.and_eq_true] at shaped
      obtain ⟨byte, octet⟩ := (Text.exists_octet_iff first second).mpr shaped
      exact ⟨byte, first, second, rfl, octet⟩
    · simp at size
  · rintro ⟨byte, first, second, rfl, octet⟩
    have shaped := (Text.exists_octet_iff first second).mp ⟨byte, octet⟩
    exact ⟨rfl, by simp only [Text.octetShaped, Bool.and_true, shaped]⟩

theorem colon_not_mem_of_octetField {field : Text} (shaped : OctetField field) :
    ':' ∉ field := by
  obtain ⟨byte, first, second, rfl, octet⟩ := (octetField_iff field).mp shaped
  have shape := (Text.exists_octet_iff first second).mp ⟨byte, octet⟩
  simp only [List.mem_cons, List.not_mem_nil, or_false, not_or]
  constructor
  · rintro rfl
    exact absurd shape.1 (by decide)
  · rintro rfl
    exact absurd shape.2 (by decide)

/-- A field of two digits is one that the parser reads and has no plus sign. -/
theorem hexField_iff (field : Text) : HexField field ↔ OctetField field ∧ '+' ∉ field := by
  have notHex : Text.isHexDigit '+' = false := by decide
  obtain _ | ⟨first, _ | ⟨second, _ | ⟨third, rest⟩⟩⟩ := field
  · simp [HexField, OctetField]
  · simp [HexField, OctetField]
  · have hexPair : HexField [first, second] ↔
        Text.isHexDigit first = true ∧ Text.isHexDigit second = true := by
      simp [HexField]
    have octetPair : OctetField [first, second] ↔
        (Text.isHexDigit first = true ∨ first = '+') ∧ Text.isHexDigit second = true := by
      simp [OctetField, Text.octetShaped]
    rw [hexPair, octetPair, List.mem_cons, List.mem_singleton, not_or]
    constructor
    · rintro ⟨high, low⟩
      refine ⟨⟨.inl high, low⟩, ?_, ?_⟩
      · rintro rfl
        rw [notHex] at high
        cases high
      · rintro rfl
        rw [notHex] at low
        cases low
    · rintro ⟨⟨high | sign, low⟩, unsigned, _⟩
      · exact ⟨high, low⟩
      · exact absurd sign.symm unsigned
  · simp [HexField, OctetField]

/-- A text is read when its six fields have the shape of octets. -/
theorem exists_parseAddress_iff (text : Text) :
    (∃ address, parseAddress text = some address) ↔ Six OctetField text := by
  rw [six_iff fun _ => colon_not_mem_of_octetField]
  simp only [parseAddress_eq_some_iff, octetField_iff]
  constructor
  · rintro ⟨address, read⟩
    refine ⟨by simpa using read.length_eq, fun field member => ?_⟩
    obtain ⟨byte, _, spelled⟩ := Result.exists_right_of_forall₂ read member
    exact ⟨byte, spelled⟩
  · rintro ⟨six, spelled⟩
    obtain ⟨bytes, read⟩ := Result.exists_forall₂_iff.mpr spelled
    have size : bytes.length = 6 := by rw [← read.length_eq, six]
    exact ⟨⟨bytes.toArray, by simpa using size⟩, by simpa [Vector.toList] using read⟩

/-- The addresses are the texts that are read and have no plus sign. -/
theorem isAddress_iff (text : Text) :
    IsAddress text ↔ Six OctetField text ∧ '+' ∉ text := by
  constructor
  · rintro ⟨fields, rfl, six, hex⟩
    simp only [hexField_iff] at hex
    refine ⟨⟨fields, rfl, six, fun field member => (hex field member).1⟩, ?_⟩
    rw [mem_intercalate_iff (by decide)]
    rintro ⟨field, member, signed⟩
    exact (hex field member).2 signed
  · rintro ⟨⟨fields, rfl, six, shaped⟩, unsigned⟩
    rw [mem_intercalate_iff (by decide)] at unsigned
    refine ⟨fields, rfl, six, fun field member =>
      (hexField_iff field).mpr ⟨shaped field member, ?_⟩⟩
    exact fun signed => unsigned ⟨field, member, signed⟩

/-- The bytes of a character are bytes of an address when it is a digit or a colon. -/
theorem all_isAddressByte_iff (c : Char) :
    (String.utf8EncodeChar c).all isAddressByte = (Text.isHexDigit c || c == ':') := by
  by_cases ascii : c.toNat < 128
  · exact Text.forall_ascii (fun c => (String.utf8EncodeChar c).all isAddressByte =
      (Text.isHexDigit c || c == ':')) (by decide +kernel) ascii
  · have lead : ∀ value : Nat, value < 256 → 128 ≤ value →
        isAddressByte (UInt8.ofNat value) = false := by decide +kernel
    have notDigit : Text.isHexDigit c = false := by
      by_contra digit
      obtain ⟨value, read⟩ := Option.isSome_iff_exists.mp (Bool.not_eq_false _ ▸ digit)
      exact ascii (Text.toNat_lt_of_toDigit read)
    have notColon : (c == ':') = false := by
      rw [beq_eq_false_iff_ne]
      rintro rfl
      exact ascii (by decide)
    have wide : ¬ c.val.toNat ≤ 0x7f := by
      change ¬ c.toNat ≤ 127
      omega
    rw [notDigit, notColon, String.utf8EncodeChar, if_neg wide]
    split
    · rw [List.all_cons, lead _ (by omega) (by omega), Bool.false_and, Bool.false_or]
    split
    · rw [List.all_cons, lead _ (by omega) (by omega), Bool.false_and, Bool.false_or]
    · rw [List.all_cons, lead _ (by omega) (by omega), Bool.false_and, Bool.false_or]

theorem colon_not_mem_of_digits {field : Text}
    (digits : ∀ c ∈ field, Text.isHexDigit c = true) : ':' ∉ field := by
  intro member
  cases not_isHexDigit_colon.symm.trans (digits ':' member)

/-- The directory check counts the characters and the fields, and asks for digits in them. -/
theorem isAddressDir_iff (name : Text) :
    isAddressDir name = true ↔
      name.length = 17 ∧ Six (fun field => ∀ c ∈ field, Text.isHexDigit c = true) name := by
  have bytes : name.asBytes.all isAddressByte = true ↔
      ∀ c ∈ name, Text.isHexDigit c = true ∨ c = ':' := by
    simp only [Text.asBytes, List.all_flatMap, all_isAddressByte_iff, List.all_eq_true,
      Bool.or_eq_true, beq_iff_eq]
  have fields : (∀ c ∈ name, Text.isHexDigit c = true ∨ c = ':') ↔
      ∀ field ∈ name.split ':', ∀ c ∈ field, Text.isHexDigit c = true := by
    have joined : [':'].intercalate (name.split ':') = name := List.intercalate_splitOn ':'
    have apart : ∀ field ∈ name.split ':', ∀ c ∈ field, (c == ':') = false :=
      Text.solid_of_mem_splitOnP name
    constructor
    · intro digits field member c inside
      have other : c ≠ ':' := beq_eq_false_iff_ne.mp (apart field member c inside)
      have contained := (mem_intercalate_iff other (name.split ':')).mpr ⟨field, member, inside⟩
      exact (digits c (joined ▸ contained)).resolve_right other
    · intro digits c contained
      by_cases other : c = ':'
      · exact .inr other
      · rw [← joined, mem_intercalate_iff other] at contained
        obtain ⟨field, member, inside⟩ := contained
        exact .inl (digits field member c inside)
  have length : (∀ c ∈ name, Text.isHexDigit c = true ∨ c = ':') → name.len = name.length := by
    intro digits
    refine Text.len_eq_length fun c member => ?_
    rcases digits c member with digit | rfl
    · exact Text.utf8Size_of_isHexDigit digit
    · decide
  rw [isAddressDir, Bool.and_eq_true, Bool.and_eq_true, decide_eq_true_eq, decide_eq_true_eq, bytes,
    six_iff fun _ => colon_not_mem_of_digits]
  constructor
  · rintro ⟨⟨size, six⟩, digits⟩
    exact ⟨(length digits).symm.trans size, six, fields.mp digits⟩
  · rintro ⟨size, six, digits⟩
    exact ⟨⟨(length (fields.mpr digits)).trans size, six⟩, fields.mpr digits⟩

/-- On a text without dashes the check on names recognises the addresses. -/
theorem looksLikeAddress_iff {text : Text} (undashed : '-' ∉ text) :
    Advertise.looksLikeAddress text = true ↔ IsAddress text := by
  have split : (text.splitOnP fun c => c == '-' || c == ':') = text.split ':' := by
    refine Text.splitOnP_congr fun c member => ?_
    have other : (c == '-') = false := by
      rw [beq_eq_false_iff_ne]
      rintro rfl
      exact undashed member
    rw [other, Bool.false_or]
  have field : ∀ field : Text, (Text.len field = 2 && field.all Advertise.isAsciiHexdigit) = true ↔
      HexField field := by
    intro field
    rw [Bool.and_eq_true, List.all_eq_true, decide_eq_true_eq]
    refine and_congr_left fun digits => ?_
    rw [Text.len_eq_length fun c member => Text.utf8Size_of_isHexDigit (digits c member)]
  have free : ∀ field, HexField field → ':' ∉ field := fun _ hex => colon_not_mem_of_digits hex.2
  rw [IsAddress, six_iff free, Advertise.looksLikeAddress, split, Bool.and_eq_true,
    List.all_eq_true, decide_eq_true_eq, and_comm]
  simp only [field]

/-- An address is read back from its text. -/
theorem parseAddress_formatAddress (address : Address) :
    parseAddress (formatAddress address) = some address := by
  have fieldOf : ∀ byte, FieldOf Text.Octet (Text.hexByteUpper byte) byte := by
    intro byte
    obtain ⟨high, low, written, octet⟩ := Text.exists_hexByteUpper byte
    exact ⟨high, low, written, .inl octet⟩
  have fields : (formatAddress address).split ':' = address.toList.map Text.hexByteUpper := by
    refine List.splitOn_intercalate ':' (fun field member => ?_) (by simp)
    obtain ⟨byte, _, rfl⟩ := List.mem_map.mp member
    exact colon_not_mem_of_octetField ((octetField_iff _).mpr ⟨byte, fieldOf byte⟩)
  rw [parseAddress_eq_some_iff, fields, List.forall₂_map_left_iff, List.forall₂_same]
  exact fun byte _ => fieldOf byte

theorem map_intercalate (f : Char → Char) (sep : Char) (fields : List Text) :
    ([sep].intercalate fields).map f = [f sep].intercalate (fields.map (List.map f)) := by
  induction fields with
  | nil => rfl
  | cons field rest induction =>
      cases rest with
      | nil => simp [List.intercalate]
      | cons next rest =>
          rw [List.intercalate_cons_cons, List.map_append, List.map_append, induction]
          simp [List.intercalate_cons_cons]

/-- An address is written back in upper case. -/
theorem formatAddress_of_isAddress {text : Text} {address : Address} (isAddress : IsAddress text)
    (read : parseAddress text = some address) :
    formatAddress address = text.map Char.toUpper := by
  have joined : [':'].intercalate (text.split ':') = text := List.intercalate_splitOn ':'
  have hex := ((six_iff (fun _ hex => colon_not_mem_of_digits hex.2) text).mp isAddress).2
  rw [parseAddress_eq_some_iff] at read
  have written : address.toList.map Text.hexByteUpper =
      (text.split ':').map (List.map Char.toUpper) := by
    generalize text.split ':' = fields at hex read
    generalize address.toList = bytes at read
    induction read with
    | nil => rfl
    | @cons field byte fields bytes spelled _ induction =>
        obtain ⟨first_hex, others_hex⟩ := List.forall_mem_cons.mp hex
        obtain ⟨first, second, rfl, octet⟩ := spelled
        have digits : Text.HexOctet first second byte := by
          refine octet.resolve_right fun signed => ?_
          have digit := first_hex.2 first List.mem_cons_self
          rw [signed.1] at digit
          exact absurd digit (by decide)
        rw [List.map_cons, List.map_cons, induction others_hex,
          Text.hexByteUpper_of_hexOctet digits]
        rfl
  have upper := map_intercalate Char.toUpper ':' (text.split ':')
  rw [joined, show ':'.toUpper = ':' by decide] at upper
  rw [formatAddress, written, upper]

/-- The readers agree, and reading inverts writing, except on a text that the parser reads with a
sign and on one whose fields the directory check does not measure. -/
theorem agree_iff (text : Text) : Agree text ↔ ¬ SignedAddress text ∧ ¬ UnevenAddress text := by
  have read := exists_parseAddress_iff text
  have isAddress := isAddress_iff text
  constructor
  · intro agree
    constructor
    · rintro ⟨shaped, signed⟩
      exact (isAddress.mp (agree.accepts.mp (read.mpr shaped))).2 signed
    · rintro ⟨size, digits, uneven⟩
      exact uneven (agree.accepts.mp (agree.dir ((isAddressDir_iff text).mpr ⟨size, digits⟩)))
  · rintro ⟨unsigned, even⟩
    have accepts : (∃ address, parseAddress text = some address) ↔ IsAddress text := by
      rw [read, isAddress]
      constructor
      · intro shaped
        exact ⟨shaped, fun signed => unsigned ⟨shaped, signed⟩⟩
      · exact And.left
    refine ⟨accepts, fun undashed => ?_, fun dir => ?_, parseAddress_formatAddress, ?_⟩
    · rw [looksLikeAddress_iff undashed, accepts]
    · obtain ⟨size, digits⟩ := (isAddressDir_iff text).mp dir
      exact accepts.mpr (not_not.mp fun uneven => even ⟨size, digits, uneven⟩)
    · intro address parsed
      exact formatAddress_of_isAddress (accepts.mp ⟨address, parsed⟩) parsed

/-- An octet with a sign. -/
def signedText : Text := "+A:BB:CC:DD:EE:FF".toList

/-- Octets of one digit and of three. -/
def unevenText : Text := "A:BBB:CC:DD:EE:FF".toList

/-- A plus sign passes for a digit in the parser, and the directory check takes an uneven address
that the parser refuses. -/
theorem disagree_on_signed_and_uneven :
    parseAddress signedText = some #v[0x0A, 0xBB, 0xCC, 0xDD, 0xEE, 0xFF] ∧ ¬ Agree signedText ∧
      isAddressDir unevenText = true ∧ parseAddress unevenText = none ∧ ¬ Agree unevenText := by
  have signed : parseAddress signedText = some #v[0x0A, 0xBB, 0xCC, 0xDD, 0xEE, 0xFF] := by
    decide +kernel
  have dir : isAddressDir unevenText = true := by decide +kernel
  have refused : parseAddress unevenText = none := by decide +kernel
  refine ⟨signed, fun agree => ?_, dir, refused, fun agree => ?_⟩
  · exact absurd ((isAddress_iff _).mp (agree.accepts.mp ⟨_, signed⟩)).2 (by decide)
  · obtain ⟨address, read⟩ := agree.dir dir
    rw [refused] at read
    cases read

end AddressText
end PresenceUnlock.Cli
