import PresenceUnlock.Protocol.Ble

/-!
# Resolvable private addresses

Matching an address against an Identity Resolving Key, and reading that key out of the text of a
BlueZ bond record.  AES-128 is a parameter: an arbitrary function of key and block.
-/

namespace PresenceUnlock

open RustStd

/-- A 16-byte key. -/
abbrev Key := Vector UInt8 16

/-- One 16-byte AES block. -/
abbrev Block := Vector UInt8 16

/-- The block cipher: the key schedule applied to one block. -/
abbrev Aes128 := Key → Block → Block

/-- The top two bits that mark a resolvable private address. -/
def isResolvable (address : Address) : Bool := address[0] >>> 6 == 0b01

/-- A fixed key, expanded and ready to match addresses. -/
structure IrkMatcher where
  /-- The block cipher, with the key. -/
  cipher : Block → Block

namespace IrkMatcher

/-- Expand a key. -/
def new (aes : Aes128) (irk : Key) : IrkMatcher := ⟨aes irk⟩

/-- The block that is encrypted: the random part of the address after thirteen zero bytes. -/
def randomBlock (address : Address) : Block :=
  #v[0, 0, 0, 0, 0, 0, 0, 0, 0, 0, 0, 0, 0, address[0], address[1], address[2]]

/-- Whether `address` is a resolvable private address generated from this key. -/
def «matches» (matcher : IrkMatcher) (address : Address) : Bool :=
  if !isResolvable address then
    false
  else
    let block := matcher.cipher (randomBlock address)
    block[13] == address[3] && block[14] == address[4] && block[15] == address[5]

/-- The address is marked resolvable, and its last half is the hash of its first half. -/
structure Resolves (matcher : IrkMatcher) (address : Address) : Prop where
  /-- The first two bits mark it. -/
  resolvable : address[0] >>> 6 = 0b01
  /-- The hash is that of the other half. -/
  hash : ∀ i (_ : i < 3), (matcher.cipher (randomBlock address))[13 + i] = address[3 + i]

theorem matches_iff (matcher : IrkMatcher) (address : Address) :
    matcher.matches address = true ↔ matcher.Resolves address := by
  unfold «matches» isResolvable
  constructor
  · intro accepted
    split at accepted
    · cases accepted
    rename_i resolvable
    simp only [Bool.and_eq_true, beq_iff_eq] at accepted
    refine ⟨by simpa using resolvable, fun i small => ?_⟩
    interval_cases i
    · exact accepted.1.1
    · exact accepted.1.2
    · exact accepted.2
  · rintro ⟨resolvable, hash⟩
    rw [if_neg (by simp [resolvable])]
    simp only [Bool.and_eq_true, beq_iff_eq]
    exact ⟨⟨hash 0 (by omega), hash 1 (by omega)⟩, hash 2 (by omega)⟩

end IrkMatcher

/-- `<[u8; 16]>::try_from` on a byte vector. -/
def keyOfBytes (bytes : List UInt8) : Option Key :=
  if size : bytes.length = 16 then some ⟨bytes.toArray, by simpa using size⟩ else none

@[simp] theorem keyOfBytes_toList (key : Key) : keyOfBytes key.toList = some key := by
  simp [keyOfBytes, Vector.toList]

theorem keyOfBytes_eq_some_iff {bytes : List UInt8} {key : Key} :
    keyOfBytes bytes = some key ↔ bytes = key.toList := by
  constructor
  · intro sized
    rw [keyOfBytes.eq_def] at sized
    split at sized
    · cases sized
      rfl
    · cases sized
  · rintro rfl
    exact keyOfBytes_toList key

theorem length_of_keyOfBytes {bytes : List UInt8} {key : Key}
    (sized : keyOfBytes bytes = some key) : bytes.length = 16 := by
  rw [keyOfBytes_eq_some_iff.mp sized]
  exact key.length_toList

theorem keyOfBytes_isSome_iff (bytes : List UInt8) :
    (∃ key, keyOfBytes bytes = some key) ↔ bytes.length = 16 :=
  ⟨fun ⟨_, sized⟩ => length_of_keyOfBytes sized, fun size => ⟨_, dif_pos size⟩⟩

/-- `as_chunks::<2>().0`: the consecutive pairs, without a last odd byte. -/
def bytePairs : List UInt8 → List (List UInt8)
  | first :: second :: rest => [first, second] :: bytePairs rest
  | _ => []

/-- One hexadecimal octet, read from the two bytes that spell it. -/
def hexOctet (pair : List UInt8) : Option UInt8 :=
  (Text.fromUtf8 pair).bind (Text.u8FromStrRadix 16)

/-- Exactly 32 bytes of text, read as sixteen hexadecimal octets. -/
def readHexKey (hex : Text) : Option Key :=
  if hex.len ≠ 32 then none
  else (bytePairs hex.asBytes).mapM hexOctet >>= keyOfBytes

/-- Why no key can be read. -/
inductive BluezIrkError
  | missing
  | malformed
  deriving DecidableEq, Repr

/-- The name between the brackets of a section header. -/
def sectionHeader (line : Text) : Option Text :=
  (Text.stripPrefix ['['] line).bind (Text.stripSuffix [']'])

/-- The value of a `Key` entry: an optional `0x` or `0X`, then the digits. -/
def readKeyValue (raw : Text) : Except BluezIrkError Key :=
  let hex := raw.trim
  let hex := ((Text.stripPrefix "0x".toList hex).or (Text.stripPrefix "0X".toList hex)).getD hex
  match readHexKey hex with
  | none => .error .malformed
  | some key => .ok key

/-- The line loop, carrying whether the current section is `IdentityResolvingKey`. -/
def readBondLines (inSection : Bool) : List Text → Except BluezIrkError Key
  | [] => .error .missing
  | line :: rest =>
      let line := line.trim
      match sectionHeader line with
      | some name =>
          if inSection then .error .missing
          else readBondLines (name == "IdentityResolvingKey".toList) rest
      | none =>
          if !inSection then readBondLines inSection rest
          else
            match line.splitOnce '=' with
            | none => readBondLines inSection rest
            | some (key, raw) =>
                if key.trim ≠ "Key".toList then readBondLines inSection rest
                else readKeyValue raw

/-- The remote key in the text of a BlueZ device `info` file, in file order. -/
def parseBluezInfoIrk (info : Text) : Except BluezIrkError Key := readBondLines false info.lines

end PresenceUnlock
