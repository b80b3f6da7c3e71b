import PresenceUnlock.Protocol.Irk
import PresenceUnlock.RustStd.Result

/-!
# Captured keys

The privileged helper prints the keys that the kernel reports; the enrollment reads them back from
the helper's output.
-/

namespace PresenceUnlock.Cli

open RustStd RustStd.Result

/-- The printed form of an address: one word. -/
abbrev AddressText := {text : Text // Text.Solid Text.isWhitespace text}

/-- The key of a peer, as the kernel reports it. -/
structure IrkEvent where
  /-- The address that was observed. -/
  randomAddress : AddressText
  /-- The address behind it. -/
  identityAddress : AddressText
  /-- The key. -/
  key : Key

/-- A management event of the kernel. -/
inductive MgmtEvent
  | newIdentityResolvingKey (received : IrkEvent)
  | other

/-- What the enrollment reads of a reported key. -/
structure CapturedIrk where
  /-- The address that was observed. -/
  randomAddress : Text
  /-- The address behind it. -/
  identityAddress : Text
  /-- The key. -/
  key : Key
  deriving DecidableEq

/-- A reported key with its addresses as text. -/
def IrkEvent.captured (received : IrkEvent) : CapturedIrk :=
  ⟨received.randomAddress, received.identityAddress, received.key⟩

def readyWord : Text := "READY".toList
def irkWord : Text := "IRK".toList

/-- The digits of a key. -/
def encodeHex (value : Key) : Text := value.toList.flatMap Text.hexByte

/-- The words of the line that reports one key. -/
def captureFields (received : IrkEvent) : List Text :=
  [irkWord, received.randomAddress, received.identityAddress, encodeHex received.key]

/-- The line that the monitor prints. -/
def captureLine (received : IrkEvent) : Text := Text.spaced (captureFields received)

/-- The keys that one controller reports. -/
def reportedKeys (adapterIndex : UInt16) (events : List (UInt16 × MgmtEvent)) : List IrkEvent :=
  events.filterMap fun (index, event) =>
    if index ≠ adapterIndex then none
    else
      match event with
      | .newIdentityResolvingKey received => some received
      | .other => none

/-- What the helper prints over these events. -/
def runHelper (adapterIndex : UInt16) (events : List (UInt16 × MgmtEvent)) : Text :=
  (readyWord :: (reportedKeys adapterIndex events).map captureLine).flatMap fun line =>
    line ++ ['\n']

/-- A printed line is read back. -/
def parseCapture (line : Text) : Option CapturedIrk :=
  match line.splitWhitespace with
  | [word, randomAddress, identityAddress, keyHex] =>
      if word ≠ irkWord then none
      else (readHexKey keyHex).map fun key => ⟨randomAddress, identityAddress, key⟩
  | _ => none

/-- The lines that follow once the helper is ready. -/
def Monitor.start (output : Text) : Option (List Text) :=
  match output.lines with
  | [] => none
  | status :: lines => if status ≠ readyWord then none else some lines

/-- Every well-formed key event in the lines, in order. -/
def Monitor.captures (lines : List Text) : List CapturedIrk := lines.filterMap parseCapture

theorem utf8Size_digitChar {digit : Nat} (small : digit < 16) :
    (Nat.digitChar digit).utf8Size = 1 := by
  have all : ∀ digit < 16, (Nat.digitChar digit).utf8Size = 1 := by decide
  exact all digit small

/-- A byte is written as two ASCII digits. -/
theorem asBytes_hexByte (byte : UInt8) :
    ∃ high low, Text.asBytes (Text.hexByte byte) = [high, low] := by
  have bound := byte.toNat_lt
  have single : ∀ digit < 16, ∃ encoded,
      String.utf8EncodeChar (Nat.digitChar digit) = [encoded] := by
    intro digit small
    rw [← List.length_eq_one_iff, String.length_utf8EncodeChar, utf8Size_digitChar small]
  obtain ⟨high, high_encoded⟩ := single (byte.toNat / 16) (by omega)
  obtain ⟨low, low_encoded⟩ := single (byte.toNat % 16) (by omega)
  exact ⟨high, low, by simp [Text.asBytes, Text.hexByte, high_encoded, low_encoded]⟩

theorem bytePairs_hexBytes (bytes : List UInt8) :
    bytePairs (Text.asBytes (bytes.flatMap Text.hexByte)) =
      bytes.map fun byte => Text.asBytes (Text.hexByte byte) := by
  induction bytes with
  | nil => rfl
  | cons byte bytes induction =>
      obtain ⟨high, low, encoded⟩ := asBytes_hexByte byte
      rw [List.flatMap_cons, Text.asBytes_append, encoded, List.map_cons, encoded, ← induction]
      rfl

theorem len_hexBytes (bytes : List UInt8) :
    Text.len (bytes.flatMap Text.hexByte) = 2 * bytes.length := by
  induction bytes with
  | nil => rfl
  | cons byte bytes induction =>
      obtain ⟨high, low, encoded⟩ := asBytes_hexByte byte
      rw [Text.len] at induction
      rw [List.flatMap_cons, Text.len, Text.asBytes_append, encoded, List.length_append, induction]
      simp only [List.length_cons, List.length_nil]
      omega

theorem hexOctet_hexByte (byte : UInt8) :
    hexOctet (Text.asBytes (Text.hexByte byte)) = some byte := by
  rw [hexOctet, Text.fromUtf8_asBytes, Option.bind_some, Text.u8FromStrRadix_hexByte]

/-- The key is read back from the digits that were printed. -/
theorem readHexKey_encodeHex (key : Key) : readHexKey (encodeHex key) = some key := by
  have length : Text.len (encodeHex key) = 32 := by
    rw [encodeHex, len_hexBytes, Vector.length_toList]
  have octets : (bytePairs (Text.asBytes (encodeHex key))).mapM hexOctet = some key.toList := by
    rw [encodeHex, bytePairs_hexBytes, mapM_eq_some_iff, List.forall₂_map_left_iff,
      List.forall₂_same]
    exact fun byte _ => hexOctet_hexByte byte
  rw [readHexKey, if_neg (not_not.mpr length), octets]
  exact keyOfBytes_toList key

/-- Every field of a report is one word. -/
theorem solid_of_mem_captureFields {received : IrkEvent} {field : Text}
    (member : field ∈ captureFields received) : Text.Solid Text.isWhitespace field := by
  simp only [captureFields, List.mem_cons, List.not_mem_nil, or_false] at member
  rcases member with rfl | rfl | rfl | rfl
  · decide
  · exact received.randomAddress.2
  · exact received.identityAddress.2
  · refine ⟨fun empty => ?_, fun c member => ?_⟩
    · have length := len_hexBytes received.key.toList
      rw [← encodeHex, empty, Vector.length_toList] at length
      cases length
    · obtain ⟨byte, _, digit⟩ := List.mem_flatMap.mp member
      exact Text.hexByte_solid digit

/-- A reported key is read back as it was, with the addresses as they were printed. -/
theorem parseCapture_captureLine (received : IrkEvent) :
    parseCapture (captureLine received) = some received.captured := by
  have words : (captureLine received).splitWhitespace = captureFields received :=
    Text.words_spaced (by decide) fun _ member => solid_of_mem_captureFields member
  rw [parseCapture, words]
  simp only [captureFields, ne_eq, not_true_eq_false, if_false, readHexKey_encodeHex,
    Option.map_some, IrkEvent.captured]

/-- The only blanks in a report are the spaces between its words. -/
theorem notMem_captureLine {received : IrkEvent} {c : Char} (blank : Text.isWhitespace c = true)
    (no_space : c ≠ ' ') : c ∉ captureLine received := by
  intro member
  rcases Text.mem_spaced member with space | ⟨field, known, inside⟩
  · exact no_space space
  · rw [(solid_of_mem_captureFields known).unbroken c inside] at blank
    cases blank

/-- The monitor reads exactly the keys that its controller reported, in order. -/
theorem captures_runHelper (adapterIndex : UInt16) (events : List (UInt16 × MgmtEvent)) :
    (Monitor.start (runHelper adapterIndex events)).map Monitor.captures =
      some ((reportedKeys adapterIndex events).map IrkEvent.captured) := by
  have single : ∀ line ∈ readyWord :: (reportedKeys adapterIndex events).map captureLine,
      '\n' ∉ line := by
    refine List.forall_mem_cons.mpr ⟨by decide, List.forall_mem_map.mpr fun received _ => ?_⟩
    exact notMem_captureLine (by decide) (by decide)
  have plain : ∀ line ∈ readyWord :: (reportedKeys adapterIndex events).map captureLine,
      ¬ ['\r'] <:+ line := by
    refine List.forall_mem_cons.mpr ⟨by decide, List.forall_mem_map.mpr fun received _ ends => ?_⟩
    exact notMem_captureLine (by decide) (by decide) (ends.mem (List.mem_singleton_self _))
  have lines : (runHelper adapterIndex events).lines =
      readyWord :: (reportedKeys adapterIndex events).map captureLine := by
    have read := Text.lines_flatMap_append single plain []
    rwa [List.append_nil, Text.lines_nil, List.append_nil] at read
  rw [Monitor.start, lines]
  simp only [ne_eq, not_true_eq_false, if_false, Option.map_some, Monitor.captures,
    List.filterMap_map]
  rw [← List.filterMap_eq_map]
  congr 2
  funext received
  exact parseCapture_captureLine received

end PresenceUnlock.Cli
