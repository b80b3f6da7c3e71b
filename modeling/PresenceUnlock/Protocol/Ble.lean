import Mathlib.Data.Finset.Basic
import Mathlib.Data.List.AList
import PresenceUnlock.RustStd.Number

/-!
# One BLE advertisement

The transport-neutral view of an advertisement, the text form of an address, and the set of
advertisement fields a fleet asks its scanner for.
-/

namespace PresenceUnlock

open RustStd

/-- A six-byte device address, most significant byte first. -/
abbrev Address := Vector UInt8 6

/-- A 128-bit service UUID. -/
abbrev Uuid := BitVec 128

/-- The message of `AddressParseError`. -/
def addressParseError : Text :=
  "expected a Bluetooth address of the form AA:BB:CC:DD:EE:FF".toList

/-- One turn of the octet loop: take the next field and read it as two hexadecimal digits. -/
def nextOctet : List Text → Option (UInt8 × List Text)
  | [] => none
  | octet :: octets =>
      if octet.len ≠ 2 then none
      else (Text.u8FromStrRadix 16 octet).map fun byte => (byte, octets)

/-- Read `AA:BB:CC:DD:EE:FF`, case-insensitive. -/
def parseAddress (text : Text) : Option Address := do
  let (o0, octets) ← nextOctet (text.split ':')
  let (o1, octets) ← nextOctet octets
  let (o2, octets) ← nextOctet octets
  let (o3, octets) ← nextOctet octets
  let (o4, octets) ← nextOctet octets
  let (o5, octets) ← nextOctet octets
  if octets ≠ [] then none else some #v[o0, o1, o2, o3, o4, o5]

/-- Write `AA:BB:CC:DD:EE:FF`. -/
def formatAddress (address : Address) : Text :=
  [':'].intercalate (address.toList.map Text.hexByteUpper)

/-- One observed advertisement; a payload field is `none` when it was not fetched. -/
structure Advertisement where
  /-- The address it was sent from. -/
  address : Address
  /-- How strong it was. -/
  rssi : Int16
  /-- The name of the device. -/
  name : Option Text
  /-- The payloads, by company. -/
  manufacturerData : Option (AList fun _ : UInt16 => List UInt8)
  /-- The payloads, by service. -/
  serviceData : Option (AList fun _ : Uuid => List UInt8)
  /-- The services. -/
  serviceUuids : Option (Finset Uuid)

namespace Advertisement

/-- An advertisement carrying only the two fields every transport provides. -/
def new (address : Address) (rssi : Int16) : Advertisement where
  address := address
  rssi := rssi
  name := none
  manufacturerData := none
  serviceData := none
  serviceUuids := none

/-- The manufacturer-specific bytes of one company. -/
def manufacturer (advertisement : Advertisement) (company : UInt16) : Option (List UInt8) :=
  advertisement.manufacturerData.bind fun table => table.lookup company

end Advertisement

/-- Which advertisement fields are inspected. -/
structure Needs where
  /-- The payloads of companies. -/
  manufacturerData : Bool
  /-- The payloads of services. -/
  serviceData : Bool
  /-- The services. -/
  serviceUuids : Bool
  /-- The name. -/
  name : Bool
  deriving DecidableEq, Repr

namespace Needs

/-- No field. -/
def nothing : Needs := ⟨false, false, false, false⟩

/-- Every field that one of them inspects. -/
def union (left right : Needs) : Needs where
  manufacturerData := left.manufacturerData || right.manufacturerData
  serviceData := left.serviceData || right.serviceData
  serviceUuids := left.serviceUuids || right.serviceUuids
  name := left.name || right.name

/-- Every field asked for by `part` is asked for by `whole`. -/
def Covers (whole part : Needs) : Prop :=
  (part.manufacturerData → whole.manufacturerData) ∧ (part.serviceData → whole.serviceData) ∧
    (part.serviceUuids → whole.serviceUuids) ∧ (part.name → whole.name)

theorem Covers.refl (needs : Needs) : needs.Covers needs := ⟨id, id, id, id⟩

theorem Covers.trans {outer middle inner : Needs} (first : outer.Covers middle)
    (second : middle.Covers inner) : outer.Covers inner :=
  ⟨first.1 ∘ second.1, first.2.1 ∘ second.2.1, first.2.2.1 ∘ second.2.2.1,
    first.2.2.2 ∘ second.2.2.2⟩

theorem covers_union_left (left right : Needs) : (left.union right).Covers left := by
  simp +contextual [Covers, union]

theorem covers_union_right (left right : Needs) : (left.union right).Covers right := by
  simp +contextual [Covers, union]

end Needs

/-- Two advertisements that agree on address, RSSI and every needed field. -/
structure Advertisement.AgreesOn (needs : Needs) (left right : Advertisement) : Prop where
  /-- The address. -/
  address : left.address = right.address
  /-- The strength. -/
  rssi : left.rssi = right.rssi
  /-- The payloads of companies, if they are needed. -/
  manufacturerData : needs.manufacturerData → left.manufacturerData = right.manufacturerData
  /-- The payloads of services, if they are needed. -/
  serviceData : needs.serviceData → left.serviceData = right.serviceData
  /-- The services, if they are needed. -/
  serviceUuids : needs.serviceUuids → left.serviceUuids = right.serviceUuids
  /-- The name, if it is needed. -/
  name : needs.name → left.name = right.name

theorem Advertisement.AgreesOn.of_covers {whole part : Needs} {left right : Advertisement}
    (covers : whole.Covers part) (agrees : left.AgreesOn whole right) :
    left.AgreesOn part right where
  address := agrees.address
  rssi := agrees.rssi
  manufacturerData := agrees.manufacturerData ∘ covers.1
  serviceData := agrees.serviceData ∘ covers.2.1
  serviceUuids := agrees.serviceUuids ∘ covers.2.2.1
  name := agrees.name ∘ covers.2.2.2

end PresenceUnlock
