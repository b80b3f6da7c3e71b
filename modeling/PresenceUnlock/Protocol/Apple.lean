import PresenceUnlock.RustStd.Number

/-!
# Apple Continuity frames

The vendor decoder: a sequence of type, length, payload records, of which one Nearby Info record
carries the state of the device.
-/

namespace PresenceUnlock.Apple

def companyId : UInt16 := 0x004c
def nearbyInfoType : UInt8 := 0x10
def watchAutoUnlockEnabled : UInt8 := 0x40
def watchLocked : UInt8 := 0x20
def autoUnlockEnabled : UInt8 := 0x80

/-- What a device tells of its lock. -/
structure NearbyInfo where
  /-- The watch is locked. -/
  watchLocked : Bool
  /-- The watch may unlock other devices. -/
  watchAutoUnlockEnabled : Bool
  /-- Unlocking by the watch is enabled. -/
  autoUnlockEnabled : Bool
  deriving DecidableEq, Repr

/-- Why a payload cannot be used. -/
inductive ParseError
  | truncated
  | missingNearbyInfo
  | shortNearbyInfo
  | duplicateNearbyInfo
  deriving DecidableEq, Repr

/-- The flags of a Nearby Info status byte. -/
def NearbyInfo.ofFlags (flags : UInt8) : NearbyInfo where
  watchLocked := flags &&& Apple.watchLocked != 0
  watchAutoUnlockEnabled := flags &&& Apple.watchAutoUnlockEnabled != 0
  autoUnlockEnabled := flags &&& Apple.autoUnlockEnabled != 0

/-- What one record does to the result found so far. -/
def readRecord (kind : UInt8) (payload : List UInt8) (result : Option NearbyInfo) :
    Except ParseError (Option NearbyInfo) :=
  if kind ≠ nearbyInfoType then .ok result
  else if payload.length < 3 then .error .shortNearbyInfo
  else if result.isSome then .error .duplicateNearbyInfo
  else .ok ((payload[1]?).map NearbyInfo.ofFlags)

/-- The record loop from `offset` on.  Every turn moves the offset by at least two. -/
def parseRecords (data : List UInt8) (offset : Nat) (result : Option NearbyInfo) :
    Except ParseError NearbyInfo :=
  if offset < data.length then
    match data[offset]?, data[offset + 1]? with
    | some kind, some length =>
        let start := offset + 2
        let stop := start + length.toNat
        if stop ≤ data.length then
          match readRecord kind ((data.take stop).drop start) result with
          | .error error => .error error
          | .ok result => parseRecords data stop result
        else
          .error .truncated
    | _, _ => .error .truncated
  else
    match result with
    | none => .error .missingNearbyInfo
    | some info => .ok info
  termination_by data.length - offset

/-- Decode the Nearby Info of a frame. -/
def parseNearbyInfo (data : List UInt8) : Except ParseError NearbyInfo := parseRecords data 0 none

end PresenceUnlock.Apple
