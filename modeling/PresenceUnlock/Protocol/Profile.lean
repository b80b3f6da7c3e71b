import PresenceUnlock.Protocol.Apple
import PresenceUnlock.Protocol.Ble

/-!
# Device profiles

A profile says what a matched advertisement asserts.  The registry is closed: a configured device
carries one of its two entries.
-/

namespace PresenceUnlock

open RustStd

/-- A profile's reading of one advertisement. -/
inductive Observation
  | qualify
  | revoke
  | ignore
  deriving DecidableEq, Repr

/-- The descriptor of one supported device family. -/
structure Profile where
  /-- The id in the file. -/
  id : Text
  /-- What the family is called. -/
  label : Text
  /-- The fields that its evaluator inspects. -/
  needs : Needs
  /-- Whether its advertisements tell that a device is unlocked. -/
  attestsDeviceState : Bool
  /-- What an advertisement says about the device. -/
  evaluate : Advertisement → Observation

namespace AppleContinuity

/-- A device that tells that it is unlocked and allows it qualifies; whatever else it tells of its
state revokes. -/
def evaluate (advertisement : Advertisement) : Observation :=
  match advertisement.manufacturer Apple.companyId with
  | none => .ignore
  | some payload =>
      match Apple.parseNearbyInfo payload with
      | .ok info => if info.watchLocked || !info.autoUnlockEnabled then .revoke else .qualify
      | .error .missingNearbyInfo => .ignore
      | .error _ => .revoke

def id : Text := "apple-continuity".toList
def label : Text := "Apple Continuity".toList

/-- Apple devices, by what they tell of their lock. -/
def profile : Profile where
  id := id
  label := label
  needs := { Needs.nothing with manufacturerData := true }
  attestsDeviceState := true
  evaluate := evaluate

end AppleContinuity

namespace ProximityOnly

/-- Every advertisement qualifies. -/
def evaluate (_advertisement : Advertisement) : Observation := .qualify

def id : Text := "presence".toList
def label : Text := "Proximity only".toList

/-- Any device, by its signal. -/
def profile : Profile where
  id := id
  label := label
  needs := Needs.nothing
  attestsDeviceState := false
  evaluate := evaluate

end ProximityOnly

namespace Profile

/-- The profiles compiled into this release. -/
def profiles : List Profile := [AppleContinuity.profile, ProximityOnly.profile]

end Profile

/-- A profile of the registry; the constructor is private to it, so there are no others. -/
abbrev BuiltInProfile := {profile : Profile // profile ∈ Profile.profiles}

namespace Profile

/-- Find a profile by its canonical id. -/
def find (id : Text) : Option BuiltInProfile :=
  profiles.attach.find? fun profile => profile.val.id == id

/-- The Apple Continuity profile used by an unlocked, wrist-worn watch. -/
def appleContinuity : BuiltInProfile := ⟨AppleContinuity.profile, List.mem_cons_self⟩

/-- The generic proximity-only profile. -/
def presence : BuiltInProfile :=
  ⟨ProximityOnly.profile, List.mem_cons_of_mem _ List.mem_cons_self⟩

/-- The registry has two members. -/
@[elab_as_elim]
theorem builtIn_cases {motive : BuiltInProfile → Prop} (apple : motive appleContinuity)
    (proximity : motive presence) (profile : BuiltInProfile) : motive profile := by
  obtain ⟨profile, registered⟩ := profile
  have member : profile = AppleContinuity.profile ∨ profile ∈ [ProximityOnly.profile] :=
    List.mem_cons.mp registered
  rcases member with isApple | isProximity
  · subst isApple
    exact apple
  · rw [List.mem_singleton] at isProximity
    subst isProximity
    exact proximity

theorem find_eq_some_iff (id : Text) (profile : BuiltInProfile) :
    find id = some profile ↔ profile.val.id = id := by
  constructor
  · intro found
    simpa using List.find?_some found
  · rintro rfl
    cases profile using builtIn_cases with
    | apple => rfl
    | proximity => rfl

/-- Every profile of the registry reads only the fields it declares. -/
theorem evaluate_congr (profile : BuiltInProfile) {left right : Advertisement}
    (agrees : left.AgreesOn profile.val.needs right) :
    profile.val.evaluate left = profile.val.evaluate right := by
  cases profile using builtIn_cases with
  | apple =>
      have data : left.manufacturerData = right.manufacturerData := agrees.manufacturerData rfl
      simp only [appleContinuity, AppleContinuity.profile, AppleContinuity.evaluate,
        Advertisement.manufacturer, data]
  | proximity => simp only [presence, ProximityOnly.profile, ProximityOnly.evaluate]

/-- A Nearby Info frame of an unlocked watch with auto-unlock enabled. -/
def unlockedFrame : AList fun _ : UInt16 => List UInt8 :=
  AList.singleton Apple.companyId [0x10, 3, 0, 0x98, 0]

/-- The unlocked frame qualifies under every profile of the registry. -/
theorem evaluate_unlockedFrame (profile : BuiltInProfile) {advertisement : Advertisement}
    (frame : advertisement.manufacturerData = some unlockedFrame) :
    profile.val.evaluate advertisement = .qualify := by
  cases profile using builtIn_cases with
  | apple =>
      have payload : advertisement.manufacturer Apple.companyId = some [0x10, 3, 0, 0x98, 0] := by
        rw [Advertisement.manufacturer, frame, unlockedFrame, ← AList.insert_empty]
        exact AList.lookup_insert ∅
      have info : Apple.parseNearbyInfo [0x10, 3, 0, 0x98, 0] = .ok ⟨false, false, true⟩ := by
        simp [Apple.parseNearbyInfo, Apple.parseRecords, Apple.readRecord, Apple.nearbyInfoType,
          Apple.NearbyInfo.ofFlags, Apple.watchLocked, Apple.watchAutoUnlockEnabled,
          Apple.autoUnlockEnabled]
        decide
      simp [appleContinuity, AppleContinuity.profile, AppleContinuity.evaluate, payload, info]
  | proximity => simp only [presence, ProximityOnly.profile, ProximityOnly.evaluate]

end Profile
end PresenceUnlock
