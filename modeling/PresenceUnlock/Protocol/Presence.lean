import PresenceUnlock.Protocol.Identity
import PresenceUnlock.Protocol.Profile
import PresenceUnlock.Protocol.Wire

/-!
# Presence policy

Per-device evidence and multi-device authentication.  Evidence is recorded by `observe`; every
staleness rule is enforced by `check`, at the moment of decision.
-/

namespace PresenceUnlock

open RustStd

/-- How strict one device is. -/
structure Policy where
  /-- The weakest signal that counts. -/
  thresholdDbm : Int16
  /-- How many samples are asked for. -/
  minimumSamples : UInt8
  /-- How far apart the samples may be. -/
  sampleWindowMs : UInt64
  /-- How old the last sample may be. -/
  freshnessMs : UInt64
  deriving DecidableEq, Repr

namespace Policy

/-- The policy of an entry that sets nothing. -/
def default : Policy where
  thresholdDbm := -75
  minimumSamples := 2
  sampleWindowMs := 3000
  freshnessMs := 2500

def minThresholdDbm : Int16 := -127
def maxThresholdDbm : Int16 := 20
def maxSampleWindowMs : UInt64 := 30000
def maxFreshnessMs : UInt64 := 10000

/-- Minimum gap between two counted advertisements. -/
def minSampleSpacingMs : UInt64 := 50

end Policy

/-- Whether the lock may open, and if not, why. -/
inductive Decision
  | allow
  | deny (reason : Text)
  deriving DecidableEq, Repr

namespace Decision

/-- How close an outcome is to authorising, lowest first. -/
def rank : Decision → Nat
  | .allow => 0
  | .deny reason =>
      if reason = Wire.denyInsufficientSamples then 1
      else if reason = Wire.denyStale then 2
      else if reason = Wire.denyDeviceLocked then 3
      else 4

end Decision

/-- The evidence accumulated for one device. -/
structure Eligibility where
  /-- The samples that count, oldest first. -/
  qualifyingSamples : List UInt64
  /-- When the last of them was heard. -/
  lastQualifyingMs : Option UInt64
  /-- When the device was last heard to be locked. -/
  lastRevocationMs : Option UInt64
  /-- The last signal that was heard. -/
  lastRssi : Option Int16

namespace Eligibility

/-- Nothing has been heard. -/
def default : Eligibility := ⟨[], none, none, none⟩

/-- Forget the samples. -/
def invalidateEvidence (state : Eligibility) : Eligibility :=
  { state with qualifyingSamples := [], lastQualifyingMs := none }

/-- Forget everything. -/
def invalidate (state : Eligibility) : Eligibility :=
  { state.invalidateEvidence with lastRevocationMs := none, lastRssi := none }

/-- Drop the samples that left the window by `nowMs`. -/
def retainRecent (state : Eligibility) (nowMs : UInt64) (policy : Policy) : Eligibility :=
  { state with
    qualifyingSamples := state.qualifyingSamples.filter fun sample =>
      saturatingSub nowMs sample ≤ policy.sampleWindowMs }

/-- Record one advertisement already matched to this device. -/
def observe (state : Eligibility) (nowMs : UInt64) (rssi : Int16) (observation : Observation)
    (policy : Policy) : Eligibility :=
  let state := { state with lastRssi := some rssi }
  match observation with
  | .revoke => { state.invalidateEvidence with lastRevocationMs := some nowMs }
  | .ignore => state
  | .qualify =>
      let state := { state with lastRevocationMs := none }.retainRecent nowMs policy
      if rssi < policy.thresholdDbm then
        state
      -- BlueZ delivers each advertisement twice within a millisecond.
      else if state.lastQualifyingMs.any fun last =>
          saturatingSub nowMs last < Policy.minSampleSpacingMs then
        state
      else
        { state with
          qualifyingSamples := state.qualifyingSamples ++ [nowMs]
          lastQualifyingMs := some nowMs }

/-- Samples still inside the window at `nowMs`. -/
def withinWindow (state : Eligibility) (nowMs : UInt64) (policy : Policy) : Nat :=
  (state.qualifyingSamples.filter fun sample =>
    saturatingSub nowMs sample ≤ policy.sampleWindowMs).length

/-- Whether the evidence is enough by now. -/
def check (state : Eligibility) (nowMs : UInt64) (policy : Policy) : Decision :=
  match state.lastQualifyingMs with
  | none =>
      if state.lastRevocationMs.any fun last => saturatingSub nowMs last ≤ policy.freshnessMs then
        .deny Wire.denyDeviceLocked
      else
        .deny Wire.denyNoDevice
  | some last =>
      if saturatingSub nowMs last > policy.freshnessMs then
        .deny Wire.denyStale
      else if state.withinWindow nowMs policy < policy.minimumSamples.toNat then
        .deny Wire.denyInsufficientSamples
      else
        .allow

/-- Evidence allows exactly when its newest sample is fresh and the window holds enough of them. -/
theorem check_eq_allow_iff (state : Eligibility) (nowMs : UInt64) (policy : Policy) :
    state.check nowMs policy = .allow ↔
      ∃ last, state.lastQualifyingMs = some last ∧
        saturatingSub nowMs last ≤ policy.freshnessMs ∧
        policy.minimumSamples.toNat ≤ state.withinWindow nowMs policy := by
  unfold check
  cases state.lastQualifyingMs with
  | none =>
      simp only [reduceCtorEq, false_and, exists_false, iff_false]
      split <;> exact Decision.noConfusion
  | some last =>
      simp only [Option.some.injEq, exists_eq_left']
      split
      · rename_i stale
        simp [UInt64.not_le.mpr stale]
      · rename_i fresh
        split
        · rename_i few
          simp [Nat.not_le.mpr few]
        · rename_i enough
          simp [UInt64.not_lt.mp fresh, Nat.not_lt.mp enough]

end Eligibility

/-- A configured device: how to recognise it, how to read it, how strict to be. -/
structure DeviceSpec where
  /-- The name of the device. -/
  id : Text
  /-- How it is recognised. -/
  identity : Identity
  /-- How its advertisements are read. -/
  profile : BuiltInProfile
  /-- How strict it is. -/
  policy : Policy

/-- A device with the evidence for it. -/
structure Device where
  /-- What is configured. -/
  spec : DeviceSpec
  /-- What was heard. -/
  eligibility : Eligibility

namespace Device

/-- A device of which nothing was heard yet. -/
def new (spec : DeviceSpec) : Device := ⟨spec, Eligibility.default⟩

/-- Whether the device is present by now. -/
def check (device : Device) (nowMs : UInt64) : Decision :=
  device.eligibility.check nowMs device.spec.policy

/-- The last signal of the device. -/
def lastRssi (device : Device) : Option Int16 := device.eligibility.lastRssi

/-- What one advertisement does to one device: nothing unless the identity matches. -/
def observe (device : Device) (nowMs : UInt64) (advertisement : Advertisement) : Device :=
  if !device.spec.identity.matches advertisement then
    device
  else
    let observation := device.spec.profile.val.evaluate advertisement
    { device with
      eligibility :=
        device.eligibility.observe nowMs advertisement.rssi observation device.spec.policy }

/-- Forget what was heard of the device. -/
def invalidate (device : Device) : Device :=
  { device with eligibility := device.eligibility.invalidate }

@[simp] theorem spec_new (spec : DeviceSpec) : (new spec).spec = spec := rfl

@[simp] theorem spec_observe (device : Device) (nowMs : UInt64) (advertisement : Advertisement) :
    (device.observe nowMs advertisement).spec = device.spec := by
  unfold observe
  split <;> rfl

@[simp] theorem spec_invalidate (device : Device) : device.invalidate.spec = device.spec := rfl

end Device

/-- How many enrolled devices must be eligible. -/
inductive MultiDeviceAuth
  | any
  | all
  | atLeast (n : UInt8)
  deriving DecidableEq, Repr

/-- How many of the devices must be present. -/
def MultiDeviceAuth.required (rule : MultiDeviceAuth) (total : Nat) : Nat :=
  match rule with
  | .any => 1
  | .all => total
  | .atLeast n => max n.toNat 1

/-- One row of the per-device breakdown. -/
structure DeviceStatus where
  /-- The name of the device. -/
  id : Text
  /-- How its advertisements are read. -/
  profile : BuiltInProfile
  /-- Whether it is present. -/
  decision : Decision
  /-- The last signal of it. -/
  rssi : Option Int16

/-- Every configured device, the multi-device rule, and the fields the scanner must fetch. -/
structure Fleet where
  /-- The devices, in the order of the file. -/
  devices : List Device
  /-- How many of them must be present. -/
  multiDeviceAuth : MultiDeviceAuth
  /-- What the scanner has to fetch for them. -/
  needs : Needs

namespace Fleet

/-- The fleet of a configuration, of which nothing was heard yet. -/
def new (specs : List DeviceSpec) (multiDeviceAuth : MultiDeviceAuth) : Fleet where
  devices := specs.map Device.new
  multiDeviceAuth := multiDeviceAuth
  needs := specs.foldl
    (fun needs spec => (needs.union spec.identity.needs).union spec.profile.val.needs)
    Needs.nothing

/-- Some device might be behind this address. -/
def isInterested (fleet : Fleet) (address : Address) : Bool :=
  fleet.devices.any fun device => device.spec.identity.verdict address ≠ .reject

/-- Fold one advertisement into every device it matches. -/
def observe (fleet : Fleet) (nowMs : UInt64) (advertisement : Advertisement) : Fleet :=
  { fleet with devices := fleet.devices.map fun device => device.observe nowMs advertisement }

/-- Forget what was heard of all devices. -/
def invalidate (fleet : Fleet) : Fleet :=
  { fleet with devices := fleet.devices.map Device.invalidate }

/-- The running totals of the decision loop. -/
structure Tally where
  /-- How many devices are present. -/
  allowed : Nat
  /-- The denial that comes closest to presence. -/
  closestDeny : Text
  /-- How close it comes. -/
  closestRank : Nat

/-- One turn of the decision loop. -/
def Tally.add (tally : Tally) (decision : Decision) : Tally :=
  match decision with
  | .allow => { tally with allowed := tally.allowed + 1 }
  | .deny reason =>
      let rank := (Decision.deny reason).rank
      if rank < tally.closestRank then
        { tally with closestDeny := reason, closestRank := rank }
      else
        tally

/-- The decision loop over all devices. -/
def tally (fleet : Fleet) (nowMs : UInt64) : Tally :=
  fleet.devices.foldl (fun tally device => tally.add (device.check nowMs))
    { allowed := 0
      closestDeny := Wire.denyNoDevice
      closestRank := (Decision.deny Wire.denyNoDevice).rank }

/-- Whether enough devices are present by now, and if not, the closest denial. -/
def check (fleet : Fleet) (nowMs : UInt64) : Decision :=
  if fleet.devices.isEmpty then
    .deny Wire.denyNoDevice
  else
    let required := fleet.multiDeviceAuth.required fleet.devices.length
    let tally := fleet.tally nowMs
    if tally.allowed ≥ required then .allow
    -- Some devices qualified but not enough: report the rule, not a per-device reason.
    else if tally.allowed > 0 then .deny Wire.denyMultiDeviceAuth
    else .deny tally.closestDeny

/-- Per-device breakdown, ordered as configured. -/
def report (fleet : Fleet) (nowMs : UInt64) : List DeviceStatus :=
  fleet.devices.map fun device =>
    { id := device.spec.id
      profile := device.spec.profile
      decision := device.check nowMs
      rssi := device.lastRssi }

private theorem allowed_foldl (nowMs : UInt64) (devices : List Device) (start : Tally) :
    (devices.foldl (fun tally device => tally.add (device.check nowMs)) start).allowed =
      start.allowed + devices.countP fun device => device.check nowMs = .allow := by
  induction devices generalizing start with
  | nil => simp
  | cons device devices induction =>
      rw [List.foldl_cons, induction, List.countP_cons]
      cases device.check nowMs with
      | allow =>
          simp [Tally.add]
          omega
      | deny reason =>
          have kept : (start.add (.deny reason)).allowed = start.allowed := by
            simp only [Tally.add]
            split <;> rfl
          simp [kept]

/-- The loop counts the devices that allow on their own. -/
theorem tally_allowed (fleet : Fleet) (nowMs : UInt64) :
    (fleet.tally nowMs).allowed =
      fleet.devices.countP fun device => device.check nowMs = .allow := by
  simp [tally, allowed_foldl]

/-- A fleet allows exactly when it has devices and enough of them allow. -/
theorem check_eq_allow_iff (fleet : Fleet) (nowMs : UInt64) :
    fleet.check nowMs = .allow ↔
      fleet.devices ≠ [] ∧
        fleet.multiDeviceAuth.required fleet.devices.length ≤
          fleet.devices.countP fun device => device.check nowMs = .allow := by
  unfold check
  by_cases empty : fleet.devices = []
  · simp [empty]
  · simp only [List.isEmpty_iff, empty, if_false, tally_allowed, ne_eq, not_false_eq_true,
      true_and, ge_iff_le]
    split
    · simp_all
    · rename_i few
      simp only [few, iff_false]
      split <;> exact Decision.noConfusion

end Fleet
end PresenceUnlock
