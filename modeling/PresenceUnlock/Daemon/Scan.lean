import PresenceUnlock.Protocol.Evidence

/-!
# The scanner

Discovery events become advertisements.  Two shortcuts keep the traffic low: a device whose address
no identity accepts is dropped, and of the others only the needed properties are read.
-/

namespace PresenceUnlock

open RustStd Execution

/-- Why a scan ends. -/
inductive ScanError
  | bluez
  | adapterNotPowered

/-- A property of a remote device; reading it may fail, and it may be absent. -/
abbrev Property (α : Type) := Except ScanError (Option α)

/-- A remote device as the transport exposes it. -/
structure RemoteDevice where
  /-- Its address. -/
  address : Address
  /-- How strong its signal is. -/
  rssi : Property Int16
  /-- The payloads, by company. -/
  manufacturerData : Property (AList fun _ : UInt16 => List UInt8)
  /-- The payloads, by service. -/
  serviceData : Property (AList fun _ : Uuid => List UInt8)
  /-- The services. -/
  uuids : Property (Finset Uuid)
  /-- The name. -/
  name : Property Text

/-- Read a property only when some configured device depends on it. -/
def fetch {α : Type} (wanted : Bool) (property : Property α) : Property α :=
  if wanted then property else .ok none

namespace RemoteDevice

/-- The advertisement made of the needed properties, unless one of the reads fails. -/
def read (needs : Needs) (device : RemoteDevice) : Except ScanError (Option Advertisement) := do
  let some rssi ← device.rssi | return none
  let manufacturerData ← fetch needs.manufacturerData device.manufacturerData
  let serviceData ← fetch needs.serviceData device.serviceData
  let serviceUuids ← fetch needs.serviceUuids device.uuids
  let name ← fetch needs.name device.name
  return some
    { Advertisement.new device.address rssi with
      manufacturerData, serviceData, serviceUuids, name }

/-- The device whose every property reads as in this advertisement. -/
def ofAdvertisement (advertisement : Advertisement) : RemoteDevice where
  address := advertisement.address
  rssi := .ok (some advertisement.rssi)
  manufacturerData := .ok advertisement.manufacturerData
  serviceData := .ok advertisement.serviceData
  uuids := .ok advertisement.serviceUuids
  name := .ok advertisement.name

end RemoteDevice

/-- An advertisement with every field that is not needed left out. -/
def Advertisement.narrow (needs : Needs) (advertisement : Advertisement) : Advertisement :=
  { Advertisement.new advertisement.address advertisement.rssi with
    manufacturerData := if needs.manufacturerData then advertisement.manufacturerData else none
    serviceData := if needs.serviceData then advertisement.serviceData else none
    serviceUuids := if needs.serviceUuids then advertisement.serviceUuids else none
    name := if needs.name then advertisement.name else none }

theorem Advertisement.narrow_agreesOn (needs : Needs) (advertisement : Advertisement) :
    (advertisement.narrow needs).AgreesOn needs advertisement where
  address := rfl
  rssi := rfl
  manufacturerData := fun needed => if_pos needed
  serviceData := fun needed => if_pos needed
  serviceUuids := fun needed => if_pos needed
  name := fun needed => if_pos needed

@[simp] theorem RemoteDevice.read_ofAdvertisement (needs : Needs) (advertisement : Advertisement) :
    (RemoteDevice.ofAdvertisement advertisement).read needs =
      .ok (some (advertisement.narrow needs)) := by
  obtain ⟨manufacturerData, serviceData, serviceUuids, name⟩ := needs
  cases manufacturerData <;> cases serviceData <;> cases serviceUuids <;> cases name <;> rfl

/-- What happens to the daemon's fleet between two questions. -/
inductive ScanEvent
  | deviceAdded (nowMs : UInt64) (device : RemoteDevice)
  | otherAdapterEvent
  | stopped

/-- One turn of the scan loop; a scan that stopped invalidates the fleet and starts again. -/
def scanStep (needs : Needs) (fleet : Fleet) : ScanEvent → Fleet
  | .deviceAdded nowMs device =>
      if !fleet.isInterested device.address then
        fleet
      else
        match device.read needs with
        | .ok (some advertisement) => fleet.observe nowMs advertisement
        | .ok none => fleet
        | .error _ => fleet
  | .otherAdapterEvent => fleet
  | .stopped => fleet.invalidate

/-- The scan; the needed properties are fixed when it starts. -/
def scan (fleet : Fleet) (events : List ScanEvent) : Fleet :=
  run (scanStep fleet.needs) fleet events

/-- The scan event of a call on the fleet, with every property of the device present. -/
def ScanEvent.ofFleetEvent : FleetEvent → ScanEvent
  | .observe nowMs advertisement => .deviceAdded nowMs (.ofAdvertisement advertisement)
  | .invalidate => .stopped

/-- A device reads only what its identity and its profile declare. -/
theorem Device.observe_congr {device : Device} {left right : Advertisement} (nowMs : UInt64)
    (identity : left.AgreesOn device.spec.identity.needs right)
    (profile : left.AgreesOn device.spec.profile.val.needs right) :
    device.observe nowMs left = device.observe nowMs right := by
  simp only [Device.observe, Identity.matches_congr identity, Profile.evaluate_congr _ profile,
    profile.rssi]

theorem Device.observe_of_reject {device : Device} {advertisement : Advertisement} (nowMs : UInt64)
    (rejected : device.spec.identity.verdict advertisement.address = .reject) :
    device.observe nowMs advertisement = device := by
  simp [Device.observe, Identity.matches_of_verdict_reject rejected]

namespace Fleet

/-- The fleet asks its scanner for every field that one of its devices reads. -/
def Informed (fleet : Fleet) : Prop :=
  ∀ device ∈ fleet.devices, fleet.needs.Covers device.spec.identity.needs ∧
    fleet.needs.Covers device.spec.profile.val.needs

/-- The fields a device reads, added to those asked for so far. -/
private theorem covers_foldl (specs : List DeviceSpec) (start : Needs) :
    let needs := specs.foldl
      (fun needs spec => (needs.union spec.identity.needs).union spec.profile.val.needs) start
    needs.Covers start ∧
      ∀ spec ∈ specs, needs.Covers spec.identity.needs ∧ needs.Covers spec.profile.val.needs := by
  induction specs generalizing start with
  | nil => exact ⟨.refl start, by simp⟩
  | cons spec specs induction =>
      obtain ⟨grows, covers⟩ := induction ((start.union spec.identity.needs).union
        spec.profile.val.needs)
      have from_union : ∀ {part : Needs}, (start.union spec.identity.needs).Covers part →
          Needs.Covers _ part := fun included =>
        grows.trans ((Needs.covers_union_left _ _).trans included)
      refine ⟨from_union (Needs.covers_union_left _ _), List.forall_mem_cons.mpr ⟨⟨?_, ?_⟩, covers⟩⟩
      · exact from_union (Needs.covers_union_right _ _)
      · exact grows.trans (Needs.covers_union_right _ _)

theorem informed_new (specs : List DeviceSpec) (rule : MultiDeviceAuth) :
    (new specs rule).Informed := by
  intro device member
  obtain ⟨spec, configured, rfl⟩ := List.mem_map.mp member
  exact (covers_foldl specs Needs.nothing).2 spec configured

@[simp] theorem needs_step (fleet : Fleet) (event : FleetEvent) :
    (fleet.step event).needs = fleet.needs := by
  cases event <;> rfl

/-- Calls on the fleet change neither its needs nor how its devices are recognised. -/
theorem informed_step {fleet : Fleet} (informed : fleet.Informed) (event : FleetEvent) :
    (fleet.step event).Informed := by
  intro device member
  rw [needs_step]
  cases event with
  | observe nowMs advertisement =>
      obtain ⟨previous, known, rfl⟩ := List.mem_map.mp member
      simpa using informed previous known
  | invalidate =>
      obtain ⟨previous, known, rfl⟩ := List.mem_map.mp member
      simpa using informed previous known

/-- An advertisement no device is interested in changes nothing. -/
theorem observe_of_not_interested {fleet : Fleet} {advertisement : Advertisement} (nowMs : UInt64)
    (dropped : fleet.isInterested advertisement.address = false) :
    fleet.observe nowMs advertisement = fleet := by
  have unchanged : fleet.devices.map (fun device => device.observe nowMs advertisement) =
      fleet.devices := by
    refine (List.map_congr_left fun device member => ?_).trans (List.map_id _)
    refine Device.observe_of_reject nowMs ?_
    simpa using List.any_eq_false.mp dropped device member
  rw [observe, unchanged]

/-- An informed fleet makes of the narrowed advertisement what it makes of the full one. -/
theorem observe_narrow {fleet : Fleet} (informed : fleet.Informed) (nowMs : UInt64)
    (advertisement : Advertisement) :
    fleet.observe nowMs (advertisement.narrow fleet.needs) = fleet.observe nowMs advertisement := by
  have agrees := advertisement.narrow_agreesOn fleet.needs
  simp only [observe]
  congr 1
  refine List.map_congr_left fun device member => ?_
  obtain ⟨identity, profile⟩ := informed device member
  exact Device.observe_congr nowMs (.of_covers identity agrees) (.of_covers profile agrees)

theorem scanStep_ofFleetEvent {fleet : Fleet} (informed : fleet.Informed) (event : FleetEvent) :
    scanStep fleet.needs fleet (.ofFleetEvent event) = fleet.step event := by
  cases event with
  | invalidate => rfl
  | observe nowMs advertisement =>
      simp only [ScanEvent.ofFleetEvent, scanStep, step, RemoteDevice.read_ofAdvertisement]
      cases interested : fleet.isInterested advertisement.address with
      | false =>
          rw [observe_of_not_interested nowMs interested]
          simp [RemoteDevice.ofAdvertisement, interested]
      | true =>
          rw [observe_narrow informed]
          simp [RemoteDevice.ofAdvertisement, interested]

/-- The scan of an informed fleet is the run over every full advertisement. -/
theorem scan_eq_run {fleet : Fleet} (informed : fleet.Informed) (history : List FleetEvent) :
    scan fleet (history.map .ofFleetEvent) = run step fleet history := by
  rw [scan]
  generalize kept : fleet.needs = needs
  induction history generalizing fleet with
  | nil => rfl
  | cons event history induction =>
      subst kept
      rw [List.map_cons, run_cons, run_cons, scanStep_ofFleetEvent informed]
      exact induction (informed_step informed event) (needs_step fleet event)

/-- Whatever was observed before, a scan that drops and narrows advertisements ends in the same
fleet as observing all of them in full, so every later answer is the same. -/
theorem scan_loses_nothing (specs : List DeviceSpec) (rule : MultiDeviceAuth)
    (earlier history : List FleetEvent) :
    let fleet := run step (new specs rule) earlier
    scan fleet (history.map .ofFleetEvent) = run step fleet history ∧
    ∀ later nowMs,
      (run step (scan fleet (history.map .ofFleetEvent)) later).check nowMs =
        (run step (run step fleet history) later).check nowMs ∧
      (run step (scan fleet (history.map .ofFleetEvent)) later).report nowMs =
        (run step (run step fleet history) later).report nowMs := by
  intro fleet
  have informed : fleet.Informed :=
    run_invariant Informed (fun _ event informed => informed_step informed event)
      (informed_new specs rule) earlier
  have same := scan_eq_run informed history
  refine ⟨same, fun later nowMs => ?_⟩
  rw [same]
  exact ⟨rfl, rfl⟩

end Fleet
end PresenceUnlock
