import PresenceUnlock.Protocol.Presence
import PresenceUnlock.RustStd.Result

/-!
# Configuration

The file as it is written, and its validation into the settings the daemon runs on.
-/

namespace PresenceUnlock

open RustStd RustStd.Result

/-- The third-party code a configuration is read with: AES-128, the standard base64 engine and the
parser of the `uuid` crate. -/
structure Crates where
  /-- The block cipher of the `aes` crate. -/
  aes : Aes128
  /-- The text of some bytes. -/
  base64Encode : List UInt8 → Text
  /-- The bytes of a text, if it is one. -/
  base64Decode : Text → Option (List UInt8)
  /-- The UUID that a text spells, if it spells one. -/
  parseUuid : Text → Option Uuid

namespace ConfigKey

def schemaVersion : Text := "schema_version".toList
def adapter : Text := "adapter".toList
def multiDeviceAuth : Text := "multi_device_auth".toList
def device : Text := "device".toList
def id : Text := "id".toList
def profile : Text := "profile".toList
def irkBase64 : Text := "irk_base64".toList
def address : Text := "address".toList
def serviceUuid : Text := "service_uuid".toList
def namePrefix : Text := "name_prefix".toList
def thresholdDbm : Text := "threshold_dbm".toList
def minimumSamples : Text := "minimum_samples".toList
def sampleWindowMs : Text := "sample_window_ms".toList
def freshnessMs : Text := "freshness_ms".toList

end ConfigKey

/-- The only schema version that this build reads. -/
def currentSchema : UInt8 := 4

/-- One `[[device]]` table. -/
structure DeviceEntry where
  /-- The name that commands and rules use for the device. -/
  id : Text
  /-- The id of a built-in profile. -/
  profile : Text
  /-- The identity key, in base64. -/
  irkBase64 : Option Text
  /-- The public address. -/
  address : Option Text
  /-- An advertised service. -/
  serviceUuid : Option Text
  /-- How the advertised name begins. -/
  namePrefix : Option Text
  /-- The weakest signal that counts, where it is not the default. -/
  thresholdDbm : Option Int16
  /-- How many samples are asked for, where it is not the default. -/
  minimumSamples : Option UInt8
  /-- How far apart the samples may be, where it is not the default. -/
  sampleWindowMs : Option UInt64
  /-- How old the last sample may be, where it is not the default. -/
  freshnessMs : Option UInt64
  deriving DecidableEq, Repr

/-- The literal contents of `config.toml`. -/
structure ConfigFile where
  /-- The version that the file was written for. -/
  schemaVersion : UInt8
  /-- The Bluetooth adapter to use, if one is named. -/
  adapter : Option Text
  /-- The multi-device rule, as it is spelled. -/
  multiDeviceAuth : Option Text
  /-- The `[[device]]` tables, in order. -/
  devices : List DeviceEntry
  deriving DecidableEq, Repr

/-- Validated configuration the daemon runs on. -/
structure Settings where
  /-- The Bluetooth adapter to use, if one is named. -/
  adapter : Option Text
  /-- The multi-device rule. -/
  multiDeviceAuth : MultiDeviceAuth
  /-- The devices, in the order of the file. -/
  devices : List DeviceSpec

/-- Why a configuration is refused. -/
inductive ConfigError
  | toml
  | schema (version : UInt8)
  | irkLength (id : Text)
  | irkBase64 (id : Text)
  | device (id message : Text)
  | unsupportedProfile (id profile : Text)
  | duplicateDevice (id : Text)
  | duplicateIdentity (other id criterion : Text)
  | noDevices
  | multiDeviceAuth (rule : Text)
  | multiDeviceAuthExceedsDeviceCount (required : UInt8) (configured : Nat)
  | policy (device field value allowed : Text)
  deriving DecidableEq, Repr

namespace ConfigError

def invalidAddress : Text := "invalid address".toList
def invalidServiceUuid : Text := "invalid service UUID".toList
def emptyNamePrefix : Text := "name_prefix must not be empty".toList
def noCriterion : Text :=
  "needs at least one of irk_base64, address, service_uuid, or name_prefix".toList

end ConfigError

namespace Policy

/-- Every value is inside its allowed range. -/
structure InRange (policy : Policy) : Prop where
  /-- The threshold is no weaker than a signal can be. -/
  threshold_min : minThresholdDbm ≤ policy.thresholdDbm
  /-- The threshold is no stronger than a signal can be. -/
  threshold_max : policy.thresholdDbm ≤ maxThresholdDbm
  /-- At least one sample is asked for. -/
  samples : policy.minimumSamples ≠ 0
  /-- The window is not empty. -/
  window_min : 1 ≤ policy.sampleWindowMs
  /-- The window is not too long. -/
  window_max : policy.sampleWindowMs ≤ maxSampleWindowMs
  /-- A sample counts for some time. -/
  freshness_min : 1 ≤ policy.freshnessMs
  /-- A sample does not count for too long. -/
  freshness_max : policy.freshnessMs ≤ maxFreshnessMs

/-- The number of spaced samples the window has room for. -/
def maximumSamples (policy : Policy) : UInt64 := policy.sampleWindowMs / minSampleSpacingMs + 1

/-- The window has room for as many samples as are asked for. -/
def Feasible (policy : Policy) : Prop := policy.minimumSamples.toUInt64 ≤ policy.maximumSamples

instance (policy : Policy) : Decidable policy.Feasible :=
  inferInstanceAs (Decidable (policy.minimumSamples.toUInt64 ≤ policy.maximumSamples))

end Policy

namespace DeviceEntry

/-- The text of an inclusive range. -/
def rangeText (low high : Text) : Text := low ++ "..=".toList ++ high

/-- The text of the bound that depends on the sample window. -/
def spacingText (policy : Policy) : Text :=
  rangeText (Text.ofNat 1) (Text.ofNat policy.maximumSamples.toNat) ++
    " for sample_window_ms = ".toList ++ Text.ofNat policy.sampleWindowMs.toNat ++
    " with ".toList ++ Text.ofNat Policy.minSampleSpacingMs.toNat ++ "ms spacing".toList

/-- Check every value against its range, and then the samples against the window. -/
def validatePolicy (entry : DeviceEntry) (policy : Policy) : Except ConfigError Unit :=
  let invalid := fun field value allowed =>
    Except.error (.policy entry.id field value allowed)
  if ¬ (Policy.minThresholdDbm ≤ policy.thresholdDbm ∧
      policy.thresholdDbm ≤ Policy.maxThresholdDbm) then
    invalid ConfigKey.thresholdDbm (Text.ofInt policy.thresholdDbm.toInt)
      (rangeText (Text.ofInt Policy.minThresholdDbm.toInt)
        (Text.ofInt Policy.maxThresholdDbm.toInt))
  else if policy.minimumSamples = 0 then
    invalid ConfigKey.minimumSamples (Text.ofNat 0) (rangeText (Text.ofNat 1) (Text.ofNat 255))
  else if ¬ (1 ≤ policy.sampleWindowMs ∧ policy.sampleWindowMs ≤ Policy.maxSampleWindowMs) then
    invalid ConfigKey.sampleWindowMs (Text.ofNat policy.sampleWindowMs.toNat)
      (rangeText (Text.ofNat 1) (Text.ofNat Policy.maxSampleWindowMs.toNat))
  else if ¬ (1 ≤ policy.freshnessMs ∧ policy.freshnessMs ≤ Policy.maxFreshnessMs) then
    invalid ConfigKey.freshnessMs (Text.ofNat policy.freshnessMs.toNat)
      (rangeText (Text.ofNat 1) (Text.ofNat Policy.maxFreshnessMs.toNat))
  else if policy.minimumSamples.toUInt64 > policy.maximumSamples then
    invalid ConfigKey.minimumSamples (Text.ofNat policy.minimumSamples.toNat) (spacingText policy)
  else
    .ok ()

/-- A policy is accepted exactly when it is in range and its samples fit its window. -/
theorem validatePolicy_eq_ok_iff (entry : DeviceEntry) (policy : Policy) :
    entry.validatePolicy policy = .ok () ↔ policy.InRange ∧ policy.Feasible := by
  constructor
  · intro accepted
    simp only [validatePolicy, not_and, gt_iff_lt] at accepted
    split at accepted
    · cases accepted
    rename_i threshold
    split at accepted
    · cases accepted
    rename_i samples
    split at accepted
    · cases accepted
    rename_i window
    split at accepted
    · cases accepted
    rename_i freshness
    split at accepted
    · cases accepted
    rename_i fits
    simp only [Classical.not_imp, not_not] at threshold window freshness
    exact ⟨⟨threshold.1, threshold.2, samples, window.1, window.2, freshness.1, freshness.2⟩,
      UInt64.not_lt.mp fits⟩
  · rintro ⟨range, feasible⟩
    simp only [validatePolicy]
    rw [if_neg (not_not.mpr ⟨range.threshold_min, range.threshold_max⟩), if_neg range.samples,
      if_neg (not_not.mpr ⟨range.window_min, range.window_max⟩),
      if_neg (not_not.mpr ⟨range.freshness_min, range.freshness_max⟩),
      if_neg (UInt64.not_lt.mpr feasible)]

/-- The policy an entry asks for: its overrides over the defaults. -/
def requestedPolicy (entry : DeviceEntry) : Policy where
  thresholdDbm := entry.thresholdDbm.getD Policy.default.thresholdDbm
  minimumSamples := entry.minimumSamples.getD Policy.default.minimumSamples
  sampleWindowMs := entry.sampleWindowMs.getD Policy.default.sampleWindowMs
  freshnessMs := entry.freshnessMs.getD Policy.default.freshnessMs

/-- The policy of an entry, with the defaults filled in, if it is a valid one. -/
def policy (entry : DeviceEntry) : Except ConfigError Policy := do
  let policy := entry.requestedPolicy
  entry.validatePolicy policy
  return policy

theorem policy_eq_ok_iff (entry : DeviceEntry) (policy : Policy) :
    entry.policy = .ok policy ↔
      policy = entry.requestedPolicy ∧ policy.InRange ∧ policy.Feasible := by
  simp only [DeviceEntry.policy, bind_eq_ok, pure_eq_ok]
  constructor
  · rintro ⟨⟨⟩, accepted, rfl⟩
    exact ⟨rfl, (entry.validatePolicy_eq_ok_iff _).mp accepted⟩
  · rintro ⟨rfl, valid⟩
    exact ⟨(), (entry.validatePolicy_eq_ok_iff _).mpr valid, rfl⟩

end DeviceEntry

/-- Decode a key; the file holds it byte-reversed, so the bytes are reversed here, once. -/
def decodeIrk (crates : Crates) (id text : Text) : Except ConfigError Key := do
  let raw ← okOr (crates.base64Decode text.trim) (.irkBase64 id)
  let irk ← okOr (keyOfBytes raw) (.irkLength id)
  return irk.reverse

namespace DeviceEntry

variable (crates : Crates)

/-- The built-in profile that an entry names. -/
def lookupProfile (entry : DeviceEntry) : Except ConfigError BuiltInProfile :=
  okOr (Profile.find entry.profile) (.unsupportedProfile entry.id entry.profile)

/-- The criteria of an entry, of which there is at least one. -/
def identity (entry : DeviceEntry) : Except ConfigError Identity := do
  let irk ← transposeMap (decodeIrk crates entry.id) entry.irkBase64
  let address ← transposeMap
    (fun text => okOr (parseAddress text) (.device entry.id ConfigError.invalidAddress))
    entry.address
  let serviceUuid ← transposeMap
    (fun text => okOr (crates.parseUuid text) (.device entry.id ConfigError.invalidServiceUuid))
    entry.serviceUuid
  -- Every name starts with the empty prefix, so it would admit any device in range.
  if entry.namePrefix.any fun affix => affix.trim.isEmpty then
    .error (.device entry.id ConfigError.emptyNamePrefix)
  else
    let identity : Identity :=
      { irk := irk.map (IrkMatcher.new crates.aes)
        address := address
        serviceUuid := serviceUuid
        namePrefix := entry.namePrefix }
    if identity.isEmpty then
      .error (.device entry.id ConfigError.noCriterion)
    else
      .ok identity

/-- What the daemon makes of an entry. -/
def resolve (entry : DeviceEntry) : Except ConfigError DeviceSpec := do
  let identity ← entry.identity crates
  let profile ← entry.lookupProfile
  let policy ← entry.policy
  return { id := entry.id, identity, profile, policy }

/-- The parts of an entry that name one physical device. -/
abbrev IdentityKey := Option Key × Option Address

/-- The key and the address an entry decodes to. -/
def identityKey (entry : DeviceEntry) : IdentityKey :=
  (entry.irkBase64.bind fun text => (decodeIrk crates entry.id text).toOption,
    entry.address.bind parseAddress)

/-- The identity an entry decodes to when all its criteria are readable. -/
def lowered (entry : DeviceEntry) : Identity where
  irk := (entry.identityKey crates).1.map (IrkMatcher.new crates.aes)
  address := (entry.identityKey crates).2
  serviceUuid := entry.serviceUuid.bind crates.parseUuid
  namePrefix := entry.namePrefix

/-- Every criterion that is given can be read. -/
structure Readable (entry : DeviceEntry) : Prop where
  /-- The key decodes. -/
  irk : ∀ text ∈ entry.irkBase64, ∃ key, decodeIrk crates entry.id text = .ok key
  /-- The address parses. -/
  address : ∀ text ∈ entry.address, ∃ address, parseAddress text = some address
  /-- The UUID parses. -/
  serviceUuid : ∀ text ∈ entry.serviceUuid, ∃ uuid, crates.parseUuid text = some uuid
  /-- The prefix is more than blanks. -/
  namePrefix : ∀ affix ∈ entry.namePrefix, affix.trim ≠ []

/-- An identity is accepted exactly when its criteria are readable and there is one. -/
theorem identity_eq_ok_iff (entry : DeviceEntry) (identity : Identity) :
    entry.identity crates = .ok identity ↔
      entry.Readable crates ∧ identity = entry.lowered crates ∧ identity.isEmpty = false := by
  simp only [DeviceEntry.identity, bind_eq_ok, transposeMap_eq_ok, okOr_eq_ok]
  have toOption_okOr : ∀ {α : Type} (value : Option α) (error : ConfigError),
      (okOr value error).toOption = value := by
    intro α value error
    cases value <;> rfl
  constructor
  · rintro ⟨irk, ⟨irk_readable, rfl⟩, address, ⟨address_readable, rfl⟩, uuid,
      ⟨uuid_readable, rfl⟩, accepted⟩
    split at accepted
    · cases accepted
    rename_i prefix_kept
    split at accepted
    · cases accepted
    rename_i nonempty
    cases accepted
    refine ⟨⟨irk_readable, address_readable, uuid_readable, ?_⟩, ?_, by simpa using nonempty⟩
    · intro affix given blank
      simp [Option.mem_def.mp given, blank] at prefix_kept
    · simp only [toOption_okOr]
      rfl
  · rintro ⟨readable, rfl, nonempty⟩
    refine ⟨_, ⟨readable.irk, rfl⟩, _, ⟨readable.address, rfl⟩, _, ⟨readable.serviceUuid, rfl⟩, ?_⟩
    have prefix_kept : ¬ (entry.namePrefix.any fun affix => affix.trim.isEmpty) = true := by
      cases affix : entry.namePrefix with
      | none => simp
      | some affix' => simpa using readable.namePrefix affix' affix
    simp only [toOption_okOr]
    rw [if_neg prefix_kept]
    change (if (entry.lowered crates).isEmpty then _ else Except.ok (entry.lowered crates)) = _
    rw [nonempty]
    rfl

theorem resolve_eq_ok_iff (entry : DeviceEntry) (spec : DeviceSpec) :
    entry.resolve crates = .ok spec ↔
      spec.id = entry.id ∧ entry.identity crates = .ok spec.identity ∧
        Profile.find entry.profile = some spec.profile ∧ entry.policy = .ok spec.policy := by
  simp only [resolve, lookupProfile, bind_eq_ok, okOr_eq_ok, pure_eq_ok]
  constructor
  · rintro ⟨identity, read, profile, found, policy, valid, rfl⟩
    exact ⟨rfl, read, found, valid⟩
  · rintro ⟨same_id, read, found, valid⟩
    refine ⟨spec.identity, read, spec.profile, found, spec.policy, valid, ?_⟩
    rw [← same_id]

/-- The criterion by which an entry names the device of an earlier one. -/
def sameBy (key earlier : IdentityKey) : Option Text :=
  if key.1.isSome && key.1 == earlier.1 then some ConfigKey.irkBase64
  else if key.2.isSome && key.2 == earlier.2 then some ConfigKey.address
  else none

/-- What validation asks of two entries: other ids, and no shared key or address. -/
structure Apart (earlier later : DeviceEntry) : Prop where
  /-- The ids are different. -/
  id : earlier.id ≠ later.id
  /-- Neither the key nor the address is shared. -/
  key : sameBy (later.identityKey crates) (earlier.identityKey crates) = none

end DeviceEntry

namespace ConfigFile

variable (crates : Crates)

/-- The loop over the entries, carrying the resolved devices and the identities seen so far. -/
def resolveEntries (devices : List DeviceSpec) (seen : List (Text × DeviceEntry.IdentityKey)) :
    List DeviceEntry → Except ConfigError (List DeviceSpec)
  | [] => .ok devices
  | entry :: rest =>
      if devices.any fun spec => spec.id == entry.id then
        .error (.duplicateDevice entry.id)
      else do
        let spec ← entry.resolve crates
        let irk ← transposeMap (decodeIrk crates entry.id) entry.irkBase64
        let address := entry.address.bind parseAddress
        match seen.findSome? fun (other, key) =>
            (DeviceEntry.sameBy (irk, address) key).map fun criterion => (other, criterion) with
        | some (other, criterion) => .error (.duplicateIdentity other entry.id criterion)
        | none => resolveEntries (devices ++ [spec]) (seen ++ [(entry.id, (irk, address))]) rest

/-- The rule of the file: `any` (default), `all`, or `at-least:<n>`. -/
def multiDeviceAuthRule (config : ConfigFile) : Except ConfigError MultiDeviceAuth :=
  match config.multiDeviceAuth with
  | none => .ok .any
  | some text =>
      if text = "any".toList then .ok .any
      else if text = "all".toList then .ok .all
      else
        let n := ((Text.stripPrefix "at-least:".toList text).bind (Text.u8FromStrRadix 10)).filter
          fun n => 0 < n
        okOr (n.map .atLeast) (.multiDeviceAuth text)

/-- The last check: an `at-least` rule must not ask for more devices than there are. -/
def checkDeviceCount (settings : Settings) : Except ConfigError Settings :=
  match settings.multiDeviceAuth with
  | .atLeast required =>
      if required.toNat > settings.devices.length then
        .error (.multiDeviceAuthExceedsDeviceCount required settings.devices.length)
      else
        .ok settings
  | _ => .ok settings

/-- Validate the file and lower it into runtime settings. -/
def resolve (config : ConfigFile) : Except ConfigError Settings :=
  if config.devices.isEmpty then
    .error .noDevices
  else do
    let devices ← resolveEntries crates [] [] config.devices
    let multiDeviceAuth ← config.multiDeviceAuthRule
    checkDeviceCount { adapter := config.adapter, multiDeviceAuth, devices }

/-- The entries already read that the loop remembers. -/
private structure Remembers (devices : List DeviceSpec)
    (seen : List (Text × DeviceEntry.IdentityKey)) (earlier : List DeviceEntry) : Prop where
  /-- The devices are named like the entries. -/
  ids : devices.map DeviceSpec.id = earlier.map DeviceEntry.id
  /-- The keys and addresses that were seen are those of the entries. -/
  keys : seen = earlier.map fun entry => (entry.id, entry.identityKey crates)

private theorem Remembers.nil : Remembers crates [] [] [] := ⟨rfl, rfl⟩

private theorem Remembers.concat {crates : Crates} {devices : List DeviceSpec}
    {seen : List (Text × DeviceEntry.IdentityKey)} {earlier : List DeviceEntry}
    (remembers : Remembers crates devices seen earlier) {entry : DeviceEntry} {spec : DeviceSpec}
    (resolved : entry.resolve crates = .ok spec) :
    Remembers crates (devices ++ [spec]) (seen ++ [(entry.id, entry.identityKey crates)])
      (earlier ++ [entry]) where
  ids := by
    have same_id : spec.id = entry.id := ((entry.resolve_eq_ok_iff crates spec).mp resolved).1
    simp [remembers.ids, same_id]
  keys := by simp [remembers.keys]

/-- The two tests of the loop: the id and the identity are new. -/
private theorem Remembers.apart_iff {crates : Crates} {devices : List DeviceSpec}
    {seen : List (Text × DeviceEntry.IdentityKey)} {earlier : List DeviceEntry}
    (remembers : Remembers crates devices seen earlier) (entry : DeviceEntry) :
    (∀ first ∈ earlier, first.Apart crates entry) ↔
      ¬ (devices.any fun spec => spec.id == entry.id) = true ∧
        (seen.findSome? fun (other, key) =>
          (DeviceEntry.sameBy (entry.identityKey crates) key).map
            fun criterion => (other, criterion)) = none := by
  have known_id : (devices.any fun spec => spec.id == entry.id) = true ↔
      entry.id ∈ earlier.map DeviceEntry.id := by
    rw [← remembers.ids]
    simp
  rw [known_id, remembers.keys, List.findSome?_eq_none_iff]
  simp only [List.mem_map, not_exists, not_and, forall_exists_index, and_imp,
    forall_apply_eq_imp_iff₂, Option.map_eq_none_iff]
  constructor
  · intro apart
    exact ⟨fun first member => (apart first member).id, fun first member =>
      (apart first member).key⟩
  · rintro ⟨ids, keys⟩ first member
    exact ⟨ids first member, keys first member⟩

/-- The loop succeeds exactly when every entry resolves and is apart from all before it. -/
private theorem resolveEntries_eq_ok_iff {devices : List DeviceSpec}
    {seen : List (Text × DeviceEntry.IdentityKey)} {earlier : List DeviceEntry}
    (remembers : Remembers crates devices seen earlier) (entries : List DeviceEntry)
    (specs : List DeviceSpec) :
    resolveEntries crates devices seen entries = .ok specs ↔
      (∃ later, specs = devices ++ later ∧
        List.Forall₂ (fun entry spec => entry.resolve crates = .ok spec) entries later) ∧
      entries.Pairwise (DeviceEntry.Apart crates) ∧
      ∀ first ∈ earlier, ∀ entry ∈ entries, first.Apart crates entry := by
  induction entries generalizing devices seen earlier with
  | nil => simp [resolveEntries, eq_comm]
  | cons entry rest induction =>
      rw [resolveEntries]
      constructor
      · intro accepted
        split at accepted
        · cases accepted
        rename_i fresh
        simp only [bind_eq_ok, transposeMap_eq_ok] at accepted
        obtain ⟨spec, resolved, irk, ⟨_, rfl⟩, accepted⟩ := accepted
        split at accepted
        · cases accepted
        rename_i unseen
        obtain ⟨⟨later, rfl, lowered⟩, pairwise, apart⟩ :=
          (induction (remembers.concat resolved)).mp accepted
        have apart_entry := (remembers.apart_iff entry).mpr ⟨fresh, unseen⟩
        refine ⟨⟨spec :: later, by simp, .cons resolved lowered⟩, ?_, ?_⟩
        · exact List.pairwise_cons.mpr ⟨apart entry (by simp), pairwise⟩
        · intro first member
          exact List.forall_mem_cons.mpr
            ⟨apart_entry first member, apart first (List.mem_append_left _ member)⟩
      · rintro ⟨⟨later, rfl, lowered⟩, pairwise, apart⟩
        obtain _ | ⟨resolved, lowered⟩ := lowered
        obtain ⟨apart_entry, pairwise⟩ := List.pairwise_cons.mp pairwise
        obtain ⟨fresh, unseen⟩ := (remembers.apart_iff entry).mp fun first member =>
          apart first member entry List.mem_cons_self
        have readable := ((entry.identity_eq_ok_iff crates _).mp
          ((entry.resolve_eq_ok_iff crates _).mp resolved).2.1).1
        rw [if_neg fresh]
        simp only [bind_eq_ok, transposeMap_eq_ok]
        refine ⟨_, resolved, _, ⟨readable.irk, rfl⟩, ?_⟩
        split
        · rename_i other criterion found
          have absent : some (other, criterion) = none := found.symm.trans unseen
          cases absent
        · refine (induction (remembers.concat resolved)).mpr ⟨⟨_, by simp, lowered⟩, pairwise, ?_⟩
          intro first member entry' member'
          rcases List.mem_append.mp member with known | new
          · exact apart first known entry' (List.mem_cons_of_mem entry member')
          · rw [List.mem_singleton.mp new]
            exact apart_entry entry' member'

private theorem checkDeviceCount_eq_ok_iff {settings accepted : Settings}
    (nonempty : settings.devices ≠ []) :
    checkDeviceCount settings = .ok accepted ↔
      settings = accepted ∧
        settings.multiDeviceAuth.required settings.devices.length ≤ settings.devices.length := by
  have positive : 1 ≤ settings.devices.length := List.length_pos_iff.mpr nonempty
  unfold checkDeviceCount
  cases settings.multiDeviceAuth with
  | any => simp [MultiDeviceAuth.required, positive]
  | all => simp [MultiDeviceAuth.required]
  | atLeast n =>
      have rule : MultiDeviceAuth.required (.atLeast n) settings.devices.length ≤
          settings.devices.length ↔ n.toNat ≤ settings.devices.length := by
        simp [MultiDeviceAuth.required, positive]
      rw [rule]
      dsimp only
      split
      · rename_i exceeds
        simp [Nat.not_le.mpr exceeds]
      · rename_i fits
        simp [Nat.not_lt.mp fits]

/-- A file is accepted exactly when it has entries, every entry resolves, no two of them share an
id, a key or an address, and the rule can be met by that many devices. -/
theorem resolve_eq_ok_iff (config : ConfigFile) (settings : Settings) :
    config.resolve crates = .ok settings ↔
      config.devices ≠ [] ∧
      List.Forall₂ (fun entry spec => entry.resolve crates = .ok spec) config.devices
        settings.devices ∧
      config.devices.Pairwise (DeviceEntry.Apart crates) ∧
      config.multiDeviceAuthRule = .ok settings.multiDeviceAuth ∧
      settings.multiDeviceAuth.required settings.devices.length ≤ settings.devices.length ∧
      settings.adapter = config.adapter := by
  have loop : ∀ specs, resolveEntries crates [] [] config.devices = .ok specs ↔
      List.Forall₂ (fun entry spec => entry.resolve crates = .ok spec) config.devices specs ∧
        config.devices.Pairwise (DeviceEntry.Apart crates) := by
    intro specs
    simpa using resolveEntries_eq_ok_iff crates (Remembers.nil crates) config.devices specs
  by_cases empty : config.devices = []
  · simp [resolve, empty]
  · have devices_ne : ∀ specs,
        List.Forall₂ (fun entry spec => entry.resolve crates = .ok spec) config.devices specs →
          specs ≠ [] := by
      rintro specs lowered rfl
      exact empty (List.forall₂_nil_right_iff.mp lowered)
    rw [resolve, if_neg (by simpa using empty)]
    simp only [bind_eq_ok, loop]
    constructor
    · rintro ⟨specs, ⟨lowered, apart⟩, rule, parsed, accepted⟩
      obtain ⟨rfl, enough⟩ :=
        (checkDeviceCount_eq_ok_iff (devices_ne specs lowered)).mp accepted
      exact ⟨empty, lowered, apart, parsed, enough, rfl⟩
    · rintro ⟨_, lowered, apart, parsed, enough, adapter⟩
      refine ⟨_, ⟨lowered, apart⟩, _, parsed, ?_⟩
      rw [← adapter]
      exact (checkDeviceCount_eq_ok_iff (devices_ne _ lowered)).mpr ⟨rfl, enough⟩

variable {crates : Crates} {config : ConfigFile} {settings : Settings}

theorem devices_ne_of_resolve (accepted : config.resolve crates = .ok settings) :
    settings.devices ≠ [] := by
  obtain ⟨nonempty, lowered, _⟩ := (config.resolve_eq_ok_iff crates settings).mp accepted
  rintro empty
  rw [empty] at lowered
  exact nonempty (List.forall₂_nil_right_iff.mp lowered)

/-- What every resolved entry gives its device, the accepted devices have in order. -/
theorem map_devices_of_resolve {α : Type} (ofSpec : DeviceSpec → α) (ofEntry : DeviceEntry → α)
    (same : ∀ entry spec, DeviceEntry.resolve crates entry = .ok spec → ofSpec spec = ofEntry entry)
    (accepted : config.resolve crates = .ok settings) :
    settings.devices.map ofSpec = config.devices.map ofEntry := by
  obtain ⟨_, lowered, _⟩ := (config.resolve_eq_ok_iff crates settings).mp accepted
  generalize config.devices = entries at lowered
  generalize settings.devices = specs at lowered
  induction lowered with
  | nil => rfl
  | cons resolved _ induction => rw [List.map_cons, List.map_cons, same _ _ resolved, induction]

theorem ids_of_resolve (accepted : config.resolve crates = .ok settings) :
    settings.devices.map DeviceSpec.id = config.devices.map DeviceEntry.id :=
  map_devices_of_resolve _ _ (fun entry spec resolved =>
    ((entry.resolve_eq_ok_iff crates spec).mp resolved).1) accepted

theorem identities_of_resolve (accepted : config.resolve crates = .ok settings) :
    settings.devices.map DeviceSpec.identity =
      config.devices.map (DeviceEntry.lowered crates) := by
  refine map_devices_of_resolve _ _ (fun entry spec resolved => ?_) accepted
  have read := ((entry.resolve_eq_ok_iff crates spec).mp resolved).2.1
  exact ((entry.identity_eq_ok_iff crates spec.identity).mp read).2.1

/-- Every accepted device comes from an entry that resolves to it. -/
theorem exists_entry_of_mem (accepted : config.resolve crates = .ok settings) {spec : DeviceSpec}
    (member : spec ∈ settings.devices) :
    ∃ entry ∈ config.devices, entry.resolve crates = .ok spec := by
  obtain ⟨_, lowered, _⟩ := (config.resolve_eq_ok_iff crates settings).mp accepted
  exact exists_left_of_forall₂ lowered member

/-- The device of an entry is the one found under its id. -/
theorem find?_device_of_resolve (accepted : config.resolve crates = .ok settings)
    {entry : DeviceEntry} (member : entry ∈ config.devices) :
    ∃ spec, entry.resolve crates = .ok spec ∧
      settings.devices.find? (fun spec => spec.id == entry.id) = some spec := by
  obtain ⟨_, lowered, apart, _⟩ := (config.resolve_eq_ok_iff crates settings).mp accepted
  generalize config.devices = entries at lowered apart member
  generalize settings.devices = specs at lowered
  induction lowered with
  | nil => simp at member
  | cons resolved _ induction =>
      obtain ⟨apart_first, apart⟩ := List.pairwise_cons.mp apart
      have same_id := ((DeviceEntry.resolve_eq_ok_iff crates _ _).mp resolved).1
      rcases List.mem_cons.mp member with rfl | later
      · exact ⟨_, resolved, List.find?_cons_of_pos (by simp [same_id])⟩
      · obtain ⟨spec, later_resolved, found⟩ := induction apart later
        refine ⟨spec, later_resolved, ?_⟩
        rw [List.find?_cons_of_neg (by simpa [same_id] using (apart_first entry later).id), found]

theorem policy_of_resolve (accepted : config.resolve crates = .ok settings) {spec : DeviceSpec}
    (member : spec ∈ settings.devices) : spec.policy.InRange ∧ spec.policy.Feasible := by
  obtain ⟨entry, _, resolved⟩ := exists_entry_of_mem accepted member
  have valid := ((entry.resolve_eq_ok_iff crates spec).mp resolved).2.2.2
  exact ((entry.policy_eq_ok_iff spec.policy).mp valid).2

/-- Third-party code for configurations that name neither keys nor UUIDs. -/
def plainCrates : Crates := ⟨fun key _ => key, fun _ => [], fun _ => none, fun _ => none⟩

/-- An entry of the proximity profile, recognised by name, with the default policy. -/
def plainEntry (id namePrefix : Text) : DeviceEntry :=
  ⟨id, ProximityOnly.id, none, none, none, some namePrefix, none, none, none, none⟩

end ConfigFile
end PresenceUnlock
