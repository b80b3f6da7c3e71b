import PresenceUnlock.Protocol.Config

/-!
# The configurations that are accepted

What validation amounts to, stated without its loop: conditions on every entry by itself, and keys
and addresses that no two entries share.
-/

namespace PresenceUnlock

open RustStd RustStd.Result

namespace DeviceEntry

variable (crates : Crates)

/-- The key an entry stores, in the byte order of the file. -/
def storedIrk (entry : DeviceEntry) : Option Key :=
  entry.irkBase64.bind fun text => (crates.base64Decode text.trim).bind keyOfBytes

/-- The address an entry stores. -/
def storedAddress (entry : DeviceEntry) : Option Address := entry.address.bind parseAddress

/-- What is asked of an entry by itself. -/
structure Safe (entry : DeviceEntry) : Prop where
  /-- The profile is built in. -/
  profile : ∃ profile ∈ Profile.profiles, profile.id = entry.profile
  /-- There is a criterion. -/
  criterion : entry.irkBase64 ≠ none ∨ entry.address ≠ none ∨ entry.serviceUuid ≠ none ∨
    entry.namePrefix ≠ none
  /-- The key decodes to sixteen bytes. -/
  irk : ∀ text ∈ entry.irkBase64, ∃ bytes, crates.base64Decode text.trim = some bytes ∧
    bytes.length = 16
  /-- The address parses. -/
  address : ∀ text ∈ entry.address, ∃ address, parseAddress text = some address
  /-- The UUID parses. -/
  serviceUuid : ∀ text ∈ entry.serviceUuid, ∃ uuid, crates.parseUuid text = some uuid
  /-- The prefix is more than blanks. -/
  namePrefix : ∀ affix ∈ entry.namePrefix, affix.trim ≠ []
  /-- The policy can be met. -/
  policy : entry.requestedPolicy.InRange ∧ entry.requestedPolicy.Feasible

/-- The device has the values that its entry writes down. -/
structure LowersTo (entry : DeviceEntry) (spec : DeviceSpec) : Prop where
  /-- The id. -/
  id : spec.id = entry.id
  /-- The profile. -/
  profile : spec.profile.val.id = entry.profile
  /-- The key, with its bytes reversed. -/
  irk : spec.identity.irk =
    (entry.storedIrk crates).map fun key => IrkMatcher.new crates.aes key.reverse
  /-- The address. -/
  address : spec.identity.address = entry.storedAddress
  /-- The UUID. -/
  serviceUuid : spec.identity.serviceUuid = entry.serviceUuid.bind crates.parseUuid
  /-- The name prefix. -/
  namePrefix : spec.identity.namePrefix = entry.namePrefix
  /-- The policy, with the defaults filled in. -/
  policy : spec.policy = entry.requestedPolicy

theorem decodeIrk_eq_ok_iff (id text : Text) (key : Key) :
    decodeIrk crates id text = .ok key ↔
      ∃ stored, (crates.base64Decode text.trim).bind keyOfBytes = some stored ∧
        stored.reverse = key := by
  simp only [decodeIrk, bind_eq_ok, okOr_eq_ok, pure_eq_ok, Option.bind_eq_some_iff]
  constructor
  · rintro ⟨bytes, decoded, stored, sized, rfl⟩
    exact ⟨stored, ⟨bytes, decoded, sized⟩, rfl⟩
  · rintro ⟨stored, ⟨bytes, decoded, sized⟩, rfl⟩
    exact ⟨bytes, decoded, stored, sized, rfl⟩

/-- The key a device is recognised by is the stored one, reversed. -/
theorem identityKey_fst (entry : DeviceEntry) :
    (entry.identityKey crates).1 = (entry.storedIrk crates).map Vector.reverse := by
  have decoded : ∀ text, (decodeIrk crates entry.id text).toOption =
      ((crates.base64Decode text.trim).bind keyOfBytes).map Vector.reverse := by
    intro text
    ext key
    have read := decodeIrk_eq_ok_iff crates entry.id text key
    rw [Option.map_eq_some_iff, ← read]
    cases decodeIrk crates entry.id text <;> simp [Except.toOption]
  unfold identityKey storedIrk
  cases entry.irkBase64 with
  | none => rfl
  | some text => exact decoded text

/-- The identity of an entry, field by field. -/
theorem eq_lowered_iff (entry : DeviceEntry) (identity : Identity) :
    identity = entry.lowered crates ↔
      identity.irk =
        (entry.storedIrk crates).map (fun key => IrkMatcher.new crates.aes key.reverse) ∧
      identity.address = entry.storedAddress ∧
      identity.serviceUuid = entry.serviceUuid.bind crates.parseUuid ∧
      identity.namePrefix = entry.namePrefix := by
  have irk : (entry.lowered crates).irk =
      (entry.storedIrk crates).map fun key => IrkMatcher.new crates.aes key.reverse := by
    simp only [lowered, identityKey_fst, Option.map_map]
    rfl
  obtain ⟨irk', address, uuid, affix⟩ := identity
  rw [← irk]
  constructor
  · intro same
    rw [← same]
    exact ⟨rfl, congrArg Identity.address same, congrArg Identity.serviceUuid same,
      congrArg Identity.namePrefix same⟩
  · rintro ⟨rfl, rfl, rfl, rfl⟩
    rfl

/-- The key of an entry is readable when its text is 16 encoded bytes. -/
theorem readable_irk_iff (entry : DeviceEntry) :
    (∀ text ∈ entry.irkBase64, ∃ key, decodeIrk crates entry.id text = .ok key) ↔
      ∀ text ∈ entry.irkBase64, ∃ bytes, crates.base64Decode text.trim = some bytes ∧
        bytes.length = 16 := by
  refine forall₂_congr fun text _ => ?_
  simp only [decodeIrk_eq_ok_iff, Option.bind_eq_some_iff, ← keyOfBytes_isSome_iff]
  constructor
  · rintro ⟨_, stored, ⟨bytes, decoded, sized⟩, _⟩
    exact ⟨bytes, decoded, stored, sized⟩
  · rintro ⟨bytes, decoded, stored, sized⟩
    exact ⟨_, stored, ⟨bytes, decoded, sized⟩, rfl⟩

private theorem isNone_bind_of_readable {α β : Type} {read : α → Option β} {field : Option α}
    (readable : ∀ text ∈ field, ∃ value, read text = some value) :
    (field.bind read).isNone = field.isNone := by
  cases field with
  | none => rfl
  | some text =>
      obtain ⟨value, reads⟩ := readable text rfl
      simp [reads]

/-- A readable entry lowers to an identity without criteria only when it has none. -/
theorem isEmpty_lowered_of_readable {entry : DeviceEntry} (readable : entry.Readable crates) :
    (entry.lowered crates).isEmpty = (entry.irkBase64.isNone && entry.address.isNone &&
      entry.serviceUuid.isNone && entry.namePrefix.isNone) := by
  have irk : (entry.lowered crates).irk.isNone = entry.irkBase64.isNone := by
    simp only [lowered, identityKey, Option.isNone_map]
    refine isNone_bind_of_readable fun text given => ?_
    obtain ⟨key, decoded⟩ := readable.irk text given
    exact ⟨key, by rw [decoded]; rfl⟩
  have address : (entry.lowered crates).address.isNone = entry.address.isNone :=
    isNone_bind_of_readable readable.address
  have uuid : (entry.lowered crates).serviceUuid.isNone = entry.serviceUuid.isNone :=
    isNone_bind_of_readable readable.serviceUuid
  rw [Identity.isEmpty, irk, address, uuid]
  rfl

/-- An entry resolves exactly when it is safe by itself, and then to the values it writes down. -/
theorem resolve_eq_ok_iff_safe (entry : DeviceEntry) (spec : DeviceSpec) :
    entry.resolve crates = .ok spec ↔ entry.Safe crates ∧ entry.LowersTo crates spec := by
  have criterion : ∀ readable : entry.Readable crates, (entry.lowered crates).isEmpty = false ↔
      (entry.irkBase64 ≠ none ∨ entry.address ≠ none ∨ entry.serviceUuid ≠ none ∨
        entry.namePrefix ≠ none) := by
    intro readable
    rw [isEmpty_lowered_of_readable crates readable]
    simp only [Bool.and_eq_false_iff, Option.isNone_eq_false_iff, or_assoc,
      Option.isSome_iff_ne_none]
  rw [resolve_eq_ok_iff, identity_eq_ok_iff, Profile.find_eq_some_iff, policy_eq_ok_iff]
  constructor
  · rintro ⟨id, ⟨readable, same, nonempty⟩, profile, policy, valid⟩
    obtain ⟨irk, address, uuid, affix⟩ := (eq_lowered_iff crates entry _).mp same
    rw [same] at nonempty
    refine ⟨⟨⟨_, spec.profile.property, profile⟩, (criterion readable).mp nonempty,
      (readable_irk_iff crates entry).mp readable.irk, readable.address, readable.serviceUuid,
      readable.namePrefix, policy ▸ valid⟩, ⟨id, profile, irk, address, uuid, affix, policy⟩⟩
  · rintro ⟨safe, lowers⟩
    have readable : entry.Readable crates :=
      ⟨(readable_irk_iff crates entry).mpr safe.irk, safe.address, safe.serviceUuid,
        safe.namePrefix⟩
    have same : spec.identity = entry.lowered crates := (eq_lowered_iff crates entry _).mpr
      ⟨lowers.irk, lowers.address, lowers.serviceUuid, lowers.namePrefix⟩
    refine ⟨lowers.id, ⟨readable, same, ?_⟩, lowers.profile, lowers.policy, ?_⟩
    · rw [same]
      exact (criterion readable).mpr safe.criterion
    · rw [lowers.policy]
      exact safe.policy

/-- A safe entry resolves. -/
theorem exists_resolve_iff_safe (entry : DeviceEntry) :
    (∃ spec, entry.resolve crates = .ok spec) ↔ entry.Safe crates := by
  simp only [resolve_eq_ok_iff_safe]
  constructor
  · rintro ⟨spec, safe, _⟩
    exact safe
  · intro safe
    obtain ⟨profile, registered, named⟩ := safe.profile
    let spec : DeviceSpec :=
      { id := entry.id, identity := entry.lowered crates, profile := ⟨profile, registered⟩,
        policy := entry.requestedPolicy }
    obtain ⟨irk, address, uuid, affix⟩ := (eq_lowered_iff crates entry _).mp rfl
    exact ⟨spec, safe, rfl, named, irk, address, uuid, affix, rfl⟩

/-- A field repeats an earlier one when it is set and equal to it. -/
theorem repeats_eq_false_iff {α : Type} [BEq α] [LawfulBEq α] (later earlier : Option α) :
    (later.isSome && later == earlier) = false ↔
      ∀ value, earlier = some value → later ≠ some value := by
  cases later with
  | none => simp
  | some value =>
      simp only [Option.isSome_some, Bool.true_and, beq_eq_false_iff_ne, ne_eq]
      constructor
      · rintro apart other rfl
        exact apart
      · rintro apart rfl
        exact apart value rfl rfl

/-- Two entries are apart when they share neither id nor key nor address. -/
theorem apart_iff (earlier later : DeviceEntry) :
    earlier.Apart crates later ↔ earlier.id ≠ later.id ∧
      (∀ key, earlier.storedIrk crates = some key → later.storedIrk crates ≠ some key) ∧
      ∀ address, earlier.storedAddress = some address → later.storedAddress ≠ some address := by
  have reversed : Function.Injective (Option.map (Vector.reverse : Key → Key)) :=
    Option.map_injective fun left right same => by simpa using congrArg Vector.reverse same
  have keys : (∀ key, (earlier.identityKey crates).1 = some key →
        (later.identityKey crates).1 ≠ some key) ↔
      ∀ key, earlier.storedIrk crates = some key → later.storedIrk crates ≠ some key := by
    simp only [identityKey_fst]
    constructor
    · intro apart key stored same
      refine apart key.reverse (by rw [stored]; rfl) ?_
      rw [same]
      rfl
    · intro apart key stored same
      have equal := reversed (stored.trans same.symm)
      obtain ⟨original, held, _⟩ := Option.map_eq_some_iff.mp stored
      exact apart original held (equal ▸ held)
  have parts : sameBy (later.identityKey crates) (earlier.identityKey crates) = none ↔
      ((later.identityKey crates).1.isSome &&
        (later.identityKey crates).1 == (earlier.identityKey crates).1) = false ∧
      ((later.identityKey crates).2.isSome &&
        (later.identityKey crates).2 == (earlier.identityKey crates).2) = false := by
    unfold sameBy
    split <;> rename_i key
    · simp [key]
    · split <;> rename_i address
      · simp [address]
      · exact iff_of_true rfl ⟨by simpa using key, by simpa using address⟩
  rw [repeats_eq_false_iff, repeats_eq_false_iff, keys] at parts
  constructor
  · rintro ⟨ids, same⟩
    exact ⟨ids, parts.mp same⟩
  · rintro ⟨ids, others⟩
    exact ⟨ids, parts.mpr others⟩

end DeviceEntry

namespace ConfigFile

variable (crates : Crates)

/-- What the text of a rule says: `any` unless given, `all`, or a positive number in a byte. -/
inductive RuleText : Option Text → MultiDeviceAuth → Prop
  | unset : RuleText none .any
  | any : RuleText (some "any".toList) .any
  | all : RuleText (some "all".toList) .all
  | atLeast {digits : Text} {n : UInt8} (number : Text.u8FromStrRadix 10 digits = some n)
      (positive : 0 < n) : RuleText (some ("at-least:".toList ++ digits)) (.atLeast n)

/-- The rule that is read is the one its text says. -/
theorem multiDeviceAuthRule_eq_ok_iff (config : ConfigFile) (rule : MultiDeviceAuth) :
    config.multiDeviceAuthRule = .ok rule ↔ RuleText config.multiDeviceAuth rule := by
  unfold multiDeviceAuthRule
  constructor
  · intro parsed
    split at parsed
    · rename_i unset
      cases parsed
      rw [unset]
      exact .unset
    rename_i text given
    rw [given]
    split at parsed
    · rename_i isAny
      cases parsed
      exact isAny ▸ .any
    split at parsed
    · rename_i isAll
      cases parsed
      exact isAll ▸ .all
    rw [okOr_eq_ok, Option.map_eq_some_iff] at parsed
    obtain ⟨n, read, rfl⟩ := parsed
    rw [Option.filter_eq_some_iff, Option.bind_eq_some_iff] at read
    obtain ⟨⟨digits, stripped, number⟩, positive⟩ := read
    rw [Text.stripPrefix_eq_some.mp stripped]
    exact .atLeast number (by simpa using positive)
  · intro meaning
    generalize config.multiDeviceAuth = text at meaning
    cases meaning with
    | unset => rfl
    | any => rfl
    | all => rfl
    | @atLeast digits n number positive =>
        have notAny : "at-least:".toList ++ digits ≠ "any".toList := by simp
        have notAll : "at-least:".toList ++ digits ≠ "all".toList := by simp
        dsimp only
        rw [if_neg notAny, if_neg notAll, Text.stripPrefix_append, Option.bind_some, number,
          Option.filter_some, if_pos (by simpa using positive)]
        rfl

/-- What is asked of a whole file. -/
structure Safe (config : ConfigFile) : Prop where
  /-- There is a device. -/
  nonempty : config.devices ≠ []
  /-- No id is used twice. -/
  ids : (config.devices.map DeviceEntry.id).Nodup
  /-- Every entry is safe by itself. -/
  entries : ∀ entry ∈ config.devices, entry.Safe crates
  /-- No key is used twice. -/
  keys : (config.devices.filterMap (DeviceEntry.storedIrk crates)).Nodup
  /-- No address is used twice. -/
  addresses : (config.devices.filterMap DeviceEntry.storedAddress).Nodup
  /-- The rule is spelled correctly, and the devices suffice for it. -/
  rule : ∃ rule, RuleText config.multiDeviceAuth rule ∧
    ∀ n, rule = .atLeast n → n.toNat ≤ config.devices.length

/-- Entries are pairwise apart when nothing that names a device is repeated. -/
theorem pairwise_apart_iff (entries : List DeviceEntry) :
    entries.Pairwise (DeviceEntry.Apart crates) ↔
      (entries.map DeviceEntry.id).Nodup ∧
      (entries.filterMap (DeviceEntry.storedIrk crates)).Nodup ∧
      (entries.filterMap DeviceEntry.storedAddress).Nodup := by
  simp only [List.Nodup, List.pairwise_map, List.pairwise_filterMap, ← List.pairwise_and_iff]
  refine List.Pairwise.iff ?_
  intro earlier later
  rw [DeviceEntry.apart_iff]
  have distinct : ∀ {α : Type} (first second : Option α),
      (∀ value, first = some value → second ≠ some value) ↔
        ∀ value, first = some value → ∀ other, second = some other → value ≠ other := by
    intro α first second
    constructor
    · rintro apart value held other given rfl
      exact apart value held given
    · intro apart value held given
      exact apart value held value given rfl
  rw [distinct, distinct]

/-- The rule asks for no more devices than there are, unless it names a larger number. -/
theorem required_le_iff (rule : MultiDeviceAuth) {count : Nat} (positive : 1 ≤ count) :
    rule.required count ≤ count ↔ ∀ n, rule = .atLeast n → n.toNat ≤ count := by
  cases rule with
  | any => simp [MultiDeviceAuth.required, positive]
  | all => simp [MultiDeviceAuth.required]
  | atLeast n => simp [MultiDeviceAuth.required, positive]

/-- A file is accepted exactly when it is safe, and then in file order with the values written. -/
theorem resolve_eq_ok_iff_safe (config : ConfigFile) (settings : Settings) :
    config.resolve crates = .ok settings ↔
      config.Safe crates ∧
      List.Forall₂ (DeviceEntry.LowersTo crates) config.devices settings.devices ∧
      config.multiDeviceAuthRule = .ok settings.multiDeviceAuth ∧
      settings.adapter = config.adapter := by
  have entries : List.Forall₂ (fun entry spec => DeviceEntry.resolve crates entry = .ok spec)
        config.devices settings.devices ↔
      (∀ entry ∈ config.devices, entry.Safe crates) ∧
        List.Forall₂ (DeviceEntry.LowersTo crates) config.devices settings.devices := by
    simp only [DeviceEntry.resolve_eq_ok_iff_safe]
    exact List.forall₂_and_left _ _
  rw [resolve_eq_ok_iff, pairwise_apart_iff, entries]
  constructor
  · rintro ⟨nonempty, ⟨safe, lowered⟩, ⟨ids, keys, addresses⟩, parsed, enough, adapter⟩
    rw [← lowered.length_eq, required_le_iff _ (List.length_pos_iff.mpr nonempty)] at enough
    exact ⟨⟨nonempty, ids, safe, keys, addresses, _,
      (multiDeviceAuthRule_eq_ok_iff config _).mp parsed, enough⟩, lowered, parsed, adapter⟩
  · rintro ⟨⟨nonempty, ids, safe, keys, addresses, rule, given, enough⟩, lowered, parsed, adapter⟩
    have read := (multiDeviceAuthRule_eq_ok_iff config rule).mpr given
    obtain rfl : rule = settings.multiDeviceAuth := Except.ok.inj (read.symm.trans parsed)
    refine ⟨nonempty, ⟨safe, lowered⟩, ⟨ids, keys, addresses⟩, parsed, ?_, adapter⟩
    rw [← lowered.length_eq, required_le_iff _ (List.length_pos_iff.mpr nonempty)]
    exact enough

theorem exists_resolve_iff_safe (config : ConfigFile) :
    (∃ settings, config.resolve crates = .ok settings) ↔ config.Safe crates := by
  simp only [resolve_eq_ok_iff_safe]
  constructor
  · rintro ⟨settings, safe, _⟩
    exact safe
  · intro safe
    obtain ⟨rule, given, _⟩ := safe.rule
    have parsed := (multiDeviceAuthRule_eq_ok_iff config rule).mpr given
    have resolved : ∃ specs, List.Forall₂ (fun entry spec =>
        DeviceEntry.resolve crates entry = .ok spec) config.devices specs :=
      exists_forall₂_iff.mpr fun entry member =>
        (entry.exists_resolve_iff_safe crates).mpr (safe.entries entry member)
    obtain ⟨specs, lowered⟩ := resolved
    exact ⟨{ adapter := config.adapter, multiDeviceAuth := rule, devices := specs }, safe,
      lowered.imp fun entry spec resolved =>
        ((entry.resolve_eq_ok_iff_safe crates spec).mp resolved).2, parsed, rfl⟩

/-- Being safe does not depend on the order of the entries. -/
theorem Safe.perm {crates : Crates} {config : ConfigFile} (safe : config.Safe crates)
    {devices : List DeviceEntry} (reordered : devices.Perm config.devices) :
    Safe crates { config with devices := devices } where
  nonempty empty := by
    dsimp only at empty
    rw [empty] at reordered
    exact safe.nonempty reordered.nil_eq.symm
  ids := (reordered.map _).nodup_iff.mpr safe.ids
  entries entry member := safe.entries entry (reordered.mem_iff.mp member)
  keys := (reordered.filterMap _).nodup_iff.mpr safe.keys
  addresses := (reordered.filterMap _).nodup_iff.mpr safe.addresses
  rule := by
    obtain ⟨rule, given, enough⟩ := safe.rule
    exact ⟨rule, given, by simpa only [reordered.length_eq] using enough⟩

/-- Validation accepts exactly the safe files, lowers every entry to the values it writes down in
the order of the file, and does not mind the order in which the entries are listed. -/
theorem resolve_accepts_safe (config : ConfigFile) :
    ((∃ settings, config.resolve crates = .ok settings) ↔ config.Safe crates) ∧
    (∀ settings, config.resolve crates = .ok settings →
      List.Forall₂ (DeviceEntry.LowersTo crates) config.devices settings.devices ∧
      RuleText config.multiDeviceAuth settings.multiDeviceAuth ∧
      settings.adapter = config.adapter) ∧
    ∀ devices : List DeviceEntry, devices.Perm config.devices →
      ((∃ settings, resolve crates { config with devices := devices } = .ok settings) ↔
        ∃ settings, config.resolve crates = .ok settings) := by
  refine ⟨exists_resolve_iff_safe crates config, ?_, ?_⟩
  · intro settings accepted
    obtain ⟨_, lowered, parsed, adapter⟩ :=
      (resolve_eq_ok_iff_safe crates config settings).mp accepted
    exact ⟨lowered, (multiDeviceAuthRule_eq_ok_iff config _).mp parsed, adapter⟩
  · intro devices reordered
    rw [exists_resolve_iff_safe, exists_resolve_iff_safe]
    constructor
    · intro safe
      exact safe.perm reordered.symm
    · intro safe
      exact safe.perm reordered

end ConfigFile
end PresenceUnlock
