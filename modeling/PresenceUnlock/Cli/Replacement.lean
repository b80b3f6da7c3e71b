import PresenceUnlock.Cli.Devices

/-!
# Adding a device

What the rewritten table holds, and what of the previous table survives in it.
-/

namespace PresenceUnlock.Cli

open RustStd RustStd.Result

theorem lookup_clear (table : Table) (keys : List Text) (key : Text) :
    (clear table keys).lookup key = if key ∈ keys then none else table.lookup key := by
  induction keys generalizing table with
  | nil => rfl
  | cons first keys induction =>
      rw [clear, List.foldl_cons]
      change (clear (table.erase first) keys).lookup key = _
      rw [induction]
      by_cases later : key ∈ keys
      · simp [later]
      · by_cases same : key = first
        · subst same
          simp [later, AList.lookup_erase]
        · simp [later, same, AList.lookup_erase_ne same]

/-- The value that a list of fields gives to a key. -/
def given (fields : List (Text × Option Value)) (key : Text) : Option Value :=
  (fields.find? fun field => field.1 == key).bind fun field => field.2

theorem given_of_notMem {fields : List (Text × Option Value)} {key : Text}
    (absent : key ∉ fields.map Prod.fst) : given fields key = none := by
  have unfound : fields.find? (fun field => field.1 == key) = none := by
    rw [List.find?_eq_none]
    intro field member same
    exact absent (List.mem_map.mpr ⟨field, member, by simpa using same⟩)
  rw [given, unfound, Option.bind_none]

theorem lookup_assign (table : Table) {fields : List (Text × Option Value)}
    (distinct : (fields.map Prod.fst).Nodup) (key : Text) :
    (assign table fields).lookup key = (given fields key).or (table.lookup key) := by
  induction fields generalizing table with
  | nil => rfl
  | cons field fields induction =>
      obtain ⟨first, new⟩ := field
      obtain ⟨fresh, distinct⟩ := List.nodup_cons.mp distinct
      change (assign (assignField table (first, new)) fields).lookup key = _
      rw [induction _ distinct]
      by_cases same : first = key
      · subst same
        have head : given ((first, new) :: fields) first = new := by simp [given]
        rw [given_of_notMem fresh, head, Option.none_or]
        cases new with
        | none => rfl
        | some value => exact AList.lookup_insert table
      · have head : given ((first, new) :: fields) key = given fields key := by
          simp [given, same]
        rw [head]
        cases new with
        | none => rfl
        | some value => simp only [assignField, AList.lookup_insert_ne (Ne.symm same)]

variable (profile : Text) (criteria : Criteria) (overrides : Overrides)

theorem lookup_rewriteTable (table : Table) (key : Text) :
    (rewriteTable profile criteria overrides table).lookup key =
      (given overrides.fields key).or ((given criteria.fields key).or
        (if key ∈ criteriaKeys ++ policyKeys then none
          else if key = kindKey then none
          else if key = ConfigKey.profile then some (.string profile)
          else table.lookup key)) := by
  have distinct_overrides : (overrides.fields.map Prod.fst).Nodup := by
    change [ConfigKey.thresholdDbm, ConfigKey.minimumSamples, ConfigKey.freshnessMs].Nodup
    decide
  have distinct_criteria : (criteria.fields.map Prod.fst).Nodup := by
    change criteriaKeys.Nodup
    decide
  rw [rewriteTable, lookup_assign _ distinct_overrides, lookup_assign _ distinct_criteria,
    lookup_clear]
  by_cases cleared : key ∈ criteriaKeys ++ policyKeys
  · simp only [if_pos cleared]
  · simp only [if_neg cleared]
    by_cases kind : key = kindKey
    · rw [if_pos kind, kind, AList.lookup_erase]
    · rw [if_neg kind, AList.lookup_erase_ne kind]
      by_cases same : key = ConfigKey.profile
      · rw [if_pos same, same, AList.lookup_insert]
      · rw [if_neg same, AList.lookup_insert_ne same]

/-- The entry that an enrollment writes, next to a sample window it does not write. -/
def replacedEntry (id : Text) (sampleWindowMs : Option UInt64) : DeviceEntry where
  id := id
  profile := profile
  irkBase64 := criteria.irkBase64
  address := criteria.address
  serviceUuid := criteria.serviceUuid
  namePrefix := criteria.namePrefix
  thresholdDbm := overrides.thresholdDbm
  minimumSamples := overrides.minimumSamples
  sampleWindowMs := sampleWindowMs
  freshnessMs := overrides.freshnessMs.bind fun ms => asU64 (i64OfU64 ms)

theorem readString_map (field : Option Text) :
    readString (field.map Value.string) = some field := by
  cases field <;> rfl

/-- Of the previous table only the sample window is left; everything else is what was given. -/
structure Rewrites (table rewritten : Table) : Prop where
  /-- The id stays. -/
  id : rewritten.lookup ConfigKey.id = table.lookup ConfigKey.id
  /-- The profile is the given one. -/
  profile : readString (rewritten.lookup ConfigKey.profile) = some (some profile)
  /-- So is the key, if any. -/
  irkBase64 : readString (rewritten.lookup ConfigKey.irkBase64) = some criteria.irkBase64
  /-- So is the address. -/
  address : readString (rewritten.lookup ConfigKey.address) = some criteria.address
  /-- So is the service. -/
  serviceUuid : readString (rewritten.lookup ConfigKey.serviceUuid) = some criteria.serviceUuid
  /-- So is the name prefix. -/
  namePrefix : readString (rewritten.lookup ConfigKey.namePrefix) = some criteria.namePrefix
  /-- So is the threshold. -/
  thresholdDbm :
    readInteger asI16 (rewritten.lookup ConfigKey.thresholdDbm) = some overrides.thresholdDbm
  /-- So are the samples. -/
  minimumSamples :
    readInteger asU8 (rewritten.lookup ConfigKey.minimumSamples) = some overrides.minimumSamples
  /-- The window stays. -/
  sampleWindowMs : rewritten.lookup ConfigKey.sampleWindowMs = table.lookup ConfigKey.sampleWindowMs
  /-- The freshness is the given one, if it fits. -/
  freshnessMs : readInteger asU64 (rewritten.lookup ConfigKey.freshnessMs) =
    some (overrides.freshnessMs.bind fun ms => asU64 (i64OfU64 ms))

theorem rewrites (table : Table) :
    Rewrites profile criteria overrides table
      (rewriteTable profile criteria overrides table) where
  id := by rw [lookup_rewriteTable]; rfl
  profile := by rw [lookup_rewriteTable]; rfl
  irkBase64 := by
    rw [lookup_rewriteTable]
    change readString ((criteria.irkBase64.map Value.string).or none) = _
    rw [Option.or_none, readString_map]
  address := by
    rw [lookup_rewriteTable]
    change readString ((criteria.address.map Value.string).or none) = _
    rw [Option.or_none, readString_map]
  serviceUuid := by
    rw [lookup_rewriteTable]
    change readString ((criteria.serviceUuid.map Value.string).or none) = _
    rw [Option.or_none, readString_map]
  namePrefix := by
    rw [lookup_rewriteTable]
    change readString ((criteria.namePrefix.map Value.string).or none) = _
    rw [Option.or_none, readString_map]
  thresholdDbm := by
    rw [lookup_rewriteTable]
    change readInteger asI16 ((overrides.thresholdDbm.map fun dbm => .integer dbm.toInt64).or
      none) = _
    cases overrides.thresholdDbm <;> simp [readInteger, asI16_toInt64]
  minimumSamples := by
    rw [lookup_rewriteTable]
    change readInteger asU8 ((overrides.minimumSamples.map fun n => .integer (i64OfU8 n)).or
      none) = _
    cases overrides.minimumSamples <;> simp [readInteger, asU8_i64OfU8]
  sampleWindowMs := by rw [lookup_rewriteTable]; rfl
  freshnessMs := by
    rw [lookup_rewriteTable]
    change readInteger asU64 ((overrides.freshnessMs.map fun ms => .integer (i64OfU64 ms)).or
      none) = _
    cases freshness : overrides.freshnessMs with
    | none => rfl
    | some ms =>
        by_cases small : ms.toNat < 2 ^ 63
        · simp [readInteger, asU64_i64OfU64_of_lt small]
        · simp [readInteger, asU64_i64OfU64_of_ge small]

variable {profile criteria overrides}

/-- What is read from the rewritten table of a device is the entry that the enrollment writes. -/
theorem eq_replacedEntry {id : Text} {table : Table} {entry : DeviceEntry}
    (named : hasId id table = true)
    (holds : DeviceEntry.Holds (rewriteTable profile criteria overrides table) entry) :
    readInteger asU64 (table.lookup ConfigKey.sampleWindowMs) = some entry.sampleWindowMs ∧
      entry = replacedEntry profile criteria overrides id entry.sampleWindowMs := by
  have written := rewrites profile criteria overrides table
  have same_id : entry.id = id := by
    have read := holds.id
    rw [written.id, of_decide_eq_true named] at read
    simpa [readString, eq_comm] using read
  have same_profile : entry.profile = profile := by
    simpa [eq_comm] using holds.profile.symm.trans written.profile
  refine ⟨written.sampleWindowMs ▸ holds.sampleWindowMs, ?_⟩
  have same := fun {α : Type} {read : Option α} {left right : α} (first : read = some left)
    (second : read = some right) => Option.some.inj (first.symm.trans second)
  obtain ⟨_, _, _, _, _, _, _, _, _, _⟩ := entry
  simp only [replacedEntry, DeviceEntry.mk.injEq]
  exact ⟨same_id, same_profile, same holds.irkBase64 written.irkBase64,
    same holds.address written.address, same holds.serviceUuid written.serviceUuid,
    same holds.namePrefix written.namePrefix, same holds.thresholdDbm written.thresholdDbm,
    same holds.minimumSamples written.minimumSamples, trivial,
    same holds.freshnessMs written.freshnessMs⟩

/-- A rewritten table has no key that the previous one or the schema lacks. -/
theorem known_rewriteTable {table : Table} (known : table.keys ⊆ DeviceEntry.knownKeys) :
    (rewriteTable profile criteria overrides table).keys ⊆ DeviceEntry.knownKeys := by
  intro key member
  by_contra unknown
  have overridden : given overrides.fields key = none := given_of_notMem fun known => unknown
    ((by decide : policyKeys ⊆ DeviceEntry.knownKeys) known)
  have criterion : given criteria.fields key = none := given_of_notMem fun known => unknown
    ((by decide : criteriaKeys ⊆ DeviceEntry.knownKeys) known)
  have uncleared : key ∉ criteriaKeys ++ policyKeys := fun known => unknown
    ((by decide : criteriaKeys ++ policyKeys ⊆ DeviceEntry.knownKeys) known)
  have not_profile : key ≠ ConfigKey.profile := fun same => unknown
    (same ▸ (by decide : ConfigKey.profile ∈ DeviceEntry.knownKeys))
  have absent : table.lookup key = none := AList.lookup_eq_none.mpr fun held =>
    unknown (known (AList.mem_keys.mp held))
  refine AList.lookup_eq_none.mp ?_ (AList.mem_keys.mpr member)
  rw [lookup_rewriteTable, overridden, criterion, if_neg uncleared, if_neg not_profile, absent]
  simp

/-- The rewritten table of an entry is read as the entry that the enrollment writes. -/
theorem holds_rewriteTable {table : Table} {entry : DeviceEntry}
    (holds : DeviceEntry.Holds table entry) :
    DeviceEntry.Holds (rewriteTable profile criteria overrides table)
      (replacedEntry profile criteria overrides entry.id entry.sampleWindowMs) := by
  have written := rewrites profile criteria overrides table
  exact ⟨known_rewriteTable holds.known, written.id ▸ holds.id, written.profile, written.irkBase64,
    written.address, written.serviceUuid, written.namePrefix, written.thresholdDbm,
    written.minimumSamples, written.sampleWindowMs ▸ holds.sampleWindowMs, written.freshnessMs⟩

/-- The table of a new device is read as the entry that the enrollment writes. -/
theorem holds_newTable (profile : Text) (criteria : Criteria) (overrides : Overrides) (id : Text) :
    DeviceEntry.Holds (rewriteTable profile criteria overrides (newTable id))
      (replacedEntry profile criteria overrides id none) := by
  have written := rewrites profile criteria overrides (newTable id)
  refine ⟨known_rewriteTable ?_, ?_, written.profile, written.irkBase64, written.address,
    written.serviceUuid, written.namePrefix, written.thresholdDbm, written.minimumSamples, ?_,
    written.freshnessMs⟩
  · intro key member
    rw [List.mem_singleton.mp member]
    exact (by decide : ConfigKey.id ∈ DeviceEntry.knownKeys)
  · rw [written.id]
    rfl
  · rw [written.sampleWindowMs]
    rfl

/-- The first element that passes a test, and what an edit at its index leaves alone. -/
theorem exists_split_of_findIdx {α : Type} {test : α → Bool} {list : List α} {index : Nat}
    (found : list.findIdx? test = some index) :
    ∃ front first back, list = front ++ first :: back ∧ (∀ earlier ∈ front, test earlier = false) ∧
      test first = true ∧ ∀ edit : α → α, list.modify index edit = front ++ edit first :: back := by
  obtain ⟨bound, passes, earlier⟩ := List.findIdx?_eq_some_iff_getElem.mp found
  have split := List.take_append_drop index list
  rw [List.drop_eq_getElem_cons bound] at split
  refine ⟨list.take index, list[index], list.drop (index + 1), split.symm, ?_, passes, ?_⟩
  · intro item member
    obtain ⟨position, inside, rfl⟩ := List.mem_take_iff_getElem.mp member
    simpa using earlier position (by omega)
  · intro edit
    exact List.modify_eq_take_cons_drop bound

/-- The tables of other devices. -/
def otherTables (id : Text) (tables : List Table) : List Table :=
  tables.filter fun table => !hasId id table

/-- The table that an enrollment starts from. -/
def previousTable (id : Text) (tables : List Table) : Table :=
  (tables.find? (hasId id)).getD (newTable id)

theorem hasId_newTable (id : Text) : hasId id (newTable id) = true := by
  rw [hasId, newTable, ← AList.insert_empty, AList.lookup_insert]
  exact decide_eq_true rfl

theorem hasId_previousTable (id : Text) (tables : List Table) :
    hasId id (previousTable id tables) = true := by
  unfold previousTable
  cases found : tables.find? (hasId id) with
  | none => exact hasId_newTable id
  | some table => exact List.find?_some found

theorem hasId_rewriteTable {id : Text} {table : Table} (named : hasId id table = true) :
    hasId id (rewriteTable profile criteria overrides table) = true := by
  rw [hasId, (rewrites profile criteria overrides table).id]
  exact named

/-- An enrollment edits one table and keeps the ones around it. -/
theorem upsert_eq (id : Text) (edit : Table → Table) (tables : List Table) :
    ∃ front back, upsert id edit tables = front ++ edit (previousTable id tables) :: back ∧
      otherTables id tables = otherTables id front ++ otherTables id back := by
  have find?_eq_none : ∀ {tables : List Table}, (∀ table ∈ tables, hasId id table = false) →
      tables.find? (hasId id) = none := by
    intro tables others
    rw [List.find?_eq_none]
    exact fun table member => by simp [others table member]
  unfold upsert
  cases found : tables.findIdx? (hasId id) with
  | none =>
      have absent := find?_eq_none (List.findIdx?_eq_none_iff.mp found)
      refine ⟨tables, [], ?_, (List.append_nil _).symm⟩
      rw [previousTable, absent, Option.getD_none]
  | some index =>
      obtain ⟨front, first, back, rfl, others, passes, modified⟩ := exists_split_of_findIdx found
      have previous : previousTable id (front ++ first :: back) = first := by
        rw [previousTable, List.find?_append, find?_eq_none others, Option.none_or,
          List.find?_cons_of_pos passes, Option.getD_some]
      refine ⟨front, back, ?_, ?_⟩
      · rw [previous]
        exact modified edit
      · rw [otherTables, List.filter_append, List.filter_cons_of_neg (by simp [passes])]
        rfl

theorem otherTables_upsert {id : Text} {edit : Table → Table}
    (keeps_id : ∀ table, hasId id table = true → hasId id (edit table) = true)
    (tables : List Table) : otherTables id (upsert id edit tables) = otherTables id tables := by
  obtain ⟨front, back, written, others⟩ := upsert_eq id edit tables
  have edited := keeps_id _ (hasId_previousTable id tables)
  rw [written, others, otherTables, List.filter_append,
    List.filter_cons_of_neg (by simp [edited])]
  rfl

/-- The tables of the `device` key in either notation. -/
def deviceTables (document : Document) : List Table :=
  match document.lookup ConfigKey.device with
  | some (.inlineTables tables) => tables
  | some (.arrayOfTables tables) => tables
  | _ => []

theorem deviceTables_eq {document : Document} {tables : List Table}
    (devices : deviceArray document = .ok tables) : deviceTables document = tables := by
  unfold deviceTables
  rcases deviceArray_eq_ok_iff.mp devices with ⟨rfl, absent | inline⟩ | found
  · rw [absent]
  · rw [inline]
  · rw [found]

/-- Another document has the same top-level keys and the same tables of other devices. -/
structure OthersKept (id : Text) (before after : Document) : Prop where
  /-- Every other key is as it was. -/
  keys : ∀ key, key ≠ ConfigKey.device → after.lookup key = before.lookup key
  /-- So is the table of every other device. -/
  tables : otherTables id (deviceTables after) = otherTables id (deviceTables before)

section Store

variable {Source : Type} (toml : Toml Source)

/-- The document that an edit starts from. -/
def storedDocument (store : Option Source) : Document := (toml.parse (contents toml store)).getD ∅

/-- The sample window that the stored table of a device asks for, the default where there is
none. -/
def storedWindow (id : Text) (store : Option Source) : UInt64 :=
  let table := previousTable id (deviceTables (storedDocument toml store))
  let read := readInteger asU64 (table.lookup ConfigKey.sampleWindowMs)
  read.join.getD Policy.default.sampleWindowMs

/-- The device that the stored file resolves to under an id. -/
def resolvedDevice (crates : Crates) (id : Text) (store : Option Source) : Option DeviceSpec :=
  (validate crates toml (contents toml store)).toOption.bind fun settings =>
    settings.devices.find? fun spec => spec.id == id

end Store

variable {Source : Type} [DecidableEq Source] {toml : Toml Source} {crates : Crates}
variable {id : Text}

omit [DecidableEq Source] in
theorem storedDocument_eq {store : Option Source} {document : Document}
    (parsed : toml.parse (contents toml store) = some document) :
    storedDocument toml store = document := by
  rw [storedDocument, parsed, Option.getD_some]

theorem upsert_ne_nil (id : Text) (edit : Table → Table) (tables : List Table) :
    upsert id edit tables ≠ [] := by
  obtain ⟨front, back, written, _⟩ := upsert_eq id edit tables
  rw [written]
  simp

/-- An accepted enrollment changes the stored document in its device array only. -/
theorem storedDocument_add (lawful : toml.Lawful) {store after : Option Source}
    (added : add crates toml id profile criteria overrides store = (.ok (), after)) :
    ∃ tables, deviceArray (storedDocument toml store) = .ok tables ∧
      toml.parse (contents toml after) = some (withDevices (storedDocument toml store)
        (upsert id (rewriteTable profile criteria overrides) tables)) ∧
      ∃ settings, validate crates toml (contents toml after) = .ok settings := by
  obtain ⟨document, tables, parsed, devices, written, valid⟩ := add_eq_ok added
  rw [storedDocument_eq parsed]
  refine ⟨tables, devices, ?_, valid⟩
  have full := full_withDevices (lawful.parse_full _ _ parsed)
    (upsert_ne_nil id (rewriteTable profile criteria overrides) tables)
  rw [written, lawful.parse_render, Document.pruned_eq_self full]

theorem othersKept_of_add (lawful : toml.Lawful) {store after : Option Source}
    (added : add crates toml id profile criteria overrides store = (.ok (), after)) :
    OthersKept id (storedDocument toml store) (storedDocument toml after) := by
  obtain ⟨tables, devices, parsed, _⟩ := storedDocument_add lawful added
  rw [storedDocument_eq parsed]
  refine ⟨fun key other => lookup_withDevices_of_ne other, ?_⟩
  rw [deviceTables, lookup_withDevices, deviceTables_eq devices]
  exact otherTables_upsert (fun table named => hasId_rewriteTable named) tables

/-- A device depends on its sample window only up to the default. -/
theorem resolve_replacedEntry_of_window {window window' : Option UInt64} {spec : DeviceSpec}
    (same : window'.getD Policy.default.sampleWindowMs = window.getD Policy.default.sampleWindowMs)
    (resolved : (replacedEntry profile criteria overrides id window).resolve crates = .ok spec) :
    (replacedEntry profile criteria overrides id window').resolve crates = .ok spec := by
  obtain ⟨same_id, identity, found, policy⟩ :=
    (DeviceEntry.resolve_eq_ok_iff crates _ _).mp resolved
  refine (DeviceEntry.resolve_eq_ok_iff crates _ _).mpr ⟨same_id, identity, found, ?_⟩
  have same_policy : (replacedEntry profile criteria overrides id window').requestedPolicy =
      (replacedEntry profile criteria overrides id window).requestedPolicy := by
    simp only [DeviceEntry.requestedPolicy, replacedEntry, same]
  rw [DeviceEntry.policy_eq_ok_iff, same_policy]
  exact (DeviceEntry.policy_eq_ok_iff _ _).mp policy

/-- The added device is the one of the arguments and of the sample window stored before. -/
theorem resolvedDevice_add (lawful : toml.Lawful) {store after : Option Source}
    (added : add crates toml id profile criteria overrides store = (.ok (), after)) :
    ∃ spec, resolvedDevice toml crates id after = some spec ∧
      (replacedEntry profile criteria overrides id (some (storedWindow toml id store))).resolve
        crates = .ok spec := by
  obtain ⟨tables, devices, parsed, settings, valid⟩ := storedDocument_add lawful added
  obtain ⟨config, holds, _, accepted⟩ := exists_config_of_validate valid parsed
  have entries := entries_of_deviceArray holds (deviceArray_withDevices _ _)
  obtain ⟨front, back, written, _⟩ :=
    upsert_eq id (rewriteTable profile criteria overrides) tables
  rw [written] at entries
  obtain ⟨entry, member, entry_holds⟩ := exists_right_of_forall₂ entries
    (List.mem_append_right front List.mem_cons_self)
  obtain ⟨window, entry_eq⟩ := eq_replacedEntry (hasId_previousTable id tables) entry_holds
  obtain ⟨spec, resolved, found⟩ := ConfigFile.find?_device_of_resolve accepted member
  have same_id : entry.id = id := congrArg DeviceEntry.id entry_eq
  refine ⟨spec, ?_, ?_⟩
  · rw [resolvedDevice, valid, ← same_id]
    exact found
  · have stored : storedWindow toml id store =
        entry.sampleWindowMs.getD Policy.default.sampleWindowMs := by
      rw [storedWindow, deviceTables_eq devices, window]
      rfl
    rw [entry_eq] at resolved
    exact resolve_replacedEntry_of_window (by rw [stored]; rfl) resolved

theorem sampleWindowMs_of_resolvedDevice (lawful : toml.Lawful) {store after : Option Source}
    (added : add crates toml id profile criteria overrides store = (.ok (), after))
    {spec : DeviceSpec} (found : resolvedDevice toml crates id after = some spec) :
    spec.policy.sampleWindowMs = storedWindow toml id store := by
  obtain ⟨spec', found', resolved⟩ := resolvedDevice_add lawful added
  obtain rfl := Option.some.inj (found.symm.trans found')
  rw [DeviceEntry.resolve_eq_ok_iff, DeviceEntry.policy_eq_ok_iff] at resolved
  exact congrArg Policy.sampleWindowMs resolved.2.2.2.1

/-- Two enrollments with the same arguments give the same device, and keep everything else, exactly
when the tables they replace ask for the same sample window. -/
theorem add_replaces_iff (lawful : toml.Lawful) {store store' after after' : Option Source}
    (added : add crates toml id profile criteria overrides store = (.ok (), after))
    (added' : add crates toml id profile criteria overrides store' = (.ok (), after')) :
    ((∃ spec, resolvedDevice toml crates id after = some spec ∧
        resolvedDevice toml crates id after' = some spec) ∧
      OthersKept id (storedDocument toml store) (storedDocument toml after) ∧
      OthersKept id (storedDocument toml store') (storedDocument toml after')) ↔
      storedWindow toml id store = storedWindow toml id store' := by
  constructor
  · rintro ⟨⟨spec, found, found'⟩, _⟩
    rw [← sampleWindowMs_of_resolvedDevice lawful added found,
      ← sampleWindowMs_of_resolvedDevice lawful added' found']
  · intro same
    obtain ⟨spec, found, resolved⟩ := resolvedDevice_add lawful added
    obtain ⟨spec', found', resolved'⟩ := resolvedDevice_add lawful added'
    rw [same, resolved'] at resolved
    cases resolved
    exact ⟨⟨spec, found, found'⟩, othersKept_of_add lawful added, othersKept_of_add lawful added'⟩

/-- The id of a phone. -/
def phone : Text := "phone".toList

/-- The phone, by its name. -/
def phoneByName : Criteria := ⟨none, none, none, some phone⟩

/-- A file with one phone whose sample window was set by hand. -/
def tunedDocument (windowMs : UInt64) : Document :=
  withDevices emptyDocument [(rewriteTable ProximityOnly.id phoneByName ⟨none, none, none⟩
    (newTable phone)).insert ConfigKey.sampleWindowMs (.integer (i64OfU64 windowMs))]

/-- The command that enrolls it. -/
def addPhone : Option Document → Except EditError Unit × Option Document :=
  add ConfigFile.plainCrates Toml.ofDocuments phone ProximityOnly.id phoneByName ⟨none, none, none⟩

/-- Enrolled over the default window, or for the first time, the phone is the same. -/
theorem add_replaces_iff_default_window :
    ∃ after after', addPhone (some (tunedDocument 3000)) = (.ok (), after) ∧
      addPhone none = (.ok (), after') ∧
      ((∃ spec, resolvedDevice Toml.ofDocuments ConfigFile.plainCrates phone after = some spec ∧
          resolvedDevice Toml.ofDocuments ConfigFile.plainCrates phone after' = some spec) ∧
        OthersKept phone (storedDocument Toml.ofDocuments (some (tunedDocument 3000)))
          (storedDocument Toml.ofDocuments after) ∧
        OthersKept phone (storedDocument Toml.ofDocuments none)
          (storedDocument Toml.ofDocuments after')) :=
  ⟨_, _, rfl, rfl, (add_replaces_iff Toml.ofDocuments_lawful
    (show addPhone (some (tunedDocument 3000)) = (.ok (), _) from rfl)
    (show addPhone none = (.ok (), _) from rfl)).mpr (by decide)⟩

/-- A window of ten seconds survives the enrollment that should have replaced it. -/
theorem add_inherits_window :
    ∃ after after' spec spec', addPhone (some (tunedDocument 10000)) = (.ok (), after) ∧
      addPhone none = (.ok (), after') ∧
      resolvedDevice Toml.ofDocuments ConfigFile.plainCrates phone after = some spec ∧
      resolvedDevice Toml.ofDocuments ConfigFile.plainCrates phone after' = some spec' ∧
      spec ≠ spec' := by
  have added : addPhone (some (tunedDocument 10000)) = (.ok (), _) := rfl
  have added' : addPhone none = (.ok (), _) := rfl
  obtain ⟨spec, found, _⟩ := resolvedDevice_add Toml.ofDocuments_lawful added
  obtain ⟨spec', found', _⟩ := resolvedDevice_add Toml.ofDocuments_lawful added'
  refine ⟨_, _, spec, spec', added, added', found, found', ?_⟩
  rintro rfl
  have tuned := sampleWindowMs_of_resolvedDevice Toml.ofDocuments_lawful added found
  have default := sampleWindowMs_of_resolvedDevice Toml.ofDocuments_lawful added' found'
  exact absurd (tuned.symm.trans default) (by decide)

end PresenceUnlock.Cli
