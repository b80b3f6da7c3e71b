import PresenceUnlock.Cli.Enrollments
import PresenceUnlock.Protocol.Acceptance

/-!
# Enrolling a key again

A key is looked up by the text that it was stored under, and validated by the bytes that this text
decodes to.  What enrolling a key leaves of a file that resolves, whether an entry has the key or
not.
-/

namespace PresenceUnlock

open RustStd RustStd.Result

namespace ConfigFile.Safe

variable {crates : Crates} {config : ConfigFile} (safe : config.Safe crates)

include safe

/-- No two entries store the same key. -/
theorem eq_of_storedIrk {irk : Key} {entry other : DeviceEntry} (member : entry ∈ config.devices)
    (member' : other ∈ config.devices) (stored : entry.storedIrk crates = some irk)
    (stored' : other.storedIrk crates = some irk) : entry = other := by
  by_contra different
  have keys := safe.keys
  rw [List.Nodup, List.pairwise_filterMap] at keys
  have symmetric : Std.Symm fun first second : DeviceEntry =>
      ∀ key ∈ first.storedIrk crates, ∀ key' ∈ second.storedIrk crates, key ≠ key' :=
    ⟨fun _ _ apart key held key' held' same => apart key' held' key held same.symm⟩
  exact keys.forall member member' different irk stored irk stored' rfl

/-- An entry whose id and key are new can be added. -/
theorem concat {entry : DeviceEntry} (entry_safe : entry.Safe crates)
    (fresh : entry.id ∉ config.devices.map DeviceEntry.id)
    (unheld : ∀ other ∈ config.devices, other.storedIrk crates ≠ entry.storedIrk crates)
    (unplaced : entry.storedAddress = none) :
    ConfigFile.Safe crates { config with devices := config.devices ++ [entry] } where
  nonempty := by simp
  ids := by
    rw [List.map_append, List.nodup_append]
    refine ⟨safe.ids, List.nodup_singleton _, ?_⟩
    rintro id member _ last rfl
    rw [List.map_singleton, List.mem_singleton] at last
    exact fresh (last ▸ member)
  entries := by
    intro other member
    rcases List.mem_append.mp member with before | last
    · exact safe.entries other before
    · rw [List.mem_singleton.mp last]
      exact entry_safe
  keys := by
    rw [List.filterMap_append, List.nodup_append]
    refine ⟨safe.keys, ?_, ?_⟩
    · cases stored : entry.storedIrk crates <;> simp [stored]
    · rintro key member key' last rfl
      obtain ⟨other, before, held⟩ := List.mem_filterMap.mp member
      obtain ⟨entry', only, held'⟩ := List.mem_filterMap.mp last
      rw [List.mem_singleton.mp only] at held'
      exact unheld other before (held.trans held'.symm)
  addresses := by
    rw [List.filterMap_append, List.filterMap_cons_none unplaced, List.filterMap_nil,
      List.append_nil]
    exact safe.addresses
  rule := by
    obtain ⟨rule, given, enough⟩ := safe.rule
    refine ⟨rule, given, fun n same => (enough n same).trans ?_⟩
    simp

/-- Entries may lose their address when they keep their id and their key. -/
theorem map {update : DeviceEntry → DeviceEntry}
    (update_safe : ∀ entry ∈ config.devices, (update entry).Safe crates)
    (ids : ∀ entry ∈ config.devices, (update entry).id = entry.id)
    (keys : ∀ entry ∈ config.devices, (update entry).storedIrk crates = entry.storedIrk crates)
    (addresses : ∀ entry ∈ config.devices, ∀ address, (update entry).storedAddress = some address →
      entry.storedAddress = some address) :
    ConfigFile.Safe crates { config with devices := config.devices.map update } where
  nonempty := by simpa using safe.nonempty
  ids := by
    have same : config.devices.map (DeviceEntry.id ∘ update) = config.devices.map DeviceEntry.id :=
      List.map_congr_left ids
    rw [List.map_map, same]
    exact safe.ids
  entries := by
    intro entry member
    obtain ⟨before, held, rfl⟩ := List.mem_map.mp member
    exact update_safe before held
  keys := by
    have same : config.devices.filterMap (DeviceEntry.storedIrk crates ∘ update) =
        config.devices.filterMap (DeviceEntry.storedIrk crates) := List.filterMap_congr keys
    rw [List.filterMap_map, same]
    exact safe.keys
  addresses := by
    have distinct := safe.addresses
    rw [List.Nodup, List.pairwise_filterMap] at distinct ⊢
    rw [List.pairwise_map]
    refine distinct.imp_of_mem fun member member' apart address held address' held' => ?_
    exact apart address (addresses _ member address held) address'
      (addresses _ member' address' held')
  rule := by
    obtain ⟨rule, given, enough⟩ := safe.rule
    exact ⟨rule, given, by simpa using enough⟩

end ConfigFile.Safe

namespace Cli

section Entry

variable {crates : Crates} {irk : Key} {profile id : Text} {window : Option UInt64}

/-- The entry that enrolling a key writes, next to a sample window it does not write. -/
def irkEntry (crates : Crates) (irk : Key) (profile id : Text) (window : Option UInt64) :
    DeviceEntry :=
  replacedEntry profile (irkCriteria (crates.base64Encode irk.toList)) noOverrides id window

/-- A text that is spelled as the encoder spells a key stores that key. -/
theorem storedIrk_of_encoded (lawful : crates.LawfulBase64) {entry : DeviceEntry}
    (encoded : entry.irkBase64 = some (crates.base64Encode irk.toList)) :
    entry.storedIrk crates = some irk := by
  rw [DeviceEntry.storedIrk, encoded, Option.bind_some,
    Text.trim_eq_self (lawful.encode_solid irk.toList), lawful.decode_encode, Option.bind_some,
    keyOfBytes_toList]

/-- Two samples fit a window exactly when it is as long as the gap between them. -/
theorem feasible_default_iff {windowMs : UInt64} (bounded : windowMs ≤ Policy.maxSampleWindowMs) :
    ({ Policy.default with sampleWindowMs := windowMs } : Policy).Feasible ↔
      Policy.minSampleSpacingMs ≤ windowMs := by
  have small : windowMs.toNat ≤ 30000 := UInt64.le_iff_toNat_le.mp bounded
  have samples :
      ({ Policy.default with sampleWindowMs := windowMs } : Policy).maximumSamples.toNat =
      windowMs.toNat / 50 + 1 := by
    change (windowMs / 50 + 1).toNat = _
    rw [UInt64.toNat_add, UInt64.toNat_div]
    exact Nat.mod_eq_of_lt (by change windowMs.toNat / 50 + 1 < 2 ^ 64; omega)
  rw [Policy.Feasible, UInt64.le_iff_toNat_le, UInt64.le_iff_toNat_le, samples]
  change 2 ≤ windowMs.toNat / 50 + 1 ↔ 50 ≤ windowMs.toNat
  omega

/-- The written entry is safe exactly when two samples fit the window it keeps. -/
theorem safe_irkEntry_iff (lawful : crates.LawfulBase64)
    (known : ∃ built ∈ Profile.profiles, built.id = profile)
    (lower : 1 ≤ window.getD Policy.default.sampleWindowMs)
    (upper : window.getD Policy.default.sampleWindowMs ≤ Policy.maxSampleWindowMs) :
    (irkEntry crates irk profile id window).Safe crates ↔
      Policy.minSampleSpacingMs ≤ window.getD Policy.default.sampleWindowMs := by
  rw [← feasible_default_iff upper]
  constructor
  · exact fun safe => safe.policy.2
  · intro feasible
    refine ⟨known, .inl (by simp [irkEntry, replacedEntry, irkCriteria]), ?_, ?_, ?_, ?_, ?_,
      feasible⟩
    · rintro text ⟨⟩
      refine ⟨irk.toList, ?_, by simp⟩
      rw [Text.trim_eq_self (lawful.encode_solid irk.toList), lawful.decode_encode]
    · exact fun text given => absurd given (Option.not_mem_none text)
    · exact fun text given => absurd given (Option.not_mem_none text)
    · exact fun affix given => absurd given (Option.not_mem_none affix)
    · exact ⟨(by decide : Policy.minThresholdDbm ≤ Policy.default.thresholdDbm),
        (by decide : Policy.default.thresholdDbm ≤ Policy.maxThresholdDbm),
        (by decide : Policy.default.minimumSamples ≠ 0), lower, upper,
        (by decide : 1 ≤ Policy.default.freshnessMs),
        (by decide : Policy.default.freshnessMs ≤ Policy.maxFreshnessMs)⟩

end Entry

theorem hasId_iff {table : Table} {entry : DeviceEntry} (holds : DeviceEntry.Holds table entry)
    (id : Text) : hasId id table = true ↔ entry.id = id := by
  have read := holds.id
  rw [hasId, decide_eq_true_iff]
  constructor
  · intro named
    rw [named] at read
    simpa [readString, eq_comm] using read
  · rintro rfl
    cases found : table.lookup ConfigKey.id with
    | none => simp [found, readString] at read
    | some value =>
        rw [found] at read
        cases value with
        | string text => simpa [readString] using read
        | integer number => cases read
        | other source => cases read

/-- An id that no entry has is appended. -/
theorem upsert_of_fresh {id : Text} {edit : Table → Table} {tables : List Table}
    (fresh : ∀ table ∈ tables, hasId id table = false) :
    upsert id edit tables = tables ++ [edit (newTable id)] := by
  rw [upsert, List.findIdx?_eq_none_iff.mpr fresh]

/-- An id that one entry has is edited there. -/
theorem upsert_eq_map {id : Text} {edit : Table → Table} {tables : List Table}
    {entries : List DeviceEntry} (read : List.Forall₂ DeviceEntry.Holds tables entries)
    (distinct : (entries.map DeviceEntry.id).Nodup) (known : id ∈ entries.map DeviceEntry.id) :
    upsert id edit tables =
      tables.map fun table => if hasId id table then edit table else table := by
  induction read with
  | nil => cases known
  | @cons table entry tables entries holds others induction =>
      obtain ⟨alone, distinct⟩ := List.nodup_cons.mp distinct
      rw [upsert, List.findIdx?_cons, List.map_cons]
      by_cases named : hasId id table = true
      · have unnamed :
          ∀ other ∈ tables, (if hasId id other then edit other else other) = other := by
          intro other member
          obtain ⟨entry', member', holds'⟩ := exists_right_of_forall₂ others member
          refine if_neg fun named' => alone ?_
          rw [(hasId_iff holds id).mp named, ← (hasId_iff holds' id).mp named']
          exact List.mem_map_of_mem member'
        rw [if_pos named, if_pos named, List.map_congr_left unnamed, List.map_id']
        rfl
      · have later : id ∈ entries.map DeviceEntry.id := by
          rcases List.mem_cons.mp known with same | later
          · exact absurd ((hasId_iff holds id).mpr same.symm) named
          · exact later
        have rest := induction distinct later
        rw [if_neg named, if_neg named, ← rest, upsert]
        cases tables.findIdx? (hasId id) <;> rfl

section Store

variable {Source : Type} [DecidableEq Source] {crates : Crates} {toml : Toml Source}
  {store : Option Source} {document : Document} {config : ConfigFile} {tables : List Table}
  {entries : List DeviceEntry} {id profile : Text} {criteria : Criteria} {overrides : Overrides}

/-- An addition succeeds exactly when the entries it leaves are safe together, and then leaves
them. -/
theorem add_iff_safe (lawful : toml.Lawful)
    (parsed : toml.parse (contents toml store) = some document)
    (holds : ConfigFile.Holds document config) (version : config.schemaVersion = currentSchema)
    (devices : deviceArray document = .ok tables) (valid : criteria.validate crates = .ok ())
    (read : List.Forall₂ DeviceEntry.Holds
      (upsert id (rewriteTable profile criteria overrides) tables) entries) :
    (∀ after, add crates toml id profile criteria overrides store = (.ok (), after) →
      ConfigFile.Safe crates { config with devices := entries }) ∧
    (ConfigFile.Safe crates { config with devices := entries } →
      ∃ after, add crates toml id profile criteria overrides store = (.ok (), after) ∧
        ConfigFile.parse toml (contents toml after) = .ok { config with devices := entries }) := by
  have read' : (upsert id (rewriteTable profile criteria overrides) tables).mapM
      DeviceEntry.ofTable = some entries :=
    mapM_eq_some_iff.mpr (read.imp fun _ _ => DeviceEntry.ofTable_eq_some_iff.mpr)
  have edited := parse_render_of_holds lawful (holds_withDevices holds read') version
  have applied : applyDevice crates id profile criteria overrides document = .ok
      (withDevices document (upsert id (rewriteTable profile criteria overrides) tables)) := by
    rw [applyDevice, valid, devices]
    rfl
  constructor
  · intro after added
    obtain ⟨document', tables', parsed', devices', written, settings, accepted⟩ := add_eq_ok added
    obtain rfl := Option.some.inj (parsed.symm.trans parsed')
    obtain rfl := Except.ok.inj (devices.symm.trans devices')
    obtain ⟨config', found, resolved⟩ := validate_eq_ok_iff.mp accepted
    rw [written, edited] at found
    cases found
    exact (ConfigFile.exists_resolve_iff_safe crates _).mp ⟨settings, resolved⟩
  · intro safe
    obtain ⟨settings, resolved⟩ := (ConfigFile.exists_resolve_iff_safe crates _).mpr safe
    obtain ⟨after, updated, written⟩ := updateConfig_of_edit parsed applied
      (validate_eq_ok_iff.mpr ⟨_, edited, resolved⟩)
    exact ⟨after, updated, by rw [written, edited]⟩

end Store

/-- A file that resolves and lists its devices as `[[device]]` tables. -/
structure Lists {Source : Type} (crates : Crates) (toml : Toml Source) (source : Source)
    (config : ConfigFile) : Prop where
  /-- The file says so. -/
  read : ConfigFile.parse toml source = .ok config
  /-- It resolves. -/
  resolves : ∃ settings, config.resolve crates = .ok settings
  /-- Its devices are tables. -/
  tables : ∃ document tables, toml.parse source = some document ∧
    document.lookup ConfigKey.device = some (.arrayOfTables tables)

/-- What enrolling a key makes of the entries: no twin of one that has the key, else one more. -/
structure KeepsOne (crates : Crates) (irk : Key) (id : Text) (before after : List DeviceEntry) :
    Prop where
  /-- An entry that has the key is updated, and no id is added. -/
  known : ∀ entry ∈ before, entry.storedIrk crates = some irk →
    (∀ id, id ∈ after.map DeviceEntry.id ↔ id ∈ before.map DeviceEntry.id) ∧
      ∃ updated ∈ after, updated.id = entry.id ∧ updated.storedIrk crates = some irk ∧
        ∀ other ∈ after, other.storedIrk crates = some irk → other = updated
  /-- Without one, an entry is added under an id of its own. -/
  unknown : (∀ entry ∈ before, entry.storedIrk crates ≠ some irk) →
    id ∉ before.map DeviceEntry.id ∧
      ∃ added, added.id = id ∧ added.storedIrk crates = some irk ∧ after = before ++ [added]

section Enroll

variable {Source : Type} [DecidableEq Source] {crates : Crates} {toml : Toml Source}

/-- A key without an id of its own is enrolled, and what this leaves is as it should be. -/
def EnrollsOnce (crates : Crates) (toml : Toml Source) (irk : Key) (profile : Text)
    (name : Option Text) (source : Source) (config : ConfigFile) : Prop :=
  ∃ id after config', enrollIrk crates toml irk profile none name (some source) = (.ok id, after) ∧
    ConfigFile.parse toml (contents toml after) = .ok config' ∧
    KeepsOne crates irk id config.devices config'.devices

variable {source : Source} {config : ConfigFile} {irk : Key} {profile : Text} {name : Option Text}

theorem enrollIrk_eq_ok_iff (read : ConfigFile.parse toml source = .ok config) {id : Text}
    {after : Option Source} :
    enrollIrk crates toml irk profile none name (some source) = (.ok id, after) ↔
      (idForIrk config.devices (crates.base64Encode irk.toList)).getD
          (deriveId config.devices name none) = id ∧
        add crates toml id profile (irkCriteria (crates.base64Encode irk.toList)) noOverrides
          (some source) = (.ok (), after) := by
  have loaded : loadDevices toml (some source) = config.devices := by
    simp [loadDevices, read, Except.toOption]
  constructor
  · intro ran
    have added := add_of_enrollIrk ran
    refine ⟨?_, added⟩
    obtain ⟨_, _, same⟩ := map_eq_ok.mp (congrArg Prod.fst ran)
    rw [loaded, Option.none_or] at same
    exact same
  · rintro ⟨rfl, added⟩
    rw [enrollIrk, loaded, Option.none_or, added]
    rfl

theorem validate_irkCriteria (lawful : crates.LawfulBase64) (irk : Key) :
    (irkCriteria (crates.base64Encode irk.toList)).validate crates = .ok () := by
  simp [Criteria.validate, Criteria.isEmpty, irkCriteria, checkGiven, bind_eq_ok,
    Text.trim_eq_self (lawful.encode_solid irk.toList), lawful.decode_encode]

/-- The one entry that a key is known under is found by its text. -/
theorem idForIrk_of_encoded (lawful : crates.LawfulBase64) (safe : config.Safe crates)
    {entry : DeviceEntry} (member : entry ∈ config.devices)
    (encoded : entry.irkBase64 = some (crates.base64Encode irk.toList)) :
    idForIrk config.devices (crates.base64Encode irk.toList) = some entry.id := by
  cases found : idForIrk config.devices (crates.base64Encode irk.toList) with
  | none =>
      have unfound := List.find?_eq_none.mp (Option.map_eq_none_iff.mp found) entry member
      simp [encoded] at unfound
  | some id =>
      obtain ⟨other, member', rfl, encoded'⟩ := idForIrk_eq_some found
      rw [safe.eq_of_storedIrk member' member (storedIrk_of_encoded lawful encoded')
        (storedIrk_of_encoded lawful encoded)]

/-- The entries after a known key is enrolled again. -/
def reenrolled (crates : Crates) (irk : Key) (profile id : Text) (entry : DeviceEntry) :
    DeviceEntry :=
  if entry.id = id then irkEntry crates irk profile entry.id entry.sampleWindowMs else entry

theorem reenrolled_of_id {id : Text} {entry : DeviceEntry} (same : entry.id = id) :
    reenrolled crates irk profile id entry =
      irkEntry crates irk profile entry.id entry.sampleWindowMs := if_pos same

theorem id_reenrolled (id : Text) (entry : DeviceEntry) :
    (reenrolled crates irk profile id entry).id = entry.id := by
  rw [reenrolled]
  split <;> rfl

theorem storedAddress_reenrolled {id : Text} {entry : DeviceEntry} {address : Address}
    (stored : (reenrolled crates irk profile id entry).storedAddress = some address) :
    entry.storedAddress = some address := by
  rw [reenrolled] at stored
  split at stored
  · cases stored
  · exact stored

theorem keepsOne_reenrolled (lawful : crates.LawfulBase64) (safe : config.Safe crates)
    {entry : DeviceEntry} (member : entry ∈ config.devices)
    (stored : entry.storedIrk crates = some irk) :
    KeepsOne crates irk entry.id config.devices
      (config.devices.map (reenrolled crates irk profile entry.id)) := by
  have alone : ∀ other ∈ config.devices, other.storedIrk crates = some irk → other = entry :=
    fun other member' stored' => safe.eq_of_storedIrk member' member stored' stored
  have ids : config.devices.map (DeviceEntry.id ∘ reenrolled crates irk profile entry.id) =
      config.devices.map DeviceEntry.id :=
    List.map_congr_left fun other _ => id_reenrolled entry.id other
  refine ⟨fun other member' stored' => ?_, fun unheld => absurd stored (unheld entry member)⟩
  rw [alone other member' stored', List.map_map, ids]
  refine ⟨fun id => .rfl, _, List.mem_map_of_mem member, id_reenrolled _ _, ?_, ?_⟩
  · rw [reenrolled_of_id rfl]
    exact storedIrk_of_encoded lawful rfl
  · intro other updated stored'
    obtain ⟨before, member', rfl⟩ := List.mem_map.mp updated
    by_cases named : before.id = entry.id
    · rw [List.inj_on_of_nodup_map safe.ids member' member named]
    · rw [reenrolled, if_neg named] at stored'
      exact absurd (congrArg DeviceEntry.id (alone before member' stored')) named

namespace Lists

variable (lists : Lists crates toml source config)

include lists

omit [DecidableEq Source] in
theorem safe : config.Safe crates :=
  (ConfigFile.exists_resolve_iff_safe crates config).mp lists.resolves

omit [DecidableEq Source] in
theorem exists_tables : ∃ document tables,
    toml.parse (contents toml (some source)) = some document ∧
    ConfigFile.Holds document config ∧ config.schemaVersion = currentSchema ∧
      deviceArray document = .ok tables ∧
        List.Forall₂ DeviceEntry.Holds tables config.devices := by
  obtain ⟨document, parsed, holds, version⟩ := ConfigFile.parse_eq_ok_iff.mp lists.read
  obtain ⟨document', tables, parsed', listed⟩ := lists.tables
  obtain rfl := Option.some.inj (parsed.symm.trans parsed')
  have devices : deviceArray document = .ok tables := deviceArray_eq_ok_iff.mpr (.inr listed)
  exact ⟨document, tables, parsed, holds, version, devices, entries_of_deviceArray holds devices⟩

variable (toml_lawful : toml.Lawful) (lawful : crates.LawfulBase64)
  (known : ∃ built ∈ Profile.profiles, built.id = profile)

include toml_lawful lawful known

/-- The entry of a known key is rewritten in its place if the window it keeps has room for the
default number of samples. -/
theorem add_known {entry : DeviceEntry} (member : entry ∈ config.devices)
    (stored : entry.storedIrk crates = some irk) :
    (∀ after, add crates toml entry.id profile (irkCriteria (crates.base64Encode irk.toList))
        noOverrides (some source) = (.ok (), after) →
      Policy.minSampleSpacingMs ≤ entry.sampleWindowMs.getD Policy.default.sampleWindowMs) ∧
    (Policy.minSampleSpacingMs ≤ entry.sampleWindowMs.getD Policy.default.sampleWindowMs →
      ∃ after, add crates toml entry.id profile (irkCriteria (crates.base64Encode irk.toList))
          noOverrides (some source) = (.ok (), after) ∧
        ConfigFile.parse toml (contents toml after) = .ok { config with
          devices := config.devices.map (reenrolled crates irk profile entry.id) }) := by
  obtain ⟨document, tables, parsed, holds, version, devices, read⟩ := lists.exists_tables
  have read' : List.Forall₂ DeviceEntry.Holds
      (upsert entry.id (rewriteTable profile (irkCriteria (crates.base64Encode irk.toList))
        noOverrides) tables) (config.devices.map (reenrolled crates irk profile entry.id)) := by
    rw [upsert_eq_map read lists.safe.ids (List.mem_map_of_mem member),
      List.forall₂_map_left_iff, List.forall₂_map_right_iff]
    refine read.imp fun table other holds => ?_
    by_cases named : hasId entry.id table = true
    · rw [if_pos named, reenrolled_of_id ((hasId_iff holds entry.id).mp named)]
      exact holds_rewriteTable holds
    · rw [if_neg named, reenrolled, if_neg (mt (hasId_iff holds entry.id).mpr named)]
      exact holds
  obtain ⟨only, enough⟩ := add_iff_safe toml_lawful parsed holds version devices
    (validate_irkCriteria lawful irk) read'
  have range := (lists.safe.entries entry member).policy.1
  have entry_safe : (irkEntry crates irk profile entry.id entry.sampleWindowMs).Safe crates ↔
      Policy.minSampleSpacingMs ≤ entry.sampleWindowMs.getD Policy.default.sampleWindowMs :=
    safe_irkEntry_iff lawful known range.window_min range.window_max
  refine ⟨fun after added => ?_, fun fits => enough ?_⟩
  · have written := (only after added).entries _ (List.mem_map_of_mem member)
    rw [reenrolled_of_id rfl] at written
    exact entry_safe.mp written
  · have same : ∀ other ∈ config.devices, other.id = entry.id → other = entry :=
      fun other member' same => List.inj_on_of_nodup_map lists.safe.ids member' member same
    refine lists.safe.map (fun other member' => ?_) (fun other _ => id_reenrolled _ _)
      (fun other member' => ?_) fun other _ address => storedAddress_reenrolled
    · by_cases named : other.id = entry.id
      · rw [reenrolled_of_id named, same other member' named]
        exact entry_safe.mpr fits
      · rw [reenrolled, if_neg named]
        exact lists.safe.entries other member'
    · by_cases named : other.id = entry.id
      · rw [reenrolled_of_id named, same other member' named, stored]
        exact storedIrk_of_encoded lawful rfl
      · rw [reenrolled, if_neg named]

/-- A key under a new id is added if no entry stores it. -/
theorem add_unknown {id : Text} (fresh : id ∉ config.devices.map DeviceEntry.id) :
    (∀ after, add crates toml id profile (irkCriteria (crates.base64Encode irk.toList)) noOverrides
        (some source) = (.ok (), after) →
      ∀ entry ∈ config.devices, entry.storedIrk crates ≠ some irk) ∧
    ((∀ entry ∈ config.devices, entry.storedIrk crates ≠ some irk) →
      ∃ after, add crates toml id profile (irkCriteria (crates.base64Encode irk.toList)) noOverrides
          (some source) = (.ok (), after) ∧
        ConfigFile.parse toml (contents toml after) = .ok { config with
          devices := config.devices ++ [irkEntry crates irk profile id none] }) := by
  obtain ⟨document, tables, parsed, holds, version, devices, read⟩ := lists.exists_tables
  have read' : List.Forall₂ DeviceEntry.Holds
      (upsert id (rewriteTable profile (irkCriteria (crates.base64Encode irk.toList))
        noOverrides) tables) (config.devices ++ [irkEntry crates irk profile id none]) := by
    rw [upsert_of_fresh]
    · exact List.rel_append read (.cons (holds_newTable _ _ _ id) .nil)
    · intro table member
      obtain ⟨entry, member', holds'⟩ := exists_right_of_forall₂ read member
      refine Bool.eq_false_iff.mpr fun named => fresh ?_
      rw [← (hasId_iff holds' id).mp named]
      exact List.mem_map_of_mem member'
  obtain ⟨only, enough⟩ := add_iff_safe toml_lawful parsed holds version devices
    (validate_irkCriteria lawful irk) read'
  have stored : (irkEntry crates irk profile id none).storedIrk crates = some irk :=
    storedIrk_of_encoded lawful rfl
  refine ⟨fun after added entry member same => fresh ?_, fun unheld => enough ?_⟩
  · have twin := (only after added).eq_of_storedIrk (List.mem_append_left _ member)
      (List.mem_append_right _ List.mem_cons_self) same stored
    exact List.mem_map.mpr ⟨entry, member, congrArg DeviceEntry.id twin⟩
  · refine lists.safe.concat ((safe_irkEntry_iff lawful known ?_ ?_).mpr ?_) fresh
      (fun other member => ?_) rfl
    · decide
    · decide
    · decide
    · rw [stored]
      exact unheld other member

/-- A key that an entry spells as the encoder does is found and enrolled again under its id. -/
theorem enrollIrk_known {entry : DeviceEntry} (member : entry ∈ config.devices)
    (encoded : entry.irkBase64 = some (crates.base64Encode irk.toList)) (name : Option Text) :
    EnrollsOnce crates toml irk profile name source config ↔
      Policy.minSampleSpacingMs ≤ entry.sampleWindowMs.getD Policy.default.sampleWindowMs := by
  have stored := storedIrk_of_encoded lawful encoded
  have found := idForIrk_of_encoded lawful lists.safe member encoded
  obtain ⟨only, enough⟩ := lists.add_known toml_lawful lawful known member stored
  constructor
  · rintro ⟨id, after, config', ran, _, _⟩
    rw [enrollIrk_eq_ok_iff lists.read, found, Option.getD_some] at ran
    obtain ⟨rfl, added⟩ := ran
    exact only after added
  · intro fits
    obtain ⟨after, added, left⟩ := enough fits
    refine ⟨entry.id, after, _, ?_, left, keepsOne_reenrolled lawful lists.safe member stored⟩
    rw [enrollIrk_eq_ok_iff lists.read, found, Option.getD_some]
    exact ⟨rfl, added⟩

/-- A key that no entry spells as the encoder does is not found, and added as a new one. -/
theorem enrollIrk_unknown (unspelled : ∀ entry ∈ config.devices,
      entry.irkBase64 ≠ some (crates.base64Encode irk.toList)) (name : Option Text) :
    EnrollsOnce crates toml irk profile name source config ↔
      ∀ entry ∈ config.devices, entry.storedIrk crates ≠ some irk := by
  have unfound : idForIrk config.devices (crates.base64Encode irk.toList) = none := by
    cases found : idForIrk config.devices (crates.base64Encode irk.toList) with
    | none => rfl
    | some id =>
        obtain ⟨entry, member, _, encoded⟩ := idForIrk_eq_some found
        exact absurd encoded (unspelled entry member)
  have fresh : deriveId config.devices name none ∉ config.devices.map DeviceEntry.id := by
    rcases deriveId_cases config.devices name none with free | ⟨_, _, _, _, _, none_given, _⟩
    · exact free
    · cases none_given
  obtain ⟨only, enough⟩ := lists.add_unknown toml_lawful lawful known fresh
  constructor
  · rintro ⟨id, after, config', ran, _, _⟩
    rw [enrollIrk_eq_ok_iff lists.read, unfound, Option.getD_none] at ran
    obtain ⟨rfl, added⟩ := ran
    exact only after added
  · intro unheld
    obtain ⟨after, added, left⟩ := enough unheld
    refine ⟨_, after, _, ?_, left, fun entry member stored => absurd stored (unheld entry member),
      fun _ => ⟨fresh, _, rfl, storedIrk_of_encoded lawful rfl, rfl⟩⟩
    rw [enrollIrk_eq_ok_iff lists.read, unfound, Option.getD_none]
    exact ⟨rfl, added⟩

end Lists

/-- A key is enrolled once, with or without an entry that has it, exactly when such an entry spells
the key as the encoder does and keeps a window that two samples fit. -/
theorem enrollsOnce_iff (toml_lawful : toml.Lawful) (lawful : crates.LawfulBase64)
    (lists : Lists crates toml source config)
    (known : ∃ built ∈ Profile.profiles, built.id = profile) (irk : Key) (name : Option Text) :
    EnrollsOnce crates toml irk profile name source config ↔
      ∀ entry ∈ config.devices, entry.storedIrk crates = some irk →
        entry.irkBase64 = some (crates.base64Encode irk.toList) ∧
          Policy.minSampleSpacingMs ≤
            entry.sampleWindowMs.getD Policy.default.sampleWindowMs := by
  by_cases spelled : ∃ entry ∈ config.devices,
      entry.irkBase64 = some (crates.base64Encode irk.toList)
  · obtain ⟨entry, member, encoded⟩ := spelled
    have stored := storedIrk_of_encoded lawful encoded
    rw [lists.enrollIrk_known toml_lawful lawful known member encoded name]
    constructor
    · intro fits other member' stored'
      rw [lists.safe.eq_of_storedIrk member' member stored' stored]
      exact ⟨encoded, fits⟩
    · exact fun fits => (fits entry member stored).2
  · have unspelled : ∀ entry ∈ config.devices,
        entry.irkBase64 ≠ some (crates.base64Encode irk.toList) :=
      fun entry member encoded => spelled ⟨entry, member, encoded⟩
    rw [lists.enrollIrk_unknown toml_lawful lawful known unspelled name]
    constructor
    · exact fun unheld entry member stored => absurd stored (unheld entry member)
    · exact fun fits entry member stored =>
        unspelled entry member (fits entry member stored).1

end Enroll

theorem lists_single {crates : Crates} {table : Table} {entry : DeviceEntry}
    (holds : DeviceEntry.Holds table entry) (safe : entry.Safe crates) :
    Lists crates Toml.ofDocuments (withDevices emptyDocument [table])
      ⟨currentSchema, none, none, [entry]⟩ := by
  have read : [table].mapM DeviceEntry.ofTable = some [entry] :=
    mapM_eq_some_iff.mpr (.cons (DeviceEntry.ofTable_eq_some_iff.mpr holds) .nil)
  have blank : ConfigFile.Holds emptyDocument ⟨currentSchema, none, none, []⟩ :=
    ConfigFile.ofDocument_eq_some_iff.mp rfl
  refine ⟨parse_render_of_holds Toml.ofDocuments_lawful (holds_withDevices blank read) rfl,
    (ConfigFile.exists_resolve_iff_safe crates _).mpr ?_, _, [table], rfl,
    Document.lookup_pruned_eq_some.mpr ⟨lookup_withDevices _ _, fun empty => nomatch empty⟩⟩
  refine ⟨by simp, List.nodup_singleton _, ?_, ?_, ?_, _, .unset, fun _ rule => nomatch rule⟩
  · intro other member
    rw [List.mem_singleton.mp member]
    exact safe
  · cases stored : entry.storedIrk crates <;> simp [stored]
  · cases stored : entry.storedAddress <;> simp [stored]

/-- The key of the watch as the encoder spells it, and with a blank in front of it. -/
def watchIrk : Text := "AAECAwQFBgcICQoLDA0ODw==".toList

/-- A key with a blank before it. -/
def paddedIrk : Text := " AAECAwQFBgcICQoLDA0ODw==".toList

/-- The watch under a text of its key, with samples and a window that were set by hand. -/
def watchEntry (irkBase64 : Text) (minimumSamples : UInt8) (windowMs : UInt64) : DeviceEntry :=
  replacedEntry AppleContinuity.id (irkCriteria irkBase64) ⟨none, some minimumSamples, none⟩
    watchName (some windowMs)

/-- The table of a watch. -/
def watchTable (irkBase64 : Text) (minimumSamples : UInt8) (windowMs : UInt64) : Table :=
  rewriteTable AppleContinuity.id (irkCriteria irkBase64) ⟨none, some minimumSamples, none⟩
    ((newTable watchName).insert ConfigKey.sampleWindowMs (.integer (i64OfU64 windowMs)))

/-- A file with the watch alone. -/
def watchDocument (irkBase64 : Text) (minimumSamples : UInt8) (windowMs : UInt64) : Document :=
  withDevices emptyDocument [watchTable irkBase64 minimumSamples windowMs]

/-- A configuration with the watch alone. -/
def watchConfig (irkBase64 : Text) (minimumSamples : UInt8) (windowMs : UInt64) : ConfigFile :=
  ⟨currentSchema, none, none, [watchEntry irkBase64 minimumSamples windowMs]⟩

theorem encode_watchKey : base64Crates.base64Encode watchKey.toList = watchIrk := by
  decide +kernel

theorem storedIrk_watchIrk (minimumSamples : UInt8) (windowMs : UInt64) :
    (watchEntry watchIrk minimumSamples windowMs).storedIrk base64Crates = some watchKey :=
  storedIrk_of_encoded base64Crates_lawful (congrArg some encode_watchKey.symm)

theorem storedIrk_paddedIrk (minimumSamples : UInt8) (windowMs : UInt64) :
    (watchEntry paddedIrk minimumSamples windowMs).storedIrk base64Crates = some watchKey := by
  have trimmed : paddedIrk.trim = watchIrk.trim := by decide +kernel
  rw [← storedIrk_watchIrk minimumSamples windowMs]
  change (base64Crates.base64Decode paddedIrk.trim).bind keyOfBytes =
    (base64Crates.base64Decode watchIrk.trim).bind keyOfBytes
  rw [trimmed]

theorem known_apple : ∃ built ∈ Profile.profiles, built.id = AppleContinuity.id := by
  decide

/-- A file with the watch alone resolves when its key is stored and its samples fit its window. -/
theorem lists_watch {irkBase64 : Text} {minimumSamples : UInt8} {windowMs : UInt64}
    (stored : (watchEntry irkBase64 minimumSamples windowMs).storedIrk base64Crates = some watchKey)
    (holds : DeviceEntry.Holds (watchTable irkBase64 minimumSamples windowMs)
      (watchEntry irkBase64 minimumSamples windowMs))
    (valid : (watchEntry irkBase64 minimumSamples windowMs).validatePolicy
      (watchEntry irkBase64 minimumSamples windowMs).requestedPolicy = .ok ()) :
    Lists base64Crates Toml.ofDocuments (watchDocument irkBase64 minimumSamples windowMs)
      (watchConfig irkBase64 minimumSamples windowMs) := by
  refine lists_single holds ⟨known_apple, .inl (Option.some_ne_none _), ?_,
    fun text given => absurd given (Option.not_mem_none text),
    fun text given => absurd given (Option.not_mem_none text),
    fun affix given => absurd given (Option.not_mem_none affix),
    (DeviceEntry.validatePolicy_eq_ok_iff _ _).mp valid⟩
  rintro text ⟨⟩
  change (base64Crates.base64Decode irkBase64.trim).bind keyOfBytes = _ at stored
  obtain ⟨bytes, decoded, sized⟩ := Option.bind_eq_some_iff.mp stored
  exact ⟨bytes, decoded, length_of_keyOfBytes sized⟩

theorem lists_watchIrk : Lists base64Crates Toml.ofDocuments (watchDocument watchIrk 2 3000)
    (watchConfig watchIrk 2 3000) :=
  lists_watch (storedIrk_watchIrk 2 3000) (DeviceEntry.ofTable_eq_some_iff.mp rfl) rfl

theorem lists_paddedIrk : Lists base64Crates Toml.ofDocuments (watchDocument paddedIrk 2 3000)
    (watchConfig paddedIrk 2 3000) :=
  lists_watch (storedIrk_paddedIrk 2 3000) (DeviceEntry.ofTable_eq_some_iff.mp rfl) rfl

theorem lists_narrowWindow : Lists base64Crates Toml.ofDocuments (watchDocument watchIrk 1 40)
    (watchConfig watchIrk 1 40) :=
  lists_watch (storedIrk_watchIrk 1 40) (DeviceEntry.ofTable_eq_some_iff.mp rfl) rfl

/-- A blank in front of the stored key, or one sample in a window of forty milliseconds, and the
watch cannot be enrolled again. -/
theorem enrollsOnce_fails_padded_or_narrow :
    (Lists base64Crates Toml.ofDocuments (watchDocument paddedIrk 2 3000)
        (watchConfig paddedIrk 2 3000) ∧
      ¬ EnrollsOnce base64Crates Toml.ofDocuments watchKey AppleContinuity.id none
        (watchDocument paddedIrk 2 3000) (watchConfig paddedIrk 2 3000)) ∧
    Lists base64Crates Toml.ofDocuments (watchDocument watchIrk 1 40) (watchConfig watchIrk 1 40) ∧
      ¬ EnrollsOnce base64Crates Toml.ofDocuments watchKey AppleContinuity.id none
        (watchDocument watchIrk 1 40) (watchConfig watchIrk 1 40) := by
  refine ⟨⟨lists_paddedIrk, fun enrolled => ?_⟩, lists_narrowWindow, fun enrolled => ?_⟩
  · have unspelled : ∀ entry ∈ (watchConfig paddedIrk 2 3000).devices,
        entry.irkBase64 ≠ some (base64Crates.base64Encode watchKey.toList) := by
      intro entry member
      rw [List.mem_singleton.mp member, encode_watchKey]
      exact fun same => absurd (Option.some.inj same) (by decide)
    have unheld := (lists_paddedIrk.enrollIrk_unknown Toml.ofDocuments_lawful base64Crates_lawful
      known_apple unspelled none).mp enrolled
    exact unheld _ List.mem_cons_self (storedIrk_paddedIrk 2 3000)
  · have fits := (lists_narrowWindow.enrollIrk_known Toml.ofDocuments_lawful base64Crates_lawful
      known_apple List.mem_cons_self (congrArg some encode_watchKey.symm) none).mp enrolled
    exact absurd fits (by decide)

/-- A watch with a plain key and the default window is enrolled again. -/
theorem enrollsOnce_iff_plain_watch :
    EnrollsOnce base64Crates Toml.ofDocuments watchKey AppleContinuity.id none
      (watchDocument watchIrk 2 3000) (watchConfig watchIrk 2 3000) := by
  refine (enrollsOnce_iff Toml.ofDocuments_lawful base64Crates_lawful lists_watchIrk known_apple
    watchKey none).mpr ?_
  intro entry member _
  rw [List.mem_singleton.mp member]
  exact ⟨congrArg some encode_watchKey.symm, by decide⟩

end Cli
end PresenceUnlock
