import PresenceUnlock.Cli.Replacement

/-!
# Sequences of edits

Whatever edits succeed or fail, in any order, the file can be used: it resolves, or it has no
devices and a rule that one device would meet.
-/

namespace PresenceUnlock.Cli

open RustStd RustStd.Result Execution

/-- Pruning empty arrays is nothing the deserialiser would notice. -/
theorem holds_pruned {document : Document} {config : ConfigFile}
    (holds : ConfigFile.Holds document config) : ConfigFile.Holds document.pruned config := by
  have asValue_pruned : ∀ {key : Text} {value : Option Value},
      ConfigFile.asValue (document.lookup key) = some value →
      ConfigFile.asValue (document.pruned.lookup key) = some value := by
    intro key value read
    by_cases empty : document.lookup key = some (.arrayOfTables [])
    · rw [empty] at read
      cases read
    · rwa [Document.lookup_pruned empty]
  refine ⟨?_, ?_, ?_, ?_, ?_⟩
  · exact fun key member => holds.known (AList.mem_keys.mp
      (Document.mem_of_mem_pruned (AList.mem_keys.mpr member)))
  · obtain ⟨value, found, read⟩ := holds.schemaVersion
    exact ⟨value, asValue_pruned found, read⟩
  · obtain ⟨value, found, read⟩ := holds.adapter
    exact ⟨value, asValue_pruned found, read⟩
  · obtain ⟨value, found, read⟩ := holds.multiDeviceAuth
    exact ⟨value, asValue_pruned found, read⟩
  · by_cases empty : document.lookup ConfigKey.device = some (.arrayOfTables [])
    · rw [Document.lookup_pruned_of_empty empty]
      have read := holds.devices
      rw [empty] at read
      exact read
    · rw [Document.lookup_pruned empty]
      exact holds.devices

/-- A document with its device array replaced is the file with its devices replaced. -/
theorem holds_withDevices {document : Document} {config : ConfigFile}
    (holds : ConfigFile.Holds document config) {tables : List Table} {entries : List DeviceEntry}
    (read : tables.mapM DeviceEntry.ofTable = some entries) :
    ConfigFile.Holds (withDevices document tables) { config with devices := entries } where
  known := by
    intro key member
    rcases (AList.mem_insert document).mp (AList.mem_keys.mpr member) with rfl | kept
    · decide
    · exact holds.known (AList.mem_keys.mp kept)
  schemaVersion := by
    rw [lookup_withDevices_of_ne (by decide)]
    exact holds.schemaVersion
  adapter := by
    rw [lookup_withDevices_of_ne (by decide)]
    exact holds.adapter
  multiDeviceAuth := by
    rw [lookup_withDevices_of_ne (by decide)]
    exact holds.multiDeviceAuth
  devices := by
    rw [lookup_withDevices]
    exact read

/-- The file of a rendered document. -/
theorem parse_render_of_holds {Source : Type} {toml : Toml Source} (lawful : toml.Lawful)
    {document : Document} {config : ConfigFile} (holds : ConfigFile.Holds document config)
    (version : config.schemaVersion = currentSchema) :
    ConfigFile.parse toml (toml.render document) = .ok config :=
  ConfigFile.parse_eq_ok_iff.mpr
    ⟨document.pruned, lawful.parse_render document, holds_pruned holds, version⟩

section Text

variable {Source : Type} (crates : Crates) (toml : Toml Source)

/-- The file has no devices, and its rule is one that a single device would meet. -/
def Vacant (source : Source) : Prop :=
  ∃ config rule, ConfigFile.parse toml source = .ok config ∧ config.devices = [] ∧
    config.multiDeviceAuthRule = .ok rule ∧ rule.required 1 ≤ 1

/-- The file resolves. -/
def Resolves (source : Source) : Prop := ∃ settings, validate crates toml source = .ok settings

variable {crates toml}

/-- A missing file counts as a file without devices. -/
theorem vacant_emptyDocument (lawful : toml.Lawful) : Vacant toml (toml.render emptyDocument) := by
  have holds : ConfigFile.Holds emptyDocument ⟨currentSchema, none, none, []⟩ :=
    ConfigFile.ofDocument_eq_some_iff.mp rfl
  exact ⟨_, .any, parse_render_of_holds lawful holds rfl, rfl, rfl, by decide⟩

/-- A file that resolves has devices. -/
theorem devices_ne_nil_of_resolves {source : Source} {config : ConfigFile}
    (resolves : Resolves crates toml source) (parsed : ConfigFile.parse toml source = .ok config) :
    config.devices ≠ [] := by
  obtain ⟨settings, valid⟩ := resolves
  obtain ⟨config', parsed', accepted⟩ := validate_eq_ok_iff.mp valid
  cases parsed.symm.trans parsed'
  exact ((config.resolve_eq_ok_iff crates settings).mp accepted).1

end Text

/-- The last removal leaves a rule that one device meets: the file had exactly one device. -/
theorem vacant_of_removal {Source : Type} {toml : Toml Source} {crates : Crates}
    (lawful : toml.Lawful) {source : Source} (resolves : Resolves crates toml source)
    {document : Document} (parsed : toml.parse source = some document) {tables : List Table}
    (devices : deviceArray document = .ok tables) {id : Text}
    (all_named : ∀ table ∈ tables, hasId id table = true) :
    Vacant toml (toml.render (withDevices document [])) := by
  obtain ⟨settings, valid⟩ := resolves
  obtain ⟨config, holds, version, accepted⟩ := exists_config_of_validate valid parsed
  have same_id : ∀ entry ∈ config.devices, entry.id = id := by
    intro entry member
    obtain ⟨table, known, entry_holds⟩ :=
      exists_left_of_forall₂ (entries_of_deviceArray holds devices) member
    have read_id := entry_holds.id
    rw [of_decide_eq_true (all_named table known)] at read_id
    simpa [readString, eq_comm] using read_id
  obtain ⟨nonempty, lowered, apart, rule, enough, _⟩ :=
    (config.resolve_eq_ok_iff crates settings).mp accepted
  have single : config.devices.length = 1 := by
    cases entries : config.devices with
    | nil => exact (nonempty entries).elim
    | cons first rest =>
        rw [entries] at same_id apart
        cases rest with
        | nil => rfl
        | cons second rest =>
            have distinct := ((List.pairwise_cons.mp apart).1 second List.mem_cons_self).id
            have same : first.id = second.id :=
              (same_id first (by simp)).trans (same_id second (by simp)).symm
            exact (distinct same).elim
  rw [← lowered.length_eq, single] at enough
  have none_read : ([] : List Table).mapM DeviceEntry.ofTable = some [] := rfl
  have emptied := parse_render_of_holds lawful (holds_withDevices holds none_read) version
  exact ⟨_, _, emptied, rfl, rule, enough⟩

/-- The file resolves, or has no devices and a rule that a single device would meet. -/
def Usable {Source : Type} (crates : Crates) (toml : Toml Source) (source : Source) : Prop :=
  Resolves crates toml source ∨ Vacant toml source

variable {Source : Type} [DecidableEq Source] {crates : Crates} {toml : Toml Source}

theorem usable_remove (lawful : toml.Lawful) {id : Text} {store after : Option Source}
    (usable : Usable crates toml (contents toml store))
    (removed : remove crates toml id store = (.ok (), after)) :
    Usable crates toml (contents toml after) := by
  obtain ⟨document, edited, parsed, applied, written, _⟩ := updateConfig_eq_ok removed
  rw [written]
  unfold applyRemoval at applied
  split at applied
  · cases applied
  obtain ⟨tables, devices, applied⟩ := bind_eq_ok.mp applied
  dsimp only at applied
  split at applied
  · cases applied
  rename_i removes
  split at applied
  · obtain ⟨settings, valid, same⟩ := bind_eq_ok.mp applied
    obtain rfl := pure_eq_ok.mp same
    exact .inl ⟨settings, valid⟩
  · rename_i emptied
    obtain rfl := pure_eq_ok.mp applied
    have none_kept := not_not.mp emptied
    rw [none_kept]
    rcases usable with resolves | ⟨config, rule, read, vacant, _⟩
    · have all_named : ∀ table ∈ tables, hasId id table = true := by
        intro table member
        simpa using List.filter_eq_nil_iff.mp none_kept table member
      exact .inr (vacant_of_removal lawful resolves parsed devices all_named)
    · -- A file without devices has no table that a removal could find.
      obtain ⟨document', parsed', holds, _⟩ := ConfigFile.parse_eq_ok_iff.mp read
      cases parsed.symm.trans parsed'
      have entries := entries_of_deviceArray holds devices
      rw [vacant] at entries
      obtain rfl := List.forall₂_nil_right_iff.mp entries
      exact (removes rfl).elim

/-- A device field without devices is one that the CLI can extend. -/
theorem deviceArray_of_readDevices {document : Document}
    (read : ConfigFile.readDevices (document.lookup ConfigKey.device) = some []) :
    deviceArray document = .ok [] := by
  have no_tables : ∀ {tables : List Table}, tables.mapM DeviceEntry.ofTable = some [] →
      tables = [] := fun read => List.forall₂_nil_right_iff.mp (mapM_eq_some_iff.mp read)
  rw [deviceArray_eq_ok_iff]
  cases found : document.lookup ConfigKey.device with
  | none => exact .inl ⟨rfl, .inl rfl⟩
  | some item =>
      rw [found] at read
      cases item with
      | value value => cases read
      | inlineTables tables => exact .inl ⟨rfl, .inr (by rw [no_tables read])⟩
      | arrayOfTables tables => exact .inr (by rw [no_tables read])

/-- Criteria that resolve have passed the check that comes before any edit. -/
theorem validate_criteria_of_resolve {id profile : Text} {criteria : Criteria}
    {overrides : Overrides} {spec : DeviceSpec}
    (resolved : (replacedEntry profile criteria overrides id none).resolve crates = .ok spec) :
    criteria.validate crates = .ok () := by
  obtain ⟨_, identity, _⟩ := (DeviceEntry.resolve_eq_ok_iff crates _ _).mp resolved
  obtain ⟨readable, lowered, nonempty⟩ := (DeviceEntry.identity_eq_ok_iff crates _ _).mp identity
  have criterion : ¬ criteria.isEmpty = true := by
    intro empty
    simp only [Criteria.isEmpty, Bool.and_eq_true, Option.isNone_iff_eq_none] at empty
    obtain ⟨⟨⟨no_irk, no_address⟩, no_uuid⟩, no_name⟩ := empty
    rw [lowered] at nonempty
    simp [Identity.isEmpty, DeviceEntry.lowered, DeviceEntry.identityKey, replacedEntry, no_irk,
      no_address, no_uuid, no_name] at nonempty
  rw [Criteria.validate, if_neg criterion]
  simp only [bind_eq_ok]
  refine ⟨(), checkGiven_eq_ok.mpr fun irk given => ?_, (),
    checkGiven_eq_ok.mpr fun address given => ?_, checkGiven_eq_ok.mpr fun uuid given => ?_⟩
  · obtain ⟨key, decoded⟩ := readable.irk irk given
    simp only [decodeIrk, bind_eq_ok, okOr_eq_ok] at decoded
    obtain ⟨raw, decoded, key', sized, _⟩ := decoded
    have length : raw.length = 16 := length_of_keyOfBytes sized
    simp only [bind_eq_ok, okOr_eq_ok]
    exact ⟨raw, decoded, if_neg (not_not.mpr length)⟩
  · obtain ⟨parsed, read⟩ := readable.address address given
    rw [read]
    rfl
  · obtain ⟨parsed, read⟩ := readable.serviceUuid uuid given
    rw [read]
    rfl

/-- Any device that resolves on its own can be added to a file without devices. -/
theorem add_of_vacant (lawful : toml.Lawful) {store : Option Source}
    (vacant : Vacant toml (contents toml store)) {id profile : Text} {criteria : Criteria}
    {overrides : Overrides} {spec : DeviceSpec}
    (resolved : (replacedEntry profile criteria overrides id none).resolve crates = .ok spec) :
    (add crates toml id profile criteria overrides store).1 = .ok () := by
  obtain ⟨config, rule, read, no_devices, rule_read, enough⟩ := vacant
  obtain ⟨document, parsed, holds, version⟩ := ConfigFile.parse_eq_ok_iff.mp read
  have devices : deviceArray document = .ok [] :=
    deviceArray_of_readDevices (no_devices ▸ holds.devices)
  have entry_read : [rewriteTable profile criteria overrides (newTable id)].mapM
      DeviceEntry.ofTable = some [replacedEntry profile criteria overrides id none] :=
    mapM_eq_some_iff.mpr (.cons (DeviceEntry.ofTable_eq_some_iff.mpr
      (holds_newTable profile criteria overrides id)) .nil)
  have edited := parse_render_of_holds lawful (holds_withDevices holds entry_read) version
  have accepted : ({ config with devices := [replacedEntry profile criteria overrides id none] } :
      ConfigFile).resolve crates = .ok ⟨config.adapter, rule, [spec]⟩ := by
    refine (ConfigFile.resolve_eq_ok_iff crates _ _).mpr ⟨by simp, .cons resolved .nil, ?_⟩
    exact ⟨List.pairwise_singleton _ _, rule_read, enough, rfl⟩
  have applied : applyDevice crates id profile criteria overrides document =
      .ok (withDevices document [rewriteTable profile criteria overrides (newTable id)]) := by
    rw [applyDevice, validate_criteria_of_resolve resolved, devices]
    rfl
  obtain ⟨after, updated, _⟩ := updateConfig_of_edit parsed applied
    (validate_eq_ok_iff.mpr ⟨_, edited, accepted⟩)
  rw [add, updated]

/-- A call of the CLI that edits the file. -/
inductive Edit
  | add (id profile : Text) (criteria : Criteria) (overrides : Overrides)
  | setThreshold (id : Text) (thresholdDbm : Int16)
  | setMultiDeviceAuth (expression : Text)
  | remove (id : Text)

variable (crates toml) in

/-- The command. -/
def Edit.apply : Edit → Option Source → Except EditError Unit × Option Source
  | .add id profile criteria overrides => Cli.add crates toml id profile criteria overrides
  | .setThreshold id thresholdDbm => Cli.setThreshold crates toml id thresholdDbm
  | .setMultiDeviceAuth expression => Cli.setMultiDeviceAuth crates toml expression
  | .remove id => Cli.remove crates toml id

variable (crates toml) in
/-- The file that a call leaves behind. -/
def edited (store : Option Source) (edit : Edit) : Option Source :=
  (edit.apply crates toml store).2

/-- A call that fails leaves the file as it was. -/
theorem edited_of_error {store : Option Source} {edit : Edit} {error : EditError}
    (failed : (edit.apply crates toml store).1 = .error error) :
    edited crates toml store edit = store := by
  cases edit <;> exact updateAtomic_of_error failed

/-- An edit that is validated before it is written leaves a file that resolves. -/
theorem usable_updateConfig {edit : Document → Except EditError Document}
    {store after : Option Source}
    (updated : updateConfig crates toml false edit store = (.ok (), after)) :
    Usable crates toml (contents toml after) := by
  obtain ⟨_, _, _, _, written, valid⟩ := updateConfig_eq_ok updated
  rw [written]
  exact .inl (valid rfl)

/-- The step: every call keeps the file usable. -/
theorem usable_edited (lawful : toml.Lawful) {store : Option Source}
    (usable : Usable crates toml (contents toml store)) (edit : Edit) :
    Usable crates toml (contents toml (edited crates toml store edit)) := by
  cases result : (edit.apply crates toml store).1 with
  | error error => rwa [edited_of_error result]
  | ok =>
      have applied : edit.apply crates toml store = (.ok (), edited crates toml store edit) :=
        Prod.ext result rfl
      cases edit with
      | add | setThreshold | setMultiDeviceAuth => exact usable_updateConfig applied
      | remove id => exact usable_remove lawful usable applied

/-- The run: every sequence of calls keeps the file usable. -/
theorem usable_run (lawful : toml.Lawful) {store : Option Source}
    (usable : Usable crates toml (contents toml store)) (edits : List Edit) :
    Usable crates toml (contents toml (run (edited crates toml) store edits)) :=
  run_invariant (fun store => Usable crates toml (contents toml store))
    (fun _ edit holds => usable_edited lawful holds edit) usable edits

/-- The file is missing, or resolves. -/
def Fresh (crates : Crates) (toml : Toml Source) (store : Option Source) : Prop :=
  ∀ source ∈ store, ∃ config settings, ConfigFile.parse toml source = .ok config ∧
    config.resolve crates = .ok settings

omit [DecidableEq Source] in
theorem usable_of_fresh (lawful : toml.Lawful) {store : Option Source}
    (fresh : Fresh crates toml store) : Usable crates toml (contents toml store) := by
  cases store with
  | none => exact .inr (vacant_emptyDocument lawful)
  | some source =>
      obtain ⟨config, settings, parsed, accepted⟩ := fresh source rfl
      exact .inl ⟨settings, validate_eq_ok_iff.mpr ⟨config, parsed, accepted⟩⟩

/-- What a user can rely on: the file is missing, resolves, or has no devices; a call that fails
changes nothing; and without devices, the rule is one that a single device meets, so that every
device that resolves on its own can be added. -/
structure Serviceable (crates : Crates) (toml : Toml Source) (store : Option Source) : Prop where
  /-- The daemon can load it, or it lists no devices. -/
  readable : ∀ source ∈ store, ∃ config, ConfigFile.parse toml source = .ok config ∧
    (config.devices = [] ∨ ∃ settings, config.resolve crates = .ok settings)
  /-- A command that fails leaves it alone. -/
  unchanged : ∀ (edit : Edit) (error : EditError), (edit.apply crates toml store).1 = .error error →
    (edit.apply crates toml store).2 = store
  /-- If it lists no devices, its rule is one that a single device meets. -/
  rule : ∀ config, ConfigFile.parse toml (contents toml store) = .ok config → config.devices = [] →
    ∃ rule, config.multiDeviceAuthRule = .ok rule ∧ rule.required 1 ≤ 1
  /-- If it lists no devices, any device that resolves can be added. -/
  enrollable : ∀ config, ConfigFile.parse toml (contents toml store) = .ok config →
    config.devices = [] → ∀ id profile criteria overrides spec,
      (replacedEntry profile criteria overrides id none).resolve crates = .ok spec →
      (add crates toml id profile criteria overrides store).1 = .ok ()

theorem serviceable_of_usable (lawful : toml.Lawful) {store : Option Source}
    (usable : Usable crates toml (contents toml store)) : Serviceable crates toml store := by
  have vacant : ∀ config, ConfigFile.parse toml (contents toml store) = .ok config →
      config.devices = [] → Vacant toml (contents toml store) := fun config parsed no_devices =>
    usable.resolve_left fun resolves => devices_ne_nil_of_resolves resolves parsed no_devices
  refine ⟨?_, fun edit error failed => edited_of_error failed, ?_, ?_⟩
  · intro source present
    rw [Option.mem_def.mp present] at usable
    rcases usable with ⟨settings, valid⟩ | ⟨config, _, parsed, no_devices, _⟩
    · obtain ⟨config, parsed, accepted⟩ := validate_eq_ok_iff.mp valid
      exact ⟨config, parsed, .inr ⟨settings, accepted⟩⟩
    · exact ⟨config, parsed, .inl no_devices⟩
  · intro config parsed no_devices
    obtain ⟨config', rule, parsed', _, rule_read, enough⟩ := vacant config parsed no_devices
    cases parsed.symm.trans parsed'
    exact ⟨rule, rule_read, enough⟩
  · intro config parsed no_devices id profile criteria overrides spec resolved
    exact add_of_vacant lawful (vacant config parsed no_devices) resolved

/-- A missing file, or one that resolves, is serviceable after every sequence of calls. -/
theorem edits_keep_serviceable (lawful : toml.Lawful) {start : Option Source}
    (fresh : Fresh crates toml start) (edits : List Edit) :
    Serviceable crates toml (run (edited crates toml) start edits) :=
  serviceable_of_usable lawful (usable_run lawful (usable_of_fresh lawful fresh) edits)

/-- A phone is enrolled in a missing file, all devices are required, and the phone is removed. -/
theorem edits_keep_serviceable_enroll_and_remove :
    Serviceable ConfigFile.plainCrates Toml.ofDocuments
      (run (edited ConfigFile.plainCrates Toml.ofDocuments) none
        [.add phone ProximityOnly.id phoneByName ⟨none, none, none⟩,
          .setMultiDeviceAuth "all".toList, .remove phone]) :=
  edits_keep_serviceable Toml.ofDocuments_lawful (fun _ missing => by cases missing) _

end PresenceUnlock.Cli
