import PresenceUnlock.Cli.Document
import PresenceUnlock.Execution

/-!
# Edits of the configuration file

Enrollment, sensitivity, the multi-device rule and removal, each an edit of the document that is
validated before it can replace the file.
-/

namespace PresenceUnlock.Cli

open RustStd RustStd.Result Execution

/-- The identity criteria a device may be enrolled with. -/
structure Criteria where
  /-- The identity key, in base64. -/
  irkBase64 : Option Text
  /-- The address. -/
  address : Option Text
  /-- The service. -/
  serviceUuid : Option Text
  /-- How the name begins. -/
  namePrefix : Option Text

/-- The policy values that an enrollment may set. -/
structure Overrides where
  /-- The threshold. -/
  thresholdDbm : Option Int16
  /-- The samples. -/
  minimumSamples : Option UInt8
  /-- The freshness. -/
  freshnessMs : Option UInt64

/-- Why a command fails. -/
inductive EditError
  | notToml
  | criteria (message : Text)
  | wrongDeviceShape
  | noSuchDevice (id : Text)
  | unusable (error : ConfigError)
  deriving DecidableEq, Repr

/-- Apply a test to a field that is given. -/
def checkGiven {ε α : Type} (field : Option α) (test : α → Except ε Unit) : Except ε Unit :=
  match field with
  | none => .ok ()
  | some given => test given

theorem checkGiven_eq_ok {ε α : Type} {field : Option α} {test : α → Except ε Unit} :
    checkGiven field test = .ok () ↔ ∀ given ∈ field, test given = .ok () := by
  cases field <;> simp [checkGiven]

namespace Criteria

/-- No criterion is given. -/
def isEmpty (criteria : Criteria) : Bool :=
  criteria.irkBase64.isNone && criteria.address.isNone && criteria.serviceUuid.isNone &&
    criteria.namePrefix.isNone

/-- What is said of a device without criteria. -/
def noCriterion : Text :=
  "a device needs at least one of --irk, --address, --service-uuid, or --name-prefix".toList
def irkNotBase64 : Text := "IRK is not valid base64".toList
def irkNotKey : Text := "IRK must decode to exactly 16 bytes".toList

/-- What is said of a UUID that cannot be read. -/
def invalidServiceUuid (uuid : Text) : Text := "invalid service UUID: ".toList ++ uuid

/-- Reject unusable criteria before anything is written. -/
def validate (crates : Crates) (criteria : Criteria) : Except Text Unit :=
  if criteria.isEmpty then
    .error noCriterion
  else do
    checkGiven criteria.irkBase64 fun irk => do
      let raw ← okOr (crates.base64Decode irk.trim) irkNotBase64
      if raw.length ≠ 16 then .error irkNotKey else .ok ()
    checkGiven criteria.address fun address =>
      (okOr (parseAddress address) addressParseError).map fun _ => ()
    checkGiven criteria.serviceUuid fun uuid =>
      (okOr (crates.parseUuid uuid) (invalidServiceUuid uuid)).map fun _ => ()

/-- The keys and values of the given criteria. -/
def fields (criteria : Criteria) : List (Text × Option Value) :=
  [(ConfigKey.irkBase64, criteria.irkBase64.map .string),
    (ConfigKey.address, criteria.address.map .string),
    (ConfigKey.serviceUuid, criteria.serviceUuid.map .string),
    (ConfigKey.namePrefix, criteria.namePrefix.map .string)]

end Criteria

/-- The values, under their keys. -/
def Overrides.fields (overrides : Overrides) : List (Text × Option Value) :=
  [(ConfigKey.thresholdDbm, overrides.thresholdDbm.map fun dbm => .integer dbm.toInt64),
    (ConfigKey.minimumSamples, overrides.minimumSamples.map fun n => .integer (i64OfU8 n)),
    (ConfigKey.freshnessMs, overrides.freshnessMs.map fun ms => .integer (i64OfU64 ms))]

/-- The criteria keys that an update clears. -/
def criteriaKeys : List Text :=
  [ConfigKey.irkBase64, ConfigKey.address, ConfigKey.serviceUuid, ConfigKey.namePrefix]

/-- The policy keys that an update clears. -/
def policyKeys : List Text :=
  [ConfigKey.thresholdDbm, ConfigKey.minimumSamples, ConfigKey.freshnessMs]

/-- A key that enrollment removes. -/
def kindKey : Text := "kind".toList

/-- The document of a first enrollment. -/
def emptyDocument : Document :=
  AList.singleton ConfigKey.schemaVersion (.value (.integer (i64OfU8 currentSchema)))

/-- The tables of the `device` array, to be written back as `[[device]]` tables; an absent key and
an empty inline array count as an empty one. -/
def deviceArray (document : Document) : Except EditError (List Table) :=
  match document.lookup ConfigKey.device with
  | none => .ok []
  | some (.inlineTables []) => .ok []
  | some (.arrayOfTables tables) => .ok tables
  | some _ => .error .wrongDeviceShape

/-- Replace the device array. -/
def withDevices (document : Document) (tables : List Table) : Document :=
  document.insert ConfigKey.device (.arrayOfTables tables)

/-- Whether this is the table of the device `id`. -/
def hasId (id : Text) (table : Table) : Bool := table.lookup ConfigKey.id = some (.string id)

/-- The table of a device that is not there yet. -/
def newTable (id : Text) : Table := AList.singleton ConfigKey.id (.string id)

/-- Edit the first table with this id, appending one if absent. -/
def upsert (id : Text) (edit : Table → Table) (tables : List Table) : List Table :=
  match tables.findIdx? (hasId id) with
  | some index => tables.modify index edit
  | none => tables ++ [edit (newTable id)]

/-- Write a value if it is given. -/
def assignField (table : Table) (field : Text × Option Value) : Table :=
  match field.2 with
  | some new => table.insert field.1 new
  | none => table

/-- Set or remove every field. -/
def assign (table : Table) (fields : List (Text × Option Value)) : Table :=
  fields.foldl assignField table

/-- Remove keys. -/
def clear (table : Table) (keys : List Text) : Table :=
  keys.foldl (fun table key => table.erase key) table

/-- The replacement of one device table. -/
def rewriteTable (profile : Text) (criteria : Criteria) (overrides : Overrides) (table : Table) :
    Table :=
  let table := table.insert ConfigKey.profile (.string profile)
  let table := table.erase kindKey
  let table := clear table (criteriaKeys ++ policyKeys)
  let table := assign table criteria.fields
  assign table overrides.fields

/-- Write one device as a replacement of any table already carrying `id`. -/
def applyDevice (crates : Crates) (id profile : Text) (criteria : Criteria)
    (overrides : Overrides) (document : Document) : Except EditError Document := do
  (criteria.validate crates).mapError .criteria
  let tables ← deviceArray document
  return withDevices document (upsert id (rewriteTable profile criteria overrides) tables)

/-- Set the threshold of the first table of an id. -/
def applyThreshold (id : Text) (thresholdDbm : Int16) (document : Document) :
    Except EditError Document := do
  let tables ← deviceArray document
  match tables.findIdx? (hasId id) with
  | none => .error (.noSuchDevice id)
  | some index =>
      .ok (withDevices document (tables.modify index fun table =>
        table.insert ConfigKey.thresholdDbm (.integer thresholdDbm.toInt64)))

/-- Set the multi-device rule. -/
def applyRule (expression : Text) (document : Document) : Except EditError Document :=
  .ok (document.insert ConfigKey.multiDeviceAuth (.value (.string expression)))

section Text

variable {Source : Type} (crates : Crates) (toml : Toml Source)

/-- Refuse a text that would not resolve. -/
def validate (source : Source) : Except EditError Settings :=
  (ConfigFile.parse toml source >>= fun config => config.resolve crates).mapError .unusable

/-- What the CLI takes for the text of the file. -/
def contents (store : Option Source) : Source := store.getD (toml.render emptyDocument)

/-- Remove a table; only a file that keeps devices is validated. -/
def applyRemoval (id : Text) (document : Document) : Except EditError Document :=
  if document.lookup ConfigKey.device = none then
    .error (.noSuchDevice id)
  else do
    let tables ← deviceArray document
    let kept := tables.filter fun table => !hasId id table
    if kept.length = tables.length then
      .error (.noSuchDevice id)
    else
      let document := withDevices document kept
      if kept ≠ [] then
        let _ ← validate crates toml (toml.render document)
        return document
      else
        return document

variable {crates toml}

theorem mapError_eq_ok {ε ε' α : Type} {f : ε → ε'} {result : Except ε α} {value : α} :
    result.mapError f = .ok value ↔ result = .ok value := by
  cases result <;> simp [Except.mapError]

theorem validate_eq_ok_iff {source : Source} {settings : Settings} :
    validate crates toml source = .ok settings ↔
      ∃ config, ConfigFile.parse toml source = .ok config ∧
        config.resolve crates = .ok settings := by
  rw [validate, mapError_eq_ok, bind_eq_ok]

/-- The file that a validated text was read into. -/
theorem exists_config_of_validate {source : Source} {document : Document} {settings : Settings}
    (valid : validate crates toml source = .ok settings)
    (parsed : toml.parse source = some document) :
    ∃ config, ConfigFile.Holds document config ∧ config.schemaVersion = currentSchema ∧
      config.resolve crates = .ok settings := by
  obtain ⟨config, read, accepted⟩ := validate_eq_ok_iff.mp valid
  obtain ⟨document', parsed', holds, version⟩ := ConfigFile.parse_eq_ok_iff.mp read
  cases parsed.symm.trans parsed'
  exact ⟨config, holds, version, accepted⟩

end Text

variable {Source : Type} [DecidableEq Source]

/-- Replace a file by its rendering, which sees a missing file as `missing`; the result comes with
the file left behind. -/
def updateAtomic (missing : Source) (render : Source → Except EditError Source)
    (store : Option Source) : Except EditError Unit × Option Source :=
  let source := store.getD missing
  match render source with
  | .error error => (.error error, store)
  | .ok rendered => (.ok (), if rendered ≠ source then some rendered else store)

variable (crates : Crates) (toml : Toml Source)

/-- Edit the document and, unless the result may be empty, validate it before it is written. -/
def updateConfig (allowEmpty : Bool) (edit : Document → Except EditError Document)
    (store : Option Source) : Except EditError Unit × Option Source :=
  updateAtomic (toml.render emptyDocument)
    (fun source => do
      let document ← okOr (toml.parse source) .notToml
      let document ← edit document
      let text := toml.render document
      if !allowEmpty then
        let _ ← validate crates toml text
        return text
      else
        return text)
    store

/-- Enroll a device, in place of what had its id. -/
def add (id profile : Text) (criteria : Criteria) (overrides : Overrides) :
    Option Source → Except EditError Unit × Option Source :=
  updateConfig crates toml false (applyDevice crates id profile criteria overrides)

/-- Set the threshold of a device. -/
def setThreshold (id : Text) (thresholdDbm : Int16) :
    Option Source → Except EditError Unit × Option Source :=
  updateConfig crates toml false (applyThreshold id thresholdDbm)

/-- Remove a device; the file may be left without devices. -/
def remove (id : Text) : Option Source → Except EditError Unit × Option Source :=
  updateConfig crates toml true (applyRemoval crates toml id)

/-- Set the multi-device rule. -/
def setMultiDeviceAuth (expression : Text) :
    Option Source → Except EditError Unit × Option Source :=
  updateConfig crates toml false (applyRule expression)

variable {crates : Crates} {toml : Toml Source}

theorem updateAtomic_of_render {missing : Source} {render : Source → Except EditError Source}
    {store : Option Source} {rendered : Source}
    (written : render (store.getD missing) = .ok rendered) :
    ∃ after, updateAtomic missing render store = (.ok (), after) ∧
      after.getD missing = rendered := by
  rw [updateAtomic, written]
  refine ⟨_, rfl, ?_⟩
  split
  · rfl
  · rename_i same
    rw [not_not.mp same]

theorem updateAtomic_eq_ok {missing : Source} {render : Source → Except EditError Source}
    {store after : Option Source}
    (updated : updateAtomic missing render store = (.ok (), after)) :
    render (store.getD missing) = .ok (after.getD missing) := by
  cases written : render (store.getD missing) with
  | error error =>
      rw [updateAtomic, written] at updated
      cases updated
  | ok rendered =>
      obtain ⟨after', updated', rfl⟩ := updateAtomic_of_render written
      rw [updated'] at updated
      cases updated
      rfl

/-- A failed update leaves the file alone. -/
theorem updateAtomic_of_error {missing : Source} {render : Source → Except EditError Source}
    {store : Option Source} {error : EditError}
    (failed : (updateAtomic missing render store).1 = .error error) :
    (updateAtomic missing render store).2 = store := by
  cases written : render (store.getD missing) with
  | error _ => rw [updateAtomic, written]
  | ok rendered =>
      obtain ⟨after, updated, _⟩ := updateAtomic_of_render written
      rw [updated] at failed
      cases failed

/-- An accepted edit leaves the rendering of the edited document. -/
theorem updateConfig_eq_ok {allowEmpty : Bool} {edit : Document → Except EditError Document}
    {store after : Option Source}
    (updated : updateConfig crates toml allowEmpty edit store = (.ok (), after)) :
    ∃ document edited, toml.parse (contents toml store) = some document ∧
      edit document = .ok edited ∧ contents toml after = toml.render edited ∧
      (allowEmpty = false →
        ∃ settings, validate crates toml (toml.render edited) = .ok settings) := by
  have rendered := updateAtomic_eq_ok updated
  simp only [bind_eq_ok, okOr_eq_ok] at rendered
  obtain ⟨document, parsed, edited, applied, finished⟩ := rendered
  refine ⟨document, edited, parsed, applied, ?_⟩
  cases allowEmpty with
  | true =>
      simp only [Bool.not_true, Bool.false_eq_true, if_false, pure_eq_ok] at finished
      exact ⟨finished.symm, fun impossible => by cases impossible⟩
  | false =>
      simp only [Bool.not_false, if_true, bind_eq_ok, pure_eq_ok] at finished
      obtain ⟨settings, valid, same⟩ := finished
      exact ⟨same.symm, fun _ => ⟨settings, valid⟩⟩

/-- An edit whose result resolves is accepted. -/
theorem updateConfig_of_edit {edit : Document → Except EditError Document} {store : Option Source}
    {document edited : Document} (parsed : toml.parse (contents toml store) = some document)
    (applied : edit document = .ok edited) {settings : Settings}
    (valid : validate crates toml (toml.render edited) = .ok settings) :
    ∃ after, updateConfig crates toml false edit store = (.ok (), after) ∧
      contents toml after = toml.render edited := by
  refine updateAtomic_of_render ?_
  simp only [bind_eq_ok, okOr_eq_ok]
  refine ⟨document, parsed, edited, applied, ?_⟩
  simp only [Bool.not_false, if_true, bind_eq_ok]
  exact ⟨settings, valid, rfl⟩

theorem add_eq_ok {id profile : Text} {criteria : Criteria} {overrides : Overrides}
    {store after : Option Source}
    (added : add crates toml id profile criteria overrides store = (.ok (), after)) :
    ∃ document tables, toml.parse (contents toml store) = some document ∧
      deviceArray document = .ok tables ∧
      contents toml after = toml.render
        (withDevices document (upsert id (rewriteTable profile criteria overrides) tables)) ∧
      ∃ settings, validate crates toml (contents toml after) = .ok settings := by
  obtain ⟨document, edited, parsed, applied, written, valid⟩ := updateConfig_eq_ok added
  simp only [applyDevice, bind_eq_ok, pure_eq_ok] at applied
  obtain ⟨_, _, tables, devices, rfl⟩ := applied
  exact ⟨document, tables, parsed, devices, written, written ▸ valid rfl⟩

@[simp] theorem lookup_withDevices (document : Document) (tables : List Table) :
    (withDevices document tables).lookup ConfigKey.device = some (.arrayOfTables tables) :=
  AList.lookup_insert document

theorem lookup_withDevices_of_ne {document : Document} {tables : List Table} {key : Text}
    (other : key ≠ ConfigKey.device) :
    (withDevices document tables).lookup key = document.lookup key :=
  AList.lookup_insert_ne other

theorem full_withDevices {document : Document} (full : document.Full)
    {tables : List Table} (nonempty : tables ≠ []) : (withDevices document tables).Full := by
  intro key
  by_cases devices : key = ConfigKey.device
  · subst devices
    rw [lookup_withDevices]
    intro empty
    cases empty
    exact nonempty rfl
  · rw [lookup_withDevices_of_ne devices]
    exact full key

/-- The array is there as tables, or there is none. -/
theorem deviceArray_eq_ok_iff {document : Document} {tables : List Table} :
    deviceArray document = .ok tables ↔
      (tables = [] ∧ (document.lookup ConfigKey.device = none ∨
        document.lookup ConfigKey.device = some (.inlineTables []))) ∨
      document.lookup ConfigKey.device = some (.arrayOfTables tables) := by
  unfold deviceArray
  cases document.lookup ConfigKey.device with
  | none => simp [eq_comm]
  | some item =>
      cases item with
      | value value => simp
      | inlineTables inline => cases inline <;> simp [eq_comm]
      | arrayOfTables array => simp

theorem deviceArray_withDevices (document : Document) (tables : List Table) :
    deviceArray (withDevices document tables) = .ok tables :=
  deviceArray_eq_ok_iff.mpr (.inr (lookup_withDevices document tables))

/-- The tables of the array are what the deserialiser reads. -/
theorem entries_of_deviceArray {document : Document} {config : ConfigFile} {tables : List Table}
    (holds : ConfigFile.Holds document config) (devices : deviceArray document = .ok tables) :
    List.Forall₂ DeviceEntry.Holds tables config.devices := by
  have read : tables.mapM DeviceEntry.ofTable = some config.devices := by
    rw [← holds.devices]
    rcases deviceArray_eq_ok_iff.mp devices with ⟨rfl, absent | inline⟩ | found
    · rw [absent]
      rfl
    · rw [inline]
      rfl
    · rw [found]
      rfl
  exact (mapM_eq_some_iff.mp read).imp fun _ _ => DeviceEntry.ofTable_eq_some_iff.mp

end PresenceUnlock.Cli
