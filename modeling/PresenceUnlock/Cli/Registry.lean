import PresenceUnlock.Cli.Edits
import PresenceUnlock.KeyedList

/-!
# The registry behind the file

To the commands the configuration file is a list of named entries and a rule.  Each command does to
the text of the file what it says of the list, and is refused exactly when the list would not be
accepted.
-/

namespace PresenceUnlock.Cli

open RustStd RustStd.Result Execution

namespace Registry

/-- The registry of a file that is not there. -/
def empty : ConfigFile := ⟨currentSchema, none, none, []⟩

/-- Enrollment replaces the entry of the id, keeping its sample window, or adds one. -/
def enroll (id profile : Text) (criteria : Criteria) (overrides : Overrides) :
    List DeviceEntry → List DeviceEntry :=
  KeyedList.upsert DeviceEntry.id id
    (fun entry => replacedEntry profile criteria overrides entry.id entry.sampleWindowMs)
    (replacedEntry profile criteria overrides id none)

/-- A threshold is set in the first entry of the id. -/
def assignThreshold (id : Text) (thresholdDbm : Int16) :
    List DeviceEntry → Option (List DeviceEntry) :=
  KeyedList.editFirst (fun entry : DeviceEntry => entry.id = id)
    fun entry => { entry with thresholdDbm := some thresholdDbm }

/-- What a command would make of the registry, if there is anything for it to edit. -/
def applied : Edit → ConfigFile → Option ConfigFile
  | .add id profile criteria overrides, config =>
      some { config with devices := enroll id profile criteria overrides config.devices }
  | .setThreshold id thresholdDbm, config =>
      (assignThreshold id thresholdDbm config.devices).map fun devices => { config with devices }
  | .setMultiDeviceAuth expression, config =>
      some { config with multiDeviceAuth := some expression }
  | .remove id, config =>
      if (KeyedList.find DeviceEntry.id id config.devices).isNone then none
      else some { config with devices := KeyedList.remove DeviceEntry.id id config.devices }

variable (crates : Crates)

/-- A registry is accepted if it resolves; a removal may also leave it without devices. -/
def accepts : Edit → ConfigFile → Bool
  | .remove _, config => config.devices.isEmpty || (config.resolve crates).isOk
  | _, config => (config.resolve crates).isOk

/-- Whether a command succeeds. -/
def admits (config : ConfigFile) (edit : Edit) : Bool :=
  (applied edit config).any (accepts crates edit)

/-- A command that is refused changes nothing. -/
def step (config : ConfigFile) (edit : Edit) : ConfigFile :=
  ((applied edit config).filter (accepts crates edit)).getD config

/-- An enrollment changes what is found under its own id only. -/
theorem find_enroll (id profile : Text) (criteria : Criteria) (overrides : Overrides) (other : Text)
    (entries : List DeviceEntry) :
    KeyedList.find DeviceEntry.id other (enroll id profile criteria overrides entries) =
      if other = id then
        some (replacedEntry profile criteria overrides id
          ((KeyedList.find DeviceEntry.id id entries).bind DeviceEntry.sampleWindowMs))
      else KeyedList.find DeviceEntry.id other entries := by
  have upserted : KeyedList.find DeviceEntry.id other
      (enroll id profile criteria overrides entries) =
      if other = id then
        some (((KeyedList.find DeviceEntry.id id entries).map fun entry =>
          replacedEntry profile criteria overrides entry.id entry.sampleWindowMs).getD
            (replacedEntry profile criteria overrides id none))
      else KeyedList.find DeviceEntry.id other entries :=
    KeyedList.find_upsert (fun _ => rfl) rfl
  rw [upserted]
  split
  · cases found : KeyedList.find DeviceEntry.id id entries with
    | none => rfl
    | some entry =>
        have named : entry.id = id := by simpa using List.find?_some found
        rw [Option.map_some, Option.getD_some, named]
        rfl
  · rfl

theorem find_assignThreshold {id : Text} {thresholdDbm : Int16} {entries edited : List DeviceEntry}
    (done : assignThreshold id thresholdDbm entries = some edited) (other : Text) :
    KeyedList.find DeviceEntry.id other edited =
      if other = id then
        (KeyedList.find DeviceEntry.id id entries).map fun entry =>
          { entry with thresholdDbm := some thresholdDbm }
      else KeyedList.find DeviceEntry.id other entries := by
  rw [assignThreshold] at done
  exact KeyedList.find_editFirst (fun _ => rfl) done

variable {crates}

theorem admits_eq_false_iff {config : ConfigFile} {edit : Edit} :
    admits crates config edit = false ↔
      ∀ config', applied edit config = some config' → accepts crates edit config' = false :=
  Option.any_eq_false _ _

theorem step_of_refused {config : ConfigFile} {edit : Edit}
    (refused : admits crates config edit = false) : step crates config edit = config := by
  rw [step, Option.filter_eq_none_iff.mpr, Option.getD_none]
  exact fun config' applied => Bool.not_eq_true _ ▸ admits_eq_false_iff.mp refused config' applied

theorem step_of_accepted {config config' : ConfigFile} {edit : Edit}
    (applied : Registry.applied edit config = some config')
    (accepted : accepts crates edit config' = true) : step crates config edit = config' := by
  rw [step, applied, Option.filter_some_pos accepted, Option.getD_some]

end Registry

/-- A document whose device array the commands can edit. -/
structure Editable (document : Document) (config : ConfigFile) : Prop where
  /-- It holds exactly what the configuration says. -/
  holds : ConfigFile.Holds document config
  /-- Its schema is the current one. -/
  version : config.schemaVersion = currentSchema
  /-- Its devices are tables, if there are any. -/
  devices : ∃ tables, deviceArray document = .ok tables

/-- The file, which may be missing, is the text of this registry. -/
def Represents {Source : Type} (toml : Toml Source) (store : Option Source) (config : ConfigFile) :
    Prop :=
  ∃ document, toml.parse (contents toml store) = some document ∧ Editable document config

theorem editable_pruned {document : Document} {config : ConfigFile}
    (editable : Editable document config) : Editable document.pruned config := by
  obtain ⟨tables, devices⟩ := editable.devices
  refine ⟨holds_pruned editable.holds, editable.version, ?_⟩
  by_cases emptied : document.lookup ConfigKey.device = some (.arrayOfTables [])
  · refine ⟨[], deviceArray_eq_ok_iff.mpr (.inl ⟨rfl, .inl ?_⟩)⟩
    exact Document.lookup_pruned_of_empty emptied
  · refine ⟨tables, ?_⟩
    rw [deviceArray_eq_ok_iff] at devices ⊢
    rwa [Document.lookup_pruned emptied]

/-- A file that is not there is the empty registry. -/
theorem represents_none {Source : Type} {toml : Toml Source} (lawful : toml.Lawful) :
    Represents toml none Registry.empty := by
  refine ⟨_, lawful.parse_render emptyDocument, editable_pruned ⟨?_, rfl, [], rfl⟩⟩
  exact ConfigFile.ofDocument_eq_some_iff.mp rfl

/-- An entry and the table that it is read from have the same name. -/
theorem hasId_of_holds {table : Table} {entry : DeviceEntry} (holds : DeviceEntry.Holds table entry)
    (id : Text) : hasId id table = decide (entry.id = id) := by
  have read := holds.id
  rw [hasId]
  cases found : table.lookup ConfigKey.id with
  | none => rw [found] at read; cases read
  | some value =>
      rw [found] at read
      cases value with
      | string text =>
          cases read
          simp
      | _ => cases read

/-- The entries of edited tables are the edited entries. -/
theorem editable_withDevices {document : Document} {config : ConfigFile}
    (editable : Editable document config) {tables : List Table} {entries : List DeviceEntry}
    (read : List.Forall₂ DeviceEntry.Holds tables entries) :
    Editable (withDevices document tables) { config with devices := entries } where
  holds := holds_withDevices editable.holds
    (mapM_eq_some_iff.mpr (read.imp fun _ _ => DeviceEntry.ofTable_eq_some_iff.mpr))
  version := editable.version
  devices := ⟨tables, deviceArray_withDevices document tables⟩

variable {Source : Type} {crates : Crates} {toml : Toml Source}

/-- A written document is the text of the registry that it holds. -/
theorem represents_of_render (lawful : toml.Lawful) {document : Document} {config : ConfigFile}
    (editable : Editable document config) {store : Option Source}
    (written : contents toml store = toml.render document) : Represents toml store config :=
  ⟨document.pruned, written ▸ lawful.parse_render document, editable_pruned editable⟩

variable (crates) in
/-- The text of a registry is accepted exactly when the registry is. -/
theorem isOk_validate (lawful : toml.Lawful) {document : Document} {config : ConfigFile}
    (editable : Editable document config) :
    (validate crates toml (toml.render document)).isOk = (config.resolve crates).isOk := by
  rw [validate, parse_render_of_holds lawful editable.holds editable.version]
  change ((config.resolve crates).mapError _).isOk = _
  cases config.resolve crates <;> rfl

/-- The command on the file does what it does on the registry. -/
structure Follows (crates : Crates) (toml : Toml Source) (config : ConfigFile) (edit : Edit)
    (outcome : Except EditError Unit × Option Source) : Prop where
  /-- It succeeds if the registry admits it. -/
  admitted : outcome.1.isOk = Registry.admits crates config edit
  /-- The file is then that of the changed registry. -/
  represents : Represents toml outcome.2 (Registry.step crates config edit)

/-- A change of the document that is the command's change of the registry, whenever it is allowed;
`allowEmpty` tells whether the text is written without being validated again. -/
structure Changes (crates : Crates) (config : ConfigFile) (edit : Edit) (allowEmpty : Bool)
    (change : Document → Except EditError Document) : Prop where
  /-- What it makes is what the command makes of the registry, to be validated or not. -/
  sound : ∀ {document edited}, Editable document config → change document = .ok edited →
    ∃ config', Registry.applied edit config = some config' ∧ Editable edited config' ∧
      Registry.accepts crates edit config' = (allowEmpty || (config'.resolve crates).isOk)
  /-- It is made whenever the command is admitted. -/
  complete : ∀ {document config'}, Editable document config →
    Registry.applied edit config = some config' → Registry.accepts crates edit config' = true →
    ∃ edited, change document = .ok edited

variable [DecidableEq Source]

/-- A change that is allowed is written. -/
theorem updateConfig_of_change {allowEmpty : Bool} {change : Document → Except EditError Document}
    {store : Option Source} {document edited : Document}
    (parsed : toml.parse (contents toml store) = some document)
    (changed : change document = .ok edited)
    (accepted : (allowEmpty || (validate crates toml (toml.render edited)).isOk) = true) :
    ∃ after, updateConfig crates toml allowEmpty change store = (.ok (), after) := by
  cases allowEmpty with
  | false =>
      cases valid : validate crates toml (toml.render edited) with
      | error error =>
          rw [valid] at accepted
          cases accepted
      | ok settings =>
          obtain ⟨after, updated, _⟩ := updateConfig_of_edit parsed changed valid
          exact ⟨after, updated⟩
  | true =>
      have rendered : ∃ after, updateConfig crates toml true change store = (.ok (), after) ∧
          contents toml after = toml.render edited := by
        refine updateAtomic_of_render ?_
        simp only [bind_eq_ok, okOr_eq_ok]
        exact ⟨document, parsed, edited, changed, rfl⟩
      obtain ⟨after, updated, _⟩ := rendered
      exact ⟨after, updated⟩

/-- Reading, changing, validating and writing the file follows the registry. -/
theorem follows_updateConfig (lawful : toml.Lawful) {config : ConfigFile} {edit : Edit}
    {allowEmpty : Bool} {change : Document → Except EditError Document} {store : Option Source}
    (represents : Represents toml store config)
    (changes : Changes crates config edit allowEmpty change) :
    Follows crates toml config edit (updateConfig crates toml allowEmpty change store) := by
  obtain ⟨document, parsed, editable⟩ := represents
  cases outcome : updateConfig crates toml allowEmpty change store with
  | mk result after =>
  cases result with
  | ok =>
      obtain ⟨document', edited, parsed', changed, written, valid⟩ := updateConfig_eq_ok outcome
      cases parsed.symm.trans parsed'
      obtain ⟨config', applied, kept, accepts⟩ := changes.sound editable changed
      have accepted : Registry.accepts crates edit config' = true := by
        rw [accepts]
        cases allowEmpty with
        | true => rfl
        | false =>
            obtain ⟨settings, accepted⟩ := valid rfl
            rw [Bool.false_or, ← isOk_validate crates lawful kept, accepted]
            rfl
      constructor
      · rw [Registry.admits, applied, Option.any_some, accepted]
        rfl
      · rw [Registry.step_of_accepted applied accepted]
        exact represents_of_render lawful kept written
  | error error =>
      have refused : Registry.admits crates config edit = false := by
        rw [Registry.admits_eq_false_iff]
        intro config' applied
        by_contra accepted
        rw [Bool.not_eq_false] at accepted
        obtain ⟨edited, changed⟩ := changes.complete editable applied accepted
        obtain ⟨config'', applied', kept, accepts⟩ := changes.sound editable changed
        cases applied.symm.trans applied'
        rw [accepts, ← isOk_validate crates lawful kept] at accepted
        obtain ⟨after', updated⟩ := updateConfig_of_change parsed changed accepted
        cases outcome.symm.trans updated
      have unchanged : after = store := by
        have failed : (updateConfig crates toml allowEmpty change store).1 = .error error := by
          rw [outcome]
        exact (congrArg Prod.snd outcome).symm.trans (updateAtomic_of_error failed)
      rw [unchanged]
      exact ⟨refused.symm, (Registry.step_of_refused refused).symm ▸ ⟨document, parsed, editable⟩⟩

/-- Criteria that resolve have passed the check that comes before the edit, which does not look at
the policy. -/
theorem validate_criteria_of_entry {id profile : Text} {criteria : Criteria}
    {overrides : Overrides} {sampleWindowMs : Option UInt64} {spec : DeviceSpec}
    (resolved : (replacedEntry profile criteria overrides id sampleWindowMs).resolve crates =
      .ok spec) : criteria.validate crates = .ok () := by
  obtain ⟨_, identity, found, _⟩ := (DeviceEntry.resolve_eq_ok_iff crates _ _).mp resolved
  have valid : Policy.default.InRange ∧ Policy.default.Feasible :=
    ⟨by constructor <;> decide, by decide⟩
  have lenient : (replacedEntry profile criteria ⟨none, none, none⟩ id none).resolve crates =
      .ok ⟨id, spec.identity, spec.profile, Policy.default⟩ :=
    (DeviceEntry.resolve_eq_ok_iff crates _ _).mpr
      ⟨rfl, identity, found, (DeviceEntry.policy_eq_ok_iff _ _).mpr ⟨rfl, valid⟩⟩
  exact validate_criteria_of_resolve lenient

/-- Enrollment in the tables is enrollment in the registry. -/
theorem related_upsert {tables : List Table} {entries : List DeviceEntry}
    (read : List.Forall₂ DeviceEntry.Holds tables entries) (id profile : Text)
    (criteria : Criteria) (overrides : Overrides) :
    List.Forall₂ DeviceEntry.Holds
      (upsert id (rewriteTable profile criteria overrides) tables)
      (Registry.enroll id profile criteria overrides entries) := by
  have written : upsert id (rewriteTable profile criteria overrides) tables =
      (KeyedList.editFirst (hasId id) (rewriteTable profile criteria overrides) tables).getD
        (tables ++ [rewriteTable profile criteria overrides (newTable id)]) := by
    rw [upsert, KeyedList.editFirst_eq_findIdx]
    cases tables.findIdx? (hasId id) <;> rfl
  rw [written]
  exact KeyedList.editFirst_getD_related (fun _ _ holds => hasId_of_holds holds id)
    (fun _ _ holds _ => holds_rewriteTable holds) (holds_newTable profile criteria overrides id)
    read

/-- The registry of an accepted enrollment has passed the check of the criteria. -/
theorem validate_criteria_of_accepts {config : ConfigFile} {id profile : Text}
    {criteria : Criteria} {overrides : Overrides}
    (accepted : (({ config with
      devices := Registry.enroll id profile criteria overrides config.devices } :
        ConfigFile).resolve crates).isOk = true) : criteria.validate crates = .ok () := by
  cases resolved : ConfigFile.resolve crates _ with
  | error error =>
      rw [resolved] at accepted
      cases accepted
  | ok settings =>
      obtain ⟨_, lowered, _⟩ := (ConfigFile.resolve_eq_ok_iff crates _ _).mp resolved
      have found := Registry.find_enroll id profile criteria overrides id config.devices
      rw [if_pos rfl] at found
      obtain ⟨spec, _, resolves⟩ :=
        exists_right_of_forall₂ lowered (List.mem_of_find?_eq_some found)
      exact validate_criteria_of_entry resolves

theorem changes_add (config : ConfigFile) (id profile : Text) (criteria : Criteria)
    (overrides : Overrides) :
    Changes crates config (.add id profile criteria overrides) false
      (applyDevice crates id profile criteria overrides) where
  sound := by
    intro document edited editable changed
    simp only [applyDevice, bind_eq_ok, pure_eq_ok] at changed
    obtain ⟨_, _, tables, devices, rfl⟩ := changed
    have read := related_upsert (entries_of_deviceArray editable.holds devices) id profile criteria
      overrides
    exact ⟨_, rfl, editable_withDevices editable read, rfl⟩
  complete := by
    intro document config' editable applied accepted
    obtain rfl := Option.some.inj applied
    obtain ⟨tables, devices⟩ := editable.devices
    simp only [applyDevice, bind_eq_ok, pure_eq_ok, mapError_eq_ok]
    exact ⟨_, (), validate_criteria_of_accepts accepted, tables, devices, rfl⟩

/-- A table with a new threshold is the entry with that threshold. -/
theorem holds_setThreshold {table : Table} {entry : DeviceEntry}
    (holds : DeviceEntry.Holds table entry) (thresholdDbm : Int16) :
    DeviceEntry.Holds (table.insert ConfigKey.thresholdDbm (.integer thresholdDbm.toInt64))
      { entry with thresholdDbm := some thresholdDbm } := by
  have other : ∀ {key : Text}, key ≠ ConfigKey.thresholdDbm →
      (table.insert ConfigKey.thresholdDbm (.integer thresholdDbm.toInt64)).lookup key =
        table.lookup key := fun different => AList.lookup_insert_ne different
  refine ⟨?_, ?_, ?_, ?_, ?_, ?_, ?_, ?_, ?_, ?_, ?_⟩
  · intro key member
    rcases (AList.mem_insert table).mp (AList.mem_keys.mpr member) with rfl | kept
    · decide
    · exact holds.known (AList.mem_keys.mp kept)
  · rw [other (by decide)]
    exact holds.id
  · rw [other (by decide)]
    exact holds.profile
  · rw [other (by decide)]
    exact holds.irkBase64
  · rw [other (by decide)]
    exact holds.address
  · rw [other (by decide)]
    exact holds.serviceUuid
  · rw [other (by decide)]
    exact holds.namePrefix
  · rw [AList.lookup_insert, readInteger, asI16_toInt64]
    rfl
  · rw [other (by decide)]
    exact holds.minimumSamples
  · rw [other (by decide)]
    exact holds.sampleWindowMs
  · rw [other (by decide)]
    exact holds.freshnessMs

theorem applyThreshold_eq {id : Text} {thresholdDbm : Int16} {document : Document}
    {tables : List Table} (devices : deviceArray document = .ok tables) :
    applyThreshold id thresholdDbm document =
      (okOr (KeyedList.editFirst (hasId id) (fun table =>
        table.insert ConfigKey.thresholdDbm (.integer thresholdDbm.toInt64)) tables)
        (.noSuchDevice id)).map (withDevices document) := by
  rw [applyThreshold, devices, KeyedList.editFirst_eq_findIdx]
  dsimp only [bind, Except.bind]
  cases tables.findIdx? (hasId id) <;> rfl

theorem changes_setThreshold (config : ConfigFile) (id : Text) (thresholdDbm : Int16) :
    Changes crates config (.setThreshold id thresholdDbm) false
      (applyThreshold id thresholdDbm) := by
  have related : ∀ {tables : List Table},
      List.Forall₂ DeviceEntry.Holds tables config.devices →
      Option.Rel (List.Forall₂ DeviceEntry.Holds)
        (KeyedList.editFirst (hasId id) (fun table =>
          table.insert ConfigKey.thresholdDbm (.integer thresholdDbm.toInt64)) tables)
        (Registry.assignThreshold id thresholdDbm config.devices) :=
    fun read => KeyedList.editFirst_related (fun _ _ holds => hasId_of_holds holds id)
      (fun _ _ holds _ => holds_setThreshold holds thresholdDbm) read
  constructor
  · intro document edited editable changed
    obtain ⟨tables, devices⟩ := editable.devices
    have done := related (entries_of_deviceArray editable.holds devices)
    rw [applyThreshold_eq devices] at changed
    generalize KeyedList.editFirst (hasId id) _ tables = left at done changed
    generalize entries : Registry.assignThreshold id thresholdDbm config.devices = right at done
    cases done with
    | none => cases changed
    | some read =>
        cases changed
        refine ⟨_, ?_, editable_withDevices editable read, rfl⟩
        rw [Registry.applied, entries]
        rfl
  · intro document config' editable applied _
    obtain ⟨tables, devices⟩ := editable.devices
    have done := related (entries_of_deviceArray editable.holds devices)
    rw [applyThreshold_eq devices]
    obtain ⟨entries, edited, rfl⟩ := Option.map_eq_some_iff.mp applied
    rw [edited] at done
    generalize KeyedList.editFirst (hasId id) _ tables = left at done
    cases done
    exact ⟨_, rfl⟩

/-- A document with a new rule is the registry with that rule. -/
theorem editable_setMultiDeviceAuth {document : Document} {config : ConfigFile}
    (editable : Editable document config) (expression : Text) :
    Editable (document.insert ConfigKey.multiDeviceAuth (.value (.string expression)))
      { config with multiDeviceAuth := some expression } := by
  have other : ∀ {key : Text}, key ≠ ConfigKey.multiDeviceAuth →
      (document.insert ConfigKey.multiDeviceAuth (.value (.string expression))).lookup key =
        document.lookup key := fun different => AList.lookup_insert_ne different
  obtain ⟨holds, version, tables, devices⟩ := editable
  refine ⟨⟨?_, ?_, ?_, ?_, ?_⟩, version, tables, ?_⟩
  · intro key member
    rcases (AList.mem_insert document).mp (AList.mem_keys.mpr member) with rfl | kept
    · decide
    · exact holds.known (AList.mem_keys.mp kept)
  · rw [other (by decide)]
    exact holds.schemaVersion
  · rw [other (by decide)]
    exact holds.adapter
  · rw [AList.lookup_insert]
    exact ⟨_, rfl, rfl⟩
  · rw [other (by decide)]
    exact holds.devices
  · rw [deviceArray, other (by decide)]
    exact devices

theorem changes_setMultiDeviceAuth (config : ConfigFile) (expression : Text) :
    Changes crates config (.setMultiDeviceAuth expression) false (applyRule expression) where
  sound := by
    intro document edited editable changed
    cases changed
    exact ⟨_, rfl, editable_setMultiDeviceAuth editable expression, rfl⟩
  complete := fun _ _ _ => ⟨_, rfl⟩

/-- Removal from the tables is removal from the registry. -/
theorem related_remove {tables : List Table} {entries : List DeviceEntry}
    (read : List.Forall₂ DeviceEntry.Holds tables entries) (id : Text) :
    List.Forall₂ DeviceEntry.Holds (tables.filter fun table => !hasId id table)
      (KeyedList.remove DeviceEntry.id id entries) := by
  refine List.rel_filter ?_ read
  intro table entry holds
  simp [hasId_of_holds holds id]

/-- Removal finds a table exactly when the registry has an entry. -/
theorem length_kept_eq_iff {tables : List Table} {entries : List DeviceEntry}
    (read : List.Forall₂ DeviceEntry.Holds tables entries) (id : Text) :
    (tables.filter fun table => !hasId id table).length = tables.length ↔
      KeyedList.find DeviceEntry.id id entries = none := by
  rw [(related_remove read id).length_eq, read.length_eq, KeyedList.length_remove_eq_iff]

omit [DecidableEq Source] in
theorem changes_remove (lawful : toml.Lawful) (config : ConfigFile) (id : Text) :
    Changes crates config (.remove id) true (applyRemoval crates toml id) where
  sound := by
    intro document edited editable changed
    unfold applyRemoval at changed
    split at changed
    · cases changed
    obtain ⟨tables, devices, changed⟩ := bind_eq_ok.mp changed
    have read := entries_of_deviceArray editable.holds devices
    have kept := editable_withDevices editable (related_remove read id)
    dsimp only at changed
    split at changed
    · cases changed
    rename_i removes
    rw [length_kept_eq_iff read] at removes
    have applied : Registry.applied (.remove id) config = some
        { config with devices := KeyedList.remove DeviceEntry.id id config.devices } :=
      if_neg (by simpa using removes)
    split at changed
    · obtain ⟨settings, valid, same⟩ := bind_eq_ok.mp changed
      obtain rfl := pure_eq_ok.mp same
      have accepted := isOk_validate crates lawful kept
      refine ⟨_, applied, kept, ?_⟩
      rw [Registry.accepts, ← accepted, valid, Bool.true_or]
      exact Bool.or_true _
    · rename_i emptied
      obtain rfl := pure_eq_ok.mp changed
      have removed := related_remove read id
      rw [not_not.mp emptied, List.forall₂_nil_left_iff] at removed
      refine ⟨_, applied, kept, ?_⟩
      rw [Registry.accepts, removed]
      rfl
  complete := by
    intro document config' editable applied accepted
    obtain ⟨tables, devices⟩ := editable.devices
    have read := entries_of_deviceArray editable.holds devices
    have kept := editable_withDevices editable (related_remove read id)
    have found : KeyedList.find DeviceEntry.id id config.devices ≠ none := by
      intro absent
      rw [Registry.applied, absent] at applied
      cases applied
    have present : document.lookup ConfigKey.device ≠ none := by
      intro missing
      have no_tables : tables = [] := by
        rw [deviceArray, missing] at devices
        cases devices
        rfl
      rw [no_tables, List.forall₂_nil_left_iff] at read
      rw [read] at found
      exact found rfl
    rw [Registry.applied, if_neg (by simpa using found)] at applied
    obtain rfl := Option.some.inj applied
    have removes := (length_kept_eq_iff read id).not.mpr found
    unfold applyRemoval
    rw [if_neg present]
    refine ⟨withDevices document (tables.filter fun table => !hasId id table),
      bind_eq_ok.mpr ⟨tables, devices, ?_⟩⟩
    dsimp only
    rw [if_neg removes]
    split
    · rename_i some_kept
      have nonempty : KeyedList.remove DeviceEntry.id id config.devices ≠ [] := by
        intro empty
        have removed := related_remove read id
        rw [empty, List.forall₂_nil_right_iff] at removed
        exact some_kept removed
      rw [Registry.accepts, List.isEmpty_eq_false_iff.mpr nonempty, Bool.false_or,
        ← isOk_validate crates lawful kept] at accepted
      refine bind_eq_ok.mpr ?_
      generalize validate crates toml _ = result at accepted ⊢
      cases result with
      | error error => cases accepted
      | ok settings => exact ⟨settings, rfl, rfl⟩
    · rfl

variable (crates) in
/-- The step: every command on the file follows the command on the registry. -/
theorem follows_apply (lawful : toml.Lawful) {store : Option Source} {config : ConfigFile}
    (represents : Represents toml store config) (edit : Edit) :
    Follows crates toml config edit (edit.apply crates toml store) := by
  cases edit with
  | add id profile criteria overrides =>
      exact follows_updateConfig lawful represents
        (changes_add config id profile criteria overrides)
  | setThreshold id thresholdDbm =>
      exact follows_updateConfig lawful represents (changes_setThreshold config id thresholdDbm)
  | setMultiDeviceAuth expression =>
      exact follows_updateConfig lawful represents (changes_setMultiDeviceAuth config expression)
  | remove id => exact follows_updateConfig lawful represents (changes_remove lawful config id)

variable (crates) in
/-- The run: the file stays the text of the registry. -/
theorem represents_run (lawful : toml.Lawful) {start : Option Source} {config : ConfigFile}
    (represents : Represents toml start config) (edits : List Edit) :
    Represents toml (run (edited crates toml) start edits)
      (run (Registry.step crates) config edits) :=
  run_simulation (Represents toml)
    (fun _ _ edit represents => (follows_apply crates lawful represents edit).represents)
    represents edits

omit [DecidableEq Source] in
theorem parse_of_represents {store : Option Source} {config : ConfigFile}
    (represents : Represents toml store config) :
    ConfigFile.parse toml (contents toml store) = .ok config := by
  obtain ⟨document, parsed, editable⟩ := represents
  exact ConfigFile.parse_eq_ok_iff.mpr ⟨document, parsed, editable.holds, editable.version⟩

/-- The commands that succeed, of those issued in turn. -/
def succeeded (crates : Crates) (toml : Toml Source) : Option Source → List Edit → List Edit
  | _, [] => []
  | store, edit :: edits =>
      if (edit.apply crates toml store).1.isOk then
        edit :: succeeded crates toml (edited crates toml store edit) edits
      else
        succeeded crates toml (edited crates toml store edit) edits

theorem succeeded_append (start : Option Source) (first second : List Edit) :
    succeeded crates toml start (first ++ second) = succeeded crates toml start first ++
      succeeded crates toml (run (edited crates toml) start first) second := by
  induction first generalizing start with
  | nil => rfl
  | cons edit first induction =>
      rw [List.cons_append, succeeded, succeeded, induction, run_cons]
      split <;> rfl

variable (crates toml) in
theorem length_succeeded_le (start : Option Source) (edits : List Edit) :
    (succeeded crates toml start edits).length ≤ edits.length := by
  induction edits generalizing start with
  | nil => exact Nat.le_refl 0
  | cons edit edits induction =>
      have rest := induction (edited crates toml start edit)
      rw [succeeded]
      split
      · exact Nat.succ_le_succ rest
      · exact Nat.le_succ_of_le rest

/-- If all of them succeed, the first of them do. -/
theorem succeeded_of_append {start : Option Source} {first second : List Edit}
    (all : succeeded crates toml start (first ++ second) = first ++ second) :
    succeeded crates toml start first = first := by
  rw [succeeded_append] at all
  have total := congrArg List.length all
  rw [List.length_append, List.length_append] at total
  have front := length_succeeded_le crates toml start first
  have back := length_succeeded_le crates toml
    (run (edited crates toml) start first) second
  exact (List.append_inj all (by omega)).1

/-- What a command says of the device `id`. -/
def onDevice (id : Text) (entry : Option DeviceEntry) : Edit → Option DeviceEntry
  | .add named profile criteria overrides =>
      if id = named then
        some (replacedEntry profile criteria overrides named
          (entry.bind DeviceEntry.sampleWindowMs))
      else entry
  | .setThreshold named thresholdDbm =>
      if id = named then
        entry.map fun entry => { entry with thresholdDbm := some thresholdDbm }
      else entry
  | .setMultiDeviceAuth _ => entry
  | .remove named => if id = named then none else entry

/-- What a command says of the rule. -/
def onRule (rule : Option Text) : Edit → Option Text
  | .setMultiDeviceAuth expression => some expression
  | _ => rule

/-- A command that is carried out says what becomes of every device, and of the rule. -/
theorem find_applied {edit : Edit} {config config' : ConfigFile}
    (applied : Registry.applied edit config = some config') :
    (∀ id, KeyedList.find DeviceEntry.id id config'.devices =
      onDevice id (KeyedList.find DeviceEntry.id id config.devices) edit) ∧
    config'.multiDeviceAuth = onRule config.multiDeviceAuth edit ∧
    config'.adapter = config.adapter := by
  cases edit with
  | add named profile criteria overrides =>
      obtain rfl := Option.some.inj applied
      refine ⟨fun id => ?_, rfl, rfl⟩
      rw [Registry.find_enroll, onDevice]
      split
      · rename_i same
        rw [same]
      · rfl
  | setThreshold named thresholdDbm =>
      obtain ⟨entries, edited, rfl⟩ := Option.map_eq_some_iff.mp applied
      refine ⟨fun id => ?_, rfl, rfl⟩
      rw [Registry.find_assignThreshold edited, onDevice]
      split
      · rename_i same
        rw [same]
      · rfl
  | setMultiDeviceAuth expression =>
      obtain rfl := Option.some.inj applied
      exact ⟨fun _ => rfl, rfl, rfl⟩
  | remove named =>
      rw [Registry.applied] at applied
      split at applied
      · cases applied
      obtain rfl := Option.some.inj applied
      exact ⟨fun id => KeyedList.find_remove named id config.devices, rfl, rfl⟩

variable (crates) in
/-- What is found after a run of commands is what the commands that succeeded say, in turn. -/
theorem find_run (lawful : toml.Lawful) {start : Option Source} {config : ConfigFile}
    (represents : Represents toml start config) (edits : List Edit) :
    (∀ id, KeyedList.find DeviceEntry.id id
        (run (Registry.step crates) config edits).devices =
      run (onDevice id) (KeyedList.find DeviceEntry.id id config.devices)
        (succeeded crates toml start edits)) ∧
    (run (Registry.step crates) config edits).multiDeviceAuth =
      run onRule config.multiDeviceAuth (succeeded crates toml start edits) ∧
    (run (Registry.step crates) config edits).adapter = config.adapter := by
  induction edits generalizing start config with
  | nil => exact ⟨fun _ => rfl, rfl, rfl⟩
  | cons edit edits induction =>
      have follows := follows_apply crates lawful represents edit
      obtain ⟨devices, rule, adapter⟩ := induction follows.represents
      rw [succeeded, follows.admitted]
      simp only [run_cons (Registry.step crates)]
      by_cases admitted : Registry.admits crates config edit = true
      · obtain ⟨config', applied, accepted⟩ := (Option.any_eq_true _ _).mp admitted
        obtain ⟨found, ruled, same⟩ := find_applied applied
        rw [Registry.step_of_accepted applied accepted] at devices rule adapter ⊢
        rw [if_pos admitted]
        refine ⟨fun id => ?_, ?_, adapter.trans same⟩
        · rw [devices id, found id]
          rfl
        · rw [rule, ruled]
          rfl
      · rw [Registry.step_of_refused (Bool.eq_false_iff.mpr admitted)] at devices rule adapter ⊢
        rw [if_neg admitted]
        exact ⟨devices, rule, adapter⟩

/-- After any run of commands the daemon reads the registry from the file, and the next command
succeeds exactly when the registry, changed by it, would be accepted. -/
theorem edits_refine_registry (lawful : toml.Lawful) {start : Option Source} {config : ConfigFile}
    (represents : Represents toml start config) (edits : List Edit) :
    ConfigFile.parse toml (contents toml (run (edited crates toml) start edits)) =
        .ok (run (Registry.step crates) config edits) ∧
      ∀ edit : Edit, (edit.apply crates toml (run (edited crates toml) start edits)).1.isOk =
        Registry.admits crates (run (Registry.step crates) config edits) edit := by
  have reached := represents_run crates lawful represents edits
  exact ⟨parse_of_represents reached, fun edit =>
    (follows_apply crates lawful reached edit).admitted⟩

/-- A phone is enrolled, a rule for two devices is refused, and the phone is removed. -/
def phoneEdits : List Edit :=
  [.add phone ProximityOnly.id phoneByName ⟨none, none, none⟩, .setThreshold phone (-80),
    .setMultiDeviceAuth "at-least:2".toList, .remove phone]

/-- In a missing file. -/
theorem edits_refine_registry_phone :
    ConfigFile.parse Toml.ofDocuments (contents Toml.ofDocuments
        (run (edited ConfigFile.plainCrates Toml.ofDocuments) none phoneEdits)) =
      .ok (run (Registry.step ConfigFile.plainCrates) Registry.empty phoneEdits) ∧
    ∀ edit : Edit, (edit.apply ConfigFile.plainCrates Toml.ofDocuments
        (run (edited ConfigFile.plainCrates Toml.ofDocuments) none phoneEdits)).1.isOk =
      Registry.admits ConfigFile.plainCrates
        (run (Registry.step ConfigFile.plainCrates) Registry.empty phoneEdits) edit :=
  edits_refine_registry Toml.ofDocuments_lawful (represents_none Toml.ofDocuments_lawful) _

/-- Of the commands that were issued, only those that succeeded left a trace: the entry of every
device is what the commands that named it made of it, in order, whatever was done to the others. -/
theorem entry_of_succeeded (lawful : toml.Lawful) {start : Option Source} {config : ConfigFile}
    (represents : Represents toml start config) (edits : List Edit) :
    ∃ config', ConfigFile.parse toml (contents toml (run (edited crates toml) start edits)) =
        .ok config' ∧
      (∀ id, KeyedList.find DeviceEntry.id id config'.devices =
        run (onDevice id) (KeyedList.find DeviceEntry.id id config.devices)
          (succeeded crates toml start edits)) ∧
      config'.multiDeviceAuth =
        run onRule config.multiDeviceAuth (succeeded crates toml start edits) ∧
      config'.adapter = config.adapter :=
  ⟨_, parse_of_represents (represents_run crates lawful represents edits),
    find_run crates lawful represents edits⟩

/-- In a missing file. -/
theorem entry_of_succeeded_phone :
    ∃ config', ConfigFile.parse Toml.ofDocuments (contents Toml.ofDocuments
        (run (edited ConfigFile.plainCrates Toml.ofDocuments) none phoneEdits)) = .ok config' ∧
      (∀ id, KeyedList.find DeviceEntry.id id config'.devices =
        run (onDevice id) none
          (succeeded ConfigFile.plainCrates Toml.ofDocuments none phoneEdits)) ∧
      config'.multiDeviceAuth = run onRule none
        (succeeded ConfigFile.plainCrates Toml.ofDocuments none phoneEdits) ∧
      config'.adapter = none :=
  entry_of_succeeded Toml.ofDocuments_lawful (represents_none Toml.ofDocuments_lawful) _

end PresenceUnlock.Cli
