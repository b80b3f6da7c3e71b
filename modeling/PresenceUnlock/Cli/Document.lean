import Mathlib.Data.List.AList
import PresenceUnlock.Protocol.Config

/-!
# The configuration file as a document

The tree that the CLI edits and that the daemon deserialises.  Only the depth the schema has is kept
apart: top-level values, and the tables of the `device` array.  Rendering and parsing of the text
are parameters.
-/

namespace PresenceUnlock

open RustStd

/-- A value below a key; `other` is any value the schema has no use for, as it is written. -/
inductive Value
  | string (text : Text)
  | integer (number : Int64)
  | other (source : Text)
  deriving DecidableEq, Repr

/-- The keys and values of one table. -/
abbrev Table := AList fun _ : Text => Value

/-- What a top-level key holds: a value, an inline array of inline tables, or `[[..]]` tables. -/
inductive Item
  | value (value : Value)
  | inlineTables (tables : List Table)
  | arrayOfTables (tables : List Table)
  deriving DecidableEq

/-- A TOML document. -/
abbrev Document := AList fun _ : Text => Item

namespace Document

/-- An empty array of tables has no text, so its key is gone when the text is read again. -/
def pruned (document : Document) : Document where
  entries := document.entries.filter fun entry => entry.2 ≠ .arrayOfTables []
  nodupKeys := document.nodupKeys.sublist List.filter_sublist

theorem lookup_pruned_eq_some {document : Document} {key : Text} {item : Item} :
    document.pruned.lookup key = some item ↔
      document.lookup key = some item ∧ item ≠ .arrayOfTables [] := by
  rw [← Option.mem_def, ← Option.mem_def, AList.mem_lookup_iff, AList.mem_lookup_iff, pruned,
    List.mem_filter]
  simp

/-- No key holds an empty array of tables. -/
def Full (document : Document) : Prop :=
  ∀ key, document.lookup key ≠ some (.arrayOfTables [])

theorem full_pruned (document : Document) : document.pruned.Full :=
  fun _ found => (lookup_pruned_eq_some.mp found).2 rfl

theorem pruned_eq_self {document : Document} (full : document.Full) :
    document.pruned = document := by
  apply AList.ext
  rw [pruned, List.filter_eq_self]
  intro entry member
  refine decide_eq_true fun empty => full entry.1 ?_
  rw [← Option.mem_def, AList.mem_lookup_iff, ← empty]
  exact member

theorem mem_of_mem_pruned {document : Document} {key : Text} (member : key ∈ document.pruned) :
    key ∈ document := by
  obtain ⟨item, found⟩ := Option.isSome_iff_exists.mp (AList.lookup_isSome.mpr member)
  exact AList.lookup_isSome.mp (Option.isSome_iff_exists.mpr
    ⟨item, (lookup_pruned_eq_some.mp found).1⟩)

theorem lookup_pruned {document : Document} {key : Text}
    (full : document.lookup key ≠ some (.arrayOfTables [])) :
    document.pruned.lookup key = document.lookup key := by
  cases found : document.lookup key with
  | none =>
      refine AList.lookup_eq_none.mpr fun member => ?_
      exact AList.lookup_eq_none.mp found (mem_of_mem_pruned member)
  | some item =>
      rw [found] at full
      exact lookup_pruned_eq_some.mpr ⟨found, fun empty => full (congrArg some empty)⟩

theorem lookup_pruned_of_empty {document : Document} {key : Text}
    (empty : document.lookup key = some (.arrayOfTables [])) :
    document.pruned.lookup key = none := by
  cases found : document.pruned.lookup key with
  | none => rfl
  | some item =>
      obtain ⟨kept, nonempty⟩ := lookup_pruned_eq_some.mp found
      exact (nonempty (Option.some.inj (kept.symm.trans empty))).elim

end Document

/-- The TOML crates: `parse` reads a text, `render` writes an edited document. -/
structure Toml (Source : Type) where
  /-- What a text says, if it is TOML. -/
  parse : Source → Option Document
  /-- The text of a document. -/
  render : Document → Source

/-- Rendering followed by parsing preserves keys and values, and no text has an empty array of
tables. -/
structure Toml.Lawful {Source : Type} (toml : Toml Source) : Prop where
  /-- A document is read back from its text, but for empty arrays of tables. -/
  parse_render : ∀ document, toml.parse (toml.render document) = some document.pruned
  /-- No array of tables that was read is empty. -/
  parse_full : ∀ source document, toml.parse source = some document → document.Full

/-- Texts taken up to what they parse to. -/
def Toml.ofDocuments : Toml Document where
  parse := fun document => some document.pruned
  render := fun document => document

theorem Toml.ofDocuments_lawful : Toml.ofDocuments.Lawful where
  parse_render := fun _ => rfl
  parse_full := by
    rintro source document parsed
    obtain rfl := Option.some.inj parsed
    exact source.full_pruned

/-- An optional string field; any other kind of value is an error. -/
def readString : Option Value → Option (Option Text)
  | none => some none
  | some (.string text) => some (some text)
  | some _ => none

/-- An optional integer field, narrowed to the type of the field. -/
def readInteger {α : Type} (narrow : Int64 → Option α) : Option Value → Option (Option α)
  | none => some none
  | some (.integer number) => (narrow number).map some
  | some _ => none

namespace DeviceEntry

/-- The fields of a `[[device]]` table; unknown fields are denied. -/
def knownKeys : List Text :=
  [ConfigKey.id, ConfigKey.profile, ConfigKey.irkBase64, ConfigKey.address, ConfigKey.serviceUuid,
    ConfigKey.namePrefix, ConfigKey.thresholdDbm, ConfigKey.minimumSamples,
    ConfigKey.sampleWindowMs, ConfigKey.freshnessMs]

/-- The entry of a table, which must hold nothing else. -/
def ofTable (table : Table) : Option DeviceEntry :=
  if ¬ table.keys ⊆ knownKeys then none
  else do
    let id ← (← readString (table.lookup ConfigKey.id))
    let profile ← (← readString (table.lookup ConfigKey.profile))
    let irkBase64 ← readString (table.lookup ConfigKey.irkBase64)
    let address ← readString (table.lookup ConfigKey.address)
    let serviceUuid ← readString (table.lookup ConfigKey.serviceUuid)
    let namePrefix ← readString (table.lookup ConfigKey.namePrefix)
    let thresholdDbm ← readInteger asI16 (table.lookup ConfigKey.thresholdDbm)
    let minimumSamples ← readInteger asU8 (table.lookup ConfigKey.minimumSamples)
    let sampleWindowMs ← readInteger asU64 (table.lookup ConfigKey.sampleWindowMs)
    let freshnessMs ← readInteger asU64 (table.lookup ConfigKey.freshnessMs)
    return { id, profile, irkBase64, address, serviceUuid, namePrefix, thresholdDbm,
             minimumSamples, sampleWindowMs, freshnessMs }

/-- The table holds exactly the fields of the entry. -/
structure Holds (table : Table) (entry : DeviceEntry) : Prop where
  /-- It holds nothing else. -/
  known : table.keys ⊆ knownKeys
  /-- The id. -/
  id : readString (table.lookup ConfigKey.id) = some (some entry.id)
  /-- The profile. -/
  profile : readString (table.lookup ConfigKey.profile) = some (some entry.profile)
  /-- The key. -/
  irkBase64 : readString (table.lookup ConfigKey.irkBase64) = some entry.irkBase64
  /-- The address. -/
  address : readString (table.lookup ConfigKey.address) = some entry.address
  /-- The service. -/
  serviceUuid : readString (table.lookup ConfigKey.serviceUuid) = some entry.serviceUuid
  /-- The name prefix. -/
  namePrefix : readString (table.lookup ConfigKey.namePrefix) = some entry.namePrefix
  /-- The threshold. -/
  thresholdDbm : readInteger asI16 (table.lookup ConfigKey.thresholdDbm) = some entry.thresholdDbm
  /-- The samples. -/
  minimumSamples :
    readInteger asU8 (table.lookup ConfigKey.minimumSamples) = some entry.minimumSamples
  /-- The window. -/
  sampleWindowMs :
    readInteger asU64 (table.lookup ConfigKey.sampleWindowMs) = some entry.sampleWindowMs
  /-- The freshness. -/
  freshnessMs : readInteger asU64 (table.lookup ConfigKey.freshnessMs) = some entry.freshnessMs

theorem ofTable_eq_some_iff {table : Table} {entry : DeviceEntry} :
    ofTable table = some entry ↔ Holds table entry := by
  constructor
  · intro read
    rw [ofTable] at read
    split at read
    · cases read
    rename_i known
    simp only [Option.bind_eq_bind, Option.bind_eq_some_iff, Option.pure_def, Option.some.injEq]
      at read
    obtain ⟨_, read0, _, rfl, _, read1, _, rfl, _, read2, _, read3, _, read4, _, read5, _, read6, _,
      read7, _, read8, _, read9, rfl⟩ := read
    exact ⟨not_not.mp known, read0, read1, read2, read3, read4, read5, read6, read7, read8, read9⟩
  · intro holds
    rw [ofTable, if_neg (not_not.mpr holds.known), holds.id, holds.profile, holds.irkBase64,
      holds.address, holds.serviceUuid, holds.namePrefix, holds.thresholdDbm,
      holds.minimumSamples, holds.sampleWindowMs, holds.freshnessMs]
    rfl

end DeviceEntry

namespace ConfigFile

/-- The top-level fields; unknown fields are denied. -/
def knownKeys : List Text :=
  [ConfigKey.schemaVersion, ConfigKey.adapter, ConfigKey.multiDeviceAuth, ConfigKey.device]

/-- A top-level value; a table is none. -/
def asValue : Option Item → Option (Option Value)
  | none => some none
  | some (.value value) => some (some value)
  | some _ => none

/-- The `device` field: absent, or tables in either notation. -/
def readDevices : Option Item → Option (List DeviceEntry)
  | none => some []
  | some (.value _) => none
  | some (.inlineTables tables) => tables.mapM DeviceEntry.ofTable
  | some (.arrayOfTables tables) => tables.mapM DeviceEntry.ofTable

/-- The configuration of a document, which must hold nothing else. -/
def ofDocument (document : Document) : Option ConfigFile :=
  if ¬ document.keys ⊆ knownKeys then none
  else do
    let schemaVersion ←
      (← readInteger asU8 (← asValue (document.lookup ConfigKey.schemaVersion)))
    let adapter ← readString (← asValue (document.lookup ConfigKey.adapter))
    let multiDeviceAuth ← readString (← asValue (document.lookup ConfigKey.multiDeviceAuth))
    let devices ← readDevices (document.lookup ConfigKey.device)
    return { schemaVersion, adapter, multiDeviceAuth, devices }

/-- Parse the text; only the current schema is accepted. -/
def parse {Source : Type} (toml : Toml Source) (source : Source) : Except ConfigError ConfigFile :=
  match (toml.parse source).bind ofDocument with
  | none => .error .toml
  | some config =>
      if config.schemaVersion ≠ currentSchema then .error (.schema config.schemaVersion)
      else .ok config

/-- The document holds exactly the fields of the file. -/
structure Holds (document : Document) (config : ConfigFile) : Prop where
  /-- It holds nothing else. -/
  known : document.keys ⊆ knownKeys
  /-- The schema version. -/
  schemaVersion : ∃ value, asValue (document.lookup ConfigKey.schemaVersion) = some value ∧
    readInteger asU8 value = some (some config.schemaVersion)
  /-- The adapter. -/
  adapter : ∃ value, asValue (document.lookup ConfigKey.adapter) = some value ∧
    readString value = some config.adapter
  /-- The rule. -/
  multiDeviceAuth : ∃ value, asValue (document.lookup ConfigKey.multiDeviceAuth) = some value ∧
    readString value = some config.multiDeviceAuth
  /-- The devices. -/
  devices : readDevices (document.lookup ConfigKey.device) = some config.devices

theorem ofDocument_eq_some_iff {document : Document} {config : ConfigFile} :
    ofDocument document = some config ↔ Holds document config := by
  constructor
  · intro read
    rw [ofDocument] at read
    split at read
    · cases read
    rename_i known
    simp only [Option.bind_eq_bind, Option.bind_eq_some_iff, Option.pure_def, Option.some.injEq]
      at read
    obtain ⟨_, version, _, read0, _, rfl, _, adapter, _, read1, _, rule, _, read2, _, read3, rfl⟩ :=
      read
    exact ⟨not_not.mp known, ⟨_, version, read0⟩, ⟨_, adapter, read1⟩, ⟨_, rule, read2⟩, read3⟩
  · rintro ⟨known, ⟨version, has_version, read0⟩, ⟨adapter, has_adapter, read1⟩,
      ⟨rule, has_rule, read2⟩, read3⟩
    rw [ofDocument, if_neg (not_not.mpr known), has_version, has_adapter, has_rule, read3]
    simp only [Option.bind_eq_bind, Option.bind_some, read0, read1, read2]
    rfl

theorem parse_eq_ok_iff {Source : Type} {toml : Toml Source} {source : Source}
    {config : ConfigFile} :
    parse toml source = .ok config ↔
      ∃ document, toml.parse source = some document ∧ Holds document config ∧
        config.schemaVersion = currentSchema := by
  rw [parse]
  constructor
  · intro read
    split at read
    · cases read
    rename_i found holds
    split at read
    · cases read
    rename_i version
    cases read
    obtain ⟨document, parsed, holds⟩ := Option.bind_eq_some_iff.mp holds
    exact ⟨document, parsed, ofDocument_eq_some_iff.mp holds, not_not.mp version⟩
  · rintro ⟨document, parsed, holds, version⟩
    rw [parsed, Option.bind_some, ofDocument_eq_some_iff.mpr holds]
    exact if_neg (not_not.mpr version)

end ConfigFile
end PresenceUnlock
