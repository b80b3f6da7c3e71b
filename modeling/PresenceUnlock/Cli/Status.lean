import PresenceUnlock.Daemon.Control
import PresenceUnlock.Protocol.Config
import PresenceUnlock.Protocol.Evidence

/-!
# Reading a status response

The client takes the lines before the terminator; the live-status screen reads the device rows among
them and searches from the end for the aggregate.
-/

namespace PresenceUnlock

open RustStd Execution

namespace Cli

/-- The lines before the terminator; an error when the connection ends before it. -/
def collectLines : List Text → Option (List Text)
  | [] => none
  | line :: rest =>
      if line = Wire.endWord then some [] else (collectLines rest).map fun lines => line :: lines

/-- What `request_lines` returns for a response. -/
def requestLines (response : Text) : Option (List Text) := collectLines response.lines

/-- What the live-status screen reads from the lines: the rows, and the last aggregate. -/
def readStatus (lines : List Text) : List Wire.DeviceRow × Option Wire.Aggregate :=
  (lines.filterMap Wire.parseDeviceStatus, lines.reverse.findSome? Wire.parseDecision)

/-- What a client reads from the daemon's response. -/
def liveStatus (fleet : Fleet) (nowMs : UInt64) :
    Option (List Wire.DeviceRow × Option Wire.Aggregate) :=
  (requestLines (Control.status fleet nowMs)).map readStatus

/-- The reason a decision carries. -/
def reasonOf : Decision → Option Text
  | .allow => none
  | .deny reason => some reason

/-- The row that says what a device's status says. -/
def rowOf (status : DeviceStatus) : Wire.DeviceRow where
  id := status.id
  profile := status.profile.val.id
  allowed := status.decision = .allow
  reason := reasonOf status.decision
  rssi := status.rssi

/-- The decision, as the first line tells it. -/
def aggregateOf : Decision → Wire.Aggregate
  | .allow => .allow
  | .deny reason => .deny reason

/-- One row for each device in order, and the decision of the fleet. -/
def faithfulStatus (fleet : Fleet) (nowMs : UInt64) :
    List Wire.DeviceRow × Option Wire.Aggregate :=
  ((fleet.report nowMs).map rowOf, some (aggregateOf (fleet.check nowMs)))

/-- A field of a line: nonempty, and without the characters that separate fields. -/
abbrev Field (word : Text) : Prop := Text.Solid Text.isAsciiWhitespace word

/-- The fields that tell whether a device is present. -/
def verdictFields : Decision → List Text
  | .allow => [Wire.allowWord]
  | .deny reason => [Wire.denyWord, reason]

/-- The signal, if there was one. -/
def rssiText : Option Int16 → Text
  | some dbm => Text.ofInt dbm.toInt
  | none => ['-']

/-- The fields of a row. -/
def rowFields (status : DeviceStatus) : List Text :=
  Wire.deviceWord :: status.id :: status.profile.val.id ::
    (verdictFields status.decision ++ [Wire.rssiKey ++ rssiText status.rssi])

theorem render_eq (decision : Decision) :
    Control.render decision = Text.spaced (verdictFields decision) ++ ['\n'] := by
  cases decision with
  | allow => rfl
  | deny reason => simp [Control.render, Wire.deny, verdictFields, Text.spaced]

theorem renderRow_eq (status : DeviceStatus) :
    Control.renderRow status = Text.spaced (rowFields status) ++ ['\n'] := by
  obtain ⟨id, profile, decision, rssi⟩ := status
  cases decision <;> cases rssi <;>
    simp [Control.renderRow, Wire.deviceStatus, rowFields, verdictFields, Control.verdictText,
      rssiText, Text.spaced]

theorem field_of_reason {reason : Text} (given : reason ∈ Wire.fleetReasons) : Field reason := by
  have solid : ∀ reason ∈ Wire.fleetReasons, Field reason := by decide
  exact solid reason given

theorem field_of_profile (profile : BuiltInProfile) : Field profile.val.id := by
  cases profile using Profile.builtIn_cases with
  | apple => decide
  | proximity => decide

theorem field_verdict {decision : Decision}
    (known : ∀ reason ∈ reasonOf decision, reason ∈ Wire.fleetReasons) :
    ∀ field ∈ verdictFields decision, Field field := by
  cases decision with
  | allow => simpa [verdictFields] using (by decide : Field Wire.allowWord)
  | deny reason =>
      have word : Field Wire.denyWord := by decide
      simpa [verdictFields, word] using field_of_reason (known reason rfl)

theorem field_rssi (rssi : Option Int16) : Field (Wire.rssiKey ++ rssiText rssi) := by
  have key : Field Wire.rssiKey := by decide
  have value : Field (rssiText rssi) := by
    cases rssi with
    | none => decide
    | some dbm => exact Text.solid_ofInt dbm.toInt
  exact .append key.nonempty key.unbroken value.unbroken

/-- A row of readable fields. -/
structure Readable (status : DeviceStatus) : Prop where
  /-- The id is a field. -/
  id : Field status.id
  /-- The reason is one of those that the fleet gives. -/
  reason : ∀ reason ∈ reasonOf status.decision, reason ∈ Wire.fleetReasons

theorem field_row {status : DeviceStatus} (readable : Readable status) :
    ∀ field ∈ rowFields status, Field field := by
  intro field member
  simp only [rowFields, List.mem_cons, List.mem_append, List.not_mem_nil, or_false] at member
  rcases member with rfl | rfl | rfl | verdict | rfl
  · decide
  · exact readable.id
  · exact field_of_profile status.profile
  · exact field_verdict readable.reason field verdict
  · exact field_rssi status.rssi

theorem newline_notMem_spaced {fields : List Text} (readable : ∀ field ∈ fields, Field field) :
    '\n' ∉ Text.spaced fields := by
  intro member
  rcases Text.mem_spaced member with space | ⟨field, known, inside⟩
  · exact absurd space (by decide)
  · exact absurd ((readable field known).unbroken _ inside) (by decide)

theorem carriageReturn_notSuffix_spaced {fields : List Text}
    (readable : ∀ field ∈ fields, Field field) : ¬ ['\r'] <:+ Text.spaced fields := by
  intro ends
  rcases Text.mem_spaced (ends.mem (List.mem_singleton_self _)) with space | ⟨field, known, inside⟩
  · exact absurd space (by decide)
  · exact absurd ((readable field known).unbroken _ inside) (by decide)

private theorem stripSuffix_spaced {fields : List Text}
    (readable : ∀ field ∈ fields, Field field) :
    (Text.stripSuffix ['\n'] (Text.spaced fields)).getD (Text.spaced fields) =
      Text.spaced fields := by
  have kept : ¬ ['\n'] <:+ Text.spaced fields := fun ends =>
    newline_notMem_spaced readable (ends.mem (List.mem_singleton_self _))
  simp [Text.stripSuffix, kept]

theorem words_line {fields : List Text} (readable : ∀ field ∈ fields, Field field) :
    Text.splitAsciiWhitespace (Text.spaced fields) = fields :=
  Text.words_spaced rfl readable

theorem parseRssi_rssiText (rssi : Option Int16) :
    Wire.parseRssi (Wire.rssiKey ++ rssiText rssi) = some rssi := by
  rw [Wire.parseRssi, Text.stripPrefix_append]
  cases rssi with
  | none => rfl
  | some dbm =>
      have restored := Text.parseI16_ofInt dbm
      have not_dash : Text.ofInt dbm.toInt ≠ ['-'] := by
        intro dash
        rw [dash] at restored
        cases restored
      simp [rssiText, not_dash, restored]

/-- A readable row is read back as it was written. -/
theorem parseDeviceStatus_row {status : DeviceStatus} (readable : Readable status) :
    Wire.parseDeviceStatus (Text.spaced (rowFields status)) = some (rowOf status) := by
  have fields := field_row readable
  simp only [Wire.parseDeviceStatus, stripSuffix_spaced fields, words_line fields]
  obtain ⟨id, profile, decision, rssi⟩ := status
  cases decision with
  | allow =>
      simp [rowFields, verdictFields, Wire.parseVerdict, parseRssi_rssiText, rowOf, reasonOf]
  | deny reason =>
      have other : Wire.denyWord ≠ Wire.allowWord := by decide
      simp [rowFields, verdictFields, Wire.parseVerdict, other, parseRssi_rssiText, rowOf,
        reasonOf]

theorem parseDeviceStatus_verdict {decision : Decision}
    (known : ∀ reason ∈ reasonOf decision, reason ∈ Wire.fleetReasons) :
    Wire.parseDeviceStatus (Text.spaced (verdictFields decision)) = none := by
  have fields := field_verdict known
  simp only [Wire.parseDeviceStatus, stripSuffix_spaced fields, words_line fields]
  cases decision <;> rfl

theorem parseDecision_verdict {decision : Decision}
    (known : ∀ reason ∈ reasonOf decision, reason ∈ Wire.fleetReasons) :
    Wire.parseDecision (Text.spaced (verdictFields decision)) = some (aggregateOf decision) := by
  have fields := field_verdict known
  simp only [Wire.parseDecision, stripSuffix_spaced fields, words_line fields]
  cases decision with
  | allow => simp [verdictFields, aggregateOf]
  | deny reason => simp [verdictFields, aggregateOf]

theorem reason_of_report {fleet : Fleet} {nowMs : UInt64} {status : DeviceStatus}
    (member : status ∈ fleet.report nowMs) :
    ∀ reason ∈ reasonOf status.decision, reason ∈ Wire.fleetReasons := by
  obtain ⟨device, _, rfl⟩ := List.mem_map.mp member
  intro reason given
  cases decision : device.check nowMs with
  | allow => simp [reasonOf, decision] at given
  | deny other =>
      simp only [reasonOf, decision, Option.mem_some_iff] at given
      exact given ▸ Eligibility.reason_of_check decision

theorem reason_of_fleet (fleet : Fleet) (nowMs : UInt64) :
    ∀ reason ∈ reasonOf (fleet.check nowMs), reason ∈ Wire.fleetReasons := by
  intro reason given
  cases decision : fleet.check nowMs with
  | allow => simp [reasonOf, decision] at given
  | deny other =>
      simp only [reasonOf, decision, Option.mem_some_iff] at given
      exact given ▸ Fleet.reason_of_check decision

/-- The lines of a response: a row for each device, and the verdict. -/
def statusLines (fleet : Fleet) (nowMs : UInt64) : List Text :=
  (fleet.report nowMs).map (fun status => Text.spaced (rowFields status)) ++
    [Text.spaced (verdictFields (fleet.check nowMs))]

theorem status_eq (fleet : Fleet) (nowMs : UInt64) :
    Control.status fleet nowMs =
      (statusLines fleet nowMs).flatMap (fun line => line ++ ['\n']) ++ Wire.respEnd := by
  have rows : (fleet.report nowMs).flatMap Control.renderRow =
      ((fleet.report nowMs).map fun status => Text.spaced (rowFields status)).flatMap
        fun line => line ++ ['\n'] := by
    rw [List.flatMap_map]
    exact List.flatMap_congr fun status _ => renderRow_eq status
  rw [Control.status, statusLines, List.flatMap_append, rows, render_eq]
  simp

theorem collectLines_append {lines : List Text} (open_lines : ∀ line ∈ lines, line ≠ Wire.endWord)
    (rest : List Text) : collectLines (lines ++ Wire.endWord :: rest) = some lines := by
  induction lines with
  | nil => simp [collectLines]
  | cons line lines induction =>
      have later := induction fun other member =>
        open_lines other (List.mem_cons_of_mem line member)
      simp [collectLines, open_lines line List.mem_cons_self, later]

/-- Every line of a readable response is made of fields, and is not the terminator. -/
theorem fields_of_statusLines {fleet : Fleet} {nowMs : UInt64}
    (readable : ∀ status ∈ fleet.report nowMs, Readable status) :
    ∀ line ∈ statusLines fleet nowMs, ∃ fields, line = Text.spaced fields ∧
      (∀ field ∈ fields, Field field) ∧ fields ≠ [Wire.endWord] := by
  intro line member
  rcases List.mem_append.mp member with row | verdict
  · obtain ⟨status, reported, rfl⟩ := List.mem_map.mp row
    exact ⟨_, rfl, field_row (readable status reported), by simp [rowFields]⟩
  · rw [List.mem_singleton.mp verdict]
    refine ⟨_, rfl, field_verdict (reason_of_fleet fleet nowMs), ?_⟩
    cases fleet.check nowMs with
    | allow => exact fun same => absurd same (by decide)
    | deny reason => simp [verdictFields]

/-- With readable rows the client gets back exactly the lines that were written. -/
theorem requestLines_status {fleet : Fleet} {nowMs : UInt64}
    (readable : ∀ status ∈ fleet.report nowMs, Readable status) :
    requestLines (Control.status fleet nowMs) = some (statusLines fleet nowMs) := by
  have fields := fields_of_statusLines readable
  have single : ∀ line ∈ statusLines fleet nowMs, '\n' ∉ line := by
    intro line member
    obtain ⟨fields, rfl, words, _⟩ := fields line member
    exact newline_notMem_spaced words
  have plain : ∀ line ∈ statusLines fleet nowMs, ¬ ['\r'] <:+ line := by
    intro line member
    obtain ⟨fields, rfl, words, _⟩ := fields line member
    exact carriageReturn_notSuffix_spaced words
  have open_lines : ∀ line ∈ statusLines fleet nowMs, line ≠ Wire.endWord := by
    intro line member terminator
    obtain ⟨fields, rfl, words, other⟩ := fields line member
    have read := words_line words
    rw [terminator] at read
    exact other (read.symm.trans (by decide))
  have terminator : Text.lines Wire.respEnd = [Wire.endWord] := by decide
  rw [requestLines, status_eq, Text.lines_flatMap_append single plain, terminator,
    collectLines_append open_lines]

theorem readStatus_statusLines {fleet : Fleet} {nowMs : UInt64}
    (readable : ∀ status ∈ fleet.report nowMs, Readable status) :
    readStatus (statusLines fleet nowMs) = faithfulStatus fleet nowMs := by
  have reasons := reason_of_fleet fleet nowMs
  have rows : ((fleet.report nowMs).map fun status => Text.spaced (rowFields status)).filterMap
      Wire.parseDeviceStatus = (fleet.report nowMs).map rowOf := by
    rw [List.filterMap_map, ← List.filterMap_eq_map]
    exact List.filterMap_congr fun status member => parseDeviceStatus_row (readable status member)
  simp [readStatus, statusLines, faithfulStatus, rows, parseDeviceStatus_verdict reasons,
    parseDecision_verdict reasons]

/-- A row that was read has a readable id, whatever was sent. -/
theorem field_of_parseDeviceStatus {line : Text} {row : Wire.DeviceRow}
    (read : Wire.parseDeviceStatus line = some row) : Field row.id := by
  simp only [Wire.parseDeviceStatus] at read
  split at read
  · rename_i kind id profile fields words
    have member : id ∈ kind :: id :: profile :: fields := by simp
    rw [← words] at member
    split at read
    · cases read
    · simp only [Option.bind_eq_bind, Option.bind_eq_some_iff] at read
      obtain ⟨⟨allowed, reason, rssi, rest⟩, _, read⟩ := read
      split at read
      · cases read
      · simp only [Option.bind_eq_some_iff, Option.some.injEq] at read
        obtain ⟨_, _, rfl⟩ := read
        exact Text.solid_of_mem_words member
  · cases read

/-- The client reads a fleet faithfully exactly when every device id is a readable field. -/
theorem liveStatus_faithful_iff (fleet : Fleet) (nowMs : UInt64) :
    liveStatus fleet nowMs = some (faithfulStatus fleet nowMs) ↔
      ∀ device ∈ fleet.devices, Field device.spec.id := by
  constructor
  · intro faithful device member
    obtain ⟨lines, _, read⟩ := Option.map_eq_some_iff.mp faithful
    have rows : lines.filterMap Wire.parseDeviceStatus = (fleet.report nowMs).map rowOf :=
      congrArg Prod.fst read
    have reported : rowOf ⟨device.spec.id, device.spec.profile, device.check nowMs,
        device.lastRssi⟩ ∈ (fleet.report nowMs).map rowOf :=
      List.mem_map_of_mem (List.mem_map_of_mem member)
    rw [← rows] at reported
    obtain ⟨line, _, parsed⟩ := List.mem_filterMap.mp reported
    exact field_of_parseDeviceStatus parsed
  · intro ids
    have readable : ∀ status ∈ fleet.report nowMs, Readable status := by
      intro status reported
      refine ⟨?_, reason_of_report reported⟩
      obtain ⟨device, member, rfl⟩ := List.mem_map.mp reported
      exact ids device member
    rw [liveStatus, requestLines_status readable, Option.map_some,
      readStatus_statusLines readable]

end Cli

namespace ConfigFile

/-- The fleet of an accepted configuration, after any calls, is read faithfully at any time exactly
when every id of the file is nonempty and free of ASCII whitespace. -/
theorem status_lossless_iff {crates : Crates} {config : ConfigFile} {settings : Settings}
    (accepted : config.resolve crates = .ok settings) (history : List FleetEvent)
    (nowMs : UInt64) :
    let fleet := run Fleet.step (Fleet.new settings.devices settings.multiDeviceAuth) history
    Cli.liveStatus fleet nowMs = some (Cli.faithfulStatus fleet nowMs) ↔
      ∀ entry ∈ config.devices,
        entry.id ≠ [] ∧ ∀ c ∈ entry.id, Text.isAsciiWhitespace c = false := by
  intro fleet
  have same_ids : fleet.devices.map (fun device => device.spec.id) =
      config.devices.map DeviceEntry.id := by
    rw [← ids_of_resolve accepted]
    simp [fleet, Fleet.devices_run_new, Function.comp_def]
  have members : (∀ device ∈ fleet.devices, Cli.Field device.spec.id) ↔
      ∀ entry ∈ config.devices, Cli.Field entry.id := by
    have left := List.forall_mem_map (l := fleet.devices) (f := fun device => device.spec.id)
      (P := Cli.Field)
    rw [← left, same_ids, List.forall_mem_map]
  rw [Cli.liveStatus_faithful_iff, members]
  exact forall₂_congr fun entry _ => ⟨fun field => ⟨field.nonempty, field.unbroken⟩,
    fun field => ⟨field.1, field.2⟩⟩

theorem status_lossless_iff_one_watch :
    ∃ settings, ConfigFile.resolve plainCrates
        ⟨currentSchema, none, none, [plainEntry "watch".toList "Pixel Watch".toList]⟩ =
          .ok settings ∧
      Cli.liveStatus (Fleet.new settings.devices settings.multiDeviceAuth) 1000 =
        some (Cli.faithfulStatus (Fleet.new settings.devices settings.multiDeviceAuth) 1000) := by
  have accepted : ConfigFile.resolve plainCrates
      ⟨currentSchema, none, none, [plainEntry "watch".toList "Pixel Watch".toList]⟩ = .ok _ := rfl
  refine ⟨_, accepted, (status_lossless_iff accepted [] 1000).mpr ?_⟩
  intro entry member
  have readable : Cli.Field "watch".toList := by decide
  rw [List.mem_singleton.mp member]
  exact ⟨readable.nonempty, readable.unbroken⟩

/-- An id with a blank is accepted, and its row does not come back. -/
theorem status_lossy :
    ¬ ∀ (crates : Crates) (config : ConfigFile) (settings : Settings),
      config.resolve crates = .ok settings → ∀ (history : List FleetEvent) (nowMs : UInt64),
        let fleet := run Fleet.step (Fleet.new settings.devices settings.multiDeviceAuth) history
        Cli.liveStatus fleet nowMs = some (Cli.faithfulStatus fleet nowMs) := by
  intro claim
  have faithful := claim plainCrates
    ⟨currentSchema, none, none, [plainEntry "my watch".toList "Pixel Watch".toList]⟩ _ rfl [] 1000
  have field := (Cli.liveStatus_faithful_iff _ _).mp faithful _ List.mem_cons_self
  exact absurd (field.unbroken ' ' (by decide)) (by decide)

end ConfigFile
end PresenceUnlock
