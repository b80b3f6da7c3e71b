import PresenceUnlock.Cli.Edits
import PresenceUnlock.Cli.Pairing
import PresenceUnlock.Execution

/-!
# Two enrollments at once

An enrollment reads the file without the lock to choose an id, and then adds its device under the
lock.  Between the two, another enrollment can choose an id and add its device as well.
-/

namespace PresenceUnlock.Cli

open RustStd RustStd.Result

/-- The candidates after a taken base, in order. -/
def suffixedIds (base : Text) (taken : List Text) : List Text :=
  (List.range' 2 (taken.length + 1)).map fun suffix => base ++ '-' :: Text.ofNat suffix

/-- Of one more candidate than there are ids, one is free. -/
theorem exists_free_candidate (base : Text) (taken : List Text) :
    ∃ candidate ∈ suffixedIds base taken, candidate ∉ taken := by
  by_contra none_free
  have all_taken : suffixedIds base taken ⊆ taken := by
    intro candidate member
    by_contra free
    exact none_free ⟨candidate, member, free⟩
  have distinct : (suffixedIds base taken).Nodup := by
    apply List.Nodup.map _ List.nodup_range'
    intro left right same
    exact Text.ofNat_injective (List.cons.inj (List.append_cancel_left same)).2
  have bound := distinct.length_le_of_subset all_taken
  rw [suffixedIds, List.length_map, List.length_range'] at bound
  omega

theorem find?_suffixedIds (base : Text) (taken : List Text) :
    ∃ candidate, (suffixedIds base taken).find? (fun candidate => candidate ∉ taken) =
      some candidate := by
  obtain ⟨candidate, member, free⟩ := exists_free_candidate base taken
  cases found : (suffixedIds base taken).find? fun candidate => candidate ∉ taken with
  | some chosen => exact ⟨chosen, rfl⟩
  | none => exact absurd (decide_eq_true free) (List.find?_eq_none.mp found candidate member)

/-- A derived id is new, unless an entry has the address. -/
theorem deriveId_cases (entries : List DeviceEntry) (name address : Option Text) :
    deriveId entries name address ∉ entries.map DeviceEntry.id ∨
      ∃ entry ∈ entries, entry.id = deriveId entries name address ∧
        ∃ given known, address = some given ∧ entry.address = some known ∧
          known.eqIgnoreAsciiCase given = true := by
  rw [deriveId]
  simp only
  split
  · rename_i entry existing
    obtain ⟨given, rfl, found⟩ := Option.bind_eq_some_iff.mp existing
    have has_address := List.find?_some found
    obtain ⟨known, at_entry, same⟩ := (Option.any_eq_true _ _).mp has_address
    exact .inr ⟨entry, List.mem_of_find?_eq_some found, rfl, given, known, rfl, at_entry, same⟩
  · left
    split
    · assumption
    · generalize ((name.bind slug).or (address.bind slug)).getD fallbackId = base
      obtain ⟨candidate, found⟩ := find?_suffixedIds base (entries.map DeviceEntry.id)
      have free := List.find?_some found
      rw [suffixedIds] at found
      rw [found, Option.getD_some]
      exact of_decide_eq_true free

theorem idForIrk_eq_some {entries : List DeviceEntry} {irkBase64 id : Text}
    (found : idForIrk entries irkBase64 = some id) :
    ∃ entry ∈ entries, entry.id = id ∧ entry.irkBase64 = some irkBase64 := by
  obtain ⟨entry, first, rfl⟩ := Option.map_eq_some_iff.mp found
  have has_key := List.find?_some first
  exact ⟨entry, List.mem_of_find?_eq_some first, rfl, eq_of_beq has_key⟩

section Store

variable {Source : Type} {crates : Crates} {toml : Toml Source}

/-- The entries of a file that resolves, and the tables they are read from. -/
theorem exists_tables_of_resolves (lawful : toml.Lawful) {store : Option Source}
    (resolves : Resolves crates toml (contents toml store)) :
    ∃ config document, toml.parse (contents toml store) = some document ∧
      ConfigFile.Holds document config ∧ config.devices.Pairwise (DeviceEntry.Apart crates) ∧
      loadDevices toml store = config.devices := by
  obtain ⟨settings, valid⟩ := resolves
  obtain ⟨config, parsed, accepted⟩ := validate_eq_ok_iff.mp valid
  obtain ⟨document, read, holds, _⟩ := ConfigFile.parse_eq_ok_iff.mp parsed
  refine ⟨config, document, read, holds,
    ((config.resolve_eq_ok_iff crates settings).mp accepted).2.2.1, ?_⟩
  cases store with
  | some source =>
      rw [contents, Option.getD_some] at parsed
      simp [loadDevices, parsed, Except.toOption]
  | none =>
      obtain ⟨vacant, _, parsed', empty, _⟩ := vacant_emptyDocument lawful
      rw [contents, Option.getD_none] at parsed
      cases parsed.symm.trans parsed'
      exact ((config.resolve_eq_ok_iff crates settings).mp accepted).1.elim empty

/-- Ids are unique in a file that resolves. -/
theorem eq_of_id_eq (lawful : toml.Lawful) {store : Option Source}
    (resolves : Resolves crates toml (contents toml store)) {entry entry' : DeviceEntry}
    (member : entry ∈ loadDevices toml store) (member' : entry' ∈ loadDevices toml store)
    (same : entry.id = entry'.id) : entry = entry' := by
  obtain ⟨config, _, _, _, apart, loaded⟩ := exists_tables_of_resolves lawful resolves
  rw [loaded] at member member'
  have distinct : (config.devices.map DeviceEntry.id).Nodup :=
    List.pairwise_map.mpr (apart.imp fun apart => apart.id)
  exact List.inj_on_of_nodup_map distinct member member' same

/-- The entries of other devices are the ones of the other tables. -/
theorem mem_entries_iff {tables : List Table} {entries : List DeviceEntry}
    (read : List.Forall₂ DeviceEntry.Holds tables entries) {id : Text} {entry : DeviceEntry}
    (other : entry.id ≠ id) :
    entry ∈ entries ↔ ∃ table ∈ otherTables id tables, DeviceEntry.Holds table entry := by
  constructor
  · intro member
    obtain ⟨table, known, holds⟩ := exists_left_of_forall₂ read member
    refine ⟨table, List.mem_filter.mpr ⟨known, ?_⟩, holds⟩
    rw [Bool.not_eq_true', hasId, decide_eq_false_iff_not]
    intro named
    have same := holds.id
    rw [named] at same
    exact other (by simpa [readString, eq_comm] using same)
  · rintro ⟨table, known, holds⟩
    obtain ⟨entry', member, holds'⟩ := exists_right_of_forall₂ read (List.mem_of_mem_filter known)
    rw [← DeviceEntry.ofTable_eq_some_iff] at holds holds'
    rw [Option.some.inj (holds.symm.trans holds')]
    exact member

variable [DecidableEq Source]

/-- A successful addition leaves the added entry and the entries under other ids. -/
theorem entries_add (lawful : toml.Lawful) {store after : Option Source}
    (resolves : Resolves crates toml (contents toml store)) {id profile : Text}
    {criteria : Criteria} {overrides : Overrides}
    (added : add crates toml id profile criteria overrides store = (.ok (), after)) :
    Resolves crates toml (contents toml after) ∧
      (∃ window, replacedEntry profile criteria overrides id window ∈ loadDevices toml after) ∧
      ∀ entry, entry.id ≠ id →
        (entry ∈ loadDevices toml after ↔ entry ∈ loadDevices toml store) := by
  obtain ⟨tables, devices, parsed, settings, valid⟩ := storedDocument_add lawful added
  have resolves' : Resolves crates toml (contents toml after) := ⟨settings, valid⟩
  obtain ⟨config, document, read, holds, _, loaded⟩ := exists_tables_of_resolves lawful resolves
  obtain ⟨config', document', read', holds', _, loaded'⟩ :=
    exists_tables_of_resolves lawful resolves'
  rw [storedDocument_eq read] at devices parsed
  obtain rfl := Option.some.inj (read'.symm.trans parsed)
  have entries := entries_of_deviceArray holds devices
  have entries' := entries_of_deviceArray holds' (deviceArray_withDevices _ _)
  refine ⟨resolves', ?_, fun entry other => ?_⟩
  · obtain ⟨front, back, written, _⟩ :=
      upsert_eq id (rewriteTable profile criteria overrides) tables
    rw [written] at entries'
    obtain ⟨entry, member, entry_holds⟩ := exists_right_of_forall₂ entries'
      (List.mem_append_right front List.mem_cons_self)
    obtain ⟨_, entry_eq⟩ := eq_replacedEntry (hasId_previousTable id tables) entry_holds
    refine ⟨entry.sampleWindowMs, ?_⟩
    rw [loaded', ← entry_eq]
    exact member
  · rw [loaded, loaded', mem_entries_iff entries other, mem_entries_iff entries' other,
      otherTables_upsert (fun table named => hasId_rewriteTable named) tables]

end Store

/-- What an enrollment is given: a key to look up first, what an id is derived from, and the entry
to write, which has that key and that address. -/
structure Enrollment where
  /-- The key to look for, if the enrollment is by key. -/
  byKey : Option Text
  /-- The name that the device tells. -/
  name : Option Text
  /-- The address that the device has. -/
  address : Option Text
  /-- The profile to write. -/
  profile : Text
  /-- The criteria to write. -/
  criteria : Criteria
  /-- The policy to write. -/
  overrides : Overrides
  /-- It writes the key that it looks for. -/
  key_given : ∀ key, byKey = some key → criteria.irkBase64 = some key
  /-- It writes the address that it has. -/
  address_given : ∀ given, address = some given → criteria.address = some given

namespace Enrollment

/-- `enroll_irk` without an id of its own. -/
def captured (crates : Crates) (irk : Key) (profile : Text) (name : Option Text) : Enrollment where
  byKey := some (crates.base64Encode irk.toList)
  name := name
  address := none
  profile := profile
  criteria := irkCriteria (crates.base64Encode irk.toList)
  overrides := noOverrides
  key_given _ same := same
  address_given _ same := nomatch same

/-- A device in range, recognised by its address. -/
def proximity (peerAlias : Option Text) (address : Text) : Enrollment where
  byKey := none
  name := peerAlias
  address := some address
  profile := ProximityOnly.id
  criteria := ⟨none, some address, none, none⟩
  overrides := noOverrides
  key_given _ same := nomatch same
  address_given _ same := same

/-- An entry of the device that is enrolled: it has the key, or the address. -/
def SameDevice (enrollment : Enrollment) (entry : DeviceEntry) : Prop :=
  (∃ key, enrollment.byKey = some key ∧ entry.irkBase64 = some key) ∨
    ∃ given known, enrollment.address = some given ∧ entry.address = some known ∧
      known.eqIgnoreAsciiCase given = true

/-- Two devices that are not the same: they share no key and no address. -/
structure Apart (enrollment other : Enrollment) : Prop where
  /-- They differ in a criterion. -/
  criteria : enrollment.criteria ≠ other.criteria
  /-- They do not share a key. -/
  key : ∀ key, enrollment.criteria.irkBase64 = some key → other.criteria.irkBase64 ≠ some key
  /-- They do not share an address. -/
  address : ∀ known given, enrollment.criteria.address = some known →
    other.criteria.address = some given → known.eqIgnoreAsciiCase given = false

/-- The id that one file gives an enrollment. -/
def chooseId (enrollment : Enrollment) (entries : List DeviceEntry) : Text :=
  (enrollment.byKey.bind (idForIrk entries)).getD
    (deriveId entries enrollment.name enrollment.address)

end Enrollment

/-- What an enrollment is about to do: look its key up, derive an id, or add its device. -/
inductive EnrollPhase
  | begun
  | unknownKey
  | chosen (id : Text)
  | finished (id : Text) (result : Except EditError Unit)

/-- The next read of the file for an id. -/
def EnrollPhase.read (enrollment : Enrollment) (entries : List DeviceEntry) :
    EnrollPhase → EnrollPhase
  | .begun =>
      match enrollment.byKey with
      | none => .chosen (deriveId entries enrollment.name enrollment.address)
      | some key =>
          match idForIrk entries key with
          | none => .unknownKey
          | some id => .chosen id
  | .unknownKey => .chosen (deriveId entries enrollment.name enrollment.address)
  | phase => phase

/-- The file and the two enrollments. -/
structure Enrolling (Source : Type) where
  /-- The file. -/
  store : Option Source
  /-- Where each enrollment is. -/
  phase : Bool → EnrollPhase

namespace Enrolling

section Step

variable {Source : Type} [DecidableEq Source] (crates : Crates) (toml : Toml Source)
  (enrollments : Bool → Enrollment)

/-- The locked part of an enrollment. -/
def addAs (who : Bool) (id : Text) : Option Source → Except EditError Unit × Option Source :=
  add crates toml id (enrollments who).profile (enrollments who).criteria
    (enrollments who).overrides

/-- The next step of one of them. -/
def step (state : Enrolling Source) (who : Bool) : Enrolling Source :=
  match state.phase who with
  | .chosen id =>
      let added := addAs crates toml enrollments who id state.store
      ⟨added.2, Function.update state.phase who (.finished id added.1)⟩
  | phase =>
      ⟨state.store, Function.update state.phase who
        (phase.read (enrollments who) (loadDevices toml state.store))⟩

/-- The runs of two enrollments, in any order of their steps. -/
abbrev Interleaves (start : Enrolling Source)
    (past : List (Execution.Recorded (Enrolling Source) Bool)) (state : Enrolling Source) : Prop :=
  Execution.Reaches (fun _ _ => True) (step crates toml enrollments) start past state

end Step

/-- One of them finds its id before the other one has written anything. -/
def DecidesEarly {Source : Type} (toml : Toml Source) (enrollments : Bool → Enrollment) (who : Bool)
    (taken : Execution.Recorded (Enrolling Source) Bool) : Prop :=
  taken.2 = who ∧ (taken.1.phase who = .begun ∨ taken.1.phase who = .unknownKey) ∧
    (∃ id, (taken.1.phase who).read (enrollments who) (loadDevices toml taken.1.store) =
      .chosen id) ∧
    ∀ id result, taken.1.phase (!who) ≠ .finished id result

section Choice

variable {Source : Type} {crates : Crates} {toml : Toml Source} {enrollment : Enrollment}
  {entries : List DeviceEntry} {phase : EnrollPhase}

/-- A chosen id is new, or it is the id of the same device. -/
theorem chosen_cases (open_phase : phase = .begun ∨ phase = .unknownKey) {id : Text}
    (chosen : phase.read enrollment entries = .chosen id) :
    id ∉ entries.map DeviceEntry.id ∨
      ∃ entry ∈ entries, entry.id = id ∧ enrollment.SameDevice entry := by
  have derived : deriveId entries enrollment.name enrollment.address = id →
      id ∉ entries.map DeviceEntry.id ∨
        ∃ entry ∈ entries, entry.id = id ∧ enrollment.SameDevice entry := by
    rintro rfl
    rcases deriveId_cases entries enrollment.name enrollment.address with
      free | ⟨entry, member, same_id, address⟩
    · exact .inl free
    · exact .inr ⟨entry, member, same_id, .inr address⟩
  rcases open_phase with rfl | rfl
  · rw [EnrollPhase.read] at chosen
    split at chosen
    · exact derived (EnrollPhase.chosen.inj chosen)
    · rename_i key by_key
      split at chosen
      · cases chosen
      · rename_i found
        cases chosen
        obtain ⟨entry, member, same_id, has_key⟩ := idForIrk_eq_some found
        exact .inr ⟨entry, member, same_id, .inl ⟨key, by_key, has_key⟩⟩
  · exact derived (EnrollPhase.chosen.inj chosen)

/-- What is read from one file is the id that it gives. -/
theorem chooseId_of_read
    (open_phase : phase = .begun ∨ phase = .unknownKey ∧
      enrollment.byKey.bind (idForIrk entries) = none) {id : Text}
    (chosen : phase.read enrollment entries = .chosen id) : enrollment.chooseId entries = id := by
  rw [Enrollment.chooseId]
  rcases open_phase with rfl | ⟨rfl, unknown⟩
  · rw [EnrollPhase.read] at chosen
    split at chosen
    · rename_i no_key
      rw [no_key]
      exact EnrollPhase.chosen.inj chosen
    · rename_i key by_key
      split at chosen
      · cases chosen
      · rename_i found
        rw [by_key, Option.bind_some, found]
        exact EnrollPhase.chosen.inj chosen
  · rw [unknown]
    exact EnrollPhase.chosen.inj chosen

theorem read_unknownKey (open_phase : phase = .begun ∨ phase = .unknownKey)
    (unknown : phase.read enrollment entries = .unknownKey) :
    enrollment.byKey.bind (idForIrk entries) = none := by
  rcases open_phase with rfl | rfl
  · rw [EnrollPhase.read] at unknown
    split at unknown
    · cases unknown
    · rename_i by_key
      split at unknown
      · rename_i missing
        rw [by_key]
        exact missing
      · cases unknown
  · cases unknown

theorem read_eq_finished_iff {id : Text} {result : Except EditError Unit} :
    phase.read enrollment entries = .finished id result ↔ phase = .finished id result := by
  cases phase with
  | begun =>
      rw [EnrollPhase.read]
      split
      · simp
      · split <;> simp
  | _ => simp [EnrollPhase.read]

theorem read_of_not_open (closed : ¬ (phase = .begun ∨ phase = .unknownKey)) :
    phase.read enrollment entries = phase := by
  cases phase with
  | begun => exact (closed (.inl rfl)).elim
  | unknownKey => exact (closed (.inr rfl)).elim
  | _ => rfl

end Choice

section Run

variable {Source : Type} [DecidableEq Source] {crates : Crates} {toml : Toml Source}
  {enrollments : Bool → Enrollment} {start state : Enrolling Source} {who : Bool}

/-- The file is the result of the successful additions so far. -/
inductive Written (crates : Crates) (toml : Toml Source) (enrollments : Bool → Enrollment)
    (start : Enrolling Source) (state : Enrolling Source) : Prop
  | nothing : (∀ who id, state.phase who ≠ .finished id (.ok ())) → state.store = start.store →
      Written crates toml enrollments start state
  | one (who : Bool) (id : Text) : state.phase who = .finished id (.ok ()) →
      (∀ id, state.phase (!who) ≠ .finished id (.ok ())) →
      addAs crates toml enrollments who id start.store = (.ok (), state.store) →
      Written crates toml enrollments start state
  | both (who : Bool) (id id' : Text) (between : Option Source) :
      state.phase who = .finished id (.ok ()) → state.phase (!who) = .finished id' (.ok ()) →
      addAs crates toml enrollments who id start.store = (.ok (), between) →
      addAs crates toml enrollments (!who) id' between = (.ok (), state.store) →
      Written crates toml enrollments start state

theorem phase_step_not (crates : Crates) (toml : Toml Source) (enrollments : Bool → Enrollment)
    (state : Enrolling Source) (who : Bool) :
    (step crates toml enrollments state who).phase (!who) = state.phase (!who) := by
  have different : (!who) ≠ who := by simp
  rw [step]
  split <;> simp only [Function.update_of_ne different]

theorem addAs_of_error {id : Text} {error : EditError} {store : Option Source}
    (failed : (addAs crates toml enrollments who id store).1 = .error error) :
    (addAs crates toml enrollments who id store).2 = store :=
  updateAtomic_of_error failed

theorem step_cases (crates : Crates) (toml : Toml Source) (enrollments : Bool → Enrollment)
    (state : Enrolling Source) (who : Bool) :
    (∃ id result, state.phase who = .chosen id ∧
      addAs crates toml enrollments who id state.store =
        (result, (step crates toml enrollments state who).store) ∧
      (step crates toml enrollments state who).phase who = .finished id result) ∨
    (∀ id, state.phase who ≠ .chosen id) ∧
      (step crates toml enrollments state who).store = state.store ∧
      (step crates toml enrollments state who).phase who =
        (state.phase who).read (enrollments who) (loadDevices toml state.store) := by
  rw [step]
  split
  · rename_i id chosen
    exact .inl ⟨id, _, chosen, rfl, Function.update_self ..⟩
  · rename_i not_chosen
    exact .inr ⟨not_chosen, rfl, Function.update_self ..⟩

/-- What is known about an id that one of them has chosen: it is the one that the file gave at the
start, or the other one's device was there already. -/
structure Decided (toml : Toml Source) (enrollments : Bool → Enrollment) (start : Enrolling Source)
    (state : Enrolling Source) (who : Bool) (early : Prop) (id : Text) : Prop where
  /-- An id chosen early is chosen from the file at the start. -/
  first : early → (enrollments who).chooseId (loadDevices toml start.store) = id
  /-- One chosen later is chosen once the other enrollment is over, and not its id. -/
  second : ¬ early → ∃ other result, state.phase (!who) = .finished other result ∧
    (result = .ok () → other ≠ id)
  /-- What had the id at the start is the same device. -/
  same : ∀ entry ∈ loadDevices toml start.store, entry.id = id →
    (enrollments who).SameDevice entry

/-- The invariant of a run. -/
structure Known (crates : Crates) (toml : Toml Source) (enrollments : Bool → Enrollment)
    (start : Enrolling Source) (past : List (Execution.Recorded (Enrolling Source) Bool))
    (state : Enrolling Source) : Prop where
  /-- The file is what the enrollments made of it. -/
  written : Written crates toml enrollments start state
  /-- A key that was not found is not there, unless the other enrollment added it. -/
  unknown : ∀ who, state.phase who = .unknownKey →
    (∀ id result, state.phase (!who) ≠ .finished id result) →
      (enrollments who).byKey.bind (idForIrk (loadDevices toml start.store)) = none
  /-- Until an id is chosen, none was chosen early. -/
  undecided : ∀ who, state.phase who = .begun ∨ state.phase who = .unknownKey →
    ∀ taken ∈ past, ¬ DecidesEarly toml enrollments who taken
  /-- A chosen id is one that may be written. -/
  decided : ∀ who id,
      state.phase who = .chosen id ∨ (∃ result, state.phase who = .finished id result) →
    Decided toml enrollments start state who
      (∃ taken ∈ past, DecidesEarly toml enrollments who taken) id

theorem ne_of_sameDevice {other : Enrollment} {enrollment : Enrollment}
    (apart : other.Apart enrollment) {id : Text} {window : Option UInt64} :
    ¬ enrollment.SameDevice
      (replacedEntry other.profile other.criteria other.overrides id window) := by
  rintro (⟨key, by_key, has_key⟩ | ⟨given, known, at_address, has_address, same⟩)
  · exact apart.key key has_key (enrollment.key_given key by_key)
  · rw [apart.address known given has_address (enrollment.address_given given at_address)] at same
    cases same

/-- The id that is chosen now. -/
theorem decided_now (lawful : toml.Lawful)
    (resolves : Resolves crates toml (contents toml start.store))
    (apart : ∀ who, (enrollments (!who)).Apart (enrollments who))
    {past : List (Execution.Recorded (Enrolling Source) Bool)}
    (known : Known crates toml enrollments start past state)
    (open_phase : state.phase who = .begun ∨ state.phase who = .unknownKey) {id : Text}
    (chosen : (state.phase who).read (enrollments who) (loadDevices toml state.store) =
      .chosen id) :
    Decided toml enrollments start state who
      (∀ id result, state.phase (!who) ≠ .finished id result) id := by
  have not_finished : ∀ id result, state.phase who ≠ .finished id result := by
    rintro id result finished
    rcases open_phase with begun | unknown
    · cases begun.symm.trans finished
    · cases unknown.symm.trans finished
  cases known.written with
  | nothing none_added same_store =>
      rw [same_store] at chosen
      refine ⟨fun early => ?_, fun late => ?_, fun entry member same_id => ?_⟩
      · exact chooseId_of_read (open_phase.imp_right fun unknown =>
          ⟨unknown, known.unknown who unknown early⟩) chosen
      · push Not at late
        obtain ⟨other, result, finished⟩ := late
        refine ⟨other, result, finished, ?_⟩
        rintro rfl
        exact (none_added _ _ finished).elim
      · rcases chosen_cases open_phase chosen with free | ⟨entry', member', same_id', same⟩
        · exact (free (List.mem_map.mpr ⟨entry, member, same_id⟩)).elim
        · rw [eq_of_id_eq lawful resolves member member' (same_id.trans same_id'.symm)]
          exact same
  | one writer other finished _ added =>
      have writer_eq : writer = !who := by
        apply Bool.eq_not.mpr
        rintro rfl
        exact not_finished _ _ finished
      subst writer_eq
      obtain ⟨resolves', ⟨window, added_member⟩, others⟩ := entries_add lawful resolves added
      have different : other ≠ id := by
        rintro rfl
        rcases chosen_cases open_phase chosen with free | ⟨entry, member, same_id, same⟩
        · exact free (List.mem_map.mpr ⟨_, added_member, rfl⟩)
        · rw [eq_of_id_eq lawful resolves' member added_member same_id] at same
          exact ne_of_sameDevice (apart who) same
      refine ⟨fun early => (early _ _ finished).elim,
        fun _ => ⟨other, _, finished, fun _ => different⟩,
        fun entry member same_id => ?_⟩
      have still := (others entry (by rw [same_id]; exact different.symm)).mpr member
      rcases chosen_cases open_phase chosen with free | ⟨entry', member', same_id', same⟩
      · exact (free (List.mem_map.mpr ⟨entry, still, same_id⟩)).elim
      · rw [eq_of_id_eq lawful resolves' still member' (same_id.trans same_id'.symm)]
        exact same
  | both writer _ _ _ finished finished' =>
      rcases Bool.eq_or_eq_not who writer with rfl | rfl
      · exact (not_finished _ _ finished).elim
      · exact (not_finished _ _ finished').elim

/-- A step that adds nothing leaves what was written. -/
theorem Written.of_same {state' : Enrolling Source}
    (written : Written crates toml enrollments start state) (store : state'.store = state.store)
    (phases : ∀ who id, state'.phase who = .finished id (.ok ()) ↔
      state.phase who = .finished id (.ok ())) :
    Written crates toml enrollments start state' := by
  cases written with
  | nothing none_added same_store =>
      exact .nothing (fun who id => mt (phases who id).mp (none_added who id))
        (store.trans same_store)
  | one who id finished alone added =>
      exact .one who id ((phases who id).mpr finished)
        (fun id => mt (phases (!who) id).mp (alone id)) (by rw [store]; exact added)
  | both who id id' between finished finished' added added' =>
      exact .both who id id' between ((phases who id).mpr finished)
        ((phases (!who) id').mpr finished')
        added (by rw [store]; exact added')

theorem Written.step (written : Written crates toml enrollments start state) (who : Bool) :
    Written crates toml enrollments start (step crates toml enrollments state who) := by
  have other_kept := phase_step_not crates toml enrollments state who
  rcases step_cases crates toml enrollments state who with
    ⟨id, result, chosen, added, finished⟩ | ⟨_, same_store, read⟩
  · cases result with
    | error error =>
        have left := addAs_of_error (congrArg Prod.fst added)
        rw [added] at left
        apply written.of_same left
        intro someone id'
        rcases Bool.eq_or_eq_not someone who with rfl | rfl
        · simp [finished, chosen]
        · rw [other_kept]
    | ok _ =>
        cases written with
        | nothing none_added same_store =>
            refine .one who id finished (fun id' => ?_) ?_
            · rw [other_kept]
              exact none_added _ _
            · rw [← same_store]
              exact added
        | one writer id' writer_finished _ writer_added =>
            have writer_eq : writer = !who := by
              apply Bool.eq_not.mpr
              rintro rfl
              cases chosen.symm.trans writer_finished
            subst writer_eq
            refine .both (!who) id' id state.store ?_ ?_ writer_added ?_
            · rw [other_kept]
              exact writer_finished
            · rw [Bool.not_not]
              exact finished
            · rw [Bool.not_not]
              exact added
        | both writer _ _ _ finished finished' =>
            rcases Bool.eq_or_eq_not who writer with rfl | rfl
            · cases chosen.symm.trans finished
            · cases chosen.symm.trans finished'
  · apply written.of_same same_store
    intro someone id
    rcases Bool.eq_or_eq_not someone who with rfl | rfl
    · rw [read, read_eq_finished_iff]
    · rw [other_kept]

/-- A finished enrollment stays finished. -/
theorem finished_step {id : Text} {result : Except EditError Unit} (who : Bool) {someone : Bool}
    (finished : state.phase someone = .finished id result) :
    (step crates toml enrollments state who).phase someone = .finished id result := by
  rcases Bool.eq_or_eq_not someone who with rfl | rfl
  · rcases step_cases crates toml enrollments state someone with ⟨_, _, chosen, _⟩ | ⟨_, _, read⟩
    · cases chosen.symm.trans finished
    · rw [read, read_eq_finished_iff]
      exact finished
  · rw [phase_step_not]
    exact finished

/-- What is known about a chosen id is still known after a step of either enrollment. -/
theorem Decided.step {who : Bool} {early : Prop} {id : Text}
    (decided : Decided toml enrollments start state who early id) (actor : Bool) :
    Decided toml enrollments start (step crates toml enrollments state actor) who early id where
  first := decided.first
  second late := by
    obtain ⟨other, result, finished, different⟩ := decided.second late
    exact ⟨other, result, finished_step actor finished, different⟩
  same := decided.same

omit [DecidableEq Source] in
theorem Decided.congr {who : Bool} {early early' : Prop} {id : Text}
    (decided : Decided toml enrollments start state who early id) (same : early' ↔ early) :
    Decided toml enrollments start state who early' id := by
  rw [propext same]
  exact decided

theorem Written.store_eq (written : Written crates toml enrollments start state)
    (unfinished : ∀ who id result, state.phase who ≠ .finished id result) :
    state.store = start.store := by
  cases written with
  | nothing _ same_store => exact same_store
  | one who id finished => exact (unfinished who id _ finished).elim
  | both who id _ _ finished => exact (unfinished who id _ finished).elim

omit [DecidableEq Source] in
/-- Which steps so far were early decisions, after one more step. -/
theorem early_concat {past : List (Execution.Recorded (Enrolling Source) Bool)} {actor : Bool} :
    (∃ taken ∈ past ++ [(state, actor)], DecidesEarly toml enrollments who taken) ↔
      (∃ taken ∈ past, DecidesEarly toml enrollments who taken) ∨
        DecidesEarly toml enrollments who (state, actor) := by
  simp [or_and_right, exists_or]

section KnownStep

variable {past : List (Execution.Recorded (Enrolling Source) Bool)}

theorem Known.unknown_step (known : Known crates toml enrollments start past state) (actor : Bool)
    (at_phase : (step crates toml enrollments state actor).phase who = .unknownKey)
    (unfinished : ∀ id result,
      (step crates toml enrollments state actor).phase (!who) ≠ .finished id result) :
    (enrollments who).byKey.bind (idForIrk (loadDevices toml start.store)) = none := by
  have unfinished_before : ∀ id result, state.phase (!who) ≠ .finished id result :=
    fun id result finished => unfinished id result (finished_step actor finished)
  rcases Bool.eq_or_eq_not who actor with rfl | rfl
  · rcases step_cases crates toml enrollments state who with
      ⟨_, _, _, _, finished⟩ | ⟨_, _, read⟩
    · cases finished.symm.trans at_phase
    · rw [read] at at_phase
      have open_phase : state.phase who = .begun ∨ state.phase who = .unknownKey := by
        by_contra closed
        rw [read_of_not_open closed] at at_phase
        exact closed (.inr at_phase)
      have same_store := known.written.store_eq fun someone id result finished => by
        rcases Bool.eq_or_eq_not someone who with rfl | rfl
        · rcases open_phase with begun | unknown
          · cases begun.symm.trans finished
          · cases unknown.symm.trans finished
        · exact unfinished_before id result finished
      rw [← same_store]
      exact read_unknownKey open_phase at_phase
  · rw [phase_step_not] at at_phase
    exact known.unknown _ at_phase unfinished_before

theorem Known.undecided_step (known : Known crates toml enrollments start past state)
    (actor : Bool) (open_phase : (step crates toml enrollments state actor).phase who = .begun ∨
      (step crates toml enrollments state actor).phase who = .unknownKey) :
    ¬ ∃ taken ∈ past ++ [(state, actor)], DecidesEarly toml enrollments who taken := by
  rw [early_concat]
  rintro (⟨taken, member, early⟩ | ⟨rfl, _, ⟨id, chosen⟩, _⟩)
  · refine known.undecided who ?_ taken member early
    rcases Bool.eq_or_eq_not who actor with rfl | rfl
    · by_contra closed
      rcases step_cases crates toml enrollments state who with
        ⟨_, _, _, _, finished⟩ | ⟨_, _, read⟩
      · rw [finished] at open_phase
        rcases open_phase with begun | unknown
        · cases begun
        · cases unknown
      · rw [read, read_of_not_open closed] at open_phase
        exact closed open_phase
    · rw [phase_step_not] at open_phase
      exact open_phase
  · rcases step_cases crates toml enrollments state actor with ⟨_, _, _, _, finished⟩ | ⟨_, _, read⟩
    · rw [finished] at open_phase
      rcases open_phase with begun | unknown
      · cases begun
      · cases unknown
    · rw [read, chosen] at open_phase
      rcases open_phase with begun | unknown
      · cases begun
      · cases unknown

theorem Known.decided_step (lawful : toml.Lawful)
    (resolves : Resolves crates toml (contents toml start.store))
    (apart : ∀ who, (enrollments (!who)).Apart (enrollments who))
    (known : Known crates toml enrollments start past state) (actor : Bool) {id : Text}
    (at_phase : (step crates toml enrollments state actor).phase who = .chosen id ∨
      ∃ result, (step crates toml enrollments state actor).phase who = .finished id result) :
    Decided toml enrollments start (step crates toml enrollments state actor) who
      (∃ taken ∈ past ++ [(state, actor)], DecidesEarly toml enrollments who taken) id := by
  apply Decided.step
  rcases Bool.eq_or_eq_not who actor with rfl | rfl
  · by_cases open_phase : state.phase who = .begun ∨ state.phase who = .unknownKey
    · rcases step_cases crates toml enrollments state who with ⟨_, _, chosen, _⟩ | ⟨_, _, read⟩
      · rcases open_phase with begun | unknown
        · cases begun.symm.trans chosen
        · cases unknown.symm.trans chosen
      · rw [read] at at_phase
        have chosen := at_phase.resolve_right fun ⟨result, finished⟩ => by
          rw [read_eq_finished_iff] at finished
          rcases open_phase with begun | unknown
          · cases begun.symm.trans finished
          · cases unknown.symm.trans finished
        apply (decided_now lawful resolves apart known open_phase chosen).congr
        rw [early_concat, or_iff_right fun ⟨taken, member, early⟩ =>
          known.undecided who open_phase taken member early]
        constructor
        · rintro ⟨_, _, _, unfinished⟩
          exact unfinished
        · exact fun unfinished => ⟨rfl, open_phase, ⟨id, chosen⟩, unfinished⟩
    · have before :
          state.phase who = .chosen id ∨ ∃ result, state.phase who = .finished id result := by
        rcases step_cases crates toml enrollments state who with
          ⟨id', _, chosen, _, finished⟩ | ⟨_, _, read⟩
        · rw [finished] at at_phase
          rcases at_phase with still | ⟨_, same⟩
          · cases still
          · cases same
            exact .inl chosen
        · rw [read, read_of_not_open open_phase] at at_phase
          exact at_phase
      apply (known.decided who id before).congr
      rw [early_concat, or_iff_left]
      rintro ⟨_, opened, _⟩
      exact open_phase opened
  · rw [phase_step_not] at at_phase
    apply (known.decided _ id at_phase).congr
    rw [early_concat, or_iff_left]
    rintro ⟨same, _⟩
    exact Bool.not_ne_self actor same.symm

end KnownStep

theorem known_of_interleaves (lawful : toml.Lawful)
    (resolves : Resolves crates toml (contents toml start.store))
    (apart : ∀ who, (enrollments (!who)).Apart (enrollments who))
    (fresh : ∀ who, start.phase who = .begun)
    {past : List (Execution.Recorded (Enrolling Source) Bool)}
    (reached : Interleaves crates toml enrollments start past state) :
    Known crates toml enrollments start past state := by
  induction reached with
  | start =>
      refine ⟨.nothing (fun who id finished => ?_) rfl, fun who unknown => ?_, fun _ _ => nofun,
        fun who id at_phase => ?_⟩
      · cases (fresh who).symm.trans finished
      · cases (fresh who).symm.trans unknown
      · rcases at_phase with chosen | ⟨_, finished⟩
        · cases (fresh who).symm.trans chosen
        · cases (fresh who).symm.trans finished
  | @next past state actor _ _ known =>
      refine ⟨known.written.step actor, fun who => known.unknown_step actor, fun who open_phase =>
        ?_, fun who id => known.decided_step lawful resolves apart actor⟩
      intro taken member early
      exact known.undecided_step actor open_phase ⟨taken, member, early⟩

/-- Every device is there that was enrolled, by either enrollment under its id or before; an entry
of before is there itself, or it is the one that an enrollment of the same device updated. -/
structure Kept (toml : Toml Source) (enrollments : Bool → Enrollment) (start : Enrolling Source)
    (state : Enrolling Source) (ids : Bool → Text) : Prop where
  /-- Both devices are there. -/
  added : ∀ who, ∃ window, replacedEntry (enrollments who).profile (enrollments who).criteria
    (enrollments who).overrides (ids who) window ∈ loadDevices toml state.store
  /-- What was there before is there, or was updated by an enrollment of the same device. -/
  before : ∀ entry ∈ loadDevices toml start.store, entry ∈ loadDevices toml state.store ∨
    ∃ who, ids who = entry.id ∧ (enrollments who).SameDevice entry

/-- Two additions under different ids keep both entries, and two under one id keep the second. -/
theorem kept_iff_ne (lawful : toml.Lawful)
    (resolves : Resolves crates toml (contents toml start.store))
    (apart : ∀ who, (enrollments (!who)).Apart (enrollments who)) {ids : Bool → Text}
    (same : ∀ who, ∀ entry ∈ loadDevices toml start.store, entry.id = ids who →
      (enrollments who).SameDevice entry) {between : Option Source}
    (added : addAs crates toml enrollments who (ids who) start.store = (.ok (), between))
    (added' : addAs crates toml enrollments (!who) (ids (!who)) between = (.ok (), state.store)) :
    Kept toml enrollments start state ids ↔ ids who ≠ ids (!who) := by
  obtain ⟨resolves', ⟨window, first⟩, others⟩ := entries_add lawful resolves added
  obtain ⟨resolves'', ⟨window', second⟩, others'⟩ := entries_add lawful resolves' added'
  constructor
  · intro kept same_id
    obtain ⟨window'', still⟩ := kept.added who
    have one_entry := eq_of_id_eq lawful resolves'' still second same_id
    have criteria : (enrollments who).criteria = (enrollments (!who)).criteria := by
      simp only [replacedEntry, DeviceEntry.mk.injEq] at one_entry
      obtain ⟨_, _, key, address, service, name, _⟩ := one_entry
      cases left : (enrollments who).criteria
      cases right : (enrollments (!who)).criteria
      simp only [left, right] at key address service name
      rw [key, address, service, name]
    exact (apart who).criteria criteria.symm
  · intro different
    constructor
    · intro someone
      rcases Bool.eq_or_eq_not someone who with rfl | rfl
      · exact ⟨window, (others' _ different).mpr first⟩
      · exact ⟨window', second⟩
    · intro entry member
      by_cases by_first : ids who = entry.id
      · exact .inr ⟨who, by_first, same who entry member by_first.symm⟩
      · by_cases by_second : ids (!who) = entry.id
        · exact .inr ⟨!who, by_second, same (!who) entry member by_second.symm⟩
        · have still := (others entry (Ne.symm by_first)).mpr member
          exact .inl ((others' entry (Ne.symm by_second)).mpr still)

/-- Of two successful enrollments of different devices nothing is lost, unless both found their ids
before either wrote, and the file gave them the same id. -/
theorem enrollments_kept_iff (lawful : toml.Lawful)
    (resolves : Resolves crates toml (contents toml start.store))
    (apart : ∀ who, (enrollments (!who)).Apart (enrollments who))
    (fresh : ∀ who, start.phase who = .begun)
    {past : List (Execution.Recorded (Enrolling Source) Bool)}
    (reached : Interleaves crates toml enrollments start past state) {ids : Bool → Text}
    (finished : ∀ who, state.phase who = .finished (ids who) (.ok ())) :
    Kept toml enrollments start state ids ↔
      ¬ ((∀ who, ∃ taken ∈ past, DecidesEarly toml enrollments who taken) ∧
        (enrollments false).chooseId (loadDevices toml start.store) =
          (enrollments true).chooseId (loadDevices toml start.store)) := by
  have known := known_of_interleaves lawful resolves apart fresh reached
  have decided := fun who => known.decided who (ids who) (.inr ⟨_, finished who⟩)
  have same_iff : ids false = ids true ↔
      (∀ who, ∃ taken ∈ past, DecidesEarly toml enrollments who taken) ∧
        (enrollments false).chooseId (loadDevices toml start.store) =
          (enrollments true).chooseId (loadDevices toml start.store) := by
    constructor
    · intro same
      have early : ∀ who, ∃ taken ∈ past, DecidesEarly toml enrollments who taken := by
        intro who
        by_contra late
        obtain ⟨other, result, other_finished, different⟩ := (decided who).second late
        cases (finished (!who)).symm.trans other_finished
        apply different rfl
        cases who
        · exact same.symm
        · exact same
      refine ⟨early, ?_⟩
      rw [(decided false).first (early false), (decided true).first (early true), same]
    · rintro ⟨early, same⟩
      rw [← (decided false).first (early false), ← (decided true).first (early true), same]
  rw [← same_iff]
  cases known.written with
  | nothing none_added => exact (none_added true _ (finished true)).elim
  | one who id _ alone => exact (alone _ (finished (!who))).elim
  | both who id id' between first second added added' =>
      cases (finished who).symm.trans first
      cases (finished (!who)).symm.trans second
      rw [kept_iff_ne lawful resolves apart (fun who => (decided who).same) added added']
      cases who
      · exact Iff.rfl
      · exact ne_comm

end Run

/-- A file with one phone, before two more devices are enrolled. -/
def onePhone : Enrolling Document := ⟨some (tunedDocument 3000), fun _ => .begun⟩

/-- A device in range, and a captured watch, with these names. -/
def twoDevices (name other : Text) : Bool → Enrollment
  | false => .proximity (some name) "AA:BB:CC:DD:EE:01".toList
  | true => .captured base64Crates watchKey AppleContinuity.id (some other)

/-- Both choose their ids. -/
def bothChoose (name other : Text) : Enrolling Document :=
  Execution.run (step base64Crates Toml.ofDocuments (twoDevices name other)) onePhone
    [false, true, true]

/-- Both choose their ids, and then both add their devices. -/
def bothEnroll (name other : Text) : Enrolling Document :=
  Execution.run (step base64Crates Toml.ofDocuments (twoDevices name other))
    (bothChoose name other) [false, true]

theorem bothEnroll_reached (name other : Text) :
    ∃ past, Interleaves base64Crates Toml.ofDocuments (twoDevices name other) onePhone past
      (bothEnroll name other) :=
  ⟨_, (Execution.Reaches.start.run _ fun _ _ _ => trivial).run _ fun _ _ _ => trivial⟩

/-- A device is added to a file that is there. -/
theorem addAs_some {enrollments : Bool → Enrollment} {who : Bool} {id : Text}
    {document edited : Document} {settings : Settings}
    (applied : applyDevice base64Crates id (enrollments who).profile (enrollments who).criteria
      (enrollments who).overrides document.pruned = .ok edited)
    (valid : validate base64Crates Toml.ofDocuments edited = .ok settings) :
    addAs base64Crates Toml.ofDocuments enrollments who id (some document) =
      (.ok (), some edited) := by
  have parsed : Toml.ofDocuments.parse (contents Toml.ofDocuments (some document)) =
      some document.pruned := rfl
  obtain ⟨after, added, rendered⟩ := updateConfig_of_edit parsed applied valid
  have present : (addAs base64Crates Toml.ofDocuments enrollments who id (some document)).2 ≠
      none := by
    intro absent
    rw [addAs, add, updateConfig, updateAtomic] at absent
    split at absent
    · cases absent
    · dsimp only at absent
      split at absent
      · cases absent
      · cases absent
  rw [addAs, add, added] at present ⊢
  obtain ⟨source, rfl⟩ := Option.ne_none_iff_exists'.mp present
  cases rendered
  rfl

/-- Both of them add their devices, the one in range first. -/
theorem run_both_add {state : Enrolling Document} {enrollments : Bool → Enrollment}
    {ids : Bool → Text} {between after : Option Document}
    (chosen : ∀ who, state.phase who = .chosen (ids who))
    (first : addAs base64Crates Toml.ofDocuments enrollments false (ids false) state.store =
      (.ok (), between))
    (second : addAs base64Crates Toml.ofDocuments enrollments true (ids true) between =
      (.ok (), after)) :
    Execution.run (step base64Crates Toml.ofDocuments enrollments) state [false, true] =
      ⟨after, fun who => .finished (ids who) (.ok ())⟩ := by
  have one_added : step base64Crates Toml.ofDocuments enrollments state false =
      ⟨between, Function.update state.phase false (.finished (ids false) (.ok ()))⟩ := by
    rw [step, chosen false]
    simp only [first]
  have other_chosen : Function.update state.phase false (.finished (ids false) (.ok ())) true =
      .chosen (ids true) := by
    rw [Function.update_of_ne (by decide), chosen true]
  rw [Execution.run_cons, Execution.run_cons, Execution.run_nil, one_added, step]
  simp only [other_chosen, second, mk.injEq, true_and]
  funext who
  cases who
  · rfl
  · rfl

theorem apart_twoDevices (name other : Text) (who : Bool) :
    (twoDevices name other (!who)).Apart (twoDevices name other who) := by
  cases who with
  | false =>
      refine ⟨fun same => ?_, fun _ _ => nofun, nofun⟩
      cases congrArg Criteria.address same
  | true =>
      refine ⟨fun same => ?_, nofun, fun _ _ _ => nofun⟩
      cases congrArg Criteria.address same

/-- The name of one device. -/
def phoneName : Text := "Phone".toList

/-- The name of another. -/
def watchAlias : Text := "Watch".toList

/-- The ids that they are given. -/
def twoIds : Bool → Text
  | false => "phone-2".toList
  | true => "watch".toList

theorem enrollments_kept_iff_two_names :
    ∃ past, Interleaves base64Crates Toml.ofDocuments (twoDevices phoneName watchAlias) onePhone
        past (bothEnroll phoneName watchAlias) ∧
      (Kept Toml.ofDocuments (twoDevices phoneName watchAlias) onePhone
          (bothEnroll phoneName watchAlias) twoIds ↔
        ¬ ((∀ who, ∃ taken ∈ past,
            DecidesEarly Toml.ofDocuments (twoDevices phoneName watchAlias) who taken) ∧
          (twoDevices phoneName watchAlias false).chooseId
              (loadDevices Toml.ofDocuments onePhone.store) =
            (twoDevices phoneName watchAlias true).chooseId
              (loadDevices Toml.ofDocuments onePhone.store))) := by
  obtain ⟨past, reached⟩ := bothEnroll_reached phoneName watchAlias
  have both_add : ∃ after, bothEnroll phoneName watchAlias =
      ⟨after, fun who => .finished (twoIds who) (.ok ())⟩ := by
    have chosen : ∀ who, (bothChoose phoneName watchAlias).phase who = .chosen (twoIds who) := by
      intro who
      cases who
      · rfl
      · rfl
    exact ⟨_, run_both_add chosen (addAs_some rfl rfl) (addAs_some rfl rfl)⟩
  obtain ⟨after, ended⟩ := both_add
  exact ⟨past, reached, enrollments_kept_iff Toml.ofDocuments_lawful ⟨_, rfl⟩
    (apart_twoDevices phoneName watchAlias) (fun _ => rfl) reached fun who => by rw [ended]⟩

/-- Both devices are reported as `watch`, and only the second one is enrolled. -/
theorem enrollment_lost_to_same_name :
    ∃ past, Interleaves base64Crates Toml.ofDocuments (twoDevices watchAlias watchAlias) onePhone
        past (bothEnroll watchAlias watchAlias) ∧
      (∀ who, (bothEnroll watchAlias watchAlias).phase who = .finished "watch".toList (.ok ())) ∧
      ¬ Kept Toml.ofDocuments (twoDevices watchAlias watchAlias) onePhone
        (bothEnroll watchAlias watchAlias) (fun _ => "watch".toList) := by
  obtain ⟨past, reached⟩ := bothEnroll_reached watchAlias watchAlias
  have both_add : ∃ after, bothEnroll watchAlias watchAlias =
        ⟨after, fun _ => .finished "watch".toList (.ok ())⟩ ∧
      (loadDevices Toml.ofDocuments after).map DeviceEntry.address = [none, none] := by
    have chosen : ∀ who, (bothChoose watchAlias watchAlias).phase who =
        .chosen "watch".toList := by
      intro who
      cases who
      · rfl
      · rfl
    exact ⟨_, run_both_add chosen (addAs_some rfl rfl) (addAs_some rfl rfl), rfl⟩
  obtain ⟨after, ended, addresses⟩ := both_add
  refine ⟨past, reached, fun who => by rw [ended], fun kept => ?_⟩
  obtain ⟨_, member⟩ := kept.added false
  rw [ended] at member
  have first := List.mem_map_of_mem (f := DeviceEntry.address) member
  rw [addresses] at first
  rcases List.mem_cons.mp first with impossible | first
  · cases impossible
  · rcases List.mem_cons.mp first with impossible | impossible
    · cases impossible
    · cases impossible

end Enrolling

end PresenceUnlock.Cli
