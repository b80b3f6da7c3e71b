import PresenceUnlock.Cli.Registry
import PresenceUnlock.Protocol.Evidence

/-!
# The configuration in force

The daemon reads the file once, when it starts.  A command that changes the file therefore restarts
it, and reports success only when the service manager has.  Any number of commands, the service
manager and the daemon take their steps in any order.
-/

namespace PresenceUnlock.Cli.InForce

open RustStd RustStd.Result Execution

/-- How a command makes its change take effect: `apply_config` leaves a stopped daemon stopped, and
`reload_daemon` of the menu starts one. -/
inductive Restart
  | tryRestart
  | restart
  deriving DecidableEq, Repr

/-- Where a command is; once it has saved its change, with that change and how many came before. -/
inductive Stage
  | idle
  | refused
  | saved (edit : Edit) (earlier : Nat)
  | applied (edit : Edit) (earlier : Nat)
  | outdated (edit : Edit) (earlier : Nat)
  | advised (edit : Edit) (earlier : Nat)

/-- The daemon: it has not read the file yet, or runs on what it read after so many changes. -/
inductive Daemon
  | stopped
  | starting
  | running (changes : Nat) (settings : Settings) (fleet : Fleet)

/-- The file, with every change that was saved, the daemon, and the commands. -/
structure System (Source Pid : Type*) where
  /-- The file. -/
  store : Option Source
  /-- The changes that were saved, in order. -/
  saves : List Edit
  /-- The daemon. -/
  daemon : Daemon
  /-- Where every command is. -/
  stage : Pid → Stage

/-- A step of a command, of the service manager or of the daemon. -/
inductive Event (Pid : Type*)
  | edit (pid : Pid) (edit : Edit)
  | restarted (pid : Pid) (how : Restart)
  | notRestarted (pid : Pid)
  | advised (pid : Pid)
  | start
  | load
  | exit
  | hear (event : FleetEvent)

/-- What a restart that succeeds leaves of the daemon. -/
def Restart.apply : Restart → Daemon → Daemon
  | .tryRestart, .stopped => .stopped
  | .tryRestart, _ | .restart, _ => .starting

/-- What a command that has saved its change reports. -/
def Stage.finish (outcome : Edit → Nat → Stage) : Stage → Stage
  | .saved edit earlier => outcome edit earlier
  | stage => stage

namespace System

variable {Source Pid : Type} [DecidableEq Source] [DecidableEq Pid]
variable (crates : Crates) (toml : Toml Source)

/-- A command reports. -/
def finish (system : System Source Pid) (pid : Pid) (outcome : Edit → Nat → Stage) :
    System Source Pid :=
  { system with stage := Function.update system.stage pid ((system.stage pid).finish outcome) }

/-- A command edits the file. -/
def save (system : System Source Pid) (pid : Pid) (edit : Edit) : System Source Pid :=
  match edit.apply crates toml system.store with
  | (.ok (), after) =>
      { system with
        store := after
        saves := system.saves ++ [edit]
        stage := Function.update system.stage pid (.saved edit system.saves.length) }
  | (.error _, after) =>
      { system with store := after, stage := Function.update system.stage pid .refused }

/-- The daemon reads the file; without settings it does not run. -/
def load (system : System Source Pid) : Daemon :=
  match system.store.map (validate crates toml) with
  | some (.ok settings) =>
      .running system.saves.length settings (Fleet.new settings.devices settings.multiDeviceAuth)
  | _ => .stopped

/-- One step. -/
def step (system : System Source Pid) : Event Pid → System Source Pid
  | .edit pid edit => system.save crates toml pid edit
  | .restarted pid how =>
      { system.finish pid .applied with daemon := how.apply system.daemon }
  | .notRestarted pid => system.finish pid .outdated
  | .advised pid => system.finish pid .advised
  | .start =>
      match system.daemon with
      | .stopped => { system with daemon := .starting }
      | _ => system
  | .load =>
      match system.daemon with
      | .starting => { system with daemon := system.load crates toml }
      | _ => system
  | .exit => { system with daemon := .stopped }
  | .hear event =>
      match system.daemon with
      | .running changes settings fleet =>
          { system with daemon := .running changes settings (fleet.step event) }
      | _ => system

/-- A command edits the file once, and reports once it has. -/
def allows (system : System Source Pid) : Event Pid → Prop
  | .edit pid _ => system.stage pid = .idle
  | .restarted pid _ | .notRestarted pid | .advised pid =>
      ∃ edit earlier, system.stage pid = .saved edit earlier
  | .start | .load | .exit | .hear _ => True

/-- No command has begun; the daemon may run on anything. -/
structure Fresh (system : System Source Pid) : Prop where
  /-- No change was saved. -/
  saves : system.saves = []
  /-- No command has begun. -/
  stage : ∀ pid, system.stage pid = .idle
  /-- A daemon that runs has loaded none of the changes. -/
  daemon : ∀ changes settings fleet, system.daemon = .running changes settings fleet → changes = 0

end System

variable {Source Pid : Type} [DecidableEq Source] [DecidableEq Pid]

/-- The change a command has saved, and how many came before. -/
def Stage.change : Stage → Option (Edit × Nat)
  | idle | refused => none
  | saved edit earlier | applied edit earlier | outdated edit earlier | advised edit earlier =>
      some (edit, earlier)

/-- The change of a command is one of those saved, in its place. -/
def Stage.Fits (saves : List Edit) (stage : Stage) : Prop :=
  ∀ edit earlier, stage.change = some (edit, earlier) → saves[earlier]? = some edit

/-- A change that was reported as applied is one of the first `changes`. -/
def Stage.Within (changes : Nat) (stage : Stage) : Prop :=
  ∀ edit earlier, stage = .applied edit earlier → earlier < changes

/-- The daemon runs on the file as it was after the first `changes` of these. -/
structure Loaded (crates : Crates) (toml : Toml Source) (start : Option Source) (saves : List Edit)
    (changes : Nat) (settings : Settings) (fleet : Fleet) : Prop where
  /-- The file was accepted. -/
  valid : validate crates toml
    (contents toml (run (edited crates toml) start (saves.take changes))) = .ok settings
  /-- The fleet has heard something since. -/
  ran : ∃ history, fleet =
    run Fleet.step (Fleet.new settings.devices settings.multiDeviceAuth) history

/-- What the daemon runs on has every change that was reported as applied. -/
structure UpToDate (crates : Crates) (toml : Toml Source) (start : Option Source)
    (saves : List Edit) (stage : Pid → Stage) (changes : Nat) (settings : Settings)
    (fleet : Fleet) : Prop where
  /-- It has only changes that were saved. -/
  past : changes ≤ saves.length
  /-- If it has any, it was loaded from the file that has them. -/
  loaded : 0 < changes → Loaded crates toml start saves changes settings fleet
  /-- It has every change that was reported as applied. -/
  applied : ∀ pid, (stage pid).Within changes

/-- Every change in the file succeeded, and a daemon that runs is up to date. -/
structure Inv (crates : Crates) (toml : Toml Source) (start : Option Source)
    (system : System Source Pid) : Prop where
  /-- The file is what the changes made of it. -/
  store : system.store = run (edited crates toml) start system.saves
  /-- All of them succeeded. -/
  succeeded : succeeded crates toml start system.saves = system.saves
  /-- What a command has saved is among them. -/
  stage : ∀ pid, (system.stage pid).Fits system.saves
  /-- A daemon that runs is up to date. -/
  running : ∀ changes settings fleet, system.daemon = .running changes settings fleet →
    UpToDate crates toml start system.saves system.stage changes settings fleet

variable {crates : Crates} {toml : Toml Source} {start : Option Source}
variable {system : System Source Pid}

omit [DecidableEq Pid] in
theorem inv_of_fresh (fresh : system.Fresh) : Inv crates toml system.store system where
  store := by rw [fresh.saves, run_nil]
  succeeded := by rw [fresh.saves, succeeded]
  stage := by
    intro pid edit earlier changed
    rw [fresh.stage pid] at changed
    cases changed
  running := by
    intro changes settings fleet runs
    rw [fresh.daemon changes settings fleet runs]
    refine ⟨Nat.zero_le _, fun impossible => (Nat.lt_irrefl 0 impossible).elim, ?_⟩
    intro pid edit earlier applied
    rw [fresh.stage pid] at applied
    cases applied

/-- Only a report of success promises anything. -/
theorem Stage.within_of_ne {stage : Stage}
    (unpromised : ∀ edit earlier, stage ≠ .applied edit earlier)
    (changes : Nat) : stage.Within changes :=
  fun edit earlier applied => (unpromised edit earlier applied).elim

theorem Stage.Fits.finish {saves : List Edit} {stage : Stage} (fits : stage.Fits saves)
    {outcome : Edit → Nat → Stage}
    (same : ∀ edit earlier, (outcome edit earlier).change = some (edit, earlier)) :
    (stage.finish outcome).Fits saves := by
  cases stage with
  | saved edit earlier =>
      intro edit' earlier' changed
      exact fits edit' earlier' ((same edit earlier).symm.trans changed)
  | idle | refused | applied | outdated | advised => exact fits

theorem Stage.Within.finish {changes : Nat} {stage : Stage} (within : stage.Within changes)
    {outcome : Edit → Nat → Stage}
    (unpromised : ∀ edit earlier edit' earlier', outcome edit earlier ≠ .applied edit' earlier') :
    (stage.finish outcome).Within changes := by
  cases stage with
  | saved edit earlier => exact Stage.within_of_ne (unpromised edit earlier) changes
  | idle | refused | applied | outdated | advised => exact within

/-- A report leaves the file and the changes alone. -/
theorem Inv.finish (inv : Inv crates toml start system) (pid : Pid) {outcome : Edit → Nat → Stage}
    (same : ∀ edit earlier, (outcome edit earlier).change = some (edit, earlier)) {daemon : Daemon}
    (running : ∀ changes settings fleet, daemon = .running changes settings fleet →
      system.daemon = daemon ∧ ∀ edit earlier edit' earlier',
        outcome edit earlier ≠ .applied edit' earlier') :
    Inv crates toml start { system.finish pid outcome with daemon } where
  store := inv.store
  succeeded := inv.succeeded
  stage := (Function.forall_update_iff system.stage fun _ stage => stage.Fits system.saves).mpr
    ⟨(inv.stage pid).finish same, fun other _ => inv.stage other⟩
  running := by
    intro changes settings fleet runs
    obtain ⟨unchanged, unpromised⟩ := running changes settings fleet runs
    have before := inv.running changes settings fleet (unchanged.trans runs)
    exact ⟨before.past, before.loaded,
      (Function.forall_update_iff system.stage fun _ stage => stage.Within changes).mpr
        ⟨(before.applied pid).finish unpromised, fun other _ => before.applied other⟩⟩

/-- A command that is refused leaves everything else alone. -/
theorem Inv.refuse (inv : Inv crates toml start system) (pid : Pid) :
    Inv crates toml start { system with stage := Function.update system.stage pid .refused } where
  store := inv.store
  succeeded := inv.succeeded
  stage := (Function.forall_update_iff system.stage fun _ stage => stage.Fits system.saves).mpr
    ⟨nofun, fun other _ => inv.stage other⟩
  running := by
    intro changes settings fleet runs
    have before := inv.running changes settings fleet runs
    exact ⟨before.past, before.loaded,
      (Function.forall_update_iff system.stage fun _ stage => stage.Within changes).mpr
        ⟨nofun, fun other _ => before.applied other⟩⟩

/-- A place that is taken stays taken when another change is saved. -/
theorem Stage.Fits.later {saves : List Edit} {stage : Stage} (fits : stage.Fits saves)
    (more : List Edit) : stage.Fits (saves ++ more) := by
  intro edit earlier changed
  have known := fits edit earlier changed
  rw [List.getElem?_append_left (List.getElem?_eq_some_iff.mp known).1]
  exact known

/-- What the daemon runs on stays in the past when another change is saved. -/
theorem Loaded.later {saves : List Edit} {changes : Nat} {settings : Settings} {fleet : Fleet}
    (loaded : Loaded crates toml start saves changes settings fleet)
    (past : changes ≤ saves.length) (more : List Edit) :
    Loaded crates toml start (saves ++ more) changes settings fleet where
  valid := by
    rw [List.take_append_of_le_length past]
    exact loaded.valid
  ran := loaded.ran

theorem Inv.save (inv : Inv crates toml start system) (pid : Pid) (edit : Edit) :
    Inv crates toml start (system.save crates toml pid edit) := by
  rw [System.save]
  split
  · rename_i after outcome
    constructor
    · change after = run (edited crates toml) start (system.saves ++ [edit])
      rw [run_concat, ← inv.store, edited, outcome]
    · have admitted : (edit.apply crates toml (run (edited crates toml) start system.saves)).1.isOk
          = true := by
        rw [← inv.store, outcome]
        rfl
      change Cli.succeeded crates toml start (system.saves ++ [edit]) = system.saves ++ [edit]
      rw [succeeded_append, inv.succeeded, Cli.succeeded, if_pos admitted, Cli.succeeded]
    · refine (Function.forall_update_iff system.stage
        fun _ stage => stage.Fits (system.saves ++ [edit])).mpr
          ⟨?_, fun other _ => (inv.stage other).later [edit]⟩
      rintro edit' earlier ⟨⟩
      exact List.getElem?_concat_length
    · intro changes settings fleet runs
      have before := inv.running changes settings fleet runs
      have unapplied : (Stage.saved edit system.saves.length).Within changes := by
        intro _ _ applied
        cases applied
      refine ⟨?_, fun some_read => (before.loaded some_read).later before.past [edit],
        (Function.forall_update_iff system.stage fun _ stage => stage.Within changes).mpr
          ⟨unapplied, fun other _ => before.applied other⟩⟩
      rw [List.length_append]
      exact Nat.le_add_right_of_le before.past
  · rename_i error after outcome
    have failed : (edit.apply crates toml system.store).1 = .error error := by rw [outcome]
    have unchanged : after = system.store := by
      rw [← edited_of_error failed, edited, outcome]
    rw [unchanged]
    exact inv.refuse pid

omit [DecidableEq Pid] in
/-- Only a daemon that runs has to be up to date. -/
theorem Inv.withDaemon (inv : Inv crates toml start system) {daemon : Daemon}
    (running : ∀ changes settings fleet, daemon = .running changes settings fleet →
      UpToDate crates toml start system.saves system.stage changes settings fleet) :
    Inv crates toml start { system with daemon } :=
  ⟨inv.store, inv.succeeded, inv.stage, running⟩

omit [DecidableEq Pid] in
/-- A daemon that reads the file runs on every change in it. -/
theorem Inv.load (inv : Inv crates toml start system) :
    Inv crates toml start { system with daemon := system.load crates toml } := by
  refine inv.withDaemon ?_
  intro changes settings fleet runs
  rw [System.load] at runs
  split at runs
  · rename_i settings' read
    cases runs
    obtain ⟨source, stored, valid⟩ := Option.map_eq_some_iff.mp read
    refine ⟨Nat.le_refl _, fun _ => ⟨?_, [], rfl⟩, ?_⟩
    · rw [List.take_length, ← inv.store, stored]
      exact valid
    · intro pid edit earlier reported
      have known := inv.stage pid edit earlier (by rw [reported]; rfl)
      exact (List.getElem?_eq_some_iff.mp known).1
  · cases runs

omit [DecidableEq Pid] in
/-- What the daemon hears changes what it has gathered, not what it runs on. -/
theorem UpToDate.hear {saves : List Edit} {stage : Pid → Stage} {changes : Nat}
    {settings : Settings} {fleet : Fleet}
    (current : UpToDate crates toml start saves stage changes settings fleet)
    (event : FleetEvent) :
    UpToDate crates toml start saves stage changes settings (fleet.step event) := by
  refine ⟨current.past, fun some_read => ⟨(current.loaded some_read).valid, ?_⟩, current.applied⟩
  obtain ⟨history, ran⟩ := (current.loaded some_read).ran
  exact ⟨history ++ [event], by rw [run_concat, ← ran]⟩

/-- The step: whoever takes it, the invariant is kept. -/
theorem inv_step (inv : Inv crates toml start system) (event : Event Pid) :
    Inv crates toml start (system.step crates toml event) := by
  cases event with
  | edit pid edit => exact inv.save pid edit
  | restarted pid how =>
      refine inv.finish pid (fun _ _ => rfl) fun changes settings fleet runs => ?_
      cases how with
      | tryRestart => cases before : system.daemon <;> rw [before] at runs <;> cases runs
      | restart => cases runs
  | notRestarted pid | advised pid =>
      exact inv.finish pid (fun _ _ => rfl) fun _ _ _ _ => ⟨rfl, fun _ _ _ _ => nofun⟩
  | start =>
      rw [System.step]
      split
      · exact inv.withDaemon nofun
      · exact inv
  | load =>
      rw [System.step]
      split
      · exact inv.load
      · exact inv
  | exit => exact inv.withDaemon nofun
  | hear event =>
      rw [System.step]
      split
      · rename_i changes settings fleet runs
        have current := inv.running changes settings fleet runs
        refine inv.withDaemon ?_
        rintro _ _ _ ⟨⟩
        exact current.hear event
      · exact inv

theorem inv_of_reaches {past : List (Recorded (System Source Pid) (Event Pid))}
    {opened : System Source Pid} (fresh : opened.Fresh)
    (reached : Reaches System.allows (System.step crates toml) opened past system) :
    Inv crates toml opened.store system :=
  reached.invariant (fun _ state => Inv crates toml opened.store state) (inv_of_fresh fresh)
    fun _ _ event inv _ => inv_step inv event

/-- Once a command has reported that its change is applied, whatever daemon runs was loaded from a
file that has this very change, at its place among the changes, and decides by that file. -/
theorem applied_change_in_force {past : List (Recorded (System Source Pid) (Event Pid))}
    {opened : System Source Pid} (fresh : opened.Fresh)
    (reached : Reaches System.allows (System.step crates toml) opened past system) {pid : Pid}
    {edit : Edit} {earlier : Nat} (applied : system.stage pid = .applied edit earlier)
    {changes : Nat} {settings : Settings} {fleet : Fleet}
    (runs : system.daemon = .running changes settings fleet) :
    earlier < changes ∧ system.saves[earlier]? = some edit ∧ changes ≤ system.saves.length ∧
      validate crates toml
        (contents toml (run (edited crates toml) opened.store (system.saves.take changes))) =
          .ok settings ∧
      ∃ history, fleet =
        run Fleet.step (Fleet.new settings.devices settings.multiDeviceAuth) history := by
  have inv := inv_of_reaches fresh reached
  have current := inv.running changes settings fleet runs
  have inside := current.applied pid edit earlier applied
  have known := inv.stage pid edit earlier (by rw [applied]; rfl)
  have loaded := current.loaded (Nat.zero_lt_of_lt inside)
  exact ⟨inside, known, current.past, loaded.valid, loaded.ran⟩

/-- The change enrolls the device `id`. -/
def enrolls (id : Text) : Edit → Bool
  | .add named _ _ _ => named = id
  | _ => false

/-- A device that is not there stays away until it is enrolled. -/
theorem run_onDevice_none {id : Text} {edits : List Edit}
    (absent : ∀ edit ∈ edits, enrolls id edit = false) : run (onDevice id) none edits = none := by
  refine run_invariant_of_permitted (· = none) (fun edit => enrolls id edit = false) ?_ rfl absent
  rintro _ edit rfl unenrolled
  cases edit with
  | add named profile criteria overrides =>
      have different : named ≠ id := of_decide_eq_false unenrolled
      rw [onDevice, if_neg (Ne.symm different)]
  | setThreshold named thresholdDbm =>
      rw [onDevice]
      split <;> rfl
  | setMultiDeviceAuth expression => rfl
  | remove named =>
      rw [onDevice]
      split <;> rfl

/-- A list up to a place past that of one of its elements. -/
theorem exists_split_of_getElem? {α : Type} {list : List α} {position count : Nat} {item : α}
    (known : list[position]? = some item) (inside : position < count) :
    ∃ before after, list.take count = before ++ item :: after ∧
      ∀ later ∈ after, later ∈ list.drop (position + 1) := by
  obtain ⟨bound, rfl⟩ := List.getElem?_eq_some_iff.mp known
  have split := List.take_append_drop position (list.take count)
  rw [List.take_take, Nat.min_eq_left inside.le, List.drop_take,
    List.drop_eq_getElem_cons bound] at split
  obtain ⟨more, rfl⟩ := Nat.exists_eq_add_of_lt inside
  rw [show position + more + 1 - position = more + 1 by omega, List.take_succ_cons] at split
  exact ⟨_, _, split.symm, fun later member => List.mem_of_mem_take member⟩

omit [DecidableEq Source] in
/-- The devices that a fleet is started with are the entries of the registry that its file is. -/
theorem exists_entry_of_device {store : Option Source} {config : ConfigFile}
    (represents : Represents toml store config) {settings : Settings}
    (valid : validate crates toml (contents toml store) = .ok settings)
    (history : List FleetEvent) {device : Device}
    (member : device ∈
      (run Fleet.step (Fleet.new settings.devices settings.multiDeviceAuth) history).devices) :
    ∃ entry ∈ config.devices, device.spec.id = entry.id := by
  rw [Fleet.devices_run_new] at member
  obtain ⟨spec, known, rfl⟩ := List.mem_map.mp member
  obtain ⟨config', parsed, accepted⟩ := validate_eq_ok_iff.mp valid
  cases (parse_of_represents represents).symm.trans parsed
  obtain ⟨_, lowered, _⟩ := (ConfigFile.resolve_eq_ok_iff crates _ _).mp accepted
  obtain ⟨entry, listed, resolved⟩ := exists_left_of_forall₂ lowered known
  refine ⟨entry, listed, ?_⟩
  rw [Device.spec_run]
  exact ((DeviceEntry.resolve_eq_ok_iff crates _ _).mp resolved).1

/-- Once the removal of a device has been reported as applied, and until it is enrolled again, no
daemon that runs has the device: nothing it advertises can unlock anything. -/
theorem removed_device_gone (lawful : toml.Lawful)
    {past : List (Recorded (System Source Pid) (Event Pid))} {opened : System Source Pid}
    (fresh : opened.Fresh) {config : ConfigFile} (represents : Represents toml opened.store config)
    (reached : Reaches System.allows (System.step crates toml) opened past system) {pid : Pid}
    {id : Text} {earlier : Nat} (removed : system.stage pid = .applied (.remove id) earlier)
    (absent : ∀ later ∈ system.saves.drop (earlier + 1), enrolls id later = false)
    {changes : Nat} {settings : Settings} {fleet : Fleet}
    (runs : system.daemon = .running changes settings fleet) :
    ∀ device ∈ fleet.devices, device.spec.id ≠ id := by
  have inv := inv_of_reaches fresh reached
  have current := inv.running changes settings fleet runs
  have inside := current.applied pid _ earlier removed
  have known := inv.stage pid _ earlier (by rw [removed]; rfl)
  have loaded := current.loaded (Nat.zero_lt_of_lt inside)
  obtain ⟨before, after, split, later⟩ := exists_split_of_getElem? known inside
  have all_succeeded : succeeded crates toml opened.store (system.saves.take changes) =
      system.saves.take changes := by
    have whole : succeeded crates toml opened.store
        (system.saves.take changes ++ system.saves.drop changes) =
        system.saves.take changes ++ system.saves.drop changes := by
      rw [List.take_append_drop]
      exact inv.succeeded
    exact succeeded_of_append whole
  have missing := (find_run crates lawful represents (system.saves.take changes)).1 id
  have gone : ∀ entry, run (onDevice id) entry (system.saves.take changes) = none := by
    intro entry
    rw [split, run, List.foldl_append, List.foldl_cons, onDevice, if_pos rfl]
    exact run_onDevice_none fun edit member => absent edit (later edit member)
  rw [all_succeeded, gone, KeyedList.find, List.find?_eq_none] at missing
  obtain ⟨history, rfl⟩ := loaded.ran
  intro device member same
  have file := represents_run crates lawful represents (system.saves.take changes)
  obtain ⟨entry, listed, named⟩ := exists_entry_of_device file loaded.valid history member
  exact missing entry listed (decide_eq_true (named.symm.trans same))

/-- The id of a watch. -/
def watch : Text := "watch".toList

/-- The watch, by its name. -/
def watchByName : Criteria := ⟨none, none, none, some watch⟩

/-- The table of the phone. -/
def phoneTable : Table :=
  rewriteTable ProximityOnly.id phoneByName ⟨none, none, none⟩ (newTable phone)

/-- The table of the watch. -/
def watchTable : Table :=
  rewriteTable ProximityOnly.id watchByName ⟨none, none, none⟩ (newTable watch)

/-- A phone and a watch are enrolled. -/
def bothEnrolled : Document := withDevices emptyDocument [phoneTable, watchTable]

/-- Both are enrolled, and nothing happens. -/
def beforeRemovalOfPhone : System Document ℕ := ⟨some bothEnrolled, [], .stopped, fun _ => .idle⟩

/-- The phone is removed while the daemon starts. -/
def removalOfPhone : List (Event ℕ) :=
  [.edit 0 (.remove phone), .start, .restarted 0 .tryRestart, .load]

/-- The system after the removal. -/
def afterRemovalOfPhone : System Document ℕ :=
  run (System.step ConfigFile.plainCrates Toml.ofDocuments) beforeRemovalOfPhone removalOfPhone

theorem fresh_beforeRemovalOfPhone : beforeRemovalOfPhone.Fresh :=
  ⟨rfl, fun _ => rfl, fun _ _ _ => nofun⟩

theorem represents_beforeRemovalOfPhone : ∃ config,
    Represents Toml.ofDocuments beforeRemovalOfPhone.store config := by
  have read : (ConfigFile.ofDocument bothEnrolled.pruned).map (·.schemaVersion) =
      some currentSchema := by decide +kernel
  obtain ⟨config, read, version⟩ := Option.map_eq_some_iff.mp read
  exact ⟨config, _, rfl, ConfigFile.ofDocument_eq_some_iff.mp read, version, _, rfl⟩

theorem reaches_afterRemovalOfPhone :
    Reaches System.allows (System.step ConfigFile.plainCrates Toml.ofDocuments)
      beforeRemovalOfPhone
      (recorded (System.step ConfigFile.plainCrates Toml.ofDocuments) beforeRemovalOfPhone
        removalOfPhone) afterRemovalOfPhone := by
  have allowed : AllAllowed System.allows
      (System.step ConfigFile.plainCrates Toml.ofDocuments) beforeRemovalOfPhone
      removalOfPhone := ⟨rfl, trivial, ⟨.remove phone, 0, rfl⟩, trivial, trivial⟩
  exact Reaches.start.run_of_allAllowed allowed

theorem applied_afterRemovalOfPhone :
    afterRemovalOfPhone.stage 0 = .applied (.remove phone) 0 ∧
      afterRemovalOfPhone.saves = [.remove phone] := ⟨rfl, rfl⟩

/-- How many changes a daemon that runs has loaded. -/
def Daemon.changes : Daemon → Option Nat
  | running changes _ _ => some changes
  | _ => none

theorem running_afterRemovalOfPhone : ∃ settings fleet,
    afterRemovalOfPhone.daemon = .running 1 settings fleet := by
  have runs : afterRemovalOfPhone.daemon.changes = some 1 := by
    change (System.load ConfigFile.plainCrates Toml.ofDocuments
      (⟨ite _ _ _, [.remove phone], .starting, fun _ => .idle⟩ : System Document ℕ)).changes = _
    split
    · rfl
    · rfl
  cases daemon : afterRemovalOfPhone.daemon with
  | running changes settings fleet =>
      rw [daemon] at runs
      cases runs
      exact ⟨settings, fleet, rfl⟩
  | stopped | starting =>
      rw [daemon] at runs
      cases runs

theorem applied_change_in_force_phone : ∃ settings fleet,
    afterRemovalOfPhone.daemon = .running 1 settings fleet ∧
      0 < 1 ∧ afterRemovalOfPhone.saves[0]? = some (.remove phone) ∧
      1 ≤ afterRemovalOfPhone.saves.length ∧
      validate ConfigFile.plainCrates Toml.ofDocuments
        (contents Toml.ofDocuments (run (edited ConfigFile.plainCrates Toml.ofDocuments)
          (some bothEnrolled) (afterRemovalOfPhone.saves.take 1))) = .ok settings ∧
      ∃ history, fleet =
        run Fleet.step (Fleet.new settings.devices settings.multiDeviceAuth) history := by
  obtain ⟨settings, fleet, runs⟩ := running_afterRemovalOfPhone
  exact ⟨settings, fleet, runs, applied_change_in_force fresh_beforeRemovalOfPhone
    reaches_afterRemovalOfPhone applied_afterRemovalOfPhone.1 runs⟩

theorem removed_device_gone_phone : ∃ settings fleet,
    afterRemovalOfPhone.daemon = .running 1 settings fleet ∧
      ∀ device ∈ fleet.devices, device.spec.id ≠ phone := by
  obtain ⟨settings, fleet, runs⟩ := running_afterRemovalOfPhone
  obtain ⟨config, represents⟩ := represents_beforeRemovalOfPhone
  refine ⟨settings, fleet, runs, removed_device_gone Toml.ofDocuments_lawful
    fresh_beforeRemovalOfPhone represents reaches_afterRemovalOfPhone
    applied_afterRemovalOfPhone.1 ?_ runs⟩
  rw [applied_afterRemovalOfPhone.2]
  exact nofun

end PresenceUnlock.Cli.InForce
