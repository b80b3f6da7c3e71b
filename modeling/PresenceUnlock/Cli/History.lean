import PresenceUnlock.Cli.Remains
import PresenceUnlock.Execution

/-!
# Setups and removals in any order

Setups and removals may fail wherever they may.  What they leave behind is always something that the
next removal can take back.
-/

namespace PresenceUnlock.Cli.Teardown

open RustStd Effects Execution Setup

/-- What may happen: setups and removals, each with what is outside of the program then, a new
installation of the package, a file or a directory that appears, and edits by the user, who leaves a
block as it is. -/
inductive Event
  | setup (around : Surroundings)
  | uninstall (around : Surroundings) (enrollment : Enrollment)
  | reinstall
  | appear (location : Location)
  | edit (file : File) (source : Text)

/-- Setup arms the service once the integration has landed, and only warns if it cannot. -/
def setup (around : Surroundings) : Action Unit := do
  onMachine (apply around.setup)
  let _ ← (enable around).catching

namespace Installation

/-- What an event makes of what is installed. -/
def step (installed : Installation) : Event → Installation
  | .setup around => (setup around installed).2
  | .uninstall around enrollment => (uninstall around enrollment installed).2
  | .reinstall => { installed with package := true }
  | .appear location =>
      { installed with present := Function.update installed.present location true }
  | .edit file source => { installed with machine := installed.machine.store file source }

/-- The package is there to run; and an edit leaves a block as setup wrote it. -/
def allows (installed : Installation) : Event → Prop
  | .setup _ => installed.package = true
  | .uninstall _ _ => installed.package = true
  | .reinstall => installed.package = false
  | .appear _ => True
  | .edit file source => Owned file source

/-- Neither a block nor the clone. -/
structure Pristine (installed : Installation) : Prop where
  /-- Neither file has a block, or a part of one. -/
  unmarked : ∀ file source, installed.machine.files file = some source → Unmarked file source
  /-- The clone is not enabled. -/
  lock : installed.machine.lock ≠ .clone

/-- Both files are as setup or a removal leaves them, and an enabled clone is there. -/
def Sound (installed : Installation) : Prop := Tied .target installed.machine

end Installation

section History

open Installation

variable {around : Surroundings}

theorem keeps_sound_onMachine {Result : Type} {program : Setup.Step Result}
    (keeps : Keeps (Tied .target) program) : Keeps Sound (onMachine program) :=
  (leaves_onMachine keeps fun _ _ _ => True).weaken (fun _ holds => ⟨holds, trivial⟩)
    (fun _ _ holds => holds.1) fun _ _ ⟨⟨_, _, holds⟩, _⟩ => holds

theorem kept_sound (around : Surroundings) : Kept around Sound := by
  have tied := noted_tied .target
  refine ⟨?_, ?_, ?_, ?_, ?_, fun _ _ _ holds => holds⟩
  · apply keeps_sound_onMachine
    apply (tied.check .pluginId).bind
    intro _
    exact (tied.check .home).bind fun _ => keeps_removeLock
  · exact keeps_sound_onMachine ((tied.check .home).bind fun _ => keeps_removeMenu)
  · exact keeps_sound_onMachine ((tied.check .home).bind fun _ => keeps_removeBinding)
  · exact keeps_sound_onMachine (tied.configErrors .baseline)
  · exact fun before => keeps_sound_onMachine (tied.reloadHyprland .undoing before)

theorem keeps_setup : Keeps Sound (setup around) := by
  have runs : ∀ command, Keeps Sound (systemctl around command) := fun command =>
    leaves_run (fun _ _ holds => holds) fun _ _ holds => holds
  have armed : Keeps Sound (enable around) := by
    refine (runs .daemonReload).bind fun _ => (runs .enable).bind fun _ =>
      (runs .startPath).bind fun _ => ?_
    have reads : Leaves Program.read Sound (fun _ => Sound)
        fun (_ : Failure) => Sound := fun _ holds => holds
    apply reads.bind
    intro installed
    dsimp only
    split
    · exact runs .restartService
    · exact runs .stopService
  apply (keeps_sound_onMachine keeps_apply).bind
  intro _
  exact Keeps.bind armed.catching fun _ => keeps_pure

theorem sound_uninstall {enrollment : Enrollment} {installed : Installation}
    (sound : Sound installed) : Sound (uninstall around enrollment installed).2 := by
  cases validates : around.fails .sudoValidate with
  | true =>
      rw [uninstall_of_refused validates]
      exact sound
  | false =>
      have left := leaves_cleanUp (kept_sound around) enrollment installed sound
      obtain ⟨steps, cleaned, ran, _⟩ := exists_cleanUp around enrollment installed
      rw [ran] at left
      rw [uninstall_of_cleaned validates ran]
      by_cases all : (∀ done ∈ Teardown.step validatedLabel (.ok ()) :: steps, done.ok = true) ∧
          around.fails .pacman = false
      · rw [removePackage_of_all all.1 all.2]
        exact left.2
      · obtain ⟨failure, failed⟩ := removePackage_of_not all cleaned
        rw [failed]
        exact left.2

theorem sound_step {installed : Installation} {event : Event} (sound : Sound installed)
    (allowed : installed.allows event) : Sound (installed.step event) := by
  cases event with
  | setup around =>
      have setups : Keeps Sound (setup around) := keeps_setup
      have left := setups installed sound
      change Sound (setup around installed).2
      match setup around installed, left with
      | (.ok _, _), left => exact left
      | (.error _, _), left => exact left
  | uninstall around enrollment => exact sound_uninstall sound
  | reinstall => exact sound
  | appear location => exact sound
  | edit file source =>
      refine ⟨sound.1, fun other text here => ?_⟩
      change Function.update installed.machine.files file (some source) other = some text at here
      by_cases same : other = file
      · subst same
        rw [Function.update_self] at here
        exact Option.some.inj here ▸ allowed
      · rw [Function.update_of_ne same] at here
        exact sound.2 other text here

theorem sound_of_reaches {start installed : Installation}
    {past : List (Recorded Installation Event)} (pristine : Pristine start)
    (reached : Reaches allows Installation.step start past installed) : Sound installed :=
  reached.invariant (fun _ state => Sound state)
    ⟨fun enabled => absurd enabled pristine.lock,
      fun file source here => .inl (pristine.unmarked file source here)⟩
    fun _ _ _ sound allowed => sound_step sound allowed

/-- The steps that ask the compositor. -/
def Advisory : Op → Prop
  | .reload _ | .configErrors _ => True
  | _ => False

/-- Nothing outside of the program fails but, maybe, the compositor. -/
structure Smooth (around : Surroundings) : Prop where
  /-- No command fails. -/
  commands : ∀ command, around.fails command = false
  /-- No step fails that does not ask the compositor. -/
  ops : ∀ op, ¬ Advisory op → around.setup.fails op = false
  /-- Every edit reaches the disk. -/
  synced : ∀ site file, around.setup.unsynced site file = false
  /-- Every path can be removed. -/
  unstuck : ∀ location, around.stuck location = false

/-- What there is to be removed can be looked at. -/
structure Attentive (around : Surroundings) : Prop where
  /-- The plugin directory can be looked at. -/
  look : around.setup.fails (.look .undoing .target) = false
  /-- Its service can be read. -/
  read : around.setup.fails (.readService .undoing) = false
  /-- So can everything else. -/
  locations : ∀ location, around.unseen location = false

theorem seen_of_sound {installed : Installation} {enrollment : Enrollment} (sound : Sound installed)
    (attentive : Attentive around) (put_back : (.putBack, false) ∉ installed.machine.trace) :
    Seen around enrollment installed.traces where
  clone generated := ⟨attentive.look, attentive.read, generated⟩
  lock enabled := ⟨attentive.look, attentive.read, (sound.1 enabled).resolve_right put_back⟩
  files file source here := by
    obtain ⟨removed, taken, unmarked⟩ := (sound.2 file source here).exists_removal
    cases file with
    | bindings => exact fun rendered written => Except.ok.inj (taken.symm.trans written) ▸ unmarked
    | menu => exact fun rendered written => Except.ok.inj (taken.symm.trans written) ▸ unmarked
  locations location _ _ := attentive.locations location

theorem succeeds_perform {action : Action Unit} {before after : Installation → Prop} {label : Text}
    (succeeds : Succeeds action before fun _ => after) :
    Succeeds (perform label action) before
      fun step installed => step.ok = true ∧ after installed := by
  intro installed holds
  have left := succeeds installed holds
  change (Teardown.step label (action installed).1).ok = true ∧ after (action installed).2
  match action installed, left with
  | (.ok _, _), left => exact ⟨rfl, left⟩

theorem succeeds_onMachine {program : Setup.Step Unit}
    (succeeds : Leaves program (Tied .target) (fun _ _ => True) fun _ _ => False) :
    Succeeds (onMachine program) Sound fun _ _ => True :=
  (leaves_onMachine succeeds fun _ _ _ => True).weaken (fun _ holds => ⟨holds, trivial⟩)
    (fun _ _ _ => trivial) fun _ _ ⟨⟨_, _, fails⟩, _⟩ => fails

theorem succeeds_check {op : Op} (succeeds : around.setup.fails op = false) :
    Leaves (check around.setup op) (Tied .target) (fun _ => Tied .target) fun _ _ => False :=
  leaves_attempt (fun _ _ tied => (noted_tied .target).note op true tied)
    fun fails => by rw [succeeds] at fails; cases fails

theorem succeeds_removeLock (smooth : Smooth around) :
    Leaves (Setup.removeLock around.setup) (Tied .target) (fun _ _ => True) fun _ _ => False := by
  have tied := noted_tied .target
  have done : ∀ {op effect} {before : Machine → Prop}, around.setup.fails op = false →
      Leaves (attempt around.setup op effect) before (fun _ _ => True) fun _ _ => False :=
    fun succeeds => leaves_attempt (fun _ _ _ => trivial)
      fun fails => by rw [succeeds] at fails; cases fails
  apply Leaves.bind (tied.look .undoing .target)
  intro found
  cases found with
  | false => exact leaves_pure fun _ _ => trivial
  | true =>
      apply Leaves.bind (tied.isGenerated .undoing)
      intro generated
      cases generated with
      | false => exact leaves_pure fun _ _ => trivial
      | true =>
          have listed : ∀ {removed} {before : Machine → Prop},
              Leaves (backups around.setup removed) before (fun _ _ => True) fun _ _ => False :=
            fun _ _ => trivial
          apply listed.bind
          intro before
          apply (done (smooth.ops .removePlugin id)).bind
          intro _
          apply listed.bind
          intro after
          apply leaves_each
          exact fun name _ => done (smooth.ops (.removeBackup name) id)

theorem succeeds_update (smooth : Smooth around) (file : File) :
    Leaves (update around.setup .undoing file (missing file) (removal file)) (Tied .target)
      (fun _ _ => True) fun _ _ => False := by
  apply leaves_read.bind
  rintro machine _ ⟨rfl, tied⟩
  have owned : Owned file ((machine.files file).getD (missing file)) := by
    cases here : machine.files file with
    | none => exact owned_missing file
    | some source => exact tied.2 file source here
  obtain ⟨rendered, written, _⟩ := owned.exists_removal
  have fails := smooth.ops (.update .undoing file) id
  have synced := smooth.synced .undoing file
  simp only [fails, written, synced]
  by_cases same : rendered = (machine.files file).getD (missing file)
  · rw [if_neg nofun, if_pos same]
    exact trivial
  · rw [if_neg nofun, if_neg same]
    exact trivial

theorem succeeds_removeIfPresent (smooth : Smooth around) (location : Location) :
    Succeeds (removeIfPresent around location) Sound fun _ => Sound := by
  apply leaves_read.bind
  intro installed
  split
  · rw [if_neg (by simp [smooth.unstuck])]
    exact leaves_change fun _ holds => holds.2
  · exact leaves_pure fun _ holds => holds.2

theorem succeeds_stop (smooth : Smooth around) : Succeeds (stop around) Sound fun _ => Sound := by
  have disabled : ∀ {command}, Succeeds (systemctl around command) Sound fun _ => Sound :=
    leaves_run (fun _ _ holds => holds)
      fun fails => by rw [smooth.commands] at fails; cases fails
  exact disabled.bind fun _ => disabled

theorem succeeds_cleanUp (smooth : Smooth around) (enrollment : Enrollment) :
    Succeeds (cleanUp around enrollment) Sound fun steps _ => ∀ done ∈ steps, done.ok = true := by
  have kept := kept_sound around
  have checked : ∀ {op}, ¬ Advisory op → Leaves (check around.setup op) (Tied .target)
      (fun _ => Tied .target) fun _ _ => False := fun plain => succeeds_check (smooth.ops _ plain)
  have home : around.setup.fails .home = false := smooth.ops .home id
  have lock : Succeeds (removeLock around) Sound fun _ => Sound :=
    kept.lock.of_ok (succeeds_onMachine ((checked id).bind fun _ => (checked id).bind fun _ =>
      succeeds_removeLock smooth))
  have menu : Succeeds (removeMenu around) Sound fun _ => Sound :=
    kept.menu.of_ok (succeeds_onMachine ((checked id).bind fun _ => succeeds_update smooth .menu))
  have binding : Succeeds (removeBinding around) Sound fun _ => Sound :=
    kept.binding.of_ok
      (succeeds_onMachine ((checked id).bind fun _ => succeeds_update smooth .bindings))
  have state : Succeeds (removeState around) Sound fun _ => Sound := by
    rw [removeState, home, if_pos (by simp)]
    exact succeeds_removeIfPresent smooth .stateDir
  have config : Succeeds (forgetEnrollment around) Sound fun _ => Sound := by
    rw [forgetEnrollment, home, if_pos (by simp)]
    exact succeeds_removeIfPresent smooth .config
  apply (succeeds_perform lock).bind
  intro lock
  apply leaves_given
  intro lock_ok
  apply (succeeds_perform menu).bind
  intro menu
  apply leaves_given
  intro menu_ok
  have errors : Succeeds (onMachine (configErrors around.setup .baseline)).catching Sound
      fun _ => Sound := Leaves.catching kept.errors (fun _ _ holds => holds) fun _ _ holds => holds
  apply errors.bind
  intro baseline
  apply (succeeds_perform binding).bind
  intro binding
  apply leaves_given
  intro binding_ok
  apply (leaves_reload kept).bind
  intro reloaded
  apply leaves_given
  rintro ⟨_, reloaded_ok⟩
  apply (succeeds_perform (succeeds_stop smooth)).bind
  intro service
  apply leaves_given
  intro service_ok
  apply (succeeds_perform (succeeds_removeIfPresent smooth .socketDir)).bind
  intro socket
  apply leaves_given
  intro socket_ok
  apply (succeeds_perform state).bind
  intro state
  apply leaves_given
  intro state_ok
  have forgotten : Succeeds (forget around enrollment) Sound
      fun steps _ => ∀ done ∈ steps, done.ok = true := by
    cases enrollment with
    | keep => exact leaves_pure fun _ _ => List.forall_mem_nil _
    | forget =>
        apply (succeeds_perform config).bind
        intro done
        exact leaves_pure fun _ holds => by simpa using holds.1
  apply forgotten.bind
  intro forgotten
  apply leaves_pure
  intro _ forgotten_ok
  simpa [lock_ok, menu_ok, binding_ok, reloaded_ok, service_ok, socket_ok, state_ok]
    using forgotten_ok

/-- A removal that nothing hinders takes the package. -/
theorem uninstall_of_smooth (smooth : Smooth around) {enrollment : Enrollment}
    {installed : Installation} (sound : Sound installed) :
    (uninstall around enrollment installed).2.package = false := by
  obtain ⟨steps, cleaned, ran, _⟩ := exists_cleanUp around enrollment installed
  have left := succeeds_cleanUp smooth enrollment installed sound
  rw [ran] at left
  have all : ∀ done ∈ Teardown.step validatedLabel (.ok ()) :: steps, done.ok = true := by
    intro done member
    rcases List.mem_cons.mp member with rfl | known
    · rfl
    · exact left done known
  rw [uninstall_of_cleaned (smooth.commands .sudoValidate) ran,
    removePackage_of_all all (smooth.commands .pacman)]

/-- Whatever setups and removals have done, and wherever they failed, a removal that nothing hinders
takes the package; and one that takes it leaves nothing behind, if it could look at everything and
setup has never failed to put back a clone. -/
theorem uninstall_after_any_history {start installed : Installation} (pristine : Pristine start)
    {past : List (Recorded Installation Event)}
    (reached : Reaches allows Installation.step start past installed)
    (present : installed.package = true) (around : Surroundings) (enrollment : Enrollment) :
    (Smooth around → (uninstall around enrollment installed).2.package = false) ∧
      ((uninstall around enrollment installed).2.package = false → Attentive around →
        (.putBack, false) ∉ installed.machine.trace →
          Clean enrollment (uninstall around enrollment installed).2.traces) := by
  have sound := sound_of_reaches pristine reached
  refine ⟨fun smooth => uninstall_of_smooth smooth sound, fun gone attentive put_back => ?_⟩
  obtain ⟨removes, same⟩ := traces_of_package present gone
  rw [same]
  exact (clean_removed_iff removes).mpr (seen_of_sound sound attentive put_back)

/-- The compositor does not answer. -/
def silent : Surroundings := surroundings (failing (.reload .undoing))

theorem smooth_silent : Smooth silent where
  commands _ := rfl
  ops op plain := by
    change (op == .reload .undoing) = false
    rw [beq_eq_false_iff_ne]
    rintro rfl
    exact plain trivial
  synced _ _ := rfl
  unstuck _ := rfl

theorem attentive_silent : Attentive silent := ⟨by decide, by decide, fun _ => rfl⟩

theorem pristine_packaged : Pristine packaged := ⟨nofun, nofun⟩

/-- A setup has succeeded, and the daemon has made its socket. -/
def served : Installation := Execution.run Installation.step packaged
  [.setup silent, .appear .socketDir]

theorem uninstall_after_any_history_served :
    (uninstall silent .forget served).2.package = false ∧
      Clean .forget (uninstall silent .forget served).2.traces := by
  have allowed : AllAllowed allows Installation.step packaged
      [.setup silent, .appear .socketDir] := ⟨rfl, trivial, trivial⟩
  have reached : Reaches allows Installation.step packaged _ served :=
    Reaches.start.run_of_allAllowed allowed
  have after :=
    uninstall_after_any_history pristine_packaged reached (by decide +kernel) silent .forget
  have gone := after.1 smooth_silent
  exact ⟨gone, after.2 gone attentive_silent (by decide +kernel)⟩

end History

end PresenceUnlock.Cli.Teardown
