import PresenceUnlock.Cli.Owned

/-!
# Removing the integration, and then the package

Every part of the integration is taken back, whatever fails before it, and the package is removed
only if nothing failed.
-/

namespace PresenceUnlock.Cli.Teardown

open RustStd Effects Setup

/-- The user's units. -/
inductive Service
  | path
  | daemon
  deriving DecidableEq, Repr

/-- What the service manager says of a unit. -/
structure ServiceState where
  /-- Whether it starts at login. -/
  enabled : Bool
  /-- Whether it runs now. -/
  running : Bool
  deriving DecidableEq, Repr

/-- Neither enabled nor running. -/
def ServiceState.disabled : ServiceState := ⟨false, false⟩

/-- What else there may be on the disk. -/
inductive Location
  | socketDir
  | stateDir
  | config
  deriving DecidableEq, Repr

/-- What one user has, and the package. -/
structure Installation where
  /-- What setup edits. -/
  machine : Machine
  /-- The user's units. -/
  services : Service → ServiceState
  /-- What else is there. -/
  present : Location → Bool
  /-- Whether the package is installed. -/
  package : Bool

/-- The commands that setup and removal run for the service and the package. -/
inductive Command
  | sudoValidate
  | daemonReload
  | enable
  | startPath
  | restartService
  | stopService
  | disable (service : Service)
  | pacman
  deriving DecidableEq, Repr

/-- Why a step fails. -/
inductive Failure
  | command (command : Command)
  | setup (error : SetupError)
  | stateHomeUnknown
  | configHomeUnknown
  | unremoved (location : Location)
  | packageKept

/-- The commands of `systemctl`, where they succeed. -/
structure Systemctl where
  /-- What a command makes of the units. -/
  effect : Command → (Service → ServiceState) → Service → ServiceState
  /-- `disable --now` disables and stops its unit, and leaves the other. -/
  disables : ∀ service services,
    effect (.disable service) services = Function.update services service .disabled

/-- The commands, if that is all they do. -/
def Systemctl.documented : Systemctl where
  effect
    | .enable, services => fun service => { services service with enabled := true }
    | .startPath, services => Function.update services .path { services .path with running := true }
    | .restartService, services =>
        Function.update services .daemon { services .daemon with running := true }
    | .stopService, services =>
        Function.update services .daemon { services .daemon with running := false }
    | .disable service, services => Function.update services service .disabled
    | _, services => services
  disables _ _ := rfl

/-- What is outside of the program: the environment, which commands fail, and which paths it cannot
look at or cannot remove. -/
structure Surroundings where
  /-- The commands of the service manager. -/
  systemctl : Systemctl
  /-- What the steps of setup meet. -/
  setup : Oracle
  /-- Whether `XDG_STATE_HOME` is set. -/
  stateHome : Bool
  /-- Whether `XDG_CONFIG_HOME` is set. -/
  configHome : Bool
  /-- The commands that fail. -/
  fails : Command → Bool
  /-- The paths that cannot be looked at. -/
  unseen : Location → Bool
  /-- The paths that cannot be removed. -/
  stuck : Location → Bool

/-- A program on what is installed. -/
abbrev Action (Result : Type) : Type := Program Installation Failure Result

/-- A step that removal attempted. -/
structure Step where
  /-- What was attempted. -/
  label : Text
  /-- Whether it succeeded. -/
  ok : Bool
  /-- Why it did not. -/
  detail : Option Failure

/-- What removal may take with it. -/
inductive Enrollment
  | keep
  | forget
  deriving DecidableEq, Repr

section Actions

variable (around : Surroundings)

/-- A program of setup. -/
def onMachine {Result : Type} (program : Setup.Step Result) : Action Result :=
  program.within Installation.machine (fun installed machine => { installed with machine })
    Failure.setup

/-- A command that has an effect if it succeeds. -/
def run (command : Command) (effect : Installation → Installation) : Action Unit :=
  if around.fails command then Program.fail (.command command) else Program.change effect

/-- A command of the service manager. -/
def systemctl (command : Command) : Action Unit :=
  run around command fun installed =>
    { installed with services := around.systemctl.effect command installed.services }

/-- `paths::remove_if_present`; a failed look finds nothing. -/
def removeIfPresent (location : Location) : Action Unit := do
  let installed ← Program.read
  if installed.present location && !around.unseen location then
    if around.stuck location then Program.fail (.unremoved location)
    else Program.change fun installed =>
      { installed with present := Function.update installed.present location false }

/-- `service::enable`. -/
def enable : Action Unit := do
  systemctl around .daemonReload
  systemctl around .enable
  systemctl around .startPath
  let installed ← Program.read
  let known := around.configHome || !around.setup.fails .home
  if known && installed.present .config && !around.unseen .config then
    systemctl around .restartService
  else systemctl around .stopService

/-- `service::stop`; the path unit goes first. -/
def stop : Action Unit := do
  systemctl around (.disable .path)
  systemctl around (.disable .daemon)

/-- Remove the directory of the socket. -/
def removeSocket : Action Unit := removeIfPresent around .socketDir

/-- Take the clone back, if the plugin and the home directory are known. -/
def removeLock : Action Unit := onMachine do
  check around.setup .pluginId
  check around.setup .home
  Setup.removeLock around.setup

/-- Take the block out of the menu, if the home directory is known. -/
def removeMenu : Action Unit := onMachine do
  check around.setup .home
  Setup.removeMenu around.setup

/-- Take the block out of the bindings, if the home directory is known. -/
def removeBinding : Action Unit := onMachine do
  check around.setup .home
  Setup.removeBinding around.setup

/-- Remove the state, if it is known where it is. -/
def removeState : Action Unit :=
  if around.stateHome || !around.setup.fails .home then removeIfPresent around .stateDir
  else Program.fail .stateHomeUnknown

/-- Remove the configuration, if it is known where it is. -/
def forgetEnrollment : Action Unit :=
  if around.configHome || !around.setup.fails .home then removeIfPresent around .config
  else Program.fail .configHomeUnknown

/-- What is reported of a step. -/
def step (label : Text) : Except Failure Unit → Step
  | .ok () => ⟨label, true, none⟩
  | .error detail => ⟨label, false, some detail⟩

/-- A step that is attempted, and noted whether or not it fails. -/
def perform (label : Text) (action : Action Unit) : Action Step := do
  return step label (← action.catching)

def validatedLabel : Text := "Administrator access confirmed".toList
def lockLabel : Text := "Removed the presence lock and restored omarchy.lock".toList
def menuLabel : Text := "Removed the Omarchy menu entry".toList
def bindingLabel : Text := "Removed the Alt unlock binding".toList
def reloadedLabel : Text := "Reloaded Hyprland".toList
def notReloadedLabel : Text :=
  "Hyprland not reloaded; the binding stops at its next reload".toList
def serviceLabel : Text := "Disabled and stopped the presence service".toList
def socketLabel : Text := "Removed the control socket".toList
def stateLabel : Text := "Removed retained state".toList
def enrollmentLabel : Text := "Forgot the enrolled devices".toList
def packageLabel : Text := "Removed the installed application package".toList

/-- The reload is advisory: the binding is already gone from the file. -/
def reload (baseline : Except Failure Text) : Action Step := do
  let outcome ← match baseline with
    | .ok before => (onMachine (reloadHyprland around.setup .undoing before)).catching
    | .error error => pure (.error error)
  match outcome with
  | .ok () => return step reloadedLabel (.ok ())
  | .error error => return ⟨notReloadedLabel, true, some error⟩

/-- Forget the enrollment, if that was asked for. -/
def forget (enrollment : Enrollment) : Action (List Step) :=
  match enrollment with
  | .keep => pure []
  | .forget => do return [← perform enrollmentLabel (forgetEnrollment around)]

/-- Every part is taken back, whatever fails before it. -/
def cleanUp (enrollment : Enrollment) : Action (List Step) := do
  let lock ← perform lockLabel (removeLock around)
  let menu ← perform menuLabel (removeMenu around)
  let baseline ← (onMachine (configErrors around.setup .baseline)).catching
  let binding ← perform bindingLabel (removeBinding around)
  let reloaded ← reload around baseline
  let service ← perform serviceLabel (stop around)
  let socket ← perform socketLabel (removeSocket around)
  let state ← perform stateLabel (removeState around)
  let forgotten ← forget around enrollment
  return [lock, menu, binding, reloaded, service, socket, state] ++ forgotten

/-- Remove the package, if every step succeeded. -/
def removePackage (steps : List Step) : Action Unit :=
  if steps.all Step.ok then run around .pacman fun installed => { installed with package := false }
  else Program.fail .packageKept

/-- Confirm administrator access, clean up, and remove the package. -/
def uninstall (enrollment : Enrollment) : Action (List Step) := do
  let validated ← perform validatedLabel (run around .sudoValidate id)
  if !validated.ok then return [validated]
  else
    let cleaned ← cleanUp around enrollment
    let steps := validated :: cleaned
    let removal ← perform packageLabel (removePackage around steps)
    return steps ++ [removal]

end Actions

@[simp] theorem label_step (label : Text) (outcome : Except Failure Unit) :
    (step label outcome).label = label := by
  cases outcome <;> rfl

theorem detail_step {label : Text} {outcome : Except Failure Unit}
    (failed : (step label outcome).ok = false) : (step label outcome).detail.isSome = true := by
  cases outcome with
  | ok => cases failed
  | error => rfl

section Rules

variable {around : Surroundings} {before after : Installation → Prop} {label : Text}
  {action : Action Unit}

/-- A program that cannot fail. -/
abbrev Succeeds {Result : Type} (program : Action Result) (before : Installation → Prop)
    (after : Result → Installation → Prop) : Prop :=
  Leaves program before after fun _ _ => False

theorem leaves_run {command : Command} {effect : Installation → Installation}
    {failed : Failure → Installation → Prop}
    (ok : around.fails command = false → ∀ installed, before installed → after (effect installed))
    (error : around.fails command = true → ∀ installed, before installed →
      failed (.command command) installed) :
    Leaves (run around command effect) before (fun _ => after) failed := by
  rw [run]
  split
  · exact leaves_fail (error ‹_›)
  · rename_i succeeds
    exact leaves_change (ok (by simpa using succeeds))

/-- A program on the machine leaves everything else. -/
theorem leaves_onMachine {Result : Type} {program : Setup.Step Result}
    {before : Machine → Prop} {after : Result → Machine → Prop}
    {failed : SetupError → Machine → Prop} (leaves : Leaves program before after failed)
    (others : (Service → ServiceState) → (Location → Bool) → Bool → Prop) :
    Leaves (onMachine program)
      (fun installed => before installed.machine ∧
        others installed.services installed.present installed.package)
      (fun result installed => after result installed.machine ∧
        others installed.services installed.present installed.package)
      fun failure installed =>
        (∃ inner, failure = .setup inner ∧ failed inner installed.machine) ∧
          others installed.services installed.present installed.package := by
  refine Leaves.within (fun installed : Installation =>
    others installed.services installed.present installed.package) ?_ ?_ leaves
  · exact fun _ _ => rfl
  · exact fun _ _ kept => kept

/-- What a step that was attempted tells, whether or not it failed. -/
structure Step.Tells (step : Step) (label : Text) : Prop where
  /-- It has its label. -/
  label : step.label = label
  /-- If it failed, it tells why. -/
  detail : step.ok = false → step.detail.isSome = true

theorem leaves_perform (keeps : Keeps before action) :
    Succeeds (perform label action) before fun step installed =>
      step.Tells label ∧ before installed := by
  have caught : Succeeds action.catching before fun _ => before :=
    Leaves.catching keeps (fun _ _ holds => holds) fun _ _ holds => holds
  apply caught.bind
  intro outcome
  apply leaves_pure
  intro installed holds
  cases outcome with
  | ok _ => exact ⟨⟨rfl, nofun⟩, holds⟩
  | error _ => exact ⟨⟨rfl, fun _ => rfl⟩, holds⟩

end Rules

section Package

/-- What every part of a removal keeps, whether or not it fails. -/
structure Kept (around : Surroundings) (invariant : Installation → Prop) : Prop where
  /-- Taking the clone back keeps it. -/
  lock : Keeps invariant (removeLock around)
  /-- Editing the menu keeps it. -/
  menu : Keeps invariant (removeMenu around)
  /-- Editing the bindings keeps it. -/
  binding : Keeps invariant (removeBinding around)
  /-- Asking for the errors of the compositor keeps it. -/
  errors : Keeps invariant (onMachine (configErrors around.setup .baseline))
  /-- Reloading the compositor keeps it. -/
  reload : ∀ before, Keeps invariant (onMachine (reloadHyprland around.setup .undoing before))
  /-- It does not depend on the units and on the other paths. -/
  others : ∀ installed services present, invariant installed →
    invariant { installed with services, present }

namespace Kept

variable {around : Surroundings} {invariant : Installation → Prop} (kept : Kept around invariant)

include kept

theorem removeIfPresent (location : Location) :
    Keeps invariant (removeIfPresent around location) := by
  apply leaves_read.bind
  intro installed
  split
  · split
    · exact leaves_fail fun _ holds => holds.2
    · exact leaves_change fun _ holds => kept.others _ _ _ holds.2
  · exact leaves_pure fun _ holds => holds.2

theorem stop : Keeps invariant (stop around) := by
  have disabled : ∀ {command}, Keeps invariant (systemctl around command) :=
    leaves_run (fun _ _ holds => kept.others _ _ _ holds) fun _ _ holds => holds
  exact disabled.bind fun _ => disabled

theorem removeState : Keeps invariant (removeState around) := by
  rw [Teardown.removeState]
  split
  · exact kept.removeIfPresent .stateDir
  · exact keeps_fail

theorem forgetEnrollment : Keeps invariant (forgetEnrollment around) := by
  rw [Teardown.forgetEnrollment]
  split
  · exact kept.removeIfPresent .config
  · exact keeps_fail

end Kept

/-- The labels of the steps; the reload may have failed. -/
structure Labelled (enrollment : Enrollment) (steps : List Step) : Prop where
  /-- The labels, in order. -/
  labels : ∃ reloaded ∈ [reloadedLabel, notReloadedLabel], steps.map Step.label =
    [lockLabel, menuLabel, bindingLabel, reloaded, serviceLabel, socketLabel, stateLabel] ++
      if enrollment = .forget then [enrollmentLabel] else []
  /-- Every step that failed tells why. -/
  details : ∀ step ∈ steps, step.ok = false → step.detail.isSome = true

section Cleanup

variable {around : Surroundings} {invariant : Installation → Prop}

theorem leaves_reload (kept : Kept around invariant) {baseline : Except Failure Text} :
    Succeeds (reload around baseline) invariant fun step installed =>
      (step.label ∈ [reloadedLabel, notReloadedLabel] ∧ step.ok = true) ∧ invariant installed := by
  have told : ∀ outcome : Except Failure Unit,
      Succeeds (match outcome with
        | .ok () => return step reloadedLabel (.ok ())
        | .error error => return (⟨notReloadedLabel, true, some error⟩ : Step))
      invariant fun step installed =>
        (step.label ∈ [reloadedLabel, notReloadedLabel] ∧ step.ok = true) ∧
          invariant installed := by
    rintro (error | ⟨⟨⟩⟩)
    · exact leaves_pure fun _ holds => ⟨⟨by simp, rfl⟩, holds⟩
    · exact leaves_pure fun _ holds => ⟨⟨by simp [step], rfl⟩, holds⟩
  cases baseline with
  | error error => exact told (.error error)
  | ok before =>
      have reloaded : Succeeds (onMachine (reloadHyprland around.setup .undoing before)).catching
          invariant fun _ => invariant :=
        Leaves.catching (kept.reload before) (fun _ _ holds => holds) fun _ _ holds => holds
      exact reloaded.bind told

theorem leaves_forget (kept : Kept around invariant) (enrollment : Enrollment) :
    Succeeds (forget around enrollment) invariant fun steps installed =>
      (steps.map Step.label = (if enrollment = .forget then [enrollmentLabel] else []) ∧
        ∀ step ∈ steps, step.ok = false → step.detail.isSome = true) ∧
      invariant installed := by
  cases enrollment with
  | keep => exact leaves_pure fun _ holds => ⟨⟨rfl, nofun⟩, holds⟩
  | forget =>
      apply (leaves_perform kept.forgetEnrollment).bind
      intro step
      refine leaves_pure fun _ holds => ⟨⟨?_, ?_⟩, holds.2⟩
      · simp [holds.1.label]
      · simpa using holds.1.detail

theorem leaves_cleanUp (kept : Kept around invariant) (enrollment : Enrollment) :
    Succeeds (cleanUp around enrollment) invariant fun steps installed =>
      Labelled enrollment steps ∧ invariant installed := by
  apply (leaves_perform kept.lock).bind
  intro lock
  apply leaves_given
  intro lock_tells
  apply (leaves_perform kept.menu).bind
  intro menu
  apply leaves_given
  intro menu_tells
  have baseline : Succeeds (onMachine (configErrors around.setup .baseline)).catching
      invariant fun _ => invariant :=
    Leaves.catching kept.errors (fun _ _ holds => holds) fun _ _ holds => holds
  apply baseline.bind
  intro baseline
  apply (leaves_perform kept.binding).bind
  intro binding
  apply leaves_given
  intro binding_tells
  apply (leaves_reload kept).bind
  intro reloaded
  apply leaves_given
  rintro ⟨reloaded_label, reloaded_ok⟩
  apply (leaves_perform kept.stop).bind
  intro service
  apply leaves_given
  intro service_tells
  apply (leaves_perform (kept.removeIfPresent .socketDir)).bind
  intro socket
  apply leaves_given
  intro socket_tells
  apply (leaves_perform kept.removeState).bind
  intro state
  apply leaves_given
  intro state_tells
  apply (leaves_forget kept enrollment).bind
  intro forgotten
  apply leaves_pure
  rintro _ ⟨⟨labels, details⟩, holds⟩
  refine ⟨⟨⟨_, reloaded_label, ?_⟩, ?_⟩, holds⟩
  · simp [labels, lock_tells.label, menu_tells.label, binding_tells.label, service_tells.label,
      socket_tells.label, state_tells.label]
  · intro step member
    rcases List.mem_append.mp member with known | last
    · simp only [List.mem_cons, List.not_mem_nil, or_false] at known
      rcases known with rfl | rfl | rfl | rfl | rfl | rfl | rfl
      · exact lock_tells.detail
      · exact menu_tells.detail
      · exact binding_tells.detail
      · simp [reloaded_ok]
      · exact service_tells.detail
      · exact socket_tells.detail
      · exact state_tells.detail
    · exact details step last

end Cleanup

variable {around : Surroundings}

/-- Nothing but the removal of the package bears on it. -/
theorem kept_package (around : Surroundings) (package : Bool) :
    Kept around fun installed => installed.package = package := by
  have anything : ∀ {Result : Type} {program : Setup.Step Result},
      Keeps (fun installed : Installation => installed.package = package) (onMachine program) := by
    intro Result program
    have anywhere : Leaves program (fun _ => True) (fun _ _ => True) fun _ _ => True := by
      intro machine _
      split <;> trivial
    exact (leaves_onMachine anywhere fun _ _ kept => kept = package).weaken
      (fun _ holds => ⟨trivial, holds⟩) (fun _ _ holds => holds.2) fun _ _ holds => holds.2
  exact ⟨anything, anything, anything, anything, fun _ => anything, fun _ _ _ holds => holds⟩

/-- The package goes if no step failed and the command does not. -/
theorem removePackage_of_all {steps : List Step} {installed : Installation}
    (all : ∀ step ∈ steps, step.ok = true) (succeeds : around.fails .pacman = false) :
    removePackage around steps installed = (.ok (), { installed with package := false }) := by
  rw [removePackage, if_pos (List.all_eq_true.mpr all), run, if_neg (by simp [succeeds])]
  rfl

theorem removePackage_of_not {steps : List Step}
    (kept : ¬ ((∀ done ∈ steps, done.ok = true) ∧ around.fails .pacman = false))
    (installed : Installation) :
    ∃ failure, removePackage around steps installed = (.error failure, installed) := by
  rw [removePackage]
  split
  · rename_i all
    have fails : around.fails .pacman = true := by
      by_contra succeeds
      exact kept ⟨List.all_eq_true.mp all, by simpa using succeeds⟩
    rw [run, if_pos fails]
    exact ⟨_, rfl⟩
  · exact ⟨_, rfl⟩

/-- Administrator access is refused, and nothing happens. -/
theorem uninstall_of_refused (refuses : around.fails .sudoValidate = true)
    (enrollment : Enrollment) (installed : Installation) :
    uninstall around enrollment installed =
      (.ok [step validatedLabel (.error (.command .sudoValidate))], installed) := by
  have refused : perform validatedLabel (run around .sudoValidate id) installed =
      (.ok (step validatedLabel (.error (.command .sudoValidate))), installed) := by
    rw [run, if_pos refuses]
    rfl
  exact Program.bind_of_ok refused

/-- Administrator access is granted: the removal cleans up, and then removes the package. -/
theorem uninstall_of_cleaned (validates : around.fails .sudoValidate = false)
    {enrollment : Enrollment} {installed cleaned : Installation} {steps : List Step}
    (ran : cleanUp around enrollment installed = (.ok steps, cleaned)) :
    uninstall around enrollment installed =
      (.ok (step validatedLabel (.ok ()) :: steps ++ [step packageLabel
          (removePackage around (step validatedLabel (.ok ()) :: steps) cleaned).1]),
        (removePackage around (step validatedLabel (.ok ()) :: steps) cleaned).2) := by
  have confirmed : perform validatedLabel (run around .sudoValidate id) installed =
      (.ok (step validatedLabel (.ok ())), installed) := by
    rw [run, if_neg (by simp [validates])]
    rfl
  exact (Program.bind_of_ok confirmed).trans (Program.bind_of_ok ran)

theorem exists_cleanUp (around : Surroundings) (enrollment : Enrollment)
    (installed : Installation) :
    ∃ steps cleaned, cleanUp around enrollment installed = (.ok steps, cleaned) ∧
      Labelled enrollment steps ∧ cleaned.package = installed.package := by
  have left := leaves_cleanUp (kept_package around installed.package) enrollment installed rfl
  match ran : cleanUp around enrollment installed, left with
  | (.ok steps, cleaned), ⟨labelled, packaged⟩ => exact ⟨steps, cleaned, rfl, labelled, packaged⟩

/-- Removal without administrator access changes nothing.  With it, every step is attempted whatever
fails, each failed one tells why, and the package goes only if none failed. -/
theorem uninstall_keeps_package (around : Surroundings) (enrollment : Enrollment)
    (installed : Installation) :
    ∃ steps after, uninstall around enrollment installed = (.ok steps, after) ∧
      (∀ done ∈ steps, done.ok = false → done.detail.isSome = true) ∧
      (around.fails .sudoValidate = true →
        after = installed ∧ steps.map Step.label = [validatedLabel]) ∧
      (around.fails .sudoValidate = false → ∃ cleaned, Labelled enrollment cleaned ∧
        steps.map Step.label = validatedLabel :: cleaned.map Step.label ++ [packageLabel]) ∧
      (after.package = false ↔ installed.package = false ∨ ∀ done ∈ steps, done.ok = true) := by
  cases validates : around.fails .sudoValidate with
  | true =>
      exact ⟨_, _, uninstall_of_refused validates enrollment installed, by simp [step],
        fun _ => ⟨rfl, rfl⟩, nofun, by simp [step]⟩
  | false =>
      obtain ⟨steps, cleaned, ran, labelled, packaged⟩ :=
        exists_cleanUp around enrollment installed
      have done := uninstall_of_cleaned validates ran
      refine ⟨_, _, done, ?_, nofun, fun _ => ⟨steps, labelled, by simp⟩, ?_⟩
      · intro attempted member
        rcases List.mem_append.mp member with known | last
        · rcases List.mem_cons.mp known with rfl | known
          · exact detail_step
          · exact labelled.details attempted known
        · rw [List.mem_singleton.mp last]
          exact detail_step
      · by_cases all : (∀ done ∈ step validatedLabel (.ok ()) :: steps, done.ok = true) ∧
            around.fails .pacman = false
        · rw [removePackage_of_all all.1 all.2]
          refine iff_of_true rfl (.inr fun attempted member => ?_)
          rcases List.mem_append.mp member with known | last
          · exact all.1 attempted known
          · rw [List.mem_singleton.mp last]
            rfl
        · obtain ⟨failure, failed⟩ := removePackage_of_not all cleaned
          rw [failed]
          refine ⟨fun removed => .inl (packaged.symm.trans removed), ?_⟩
          rintro (removed | every)
          · exact packaged.trans removed
          · exact absurd (every (step packageLabel (.error failure)) (by simp)) (by simp [step])

end Package

end PresenceUnlock.Cli.Teardown
