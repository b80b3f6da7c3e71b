import PresenceUnlock.Cli.Teardown

/-!
# What is left of the integration

A step that succeeds turns what there was into what is left of it.  Where the removal cannot look it
takes things to be gone, so that the package can go while something is left.
-/

namespace PresenceUnlock.Cli.Teardown

open RustStd Effects Setup

/-- What a removal is about. -/
structure Traces where
  /-- The plugin directory. -/
  target : Option Directory
  /-- The lock that is enabled. -/
  lock : Lock
  /-- The files of the user. -/
  files : File → Option Text
  /-- The user's units. -/
  services : Service → ServiceState
  /-- What else is there. -/
  present : Location → Bool

/-- The traces of what is installed. -/
def Installation.traces (installed : Installation) : Traces where
  target := installed.machine.plugins .target
  lock := installed.machine.lock
  files := installed.machine.files
  services := installed.services
  present := installed.present

/-- Nothing is left but, where it is kept, the enrollment. -/
structure Clean (enrollment : Enrollment) (traces : Traces) : Prop where
  /-- There is no generated clone. -/
  ungenerated : ¬ Generated traces.target
  /-- None is enabled. -/
  lock : traces.lock ≠ .clone
  /-- Neither file has a block, or a part of one. -/
  files : ∀ file source, traces.files file = some source → Unmarked file source
  /-- No unit is enabled or runs. -/
  services : ∀ service, traces.services service = .disabled
  /-- Nothing else is left, unless it is kept. -/
  gone : ∀ location, (location = .config → enrollment = .forget) →
    traces.present location = false

/-- The lock is found to be the generated clone. -/
def Finds (around : Surroundings) (traces : Traces) : Prop :=
  around.setup.fails (.look .undoing .target) = false ∧
    around.setup.fails (.readService .undoing) = false ∧ Generated traces.target

/-- Whatever there is to be removed is found. -/
structure Seen (around : Surroundings) (enrollment : Enrollment) (traces : Traces) : Prop where
  /-- A generated clone is found. -/
  clone : Generated traces.target → Finds around traces
  /-- A clone that is enabled is found. -/
  lock : traces.lock = .clone → Finds around traces
  /-- Each file is one that the removal clears. -/
  files : ∀ file source, traces.files file = some source → Undoable file source
  /-- What else there is can be looked at, unless it is kept. -/
  locations : ∀ location, (location = .config → enrollment = .forget) →
    traces.present location = true → around.unseen location = false

namespace Traces

variable (around : Surroundings)

open Classical in

/-- The clone is removed, if it is found. -/
noncomputable def withoutLock (traces : Traces) : Traces :=
  if Finds around traces then { traces with target := none, lock := .builtIn } else traces

/-- What the removal makes of a file. -/
def taken (file : File) (content : Option Text) : Option Text :=
  match removal file (content.getD (missing file)) with
  | .ok rendered => if rendered = content.getD (missing file) then content else some rendered
  | .error _ => content

/-- One file is edited. -/
def without (file : File) (traces : Traces) : Traces :=
  { traces with files := Function.update traces.files file (taken file (traces.files file)) }

/-- The units are disabled. -/
def disabled (traces : Traces) : Traces := { traces with services := fun _ => .disabled }

/-- One path is removed, if it can be looked at. -/
def withoutPath (location : Location) (traces : Traces) : Traces :=
  { traces with
    present := Function.update traces.present location
      (traces.present location && around.unseen location) }

end Traces

/-- The part of the traces that is on the machine. -/
structure Traces.On (traces : Traces) (machine : Machine) : Prop where
  /-- The plugin directory. -/
  target : machine.plugins .target = traces.target
  /-- The lock that is enabled. -/
  lock : machine.lock = traces.lock
  /-- The files of the user. -/
  files : machine.files = traces.files

theorem traces_eq_iff {installed : Installation} {traces : Traces} :
    installed.traces = traces ↔
      traces.On installed.machine ∧ installed.services = traces.services ∧
        installed.present = traces.present := by
  constructor
  · rintro rfl
    exact ⟨⟨rfl, rfl, rfl⟩, rfl, rfl⟩
  · rintro ⟨on, services, present⟩
    rw [Installation.traces, on.target, on.lock, on.files, services, present]

/-- The removal takes a file for one that it can edit. -/
def Removes (file : File) (content : Option Text) : Prop :=
  ∃ rendered, removal file (content.getD (missing file)) = .ok rendered

section Left

variable {around : Surroundings} {traces : Traces}

theorem leaves_note {op : Op} {failed : SetupError → Machine → Prop}
    (fails : ∀ machine, failed (.step op) machine) :
    Leaves (check around.setup op) traces.On (fun _ => traces.On) failed :=
  leaves_attempt (fun _ _ on => ⟨on.target, on.lock, on.files⟩) fun _ _ _ => fails _

/-- The lock is looked at: it is the generated clone, or nothing is found. -/
theorem leaves_look_lock {failed : SetupError → Machine → Prop} :
    Leaves (look around.setup .undoing .target) traces.On
      (fun found machine => (if found = true then
        around.setup.fails (.look .undoing .target) = false else ¬ Finds around traces) ∧
          traces.On machine) failed := by
  apply leaves_look
  · intro succeeds machine on
    refine ⟨?_, on.target, on.lock, on.files⟩
    split
    · exact succeeds
    · rename_i absent
      rintro ⟨_, _, files, _, here, _⟩
      rw [on.target, here] at absent
      exact absent rfl
  · intro fails machine on
    refine ⟨?_, on.target, on.lock, on.files⟩
    rintro ⟨succeeds, _⟩
    rw [fails] at succeeds
    cases succeeds

theorem leaves_isGenerated_lock (looked : around.setup.fails (.look .undoing .target) = false)
    {failed : SetupError → Machine → Prop} :
    Leaves (isGenerated around.setup .undoing) traces.On
      (fun generated machine => (generated = true ↔ Finds around traces) ∧ traces.On machine)
      failed := by
  apply leaves_isGenerated
  · intro succeeds machine on generated
    exact ⟨iff_of_true rfl ⟨looked, succeeds, on.target ▸ generated⟩, on.target, on.lock, on.files⟩
  · intro succeeds machine on ungenerated
    exact ⟨iff_of_false nofun fun finds => ungenerated (on.target.symm ▸ finds.2.2),
      on.target, on.lock, on.files⟩
  · intro fails machine on
    refine ⟨iff_of_false nofun fun finds => ?_, on.target, on.lock, on.files⟩
    have succeeds := finds.2.1
    rw [fails] at succeeds
    cases succeeds

theorem leaves_removeLock_on :
    Leaves (Setup.removeLock around.setup) traces.On (fun _ => (traces.withoutLock around).On)
      fun _ _ => True := by
  apply leaves_look_lock.bind
  intro found
  apply leaves_given
  intro looked
  cases found with
  | false =>
      rw [if_neg nofun] at looked
      apply leaves_pure
      rw [Traces.withoutLock, if_neg looked]
      exact fun _ on => on
  | true =>
      apply (leaves_isGenerated_lock looked).bind
      intro generated
      apply leaves_given
      intro told
      cases generated with
      | false =>
          apply leaves_pure
          rw [Traces.withoutLock, if_neg fun finds => nomatch told.mpr finds]
          exact fun _ on => on
      | true =>
          rw [Traces.withoutLock, if_pos (told.mp rfl)]
          have listed : ∀ {removed traces}, Leaves (backups around.setup removed) (Traces.On traces)
              (fun _ => traces.On) fun _ _ => True := fun _ holds => holds
          apply listed.bind
          intro before
          have plugin : Leaves (attempt around.setup .removePlugin
                (around.setup.shell.remove around.setup.backup))
              traces.On (fun _ => Traces.On { traces with target := none, lock := .builtIn })
              fun _ _ => True := by
            rw [Shell.remove_eq]
            exact leaves_attempt (fun _ machine on =>
              ⟨plugins_place_self machine .target none, rfl, on.files⟩) fun _ _ _ => trivial
          apply plugin.bind
          intro _
          apply listed.bind
          intro after
          apply leaves_each
          intro name _
          exact leaves_attempt (fun _ _ on => ⟨on.target, on.lock, on.files⟩) fun _ _ _ => trivial

/-- An edit that succeeds replaces a file by what the removal makes of it. -/
theorem leaves_update_on (file : File) :
    Leaves (update around.setup .undoing file (missing file) (removal file)) traces.On
      (fun _ machine => Removes file (traces.files file) ∧ (traces.without file).On machine)
      fun _ _ => True := by
  apply leaves_read.bind
  intro machine
  dsimp only
  split
  · exact leaves_attemptIf nofun fun _ _ _ => trivial
  split
  · exact leaves_fail fun _ _ => trivial
  rename_i rendered written
  split
  · rename_i same
    refine leaves_attemptIf (fun _ => ?_) nofun
    rintro _ ⟨rfl, on⟩
    rw [on.files] at written same
    refine ⟨⟨rendered, written⟩, on.target, on.lock, ?_⟩
    change machine.files = Function.update traces.files file (Traces.taken file _)
    rw [Traces.taken, written, on.files]
    simp [same]
  · rename_i different
    have stored : Leaves (Program.change fun machine => machine.store file rendered)
        (fun world => machine = world ∧ traces.On world)
        (fun _ machine => Removes file (traces.files file) ∧ (traces.without file).On machine)
        (fun _ _ => True : SetupError → Machine → Prop) := by
      apply leaves_change
      rintro _ ⟨rfl, on⟩
      rw [on.files] at written different
      refine ⟨⟨rendered, written⟩, on.target, on.lock, ?_⟩
      change Function.update machine.files file _ =
        Function.update traces.files file (Traces.taken file _)
      rw [Traces.taken, written, on.files]
      simp [different]
    apply stored.bind
    intro _
    refine leaves_attemptIf (fun _ machine holds => ?_) fun _ _ _ => trivial
    exact ⟨holds.1, holds.2.target, holds.2.lock, holds.2.files⟩

/-- What a step leaves of the traces if it succeeds, and what is known then. -/
def Turns (action : Action Unit) (traces : Traces) (known : Prop) (traces' : Traces) : Prop :=
  Leaves action (fun installed => installed.traces = traces)
    (fun _ installed => known ∧ installed.traces = traces') fun _ _ => True

theorem turns_onMachine {program : Setup.Step Unit} {known : Prop} {traces' : Traces}
    (leaves : Leaves program traces.On (fun _ machine => known ∧ traces'.On machine)
      fun _ _ => True)
    (services : traces'.services = traces.services) (present : traces'.present = traces.present) :
    Turns (onMachine program) traces known traces' := by
  refine (leaves_onMachine leaves fun services present _ =>
    services = traces.services ∧ present = traces.present).weaken ?_ ?_ fun _ _ _ => trivial
  · exact fun _ same => traces_eq_iff.mp same
  · rintro _ installed ⟨⟨holds, on⟩, same⟩
    refine ⟨holds, traces_eq_iff.mpr ⟨on, ?_⟩⟩
    rwa [services, present]

theorem turns_removeLock :
    Turns (removeLock around) traces True (traces.withoutLock around) := by
  have unlocked : Leaves (Setup.removeLock around.setup) traces.On
      (fun _ machine => True ∧ (traces.withoutLock around).On machine) fun _ _ => True :=
    leaves_removeLock_on.weaken (fun _ holds => holds) (fun _ _ holds => ⟨trivial, holds⟩)
      fun _ _ holds => holds
  apply turns_onMachine
  · apply (leaves_note fun _ => trivial).bind
    intro _
    apply (leaves_note fun _ => trivial).bind
    exact fun _ => unlocked
  · rw [Traces.withoutLock]
    split <;> rfl
  · rw [Traces.withoutLock]
    split <;> rfl

theorem turns_removeMenu :
    Turns (removeMenu around) traces (Removes .menu (traces.files .menu)) (traces.without .menu) :=
  turns_onMachine ((leaves_note fun _ => trivial).bind fun _ => leaves_update_on .menu) rfl rfl

theorem turns_removeBinding :
    Turns (removeBinding around) traces (Removes .bindings (traces.files .bindings))
      (traces.without .bindings) :=
  turns_onMachine ((leaves_note fun _ => trivial).bind fun _ => leaves_update_on .bindings) rfl rfl

theorem turns_stop : Turns (stop around) traces True traces.disabled := by
  have disables : ∀ (service : Service) (traces : Traces),
      Leaves (systemctl around (.disable service)) (fun installed => installed.traces = traces)
        (fun _ installed => installed.traces =
          { traces with services := Function.update traces.services service .disabled })
        fun _ _ => True := by
    intro service traces
    refine leaves_run (fun _ installed same => ?_) fun _ _ _ => trivial
    rw [← same, around.systemctl.disables]
    rfl
  have both : Function.update (Function.update traces.services .path .disabled) .daemon
      .disabled = fun _ => .disabled := by
    funext service
    cases service <;> rfl
  apply (disables .path traces).bind
  intro _
  refine (disables .daemon _).weaken (fun _ same => same) (fun _ _ same => ⟨trivial, ?_⟩)
    fun _ _ _ => trivial
  exact same.trans (congrArg (fun services => { traces with services }) both)

theorem turns_removeIfPresent (location : Location) :
    Turns (removeIfPresent around location) traces True (traces.withoutPath around location) := by
  apply leaves_read.bind
  intro installed
  split
  · rename_i found
    rw [Bool.and_eq_true, Bool.not_eq_true'] at found
    split
    · exact leaves_fail fun _ _ => trivial
    · apply leaves_change
      rintro _ ⟨rfl, rfl⟩
      refine ⟨trivial, ?_⟩
      rw [Traces.withoutPath, found.2, Bool.and_false]
      rfl
  · rename_i absent
    apply leaves_pure
    rintro _ ⟨rfl, rfl⟩
    refine ⟨trivial, ?_⟩
    have same : (installed.present location && around.unseen location) =
        installed.present location := by
      cases here : installed.present location with
      | false => rfl
      | true => simpa [here] using absent
    rw [Traces.withoutPath]
    change installed.traces = { installed.traces with
      present := Function.update installed.present location
        (installed.present location && around.unseen location) }
    rw [same, Function.update_eq_self]
    rfl

theorem turns_removeState :
    Turns (removeState around) traces True (traces.withoutPath around .stateDir) := by
  rw [removeState]
  split
  · exact turns_removeIfPresent .stateDir
  · exact leaves_fail fun _ _ => trivial

theorem turns_forgetEnrollment :
    Turns (forgetEnrollment around) traces True (traces.withoutPath around .config) := by
  rw [forgetEnrollment]
  split
  · exact turns_removeIfPresent .config
  · exact leaves_fail fun _ _ => trivial

/-- A step that did not fail has done what it should, provided the steps before it have. -/
theorem Turns.perform {action : Action Unit} {traces' : Traces} {known known' fact : Prop}
    {label : Text} (turns : Turns action traces known' traces') :
    Succeeds (perform label action) (fun installed => fact → known ∧ installed.traces = traces)
      fun step installed => fact ∧ step.ok = true →
        (known ∧ known') ∧ installed.traces = traces' := by
  intro installed holds
  change fact ∧ (step label (action installed).1).ok = true →
    (known ∧ known') ∧ (action installed).2.traces = traces'
  rintro ⟨done, ok⟩
  have left := turns installed (holds done).2
  match action installed, left, ok with
  | (.ok _, _), left, _ => exact ⟨⟨(holds done).1, left.1⟩, left.2⟩

/-- What does not bear on the traces at all. -/
theorem leaves_traces_onMachine {Result : Type} {program : Setup.Step Result}
    (keeps : ∀ traces : Traces, Keeps traces.On program) {fact known : Prop}
    {failed : Failure → Installation → Prop} :
    Leaves (onMachine program).catching (fun installed => fact → known ∧ installed.traces = traces)
      (fun _ installed => fact → known ∧ installed.traces = traces) failed := by
  intro installed holds done
  obtain ⟨is_known, same⟩ := holds done
  refine ⟨is_known, ?_⟩
  have left := leaves_onMachine (keeps traces)
    (fun services present _ => services = traces.services ∧ present = traces.present)
    installed (traces_eq_iff.mp same)
  change (onMachine program installed).2.traces = traces
  match onMachine program installed, left with
  | (.ok _, after), left => exact traces_eq_iff.mpr left
  | (.error _, after), ⟨⟨_, _, on⟩, others⟩ => exact traces_eq_iff.mpr ⟨on, others⟩

theorem keeps_check_on (op : Op) : Keeps traces.On (check around.setup op) :=
  leaves_attempt (fun _ _ on => ⟨on.target, on.lock, on.files⟩)
    fun _ _ on => ⟨on.target, on.lock, on.files⟩

theorem keeps_configErrors_on (site : Site) : Keeps traces.On (configErrors around.setup site) :=
  (keeps_check_on _).bind fun _ => keeps_pure

theorem keeps_reload_on (before : Text) :
    Keeps traces.On (reloadHyprland around.setup .undoing before) := by
  apply (keeps_check_on _).bind
  intro _
  apply (keeps_configErrors_on .undoing).bind
  intro after
  dsimp only
  split
  · exact keeps_pure
  · exact keeps_fail

theorem leaves_traces_reload {baseline : Except Failure Text} {fact known : Prop} :
    Succeeds (reload around baseline) (fun installed => fact → known ∧ installed.traces = traces)
      fun _ installed => fact → known ∧ installed.traces = traces := by
  cases baseline with
  | error error => exact leaves_pure fun _ holds => holds
  | ok before =>
      apply (leaves_traces_onMachine fun _ => keeps_reload_on before).bind
      rintro (error | ⟨⟨⟩⟩)
      · exact leaves_pure fun _ holds => holds
      · exact leaves_pure fun _ holds => holds

/-- What all the steps together leave of the traces. -/
noncomputable def Traces.removed (around : Surroundings) (enrollment : Enrollment)
    (traces : Traces) : Traces :=
  let kept :=
    (((((traces.withoutLock around).without .menu).without .bindings).disabled).withoutPath
      around .socketDir).withoutPath around .stateDir
  if enrollment = .forget then kept.withoutPath around .config else kept

theorem leaves_traces_forget (enrollment : Enrollment) {fact known : Prop} :
    Succeeds (forget around enrollment) (fun installed => fact → known ∧ installed.traces = traces)
      fun steps installed => fact ∧ (∀ done ∈ steps, done.ok = true) → known ∧
        installed.traces =
          if enrollment = .forget then traces.withoutPath around .config else traces := by
  cases enrollment with
  | keep => exact leaves_pure fun _ holds all => holds all.1
  | forget =>
      apply turns_forgetEnrollment.perform.bind
      intro done
      apply leaves_pure
      rintro _ holds ⟨facts, all⟩
      obtain ⟨⟨known, _⟩, same⟩ := holds ⟨facts, all done List.mem_cons_self⟩
      exact ⟨known, same⟩

theorem files_withoutLock : (traces.withoutLock around).files = traces.files := by
  rw [Traces.withoutLock]
  split <;> rfl

theorem files_without_of_ne {file other : File} (different : other ≠ file) :
    (traces.without file).files other = traces.files other :=
  Function.update_of_ne different ..

variable (around) in
theorem leaves_traces_cleanUp (enrollment : Enrollment) :
    Succeeds (cleanUp around enrollment) (fun installed => installed.traces = traces)
      fun steps installed => (∀ done ∈ steps, done.ok = true) →
        (∀ file, Removes file (traces.files file)) ∧
          installed.traces = traces.removed around enrollment := by
  have started : Succeeds (perform lockLabel (removeLock around))
      (fun installed => installed.traces = traces) fun lock installed =>
        True ∧ lock.ok = true → (True ∧ True) ∧ installed.traces = traces.withoutLock around :=
    turns_removeLock.perform.weaken (fun _ same _ => ⟨trivial, same⟩) (fun _ _ holds => holds)
      fun _ _ holds => holds
  apply started.bind
  intro lock
  apply turns_removeMenu.perform.bind
  intro menu
  apply Leaves.bind (leaves_traces_onMachine fun _ => keeps_configErrors_on .baseline)
  intro baseline
  apply turns_removeBinding.perform.bind
  intro binding
  apply leaves_traces_reload.bind
  intro reloaded
  apply turns_stop.perform.bind
  intro service
  apply (turns_removeIfPresent .socketDir).perform.bind
  intro socket
  apply turns_removeState.perform.bind
  intro state
  apply (leaves_traces_forget enrollment).bind
  intro forgotten
  apply leaves_pure
  intro installed holds all
  simp only [List.cons_append, List.nil_append, List.forall_mem_cons] at all
  obtain ⟨lock_ok, menu_ok, binding_ok, _, service_ok, socket_ok, state_ok, forgotten_ok⟩ := all
  obtain ⟨known, same⟩ := holds
    ⟨⟨⟨⟨⟨⟨⟨trivial, lock_ok⟩, menu_ok⟩, binding_ok⟩, service_ok⟩, socket_ok⟩, state_ok⟩,
      forgotten_ok⟩
  rw [files_without_of_ne (by decide), files_withoutLock] at known
  obtain ⟨⟨⟨⟨⟨_, menu_known⟩, binding_known⟩, _⟩, _⟩, _⟩ := known
  refine ⟨fun file => ?_, same⟩
  cases file with
  | bindings => exact binding_known
  | menu => exact menu_known

/-- A file that the removal could edit is clear exactly if it could be undone. -/
theorem unmarked_taken_iff {file : File} {content : Option Text} (removes : Removes file content) :
    (∀ source, Traces.taken file content = some source → Unmarked file source) ↔
      ∀ source, content = some source → Undoable file source := by
  obtain ⟨rendered, written⟩ := removes
  cases content with
  | none =>
      have same := (removal_of_unmarked (unmarked_missing file)).symm.trans written
      rw [Traces.taken, written]
      simp [Except.ok.inj same]
  | some source =>
      rw [Option.getD_some] at written
      have left : Traces.taken file (some source) = some rendered := by
        rw [Traces.taken, Option.getD_some, written]
        exact ite_eq_right_iff.mpr fun same => congrArg some same.symm
      rw [left]
      simp only [Option.some.injEq, forall_eq']
      cases file with
      | bindings =>
          change _ ↔ Clears Binding.blockStart Binding.blockEnd (removal .bindings source)
          rw [written, clears_ok_iff]
          rfl
      | menu =>
          change _ ↔ Clears Menu.blockStart Menu.blockEnd (removal .menu source)
          rw [written, clears_ok_iff]
          rfl

theorem target_removed (enrollment : Enrollment) :
    (traces.removed around enrollment).target = (traces.withoutLock around).target := by
  rw [Traces.removed]
  split <;> rfl

theorem lock_removed (enrollment : Enrollment) :
    (traces.removed around enrollment).lock = (traces.withoutLock around).lock := by
  rw [Traces.removed]
  split <;> rfl

theorem files_removed (enrollment : Enrollment) (file : File) :
    (traces.removed around enrollment).files file = Traces.taken file (traces.files file) := by
  have both : (((traces.withoutLock around).without .menu).without .bindings).files file =
      Traces.taken file (traces.files file) := by
    rw [Traces.without, Traces.without, files_withoutLock]
    cases file <;> simp
  rw [Traces.removed]
  split <;> exact both

theorem services_removed (enrollment : Enrollment) (service : Service) :
    (traces.removed around enrollment).services service = .disabled := by
  rw [Traces.removed]
  split <;> rfl

theorem present_removed {enrollment : Enrollment} {location : Location}
    (taken : location = .config → enrollment = .forget) :
    (traces.removed around enrollment).present location =
      (traces.present location && around.unseen location) := by
  have before : (((traces.withoutLock around).without .menu).without .bindings).disabled.present =
      traces.present := by
    change (traces.withoutLock around).present = _
    rw [Traces.withoutLock]
    split <;> rfl
  rw [Traces.removed]
  cases location with
  | config =>
      rw [if_pos (taken rfl)]
      simp [Traces.withoutPath, before]
  | socketDir => split <;> simp [Traces.withoutPath, before]
  | stateDir => split <;> simp [Traces.withoutPath, before]

theorem clean_removed_iff {enrollment : Enrollment}
    (removes : ∀ file, Removes file (traces.files file)) :
    Clean enrollment (traces.removed around enrollment) ↔ Seen around enrollment traces := by
  have target : ¬ Generated (traces.removed around enrollment).target ↔
      (Generated traces.target → Finds around traces) := by
    rw [target_removed, Traces.withoutLock]
    split
    · rename_i finds
      exact iff_of_true not_generated_none fun _ => finds
    · rename_i misses
      exact ⟨fun clear generated => absurd generated clear,
        fun found generated => misses (found generated)⟩
  have lock : (traces.removed around enrollment).lock ≠ .clone ↔
      (traces.lock = .clone → Finds around traces) := by
    rw [lock_removed, Traces.withoutLock]
    split
    · rename_i finds
      exact iff_of_true nofun fun _ => finds
    · rename_i misses
      exact ⟨fun clear enabled => absurd enabled clear, fun found enabled => misses (found enabled)⟩
  have files : (∀ file source, (traces.removed around enrollment).files file = some source →
        Unmarked file source) ↔
      ∀ file source, traces.files file = some source → Undoable file source := by
    simp only [files_removed]
    exact forall_congr' fun file => unmarked_taken_iff (removes file)
  have locations : (∀ location, (location = .config → enrollment = .forget) →
        (traces.removed around enrollment).present location = false) ↔
      ∀ location, (location = .config → enrollment = .forget) →
        traces.present location = true → around.unseen location = false := by
    refine forall_congr' fun location => forall_congr' fun taken => ?_
    rw [present_removed taken]
    cases traces.present location <;> simp
  constructor
  · intro clean
    exact ⟨target.mp clean.ungenerated, lock.mp clean.lock, files.mp clean.files,
      locations.mp clean.gone⟩
  · intro seen
    exact ⟨target.mpr seen.clone, lock.mpr seen.lock, files.mpr seen.files,
      services_removed enrollment, locations.mpr seen.locations⟩

/-- When the package goes, every step has succeeded. -/
theorem removed_of_package {enrollment : Enrollment} {installed : Installation}
    (present : installed.package = true)
    (gone : (uninstall around enrollment installed).2.package = false) :
    ∃ steps cleaned, cleanUp around enrollment installed = (.ok steps, cleaned) ∧
      (∀ done ∈ steps, done.ok = true) ∧
      (uninstall around enrollment installed).2 = { cleaned with package := false } := by
  cases validates : around.fails .sudoValidate with
  | true =>
      rw [uninstall_of_refused validates, present] at gone
      cases gone
  | false =>
      obtain ⟨steps, cleaned, ran, _, packaged⟩ := exists_cleanUp around enrollment installed
      rw [uninstall_of_cleaned validates ran] at gone ⊢
      refine ⟨steps, cleaned, ran, ?_⟩
      by_cases all : (∀ done ∈ step validatedLabel (.ok ()) :: steps, done.ok = true) ∧
          around.fails .pacman = false
      · refine ⟨fun done member => all.1 done (List.mem_cons_of_mem _ member), ?_⟩
        rw [removePackage_of_all all.1 all.2]
      · obtain ⟨failure, failed⟩ := removePackage_of_not all cleaned
        rw [failed, packaged, present] at gone
        cases gone

/-- What is left when the package goes. -/
theorem traces_of_package {enrollment : Enrollment} {installed : Installation}
    (present : installed.package = true)
    (gone : (uninstall around enrollment installed).2.package = false) :
    (∀ file, Removes file (installed.traces.files file)) ∧
      (uninstall around enrollment installed).2.traces =
        installed.traces.removed around enrollment := by
  obtain ⟨steps, cleaned, ran, all, after⟩ := removed_of_package present gone
  have left := leaves_traces_cleanUp around enrollment installed rfl
  rw [ran] at left
  rw [after]
  exact left all

/-- Exactly when a removal that took the package has left nothing behind: everything it had to
remove, it could find, and no file had more than one block, or a part of one. -/
theorem uninstall_clean_iff (around : Surroundings) (enrollment : Enrollment)
    {installed : Installation} (present : installed.package = true)
    (gone : (uninstall around enrollment installed).2.package = false) :
    Clean enrollment (uninstall around enrollment installed).2.traces ↔
      Seen around enrollment installed.traces := by
  obtain ⟨removes, same⟩ := traces_of_package present gone
  rw [same]
  exact clean_removed_iff removes

/-- Nothing outside of the program fails but these steps of setup and removal. -/
def surroundings (setup : Oracle) : Surroundings where
  systemctl := .documented
  setup := setup
  stateHome := false
  configHome := false
  fails _ := false
  unseen _ := false
  stuck _ := false

/-- The package, and nothing else. -/
def packaged : Installation where
  machine := bareMachine
  services _ := .disabled
  present _ := false
  package := true

/-- The service file cannot be read when the integration is removed. -/
def blind : Surroundings := surroundings (failing (.readService .undoing))

/-- The clone is there, and enabled. -/
def cloned : Installation :=
  { packaged with
    machine :=
      { bareMachine with
        plugins := fun _ => some fun name =>
          if name = serviceFile then some presenceMarker else none
        lock := .clone } }

/-- The package goes, and leaves the clone in charge. -/
theorem uninstall_clean_iff_blind :
    (uninstall blind .keep cloned).2.package = false ∧
      ¬ Clean .keep (uninstall blind .keep cloned).2.traces := by
  have gone : (uninstall blind .keep cloned).2.package = false := by decide +kernel
  refine ⟨gone, fun clean => ?_⟩
  have seen := (uninstall_clean_iff blind .keep rfl gone).mp clean
  exact absurd (seen.lock rfl).2.1 (by decide)

end Left

end PresenceUnlock.Cli.Teardown
