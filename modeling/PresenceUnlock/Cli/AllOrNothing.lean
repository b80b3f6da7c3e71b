import PresenceUnlock.Cli.Rendered
import PresenceUnlock.Cli.Setup

/-!
# All or nothing

What a setup that fails leaves behind.  Up to the swap of the directories nothing has happened, and
from the edit of the bindings on everything is undone; between the two, setup leaves the clone.
-/

namespace PresenceUnlock.Cli.Setup

open RustStd Effects

/-- A directory that holds the generated service. -/
def Generated (directory : Option Directory) : Prop :=
  ∃ files text, directory = some files ∧ files serviceFile = some text ∧ presenceMarker <:+: text

/-- No complete or partial block is in a file. -/
def Unmarked : File → Text → Prop
  | .bindings => Clear Binding.blockStart Binding.blockEnd
  | .menu => Clear Menu.blockStart Menu.blockEnd

/-- A machine without the integration, or any part of it. -/
structure Fresh (machine : Machine) : Prop where
  /-- There is no generated clone. -/
  ungenerated : ¬ Generated (machine.plugins .target)
  /-- Neither file has a block, or a part of one. -/
  unmarked : ∀ file source, machine.files file = some source → Unmarked file source
  /-- Nothing has happened. -/
  untraced : machine.trace = []

/-- A machine as setup promises to leave it when it fails. -/
structure Restored (machine : Machine) : Prop where
  /-- There is no generated clone. -/
  ungenerated : ¬ Generated (machine.plugins .target)
  /-- Neither file has a block, or a part of one. -/
  unmarked : ∀ file source, machine.files file = some source → Unmarked file source
  /-- The built-in lock is enabled. -/
  lock : machine.lock = .builtIn

/-- What it means that a step fails: setup gives up without undoing the swap, or the undo does not
see the clone, or nothing of the kind. -/
inductive Role
  | plain
  | abandons
  | overlooks
  deriving DecidableEq

/-- The role of every step. -/
def Op.role : Op → Role
  | .remove .leftover _ | .validate | .rescan | .discover | .enable => .abandons
  | .look .undoing _ | .readService .undoing => .overlooks
  | _ => .plain

/-- Steps failed that have this role. -/
def Failed (role : Role) (trace : List (Op × Bool)) : Prop :=
  ∃ step ∈ trace, step.1.role = role ∧ step.2 = false

instance (role : Role) (trace : List (Op × Bool)) : Decidable (Failed role trace) :=
  inferInstanceAs (Decidable (∃ step ∈ trace, step.1.role = role ∧ step.2 = false))

/-- No step failed that leaves the clone in place. -/
def Quiet (trace : List (Op × Bool)) : Prop := ¬ Failed .abandons trace ∧ ¬ Failed .overlooks trace

/-- The undo itself failed. -/
def SetupError.UndoFailed : SetupError → Prop
  | .undoFailed _ _ => True
  | _ => False

section Trace

variable {trace : List (Op × Bool)} {op : Op} {succeeded : Bool} {role : Role}

theorem failed_concat :
    Failed role (trace ++ [(op, succeeded)]) ↔
      Failed role trace ∨ op.role = role ∧ succeeded = false := by
  simp [Failed, or_and_right, exists_or]

theorem Quiet.succeed (quiet : Quiet trace) (op : Op) : Quiet (trace ++ [(op, true)]) := by
  rw [Quiet, failed_concat, failed_concat]
  exact ⟨fun failed => quiet.1 (failed.resolve_right nofun),
    fun failed => quiet.2 (failed.resolve_right nofun)⟩

theorem Quiet.plain (quiet : Quiet trace) (plain : op.role = .plain) (succeeded : Bool) :
    Quiet (trace ++ [(op, succeeded)]) := by
  rw [Quiet, failed_concat, failed_concat, plain]
  exact ⟨fun failed => quiet.1 (failed.resolve_right nofun),
    fun failed => quiet.2 (failed.resolve_right nofun)⟩

end Trace

section Rules

variable {oracle : Oracle} {before : Machine → Prop} {invariant : Machine → Prop}

theorem leaves_attemptIf {op : Op} {succeeds : Bool} {effect : Machine → Machine}
    {after : Unit → Machine → Prop} {failed : SetupError → Machine → Prop}
    (ok : succeeds = true → ∀ machine, before machine → after () ((effect machine).note op true))
    (error : succeeds = false → ∀ machine, before machine →
      failed (.step op) (machine.note op false)) :
    Leaves (attemptIf op succeeds effect) before after failed := by
  rw [attemptIf]
  split
  · exact leaves_change (ok ‹_›)
  · rename_i fails
    exact (leaves_change (error (by simpa using fails))).bind fun _ =>
      leaves_fail fun _ holds => holds

theorem leaves_attempt {op : Op} {effect : Machine → Machine} {after : Unit → Machine → Prop}
    {failed : SetupError → Machine → Prop}
    (ok : oracle.fails op = false → ∀ machine, before machine →
      after () ((effect machine).note op true))
    (error : oracle.fails op = true → ∀ machine, before machine →
      failed (.step op) (machine.note op false)) :
    Leaves (attempt oracle op effect) before after failed :=
  leaves_attemptIf (fun succeeds => ok (by simpa using succeeds))
    fun fails => error (by simpa using fails)

/-- A look tells what is there, or it failed. -/
theorem leaves_look {site : Site} {place : Place} {after : Bool → Machine → Prop}
    {failed : SetupError → Machine → Prop}
    (ok : oracle.fails (.look site place) = false → ∀ machine, before machine →
      after (machine.plugins place).isSome (machine.note (.look site place) true))
    (error : oracle.fails (.look site place) = true → ∀ machine, before machine →
      after false (machine.note (.look site place) false)) :
    Leaves (look oracle site place) before after failed := by
  intro machine holds
  change after ((machine.plugins place).isSome && !oracle.fails (.look site place))
    (machine.note (.look site place) !oracle.fails (.look site place))
  cases fails : oracle.fails (.look site place) with
  | false => simpa using ok fails machine holds
  | true => simpa using error fails machine holds

theorem leaves_isGenerated {site : Site} {after : Bool → Machine → Prop}
    {failed : SetupError → Machine → Prop}
    (yes : oracle.fails (.readService site) = false → ∀ machine, before machine →
      Generated (machine.plugins .target) → after true (machine.note (.readService site) true))
    (no : oracle.fails (.readService site) = false → ∀ machine, before machine →
      ¬ Generated (machine.plugins .target) → after false (machine.note (.readService site) true))
    (error : oracle.fails (.readService site) = true → ∀ machine, before machine →
      after false (machine.note (.readService site) false)) :
    Leaves (isGenerated oracle site) before after failed := by
  intro machine holds
  change after (!oracle.fails (.readService site) &&
      ((machine.plugins .target).bind fun files => files serviceFile).any
        fun text => Text.contains presenceMarker text)
    (machine.note (.readService site) !oracle.fails (.readService site))
  have told : ((machine.plugins .target).bind fun files => files serviceFile).any
      (fun text => Text.contains presenceMarker text) = true ↔
      Generated (machine.plugins .target) := by
    simp only [Option.any_eq_true, Option.bind_eq_some_iff, Text.contains_eq_true_iff]
    constructor
    · rintro ⟨text, ⟨files, here, service⟩, marked⟩
      exact ⟨files, text, here, service, marked⟩
    · rintro ⟨files, text, here, service, marked⟩
      exact ⟨text, ⟨files, here, service⟩, marked⟩
  cases fails : oracle.fails (.readService site) with
  | true => exact error fails machine holds
  | false =>
      by_cases generated : Generated (machine.plugins .target)
      · rw [told.mpr generated]
        exact yes fails machine holds generated
      · rw [Bool.not_eq_true _ |>.mp (mt told.mp generated)]
        exact no fails machine holds generated

/-- A program with a clean-up for its failure. -/
theorem leaves_orElse {program cleanup : Step Unit} {after : Unit → Machine → Prop}
    {between : SetupError → Machine → Prop} {failed : SetupError → Machine → Prop}
    (runs : Leaves program before after between)
    (cleans : ∀ error, Leaves cleanup (between error) (fun _ => failed error)
      fun _ => failed error) : Leaves (orElse program cleanup) before after failed := by
  apply runs.caught.bind
  intro result
  cases result with
  | ok _ => exact leaves_pure fun _ holds => holds
  | error error =>
      have cleaned : Leaves cleanup.catching (between error) (fun _ => failed error) failed :=
        (cleans error).catching (fun _ _ holds => holds) fun _ _ holds => holds
      exact cleaned.bind fun _ => leaves_fail fun _ holds => holds

end Rules

/-- Nothing has happened but to the plugin directories. -/
structure Kept (start machine : Machine) : Prop where
  /-- The files are as they were. -/
  files : machine.files = start.files
  /-- The same lock is enabled. -/
  lock : machine.lock = start.lock
  /-- No step failed that leaves the clone in place. -/
  quiet : Quiet machine.trace
  /-- The clone was not enabled. -/
  disabled : (.enable, true) ∉ machine.trace

/-- What the plugin directories look like. -/
abbrev Layout : Type := (Place → Option Directory) → Prop

/-- Nothing has happened but to the plugin directories, which are laid out like this. -/
def Standing (start : Machine) (layout : Layout) (machine : Machine) : Prop :=
  Kept start machine ∧ layout machine.plugins

namespace Layout

/-- No generated clone is in place. -/
def untouched : Layout := fun plugins => ¬ Generated (plugins .target)

/-- One is only on the stage. -/
def staged : Layout := fun plugins => untouched plugins ∧ Generated (plugins .stage)

/-- What the target held is set aside. -/
def aside : Layout := fun plugins => staged plugins ∧ ¬ Generated (plugins .rollback)

/-- The stage may be gone. -/
def held : Layout := fun plugins => untouched plugins ∧ ¬ Generated (plugins .rollback)

/-- One is in place. -/
def installed : Layout := fun plugins => Generated (plugins .target)

end Layout

section Standing

variable {oracle : Oracle} {start machine : Machine} {layout layout' : Layout} {op : Op}

theorem not_generated_none : ¬ Generated none := nofun

theorem Standing.note (standing : Standing start layout machine) (succeeded : Bool)
    (harmless : op.role = .plain ∨ succeeded = true ∧ op ≠ .enable) :
    Standing start layout (machine.note op succeeded) := by
  refine ⟨⟨standing.1.files, standing.1.lock, ?_, fun member => ?_⟩, standing.2⟩
  · rcases harmless with plain | ⟨rfl, _⟩
    · exact standing.1.quiet.plain plain succeeded
    · exact standing.1.quiet.succeed op
  · rcases List.mem_append.mp member with known | last
    · exact standing.1.disabled known
    · cases List.mem_singleton.mp last
      rcases harmless with plain | ⟨_, other⟩
      · cases plain
      · exact other rfl

theorem Kept.place {place : Place} {directory : Option Directory} (kept : Kept start machine)
    (laid : layout (Function.update machine.plugins place directory)) :
    Standing start layout (machine.place place directory) :=
  ⟨⟨kept.files, kept.lock, kept.quiet, kept.disabled⟩, laid⟩

theorem Standing.weaken (standing : Standing start layout machine)
    (weaker : ∀ plugins, layout plugins → layout' plugins) : Standing start layout' machine :=
  ⟨standing.1, weaker _ standing.2⟩

/-- A step that moves directories, or nothing if it fails. -/
theorem leaves_attemptIf_moving {succeeds : Bool} {effect : Machine → Machine}
    (plain : op.role = .plain)
    (moves : ∀ machine, Standing start layout machine → Standing start layout' (effect machine)) :
    Leaves (attemptIf op succeeds effect) (Standing start layout)
      (fun _ => Standing start layout') fun _ => Standing start layout :=
  leaves_attemptIf (fun _ machine standing => (moves machine standing).note true (.inl plain))
    fun _ _ standing => standing.note false (.inl plain)

theorem keeps_check (plain : op.role = .plain) :
    Keeps (Standing start layout) (check oracle op) :=
  leaves_attemptIf_moving plain fun _ standing => standing

theorem leaves_look_plain {site : Site} {place : Place} {failed : SetupError → Machine → Prop}
    (plain : (Op.look site place).role = .plain) :
    Leaves (look oracle site place) (Standing start layout)
        (fun _ => Standing start layout) failed :=
  leaves_look (fun _ _ standing => standing.note true (.inl plain))
    fun _ _ standing => standing.note false (.inl plain)

theorem keeps_removeIfPresent {site : Site} {place : Place}
    (looks : (Op.look site place).role = .plain) (removes : (Op.remove site place).role = .plain)
    (spares : ∀ plugins, layout plugins → layout (Function.update plugins place none)) :
    Keeps (Standing start layout) (removeIfPresent oracle site place) := by
  apply (leaves_look_plain looks).bind
  intro present
  cases present with
  | false => exact keeps_pure
  | true =>
      exact leaves_attemptIf_moving removes fun _ standing =>
        standing.1.place (spares _ standing.2)

theorem keeps_claimTarget : Keeps (Standing start layout) (claimTarget oracle) := by
  apply (leaves_look_plain rfl).bind
  intro present
  cases present with
  | false => exact keeps_pure
  | true =>
      have looked : Keeps (Standing start layout) (isGenerated oracle .claim) :=
        leaves_isGenerated (fun _ _ standing _ => standing.note true (.inl rfl))
          (fun _ _ standing _ => standing.note true (.inl rfl))
          fun _ _ standing => standing.note false (.inl rfl)
      apply looked.bind
      intro generated
      cases generated with
      | true => exact keeps_pure
      | false => exact keeps_fail

theorem generated_update {files : Directory} {name contents : Text} :
    Generated (some (Function.update files name (some contents))) ↔
      if name = serviceFile then presenceMarker <:+: contents else Generated (some files) := by
  split
  · rename_i same
    subst same
    constructor
    · rintro ⟨_, text, ⟨⟩, service, marked⟩
      rw [Function.update_self] at service
      cases service
      exact marked
    · intro marked
      exact ⟨_, contents, rfl, Function.update_self .., marked⟩
  · rename_i other
    constructor
    · rintro ⟨_, text, ⟨⟩, service, marked⟩
      rw [Function.update_of_ne (Ne.symm other)] at service
      exact ⟨files, text, rfl, service, marked⟩
    · rintro ⟨_, text, ⟨⟩, service, marked⟩
      exact ⟨_, text, rfl, (Function.update_of_ne (Ne.symm other) ..).trans service, marked⟩

/-- The stage is being built. -/
def Layout.started : Layout := fun plugins => untouched plugins ∧ (plugins .stage).isSome

theorem Layout.started_of_staged {plugins : Place → Option Directory} (holds : staged plugins) :
    started plugins := by
  obtain ⟨untouched, files, _, here, _⟩ := holds
  exact ⟨untouched, Option.isSome_of_mem here⟩

/-- A file that is written into the stage. -/
theorem leaves_writeStaged {name contents : Text} (plain : op.role = .plain)
    (begun : ∀ plugins, layout plugins → Layout.started plugins)
    (writes : ∀ plugins files, layout plugins → plugins .stage = some files →
      Layout.untouched plugins → layout' (Function.update plugins .stage
        (some (Function.update files name (some contents))))) :
    Leaves (writeStaged oracle op name contents) (Standing start layout)
      (fun _ => Standing start layout') fun _ => Standing start Layout.untouched := by
  have moves : Leaves (writeStaged oracle op name contents) (Standing start layout)
      (fun _ => Standing start layout') fun _ => Standing start layout := by
    apply leaves_attemptIf_moving plain
    intro machine standing
    obtain ⟨untouched, present⟩ := begun _ standing.2
    obtain ⟨files, here⟩ := Option.isSome_iff_exists.mp present
    rw [here, Option.map_some]
    exact standing.1.place (writes _ files standing.2 here untouched)
  exact moves.weaken (fun _ holds => holds) (fun _ _ holds => holds)
    fun _ _ standing => standing.weaken fun plugins holds => (begun plugins holds).1

theorem untouched_stage {plugins : Place → Option Directory} (directory : Option Directory)
    (holds : Layout.untouched plugins) :
    Layout.untouched (Function.update plugins .stage directory) := by
  rwa [Layout.untouched, Function.update_of_ne (by decide)]

/-- A built stage holds the generated service. -/
theorem leaves_build :
    Leaves (build oracle) (Standing start Layout.untouched) (fun _ => Standing start Layout.staged)
      fun _ => Standing start Layout.untouched := by
  have keeps_stage : ∀ {op name contents}, op.role = .plain →
      (name = serviceFile → presenceMarker <:+: contents) →
      Leaves (writeStaged oracle op name contents) (Standing start Layout.staged)
        (fun _ => Standing start Layout.staged) fun _ => Standing start Layout.untouched := by
    intro op name contents plain marked
    apply leaves_writeStaged plain fun _ => Layout.started_of_staged
    rintro plugins files ⟨_, generated⟩ here untouched
    refine ⟨untouched_stage _ untouched, ?_⟩
    rw [Function.update_self, generated_update]
    split
    · exact marked ‹_›
    · rwa [here] at generated
  apply leaves_read.bind
  intro machine
  have created : Leaves
      (attemptIf .createStage (!oracle.fails .createStage && (machine.plugins .stage).isNone)
        fun machine => machine.place .stage (some fun _ => none))
      (Standing start Layout.untouched) (fun _ => Standing start Layout.started)
      fun _ => Standing start Layout.untouched := by
    apply leaves_attemptIf_moving rfl
    intro machine standing
    apply standing.1.place
    exact ⟨untouched_stage _ standing.2, by rw [Function.update_self]; rfl⟩
  apply
    (created.weaken (fun _ holds => holds.2) (fun _ _ holds => holds) fun _ _ holds => holds).bind
  intro _
  have manifest :
      Leaves (writeStaged oracle (.write manifestFile) manifestFile oracle.clone.manifest)
        (Standing start Layout.started) (fun _ => Standing start Layout.started)
        fun _ => Standing start Layout.untouched := by
    apply leaves_writeStaged rfl fun _ holds => holds
    intro plugins files _ _ untouched
    exact ⟨untouched_stage _ untouched, by rw [Function.update_self]; rfl⟩
  have service : Leaves (writeStaged oracle (.write serviceFile) serviceFile oracle.clone.service)
      (Standing start Layout.started) (fun _ => Standing start Layout.staged)
      fun _ => Standing start Layout.untouched := by
    apply leaves_writeStaged rfl fun _ holds => holds
    intro plugins files _ _ untouched
    refine ⟨untouched_stage _ untouched, ?_⟩
    rw [Function.update_self, generated_update, if_pos rfl]
    exact oracle.clone.marked
  have view : Leaves (writeStaged oracle (.write viewFile) viewFile oracle.clone.view)
      (Standing start Layout.staged) (fun _ => Standing start Layout.staged)
      fun _ => Standing start Layout.untouched :=
        keeps_stage rfl fun same => absurd same (by decide)
  have written : Leaves
      (Program.each (fun file => writeStaged oracle (.write file.1) file.1 file.2)
        oracle.clone.files)
      (Standing start Layout.started) (fun _ => Standing start Layout.staged)
      fun _ => Standing start Layout.untouched :=
    manifest.bind fun _ => service.bind fun _ => view.bind fun _ => leaves_pure fun _ holds => holds
  apply written.bind
  intro _
  apply leaves_each
  rintro ⟨name, contents⟩ member
  exact keeps_stage rfl fun same =>
    absurd (by simp [same]) (oracle.clone.others _ member)

/-- The clone is in place, and setup has given up without taking it back. -/
def Broken (machine : Machine) : Prop :=
  Generated (machine.plugins .target) ∧ Failed .abandons machine.trace

/-- Setup fails before anything happened, or it leaves the clone. -/
def Abandoned (start machine : Machine) : Prop :=
  Standing start Layout.untouched machine ∨ Broken machine

theorem keeps_remove_stage {site : Site} (looks : (Op.look site .stage).role = .plain)
    (removes : (Op.remove site .stage).role = .plain) :
    Keeps (Standing start Layout.untouched) (removeIfPresent oracle site .stage) :=
  keeps_removeIfPresent looks removes fun _ => untouched_stage none

theorem leaves_abandoned {Result : Type} {program : Step Result}
    {before : Machine → Prop} {after : Result → Machine → Prop}
    (leaves : Leaves program before after fun _ => Standing start Layout.untouched) :
    Leaves program before after fun _ => Abandoned start :=
  leaves.weaken (fun _ holds => holds) (fun _ _ holds => holds) fun _ _ holds => .inl holds

/-- A step after the swap, whose failure is not cleaned up after. -/
theorem leaves_attemptIf_installed {succeeds : Bool} {effect : Machine → Machine}
    {after : Unit → Machine → Prop} (abandons : op.role = .abandons)
    (ok : ∀ machine, Standing start Layout.installed machine →
      after () ((effect machine).note op true)) :
    Leaves (attemptIf op succeeds effect) (Standing start Layout.installed) after
      fun _ => Abandoned start :=
  leaves_attemptIf (fun _ => ok) fun _ _ standing =>
    .inr ⟨standing.2, failed_concat.mpr (.inr ⟨abandons, rfl⟩)⟩

theorem keeps_installed (op : Op) {succeeds : Bool} (abandons : op.role = .abandons)
    (other : op ≠ .enable) :
    Leaves (attemptIf op succeeds id) (Standing start Layout.installed)
      (fun _ => Standing start Layout.installed) fun _ => Abandoned start :=
  leaves_attemptIf_installed abandons fun _ standing => standing.note true (.inr ⟨rfl, other⟩)

theorem leaves_rename {source destination : Place} (plain : op.role = .plain)
    (moves : ∀ plugins, layout plugins → layout'
      (Function.update (Function.update plugins destination (plugins source)) source none)) :
    Leaves (rename oracle op source destination) (Standing start layout)
      (fun _ => Standing start layout') fun _ => Standing start layout :=
  leaves_attemptIf_moving plain fun _ standing =>
    ⟨⟨standing.1.files, standing.1.lock, standing.1.quiet, standing.1.disabled⟩,
      moves _ standing.2⟩

/-- The stage replaces what is at the target. -/
theorem leaves_swap (staged : ∀ plugins, layout plugins → Generated (plugins .stage)) :
    Leaves (rename oracle .swap .stage .target) (Standing start layout)
      (fun _ => Standing start Layout.installed) fun _ => Standing start layout := by
  apply leaves_rename rfl
  intro plugins holds
  rw [Layout.installed, Function.update_of_ne (by decide), Function.update_self]
  exact staged plugins holds

/-- What is at the target is set aside, and put back if the stage cannot replace it. -/
theorem leaves_replace :
    Leaves (do
        orElse (rename oracle .setAside .target .rollback) (removeIfPresent oracle .unstaged .stage)
        orElse (rename oracle .swap .stage .target) do
          let _ ← (removeIfPresent oracle .unswapped .stage).catching
          rename oracle .putBack .rollback .target
        removeIfPresent oracle .leftover .rollback)
      (Standing start Layout.staged) (fun _ => Standing start Layout.installed)
      fun _ => Abandoned start := by
  have set_aside : Leaves (rename oracle .setAside .target .rollback) (Standing start Layout.staged)
      (fun _ => Standing start Layout.aside) fun _ => Standing start Layout.untouched := by
    have moves : Leaves (rename oracle .setAside .target .rollback) (Standing start Layout.staged)
        (fun _ => Standing start Layout.aside) fun _ => Standing start Layout.staged := by
      apply leaves_rename rfl
      rintro plugins ⟨untouched, staged⟩
      refine ⟨⟨?_, ?_⟩, ?_⟩
      · rw [Layout.untouched, Function.update_self]
        exact not_generated_none
      · rwa [Function.update_of_ne (by decide), Function.update_of_ne (by decide)]
      · rwa [Function.update_of_ne (by decide), Function.update_self]
    exact moves.weaken (fun _ holds => holds) (fun _ _ holds => holds)
      fun _ _ standing => standing.weaken fun _ holds => holds.1
  apply (leaves_abandoned (leaves_orElse set_aside fun _ => keeps_remove_stage rfl rfl)).bind
  intro _
  have put_back : Leaves (do
        let _ ← (removeIfPresent oracle .unswapped .stage).catching
        rename oracle .putBack .rollback .target)
      (Standing start Layout.aside) (fun _ => Standing start Layout.untouched)
      fun _ => Standing start Layout.untouched := by
    have removed :
        Keeps (Standing start Layout.held) (removeIfPresent oracle .unswapped .stage) := by
      apply keeps_removeIfPresent rfl rfl
      rintro plugins ⟨untouched, ungenerated⟩
      refine ⟨untouched_stage none untouched, ?_⟩
      rwa [Function.update_of_ne (by decide)]
    have moved : Leaves (rename oracle .putBack .rollback .target) (Standing start Layout.held)
        (fun _ => Standing start Layout.untouched) fun _ => Standing start Layout.held := by
      apply leaves_rename rfl
      rintro plugins ⟨_, ungenerated⟩
      rwa [Layout.untouched, Function.update_of_ne (by decide), Function.update_self]
    exact (Leaves.bind removed.catching fun _ => moved).weaken
      (fun _ standing => standing.weaken fun _ holds => ⟨holds.1.1, holds.2⟩)
      (fun _ _ holds => holds) fun _ _ standing => standing.weaken fun _ holds => holds.1
  apply (leaves_abandoned
    (leaves_orElse (leaves_swap fun _ holds => holds.1.2) fun _ => put_back)).bind
  intro _
  apply (leaves_look_plain rfl).bind
  intro present
  cases present with
  | false => exact leaves_pure fun _ holds => holds
  | true =>
      apply leaves_attemptIf_installed rfl
      intro machine standing
      have installed : Standing start Layout.installed (machine.place .rollback none) := by
        apply standing.1.place
        rw [Layout.installed, Function.update_of_ne (by decide)]
        exact standing.2
      exact installed.note true (.inr ⟨rfl, by decide⟩)

theorem leaves_writeClone :
    Leaves (writeClone oracle) (Standing start Layout.untouched)
      (fun _ => Standing start Layout.installed) fun _ => Abandoned start := by
  apply (leaves_abandoned keeps_claimTarget).bind
  intro _
  apply (leaves_abandoned (keeps_check rfl)).bind
  intro _
  apply (leaves_abandoned (keeps_remove_stage rfl rfl)).bind
  intro _
  have rollback : Keeps (Standing start Layout.untouched)
      (removeIfPresent oracle .temporaries .rollback) := by
    apply keeps_removeIfPresent rfl rfl
    intro plugins untouched
    rwa [Layout.untouched, Function.update_of_ne (by decide)]
  apply (leaves_abandoned rollback).bind
  intro _
  have built : Leaves (orElse (build oracle) (removeIfPresent oracle .unbuilt .stage))
      (Standing start Layout.untouched) (fun _ => Standing start Layout.staged)
      fun _ => Standing start Layout.untouched :=
    leaves_orElse leaves_build fun _ => keeps_remove_stage rfl rfl
  apply (leaves_abandoned built).bind
  intro _
  have weaker : ∀ machine, Standing start Layout.staged machine →
      Standing start Layout.untouched machine :=
    fun _ standing => standing.weaken fun _ holds => holds.1
  apply (leaves_look_plain rfl).bind
  intro previous
  cases previous with
  | true => exact leaves_replace
  | false =>
      apply leaves_abandoned
      apply leaves_orElse ((leaves_swap fun _ holds => holds.2).weaken (fun _ holds => holds)
        (fun _ _ holds => holds) fun _ => weaker)
      exact fun _ => keeps_remove_stage rfl rfl

end Standing

/-- A text that the removal clears. -/
def Undoable : File → Text → Prop
  | .bindings, source =>
      Clears Binding.blockStart Binding.blockEnd (Binding.removal bindingsPath source)
  | .menu, source => Clears Menu.blockStart Menu.blockEnd (Menu.renderRemoval source)

theorem Unmarked.undoable {file : File} {source : Text} (unmarked : Unmarked file source) :
    Undoable file source := by
  cases file with
  | bindings =>
      rw [Undoable, Binding.clears_removal_iff, Binding.Removable,
        Text.find_eq_none_iff.mpr unmarked.1, Text.find_eq_none_iff.mpr unmarked.2]
      trivial
  | menu =>
      rw [Undoable, Menu.clears_renderRemoval_iff, Menu.Removable,
        Text.find_eq_none_iff.mpr unmarked.1, Text.find_eq_none_iff.mpr unmarked.2]
      trivial

/-- The clone is in place and enabled. -/
structure Enabled (machine : Machine) : Prop where
  /-- A generated clone is in place. -/
  generated : Generated (machine.plugins .target)
  /-- No step failed that leaves the clone in place. -/
  quiet : Quiet machine.trace
  /-- The clone was enabled. -/
  enabled : (.enable, true) ∈ machine.trace

/-- The clone is taken back. -/
structure Removed (machine : Machine) : Prop where
  /-- No generated clone is in place. -/
  ungenerated : ¬ Generated (machine.plugins .target)
  /-- The built-in lock is enabled. -/
  lock : machine.lock = .builtIn
  /-- No step failed that leaves the clone in place. -/
  quiet : Quiet machine.trace
  /-- The clone was enabled before. -/
  enabled : (.enable, true) ∈ machine.trace

/-- The clone is in place, and the undo has not seen it. -/
def Overlooked (machine : Machine) : Prop :=
  Generated (machine.plugins .target) ∧ Failed .overlooks machine.trace

/-- The clone is taken back, or was not found. -/
def Undone (machine : Machine) : Prop := Removed machine ∨ Overlooked machine

/-- What no plain step and no edit of a file bears on. -/
structure Stable (shape : Machine → Prop) : Prop where
  /-- A plain step does not bear on it. -/
  note : ∀ {machine : Machine} {op : Op} (succeeded : Bool), op.role = .plain → shape machine →
    shape (machine.note op succeeded)
  /-- An edit does not bear on it. -/
  store : ∀ {machine : Machine} {file : File} {text : Text}, shape machine →
    shape (machine.store file text)

theorem stable_enabled : Stable Enabled where
  note succeeded plain shape :=
    ⟨shape.generated, shape.quiet.plain plain succeeded, List.mem_append_left _ shape.enabled⟩
  store shape := ⟨shape.generated, shape.quiet, shape.enabled⟩

theorem stable_undone : Stable Undone where
  note succeeded plain shape := by
    rcases shape with removed | overlooked
    · exact .inl ⟨removed.ungenerated, removed.lock, removed.quiet.plain plain succeeded,
        List.mem_append_left _ removed.enabled⟩
    · exact .inr ⟨overlooked.1, failed_concat.mpr (.inl overlooked.2)⟩
  store shape := by
    rcases shape with removed | overlooked
    · exact .inl ⟨removed.ungenerated, removed.lock, removed.quiet, removed.enabled⟩
    · exact .inr overlooked

/-- A machine of this shape, all of whose files are of this kind. -/
def Holding (shape : Machine → Prop) (kind : File → Text → Prop) (machine : Machine) : Prop :=
  shape machine ∧ ∀ file source, machine.files file = some source → kind file source

section Holding

variable {oracle : Oracle} {start : Machine} {shape : Machine → Prop}
  {kind kind' : File → Text → Prop} {site : Site} {file : File}

theorem Holding.note {machine : Machine} {op : Op} (holding : Holding shape kind machine)
    (stable : Stable shape) (plain : op.role = .plain) (succeeded : Bool) :
    Holding shape kind (machine.note op succeeded) :=
  ⟨stable.note succeeded plain holding.1, holding.2⟩

theorem Holding.weaken {machine : Machine} (holding : Holding shape kind machine)
    (weaker : ∀ file source, kind file source → kind' file source) : Holding shape kind' machine :=
  ⟨holding.1, fun file source here => weaker file source (holding.2 file source here)⟩

/-- The files after an edit of one of them. -/
theorem Holding.edit {machine edited : Machine} (holding : Holding shape kind machine)
    (shaped : shape edited)
    (others : ∀ other, other ≠ file → edited.files other = machine.files other)
    (written : ∀ source, edited.files file = some source → kind' file source)
    (weaker : ∀ other source, other ≠ file → kind other source → kind' other source) :
    Holding shape kind' edited := by
  refine ⟨shaped, fun other source here => ?_⟩
  by_cases same : other = file
  · subst same
    exact written source here
  · rw [others other same] at here
    exact weaker other source same (holding.2 other source here)

theorem keeps_check_holding {op : Op} (stable : Stable shape) (plain : op.role = .plain) :
    Keeps (Holding shape kind) (check oracle op) :=
  leaves_attempt (fun _ _ holding => holding.note stable plain true)
    fun _ _ holding => holding.note stable plain false

/-- An edit of one file, which turns this kind into that kind. -/
theorem leaves_update {missing : Text} {render : Text → Except Text Text}
    {failed : SetupError → Machine → Prop} (stable : Stable shape) (empty : kind file missing)
    (renders : ∀ source rendered, kind file source → render source = .ok rendered →
      kind' file rendered)
    (others : ∀ other source, other ≠ file → kind other source → kind' other source)
    (fails : ∀ error machine, Holding shape kind machine ∨ Holding shape kind' machine →
      failed error machine) :
    Leaves (update oracle site file missing render) (Holding shape kind)
      (fun _ => Holding shape kind') failed := by
  apply leaves_read.bind
  intro machine
  have read : Holding shape kind machine → kind file ((machine.files file).getD missing) := by
    intro holding
    cases here : machine.files file with
    | none => exact empty
    | some source => exact holding.2 file source here
  dsimp only
  split
  · apply leaves_attemptIf nofun
    exact fun _ world holds => fails _ _ (.inl (holds.2.note stable rfl false))
  · split
    · exact leaves_fail fun world holds => fails _ _ (.inl holds.2)
    · rename_i rendered written
      split
      · rename_i same
        refine leaves_attemptIf (fun _ => ?_) nofun
        rintro world ⟨rfl, holding⟩
        have kept : Holding shape kind' machine := by
          refine holding.edit holding.1 (fun _ _ => rfl) (fun source here => ?_) others
          rw [here, Option.getD_some] at written same
          exact renders source source (holding.2 file source here) (same ▸ written)
        exact kept.note stable rfl true
      · have stored : ∀ world, machine = world ∧ Holding shape kind world →
            Holding shape kind' (world.store file rendered) := by
          rintro _ ⟨rfl, holding⟩
          refine holding.edit (stable.store holding.1)
            (fun other different => Function.update_of_ne different ..)
            (fun source here => ?_) others
          rw [Machine.store_files, Function.update_self] at here
          cases here
          exact renders _ _ (read holding) written
        have store : Leaves (Program.change fun machine => machine.store file rendered)
            (fun world => machine = world ∧ Holding shape kind world)
            (fun _ => Holding shape kind') failed := leaves_change stored
        apply store.bind
        intro _
        exact leaves_attemptIf (fun _ _ holding => holding.note stable rfl true)
          fun _ _ holding => fails _ _ (.inr (holding.note stable rfl false))

theorem keeps_reloadHyprland {baseline : Text} (stable : Stable shape) :
    Keeps (Holding shape kind) (reloadHyprland oracle site baseline) := by
  apply (keeps_check_holding stable rfl).bind
  intro _
  have errors : Keeps (Holding shape kind) (configErrors oracle site) :=
    (keeps_check_holding stable rfl).bind fun _ => keeps_pure
  apply errors.bind
  intro after
  dsimp only
  split
  · exact keeps_pure
  · exact keeps_fail

/-- The bindings are edited and the menu is not. -/
def halfInstalled : File → Text → Prop := Function.update Undoable .menu (Unmarked .menu)

/-- The bindings are cleared and the menu is not. -/
def halfRemoved : File → Text → Prop := Function.update Undoable .bindings (Unmarked .bindings)

theorem unmarked_menu_missing : Unmarked .menu Menu.emptyExtensions := by
  constructor <;> decide

theorem unmarked_bindings_missing : Unmarked .bindings [] := by
  constructor <;> decide

/-- Whichever edit fails, all of them can be undone. -/
theorem leaves_integrate {baseline : Text} :
    Leaves (integrate oracle baseline) (Holding Enabled Unmarked) (fun _ _ => True)
      fun _ => Holding Enabled Undoable := by
  have undoable : ∀ file source, halfInstalled file source → Undoable file source := by
    intro file source holds
    cases file with
    | bindings => exact holds
    | menu => exact Unmarked.undoable holds
  have bindings : Leaves (installBinding oracle) (Holding Enabled Unmarked)
      (fun _ => Holding Enabled halfInstalled) fun _ => Holding Enabled Undoable := by
    apply leaves_update stable_enabled unmarked_bindings_missing
    · intro source rendered unmarked written
      exact Binding.clears_removal_of_render unmarked written
    · intro other source different unmarked
      cases other with
      | bindings => exact absurd rfl different
      | menu => exact unmarked
    · rintro error machine (holding | holding)
      · exact holding.weaken fun _ _ => Unmarked.undoable
      · exact holding.weaken undoable
  have menu : Leaves (installMenu oracle) (Holding Enabled halfInstalled)
      (fun _ => Holding Enabled Undoable) fun _ => Holding Enabled Undoable := by
    apply leaves_update stable_enabled
    · exact unmarked_menu_missing
    · intro source rendered unmarked written
      exact Menu.clears_renderRemoval_of_renderEntry unmarked written
    · exact fun other source _ => undoable other source
    · rintro error machine (holding | holding)
      · exact holding.weaken undoable
      · exact holding
  apply bindings.bind
  intro _
  apply menu.bind
  intro _
  exact (keeps_reloadHyprland stable_enabled).weaken (fun _ holds => holds) (fun _ _ _ => trivial)
    fun _ _ holds => holds

/-- A look at the clone finds it, or it fails and the clone is overlooked. -/
def Seen (kind : File → Text → Prop) (found : Bool) (machine : Machine) : Prop :=
  found = true ∧ Holding Enabled kind machine ∨ found = false ∧ Holding Overlooked kind machine

theorem Holding.seen {machine : Machine} {op : Op} (holding : Holding Enabled kind machine) :
    Seen kind true (machine.note op true) :=
  .inl ⟨rfl, ⟨holding.1.generated, holding.1.quiet.succeed op,
    List.mem_append_left _ holding.1.enabled⟩, holding.2⟩

theorem Holding.overlook {machine : Machine} {op : Op} (holding : Holding Enabled kind machine)
    (overlooks : op.role = .overlooks) : Seen kind false (machine.note op false) :=
  .inr ⟨rfl, ⟨holding.1.generated, failed_concat.mpr (.inr ⟨overlooks, rfl⟩)⟩, holding.2⟩

/-- What follows a look that found nothing. -/
theorem leaves_unseen {failed : SetupError → Machine → Prop} :
    Leaves (pure () : Step Unit) (Seen kind false) (fun _ => Holding Undone kind)
      failed := by
  apply leaves_pure
  rintro machine (⟨⟨⟩, _⟩ | ⟨_, holding⟩)
  exact ⟨.inr holding.1, holding.2⟩

/-- The lock is taken back, unless the undo does not see it. -/
theorem leaves_removeLock :
    Leaves (removeLock oracle) (Holding Enabled kind) (fun _ => Holding Undone kind)
      fun _ _ => True := by
  have looked : Leaves (look oracle .undoing .target) (Holding Enabled kind)
      (Seen kind) fun _ _ => True := by
    apply leaves_look
    · intro _ machine holding
      obtain ⟨files, _, here, _⟩ := holding.1.generated
      rw [here]
      exact holding.seen
    · exact fun _ machine holding => holding.overlook rfl
  have told : Leaves (isGenerated oracle .undoing) (Holding Enabled kind)
      (Seen kind) fun _ _ => True :=
    leaves_isGenerated (fun _ _ holding _ => holding.seen)
      (fun _ _ holding ungenerated => absurd holding.1.generated ungenerated)
      fun _ _ holding => holding.overlook rfl
  have seen : ∀ machine, Seen kind true machine → Holding Enabled kind machine := by
    rintro machine (⟨_, holding⟩ | ⟨⟨⟩, _⟩)
    exact holding
  have plugin : Leaves (attempt oracle .removePlugin (oracle.shell.remove oracle.backup))
      (Holding Enabled kind) (fun _ => Holding Removed kind) fun _ _ => True := by
    rw [Shell.remove_eq]
    refine leaves_attempt (fun _ machine holding => ⟨⟨?_, rfl, holding.1.quiet.plain rfl true,
      List.mem_append_left _ holding.1.enabled⟩, holding.2⟩) fun _ _ _ => trivial
    change ¬ Generated (Function.update machine.plugins .target none .target)
    rw [Function.update_self]
    exact not_generated_none
  have listed : ∀ {before removed} {failed : SetupError → Machine → Prop},
      Leaves (backups oracle removed) before (fun _ => before) failed :=
    fun _ holds => holds
  have cleaned : ∀ names, Leaves (Program.each (fun name =>
        attempt oracle (.removeBackup name) fun machine =>
          { machine with backups := machine.backups.erase name }) names)
      (Holding Removed kind) (fun _ => Holding Removed kind) fun _ _ => True := by
    intro names
    apply leaves_each
    intro name _
    exact leaves_attempt (fun _ machine holding => ⟨⟨holding.1.ungenerated, holding.1.lock,
      holding.1.quiet.plain rfl true, List.mem_append_left _ holding.1.enabled⟩, holding.2⟩)
      fun _ _ _ => trivial
  apply looked.bind
  intro found
  cases found with
  | false => exact leaves_unseen
  | true =>
      apply Leaves.bind (told.weaken seen (fun _ _ holds => holds) fun _ _ holds => holds)
      intro generated
      cases generated with
      | false => exact leaves_unseen
      | true =>
          apply Leaves.bind listed
          intro before
          apply (plugin.weaken seen (fun _ _ holds => holds) fun _ _ holds => holds).bind
          intro _
          apply Leaves.bind listed
          intro after
          exact (cleaned _).weaken (fun _ holds => holds)
            (fun _ _ holding => ⟨.inl holding.1, holding.2⟩) fun _ _ holds => holds

/-- An undo that does not fail clears the files. -/
theorem leaves_undo {baseline : Text} :
    Leaves (undo oracle baseline) (Holding Enabled Undoable) (fun _ => Holding Undone Unmarked)
      fun _ _ => True := by
  have bindings : Leaves (removeBinding oracle) (Holding Undone Undoable)
      (fun _ => Holding Undone halfRemoved) fun _ _ => True := by
    apply leaves_update stable_undone (Unmarked.undoable unmarked_bindings_missing)
    · intro source rendered undoable written
      exact undoable rendered written
    · intro other source different undoable
      cases other with
      | bindings => exact absurd rfl different
      | menu => exact undoable
    · exact fun _ _ _ => trivial
  have menu : Leaves (removeMenu oracle) (Holding Undone halfRemoved)
      (fun _ => Holding Undone Unmarked) fun _ _ => True := by
    apply leaves_update stable_undone
    · exact Unmarked.undoable unmarked_menu_missing
    · intro source rendered undoable written
      exact undoable rendered written
    · intro other source different holds
      cases other with
      | bindings => exact holds
      | menu => exact absurd rfl different
    · exact fun _ _ _ => trivial
  apply leaves_removeLock.bind
  intro _
  apply bindings.bind
  intro _
  apply menu.bind
  intro _
  exact (keeps_reloadHyprland stable_undone).weaken (fun _ holds => holds) (fun _ _ holds => holds)
    fun _ _ _ => trivial

/-- Enabling ends what is not cleaned up after. -/
theorem leaves_install (unmarked : ∀ file source, start.files file = some source →
    Unmarked file source) :
    Leaves (install oracle) (Standing start Layout.untouched) (fun _ => Holding Enabled Unmarked)
      fun _ => Abandoned start := by
  apply leaves_writeClone.bind
  intro _
  apply Leaves.bind (keeps_installed .validate rfl (by decide))
  intro _
  apply Leaves.bind (keeps_installed .rescan rfl (by decide))
  intro _
  apply Leaves.bind (keeps_installed .discover rfl (by decide))
  intro _
  rw [Shell.enable_eq]
  apply leaves_attemptIf_installed rfl
  intro machine standing
  refine ⟨⟨standing.2, standing.1.quiet.succeed .enable, by simp [Machine.note]⟩, ?_⟩
  intro file source here
  change machine.files file = some source at here
  rw [standing.1.files] at here
  exact unmarked file source here

end Holding

section Apply

variable {oracle : Oracle} {start : Machine}

theorem leaves_isInstalled :
    Leaves (isInstalled oracle) (Standing start Layout.untouched)
      (fun installed machine => installed = false ∧ Standing start Layout.untouched machine)
      fun _ => Standing start Layout.untouched := by
  apply Leaves.bind (keeps_check rfl)
  intro _
  apply (leaves_look_plain rfl).bind
  intro present
  cases present with
  | false => exact leaves_pure fun _ standing => ⟨rfl, standing⟩
  | true =>
      exact leaves_isGenerated
        (fun _ _ standing generated => absurd generated standing.2)
        (fun _ _ standing _ => ⟨rfl, standing.note true (.inl rfl)⟩)
        fun _ _ standing => ⟨rfl, standing.note false (.inl rfl)⟩

/-- What a setup that fails leaves, unless the undo fails. -/
def Failing (start : Machine) (error : SetupError) (machine : Machine) : Prop :=
  error.UndoFailed ∨ Abandoned start machine ∨ Holding Undone Unmarked machine

theorem leaves_apply (fresh : Fresh start) :
    Leaves (apply oracle) (Standing start Layout.untouched) (fun _ _ => True) (Failing start) := by
  have abandons : ∀ {Result : Type} {program : Step Result} {before : Machine → Prop}
      {after : Result → Machine → Prop},
      Leaves program before after (fun _ => Abandoned start) →
      Leaves program before after (Failing start) := fun leaves =>
    leaves.weaken (fun _ holds => holds) (fun _ _ holds => holds) fun _ _ holds => .inr (.inl holds)
  have checked : ∀ {op : Op}, op.role = .plain → Leaves (check oracle op)
      (Standing start Layout.untouched) (fun _ => Standing start Layout.untouched)
      (Failing start) := fun plain => abandons (leaves_abandoned (keeps_check plain))
  apply (checked rfl).bind
  intro _
  apply (checked rfl).bind
  intro _
  apply (checked rfl).bind
  intro _
  apply (abandons (leaves_abandoned leaves_isInstalled)).bind
  intro installed
  cases installed with
  | true =>
      rintro machine ⟨present, _⟩
      cases present
  | false =>
      have baselined : Leaves (configErrors oracle .baseline) (Standing start Layout.untouched)
          (fun _ => Standing start Layout.untouched) (Failing start) :=
        Leaves.bind (checked rfl) fun _ => leaves_pure fun _ holds => holds
      apply (baselined.weaken (fun _ holds => holds.2) (fun _ _ holds => holds)
        fun _ _ holds => holds).bind
      intro baseline
      apply (abandons (leaves_install fresh.unmarked)).bind
      intro _
      apply leaves_integrate.caught.bind
      intro outcome
      cases outcome with
      | ok _ => exact leaves_pure fun _ _ => trivial
      | error error =>
          apply leaves_undo.caught.bind
          intro result
          cases result with
          | ok _ => exact leaves_fail fun _ holding => .inr (.inr holding)
          | error _ => exact leaves_fail fun _ _ => .inl trivial

theorem Fresh.standing (fresh : Fresh start) : Standing start Layout.untouched start := by
  refine ⟨⟨rfl, rfl, ?_, ?_⟩, fresh.ungenerated⟩
  · rw [Quiet, fresh.untraced]
    constructor <;> rintro ⟨_, ⟨⟩, _⟩
  · rw [fresh.untraced]
    exact List.not_mem_nil

/-- Exactly when a setup that fails, and whose undo does not, leaves a fresh machine as promised:
no step failed that it gives up at without an undo, the undo could look at the clone, and the
built-in lock was enabled at the start unless setup enabled the clone. -/
theorem apply_restores_iff {error : SetupError} {final : Machine} (fresh : Fresh start)
    (ran : apply oracle start = (.error error, final)) (undone : ¬ error.UndoFailed) :
    Restored final ↔
      ¬ Failed .abandons final.trace ∧ ¬ Failed .overlooks final.trace ∧
        (start.lock = .builtIn ∨ (.enable, true) ∈ final.trace) := by
  have left : Failing start error final := by
    have leaves : Leaves (apply oracle) (Standing start Layout.untouched) (fun _ _ => True)
        (Failing start) := leaves_apply fresh
    have holds := leaves start fresh.standing
    rw [ran] at holds
    exact holds
  rcases left with failed | (untouched | broken) | ⟨removed | overlooked, unmarked⟩
  · exact absurd failed undone
  · have kept := untouched.1
    constructor
    · intro restored
      exact ⟨kept.quiet.1, kept.quiet.2, .inl (kept.lock ▸ restored.lock)⟩
    · rintro ⟨_, _, locked | enabled⟩
      · exact ⟨untouched.2, kept.files ▸ fresh.unmarked, kept.lock.trans locked⟩
      · exact absurd enabled kept.disabled
  · exact iff_of_false (fun restored => restored.ungenerated broken.1)
      fun condition => condition.1 broken.2
  · exact iff_of_true ⟨removed.ungenerated, unmarked, removed.lock⟩
      ⟨removed.quiet.1, removed.quiet.2, .inr removed.enabled⟩
  · exact iff_of_false (fun restored => restored.ungenerated overlooked.1)
      fun condition => condition.2.1 overlooked.2

end Apply

/-- A clone of next to nothing. -/
def plainClone : Clone where
  manifest := []
  service := presenceMarker
  view := []
  copied := []
  marked := List.infix_rfl
  others := nofun

/-- One step fails. -/
def failing (op : Op) : Oracle where
  shell := .documented
  fails step := step == op
  clone := plainClone
  errors _ := []
  listing _ := some true
  listed _ := true
  unsynced _ _ := false
  backup := []

/-- No plugin, no bindings file and no menu file. -/
def bareMachine : Machine where
  plugins _ := none
  backups := []
  files _ := none
  lock := .builtIn
  trace := []

theorem fresh_bareMachine : Fresh bareMachine := ⟨not_generated_none, nofun, rfl⟩

/-- An edit that fails is undone. -/
theorem apply_restores_failing_update :
    Restored (apply (failing (.update .applying .bindings)) bareMachine).2 := by
  have ran : apply (failing (.update .applying .bindings)) bareMachine =
      (.error (.undone (.step (.update .applying .bindings))),
        (apply (failing (.update .applying .bindings)) bareMachine).2) := by
    apply Prod.ext
    · rfl
    · rfl
  exact (apply_restores_iff fresh_bareMachine ran nofun).mpr ⟨by decide, by decide, .inl rfl⟩

/-- A clone that Omarchy does not validate stays where it is. -/
theorem apply_leaves_invalid_clone :
    Fresh bareMachine ∧
      (apply (failing .validate) bareMachine).1 = .error (.step .validate) ∧
      ¬ (SetupError.step .validate).UndoFailed ∧
      ¬ Restored (apply (failing .validate) bareMachine).2 := by
  refine ⟨fresh_bareMachine, rfl, nofun, fun restored => restored.ungenerated ?_⟩
  exact ⟨_, presenceMarker, rfl, rfl, List.infix_rfl⟩

end PresenceUnlock.Cli.Setup
