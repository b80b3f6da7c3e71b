import PresenceUnlock.Cli.AllOrNothing
import PresenceUnlock.Cli.BindingEdit
import PresenceUnlock.Cli.MenuRoundTrip

/-!
# A machine that only setup has touched

Setups and removals that fail wherever they may leave both files without a block, or with the one
that setup wrote; and while the shell has the clone enabled, the clone is there, unless setup could
not put back a clone that it had set aside.
-/

namespace PresenceUnlock.Cli.Setup

open RustStd Effects

/-- What setup makes of a file. -/
def rendering : File → Text → Except Text Text
  | .bindings => Binding.render bindingsPath
  | .menu => Menu.renderEntry

/-- What a removal makes of a file. -/
def removal : File → Text → Except Text Text
  | .bindings => Binding.removal bindingsPath
  | .menu => Menu.renderRemoval

/-- What is read of a file that is not there. -/
def missing : File → Text
  | .bindings => []
  | .menu => Menu.emptyExtensions

/-- A file without a block, or with the block that setup wrote to such a file. -/
def Owned (file : File) (source : Text) : Prop :=
  Unmarked file source ∨ ∃ plain, Unmarked file plain ∧ rendering file plain = .ok source

theorem unmarked_missing (file : File) : Unmarked file (missing file) := by
  cases file with
  | bindings => exact unmarked_bindings_missing
  | menu => exact unmarked_menu_missing

theorem owned_missing (file : File) : Owned file (missing file) := .inl (unmarked_missing file)

/-- A removal leaves a file without markers as it is. -/
theorem removal_of_unmarked {file : File} {source : Text} (unmarked : Unmarked file source) :
    removal file source = .ok source := by
  cases file with
  | bindings => rw [removal, Binding.removal, Text.find_eq_none_iff.mpr unmarked.1]
  | menu => rw [removal, Menu.renderRemoval, Text.find_eq_none_iff.mpr unmarked.1]

/-- Setup writes its block behind everything else. -/
theorem render_eq_marked {source : Text} (unmarked : Unmarked .bindings source) :
    Binding.render bindingsPath source =
      .ok (Binding.marked (source ++ Binding.padding source) Binding.blockBody ['\n']) := by
  rw [Binding.render_of_unmarked _ unmarked.1 unmarked.2, Binding.marked_blockBody,
    List.append_assoc _ Binding.block]

/-- A removal takes back what setup wrote. -/
theorem removal_of_rendered {file : File} {plain rendered : Text} (unmarked : Unmarked file plain)
    (written : rendering file plain = .ok rendered) :
    ∃ removed, removal file rendered = .ok removed ∧ Unmarked file removed := by
  cases file with
  | bindings =>
      obtain rfl := Except.ok.inj (written.symm.trans (render_eq_marked unmarked))
      have removed := (Binding.Marked.of_unmarked unmarked.1 unmarked.2).removal_eq bindingsPath
      exact ⟨_, removed, Binding.clears_removal_of_render unmarked written _ removed⟩
  | menu =>
      obtain ⟨close, _, front, back, _, _, split, _, rfl⟩ :=
        Menu.exists_renderEntry unmarked written
      have clear := Menu.clear_separate unmarked close
      rw [split] at clear
      have removed := Menu.renderRemoval_block clear
      exact ⟨_, removed, Menu.clears_renderRemoval_of_renderEntry unmarked written _ removed⟩

theorem Owned.exists_removal {file : File} {source : Text} (owned : Owned file source) :
    ∃ removed, removal file source = .ok removed ∧ Unmarked file removed := by
  rcases owned with unmarked | ⟨plain, unmarked, written⟩
  · exact ⟨source, removal_of_unmarked unmarked, unmarked⟩
  · exact removal_of_rendered unmarked written

/-- A second setup writes what the first one has. -/
theorem Owned.rendered {file : File} {source rendered : Text} (owned : Owned file source)
    (written : rendering file source = .ok rendered) : Owned file rendered := by
  rcases owned with unmarked | ⟨plain, unmarked, before⟩
  · exact .inr ⟨source, unmarked, written⟩
  · obtain ⟨removed, taken, clear⟩ := removal_of_rendered unmarked before
    cases file with
    | bindings =>
        obtain rfl := Except.ok.inj (before.symm.trans (render_eq_marked unmarked))
        have again := (Binding.Marked.of_unmarked unmarked.1 unmarked.2).render_eq bindingsPath
        rw [← Binding.marked_blockBody] at again
        obtain rfl := Except.ok.inj (written.symm.trans again)
        exact .inr ⟨plain, unmarked, before⟩
    | menu =>
        have again : Menu.renderEntry source = Menu.renderEntry removed :=
          Menu.renderEntry_congr taken clear
        exact .inr ⟨removed, clear, again.symm.trans written⟩

/-- An enabled clone is in this directory. -/
def Bound (place : Place) (machine : Machine) : Prop :=
  machine.lock = .clone → Generated (machine.plugins place) ∨ (.putBack, false) ∈ machine.trace

/-- Both files are as setup or a removal leaves them, and an enabled clone is in this directory. -/
abbrev Tied (place : Place) : Machine → Prop := Holding (Bound place) Owned

/-- A shape, with the clone in this directory. -/
def With (place : Place) (shape : Machine → Prop) (machine : Machine) : Prop :=
  shape machine ∧ Generated (machine.plugins place)

/-- A shape that the trace does not bear on, but for a clone that is not put back. -/
structure Noted (shape : Machine → Prop) : Prop where
  /-- A note does not bear on it. -/
  note : ∀ {machine : Machine} (op : Op) (succeeded : Bool), shape machine →
    shape (machine.note op succeeded)

section Tied

variable {oracle : Oracle} {machine : Machine} {held : Place}

theorem noted_tied (place : Place) : Noted (Tied place) :=
  ⟨fun _ _ tied =>
    ⟨fun enabled => (tied.1 enabled).imp_right (List.mem_append_left _), tied.2⟩⟩

@[simp] theorem plugins_place_self (machine : Machine) (place : Place)
    (directory : Option Directory) : (machine.place place directory).plugins place = directory :=
  Function.update_self ..

theorem plugins_place_of_ne {place other : Place} (different : place ≠ other)
    (directory : Option Directory) :
    (machine.place other directory).plugins place = machine.plugins place :=
  Function.update_of_ne different ..

theorem Tied.place (tied : Tied held machine) {other : Place} (different : held ≠ other)
    (directory : Option Directory) : Tied held (machine.place other directory) := by
  refine ⟨fun enabled => ?_, tied.2⟩
  rw [plugins_place_of_ne different]
  exact tied.1 enabled

variable {shape shape' : Machine → Prop}

theorem Noted.with (noted : Noted shape) (place : Place) : Noted (With place shape) :=
  ⟨fun op succeeded holds => ⟨noted.note op succeeded holds.1, holds.2⟩⟩

theorem Noted.attemptIf (noted : Noted shape) (noted' : Noted shape') {op : Op} {succeeds : Bool}
    {effect : Machine → Machine} (moves : ∀ machine, shape machine → shape' (effect machine)) :
    Leaves (attemptIf op succeeds effect) shape (fun _ => shape') fun _ => shape :=
  leaves_attemptIf (fun _ machine holds => noted'.note op true (moves machine holds))
    fun _ _ holds => noted.note op false holds

theorem Noted.check (noted : Noted shape) (op : Op) : Keeps shape (check oracle op) :=
  noted.attemptIf noted fun _ holds => holds

theorem Noted.look (noted : Noted shape) (site : Site) (place : Place)
    {failed : SetupError → Machine → Prop} :
    Leaves (look oracle site place) shape (fun _ => shape) failed :=
  leaves_look (fun _ _ holds => noted.note _ true holds) fun _ _ holds => noted.note _ false holds

theorem Noted.isGenerated (noted : Noted shape) (site : Site)
    {failed : SetupError → Machine → Prop} :
    Leaves (isGenerated oracle site) shape (fun _ => shape) failed :=
  leaves_isGenerated (fun _ _ holds _ => noted.note _ true holds)
    (fun _ _ holds _ => noted.note _ true holds) fun _ _ holds => noted.note _ false holds

theorem Noted.removeIfPresent (noted : Noted shape) {site : Site} {place : Place}
    (spares : ∀ machine, shape machine → shape (machine.place place none)) :
    Keeps shape (removeIfPresent oracle site place) := by
  apply (noted.look site place).bind
  intro present
  cases present with
  | false => exact keeps_pure
  | true => exact noted.attemptIf noted spares

theorem Noted.configErrors (noted : Noted shape) (site : Site) :
    Keeps shape (configErrors oracle site) :=
  (noted.check _).bind fun _ => keeps_pure

theorem Noted.reloadHyprland (noted : Noted shape) (site : Site) (baseline : Text) :
    Keeps shape (reloadHyprland oracle site baseline) := by
  apply (noted.check _).bind
  intro _
  apply (noted.configErrors site).bind
  intro after
  dsimp only
  split
  · exact keeps_pure
  · exact keeps_fail

theorem keeps_claimTarget_of_noted (noted : Noted shape) : Keeps shape (claimTarget oracle) := by
  apply (noted.look .claim .target).bind
  intro present
  cases present with
  | false => exact keeps_pure
  | true =>
      apply (noted.isGenerated .claim).bind
      intro generated
      cases generated with
      | true => exact keeps_pure
      | false => exact keeps_fail

/-- A directory that has been begun. -/
def Begun (machine : Machine) : Prop := Tied .target machine ∧ (machine.plugins .stage).isSome

theorem noted_begun : Noted Begun :=
  ⟨fun op succeeded begun => ⟨(noted_tied .target).note op succeeded begun.1, begun.2⟩⟩

theorem With.begun (staged : With .stage (Tied .target) machine) : Begun machine := by
  obtain ⟨tied, files, _, here, _⟩ := staged
  exact ⟨tied, Option.isSome_of_mem here⟩

/-- A file that is written into the stage. -/
theorem leaves_writeStaged_of_noted {op : Op} {name contents : Text} (noted : Noted shape)
    (noted' : Noted shape') (begun : ∀ machine, shape machine → Begun machine)
    (writes : ∀ machine files, shape machine → machine.plugins .stage = some files →
      shape' (machine.place .stage (some (Function.update files name (some contents))))) :
    Leaves (writeStaged oracle op name contents) shape (fun _ => shape')
      fun _ => Tied .target := by
  have moves : Leaves (writeStaged oracle op name contents) shape (fun _ => shape')
      fun _ => shape := by
    apply noted.attemptIf noted'
    intro machine holds
    obtain ⟨files, here⟩ := Option.isSome_iff_exists.mp (begun machine holds).2
    rw [here, Option.map_some]
    exact writes machine files holds here
  exact moves.weaken (fun _ holds => holds) (fun _ _ holds => holds)
    fun _ _ holds => (begun _ holds).1

/-- The stage that is built holds the clone, whatever is at the target. -/
theorem leaves_build_of_tied :
    Leaves (build oracle) (Tied .target) (fun _ => With .stage (Tied .target))
      fun _ => Tied .target := by
  have tied := noted_tied .target
  have staged := tied.with .stage
  have keeps : ∀ {op name contents}, (name = serviceFile → presenceMarker <:+: contents) →
      Leaves (writeStaged oracle op name contents) (With .stage (Tied .target))
        (fun _ => With .stage (Tied .target)) fun _ => Tied .target := by
    intro op name contents marked
    apply leaves_writeStaged_of_noted staged staged fun _ => With.begun
    rintro machine files ⟨tied, generated⟩ here
    refine ⟨tied.place (by decide) _, ?_⟩
    rw [plugins_place_self, generated_update]
    split
    · exact marked ‹_›
    · rwa [here] at generated
  have begins : ∀ {op name contents}, Leaves (writeStaged oracle op name contents) Begun
      (fun _ => Begun) fun _ => Tied .target := by
    intro op name contents
    apply leaves_writeStaged_of_noted noted_begun noted_begun fun _ holds => holds
    rintro machine files ⟨tied, _⟩ _
    exact ⟨tied.place (by decide) _, by rw [plugins_place_self]; rfl⟩
  apply leaves_read.bind
  intro machine
  have created : Leaves
      (attemptIf .createStage (!oracle.fails .createStage && (machine.plugins .stage).isNone)
        fun machine => machine.place .stage (some fun _ => none))
      (Tied .target) (fun _ => Begun) fun _ => Tied .target := by
    apply tied.attemptIf noted_begun
    intro machine holds
    exact ⟨holds.place (by decide) _, by rw [plugins_place_self]; rfl⟩
  apply
    (created.weaken (fun _ holds => holds.2) (fun _ _ holds => holds) fun _ _ holds => holds).bind
  intro _
  have service : Leaves (writeStaged oracle (.write serviceFile) serviceFile oracle.clone.service)
      Begun (fun _ => With .stage (Tied .target)) fun _ => Tied .target := by
    apply leaves_writeStaged_of_noted noted_begun staged fun _ holds => holds
    rintro machine files ⟨tied, _⟩ _
    refine ⟨tied.place (by decide) _, ?_⟩
    rw [plugins_place_self, generated_update, if_pos rfl]
    exact oracle.clone.marked
  have view : Leaves (writeStaged oracle (.write viewFile) viewFile oracle.clone.view)
      (With .stage (Tied .target)) (fun _ => With .stage (Tied .target)) fun _ => Tied .target :=
    keeps fun same => absurd same (by decide)
  have written : Leaves
      (Program.each (fun file => writeStaged oracle (.write file.1) file.1 file.2)
        oracle.clone.files)
      Begun (fun _ => With .stage (Tied .target)) fun _ => Tied .target :=
    begins.bind fun _ => service.bind fun _ => view.bind fun _ => leaves_pure fun _ holds => holds
  apply written.bind
  intro _
  apply leaves_each
  rintro ⟨name, contents⟩ member
  exact keeps fun same => absurd (by simp [same]) (oracle.clone.others _ member)

/-- A directory that is moved. -/
theorem Noted.rename (noted : Noted shape) (noted' : Noted shape') {op : Op}
    {source destination : Place}
    (moves : ∀ machine, shape machine →
      shape' ((machine.place destination (machine.plugins source)).place source none)) :
    Leaves (rename oracle op source destination) shape (fun _ => shape') fun _ => shape :=
  noted.attemptIf noted' moves

/-- The clone that was set aside is put back, or the trace tells that it could not be. -/
theorem leaves_putBack :
    Leaves (rename oracle .putBack .rollback .target) (Tied .rollback) (fun _ => Tied .target)
      fun _ => Tied .target := by
  refine leaves_attempt (fun _ machine tied => ?_) fun _ machine tied => ?_
  · refine (noted_tied .target).note _ true ⟨fun enabled => ?_, tied.2⟩
    rw [plugins_place_of_ne (by decide), plugins_place_self]
    exact tied.1 enabled
  · exact ⟨fun _ => .inr (by simp [Machine.note]), tied.2⟩

/-- The stage replaces what is at the target. -/
theorem leaves_swap_of_tied (noted : Noted shape)
    (staged : ∀ machine, shape machine → With .stage (fun machine =>
      ∀ file source, machine.files file = some source → Owned file source) machine) :
    Leaves (rename oracle .swap .stage .target) shape (fun _ => With .target (Tied .target))
      fun _ => shape := by
  apply noted.rename ((noted_tied .target).with .target)
  intro machine holds
  obtain ⟨files, generated⟩ := staged machine holds
  have moved : Generated (((machine.place .target (machine.plugins .stage)).place .stage
      none).plugins .target) := by
    rwa [plugins_place_of_ne (by decide), plugins_place_self]
  exact ⟨⟨fun _ => .inl moved, files⟩, moved⟩

theorem leaves_writeClone_of_tied :
    Leaves (writeClone oracle) (Tied .target) (fun _ => With .target (Tied .target))
      fun _ => Tied .target := by
  have tied := noted_tied .target
  have staged := tied.with .stage
  have cleared : ∀ {site held place}, held ≠ place →
      Keeps (Tied held) (removeIfPresent oracle site place) := fun other =>
    (noted_tied _).removeIfPresent fun _ holds => holds.place other none
  apply Leaves.bind (keeps_claimTarget_of_noted tied)
  intro _
  apply Leaves.bind (tied.check .createPlugins)
  intro _
  apply Leaves.bind (cleared (by decide))
  intro _
  apply Leaves.bind (cleared (by decide))
  intro _
  have built : Leaves (orElse (build oracle) (removeIfPresent oracle .unbuilt .stage))
      (Tied .target) (fun _ => With .stage (Tied .target)) fun _ => Tied .target :=
    leaves_orElse leaves_build_of_tied fun _ => cleared (by decide)
  apply built.bind
  intro _
  apply (staged.look .previous .target).bind
  intro previous
  cases previous with
  | false =>
      apply leaves_orElse
      · exact leaves_swap_of_tied staged fun _ holds => ⟨holds.1.2, holds.2⟩
      · intro error
        exact (cleared (by decide)).weaken (fun _ holds => holds.1)
          (fun _ _ holds => holds) fun _ _ holds => holds
  | true =>
      have set_aside : Leaves (rename oracle .setAside .target .rollback)
          (With .stage (Tied .target)) (fun _ => With .stage (Tied .rollback))
          fun _ => With .stage (Tied .target) := by
        apply staged.rename ((noted_tied .rollback).with .stage)
        rintro machine ⟨held, generated⟩
        refine ⟨⟨fun enabled => ?_, held.2⟩, ?_⟩
        · rw [plugins_place_of_ne (by decide), plugins_place_self]
          exact held.1 enabled
        · rwa [plugins_place_of_ne (by decide), plugins_place_of_ne (by decide)]
      have moved : Leaves (orElse (rename oracle .setAside .target .rollback)
            (removeIfPresent oracle .unstaged .stage))
          (With .stage (Tied .target)) (fun _ => With .stage (Tied .rollback))
          fun _ => Tied .target :=
        leaves_orElse set_aside fun _ => (cleared (by decide)).weaken
          (fun _ holds => holds.1) (fun _ _ holds => holds) fun _ _ holds => holds
      apply moved.bind
      intro _
      have swapped : Leaves (orElse (rename oracle .swap .stage .target) do
            let _ ← (removeIfPresent oracle .unswapped .stage).catching
            rename oracle .putBack .rollback .target)
          (With .stage (Tied .rollback)) (fun _ => With .target (Tied .target))
          fun _ => Tied .target := by
        apply leaves_orElse
        · exact leaves_swap_of_tied ((noted_tied .rollback).with .stage)
            fun _ holds => ⟨holds.1.2, holds.2⟩
        · intro error
          have removed : Keeps (Tied .rollback) (removeIfPresent oracle .unswapped .stage) :=
            cleared (by decide)
          have kept : Leaves (removeIfPresent oracle .unswapped .stage).catching (Tied .rollback)
              (fun _ => Tied .rollback) fun _ => Tied .target :=
            Leaves.catching removed (fun _ _ holds => holds) fun _ _ holds => holds
          exact (kept.bind fun _ => leaves_putBack).weaken
            (fun _ holds => holds.1) (fun _ _ holds => holds) fun _ _ holds => holds
      apply swapped.bind
      intro _
      have dropped : Keeps (With .target (Tied .target))
          (removeIfPresent oracle .leftover .rollback) :=
        (tied.with .target).removeIfPresent fun machine holds => by
          refine ⟨holds.1.place (by decide) none, ?_⟩
          rw [plugins_place_of_ne (by decide)]
          exact holds.2
      exact dropped.weaken (fun _ holds => holds) (fun _ _ holds => holds) fun _ _ holds => holds.1

theorem keeps_install : Keeps (Tied .target) (install oracle) := by
  have held := (noted_tied .target).with .target
  have checked : ∀ {op succeeds}, Leaves (attemptIf op succeeds id) (With .target (Tied .target))
      (fun _ => With .target (Tied .target)) fun _ => Tied .target := fun {_ _} =>
    (held.attemptIf held fun _ holds => holds).weaken (fun _ holds => holds)
      (fun _ _ holds => holds) fun _ _ holds => holds.1
  apply leaves_writeClone_of_tied.bind
  intro _
  apply Leaves.bind checked
  intro _
  apply Leaves.bind checked
  intro _
  apply Leaves.bind checked
  intro _
  have enabled : Leaves (attempt oracle .enable oracle.shell.enable)
      (With .target (Tied .target)) (fun _ => Tied .target)
      fun _ => With .target (Tied .target) := by
    rw [Shell.enable_eq]
    exact held.attemptIf (noted_tied .target) fun _ holds => ⟨fun _ => .inl holds.2, holds.1.2⟩
  exact enabled.weaken (fun _ holds => holds) (fun _ _ holds => holds) fun _ _ holds => holds.1

theorem stable_bound (place : Place) : Stable (Bound place) where
  note _ _ bound := fun enabled => (bound enabled).imp_right (List.mem_append_left _)
  store bound := bound

/-- An edit that keeps the files as setup or a removal leaves them. -/
theorem keeps_update {site : Site} (file : File) {render : Text → Except Text Text}
    (owned : ∀ source rendered, Owned file source → render source = .ok rendered →
      Owned file rendered) :
    Keeps (Tied .target) (update oracle site file (missing file) render) :=
  leaves_update (stable_bound .target) (owned_missing file) owned (fun _ _ _ holds => holds)
    fun _ _ holds => holds.elim id id

theorem keeps_integrate (baseline : Text) : Keeps (Tied .target) (integrate oracle baseline) := by
  have binding : Keeps (Tied .target) (installBinding oracle) :=
    keeps_update .bindings fun _ _ owned written => owned.rendered written
  have menu : Keeps (Tied .target) (installMenu oracle) :=
    keeps_update .menu fun _ _ owned written => owned.rendered written
  apply binding.bind
  intro _
  apply menu.bind
  intro _
  exact (noted_tied .target).reloadHyprland .applying baseline

theorem Owned.removed {file : File} {source rendered : Text} (owned : Owned file source)
    (written : removal file source = .ok rendered) : Unmarked file rendered := by
  obtain ⟨removed, taken, unmarked⟩ := owned.exists_removal
  exact Except.ok.inj (taken.symm.trans written) ▸ unmarked

theorem keeps_removeBinding : Keeps (Tied .target) (removeBinding oracle) :=
  keeps_update .bindings fun _ _ owned written => .inl (owned.removed written)

theorem keeps_removeMenu : Keeps (Tied .target) (removeMenu oracle) :=
  keeps_update .menu fun _ _ owned written => .inl (owned.removed written)

theorem keeps_removeLock : Keeps (Tied .target) (removeLock oracle) := by
  have tied := noted_tied .target
  apply Leaves.bind (tied.look .undoing .target)
  intro found
  cases found with
  | false => exact keeps_pure
  | true =>
      apply Leaves.bind (tied.isGenerated .undoing)
      intro generated
      cases generated with
      | false => exact keeps_pure
      | true =>
          have listed : ∀ {removed}, Keeps (Tied .target) (backups oracle removed) :=
            fun _ holds => holds
          apply listed.bind
          intro before
          have plugin : Keeps (Tied .target) (attempt oracle .removePlugin
              (oracle.shell.remove oracle.backup)) := by
            rw [Shell.remove_eq]
            exact tied.attemptIf tied fun _ holds => ⟨nofun, holds.2⟩
          apply plugin.bind
          intro _
          apply listed.bind
          intro after
          apply leaves_each
          intro name _
          exact tied.attemptIf tied fun _ holds => holds

/-- However it ends, setup keeps the files and the lock as they may be. -/
theorem keeps_apply : Keeps (Tied .target) (apply oracle) := by
  have tied := noted_tied .target
  apply (tied.check .pluginId).bind
  intro _
  apply (tied.check .policy).bind
  intro _
  apply (tied.check .renderClone).bind
  intro _
  have installed : Keeps (Tied .target) (isInstalled oracle) := by
    apply (tied.check .home).bind
    intro _
    apply Leaves.bind (tied.look .installed .target)
    intro present
    cases present with
    | false => exact keeps_pure
    | true => exact tied.isGenerated .installed
  apply installed.bind
  intro installed
  apply (tied.configErrors .baseline).bind
  intro baseline
  apply keeps_install.bind
  intro _
  apply Keeps.bind (keeps_integrate baseline).catching
  intro outcome
  cases outcome with
  | ok _ => exact keeps_pure
  | error error =>
      dsimp only
      split
      · exact keeps_fail
      · have undone : Keeps (Tied .target) (undo oracle baseline) := by
          apply keeps_removeLock.bind
          intro _
          apply keeps_removeBinding.bind
          intro _
          apply keeps_removeMenu.bind
          intro _
          exact tied.reloadHyprland .undoing baseline
        apply Keeps.bind undone.catching
        intro result
        cases result <;> exact keeps_fail

end Tied

end PresenceUnlock.Cli.Setup
