import PresenceUnlock.Cli.AllOrNothing

/-!
# Swapping the clone in

The clone is built beside the plugin directory and swapped in by two renames.  Any step may fail;
the file lists how a swap can end, and when it keeps the promise that the plugin directory is
either untouched or holds the whole clone.
-/

namespace PresenceUnlock.Cli.Setup

open RustStd Effects

/-- Write files into a directory, one after the other. -/
def writeAll (files : List (Text × Text)) (directory : Directory) : Directory :=
  files.foldl (fun directory file => Function.update directory file.1 (some file.2)) directory

/-- The directory that holds the rendered and the copied files. -/
def Clone.installed (clone : Clone) : Directory :=
  writeAll clone.copied (writeAll clone.files fun _ => none)

/-- The steps that rename, replace or delete the plugin directory. -/
def Op.touches : Op → Bool
  | .setAside | .swap | .putBack | .remove _ .target => true
  | _ => false

/-- Some step on the plugin directory has succeeded. -/
def touched (trace : List (Op × Bool)) : Bool := trace.any fun step => step.1.touches && step.2

/-- The directories, and whether the plugin directory has been touched. -/
structure Laid (plugins : Place → Option Directory) (flag : Bool) (machine : Machine) : Prop where
  /-- The directories. -/
  plugins_eq : machine.plugins = plugins
  /-- Whether the plugin directory has been touched. -/
  touched_eq : touched machine.trace = flag

/-- The plugin directory is as it was, and has not been touched. -/
structure Spared (target : Option Directory) (machine : Machine) : Prop where
  /-- It is as it was. -/
  target_eq : machine.plugins .target = target
  /-- It has not been touched. -/
  untouched : touched machine.trace = false

/-- What a look finds: a failed look finds nothing. -/
def Oracle.sees (oracle : Oracle) (site : Site) (plugins : Place → Option Directory)
    (place : Place) : Bool :=
  (plugins place).isSome && !oracle.fails (.look site place)

/-- What is left when a place is cleared, as far as it is seen. -/
def Oracle.clears (oracle : Oracle) (site : Site) (place : Place)
    (plugins : Place → Option Directory) : Place → Option Directory :=
  if oracle.sees site plugins place then Function.update plugins place none else plugins

section Rules

variable {oracle : Oracle} {plugins : Place → Option Directory} {flag : Bool} {machine : Machine}
  {op : Op} {target : Option Directory}

theorem touched_concat (trace : List (Op × Bool)) (op : Op) (succeeded : Bool) :
    touched (trace ++ [(op, succeeded)]) = (touched trace || (op.touches && succeeded)) := by
  simp [touched]

theorem Laid.note (laid : Laid plugins flag machine) (op : Op) (succeeded : Bool) :
    Laid plugins (flag || (op.touches && succeeded)) (machine.note op succeeded) :=
  ⟨laid.plugins_eq, by rw [Machine.note, touched_concat, laid.touched_eq]⟩

theorem Laid.note_failed (laid : Laid plugins flag machine) (op : Op) :
    Laid plugins flag (machine.note op false) := by
  simpa using laid.note op false

theorem Laid.note_harmless (laid : Laid plugins flag machine) (harmless : op.touches = false)
    (succeeded : Bool) : Laid plugins flag (machine.note op succeeded) := by
  simpa [harmless] using laid.note op succeeded

theorem Laid.spared (laid : Laid plugins false machine) : Spared (plugins .target) machine :=
  ⟨congrFun laid.plugins_eq .target, laid.touched_eq⟩

theorem Spared.note (spared : Spared target machine) (harmless : op.touches = false)
    (succeeded : Bool) : Spared target (machine.note op succeeded) :=
  ⟨spared.target_eq, by rw [Machine.note, touched_concat, spared.untouched, harmless]; rfl⟩

/-- A step that moves directories, or nothing if it fails. -/
theorem laid_attempt {effect : Machine → Machine}
    (moved : (Place → Option Directory) → Place → Option Directory)
    (moves : ∀ machine, (effect machine).plugins = moved machine.plugins ∧
      (effect machine).trace = machine.trace) :
    Leaves (attempt oracle op effect) (Laid plugins flag)
      (fun _ machine => oracle.fails op = false ∧
        Laid (moved plugins) (flag || op.touches) machine)
      fun _ machine => oracle.fails op = true ∧ Laid plugins flag machine := by
  refine leaves_attempt (fun succeeds machine laid => ⟨succeeds, ?_⟩)
    fun fails machine laid => ⟨fails, laid.note_failed op⟩
  have effected : Laid (moved plugins) flag (effect machine) :=
    ⟨by rw [(moves machine).1, laid.plugins_eq], by rw [(moves machine).2, laid.touched_eq]⟩
  simpa using effected.note op true

theorem laid_attempt_harmless {effect : Machine → Machine} (harmless : op.touches = false)
    (moved : (Place → Option Directory) → Place → Option Directory)
    (moves : ∀ machine, (effect machine).plugins = moved machine.plugins ∧
      (effect machine).trace = machine.trace) :
    Leaves (attempt oracle op effect) (Laid plugins flag)
      (fun _ machine => oracle.fails op = false ∧ Laid (moved plugins) flag machine)
      fun _ machine => oracle.fails op = true ∧ Laid plugins flag machine :=
  (laid_attempt moved moves).weaken (fun _ laid => laid)
    (fun _ _ left => by simpa [harmless] using left) fun _ _ left => left

theorem laid_check (harmless : op.touches = false) :
    Leaves (check oracle op) (Laid plugins flag)
      (fun _ machine => oracle.fails op = false ∧ Laid plugins flag machine)
      fun _ machine => oracle.fails op = true ∧ Laid plugins flag machine :=
  laid_attempt_harmless harmless id fun _ => ⟨rfl, rfl⟩

theorem laid_look {site : Site} {place : Place} {failed : SetupError → Machine → Prop} :
    Leaves (look oracle site place) (Laid plugins flag)
      (fun found machine => found = oracle.sees site plugins place ∧ Laid plugins flag machine)
      failed := by
  refine leaves_look (fun succeeds machine laid => ⟨?_, laid.note_harmless rfl true⟩)
    fun fails machine laid => ⟨?_, laid.note_harmless rfl false⟩
  · simp [Oracle.sees, succeeds, laid.plugins_eq]
  · simp [Oracle.sees, fails]

/-- Clearing a place beside the plugin directory. -/
theorem laid_removeIfPresent {site : Site} {place : Place}
    (beside : (Op.remove site place).touches = false) :
    Leaves (removeIfPresent oracle site place) (Laid plugins flag)
      (fun _ machine =>
        (oracle.sees site plugins place = true → oracle.fails (.remove site place) = false) ∧
          Laid (oracle.clears site place plugins) flag machine)
      fun _ machine =>
        (oracle.sees site plugins place = true ∧ oracle.fails (.remove site place) = true) ∧
          Laid plugins flag machine := by
  apply laid_look.bind
  intro found
  apply leaves_given
  rintro rfl
  rw [Oracle.clears]
  cases oracle.sees site plugins place with
  | false => exact leaves_pure fun _ laid => ⟨by simp, laid⟩
  | true =>
      have removes : Leaves
          (attempt oracle (.remove site place) fun machine => machine.place place none)
          (Laid plugins flag) _ _ :=
        laid_attempt_harmless beside (fun plugins => Function.update plugins place none)
          fun _ => ⟨rfl, rfl⟩
      exact removes.weaken (fun _ laid => laid) (fun _ _ left => ⟨fun _ => left.1, left.2⟩)
        fun _ _ left => ⟨⟨rfl, left.1⟩, left.2⟩

/-- Clearing a place beside the plugin directory leaves that alone. -/
theorem keeps_spared {site : Site} {place : Place} (beside : place ≠ .target) :
    Keeps (Spared target) (removeIfPresent oracle site place) := by
  have harmless : (Op.remove site place).touches = false := by
    cases place <;> simp_all [Op.touches]
  have looks : Keeps (Spared target) (look oracle site place) :=
    leaves_look (fun _ _ spared => spared.note rfl true) fun _ _ spared => spared.note rfl false
  apply looks.bind
  intro found
  cases found with
  | false => exact keeps_pure
  | true =>
      refine leaves_attempt (fun _ machine spared => ?_)
        fun _ _ spared => spared.note harmless false
      have kept : Spared target (machine.place place none) :=
        ⟨(Function.update_of_ne beside.symm ..).trans spared.target_eq, spared.untouched⟩
      exact kept.note harmless true

theorem Laid.spared_stage {directory : Option Directory}
    (laid : Laid (Function.update plugins .stage directory) false machine) :
    Spared (plugins .target) machine := by
  have spared := laid.spared
  rwa [Function.update_of_ne (by decide)] at spared

end Rules

/-- The plugin directory may be replaced, as far as it is seen. -/
def Oracle.Claims (oracle : Oracle) (plugins : Place → Option Directory) : Prop :=
  oracle.sees .claim plugins .target = true →
    oracle.fails (.readService .claim) = false ∧ Generated (plugins .target)

/-- The stage is created and all files are written into it. -/
structure Oracle.Writes (oracle : Oracle) (plugins : Place → Option Directory) : Prop where
  /-- The stage can be created. -/
  creates : oracle.fails .createStage = false
  /-- It is not there yet. -/
  vacant : plugins .stage = none
  /-- Every rendered file can be written. -/
  renders : ∀ file ∈ oracle.clone.files, oracle.fails (.write file.1) = false
  /-- Every other file can be copied. -/
  copies : ∀ file ∈ oracle.clone.copied, oracle.fails (.copy file.1) = false

section Build

variable {oracle : Oracle} {plugins : Place → Option Directory} {flag : Bool} {op : Op}

theorem laid_claimTarget :
    Leaves (claimTarget oracle) (Laid plugins flag)
      (fun _ machine => oracle.Claims plugins ∧ Laid plugins flag machine)
      fun _ machine => ¬ oracle.Claims plugins ∧ Laid plugins flag machine := by
  apply laid_look.bind
  intro found
  apply leaves_given
  intro seen
  cases found with
  | false => exact leaves_pure fun _ laid => ⟨fun sees => by simp [sees] at seen, laid⟩
  | true =>
      have tells : Leaves (isGenerated oracle .claim) (Laid plugins flag)
          (fun generated machine => (generated = true ↔ oracle.Claims plugins) ∧
            Laid plugins flag machine)
          fun _ machine => ¬ oracle.Claims plugins ∧ Laid plugins flag machine := by
        refine leaves_isGenerated (fun reads machine laid generated => ⟨?_, ?_⟩)
          (fun _ machine laid ungenerated => ⟨?_, ?_⟩) fun fails machine laid => ⟨?_, ?_⟩
        · rw [laid.plugins_eq] at generated
          exact iff_of_true rfl fun _ => ⟨reads, generated⟩
        · exact laid.note_harmless rfl true
        · rw [laid.plugins_eq] at ungenerated
          exact iff_of_false Bool.false_ne_true fun claims => ungenerated (claims seen.symm).2
        · exact laid.note_harmless rfl true
        · refine iff_of_false Bool.false_ne_true fun claims => ?_
          have reads := (claims seen.symm).1
          rw [fails] at reads
          cases reads
        · exact laid.note_harmless rfl false
      apply tells.bind
      intro generated
      apply leaves_given
      intro told
      cases generated with
      | true => exact leaves_pure fun _ laid => ⟨told.mp rfl, laid⟩
      | false => exact leaves_fail fun _ laid => ⟨fun claims => by simp [claims] at told, laid⟩

theorem laid_writeStaged {files : Directory} {name contents : Text}
    (harmless : op.touches = false) :
    Leaves (writeStaged oracle op name contents)
      (Laid (Function.update plugins .stage (some files)) flag)
      (fun _ machine => oracle.fails op = false ∧
        Laid (Function.update plugins .stage
          (some (Function.update files name (some contents)))) flag machine)
      fun _ machine => oracle.fails op = true ∧
        Laid (Function.update plugins .stage (some files)) flag machine := by
  have writes : Leaves (writeStaged oracle op name contents)
      (Laid (Function.update plugins .stage (some files)) flag) _ _ :=
    laid_attempt_harmless harmless
      (fun plugins => Function.update plugins .stage
        ((plugins .stage).map fun files => Function.update files name (some contents)))
      fun _ => ⟨rfl, rfl⟩
  refine writes.weaken (fun _ laid => laid) (fun _ machine left => ⟨left.1, ?_⟩)
    fun _ _ left => left
  simpa using left.2

/-- Files that are written one after the other. -/
theorem laid_writeEach {kind : Text → Op} (harmless : ∀ name, (kind name).touches = false)
    (list : List (Text × Text)) (files : Directory) :
    Leaves (Program.each (fun file => writeStaged oracle (kind file.1) file.1 file.2) list)
      (Laid (Function.update plugins .stage (some files)) false)
      (fun _ machine => (∀ file ∈ list, oracle.fails (kind file.1) = false) ∧
        Laid (Function.update plugins .stage (some (writeAll list files))) false machine)
      fun _ machine => (¬ ∀ file ∈ list, oracle.fails (kind file.1) = false) ∧
        Spared (plugins .target) machine := by
  induction list generalizing files with
  | nil => exact leaves_pure fun _ laid => ⟨by simp, laid⟩
  | cons file list induction =>
      have first : Leaves (writeStaged oracle (kind file.1) file.1 file.2)
          (Laid (Function.update plugins .stage (some files)) false) _ _ :=
        laid_writeStaged (harmless file.1)
      have begins : Leaves (writeStaged oracle (kind file.1) file.1 file.2)
          (Laid (Function.update plugins .stage (some files)) false) _
          fun _ machine => (¬ ∀ any ∈ file :: list, oracle.fails (kind any.1) = false) ∧
            Spared (plugins .target) machine :=
        first.weaken (fun _ laid => laid) (fun _ _ left => left) fun _ _ left =>
          ⟨fun all => by simp [all file List.mem_cons_self] at left, left.2.spared_stage⟩
      apply begins.bind
      intro _
      apply leaves_given
      intro succeeds
      exact (induction _).weaken (fun _ laid => laid)
        (fun _ machine left => ⟨List.forall_mem_cons.mpr ⟨succeeds, left.1⟩, left.2⟩)
        fun _ machine left => ⟨fun all => left.1 (List.forall_mem_cons.mp all).2, left.2⟩

theorem laid_build :
    Leaves (build oracle) (Laid plugins false)
      (fun _ machine => oracle.Writes plugins ∧
        Laid (Function.update plugins .stage (some oracle.clone.installed)) false machine)
      fun _ machine => ¬ oracle.Writes plugins ∧ Spared (plugins .target) machine := by
  have created : ∀ read : Machine, read.plugins = plugins → Leaves
      (attemptIf .createStage (!oracle.fails .createStage && (read.plugins .stage).isNone)
        fun machine => machine.place .stage (some fun _ => none))
      (Laid plugins false)
      (fun _ machine => (oracle.fails .createStage = false ∧ plugins .stage = none) ∧
        Laid (Function.update plugins .stage (some fun _ => none)) false machine)
      fun _ machine => ¬ oracle.Writes plugins ∧ Spared (plugins .target) machine := by
    intro read same
    refine leaves_attemptIf (fun succeeds machine laid => ⟨?_, ?_⟩)
      fun fails machine laid => ⟨fun writes => ?_, ?_⟩
    · simpa [same] using succeeds
    · have placed : Laid (Function.update plugins .stage (some fun _ => none)) false
          (machine.place .stage (some fun _ => none)) :=
        ⟨by rw [Machine.place, laid.plugins_eq], laid.touched_eq⟩
      exact placed.note_harmless rfl true
    · simp [same, writes.creates, writes.vacant] at fails
    · exact laid.spared.note rfl false
  have rendered : Leaves
      (Program.each (fun file => writeStaged oracle (.write file.1) file.1 file.2)
        oracle.clone.files)
      (Laid (Function.update plugins .stage (some fun _ => none)) false) _
      fun _ machine => ¬ oracle.Writes plugins ∧ Spared (plugins .target) machine :=
    (laid_writeEach (fun _ => rfl) oracle.clone.files _).weaken (fun _ laid => laid)
      (fun _ _ left => left) fun _ _ left => ⟨fun writes => left.1 writes.renders, left.2⟩
  have copied : Leaves
      (Program.each (fun file => writeStaged oracle (.copy file.1) file.1 file.2)
        oracle.clone.copied)
      (Laid (Function.update plugins .stage
        (some (writeAll oracle.clone.files fun _ => none))) false) _
      fun _ machine => ¬ oracle.Writes plugins ∧ Spared (plugins .target) machine :=
    (laid_writeEach (fun _ => rfl) oracle.clone.copied _).weaken (fun _ laid => laid)
      (fun _ _ left => left) fun _ _ left => ⟨fun writes => left.1 writes.copies, left.2⟩
  have builds : ∀ read : Machine, read.plugins = plugins → Leaves
      (do
        attemptIf .createStage (!oracle.fails .createStage && (read.plugins .stage).isNone)
          fun machine => machine.place .stage (some fun _ => none)
        Program.each (fun file => writeStaged oracle (.write file.1) file.1 file.2)
          oracle.clone.files
        Program.each (fun file => writeStaged oracle (.copy file.1) file.1 file.2)
          oracle.clone.copied)
      (Laid plugins false)
      (fun _ machine => oracle.Writes plugins ∧
        Laid (Function.update plugins .stage (some oracle.clone.installed)) false machine)
      fun _ machine => ¬ oracle.Writes plugins ∧ Spared (plugins .target) machine := by
    intro read same
    apply (created read same).bind
    intro _
    apply leaves_given
    rintro ⟨creates, vacant⟩
    apply rendered.bind
    intro _
    apply leaves_given
    intro renders
    exact copied.weaken (fun _ laid => laid)
      (fun _ _ left => ⟨⟨creates, vacant, renders, left.1⟩, left.2⟩) fun _ _ left => left
  apply leaves_read.bind
  intro read machine holds
  exact builds read (by rw [holds.1, holds.2.plugins_eq]) machine holds.2

end Build

/-- The places once the temporary ones are cleared. -/
def Oracle.prepared (oracle : Oracle) (plugins : Place → Option Directory) :
    Place → Option Directory :=
  oracle.clears .temporaries .rollback (oracle.clears .temporaries .stage plugins)

/-- The places once the clone is built. -/
def Oracle.built (oracle : Oracle) (plugins : Place → Option Directory) :
    Place → Option Directory :=
  Function.update (oracle.prepared plugins) .stage (some oracle.clone.installed)

/-- A directory is moved. -/
def renamed (source destination : Place) (plugins : Place → Option Directory) :
    Place → Option Directory :=
  Function.update (Function.update plugins destination (plugins source)) source none

/-- Everything up to the swap succeeds. -/
structure Oracle.Builds (oracle : Oracle) (plugins : Place → Option Directory) : Prop where
  /-- The plugin directory is ours to take. -/
  claims : oracle.Claims plugins
  /-- The directory of the plugins is there. -/
  directory : oracle.fails .createPlugins = false
  /-- A stage that is found can be removed. -/
  stage : oracle.sees .temporaries plugins .stage = true →
    oracle.fails (.remove .temporaries .stage) = false
  /-- A rollback that is found can be removed. -/
  rollback : oracle.sees .temporaries plugins .rollback = true →
    oracle.fails (.remove .temporaries .rollback) = false
  /-- The stage can be filled. -/
  writes : oracle.Writes (oracle.prepared plugins)

/-- A previous clone is seen, and set aside. -/
structure Oracle.SetsAside (oracle : Oracle) (plugins : Place → Option Directory) : Prop where
  /-- The new clone is built. -/
  builds : oracle.Builds plugins
  /-- The previous one is found. -/
  seen : oracle.sees .previous plugins .target = true
  /-- It can be moved. -/
  moved : oracle.fails .setAside = false

/-- No previous clone is seen, and the new one is moved to where it belongs. -/
structure Oracle.Places (oracle : Oracle) (plugins : Place → Option Directory) : Prop where
  /-- The new clone is built. -/
  builds : oracle.Builds plugins
  /-- No previous one is found. -/
  unseen : oracle.sees .previous plugins .target = false
  /-- The new one can be moved. -/
  swaps : oracle.fails .swap = false

/-- The ways a swap ends, if a clone that is put back is put back. -/
inductive SwapOutcome (oracle : Oracle) (plugins : Place → Option Directory) (machine : Machine) :
    Except SetupError Unit → Prop
  /-- The previous clone never moved. -/
  | unswapped (error : SetupError) (stays : ¬ oracle.SetsAside plugins)
      (unplaced : ¬ oracle.Places plugins) (spared : Spared (plugins .target) machine) :
      SwapOutcome oracle plugins machine (.error error)
  /-- The previous clone is back. -/
  | restored (error : SetupError) (aside : oracle.SetsAside plugins)
      (fails : oracle.fails .swap = true) (target_eq : machine.plugins .target = plugins .target)
      (touched_eq : touched machine.trace = true) :
      SwapOutcome oracle plugins machine (.error error)
  /-- The new clone is in place, but the previous one could not be deleted. -/
  | encumbered (error : SetupError) (aside : oracle.SetsAside plugins)
      (swaps : oracle.fails .swap = false)
      (looks : oracle.fails (.look .leftover .rollback) = false)
      (fails : oracle.fails (.remove .leftover .rollback) = true)
      (target_eq : machine.plugins .target = some oracle.clone.installed)
      (touched_eq : touched machine.trace = true) :
      SwapOutcome oracle plugins machine (.error error)
  /-- The new clone is in place, and the previous one gone if it was seen. -/
  | replaced (aside : oracle.SetsAside plugins) (swaps : oracle.fails .swap = false)
      (removes : oracle.fails (.look .leftover .rollback) = false →
        oracle.fails (.remove .leftover .rollback) = false)
      (target_eq : machine.plugins .target = some oracle.clone.installed)
      (stage_eq : machine.plugins .stage = none)
      (rollback_eq : machine.plugins .rollback =
        if oracle.fails (.look .leftover .rollback) then plugins .target else none)
      (touched_eq : touched machine.trace = true) : SwapOutcome oracle plugins machine (.ok ())
  /-- The new clone is in place, and nothing was set aside. -/
  | placed (places : oracle.Places plugins)
      (target_eq : machine.plugins .target = some oracle.clone.installed)
      (stage_eq : machine.plugins .stage = none)
      (rollback_eq : machine.plugins .rollback = oracle.prepared plugins .rollback)
      (touched_eq : touched machine.trace = true) : SwapOutcome oracle plugins machine (.ok ())

section Swap

variable {oracle : Oracle} {plugins : Place → Option Directory} {flag : Bool} {op : Op}

theorem Oracle.clears_of_ne {site : Site} {place other : Place} (different : other ≠ place) :
    oracle.clears site place plugins other = plugins other := by
  rw [Oracle.clears]
  split
  · exact Function.update_of_ne different ..
  · rfl

theorem Oracle.sees_congr {site : Site} {place : Place} {plugins' : Place → Option Directory}
    (same : plugins place = plugins' place) :
    oracle.sees site plugins place = oracle.sees site plugins' place := by
  rw [Oracle.sees, Oracle.sees, same]

theorem Oracle.prepared_target : oracle.prepared plugins .target = plugins .target :=
  (clears_of_ne (by decide)).trans (clears_of_ne (by decide))

theorem Oracle.prepared_rollback :
    oracle.prepared plugins .rollback = none ↔
      plugins .rollback = none ∨ oracle.fails (.look .temporaries .rollback) = false := by
  have same : oracle.clears .temporaries .stage plugins .rollback = plugins .rollback :=
    clears_of_ne (by decide)
  rw [Oracle.prepared, Oracle.clears, Oracle.sees, same]
  cases here : plugins .rollback with
  | none => simp [same, here]
  | some files =>
      cases fails : oracle.fails (.look .temporaries .rollback) with
      | false => simp
      | true => simp [same, here]

theorem Oracle.built_target : oracle.built plugins .target = plugins .target :=
  (Function.update_of_ne (by decide) ..).trans prepared_target

theorem Oracle.built_rollback :
    oracle.built plugins .rollback = oracle.prepared plugins .rollback :=
  Function.update_of_ne (by decide) ..

theorem Laid.spared_built {machine : Machine} (laid : Laid (oracle.built plugins) false machine) :
    Spared (plugins .target) machine := by
  have spared := laid.spared
  rwa [Oracle.built_target] at spared

theorem laid_rename {source destination : Place} :
    Leaves (rename oracle op source destination) (Laid plugins flag)
      (fun _ machine => oracle.fails op = false ∧
        Laid (renamed source destination plugins) (flag || op.touches) machine)
      fun _ machine => oracle.fails op = true ∧ Laid plugins flag machine :=
  laid_attempt (renamed source destination) fun _ => ⟨rfl, rfl⟩

/-- The clean-up of a step before the swap. -/
theorem leaves_unstage {site : Site} {failed : Machine → Prop}
    (spares : ∀ machine, Spared (plugins .target) machine → failed machine) :
    Leaves (removeIfPresent oracle site .stage) (Spared (plugins .target)) (fun _ => failed)
      fun _ => failed :=
  (keeps_spared (by decide)).weaken (fun _ spared => spared) (fun _ => spares) fun _ => spares

/-- The new clone is moved to a place where nothing is seen. -/
theorem leaves_placed (builds : oracle.Builds plugins)
    (unseen : oracle.sees .previous plugins .target = false) :
    Leaves (orElse (rename oracle .swap .stage .target) (removeIfPresent oracle .unswapped .stage))
      (Laid (oracle.built plugins) false)
      (fun _ machine => SwapOutcome oracle plugins machine (.ok ()))
      fun error machine => SwapOutcome oracle plugins machine (.error error) := by
  have moves : Leaves (rename oracle .swap .stage .target) (Laid (oracle.built plugins) false)
      (fun _ machine => SwapOutcome oracle plugins machine (.ok ()))
      fun _ machine => oracle.fails .swap = true ∧ Spared (plugins .target) machine := by
    refine laid_rename.weaken (fun _ laid => laid) (fun _ machine left => ?_)
      fun _ machine left => ⟨left.1, left.2.spared_built⟩
    obtain ⟨swaps, laid⟩ := left
    apply SwapOutcome.placed ⟨builds, unseen, swaps⟩
    · rw [laid.plugins_eq]
      rfl
    · rw [laid.plugins_eq]
      exact Function.update_self ..
    · rw [laid.plugins_eq]
      exact Oracle.built_rollback
    · exact laid.touched_eq
  apply leaves_orElse moves
  intro error
  apply leaves_given
  intro fails
  apply leaves_unstage
  intro machine spared
  refine .unswapped error (fun aside => ?_) (fun places => ?_) spared
  · exact absurd aside.seen (by simp [unseen])
  · exact absurd places.swaps (by simp [fails])

theorem Oracle.renamed_rollback :
    renamed .target .rollback (oracle.built plugins) .rollback = plugins .target :=
  Oracle.built_target

theorem Oracle.swapped_rollback :
    renamed .stage .target (renamed .target .rollback (oracle.built plugins)) .rollback =
      plugins .target :=
  Oracle.renamed_rollback

theorem Oracle.swapped_target :
    renamed .stage .target (renamed .target .rollback (oracle.built plugins)) .target =
      some oracle.clone.installed := rfl

theorem Oracle.swapped_stage :
    renamed .stage .target (renamed .target .rollback (oracle.built plugins)) .stage = none := rfl

/-- A swap that fails puts the previous clone back. -/
theorem leaves_swapped (aside : oracle.SetsAside plugins)
    (puts_back : oracle.fails .putBack = false) :
    Leaves
      (orElse (rename oracle .swap .stage .target) do
        let _ ← (removeIfPresent oracle .unswapped .stage).catching
        rename oracle .putBack .rollback .target)
      (Laid (renamed .target .rollback (oracle.built plugins)) true)
      (fun _ machine => oracle.fails .swap = false ∧
        Laid (renamed .stage .target (renamed .target .rollback (oracle.built plugins))) true
          machine)
      fun error machine => SwapOutcome oracle plugins machine (.error error) := by
  refine leaves_orElse laid_rename fun error => ?_
  apply leaves_given
  intro fails
  have cleans : Leaves (removeIfPresent oracle .unswapped .stage).catching
      (Laid (renamed .target .rollback (oracle.built plugins)) true)
      (fun _ machine => machine.plugins .rollback = plugins .target)
      fun _ machine => SwapOutcome oracle plugins machine (.error error) := by
    refine (laid_removeIfPresent rfl).catching (fun _ machine left => ?_) fun _ machine left => ?_
    · rw [left.2.plugins_eq, Oracle.clears_of_ne (by decide), Oracle.renamed_rollback]
    · rw [left.2.plugins_eq, Oracle.renamed_rollback]
  apply cleans.bind
  intro _
  refine leaves_attempt (fun _ machine held => ?_) fun fails => absurd fails (by simp [puts_back])
  apply SwapOutcome.restored error aside fails
  · exact held
  · exact (touched_concat ..).trans (by simp [Op.touches])

/-- The previous clone is deleted once the new one is in place. -/
theorem leaves_leftover (aside : oracle.SetsAside plugins) (swaps : oracle.fails .swap = false) :
    Leaves (removeIfPresent oracle .leftover .rollback)
      (Laid (renamed .stage .target (renamed .target .rollback (oracle.built plugins))) true)
      (fun _ machine => SwapOutcome oracle plugins machine (.ok ()))
      fun error machine => SwapOutcome oracle plugins machine (.error error) := by
  have present : (plugins .target).isSome = true := by
    have seen := aside.seen
    rw [Oracle.sees, Bool.and_eq_true] at seen
    exact seen.1
  have sees : oracle.sees .leftover
      (renamed .stage .target (renamed .target .rollback (oracle.built plugins))) .rollback =
        !oracle.fails (.look .leftover .rollback) := by
    rw [Oracle.sees, Oracle.swapped_rollback, present, Bool.true_and]
  refine (laid_removeIfPresent rfl).weaken (fun _ laid => laid) (fun _ machine left => ?_)
    fun error machine left => ?_
  · obtain ⟨removes, laid⟩ := left
    rw [sees, Bool.not_eq_true'] at removes
    apply SwapOutcome.replaced aside swaps removes
    · rw [laid.plugins_eq, Oracle.clears_of_ne (by decide), Oracle.swapped_target]
    · rw [laid.plugins_eq, Oracle.clears_of_ne (by decide), Oracle.swapped_stage]
    · rw [laid.plugins_eq, Oracle.clears, sees]
      cases oracle.fails (.look .leftover .rollback) with
      | false => simp
      | true => simpa using Oracle.swapped_rollback
    · exact laid.touched_eq
  · obtain ⟨⟨seen, fails⟩, laid⟩ := left
    rw [sees, Bool.not_eq_true'] at seen
    apply SwapOutcome.encumbered error aside swaps seen fails
    · rw [laid.plugins_eq, Oracle.swapped_target]
    · exact laid.touched_eq

/-- The previous clone is set aside, and the new one swapped in. -/
theorem leaves_replaced (builds : oracle.Builds plugins)
    (seen : oracle.sees .previous plugins .target = true)
    (puts_back : oracle.fails .putBack = false) :
    Leaves
      (do
        orElse (rename oracle .setAside .target .rollback)
          (removeIfPresent oracle .unstaged .stage)
        orElse (rename oracle .swap .stage .target) do
          let _ ← (removeIfPresent oracle .unswapped .stage).catching
          rename oracle .putBack .rollback .target
        removeIfPresent oracle .leftover .rollback)
      (Laid (oracle.built plugins) false)
      (fun _ machine => SwapOutcome oracle plugins machine (.ok ()))
      fun error machine => SwapOutcome oracle plugins machine (.error error) := by
  have sets : Leaves
      (orElse (rename oracle .setAside .target .rollback) (removeIfPresent oracle .unstaged .stage))
      (Laid (oracle.built plugins) false)
      (fun _ machine => oracle.fails .setAside = false ∧
        Laid (renamed .target .rollback (oracle.built plugins)) true machine)
      fun error machine => SwapOutcome oracle plugins machine (.error error) := by
    refine leaves_orElse laid_rename fun error => ?_
    apply leaves_given
    intro fails
    refine (leaves_unstage fun machine spared => ?_).weaken
      (fun _ laid => laid.spared_built) (fun _ _ holds => holds) fun _ _ holds => holds
    refine .unswapped error (fun aside => ?_) (fun places => ?_) spared
    · exact absurd aside.moved (by simp [fails])
    · exact absurd places.unseen (by simp [seen])
  apply sets.bind
  intro _
  apply leaves_given
  intro moved
  apply (leaves_swapped ⟨builds, seen, moved⟩ puts_back).bind
  intro _
  apply leaves_given
  intro swaps
  exact leaves_leftover ⟨builds, seen, moved⟩ swaps

theorem leaves_writeClone_outcome (puts_back : oracle.fails .putBack = false) :
    Leaves (writeClone oracle) (Laid plugins false)
      (fun _ machine => SwapOutcome oracle plugins machine (.ok ()))
      fun error machine => SwapOutcome oracle plugins machine (.error error) := by
  have unbuilt : ∀ error machine, ¬ oracle.Builds plugins → Spared (plugins .target) machine →
      SwapOutcome oracle plugins machine (.error error) := fun error machine fails spared =>
    .unswapped error (fun aside => fails aside.builds) (fun places => fails places.builds) spared
  have unstaged : oracle.sees .temporaries (oracle.clears .temporaries .stage plugins) .rollback =
      oracle.sees .temporaries plugins .rollback :=
    Oracle.sees_congr (Oracle.clears_of_ne (by decide))
  have claims : Leaves (claimTarget oracle) (Laid plugins false) _
      fun error machine => SwapOutcome oracle plugins machine (.error error) :=
    laid_claimTarget.weaken (fun _ laid => laid) (fun _ _ left => left) fun error machine left =>
      unbuilt error machine (fun builds => left.1 builds.claims) left.2.spared
  have directory : Leaves (check oracle .createPlugins) (Laid plugins false) _
      fun error machine => SwapOutcome oracle plugins machine (.error error) :=
    (laid_check rfl).weaken (fun _ laid => laid) (fun _ _ left => left) fun error machine left =>
      unbuilt error machine (fun builds => by simp [builds.directory] at left) left.2.spared
  have stage : Leaves (removeIfPresent oracle .temporaries .stage) (Laid plugins false) _
      fun error machine => SwapOutcome oracle plugins machine (.error error) :=
    (laid_removeIfPresent rfl).weaken (fun _ laid => laid) (fun _ _ left => left)
      fun error machine left => unbuilt error machine
        (fun builds => by simp [builds.stage left.1.1] at left) left.2.spared
  have rollback : Leaves (removeIfPresent oracle .temporaries .rollback)
      (Laid (oracle.clears .temporaries .stage plugins) false) _
      fun error machine => SwapOutcome oracle plugins machine (.error error) :=
    (laid_removeIfPresent rfl).weaken (fun _ laid => laid) (fun _ _ left => left)
      fun error machine left => unbuilt error machine
        (fun builds => by simp [builds.rollback (unstaged ▸ left.1.1)] at left)
        (by simpa [Oracle.clears_of_ne] using left.2.spared)
  have built : Leaves
      (orElse (build oracle) (removeIfPresent oracle .unbuilt .stage))
      (Laid (oracle.prepared plugins) false)
      (fun _ machine => oracle.Writes (oracle.prepared plugins) ∧
        Laid (oracle.built plugins) false machine)
      fun error machine => SwapOutcome oracle plugins machine (.error error) := by
    refine leaves_orElse laid_build fun error => ?_
    apply leaves_given
    intro fails
    rw [Oracle.prepared_target]
    exact leaves_unstage fun machine spared =>
      unbuilt error machine (fun builds => fails builds.writes) spared
  apply claims.bind
  intro _
  apply leaves_given
  intro claims
  apply directory.bind
  intro _
  apply leaves_given
  intro directory
  apply stage.bind
  intro _
  apply leaves_given
  intro stage
  apply rollback.bind
  intro _
  apply leaves_given
  intro rollback
  rw [unstaged] at rollback
  apply built.bind
  intro _
  apply leaves_given
  intro writes
  apply laid_look.bind
  intro found
  apply leaves_given
  intro told
  rw [Oracle.sees_congr Oracle.built_target] at told
  have builds : oracle.Builds plugins := ⟨claims, directory, stage, rollback, writes⟩
  cases found with
  | false => exact leaves_placed builds told.symm
  | true => exact leaves_replaced builds told.symm puts_back

end Swap

/-- What a swap promises: a failure leaves the plugin directory as it was, a success leaves the new
clone and nothing beside it, and a directory that is not a generated clone is left alone. -/
structure NeverHalf (clone : Clone) (target : Option Directory) (result : Except SetupError Unit)
    (final : Machine) : Prop where
  /-- On failure, the plugin directory is as it was. -/
  failure : ∀ error, result = .error error → final.plugins .target = target
  /-- On success, it is the whole clone, and nothing is left beside it. -/
  success : result = .ok () → final.plugins .target = some clone.installed ∧
    final.plugins .stage = none ∧ final.plugins .rollback = none
  /-- What is not a generated clone is left alone. -/
  foreign : target ≠ none → ¬ Generated target →
    touched final.trace = false ∧ final.plugins .target = target

/-- When it keeps the promise: only a generated clone is set aside, and once the new one is in
place, the old one is looked at and deleted, unless that fails and the two are the same; and where
no clone was seen, there was none but a generated one, and nothing is left aside from before. -/
structure Oracle.SwapsWhole (oracle : Oracle) (plugins : Place → Option Directory) : Prop where
  /-- What is set aside is a generated clone; after the swap it is found, and removed unless it is
  the same as the new one. -/
  aside : oracle.SetsAside plugins → Generated (plugins .target) ∧
    (oracle.fails .swap = false → oracle.fails (.look .leftover .rollback) = false ∧
      (oracle.fails (.remove .leftover .rollback) = true →
        plugins .target = some oracle.clone.installed))
  /-- Where none was found there was none, and no rollback is left. -/
  placed : oracle.Places plugins → (plugins .target = none ∨ Generated (plugins .target)) ∧
    (plugins .rollback = none ∨ oracle.fails (.look .temporaries .rollback) = false)

section NeverHalf

variable {oracle : Oracle} {plugins : Place → Option Directory} {start machine : Machine}
  {result : Except SetupError Unit}

theorem Oracle.SetsAside.present (aside : oracle.SetsAside plugins) : plugins .target ≠ none := by
  have seen := aside.seen
  rw [Oracle.sees, Bool.and_eq_true, Option.isSome_iff_ne_none] at seen
  exact seen.1

theorem Oracle.SetsAside.not_places (aside : oracle.SetsAside plugins) :
    ¬ oracle.Places plugins := by
  intro places
  have seen := aside.seen
  rw [places.unseen] at seen
  cases seen

/-- What is touched was absent or generated. -/
theorem NeverHalf.domestic {clone : Clone} {target : Option Directory}
    (promise : NeverHalf clone target result machine) (acted : touched machine.trace = true) :
    target = none ∨ Generated target := by
  by_contra foreign
  rw [not_or] at foreign
  have untouched := (promise.foreign foreign.1 foreign.2).1
  rw [acted] at untouched
  cases untouched

theorem NeverHalf.generated {clone : Clone} (aside : oracle.SetsAside plugins)
    (promise : NeverHalf clone (plugins .target) result machine)
    (acted : touched machine.trace = true) : Generated (plugins .target) :=
  (promise.domestic acted).resolve_left aside.present

theorem SwapOutcome.never_half_iff (outcome : SwapOutcome oracle plugins machine result) :
    NeverHalf oracle.clone (plugins .target) result machine ↔ oracle.SwapsWhole plugins := by
  cases outcome with
  | unswapped error stays unplaced spared =>
      exact iff_of_true
        ⟨fun _ _ => spared.target_eq, nofun, fun _ _ => ⟨spared.untouched, spared.target_eq⟩⟩
        ⟨fun aside => absurd aside stays, fun places => absurd places unplaced⟩
  | restored error aside fails target_eq acted =>
      constructor
      · intro promise
        refine ⟨fun _ => ⟨promise.generated aside acted, fun swaps => ?_⟩,
          fun places => absurd places aside.not_places⟩
        rw [fails] at swaps
        cases swaps
      · intro whole
        exact ⟨fun _ _ => target_eq, nofun, fun _ foreign => absurd (whole.aside aside).1 foreign⟩
  | encumbered error aside swaps looks fails target_eq acted =>
      constructor
      · intro promise
        refine ⟨fun _ => ⟨promise.generated aside acted, fun _ => ⟨looks, fun _ => ?_⟩⟩,
          fun places => absurd places aside.not_places⟩
        rw [← promise.failure error rfl, target_eq]
      · intro whole
        obtain ⟨generated, same⟩ := whole.aside aside
        refine ⟨fun _ _ => ?_, nofun, fun _ foreign => absurd generated foreign⟩
        rw [target_eq, (same swaps).2 fails]
  | replaced aside swaps removes target_eq stage_eq rollback_eq acted =>
      constructor
      · intro promise
        have gone := (promise.success rfl).2.2
        rw [rollback_eq] at gone
        have looks : oracle.fails (.look .leftover .rollback) = false := by
          by_contra fails
          rw [Bool.not_eq_false] at fails
          rw [fails, if_pos rfl] at gone
          exact aside.present gone
        refine ⟨fun _ => ⟨promise.generated aside acted, fun _ => ⟨looks, fun fails => ?_⟩⟩,
          fun places => absurd places aside.not_places⟩
        rw [removes looks] at fails
        cases fails
      · intro whole
        obtain ⟨generated, same⟩ := whole.aside aside
        refine ⟨nofun, fun _ => ⟨target_eq, stage_eq, ?_⟩,
          fun _ foreign => absurd generated foreign⟩
        rw [rollback_eq, (same swaps).1, if_neg Bool.false_ne_true]
  | placed places target_eq stage_eq rollback_eq acted =>
      constructor
      · intro promise
        refine ⟨fun aside => absurd places aside.not_places, fun _ =>
          ⟨promise.domestic acted, ?_⟩⟩
        rw [← Oracle.prepared_rollback, ← rollback_eq]
        exact (promise.success rfl).2.2
      · intro whole
        obtain ⟨domestic, cleared⟩ := whole.placed places
        refine ⟨nofun, fun _ => ⟨target_eq, stage_eq, ?_⟩, fun present foreign => ?_⟩
        · rw [rollback_eq, Oracle.prepared_rollback]
          exact cleared
        · exact absurd domestic (not_or.mpr ⟨present, foreign⟩)

/-- A swap keeps its promise exactly under these conditions, whichever steps fail, if a clone that
is put back is put back. -/
theorem writeClone_never_half_iff (untraced : start.trace = [])
    (puts_back : oracle.fails .putBack = false) :
    NeverHalf oracle.clone (start.plugins .target) (writeClone oracle start).1
        (writeClone oracle start).2 ↔ oracle.SwapsWhole start.plugins := by
  have ends := (leaves_writeClone_outcome puts_back).ends
    (⟨rfl, by rw [untraced]; rfl⟩ : Laid start.plugins false start)
  have outcome : SwapOutcome oracle start.plugins (writeClone oracle start).2
      (writeClone oracle start).1 := by
    revert ends
    cases (writeClone oracle start).1 with
    | ok _ => exact fun ends => ends
    | error _ => exact fun ends => ends
  exact outcome.never_half_iff

end NeverHalf

/-- A machine with a generated clone that differs from the one that is installed. -/
def olderMachine : Machine :=
  { bareMachine with
    plugins := Function.update bareMachine.plugins .target
      (some fun name => if name = serviceFile then some presenceMarker else none) }

/-- A swap that fails is taken back. -/
theorem writeClone_puts_back :
    NeverHalf (failing .swap).clone (olderMachine.plugins .target)
      (writeClone (failing .swap) olderMachine).1 (writeClone (failing .swap) olderMachine).2 := by
  have generated : Generated (olderMachine.plugins .target) :=
    ⟨_, presenceMarker, rfl, rfl, List.infix_rfl⟩
  refine (writeClone_never_half_iff rfl rfl).mpr ⟨fun _ => ⟨generated, fun swaps => ?_⟩,
    fun places => ?_⟩
  · exact absurd swaps (by decide)
  · exact absurd places.swaps (by decide)

/-- The new clone is in place and yet the swap fails, where the old one cannot be deleted. -/
theorem writeClone_fails_after_swap :
    olderMachine.trace = [] ∧ (failing (.remove .leftover .rollback)).fails .putBack = false ∧
      (writeClone (failing (.remove .leftover .rollback)) olderMachine).1 =
        .error (.step (.remove .leftover .rollback)) ∧
      ¬ NeverHalf (failing (.remove .leftover .rollback)).clone (olderMachine.plugins .target)
        (writeClone (failing (.remove .leftover .rollback)) olderMachine).1
        (writeClone (failing (.remove .leftover .rollback)) olderMachine).2 := by
  refine ⟨rfl, rfl, rfl, fun promise => ?_⟩
  have same := congrArg (fun directory => directory.bind fun files => files manifestFile)
    (promise.failure _ rfl)
  exact absurd same (by decide +kernel)

end PresenceUnlock.Cli.Setup
