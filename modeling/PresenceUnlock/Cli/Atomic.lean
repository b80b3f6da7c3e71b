import Mathlib.Logic.Function.Basic
import PresenceUnlock.Cli.Devices
import PresenceUnlock.Execution

/-!
# Updating a file

`update_atomic` takes a lock, reads the target, renders it, stages the result in a temporary file,
reads the target again, and renames.  Every call of the operating system is a step, any of which can
fail.  The steps of any number of calls interleave, and other programs edit the target.
-/

namespace PresenceUnlock.Cli.Atomic

open RustStd

/-- The target and the contents of every file; a file is known by its device and inode. -/
structure Disk (Source : Type) where
  /-- The file at the target, if there is one. -/
  target : Option Nat
  /-- The content of every file. -/
  data : Nat → Source

/-- What the target holds. -/
def Disk.content {Source : Type} (disk : Disk Source) : Option Source := disk.target.map disk.data

/-- What a call knows of the target. -/
inductive Snapshot (Source : Type)
  | missing
  | file (id : Nat) (contents : Source)
  deriving DecidableEq

/-- What a look at the target sees. -/
def Disk.snapshot {Source : Type} (disk : Disk Source) : Snapshot Source :=
  match disk.target with
  | none => .missing
  | some id => .file id (disk.data id)

/-- Where a snapshot is: about to open the target, to read the open file, or to ask for its
identity. -/
inductive Reading (Source : Type)
  | opening
  | reading (id : Nat)
  | stating (id : Nat) (contents : Source)

namespace Snapshot

variable {Source : Type}

/-- The content that was seen. -/
def content : Snapshot Source → Option Source
  | .missing => none
  | .file _ contents => some contents

/-- The text that is rendered. -/
def source (missing : Source) (snapshot : Snapshot Source) : Source :=
  snapshot.content.getD missing

end Snapshot

@[simp] theorem Disk.content_snapshot {Source : Type} (disk : Disk Source) :
    disk.snapshot.content = disk.content := by
  rw [snapshot, content]
  cases disk.target <;> rfl

/-- Why a call fails. -/
inductive Failure
  | io (message : Text)
  | timedOut
  | notLocked (message : Text)
  | render (error : EditError)
  | conflict

/-- The message of a failed call. -/
def Failure.message (path : Text) (render : EditError → Text) : Failure → Text
  | .io message => message
  | .timedOut => "timed out waiting to update ".toList ++ path ++ "; retry the command".toList
  | .notLocked message => "cannot lock ".toList ++ path ++ ": ".toList ++ message
  | .render error => render error
  | .conflict =>
      path ++ " changed while rendering; retry the command without overwriting that edit".toList

/-- What a call is to do. -/
structure Request (Source : Type) where
  /-- What a missing file is read as. -/
  missing : Source
  /-- What the call makes of a content. -/
  render : Source → Except EditError Source

/-- A rendering that differs from its source, before it is in place. -/
structure Draft (Source : Type) where
  /-- The snapshot it is made from. -/
  before : Snapshot Source
  /-- What is to be written. -/
  rendered : Source

/-- What a call is about to do; a call begins with the directory.  The temporary file is the call's
own, so what it holds is kept with the call until the rename. -/
inductive Phase (Source : Type)
  | creatingDirectory
  | openingLock
  | locking
  | first (reading : Reading Source)
  | rendering (before : Snapshot Source)
  | creatingTemporary (draft : Draft Source)
  | writing (draft : Draft Source) (temporary : Nat)
  | settingPermissions (draft : Draft Source) (temporary : Nat)
  | syncing (draft : Draft Source) (temporary : Nat)
  | final (draft : Draft Source) (temporary : Nat) (reading : Reading Source)
  | comparing (draft : Draft Source) (temporary : Nat) (after : Snapshot Source)
  | replacing (draft : Draft Source) (temporary : Nat)
  | openingDirectory
  | syncingDirectory
  | removingTemporary (failure : Failure)
  | unlocking (result : Except Failure Unit)
  | returned (result : Except Failure Unit)
  | crashed

/-- What the world adds to a step: an error, whether the deadline has passed, and the identity of a
file that is created. -/
structure Chance where
  /-- Why the step fails, if it does. -/
  error : Option Text
  /-- The time for the lock is over. -/
  expired : Bool
  /-- The file that is created. -/
  temporary : Nat

/-- The next call of `snapshot`. -/
def Reading.next {Source : Type} (disk : Disk Source) :
    Reading Source → Reading Source ⊕ Snapshot Source
  | .opening =>
      match disk.target with
      | none => .inr .missing
      | some id => .inl (.reading id)
  | .reading id => .inl (.stating id (disk.data id))
  | .stating id contents => .inr (.file id contents)

/-- A step that fails on an error. -/
def Chance.attempt {Source : Type} (chance : Chance) (done : Phase Source)
    (failed : Failure → Phase Source) : Phase Source :=
  match chance.error with
  | none => done
  | some message => failed (.io message)

/-- The end of a call that does not hold the lock. -/
def giveUp {Source : Type} (failure : Failure) : Phase Source := .returned (.error failure)

/-- The end of a call that still holds the lock. -/
def fail {Source : Type} (failure : Failure) : Phase Source := .unlocking (.error failure)

section Step

variable {Source : Type} [DecidableEq Source]

/-- Render the source, and go on only with a rendering that differs from it. -/
def render (request : Request Source) (before : Snapshot Source) : Phase Source :=
  match request.render (before.source request.missing) with
  | .error error => fail (.render error)
  | .ok rendered =>
      if rendered ≠ before.source request.missing then .creatingTemporary ⟨before, rendered⟩
      else .unlocking (.ok ())

/-- What follows a step that neither takes the lock nor replaces the target. -/
def next (request : Request Source) (disk : Disk Source) (chance : Chance) :
    Phase Source → Phase Source
  | .creatingDirectory => chance.attempt .openingLock giveUp
  | .openingLock => chance.attempt .locking giveUp
  | .first reading => chance.attempt ((reading.next disk).elim .first .rendering) fail
  | .rendering before => render request before
  | .creatingTemporary draft => chance.attempt (.writing draft chance.temporary) fail
  | .writing draft temporary =>
      chance.attempt (.settingPermissions draft temporary) .removingTemporary
  | .settingPermissions draft temporary =>
      chance.attempt (.syncing draft temporary) .removingTemporary
  | .syncing draft temporary =>
      chance.attempt (.final draft temporary .opening) .removingTemporary
  | .final draft temporary reading =>
      chance.attempt
        ((reading.next disk).elim (.final draft temporary) (.comparing draft temporary))
        .removingTemporary
  | .comparing draft temporary after =>
      if after ≠ draft.before then .removingTemporary .conflict else .replacing draft temporary
  | .openingDirectory => chance.attempt .syncingDirectory .removingTemporary
  | .syncingDirectory => chance.attempt (.unlocking (.ok ())) .removingTemporary
  | .removingTemporary failure => fail failure
  | phase => phase

end Step

/-- The target, the lock beside it, and the calls. -/
structure System (Source Pid : Type) where
  /-- The disk. -/
  disk : Disk Source
  /-- The call that holds the lock. -/
  lock : Option Pid
  /-- Where every call is. -/
  phase : Pid → Phase Source

/-- A step of a call, the end of its process, or an edit by another program. -/
inductive Event (Source Pid : Type)
  | step (pid : Pid) (chance : Chance)
  | crash (pid : Pid)
  | external (disk : Disk Source)

namespace System

variable {Source Pid : Type} [DecidableEq Source] [DecidableEq Pid]

/-- A call moves on. -/
def goto (system : System Source Pid) (pid : Pid) (phase : Phase Source) : System Source Pid :=
  { system with phase := Function.update system.phase pid phase }

/-- The lock is released when the process that holds it closes it. -/
def unlock (system : System Source Pid) (pid : Pid) : System Source Pid :=
  if system.lock = some pid then { system with lock := none } else system

/-- Put a temporary file in the place of the target. -/
def rename (disk : Disk Source) (temporary : Nat) (contents : Source) : Disk Source where
  target := some temporary
  data := Function.update disk.data temporary contents

/-- The next step of a call. -/
def call (requests : Pid → Request Source) (system : System Source Pid) (pid : Pid)
    (chance : Chance) : System Source Pid :=
  match system.phase pid with
  | .locking =>
      match chance.error, system.lock with
      | some message, _ => system.goto pid (giveUp (.notLocked message))
      | none, none => { system.goto pid (.first .opening) with lock := some pid }
      | none, some _ =>
          if chance.expired then system.goto pid (giveUp .timedOut) else system
  | .replacing draft temporary =>
      match chance.error with
      | some message => system.goto pid (.removingTemporary (.io message))
      | none =>
          { system.goto pid .openingDirectory with
            disk := rename system.disk temporary draft.rendered }
  | .unlocking result => (system.unlock pid).goto pid (.returned result)
  | phase => system.goto pid (next (requests pid) system.disk chance phase)

/-- One step. -/
def step (requests : Pid → Request Source) (system : System Source Pid) :
    Event Source Pid → System Source Pid
  | .step pid chance => system.call requests pid chance
  | .crash pid => (system.unlock pid).goto pid .crashed
  | .external disk => { system with disk }

end System

section Knowledge

variable {Source : Type}

/-- The calls that hold the lock. -/
def Phase.Locked : Phase Source → Prop
  | .creatingDirectory | .openingLock | .locking | .returned _ | .crashed => False
  | _ => True

/-- From the opening of the target for the second snapshot to the rename. -/
def Phase.Window : Phase Source → Prop
  | .final _ _ .opening => False
  | .final _ _ _ | .comparing _ _ _ | .replacing _ _ => True
  | _ => False

/-- What a snapshot in progress has found is still there. -/
def Reading.Sees (disk : Disk Source) : Reading Source → Prop
  | .opening => True
  | .reading id => disk.target = some id
  | .stating id contents => disk.target = some id ∧ disk.data id = contents

theorem Reading.sees_next {disk : Disk Source} {reading : Reading Source}
    (sees : reading.Sees disk) :
    (reading.next disk).elim (Reading.Sees disk) (· = disk.snapshot) := by
  cases reading with
  | opening =>
      rw [next]
      cases found : disk.target with
      | none => simp [Disk.snapshot, found]
      | some id => exact found
  | reading id => exact ⟨sees, rfl⟩
  | stating id contents =>
      obtain ⟨target, rfl⟩ := sees
      simp [next, Disk.snapshot, target]

/-- The draft is the rendering of a snapshot, and differs from it. -/
structure Draft.Rendered (request : Request Source) (fresh : Snapshot Source → Prop)
    (draft : Draft Source) : Prop where
  /-- It is made from a snapshot that the call took. -/
  fresh : fresh draft.before
  /-- It is what the call makes of it. -/
  rendered : request.render (draft.before.source request.missing) = .ok draft.rendered
  /-- It is something else. -/
  changed : draft.rendered ≠ draft.before.source request.missing

variable (request : Request Source) (sees : Reading Source → Prop) (fresh : Snapshot Source → Prop)

/-- What holds of a call in each phase: `sees` and `fresh` are what its first snapshot promises,
`renamed` says that it has replaced the target, and `broken` that it could not sync the directory
after that. -/
def Knows (renamed broken : Prop) (disk : Disk Source) : Phase Source → Prop
  | .creatingDirectory | .openingLock | .locking => ¬ renamed ∧ ¬ broken
  | .first reading => sees reading ∧ ¬ renamed ∧ ¬ broken
  | .rendering before => fresh before ∧ ¬ renamed ∧ ¬ broken
  | .creatingTemporary draft | .writing draft _ | .settingPermissions draft _ | .syncing draft _ =>
      draft.Rendered request fresh ∧ ¬ renamed ∧ ¬ broken
  | .final draft _ reading =>
      draft.Rendered request fresh ∧ reading.Sees disk ∧ ¬ renamed ∧ ¬ broken
  | .comparing draft _ after =>
      draft.Rendered request fresh ∧ after = disk.snapshot ∧ ¬ renamed ∧ ¬ broken
  | .replacing draft _ =>
      draft.Rendered request fresh ∧ draft.before = disk.snapshot ∧ ¬ renamed ∧ ¬ broken
  | .openingDirectory | .syncingDirectory => renamed ∧ ¬ broken
  | .removingTemporary _ | .unlocking (.error _) | .returned (.error _) => renamed ↔ broken
  | .unlocking (.ok ()) | .returned (.ok ()) =>
      ¬ broken ∧ (renamed ∨ ∃ before, fresh before ∧
        request.render (before.source request.missing) = .ok (before.source request.missing))
  | .crashed => broken → renamed

/-- The step that replaces the target. -/
def Phase.Renames (chance : Chance) : Phase Source → Prop
  | .replacing _ _ => chance.error = none
  | _ => False

/-- A step that fails to sync the directory once the target is replaced. -/
def Phase.Breaks (chance : Chance) : Phase Source → Prop
  | .openingDirectory | .syncingDirectory => chance.error ≠ none
  | _ => False

variable {request sees fresh}

/-- Outside the window, nothing that a call knows depends on the target. -/
theorem Knows.of_not_window {renamed broken : Prop} {disk disk' : Disk Source}
    {phase : Phase Source} (knows : Knows request sees fresh renamed broken disk phase)
    (outside : ¬ phase.Window) : Knows request sees fresh renamed broken disk' phase := by
  cases phase with
  | final draft temporary reading =>
      cases reading with
      | opening => exact knows
      | _ => exact (outside trivial).elim
  | comparing => exact (outside trivial).elim
  | replacing => exact (outside trivial).elim
  | unlocking result => cases result <;> exact knows
  | returned result => cases result <;> exact knows
  | _ => exact knows

/-- Only a call that has replaced the target can fail to sync the directory. -/
theorem Knows.renamed_of_broken {renamed broken : Prop} {disk : Disk Source}
    {phase : Phase Source} (knows : Knows request sees fresh renamed broken disk phase)
    (failed : broken) : renamed := by
  cases phase with
  | creatingDirectory => exact (knows.2 failed).elim
  | openingLock => exact (knows.2 failed).elim
  | locking => exact (knows.2 failed).elim
  | final => exact (knows.2.2.2 failed).elim
  | comparing => exact (knows.2.2.2 failed).elim
  | replacing => exact (knows.2.2.2 failed).elim
  | openingDirectory => exact (knows.2 failed).elim
  | syncingDirectory => exact (knows.2 failed).elim
  | removingTemporary => exact knows.mpr failed
  | unlocking result =>
      cases result with
      | error => exact knows.mpr failed
      | ok => exact (knows.1 failed).elim
  | returned result =>
      cases result with
      | error => exact knows.mpr failed
      | ok => exact (knows.1 failed).elim
  | crashed => exact knows failed
  | _ => exact (knows.2.2 failed).elim

theorem Phase.locked_of_window {phase : Phase Source} (window : phase.Window) : phase.Locked := by
  cases phase with
  | creatingDirectory => exact window
  | openingLock => exact window
  | locking => exact window
  | returned => exact window
  | crashed => exact window
  | _ => trivial

theorem attempt_cases (chance : Chance) (done : Phase Source) (failed : Failure → Phase Source) :
    chance.error = none ∧ chance.attempt done failed = done ∨
      chance.error ≠ none ∧ ∃ failure, chance.attempt done failed = failed failure := by
  rw [Chance.attempt]
  cases chance.error with
  | none => exact .inl ⟨rfl, rfl⟩
  | some message => exact .inr ⟨nofun, _, rfl⟩

end Knowledge

section Next

variable {Source : Type} {request : Request Source}
  {sees : Reading Source → Prop} {fresh : Snapshot Source → Prop} {renamed broken : Prop}
  {disk : Disk Source}

theorem knows_attempt {chance : Chance} {done : Phase Source} {failed : Failure → Phase Source}
    (succeeds : chance.error = none → Knows request sees fresh renamed broken disk done)
    (fails : chance.error ≠ none → ∀ failure,
      Knows request sees fresh renamed broken disk (failed failure)) :
    Knows request sees fresh renamed broken disk (chance.attempt done failed) := by
  rcases attempt_cases chance done failed with ⟨success, same⟩ | ⟨error, failure, same⟩
  · rw [same]
    exact succeeds success
  · rw [same]
    exact fails error failure

variable [DecidableEq Source]

theorem knows_render {before : Snapshot Source} (snapshot : fresh before) (pending : ¬ renamed)
    (intact : ¬ broken) : Knows request sees fresh renamed broken disk (render request before) := by
  rw [render]
  split
  · exact iff_of_false pending intact
  · rename_i rendered written
    split
    · rename_i changed
      exact ⟨⟨snapshot, written, changed⟩, pending, intact⟩
    · rename_i same
      refine ⟨intact, .inr ⟨before, snapshot, ?_⟩⟩
      rw [written, not_not.mp same]

/-- What a call knows is still true after its next step; `closed` is what its first snapshot keeps
promising. -/
theorem Knows.next {phase : Phase Source} (chance : Chance)
    (closed : ∀ reading, phase = .first reading → sees reading →
      (reading.next disk).elim sees fresh)
    (knows : Knows request sees fresh renamed broken disk phase) :
    Knows request sees fresh renamed (broken ∨ phase.Breaks chance) disk
      (Atomic.next request disk chance phase) := by
  have unbroken : ∀ {phase : Phase Source}, ¬ phase.Breaks chance →
      (broken ∨ phase.Breaks chance) = broken := by
    intro phase whole
    simp [whole]
  cases phase with
  | creatingDirectory | openingLock =>
      rw [unbroken id]
      exact knows_attempt (fun _ => knows) fun _ _ => iff_of_false knows.1 knows.2
  | locking => rw [unbroken id]; exact knows
  | first reading =>
      rw [unbroken id]
      obtain ⟨seen, pending, intact⟩ := knows
      refine knows_attempt (fun _ => ?_) fun _ _ => iff_of_false pending intact
      have onward := closed reading rfl seen
      cases taken : reading.next disk with
      | inl reading' =>
          rw [taken] at onward
          exact ⟨onward, pending, intact⟩
      | inr before =>
          rw [taken] at onward
          exact ⟨onward, pending, intact⟩
  | rendering before =>
      rw [unbroken id]
      exact knows_render knows.1 knows.2.1 knows.2.2
  | creatingTemporary | writing | settingPermissions =>
      rw [unbroken id]
      exact knows_attempt (fun _ => knows) fun _ _ => iff_of_false knows.2.1 knows.2.2
  | syncing draft temporary =>
      rw [unbroken id]
      exact knows_attempt (fun _ => ⟨knows.1, trivial, knows.2⟩)
        fun _ _ => iff_of_false knows.2.1 knows.2.2
  | final draft temporary reading =>
      rw [unbroken id]
      obtain ⟨rendered, seen, pending, intact⟩ := knows
      refine knows_attempt (fun _ => ?_) fun _ _ => iff_of_false pending intact
      have onward := Reading.sees_next seen
      cases taken : reading.next disk with
      | inl reading' =>
          rw [taken] at onward
          exact ⟨rendered, onward, pending, intact⟩
      | inr after =>
          rw [taken] at onward
          exact ⟨rendered, onward, pending, intact⟩
  | comparing draft temporary after =>
      rw [unbroken id]
      obtain ⟨rendered, current, pending, intact⟩ := knows
      rw [Atomic.next]
      split
      · exact iff_of_false pending intact
      · rename_i same
        exact ⟨rendered, (not_not.mp same).symm.trans current, pending, intact⟩
  | replacing draft temporary => rw [unbroken id]; exact knows
  | openingDirectory =>
      obtain ⟨done, intact⟩ := knows
      refine knows_attempt (fun success => ⟨done, ?_⟩) fun error _ => iff_of_true done (.inr error)
      exact not_or.mpr ⟨intact, not_not.mpr success⟩
  | syncingDirectory =>
      obtain ⟨done, intact⟩ := knows
      refine knows_attempt (fun success => ⟨?_, .inl done⟩) fun error _ =>
        iff_of_true done (.inr error)
      exact not_or.mpr ⟨intact, not_not.mpr success⟩
  | removingTemporary failure => rw [unbroken id]; exact knows
  | unlocking result => rw [unbroken id]; exact knows
  | returned result => rw [unbroken id]; exact knows
  | crashed => rw [unbroken id]; exact knows

end Next

namespace System

variable {Source Pid : Type} [DecidableEq Pid]

theorem phase_goto (system : System Source Pid) (pid other : Pid) (phase : Phase Source) :
    (system.goto pid phase).phase other = if other = pid then phase else system.phase other :=
  Function.update_apply system.phase pid phase other

@[simp] theorem lock_goto (system : System Source Pid) (pid : Pid) (phase : Phase Source) :
    (system.goto pid phase).lock = system.lock := rfl

@[simp] theorem disk_goto (system : System Source Pid) (pid : Pid) (phase : Phase Source) :
    (system.goto pid phase).disk = system.disk := rfl

@[simp] theorem phase_unlock (system : System Source Pid) (pid : Pid) :
    (system.unlock pid).phase = system.phase := by
  rw [unlock]
  split <;> rfl

@[simp] theorem disk_unlock (system : System Source Pid) (pid : Pid) :
    (system.unlock pid).disk = system.disk := by
  rw [unlock]
  split <;> rfl

theorem lock_unlock (system : System Source Pid) (pid : Pid) :
    (system.unlock pid).lock = if system.lock = some pid then none else system.lock := by
  rw [unlock]
  split <;> rfl

variable [DecidableEq Source] {requests : Pid → Request Source}

/-- What one step of a call can do to the system. -/
inductive Moves (request : Request Source) (system : System Source Pid) (pid : Pid)
    (chance : Chance) : System Source Pid → Prop
  | waits : system.phase pid = .locking → Moves request system pid chance system
  | locks : system.phase pid = .locking → system.lock = none →
      Moves request system pid chance
        { system.goto pid (.first .opening) with lock := some pid }
  | quits (failure : Failure) : system.phase pid = .locking →
      Moves request system pid chance (system.goto pid (giveUp failure))
  | keeps (failure : Failure) {draft : Draft Source} {temporary : Nat} :
      system.phase pid = .replacing draft temporary → chance.error ≠ none →
      Moves request system pid chance (system.goto pid (.removingTemporary failure))
  | renames {draft : Draft Source} {temporary : Nat} :
      system.phase pid = .replacing draft temporary → chance.error = none →
      Moves request system pid chance
        { system.goto pid .openingDirectory with
          disk := rename system.disk temporary draft.rendered }
  | unlocks {result : Except Failure Unit} : system.phase pid = .unlocking result →
      Moves request system pid chance ((system.unlock pid).goto pid (.returned result))
  | goes : (∀ draft temporary, system.phase pid ≠ .replacing draft temporary) →
      Moves request system pid chance
        (system.goto pid (next request system.disk chance (system.phase pid)))

theorem moves_call (requests : Pid → Request Source) (system : System Source Pid) (pid : Pid)
    (chance : Chance) :
    Moves (requests pid) system pid chance (system.call requests pid chance) := by
  rw [call]
  split
  case h_1 at_phase =>
    split
    · exact .quits _ at_phase
    · exact .locks at_phase ‹_›
    · split
      · exact .quits _ at_phase
      · exact .waits at_phase
  case h_2 at_phase =>
    split
    · rename_i error
      exact .keeps _ at_phase (by simp [error])
    · exact .renames at_phase ‹_›
  case h_3 at_phase => exact .unlocks at_phase
  case h_4 not_replacing _ => exact .goes not_replacing

/-- Other programs leave the target alone while a call is in one of the phases of `window`; a
process can end until its call returns. -/
def allows (window : Phase Source → Prop) (system : System Source Pid) :
    Event Source Pid → Prop
  | .step _ _ => True
  | .crash pid => ∀ result, system.phase pid ≠ .returned result
  | .external _ => ∀ pid, ¬ window (system.phase pid)

/-- No call has begun, and nobody holds the lock. -/
def Fresh (system : System Source Pid) : Prop :=
  system.lock = none ∧ ∀ pid, system.phase pid = .creatingDirectory

/-- Some step of a call was one of these. -/
def Did (what : Chance → Phase Source → Prop) (pid : Pid)
    (past : List (Execution.Recorded (System Source Pid) (Event Source Pid))) : Prop :=
  ∃ taken ∈ past, ∃ chance, taken.2 = .step pid chance ∧ what chance (taken.1.phase pid)

section Invariant

omit [DecidableEq Source] [DecidableEq Pid]

theorem did_nil {what : Chance → Phase Source → Prop} {pid : Pid} : ¬ Did what pid [] := by
  rintro ⟨_, member, _⟩
  cases member

theorem did_concat {what : Chance → Phase Source → Prop} {pid : Pid}
    {past : List (Execution.Recorded (System Source Pid) (Event Source Pid))}
    {system : System Source Pid} {event : Event Source Pid} :
    Did what pid (past ++ [(system, event)]) ↔
      Did what pid past ∨ ∃ chance, event = .step pid chance ∧ what chance (system.phase pid) := by
  simp [Did, or_and_right, exists_or]

theorem did_step {what : Chance → Phase Source → Prop} {pid : Pid}
    {past : List (Execution.Recorded (System Source Pid) (Event Source Pid))}
    {system : System Source Pid} {chance : Chance} :
    Did what pid (past ++ [(system, .step pid chance)]) =
      (Did what pid past ∨ what chance (system.phase pid)) := by
  simp [did_concat]

theorem did_other {what : Chance → Phase Source → Prop} {pid other : Pid} (different : other ≠ pid)
    {past : List (Execution.Recorded (System Source Pid) (Event Source Pid))}
    {system : System Source Pid} {chance : Chance} :
    Did what other (past ++ [(system, .step pid chance)]) = Did what other past := by
  simp [did_concat, Ne.symm different]

/-- Only the holder of the lock is past it, and every call knows what its phase says. -/
structure Inv (requests : Pid → Request Source) (sees : Reading Source → Prop)
    (fresh : Snapshot Source → Prop)
    (past : List (Execution.Recorded (System Source Pid) (Event Source Pid)))
    (system : System Source Pid) : Prop where
  /-- A call that is past the lock holds it. -/
  held : ∀ pid, (system.phase pid).Locked → system.lock = some pid
  /-- What a call knows is true. -/
  knows : ∀ pid, Knows (requests pid) sees fresh (Did Phase.Renames pid past)
    (Did Phase.Breaks pid past) system.disk (system.phase pid)

theorem inv_of_fresh {requests : Pid → Request Source} {sees : Reading Source → Prop}
    {fresh : Snapshot Source → Prop} {system : System Source Pid} (begins : system.Fresh) :
    Inv requests sees fresh [] system where
  held pid locked := by
    rw [begins.2 pid] at locked
    exact locked.elim
  knows pid := by
    rw [begins.2 pid]
    exact ⟨did_nil, did_nil⟩

theorem locked_attempt {chance : Chance} {done : Phase Source}
    {failed : Failure → Phase Source} (outside : ¬ done.Locked)
    (fails : ∀ failure, ¬ (failed failure).Locked) : ¬ (chance.attempt done failed).Locked := by
  rcases attempt_cases chance done failed with ⟨_, same⟩ | ⟨_, failure, same⟩
  · rw [same]
    exact outside
  · rw [same]
    exact fails failure

end Invariant

omit [DecidableEq Pid] in
theorem locked_of_next {request : Request Source} {disk : Disk Source} {chance : Chance}
    {phase : Phase Source} (locked : (next request disk chance phase).Locked) : phase.Locked := by
  cases phase with
  | creatingDirectory => exact (locked_attempt id (fun _ => id) locked).elim
  | openingLock => exact (locked_attempt id (fun _ => id) locked).elim
  | locking => exact locked
  | returned => exact locked
  | crashed => exact locked
  | _ => trivial

variable {request : Request Source} {sees : Reading Source → Prop}
  {fresh : Snapshot Source → Prop} {system after : System Source Pid} {pid : Pid} {chance : Chance}

theorem Moves.phase_of_ne (moves : Moves request system pid chance after) {other : Pid}
    (different : other ≠ pid) : after.phase other = system.phase other := by
  cases moves <;> simp [goto, Function.update_of_ne different]

/-- Only a rename replaces the target. -/
theorem Moves.disk_cases (moves : Moves request system pid chance after) :
    after.disk = system.disk ∧ ¬ (system.phase pid).Renames chance ∨
      ∃ draft temporary, system.phase pid = .replacing draft temporary ∧ chance.error = none ∧
        after.disk = rename system.disk temporary draft.rendered := by
  cases moves with
  | waits at_phase => exact .inl ⟨rfl, by simp [at_phase, Phase.Renames]⟩
  | locks at_phase => exact .inl ⟨rfl, by simp [at_phase, Phase.Renames]⟩
  | quits _ at_phase => exact .inl ⟨rfl, by simp [at_phase, Phase.Renames]⟩
  | keeps _ at_phase error => exact .inl ⟨rfl, by simpa [at_phase, Phase.Renames] using error⟩
  | renames at_phase success => exact .inr ⟨_, _, at_phase, success, rfl⟩
  | unlocks at_phase => exact .inl ⟨by simp [goto], by simp [at_phase, Phase.Renames]⟩
  | goes not_replacing =>
      refine .inl ⟨rfl, ?_⟩
      cases at_phase : system.phase pid with
      | replacing draft temporary => exact (not_replacing draft temporary at_phase).elim
      | _ => exact id

/-- A step leaves only one call with the lock. -/
theorem Moves.held (moves : Moves request system pid chance after)
    (held : ∀ pid, (system.phase pid).Locked → system.lock = some pid) (other : Pid)
    (locked : (after.phase other).Locked) : after.lock = some other := by
  cases moves with
  | waits => exact held other locked
  | locks at_phase free =>
      rw [phase_goto] at locked
      split at locked
      · rename_i same
        rw [same]
      · have taken := held other locked
        rw [free] at taken
        cases taken
  | quits failure =>
      rw [phase_goto] at locked
      split at locked
      · exact locked.elim
      · exact held other locked
  | keeps failure at_phase =>
      rw [phase_goto] at locked
      split at locked
      · rename_i same
        rw [same]
        exact held pid (by simp [at_phase, Phase.Locked])
      · exact held other locked
  | renames at_phase =>
      rw [show _ = (system.goto pid _).phase other from rfl, phase_goto] at locked
      split at locked
      · rename_i same
        rw [same]
        exact held pid (by simp [at_phase, Phase.Locked])
      · exact held other locked
  | unlocks at_phase =>
      rw [phase_goto] at locked
      split at locked
      · exact locked.elim
      · rename_i different
        rw [phase_unlock] at locked
        have mine := held pid (by simp [at_phase, Phase.Locked])
        have taken := held other locked
        rw [mine] at taken
        exact (different (Option.some.inj taken).symm).elim
  | goes =>
      rw [phase_goto] at locked
      split at locked
      · rename_i same
        rw [same]
        exact held pid (locked_of_next locked)
      · exact held other locked

theorem Moves.knows {renamed broken : Prop} (moves : Moves request system pid chance after)
    (opening : sees .opening)
    (closed : ∀ reading, system.phase pid = .first reading → sees reading →
      (reading.next system.disk).elim sees fresh)
    (knows : Knows request sees fresh renamed broken system.disk (system.phase pid)) :
    Knows request sees fresh (renamed ∨ (system.phase pid).Renames chance)
      (broken ∨ (system.phase pid).Breaks chance) after.disk (after.phase pid) := by
  cases moves with
  | waits at_phase =>
      rw [at_phase] at knows ⊢
      simpa [Phase.Renames, Phase.Breaks] using knows
  | locks at_phase =>
      rw [show _ = (system.goto pid _).phase pid from rfl, phase_goto, if_pos rfl]
      rw [at_phase] at knows ⊢
      simpa [Phase.Renames, Phase.Breaks, Knows, opening] using knows
  | quits failure at_phase =>
      rw [phase_goto, if_pos rfl]
      rw [at_phase] at knows ⊢
      exact iff_of_false (by simpa [Phase.Renames] using knows.1)
        (by simpa [Phase.Breaks] using knows.2)
  | keeps failure at_phase error =>
      rw [phase_goto, if_pos rfl]
      rw [at_phase] at knows ⊢
      exact iff_of_false (by simpa [Phase.Renames, error] using knows.2.2.1)
        (by simpa [Phase.Breaks] using knows.2.2.2)
  | renames at_phase success =>
      rw [show _ = (system.goto pid _).phase pid from rfl, phase_goto, if_pos rfl]
      rw [at_phase] at knows ⊢
      exact ⟨.inr success, by simpa [Phase.Breaks] using knows.2.2.2⟩
  | @unlocks result at_phase =>
      rw [phase_goto, if_pos rfl]
      rw [at_phase] at knows ⊢
      cases result <;> simpa [Phase.Renames, Phase.Breaks, Knows] using knows
  | goes not_replacing =>
      rw [phase_goto, if_pos rfl]
      have still : (renamed ∨ (system.phase pid).Renames chance) = renamed := by
        cases at_phase : system.phase pid with
        | replacing draft temporary => exact (not_replacing draft temporary at_phase).elim
        | _ => simp [Phase.Renames]
      rw [still]
      exact knows.next chance closed

variable {past : List (Execution.Recorded (System Source Pid) (Event Source Pid))}

theorem Inv.step {window : Phase Source → Prop} {event : Event Source Pid}
    (inv : Inv requests sees fresh past system) (allowed : system.allows window event)
    (covers : ∀ phase : Phase Source, phase.Window → window phase) (opening : sees .opening)
    (closed : ∀ pid reading, system.phase pid = .first reading → sees reading →
      (reading.next system.disk).elim sees fresh) :
    Inv requests sees fresh (past ++ [(system, event)]) (system.step requests event) := by
  cases event with
  | step pid chance =>
      have moves := moves_call requests system pid chance
      refine ⟨moves.held inv.held, fun other => ?_⟩
      by_cases same : other = pid
      · rw [same, did_step, did_step]
        exact moves.knows opening (closed pid) (inv.knows pid)
      · rw [did_other same, did_other same, System.step, moves.phase_of_ne same]
        rcases moves.disk_cases with ⟨unchanged, _⟩ | ⟨draft, temporary, at_phase, _, _⟩
        · rw [unchanged]
          exact inv.knows other
        · apply (inv.knows other).of_not_window
          intro others_window
          have mine := inv.held pid (by simp [at_phase, Phase.Locked])
          have taken := inv.held other (Phase.locked_of_window others_window)
          rw [mine] at taken
          exact same (Option.some.inj taken).symm
  | crash pid =>
      have others : ∀ {what : Chance → Phase Source → Prop} {other : Pid},
          Did what other (past ++ [(system, .crash pid)]) = Did what other past := by
        simp [did_concat]
      refine ⟨fun other locked => ?_, fun other => ?_⟩
      · rw [System.step, phase_goto, phase_unlock] at locked
        split at locked
        · exact locked.elim
        · rename_i different
          have taken := inv.held other locked
          have kept : system.lock ≠ some pid := by
            rw [taken]
            exact fun same => different (Option.some.inj same)
          rw [System.step, lock_goto, lock_unlock, if_neg kept, taken]
      · rw [others, others, System.step, disk_goto, disk_unlock, phase_goto, phase_unlock]
        split
        · exact (inv.knows other).renamed_of_broken
        · exact inv.knows other
  | external disk =>
      have others : ∀ {what : Chance → Phase Source → Prop} {other : Pid},
          Did what other (past ++ [(system, .external disk)]) = Did what other past := by
        simp [did_concat]
      refine ⟨inv.held, fun other => ?_⟩
      rw [others, others]
      exact (inv.knows other).of_not_window fun in_window => allowed other (covers _ in_window)

end System

end PresenceUnlock.Cli.Atomic
