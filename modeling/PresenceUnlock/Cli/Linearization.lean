import PresenceUnlock.Cli.Atomic

/-!
# Many updates of one file

Updates and the edits of other programs interleave.  As long as nobody else touches the target from
the opening for a call's second snapshot to its rename, every rename takes effect as the whole
update would at that moment, and an update whose source is gone by the second snapshot gives up.
-/

namespace PresenceUnlock.Cli.Atomic

open RustStd

variable {Source Pid : Type}

/-- The runs in which other programs leave the target alone in these phases of a call. -/
abbrev Together [DecidableEq Source] [DecidableEq Pid] (window : Phase Source → Prop)
    (requests : Pid → Request Source) (start : System Source Pid)
    (past : List (Execution.Recorded (System Source Pid) (Event Source Pid)))
    (system : System Source Pid) : Prop :=
  Execution.Reaches (System.allows window) (System.step requests) start past system

/-- What one step makes of the content of the target: a rename is the whole update of it. -/
def effect [DecidableEq Source] (requests : Pid → Request Source) (content : Option Source)
    (taken : Execution.Recorded (System Source Pid) (Event Source Pid)) : Option Source :=
  match taken.2 with
  | .external disk => disk.content
  | .crash _ => content
  | .step pid chance =>
      match taken.1.phase pid, chance.error with
      | .replacing _ _, none =>
          (updateAtomic (requests pid).missing (requests pid).render content).2
      | _, _ => content

/-- A rename replaces what its rendering was computed from. -/
def Faithful (requests : Pid → Request Source)
    (taken : Execution.Recorded (System Source Pid) (Event Source Pid)) : Prop :=
  ∀ pid chance draft temporary, taken.2 = .step pid chance →
    taken.1.phase pid = .replacing draft temporary →
      draft.before.content = taken.1.disk.content ∧
        (requests pid).render (draft.before.source (requests pid).missing) = .ok draft.rendered

/-- The target is not as the first snapshot found it when the call opens it for the second one. -/
def Conflicts (pid : Pid)
    (taken : Execution.Recorded (System Source Pid) (Event Source Pid)) : Prop :=
  ∃ chance draft temporary, taken.2 = .step pid chance ∧
    taken.1.phase pid = .final draft temporary .opening ∧ draft.before ≠ taken.1.disk.snapshot

/-- The phases of a call that has met a conflict. -/
def Doomed (disk : Disk Source) : Phase Source → Prop
  | .final _ _ .opening => False
  | .final draft _ _ | .comparing draft _ _ => draft.before ≠ disk.snapshot
  | .removingTemporary _ | .unlocking (.error _) | .returned (.error _) | .crashed => True
  | _ => False

/-- What the first snapshot of a call promises while others edit the target: nothing. -/
abbrev Informed (requests : Pid → Request Source)
    (past : List (Execution.Recorded (System Source Pid) (Event Source Pid)))
    (system : System Source Pid) : Prop :=
  System.Inv requests (fun _ => True) (fun _ => True) past system

/-- The call took a step in such a state. -/
def Took (pid : Pid) (what : System Source Pid → Prop)
    (past : List (Execution.Recorded (System Source Pid) (Event Source Pid))) : Prop :=
  ∃ taken ∈ past, ∃ chance, taken.2 = .step pid chance ∧ what taken.1

/-- The call opens the target for its first snapshot, and finds this file, or none. -/
def Opens (pid : Pid) (target : Option Nat) (system : System Source Pid) : Prop :=
  system.phase pid = .first .opening ∧ system.disk.target = target

/-- The call reads the file it has opened for its first snapshot. -/
def Reads (pid : Pid) (id : Nat) (contents : Source) (system : System Source Pid) : Prop :=
  system.phase pid = .first (.reading id) ∧ system.disk.data id = contents

/-- What the first snapshot of a call knows so far is what the call found at its own steps. -/
def Looked (pid : Pid) (past : List (Execution.Recorded (System Source Pid) (Event Source Pid))) :
    Reading Source → Prop
  | .opening => True
  | .reading id => Took pid (Opens pid (some id)) past
  | .stating id contents =>
      Took pid (Opens pid (some id)) past ∧ Took pid (Reads pid id contents) past

/-- The snapshot is the one that the call took first. -/
def Found (pid : Pid) (past : List (Execution.Recorded (System Source Pid) (Event Source Pid))) :
    Snapshot Source → Prop
  | .missing => Took pid (Opens pid none) past
  | .file id contents => Looked pid past (.stating id contents)

/-- The call rendered its own first snapshot, and the rendering was what it was computed from. -/
structure LeftAlone (request : Request Source) (pid : Pid)
    (past : List (Execution.Recorded (System Source Pid) (Event Source Pid)))
    (before : Snapshot Source) : Prop where
  /-- The call took the snapshot. -/
  found : Found pid past before
  /-- The call rendered it. -/
  rendered : Took pid (fun system => system.phase pid = .rendering before) past
  /-- The rendering is the text that was rendered. -/
  unchanged : request.render (before.source request.missing) = .ok (before.source request.missing)

/-- What the steps so far say of a call in a phase. -/
def Remembers (request : Request Source) (pid : Pid)
    (past : List (Execution.Recorded (System Source Pid) (Event Source Pid))) :
    Phase Source → Prop
  | .first reading => Looked pid past reading
  | .rendering before => Found pid past before
  | .openingDirectory | .syncingDirectory => System.Did Phase.Renames pid past
  | .unlocking (.ok ()) | .returned (.ok ()) =>
      System.Did Phase.Renames pid past ∨ ∃ before, LeftAlone request pid past before
  | _ => True

theorem Doomed.of_not_window {disk disk' : Disk Source} {phase : Phase Source}
    (doomed : Doomed disk phase) (outside : ¬ phase.Window) : Doomed disk' phase := by
  cases phase with
  | final draft temporary reading =>
      cases reading with
      | opening => exact doomed
      | _ => exact (outside trivial).elim
  | comparing => exact (outside trivial).elim
  | unlocking result => cases result <;> exact doomed
  | returned result => cases result <;> exact doomed
  | _ => exact doomed

theorem faithful_of_informed {requests : Pid → Request Source}
    {past : List (Execution.Recorded (System Source Pid) (Event Source Pid))}
    {system : System Source Pid} (informed : Informed requests past system)
    (event : Event Source Pid) : Faithful requests (system, event) := by
  intro pid chance draft temporary _ at_phase
  have knows := informed.knows pid
  rw [show system.phase pid = .replacing draft temporary from at_phase] at knows
  obtain ⟨rendered, current, _⟩ := knows
  refine ⟨?_, rendered.rendered⟩
  rw [current, Disk.content_snapshot]

section Doom

variable {request : Request Source} {disk : Disk Source} {chance : Chance}

theorem doomed_attempt {done : Phase Source} {failed : Failure → Phase Source}
    (succeeds : Doomed disk done) (fails : ∀ failure, Doomed disk (failed failure)) :
    Doomed disk (chance.attempt done failed) := by
  rcases attempt_cases chance done failed with ⟨_, same⟩ | ⟨_, failure, same⟩
  · rw [same]
    exact succeeds
  · rw [same]
    exact fails failure

/-- The second snapshot goes on to find what is there, which is not what was there. -/
theorem doomed_reading {draft : Draft Source} {temporary : Nat} {reading : Reading Source}
    (changed : draft.before ≠ disk.snapshot) :
    Doomed disk
      ((reading.next disk).elim (.final draft temporary) (.comparing draft temporary)) := by
  cases reading with
  | opening =>
      rw [Reading.next]
      cases disk.target <;> exact changed
  | reading id => exact changed
  | stating id contents => exact changed

theorem Doomed.changed {draft : Draft Source} {temporary : Nat} {reading : Reading Source}
    (doomed : Doomed disk (.final draft temporary reading)) : draft.before ≠ disk.snapshot := by
  cases reading with
  | opening => exact doomed.elim
  | _ => exact doomed

theorem not_renames_of_doomed {phase : Phase Source} (doomed : Doomed disk phase) :
    ¬ phase.Renames chance := by
  cases phase with
  | replacing => exact doomed.elim
  | _ => exact id

variable [DecidableEq Source] [DecidableEq Pid] {system after : System Source Pid} {pid : Pid}
  {sees : Reading Source → Prop} {fresh : Snapshot Source → Prop} {renamed broken : Prop}

theorem Doomed.next {phase : Phase Source} (doomed : Doomed disk phase)
    (knows : Knows request sees fresh renamed broken disk phase) :
    Doomed disk (Atomic.next request disk chance phase) := by
  cases phase with
  | final draft temporary reading =>
      exact doomed_attempt (doomed_reading doomed.changed) fun _ => trivial
  | comparing draft temporary after =>
      obtain ⟨_, rfl, _⟩ := knows
      rw [Atomic.next, if_pos (Ne.symm doomed)]
      trivial
  | removingTemporary failure => trivial
  | unlocking result => cases result <;> exact doomed
  | returned result => cases result <;> exact doomed
  | crashed => trivial
  | _ => exact doomed.elim

theorem Doomed.moves (moves : System.Moves request system pid chance after)
    (knows : Knows request sees fresh renamed broken system.disk (system.phase pid))
    (doomed : Doomed system.disk (system.phase pid)) : Doomed after.disk (after.phase pid) := by
  cases moves with
  | waits at_phase => exact doomed
  | locks at_phase => rw [at_phase] at doomed; exact doomed.elim
  | quits _ at_phase => rw [at_phase] at doomed; exact doomed.elim
  | keeps _ at_phase => rw [at_phase] at doomed; exact doomed.elim
  | renames at_phase => rw [at_phase] at doomed; exact doomed.elim
  | @unlocks result at_phase =>
      rw [at_phase] at doomed
      rw [System.phase_goto, if_pos rfl]
      cases result <;> exact doomed
  | goes =>
      rw [System.phase_goto, if_pos rfl]
      exact doomed.next knows

end Doom

section Memory

variable {pid : Pid} {past more : List (Execution.Recorded (System Source Pid) (Event Source Pid))}
  {request : Request Source} {what : System Source Pid → Prop}

theorem Took.append (took : Took pid what past) : Took pid what (past ++ more) := by
  obtain ⟨taken, member, chance, stepped, held⟩ := took
  exact ⟨taken, List.mem_append_left _ member, chance, stepped, held⟩

theorem Looked.append {reading : Reading Source} (looked : Looked pid past reading) :
    Looked pid (past ++ more) reading := by
  cases reading with
  | opening => trivial
  | reading id =>
      have opened : Took pid (Opens pid (some id)) past := looked
      exact opened.append
  | stating id contents => exact ⟨looked.1.append, looked.2.append⟩

theorem Found.append {before : Snapshot Source} (found : Found pid past before) :
    Found pid (past ++ more) before := by
  cases before with
  | missing =>
      have opened : Took pid (Opens pid none) past := found
      exact opened.append
  | file id contents =>
      have looked : Looked pid past (.stating id contents) := found
      exact looked.append

theorem LeftAlone.append {before : Snapshot Source} (alone : LeftAlone request pid past before) :
    LeftAlone request pid (past ++ more) before :=
  ⟨alone.found.append, alone.rendered.append, alone.unchanged⟩

theorem did_append {did : Chance → Phase Source → Prop} (done : System.Did did pid past) :
    System.Did did pid (past ++ more) := by
  obtain ⟨taken, member, chance, stepped, held⟩ := done
  exact ⟨taken, List.mem_append_left _ member, chance, stepped, held⟩

/-- What the steps so far say, more steps do not take back. -/
theorem Remembers.append {phase : Phase Source} (remembers : Remembers request pid past phase) :
    Remembers request pid (past ++ more) phase := by
  cases phase with
  | first reading => exact Looked.append remembers
  | rendering before => exact Found.append remembers
  | openingDirectory | syncingDirectory => exact did_append remembers
  | unlocking result | returned result =>
      cases result with
      | error failure => trivial
      | ok _ => exact remembers.imp did_append fun ⟨before, alone⟩ => ⟨before, alone.append⟩
  | _ => trivial

variable {system : System Source Pid} {chance : Chance}

/-- The step that a call takes in a state is one that it took there. -/
theorem took_now (held : what system) : Took pid what (past ++ [(system, .step pid chance)]) :=
  ⟨_, List.mem_append_right _ (List.mem_singleton_self _), chance, rfl, held⟩

theorem remembers_attempt {done : Phase Source} {failed : Failure → Phase Source}
    (succeeds : Remembers request pid past done)
    (fails : ∀ failure, Remembers request pid past (failed failure)) :
    Remembers request pid past (chance.attempt done failed) := by
  rcases attempt_cases chance done failed with ⟨_, same⟩ | ⟨_, failure, same⟩
  · rw [same]
    exact succeeds
  · rw [same]
    exact fails failure

/-- The first snapshot remembers what its next step finds. -/
theorem remembers_reading {reading : Reading Source} (at_phase : system.phase pid = .first reading)
    (looked : Looked pid past reading) :
    Remembers request pid (past ++ [(system, .step pid chance)])
      ((reading.next system.disk).elim .first .rendering) := by
  cases reading with
  | opening =>
      rw [Reading.next]
      cases target : system.disk.target with
      | none =>
          have opens : Opens pid none system := ⟨at_phase, target⟩
          exact took_now opens
      | some id =>
          have opens : Opens pid (some id) system := ⟨at_phase, target⟩
          exact took_now opens
  | reading id =>
      have opened : Took pid (Opens pid (some id)) past := looked
      have reads : Reads pid id (system.disk.data id) system := ⟨at_phase, rfl⟩
      exact ⟨opened.append, took_now reads⟩
  | stating id contents => exact Looked.append looked

variable [DecidableEq Source]

theorem remembers_render {before : Snapshot Source}
    (at_phase : system.phase pid = .rendering before) (found : Found pid past before) :
    Remembers request pid (past ++ [(system, .step pid chance)]) (render request before) := by
  rw [render]
  split
  · trivial
  · rename_i rendered written
    split
    · trivial
    · rename_i same
      exact .inr ⟨before, found.append, took_now at_phase, by rw [written, not_not.mp same]⟩

theorem remembers_next (remembers : Remembers request pid past (system.phase pid)) :
    Remembers request pid (past ++ [(system, .step pid chance)])
      (next request system.disk chance (system.phase pid)) := by
  cases at_phase : system.phase pid with
  | first reading =>
      rw [at_phase] at remembers
      exact remembers_attempt (remembers_reading at_phase remembers) fun _ => trivial
  | rendering before =>
      rw [at_phase] at remembers
      exact remembers_render at_phase remembers
  | final draft temporary reading =>
      refine remembers_attempt ?_ fun _ => trivial
      cases reading.next system.disk <;> trivial
  | comparing draft temporary after =>
      rw [next]
      split <;> trivial
  | openingDirectory =>
      rw [at_phase] at remembers
      exact remembers_attempt (did_append remembers) fun _ => trivial
  | syncingDirectory =>
      rw [at_phase] at remembers
      exact remembers_attempt (.inl (did_append remembers)) fun _ => trivial
  | unlocking result | returned result =>
      rw [at_phase] at remembers
      exact remembers.append
  | creatingDirectory | openingLock | creatingTemporary | writing | settingPermissions | syncing =>
      exact remembers_attempt trivial fun _ => trivial
  | locking | replacing | removingTemporary | crashed => trivial

variable [DecidableEq Pid] {after : System Source Pid}

/-- A call remembers what it did, whoever takes the next step. -/
theorem remembers_moves (moves : System.Moves request system pid chance after)
    (remembers : Remembers request pid past (system.phase pid)) :
    Remembers request pid (past ++ [(system, .step pid chance)]) (after.phase pid) := by
  cases moves with
  | waits at_phase => exact remembers.append
  | locks =>
      rw [show _ = (system.goto pid _).phase pid from rfl, System.phase_goto, if_pos rfl]
      trivial
  | quits | keeps =>
      rw [System.phase_goto, if_pos rfl]
      trivial
  | renames at_phase success =>
      rw [show _ = (system.goto pid _).phase pid from rfl, System.phase_goto, if_pos rfl]
      refine System.did_step.mpr (.inr ?_)
      rw [at_phase]
      exact success
  | @unlocks result at_phase =>
      rw [System.phase_goto, if_pos rfl]
      rw [at_phase] at remembers
      have returns : Remembers request pid past (.returned result) := by
        cases result <;> exact remembers
      exact returns.append
  | goes =>
      rw [System.phase_goto, if_pos rfl]
      exact remembers_next remembers

end Memory

section Runs

variable [DecidableEq Source] [DecidableEq Pid] {requests : Pid → Request Source}
  {start system : System Source Pid} {event : Event Source Pid}
  {past : List (Execution.Recorded (System Source Pid) (Event Source Pid))}

/-- A step has exactly its effect. -/
theorem content_step (informed : Informed requests past system) :
    (system.step requests event).disk.content =
      effect requests system.disk.content (system, event) := by
  cases event with
  | external disk => rfl
  | crash pid => simp [System.step, effect]
  | step pid chance =>
      have moves := System.moves_call requests system pid chance
      rcases moves.disk_cases with ⟨same, steady⟩ | ⟨draft, temporary, at_phase, success, renamed⟩
      · rw [System.step, same, effect]
        simp only
        split
        · rename_i draft temporary at_phase success
          rw [at_phase] at steady
          exact (steady success).elim
        · rfl
      · have knows := informed.knows pid
        rw [at_phase] at knows
        obtain ⟨rendered, current, _⟩ := knows
        have written := rendered.rendered
        have changed := rendered.changed
        rw [Snapshot.source, current, Disk.content_snapshot] at written changed
        simp only [System.step, renamed, effect, at_phase, success, updateAtomic, written]
        rw [if_pos changed]
        simp [System.rename, Disk.content]

/-- What holds along every run: the calls are informed, the target is what the effects so far make
of it, each rename was faithful, and a call that met a conflict is doomed. -/
structure Linear (requests : Pid → Request Source) (start : System Source Pid)
    (past : List (Execution.Recorded (System Source Pid) (Event Source Pid)))
    (system : System Source Pid) : Prop where
  /-- What every call knows is true. -/
  informed : Informed requests past system
  /-- The content is what the renames and the edits made of it. -/
  content : system.disk.content = past.foldl (effect requests) start.disk.content
  /-- Every rename replaced what its rendering was made from. -/
  faithful : ∀ taken ∈ past, Faithful requests taken
  /-- A call that met a conflict does not rename. -/
  doomed : ∀ pid, (∃ taken ∈ past, Conflicts pid taken) →
    Doomed system.disk (system.phase pid) ∧ ¬ System.Did Phase.Renames pid past
  /-- A call that leaves the file alone remembers why. -/
  remembers : ∀ pid, Remembers (requests pid) pid past (system.phase pid)

theorem doomed_of_conflict {pid : Pid} (conflicts : Conflicts pid (system, event)) :
    Doomed (system.step requests event).disk ((system.step requests event).phase pid) := by
  obtain ⟨chance, draft, temporary, rfl, at_phase, changed⟩ := conflicts
  have at_phase' : system.phase pid = .final draft temporary .opening := at_phase
  rw [System.step, System.call, at_phase']
  rw [System.phase_goto, if_pos rfl]
  exact doomed_attempt (doomed_reading changed) fun _ => trivial

/-- A call that met a conflict stays doomed, whoever takes the next step. -/
theorem Doomed.step {pid : Pid} (informed : Informed requests past system)
    (allowed : system.allows Phase.Window event)
    (doomed : Doomed system.disk (system.phase pid)) :
    Doomed (system.step requests event).disk ((system.step requests event).phase pid) := by
  cases event with
  | external disk => exact doomed.of_not_window (allowed pid)
  | crash other =>
      rw [System.step, System.disk_goto, System.disk_unlock, System.phase_goto,
        System.phase_unlock]
      split
      · trivial
      · exact doomed
  | step other chance =>
      have moves := System.moves_call requests system other chance
      rw [System.step]
      by_cases same : pid = other
      · rw [← same] at moves ⊢
        exact doomed.moves moves (informed.knows pid)
      · rw [moves.phase_of_ne same]
        rcases moves.disk_cases with ⟨unchanged, _⟩ | ⟨draft, temporary, at_phase, _, _⟩
        · rw [unchanged]
          exact doomed
        · apply doomed.of_not_window
          intro in_window
          have taken := informed.held pid (Phase.locked_of_window in_window)
          rw [informed.held other (by simp [at_phase, Phase.Locked])] at taken
          exact same (Option.some.inj taken).symm

theorem remembers_step {pid : Pid}
    (remembers : Remembers (requests pid) pid past (system.phase pid)) :
    Remembers (requests pid) pid (past ++ [(system, event)])
      ((system.step requests event).phase pid) := by
  cases event with
  | external disk => exact remembers.append
  | crash other =>
      rw [System.step, System.phase_goto, System.phase_unlock]
      split
      · trivial
      · exact remembers.append
  | step other chance =>
      have moves := System.moves_call requests system other chance
      rw [System.step]
      by_cases same : pid = other
      · subst same
        exact remembers_moves moves remembers
      · rw [moves.phase_of_ne same]
        exact remembers.append

theorem Linear.step (linear : Linear requests start past system)
    (allowed : system.allows Phase.Window event) :
    Linear requests start (past ++ [(system, event)]) (system.step requests event) := by
  obtain ⟨informed, content, faithful, doomed, remembers⟩ := linear
  constructor
  · apply informed.step allowed (fun _ => id) trivial
    intro pid reading _ _
    cases reading.next system.disk <;> trivial
  · rw [content_step informed, content, List.foldl_append, List.foldl_cons, List.foldl_nil]
  · intro taken member
    rcases List.mem_append.mp member with earlier | now
    · exact faithful taken earlier
    · rw [List.mem_singleton.mp now]
      exact faithful_of_informed informed event
  · rintro pid ⟨taken, member, conflicts⟩
    rw [System.did_concat]
    rcases List.mem_append.mp member with earlier | now
    · obtain ⟨doomed, pending⟩ := doomed pid ⟨taken, earlier, conflicts⟩
      refine ⟨doomed.step informed allowed, ?_⟩
      rintro (renamed | ⟨chance, _, renames⟩)
      · exact pending renamed
      · exact not_renames_of_doomed doomed renames
    · rw [List.mem_singleton.mp now] at conflicts
      refine ⟨doomed_of_conflict conflicts, ?_⟩
      obtain ⟨_, draft, temporary, _, at_phase, _⟩ := conflicts
      have knows := informed.knows pid
      rw [show system.phase pid = _ from at_phase] at knows
      rintro (renamed | ⟨_, _, renames⟩)
      · exact knows.2.2.1 renamed
      · rw [show system.phase pid = _ from at_phase] at renames
        exact renames
  · intro pid
    exact remembers_step (remembers pid)

theorem linear_of_together (fresh : start.Fresh)
    (reached : Together Phase.Window requests start past system) :
    Linear requests start past system :=
  reached.invariant (Linear requests start)
    ⟨System.inv_of_fresh fresh, rfl, nofun, fun _ ⟨_, member, _⟩ => (by cases member),
      fun pid => (by rw [fresh.2 pid]; trivial)⟩
    fun _ _ _ linear allowed => linear.step allowed

/-- Updates lose nothing: the target is what the renames and the other programs' edits make of it,
one after another; each rename replaces what its rendering was computed from, and a call that
succeeds has renamed, or the rendering of its own first snapshot was what it was computed from; and
a call whose second snapshot differs from its first never renames and does not succeed. -/
theorem updates_linearize (fresh : start.Fresh)
    (reached : Together Phase.Window requests start past system) :
    system.disk.content = past.foldl (effect requests) start.disk.content ∧
      (∀ taken ∈ past, Faithful requests taken) ∧
      (∀ pid, system.phase pid = .returned (.ok ()) → ¬ System.Did Phase.Renames pid past →
        ∃ before, LeftAlone (requests pid) pid past before) ∧
      ∀ pid, (∃ taken ∈ past, Conflicts pid taken) →
        ¬ System.Did Phase.Renames pid past ∧ system.phase pid ≠ .returned (.ok ()) := by
  have linear := linear_of_together fresh reached
  refine ⟨linear.content, linear.faithful, ?_, ?_⟩
  · intro pid returned pending
    have remembers := linear.remembers pid
    rw [returned] at remembers
    exact remembers.resolve_left pending
  · intro pid conflicts
    obtain ⟨doomed, pending⟩ := linear.doomed pid conflicts
    refine ⟨pending, fun returned => ?_⟩
    rw [returned] at doomed
    exact doomed

end Runs

/-- One call, which appends a mark to a target that holds `old`. -/
def appendMark : Unit → Request Text := fun _ => ⟨[], fun text => .ok (text ++ ['+'])⟩

/-- A target with a content. -/
def markedTarget : System Text Unit where
  disk := ⟨some 1, fun _ => "old".toList⟩
  lock := none
  phase _ := .creatingDirectory

/-- The call takes some steps, without an error. -/
def proceed (steps : Nat) (system : System Text Unit) : System Text Unit :=
  Execution.run (System.step appendMark) system (List.replicate steps (.step () ⟨none, false, 2⟩))

/-- Another program writes the target in place. -/
def overwrite (text : Text) : Event Text Unit := .external ⟨some 1, fun _ => text⟩

/-- The call while nobody else edits the target. -/
theorem updates_linearize_alone :
    ∃ past, Together Phase.Window appendMark markedTarget past (proceed 19 markedTarget) ∧
      (proceed 19 markedTarget).phase () = .returned (.ok ()) ∧
      (proceed 19 markedTarget).disk.content =
        past.foldl (effect appendMark) (some "old".toList) := by
  have reached : Together Phase.Window appendMark markedTarget _ (proceed 19 markedTarget) :=
    Execution.Reaches.start.run _ fun event member _ => by
      rw [List.eq_of_mem_replicate member]
      trivial
  have fresh : markedTarget.Fresh := ⟨rfl, fun _ => rfl⟩
  exact ⟨_, reached, rfl, (updates_linearize fresh reached).1⟩

/-- From the comparison of the snapshots to the rename. -/
def Compared (phase : Phase Text) : Prop := ∃ draft temporary, phase = .replacing draft temporary

/-- An edit after so many steps, and the rest of the call. -/
def interrupted (steps rest : Nat) (text : Text) : System Text Unit :=
  proceed rest (System.step appendMark (proceed steps markedTarget) (overwrite text))

/-- Two edits after so many steps, and the rest of the call. -/
def interruptedTwice (steps rest : Nat) (text again : Text) : System Text Unit :=
  proceed rest (System.step appendMark
    (System.step appendMark (proceed steps markedTarget) (overwrite text)) (overwrite again))

theorem together_proceed {past : List (Execution.Recorded (System Text Unit) (Event Text Unit))}
    {system : System Text Unit}
    (reached : Together Compared appendMark markedTarget past system) (steps : Nat) :
    Together Compared appendMark markedTarget
      (past ++ Execution.recorded (System.step appendMark) system
        (List.replicate steps (.step () ⟨none, false, 2⟩)))
      (proceed steps system) :=
  reached.run _ fun event member _ => by
    rw [List.eq_of_mem_replicate member]
    trivial

/-- An edit while the second snapshot is compared is overwritten; and one that is taken back before
the second snapshot goes unnoticed. -/
theorem updates_overwrite_edits :
    (∃ past, Together Compared appendMark markedTarget past (interrupted 13 6 "edit".toList) ∧
      (interrupted 13 6 "edit".toList).phase () = .returned (.ok ()) ∧
      (interrupted 13 6 "edit".toList).disk.content = some "old+".toList ∧
      past.foldl (effect appendMark) (some "old".toList) = some "edit+".toList) ∧
    ∃ past, Together Compared appendMark markedTarget past
        (interruptedTwice 8 11 "edit".toList "old".toList) ∧
      (interruptedTwice 8 11 "edit".toList "old".toList).phase () = .returned (.ok ()) ∧
      (proceed 8 markedTarget, overwrite "edit".toList) ∈ past := by
  have begun : Together Compared appendMark markedTarget [] markedTarget := .start
  constructor
  · have taken := together_proceed begun 13
    have edited := taken.next (show System.allows Compared _ (overwrite "edit".toList) from ?_)
    · exact ⟨_, together_proceed edited 6, rfl, rfl, rfl⟩
    · rintro _ ⟨draft, temporary, at_phase⟩
      cases at_phase
  · have drafted := together_proceed begun 8
    have edited := drafted.next (show System.allows Compared _ (overwrite "edit".toList) from ?_)
    · have reverted := edited.next (show System.allows Compared _ (overwrite "old".toList) from ?_)
      · exact ⟨_, together_proceed reverted 11, rfl, by simp⟩
      · rintro _ ⟨draft, temporary, at_phase⟩
        cases at_phase
    · rintro _ ⟨draft, temporary, at_phase⟩
      cases at_phase

end PresenceUnlock.Cli.Atomic
