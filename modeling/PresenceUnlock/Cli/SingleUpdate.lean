import PresenceUnlock.Cli.Atomic

/-!
# One update on its own

While nothing else touches the target, it holds the old text up to the rename and the new text from
there on.  What the call reports agrees with that unless the directory cannot be synced after the
rename.
-/

namespace PresenceUnlock.Cli.Atomic

open RustStd

section Single

variable {Source : Type} (request : Request Source)

/-- The target holds the rendering of what it held, which differs from it. -/
def Replaced (old new : Option Source) : Prop :=
  ∃ rendered, request.render (old.getD request.missing) = .ok rendered ∧
    rendered ≠ old.getD request.missing ∧ new = some rendered

/-- The result of a call tells what it did to the target: an error, that nothing changed, and
otherwise that the target holds the rendering.  A target that is missing counts as `missing`, and is
not created for that text. -/
def Honest (old new : Option Source) : Except Failure Unit → Prop
  | .error _ => new = old
  | .ok () => ∃ rendered, request.render (old.getD request.missing) = .ok rendered ∧
      (new = some rendered ∨ old = none ∧ new = none ∧ rendered = request.missing)

variable {request}

theorem Replaced.ne {old new : Option Source}
    (replaced : Replaced request old new) : new ≠ old := by
  obtain ⟨rendered, _, changed, rfl⟩ := replaced
  rintro rfl
  exact changed rfl

theorem replaced_of_rename {old : Disk Source} {draft : Draft Source}
    (rendered : draft.Rendered request (· = old.snapshot)) (disk : Disk Source) (temporary : Nat) :
    Replaced request old.content (System.rename disk temporary draft.rendered).content := by
  obtain ⟨fresh, written, changed⟩ := rendered
  rw [Snapshot.source, fresh, Disk.content_snapshot] at written changed
  exact ⟨draft.rendered, written, changed, by simp [System.rename, Disk.content]⟩

/-- The target before the rename and after it. -/
structure Progress (request : Request Source) (start : System Source Unit)
    (past : List (Execution.Recorded (System Source Unit) (Event Source Unit)))
    (system : System Source Unit) : Prop where
  /-- What is known of every run. -/
  inv : System.Inv (fun _ => request) (Reading.Sees start.disk)
      (· = start.disk.snapshot) past system
  /-- Whether it has been replaced. -/
  target : ¬ System.Did Phase.Renames () past ∧ system.disk = start.disk ∨
    System.Did Phase.Renames () past ∧ Replaced request start.disk.content system.disk.content

theorem honest_iff {start system : System Source Unit}
    {past : List (Execution.Recorded (System Source Unit) (Event Source Unit))}
    (progress : Progress request start past system) {result : Except Failure Unit}
    (returned : system.phase () = .returned result) :
    Honest request start.disk.content system.disk.content result ↔
      ¬ System.Did Phase.Breaks () past := by
  have knows := progress.inv.knows ()
  rw [returned] at knows
  cases result with
  | error failure =>
      rcases progress.target with ⟨pending, same⟩ | ⟨renamed, replaced⟩
      · rw [same]
        exact iff_of_true rfl (mt knows.mpr pending)
      · exact iff_of_false replaced.ne (not_not.mpr (knows.mp renamed))
  | ok _ =>
      refine iff_of_true ?_ knows.1
      rcases progress.target with ⟨pending, same⟩ | ⟨_, rendered, written, _, new⟩
      · obtain ⟨before, rfl, written⟩ := knows.2.resolve_left pending
        rw [Snapshot.source, Disk.content_snapshot] at written
        refine ⟨_, written, ?_⟩
        rw [same]
        cases start.disk.content with
        | none => exact .inr ⟨rfl, rfl, rfl⟩
        | some text => exact .inl rfl
      · exact ⟨rendered, written, .inl new⟩

variable [DecidableEq Source]

/-- The runs of one call, without another program. -/
abbrev Alone (request : Request Source) (start : System Source Unit)
    (past : List (Execution.Recorded (System Source Unit) (Event Source Unit)))
    (system : System Source Unit) : Prop :=
  Execution.Reaches (System.allows fun _ => True) (System.step fun _ => request) start past system

theorem Progress.step {start system : System Source Unit}
    {past : List (Execution.Recorded (System Source Unit) (Event Source Unit))}
    {event : Event Source Unit} (progress : Progress request start past system)
    (allowed : system.allows (fun _ => True) event) :
    Progress request start (past ++ [(system, event)])
      (system.step (fun _ => request) event) := by
  obtain ⟨inv, target⟩ := progress
  have still_first : ∀ pid reading, system.phase pid = .first reading →
      reading.Sees start.disk →
        (reading.next system.disk).elim (Reading.Sees start.disk) (· = start.disk.snapshot) := by
    intro pid reading at_phase sees
    have knows := inv.knows pid
    rw [at_phase] at knows
    rcases target with ⟨_, same⟩ | ⟨renamed, _⟩
    · rw [same]
      exact Reading.sees_next sees
    · exact (knows.2.1 renamed).elim
  refine ⟨inv.step allowed (fun _ _ => trivial) trivial still_first, ?_⟩
  cases event with
  | external disk => exact (allowed () trivial).elim
  | crash pid => simpa [System.step, System.did_concat] using target
  | step pid chance =>
      rw [System.did_step, System.step]
      have moves := System.moves_call (fun _ => request) system pid chance
      rcases moves.disk_cases with ⟨same, steady⟩ | ⟨draft, temporary, at_phase, success, same⟩
      · rw [same, or_iff_left steady]
        exact target
      · have renames : (system.phase ()).Renames chance := by
          rw [at_phase]
          exact success
        have knows := inv.knows ()
        rw [at_phase] at knows
        rw [same]
        exact .inr ⟨.inr renames, replaced_of_rename knows.1 system.disk temporary⟩

theorem progress_of_alone {start system : System Source Unit} (fresh : start.Fresh)
    {past : List (Execution.Recorded (System Source Unit) (Event Source Unit))}
    (reached : Alone request start past system) : Progress request start past system :=
  reached.invariant (Progress request start) ⟨System.inv_of_fresh fresh, .inl ⟨System.did_nil, rfl⟩⟩
    fun _ _ _ progress allowed => progress.step allowed

end Single

/-- A target that holds `old`, and nobody else around. -/
def oldTarget : System Text Unit where
  disk := ⟨some 1, fun _ => "old".toList⟩
  lock := none
  phase _ := .creatingDirectory

/-- A call that writes something new. -/
def writeNew : Request Text := ⟨[], fun _ => .ok "new".toList⟩

/-- A step that succeeds, or fails; a file that it creates has the identity 2. -/
def attempt (error : Option Text) : Event Text Unit := .step () ⟨error, false, 2⟩

/-- What the system says. -/
def inputOutputError : Text := "Input/output error".toList

/-- Everything succeeds up to the rename, and then comes to these errors. -/
def afterRename (errors : List (Option Text)) : System Text Unit :=
  Execution.run (System.step fun _ => writeNew) oldTarget
    ((List.replicate 16 none ++ errors).map attempt)

theorem afterRename_reached (errors : List (Option Text)) :
    ∃ past, Alone writeNew oldTarget past (afterRename errors) := by
  refine ⟨_, Execution.Reaches.start.run _ ?_⟩
  intro event member system
  obtain ⟨error, _, rfl⟩ := List.mem_map.mp member
  trivial

end PresenceUnlock.Cli.Atomic
