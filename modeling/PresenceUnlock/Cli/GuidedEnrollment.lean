import PresenceUnlock.Cli.Advertise

/-!
# What a guided enrollment leaves behind

The result of the flow, the settings of the adapter, and the devices it did not meet.
-/

namespace PresenceUnlock.Cli.Advertise

open RustStd

/-- A write to the settings of the adapter. -/
def Note.setting : Note → Option Request
  | .requested (.setPairableTimeout seconds) => some (.setPairableTimeout seconds)
  | .requested (.setPairable pairable) => some (.setPairable pairable)
  | _ => none

/-- The settings that the flow tried to write, in order. -/
def settings (trace : List Note) : List Request := trace.filterMap Note.setting

/-- A device was enrolled. -/
def Committed (trace : List Note) : Prop := ∃ enrolled, Note.committed enrolled ∈ trace

/-- The flow tried to disconnect a device or to remove it. -/
def Touched (device : Address) (trace : List Note) : Prop :=
  .requested (.disconnect device) ∈ trace ∨ .requested (.removeDevice device) ∈ trace

/-- The settings as they were read. -/
def Pairability.Read (pairability : Pairability) (trace : List Note) : Prop :=
  .readPairable pairability.pairable ∈ trace ∧ .readTimeout pairability.timeout ∈ trace

/-- The last settings that were written are these. -/
def Pairability.Restored (pairability : Pairability) (trace : List Note) : Prop :=
  [.setPairableTimeout pairability.timeout, .setPairable pairability.pairable] <:+ settings trace

section Append

variable {trace : List Note} {note other : Note} {device : Address} {pairability : Pairability}

theorem mem_concat_of_ne (different : other ≠ note) : other ∈ trace ++ [note] ↔ other ∈ trace := by
  simp [different]

theorem Pairability.Read.append (read : pairability.Read trace) (more : List Note) :
    pairability.Read (trace ++ more) :=
  ⟨List.mem_append_left more read.1, List.mem_append_left more read.2⟩

theorem committed_concat :
    Committed (trace ++ [note]) ↔ Committed trace ∨ ∃ enrolled, note = .committed enrolled := by
  simp [Committed, exists_or, eq_comm]

theorem touched_concat :
    Touched device (trace ++ [note]) ↔ Touched device trace ∨
      note = .requested (.disconnect device) ∨ note = .requested (.removeDevice device) := by
  simp only [Touched, List.mem_append, List.mem_singleton, @eq_comm Note _ note]
  tauto

theorem settings_concat_of_some {setting : Request} (set : note.setting = some setting) :
    settings (trace ++ [note]) = settings trace ++ [setting] := by
  simp [settings, set]

/-- A write to the settings is not a word about a device, and nothing else either. -/
theorem Note.ne_of_setting {setting : Request} (set : note.setting = some setting)
    (unset : other.setting = none) : other ≠ note := by
  rintro rfl
  cases set.symm.trans unset

end Append

/-- Before the window is opened, the flow has only read, and written settings. -/
structure Unopened (established : List Address) (trace : List Note) : Prop where
  /-- Exactly the established devices were recorded. -/
  recorded : ∀ device, .recorded device ∈ trace ↔ device ∈ established
  /-- No device was found to be new. -/
  found : ∀ device, .found device ∉ trace
  /-- No device was touched. -/
  untouched : ∀ device, ¬ Touched device trace
  /-- No device was enrolled. -/
  uncommitted : ¬ Committed trace
  /-- The window was not opened. -/
  unopened : .opened ∉ trace

/-- What the flow read about the devices and the adapter. -/
structure Before.Known (before : Before) (trace : List Note) : Prop where
  /-- Exactly the established devices were recorded. -/
  recorded : ∀ device, .recorded device ∈ trace ↔ device ∈ before.established
  /-- The settings are those that were read. -/
  read : before.pairability.Read trace

/-- During the capture, the devices are left alone. -/
structure Captures (before : Before) (trace : List Note) : Prop where
  /-- What was read before is known. -/
  known : before.Known trace
  /-- No device was found to be new. -/
  found : ∀ device, .found device ∉ trace
  /-- No device was touched. -/
  untouched : ∀ device, ¬ Touched device trace

/-- After the capture; the device that is cleaned up is still to be removed. -/
structure Ended (before : Before) (ending : Ending) (current : Option Address)
    (trace : List Note) : Prop where
  /-- What was read before is known. -/
  known : before.Known trace
  /-- The flag tells whether a device was enrolled. -/
  enrolled : ending.enrolled = true ↔ Committed trace
  /-- And so does the result. -/
  result : ending.result = .ok () ↔ Committed trace
  /-- Only devices that were found to be new were touched. -/
  touched : ∀ device, Touched device trace → .found device ∈ trace
  /-- These were not established before. -/
  found : ∀ device, .found device ∈ trace → device ∉ before.established
  /-- All but the current one of them were asked to be removed. -/
  removed : ∀ device, .found device ∈ trace →
    current = some device ∨ .requested (.removeDevice device) ∈ trace

/-- At the end of the flow. -/
structure Returned (result : Except FlowError Unit) (trace : List Note) : Prop where
  /-- The result tells whether a device was enrolled. -/
  truthful : result = .ok () ↔ Committed trace
  /-- If the window was opened, the settings were restored. -/
  restored : .opened ∈ trace → ∃ pairability : Pairability,
    pairability.Read trace ∧ pairability.Restored trace
  /-- Exactly the devices that were found to be new were touched. -/
  touched : ∀ device, Touched device trace ↔ .found device ∈ trace
  /-- None of these had been recorded. -/
  found : ∀ device, .found device ∈ trace → .recorded device ∉ trace

/-- What is known of the trace in each phase. -/
def Phase.Knows (saved : Bool) (trace : List Note) : Phase → Prop
  | .session | .adapter | .powered | .naming | .establishing => Unopened [] trace ∧ saved = false
  | .examining established _ _ _ | .readingPairable established =>
      Unopened established trace ∧ saved = false
  | .readingTimeout established pairable =>
      Unopened established trace ∧ .readPairable pairable ∈ trace ∧ saved = false
  | .widening before | .opening before | .narrowing before _ =>
      Unopened before.established trace ∧ before.pairability.Read trace ∧ saved = false
  | .capturing before _ | .saving before _ _ =>
      Captures before trace ∧ ¬ Committed trace ∧ saved = false
  | .flagging before => Captures before trace ∧ Committed trace
  | .sweeping before ending | .restoringTimeout before ending _ | .pausing before ending _ =>
      Ended before ending none trace
  | .asking before ending _ device _ =>
      Ended before ending none trace ∧ device ∉ before.established
  | .cleaning before ending _ device _ =>
      Ended before ending (some device) trace ∧ .found device ∈ trace
  | .restoringPairable before ending _ _ =>
      Ended before ending none trace ∧
        [.setPairableTimeout before.pairability.timeout] <:+ settings trace
  | .returned result => Returned result trace

section Knows

variable {trace : List Note} {note : Note} {established : List Address} {before : Before}
  {ending : Ending} {current : Option Address} {device : Address} {saved : Bool}

/-- Notes of no consequence: what is read, and what is written to the settings. -/
theorem Unopened.concat (unopened : Unopened established trace)
    (recorded : ∀ device, note ≠ .recorded device) (found : ∀ device, note ≠ .found device)
    (disconnect : ∀ device, note ≠ .requested (.disconnect device))
    (remove : ∀ device, note ≠ .requested (.removeDevice device))
    (committed : ∀ enrolled, note ≠ .committed enrolled) (opened : note ≠ .opened) :
    Unopened established (trace ++ [note]) where
  recorded device := by
    rw [mem_concat_of_ne (recorded device).symm]
    exact unopened.recorded device
  found device := by
    rw [mem_concat_of_ne (found device).symm]
    exact unopened.found device
  untouched device := by
    rw [touched_concat]
    rintro (touched | same | same)
    · exact unopened.untouched device touched
    · exact disconnect device same
    · exact remove device same
  uncommitted := by
    rw [committed_concat]
    rintro (known | ⟨enrolled, same⟩)
    · exact unopened.uncommitted known
    · exact committed enrolled same
  unopened := by
    rw [mem_concat_of_ne opened.symm]
    exact unopened.unopened

theorem Unopened.record (unopened : Unopened established trace) (device : Address) :
    Unopened (device :: established) (trace ++ [.recorded device]) where
  recorded other := by
    rw [List.mem_append, unopened.recorded other, List.mem_singleton, List.mem_cons,
      Note.recorded.injEq, or_comm]
  found other := by
    rw [mem_concat_of_ne (by simp)]
    exact unopened.found other
  untouched other := by
    rw [touched_concat]
    rintro (touched | same | same)
    · exact unopened.untouched other touched
    · cases same
    · cases same
  uncommitted := by
    rw [committed_concat]
    rintro (known | ⟨_, same⟩)
    · exact unopened.uncommitted known
    · cases same
  unopened := by
    rw [mem_concat_of_ne (by simp)]
    exact unopened.unopened

/-- A flow that never opened the window fails with nothing to put back. -/
theorem Unopened.returned (unopened : Unopened established trace) (error : FlowError) :
    Returned (.error error) trace where
  truthful := iff_of_false nofun unopened.uncommitted
  restored opened := (unopened.unopened opened).elim
  touched device := iff_of_false (unopened.untouched device) (unopened.found device)
  found device found := (unopened.found device found).elim

theorem Before.Known.concat (known : before.Known trace)
    (recorded : ∀ device, note ≠ .recorded device) : before.Known (trace ++ [note]) where
  recorded device := by
    rw [mem_concat_of_ne (recorded device).symm]
    exact known.recorded device
  read := known.read.append [note]

/-- The window is opened, and the capture starts. -/
theorem Unopened.opens (unopened : Unopened before.established trace)
    (read : before.pairability.Read trace) (unsaved : saved = false) :
    (Phase.capturing before .starting).Knows saved (trace ++ [.opened]) := by
  have known : before.Known trace := ⟨unopened.recorded, read⟩
  refine ⟨⟨known.concat fun _ => nofun, fun device => ?_, fun device => ?_⟩, ?_, unsaved⟩
  · rw [mem_concat_of_ne (by simp)]
    exact unopened.found device
  · rw [touched_concat]
    rintro (touched | same | same)
    · exact unopened.untouched device touched
    · cases same
    · cases same
  · rw [committed_concat]
    rintro (committed | ⟨_, same⟩)
    · exact unopened.uncommitted committed
    · cases same

/-- Writing a setting changes nothing about the devices. -/
theorem Ended.set (ended : Ended before ending current trace) {setting : Request}
    (set : note.setting = some setting) : Ended before ending current (trace ++ [note]) where
  known := ended.known.concat fun _ => (Note.ne_of_setting set rfl).symm
  enrolled := by
    rw [committed_concat, or_iff_left fun ⟨_, same⟩ => Note.ne_of_setting set rfl same.symm]
    exact ended.enrolled
  result := by
    rw [committed_concat, or_iff_left fun ⟨_, same⟩ => Note.ne_of_setting set rfl same.symm]
    exact ended.result
  touched device touched := by
    rw [mem_concat_of_ne (Note.ne_of_setting set rfl)]
    rcases touched_concat.mp touched with known | same | same
    · exact ended.touched device known
    · exact (Note.ne_of_setting set rfl same.symm).elim
    · exact (Note.ne_of_setting set rfl same.symm).elim
  found device found := by
    rw [mem_concat_of_ne (Note.ne_of_setting set rfl)] at found
    exact ended.found device found
  removed device found := by
    rw [mem_concat_of_ne (Note.ne_of_setting set rfl)] at found ⊢
    exact ended.removed device found

/-- The cleanup of a device begins. -/
theorem Ended.find (ended : Ended before ending none trace) (fresh : device ∉ before.established) :
    Ended before ending (some device) (trace ++ [.found device]) where
  known := ended.known.concat fun _ => nofun
  enrolled := by
    rw [committed_concat, or_iff_left fun ⟨_, same⟩ => nomatch same]
    exact ended.enrolled
  result := by
    rw [committed_concat, or_iff_left fun ⟨_, same⟩ => nomatch same]
    exact ended.result
  touched other touched := by
    rcases touched_concat.mp touched with known | same | same
    · exact List.mem_append_left _ (ended.touched other known)
    · cases same
    · cases same
  found other found := by
    rcases List.mem_append.mp found with known | last
    · exact ended.found other known
    · cases List.mem_singleton.mp last
      exact fresh
  removed other found := by
    rcases List.mem_append.mp found with known | last
    · have removed := (ended.removed other known).resolve_left nofun
      exact .inr (List.mem_append_left _ removed)
    · cases List.mem_singleton.mp last
      exact .inl rfl

/-- A request about the device that is being cleaned up. -/
theorem Ended.touch (ended : Ended before ending (some device) trace)
    (found : .found device ∈ trace) {request : Request}
    (about : request = .disconnect device ∨ request = .removeDevice device) :
    Ended before ending (some device) (trace ++ [.requested request]) where
  known := ended.known.concat fun _ => nofun
  enrolled := by
    rw [committed_concat, or_iff_left fun ⟨_, same⟩ => nomatch same]
    exact ended.enrolled
  result := by
    rw [committed_concat, or_iff_left fun ⟨_, same⟩ => nomatch same]
    exact ended.result
  touched other touched := by
    rw [mem_concat_of_ne (by simp)]
    rcases touched_concat.mp touched with known | same | same
    · exact ended.touched other known
    · rcases about with rfl | rfl
      · cases same
        exact found
      · cases same
    · rcases about with rfl | rfl
      · cases same
      · cases same
        exact found
  found other found := by
    rw [mem_concat_of_ne (by simp)] at found
    exact ended.found other found
  removed other found := by
    rw [mem_concat_of_ne (by simp)] at found
    exact (ended.removed other found).imp_right (List.mem_append_left _)

/-- A device whose removal was tried is dealt with. -/
theorem Ended.remove (ended : Ended before ending (some device) trace)
    (removed : .requested (.removeDevice device) ∈ trace) : Ended before ending none trace where
  known := ended.known
  enrolled := ended.enrolled
  result := ended.result
  touched := ended.touched
  found := ended.found
  removed other found := by
    rcases ended.removed other found with same | known
    · cases same
      exact .inr removed
    · exact .inr known

/-- The end of the flow, once the settings are written back. -/
theorem Ended.returned (ended : Ended before ending none trace)
    (restored : before.pairability.Restored trace) : Returned ending.answer trace where
  truthful := by
    rw [Ending.answer]
    split
    · rename_i enrolled
      exact iff_of_true rfl (ended.enrolled.mp enrolled)
    · exact ended.result
  restored _ := ⟨before.pairability, ended.known.read, restored⟩
  touched device := by
    refine ⟨ended.touched device, fun found => ?_⟩
    exact .inr ((ended.removed device found).resolve_left nofun)
  found device found recorded :=
    ended.found device found ((ended.known.recorded device).mp recorded)

theorem knows_examine (unopened : Unopened established trace) (unsaved : saved = false)
    (addresses : List Address) : (examine established addresses).Knows saved trace := by
  cases addresses with
  | nil => exact ⟨unopened, unsaved⟩
  | cons device rest => exact ⟨unopened, unsaved⟩

theorem knows_sweep (ended : Ended before ending none trace) (addresses : List Address) :
    (sweep before ending addresses).Knows saved trace := by
  induction addresses with
  | nil => exact ended
  | cons device rest induction =>
      rw [sweep]
      split
      · exact induction
      · exact ⟨ended, ‹_›⟩

/-- A call that has to succeed, before the window is opened. -/
theorem knows_demand {α : Type} {result : Option (Except Text α)} {pending : Phase}
    {next : α → Phase × List Note} (unopened : Unopened established trace)
    (waits : pending.Knows saved trace)
    (goes : ∀ value, (next value).1.Knows saved (trace ++ (next value).2)) :
    (demand result pending next).1.Knows saved (trace ++ (demand result pending next).2) := by
  match result with
  | none => simpa [demand] using waits
  | some (.error message) =>
      simp only [demand, List.append_nil]
      exact unopened.returned _
  | some (.ok value) => exact goes value

theorem knows_request {Source : Type} {event : Event Source} {request' : Request} {pending : Phase}
    {next : Except Text Unit → Phase} (waits : pending.Knows saved trace)
    (goes : ∀ result, (next result).Knows saved (trace ++ [.requested request'])) :
    (request event request' pending next).1.Knows saved
      (trace ++ (request event request' pending next).2) := by
  rw [request]
  split
  · simpa using waits
  · exact goes _

/-- One step outside of the capture. -/
theorem knows_next {Source : Type} (guided : Guided) (event : Event Source) {phase : Phase}
    (knows : phase.Knows saved trace) :
    (phase.next guided event).1.Knows saved (trace ++ (phase.next guided event).2) := by
  have stays : phase.Knows saved (trace ++ []) := by rwa [List.append_nil]
  cases phase with
  | session => exact knows_demand knows.1 knows fun _ => stays
  | adapter => exact knows_demand knows.1 knows fun _ => stays
  | powered =>
      refine knows_demand knows.1 knows fun powered => ?_
      split
      · exact stays
      · rw [List.append_nil]
        exact knows.1.returned _
  | naming => exact knows_demand knows.1 knows fun _ => stays
  | establishing =>
      refine knows_demand knows.1 knows fun addresses => ?_
      rw [List.append_nil]
      exact knows_examine knows.1 knows.2 addresses
  | examining established rest device query =>
      rw [Phase.next]
      split
      · exact stays
      · exact stays
      · exact knows_examine (knows.1.record device) knows.2 rest
      · rw [List.append_nil]
        exact knows_examine knows.1 knows.2 rest
  | readingPairable established =>
      refine knows_demand knows.1 knows fun pairable => ⟨?_, by simp, knows.2⟩
      exact knows.1.concat nofun nofun nofun nofun nofun nofun
  | readingTimeout established pairable =>
      obtain ⟨unopened, read, unsaved⟩ := knows
      refine knows_demand unopened ⟨unopened, read, unsaved⟩ fun seconds => ⟨?_, ?_, unsaved⟩
      · exact unopened.concat nofun nofun nofun nofun nofun nofun
      · exact ⟨List.mem_append_left _ read, by simp⟩
  | widening before =>
      obtain ⟨unopened, read, unsaved⟩ := knows
      refine knows_request ⟨unopened, read, unsaved⟩ fun result => ?_
      have unopened' : Unopened before.established
          (trace ++ [.requested (.setPairableTimeout (window guided))]) :=
        unopened.concat nofun nofun nofun nofun nofun nofun
      cases result with
      | ok _ => exact ⟨unopened', read.append _, unsaved⟩
      | error message => exact unopened'.returned _
  | opening before =>
      obtain ⟨unopened, read, unsaved⟩ := knows
      rw [Phase.next]
      split
      · exact stays
      · rw [List.append_cons]
        have unopened' : Unopened before.established
            (trace ++ [.requested (.setPairable true)]) :=
          unopened.concat nofun nofun nofun nofun nofun nofun
        exact unopened'.opens (read.append _) unsaved
      · refine ⟨?_, read.append _, unsaved⟩
        exact unopened.concat nofun nofun nofun nofun nofun nofun
  | narrowing before message =>
      obtain ⟨unopened, read, unsaved⟩ := knows
      refine knows_request ⟨unopened, read, unsaved⟩ fun _ => ?_
      have unopened' : Unopened before.established
          (trace ++ [.requested (.setPairableTimeout before.pairability.timeout)]) :=
        unopened.concat nofun nofun nofun nofun nofun nofun
      exact unopened'.returned _
  | capturing before stage => exact stays
  | saving before key peerName => exact stays
  | flagging before => exact stays
  | sweeping before ending =>
      rw [Phase.next]
      split
      · exact stays
      · exact stays
      · rw [List.append_nil]
        exact knows_sweep knows _
  | asking before ending rest device query =>
      obtain ⟨ended, fresh⟩ := knows
      rw [Phase.next]
      split
      · exact stays
      · exact stays
      · exact ⟨ended.find fresh, by simp⟩
      · rw [List.append_nil]
        exact knows_sweep ended rest
  | cleaning before ending rest device cleaning =>
      obtain ⟨ended, found⟩ := knows
      cases cleaning with
      | waiting =>
          cases event <;> exact stays
      | checking =>
          rw [Phase.next]
          split
          · exact stays
          · split
            · exact stays
            · exact stays
      | disconnecting =>
          refine knows_request ⟨ended, found⟩ fun _ => ?_
          exact ⟨ended.touch found (.inl rfl), List.mem_append_left _ found⟩
      | settling =>
          cases event <;> exact stays
      | removing =>
          refine knows_request ⟨ended, found⟩ fun _ => ?_
          exact knows_sweep ((ended.touch found (.inr rfl)).remove (by simp)) rest
  | restoringTimeout before ending attempts =>
      refine knows_request knows fun result => ⟨knows.set rfl, ?_⟩
      rw [settings_concat_of_some rfl]
      exact List.suffix_append _ _
  | restoringPairable before ending attempts timeoutSet =>
      obtain ⟨ended, written⟩ := knows
      refine knows_request ⟨ended, written⟩ fun result => ?_
      have ended' : Ended before ending none
          (trace ++ [.requested (.setPairable before.pairability.pairable)]) := ended.set rfl
      split
      · apply ended'.returned
        rw [Pairability.Restored, settings_concat_of_some rfl]
        obtain ⟨earlier, same⟩ := written
        exact ⟨earlier, by rw [← same, List.append_assoc]; rfl⟩
      · exact ended'
  | pausing before ending attempts => cases event <;> exact stays
  | returned result => exact stays

/-- The capture ends as it is flagged. -/
theorem Captures.ended (captures : Captures before trace)
    (enrolled : ending.enrolled = true ↔ Committed trace)
    (result : ending.result = .ok () ↔ Committed trace) : Ended before ending none trace where
  known := captures.known
  enrolled := enrolled
  result := result
  touched device touched := (captures.untouched device touched).elim
  found device found := (captures.found device found).elim
  removed device found := (captures.found device found).elim

theorem Captures.commit (captures : Captures before trace) (enrolled : Option Text) :
    Captures before (trace ++ [.committed enrolled]) where
  known := captures.known.concat fun _ => nofun
  found device := by
    rw [mem_concat_of_ne (by simp)]
    exact captures.found device
  untouched device := by
    rw [touched_concat]
    rintro (touched | same | same)
    · exact captures.untouched device touched
    · cases same
    · cases same

end Knows

namespace Flow

variable {Source : Type} {flow : Flow Source}

/-- A flow that is about to begin. -/
structure Fresh (flow : Flow Source) : Prop where
  /-- It is to open its session. -/
  phase : flow.phase = .session
  /-- Its flag is not set. -/
  saved : flow.saved = false
  /-- It has done nothing. -/
  trace : flow.trace = []

/-- What is known of the flow. -/
def Knows (flow : Flow Source) : Prop := flow.phase.Knows flow.saved flow.trace

theorem knows_of_fresh (fresh : flow.Fresh) : flow.Knows := by
  rw [Knows, fresh.phase, fresh.saved, fresh.trace]
  exact ⟨⟨by simp, by simp, by simp [Touched], by simp [Committed], by simp⟩, rfl⟩

theorem knows_leave {before : Before} {result : Except FlowError Unit}
    (captures : Captures before flow.trace) (saved : flow.saved = true ↔ Committed flow.trace)
    (truthful : result = .ok () ↔ Committed flow.trace) : (flow.leave before result).Knows := by
  have ended : Ended before ⟨flow.saved, result⟩ none flow.trace := captures.ended saved truthful
  rw [Knows, leave, goto, List.append_nil]
  exact ended

/-- A capture that fails before its commit point. -/
theorem knows_leave_error {before : Before} (captures : Captures before flow.trace)
    (uncommitted : ¬ Committed flow.trace) (unsaved : flow.saved = false) (error : FlowError) :
    (flow.leave before (.error error)).Knows := by
  refine knows_leave captures (iff_of_false ?_ uncommitted) (iff_of_false nofun uncommitted)
  rw [unsaved]
  exact Bool.false_ne_true

/-- Whatever is disconnected or removed was found by the cleanup, and not before the capture. -/
theorem Knows.touched (knows : flow.Knows) {device : Address}
    (touched : Touched device flow.trace) :
    .found device ∈ flow.trace ∧ .recorded device ∉ flow.trace := by
  have ended : ∀ {before ending current}, Ended before ending current flow.trace →
      .found device ∈ flow.trace ∧ .recorded device ∉ flow.trace := by
    intro before ending current ended
    have found := ended.touched device touched
    refine ⟨found, fun recorded => ?_⟩
    exact ended.found device found ((ended.known.recorded device).mp recorded)
  rw [Knows] at knows
  cases at_phase : flow.phase with
  | session | adapter | powered | naming | establishing | examining | readingPairable
  | readingTimeout | widening | opening | narrowing =>
      rw [at_phase] at knows
      exact (knows.1.untouched device touched).elim
  | capturing | saving | flagging =>
      rw [at_phase] at knows
      exact (knows.1.untouched device touched).elim
  | sweeping | restoringTimeout | pausing =>
      rw [at_phase] at knows
      exact ended knows
  | asking | cleaning | restoringPairable =>
      rw [at_phase] at knows
      exact ended knows.1
  | returned result =>
      rw [at_phase] at knows
      have found := (knows.touched device).mp touched
      exact ⟨found, knows.found device found⟩

/-- The configuration as the others leave it. -/
def edit (store : Option Source) : Event Source → Option Source
  | .edited store => store
  | _ => store

theorem edit_cases (store : Option Source) (event : Event Source) :
    (∃ edited, event = .edited edited) ∨ edit store event = store := by
  cases event with
  | edited edited => exact .inl ⟨edited, rfl⟩
  | _ => exact .inr rfl

variable [DecidableEq Source] {crates : Crates} {toml : Toml Source} {guided : Guided}

theorem knows_enroll {before : Before} {key : Key} {peerName : Option Text}
    (captures : Captures before flow.trace) (uncommitted : ¬ Committed flow.trace)
    (unsaved : flow.saved = false) :
    (flow.enroll crates toml guided before key peerName).Knows := by
  rw [enroll]
  split
  · exact ⟨captures.commit _, _, List.mem_append_right _ List.mem_cons_self⟩
  · exact knows_leave_error captures uncommitted unsaved _

theorem knows_step (knows : flow.Knows) (event : Event Source) :
    (flow.step crates toml guided event).Knows := by
  rw [Knows] at knows
  unfold step
  split
  · exact knows
  · rename_i before stage at_phase
    rw [at_phase] at knows
    obtain ⟨captures, uncommitted, unsaved⟩ := knows
    split
    · exact knows_leave_error captures uncommitted unsaved _
    · rw [Knows, at_phase]
      exact ⟨captures, uncommitted, unsaved⟩
  · rename_i before stage at_phase
    rw [at_phase] at knows
    obtain ⟨captures, uncommitted, unsaved⟩ := knows
    split
    · rw [Knows, goto, List.append_nil]
      exact ⟨captures, uncommitted, unsaved⟩
    · rw [Knows, goto, List.append_nil]
      exact ⟨captures, uncommitted, unsaved⟩
    · exact knows_leave_error captures uncommitted unsaved _
  · rename_i before key peerName at_phase
    rw [at_phase] at knows
    exact knows_enroll knows.1 knows.2.1 knows.2.2
  · rename_i before at_phase
    rw [at_phase] at knows
    exact knows_leave knows.1 (iff_of_true rfl knows.2) (iff_of_true rfl knows.2)
  · exact knows_next guided _ knows

/-- An enrollment that fails leaves the configuration alone. -/
theorem store_of_save_error {key : Key} {peerName : Option Text} {store : Option Source}
    {error : PairingError}
    (failed : (save crates toml guided key peerName store).1 = .error error) :
    (save crates toml guided key peerName store).2 = store := by
  rw [save, saveIrk] at failed ⊢
  split
  · rfl
  · rename_i saves
    rw [if_neg saves] at failed
    generalize id_eq : (guided.id.or (idForIrk (loadDevices toml store)
      (crates.base64Encode key.toList))).getD (deriveId (loadDevices toml store)
        (peerName.or (some guided.fallback)) none) = id at failed
    simp only [enrollIrk, id_eq] at failed ⊢
    cases added : (add crates toml id guided.profile (irkCriteria (crates.base64Encode key.toList))
        noOverrides store).1 with
    | ok _ =>
        rw [added] at failed
        cases failed
    | error _ => exact updateAtomic_of_error added

/-- A step adds to the trace; and where it does not commit an enrollment, the configuration is left
to the others. -/
theorem step_keeps (crates : Crates) (toml : Toml Source) (guided : Guided) (flow : Flow Source)
    (event : Event Source) :
    (∃ more, (flow.step crates toml guided event).trace = flow.trace ++ more) ∧
      (¬ Committed (flow.step crates toml guided event).trace →
        (flow.step crates toml guided event).store = edit flow.store event) := by
  rcases edit_cases flow.store event with ⟨edited, rfl⟩ | unedited
  · exact ⟨⟨[], by simp [step]⟩, fun _ => by simp [step, edit]⟩
  rw [unedited]
  unfold step
  split
  · cases unedited
    exact ⟨⟨[], by simp⟩, fun _ => rfl⟩
  · split
    · exact ⟨⟨_, rfl⟩, fun _ => rfl⟩
    · exact ⟨⟨[], by simp⟩, fun _ => rfl⟩
  · split
    · exact ⟨⟨_, rfl⟩, fun _ => rfl⟩
    · exact ⟨⟨_, rfl⟩, fun _ => rfl⟩
    · exact ⟨⟨_, rfl⟩, fun _ => rfl⟩
  · rw [enroll]
    split
    · refine ⟨⟨_, rfl⟩, fun uncommitted => (uncommitted ?_).elim⟩
      exact ⟨_, List.mem_append_right _ List.mem_cons_self⟩
    · exact ⟨⟨_, rfl⟩, fun _ => store_of_save_error ‹_›⟩
  · exact ⟨⟨_, rfl⟩, fun _ => rfl⟩
  · exact ⟨⟨_, rfl⟩, fun _ => rfl⟩

theorem store_run (events : List (Event Source))
    (uncommitted : ¬ Committed (Execution.run (step crates toml guided) flow events).trace) :
    (Execution.run (step crates toml guided) flow events).store = events.foldl edit flow.store := by
  induction events using List.reverseRecOn with
  | nil => rfl
  | append_singleton events event induction =>
      rw [Execution.run_concat] at uncommitted ⊢
      obtain ⟨⟨more, grown⟩, keeps⟩ := step_keeps crates toml guided
        (Execution.run (step crates toml guided) flow events) event
      rw [keeps uncommitted, List.foldl_append, induction]
      · rfl
      · rintro ⟨enrolled, known⟩
        apply uncommitted
        rw [grown]
        exact ⟨enrolled, List.mem_append_left more known⟩

theorem knows_run (fresh : flow.Fresh) (events : List (Event Source)) :
    (Execution.run (step crates toml guided) flow events).Knows :=
  Execution.run_invariant Knows (fun _ event knows => knows_step knows event)
    (knows_of_fresh fresh) events

end Flow

open Advertise.Flow

variable {Source : Type}

/-- The result tells whether an enrollment was committed, the adapter is as it was, and no device
is disconnected or removed that was live before. -/
structure Promise (live : Address → Prop) (start flow : Flow Source) (events : List (Event Source))
    (result : Except FlowError Unit) : Prop where
  /-- The result tells whether a device was enrolled. -/
  truthful : result = .ok () ↔ Committed flow.trace
  /-- Without an enrollment, the file is as the others left it. -/
  unsaved : ¬ Committed flow.trace → flow.store = events.foldl edit start.store
  /-- If the window was opened, the settings were restored. -/
  restored : .opened ∈ flow.trace → ∃ pairability : Pairability,
    pairability.Read flow.trace ∧ pairability.Restored flow.trace
  /-- No live device was touched. -/
  spared : ∀ device, live device → ¬ Touched device flow.trace

/-- A device that was live, for which the snapshot got no answer that said so, and the cleanup
did. -/
def Overlooked (device : Address) (trace : List Note) : Prop :=
  .recorded device ∉ trace ∧ .found device ∈ trace

/-- The flow keeps its promise exactly when no live device was overlooked. -/
theorem guided_enrollment_iff [DecidableEq Source] (crates : Crates) (toml : Toml Source)
    (guided : Guided) {start : Flow Source} (fresh : start.Fresh) (live : Address → Prop)
    (events : List (Event Source)) :
    let flow := Execution.run (step crates toml guided) start events
    ((∀ device, live device → ¬ Overlooked device flow.trace) →
        ∀ device, live device → ¬ Touched device flow.trace) ∧
      ∀ result, flow.phase = .returned result →
        (Promise live start flow events result ↔
          ∀ device, live device → ¬ Overlooked device flow.trace) := by
  intro flow
  have knows : flow.Knows := knows_run fresh events
  have spares : (∀ device, live device → ¬ Overlooked device flow.trace) →
      ∀ device, live device → ¬ Touched device flow.trace := by
    intro seen device is_live touched
    obtain ⟨found, unrecorded⟩ := knows.touched touched
    exact seen device is_live ⟨unrecorded, found⟩
  refine ⟨spares, fun result returned => ?_⟩
  have ends : Returned result flow.trace := by
    rw [Flow.Knows, returned] at knows
    exact knows
  constructor
  · intro promise device is_live overlooked
    exact promise.spared device is_live ((ends.touched device).mpr overlooked.2)
  · intro seen
    exact ⟨ends.truthful, store_run events, ends.restored, spares seen⟩

/-- A flow without a configuration. -/
def beginning : Flow Document := ⟨.session, false, none, []⟩

/-- A capture on the first adapter that saves nothing. -/
def trial : Guided where
  profile := AppleContinuity.id
  fallback := "watch".toList
  id := none
  save := false
  adapter := "hci0".toList
  timeoutSecs := 60

/-- A headset. -/
def headset : Address := #v[0xA0, 0xB1, 0xC2, 0xD3, 0xE4, 0xF5]

/-- The window is opened while the headset is known, and the user cancels; this is the answer to
whether the headset is paired. -/
def cancelledCapture (paired : Except Text Bool) : List (Event Document) :=
  [.answers (.done (.ok ())), .answers (.done (.ok ())), .answers (.flag (.ok true)),
    .answers (.name (.ok "desk".toList)), .answers (.addresses (.ok [headset])),
    .answers (.done (.ok ())), .answers (.flag (.error "timeout".toList)), .answers (.flag paired),
    .answers (.flag (.ok true)), .answers (.seconds (.ok 0)), .answers (.done (.ok ())),
    .answers (.done (.ok ())), .cancels, .answers (.addresses (.ok [headset]))]

/-- The headset is found connected, and is disconnected and removed. -/
def cleanup : List (Event Document) :=
  [.answers (.done (.ok ())), .answers (.flag (.ok true)), .wakes, .answers (.flag (.ok true)),
    .answers (.done (.ok ())), .wakes, .answers (.done (.ok ()))]

/-- Both settings are written back. -/
def restoration : List (Event Document) := [.answers (.done (.ok ())), .answers (.done (.ok ()))]

/-- A run of the trial. -/
def runTrial (events : List (Event Document)) : Flow Document :=
  Execution.run (step ConfigFile.plainCrates Toml.ofDocuments trial) beginning events

theorem guided_enrollment_iff_known_headset :
    (runTrial (cancelledCapture (.ok true) ++ restoration)).phase =
        .returned (.error .cancelled) ∧
      (Promise (· = headset) beginning (runTrial (cancelledCapture (.ok true) ++ restoration))
          (cancelledCapture (.ok true) ++ restoration) (.error .cancelled) ↔
        ∀ device, device = headset →
          ¬ Overlooked device (runTrial (cancelledCapture (.ok true) ++ restoration)).trace) := by
  have returned : (runTrial (cancelledCapture (.ok true) ++ restoration)).phase =
      .returned (.error .cancelled) := rfl
  have fresh : beginning.Fresh := ⟨rfl, rfl, rfl⟩
  have promised := guided_enrollment_iff ConfigFile.plainCrates Toml.ofDocuments trial fresh
    (· = headset) (cancelledCapture (.ok true) ++ restoration)
  exact ⟨returned, promised.2 _ returned⟩

/-- The headset was connected, but could not be asked; it is removed by the cleanup. -/
theorem guided_enrollment_removes_headset :
    (runTrial (cancelledCapture (.error "timeout".toList) ++ cleanup ++ restoration)).phase =
        .returned (.error .cancelled) ∧
      ¬ Promise (· = headset) beginning
        (runTrial (cancelledCapture (.error "timeout".toList) ++ cleanup ++ restoration))
        (cancelledCapture (.error "timeout".toList) ++ cleanup ++ restoration)
        (.error .cancelled) := by
  refine ⟨rfl, fun promise => promise.spared headset rfl ?_⟩
  have trace : (runTrial (cancelledCapture (.error "timeout".toList) ++ cleanup ++
      restoration)).trace =
    [.readPairable true, .readTimeout 0, .requested (.setPairableTimeout 120),
      .requested (.setPairable true), .opened, .found headset, .requested (.disconnect headset),
      .requested (.removeDevice headset), .requested (.setPairableTimeout 0),
      .requested (.setPairable true)] := rfl
  rw [trace]
  exact .inl (by simp)

end PresenceUnlock.Cli.Advertise
