import PresenceUnlock.Cli.Checklist

/-!
# What the wizard says was done

The screens after a guided enrollment speak of the device that was enrolled and of what was put
back.  They know both from the reports alone, and these agree with what the flow did.
-/

namespace PresenceUnlock.Cli.Milestones

open RustStd
open Advertise (Event Flow Guided Note Request FlowError Committed Query Cleaning)

/-- What is done for good: a device that is enrolled, or removed from the adapter. -/
inductive Deed
  | enrolled (id : Option Text)
  | removed
  deriving DecidableEq

/-- What a report tells that the flow has done. -/
def Progress.deed? : Progress → Option Deed
  | .phase _ => none
  | .cleanup part => if part.label = removedLabel then some .removed else none
  | .enrolled id _ => some (.enrolled (some id))

/-- What there is to tell of a step. -/
def deed? : Note → Option Deed
  | .committed enrolled => some (.enrolled enrolled)
  | .requested (.removeDevice _) => some .removed
  | _ => none

variable {Source : Type}

section Phases

variable {guided : Guided} {event : Event Source}

theorem deeds_demand {α : Type} {result : Option (Except Text α)} {pending : Advertise.Phase}
    {next : α → Advertise.Phase × List Note}
    (goes : ∀ value, (next value).2.filterMap deed? = []) :
    (Advertise.demand result pending next).2.filterMap deed? = [] := by
  rcases result with _ | message | value
  · rfl
  · rfl
  · exact goes value

theorem deeds_request {asked : Request} {pending : Advertise.Phase}
    {next : Except Text Unit → Advertise.Phase} (keeps : deed? (.requested asked) = none) :
    (Advertise.request event asked pending next).2.filterMap deed? = [] := by
  unfold Advertise.request
  split
  · rfl
  · rw [List.filterMap_cons, keeps]
    rfl

/-- Whether a device is about to be removed. -/
def removes : Advertise.Phase → Bool
  | .cleaning _ _ _ _ .removing => true
  | _ => false

theorem exists_of_removes {phase : Advertise.Phase} (removing : removes phase = true) :
    ∃ before ending rest device, phase = .cleaning before ending rest device .removing := by
  unfold removes at removing
  split at removing
  · exact ⟨_, _, _, _, rfl⟩
  · cases removing

theorem deeds_restoration (event : Event Source) (attempts : Nat) (timeoutSet : Bool) :
    (restoration event attempts timeoutSet).filterMap Progress.deed? = [] := by
  unfold restoration
  split
  · rfl
  · split <;> rfl

/-- Outside of the capture nothing is done for good, but for the removal of devices. -/
theorem deeds_next (phase : Advertise.Phase) (keeps : removes phase = false) :
    (phase.next guided event).2.filterMap deed? = [] := by
  cases phase with
  | session | adapter | naming | establishing => exact deeds_demand fun _ => rfl
  | powered =>
      refine deeds_demand fun powered => ?_
      cases powered <;> rfl
  | readingPairable | readingTimeout => exact deeds_demand fun _ => rfl
  | examining established rest device query =>
      dsimp only [Advertise.Phase.next]
      split <;> rfl
  | widening | narrowing | restoringTimeout | restoringPairable => exact deeds_request rfl
  | opening before =>
      dsimp only [Advertise.Phase.next]
      split <;> rfl
  | capturing | saving | flagging | returned => rfl
  | sweeping before ending =>
      dsimp only [Advertise.Phase.next]
      split <;> rfl
  | asking before ending rest device query =>
      dsimp only [Advertise.Phase.next]
      split <;> rfl
  | pausing before ending attempts =>
      dsimp only [Advertise.Phase.next]
      split <;> rfl
  | cleaning before ending rest device cleaning =>
      cases cleaning with
      | waiting | settling =>
          dsimp only [Advertise.Phase.next]
          split <;> rfl
      | checking =>
          dsimp only [Advertise.Phase.next]
          split
          · rfl
          · split <;> rfl
      | disconnecting => exact deeds_request rfl
      | removing => cases keeps

/-- Whether the adapter has not been made pairable yet. -/
def unopened : Advertise.Phase → Bool
  | .session | .adapter | .powered | .naming | .establishing | .examining _ _ _ _
  | .readingPairable _ | .readingTimeout _ _ | .widening _ | .opening _ | .narrowing _ _ => true
  | _ => false

theorem opened_notMem {flow : Flow Source} (knows : flow.Knows)
    (closed : unopened flow.phase = true) :
    .opened ∉ flow.trace := by
  rw [Flow.Knows] at knows
  cases at_phase : flow.phase with
  | session | adapter | powered | naming | establishing | examining | readingPairable
  | readingTimeout | widening | opening | narrowing =>
      rw [at_phase] at knows
      exact knows.1.unopened
  | _ =>
      rw [at_phase] at closed
      cases closed

/-- Ways to return: before the adapter is opened, or with the settings written back. -/
inductive Returns (event : Event Source) (phase : Advertise.Phase)
    (result : Except FlowError Unit) (notes : List Note) : Prop
  | stays (same : phase = .returned result) (silent : notes = [])
  | early (closed : unopened phase = true) (unopens : .opened ∉ notes)
  | restored {before : Advertise.Before} {ending : Advertise.Ending} {attempts : Nat}
      {timeoutSet ok : Bool} (same : phase = .restoringPairable before ending attempts timeoutSet)
      (said : restoration event attempts timeoutSet = [.cleanup ⟨restoredLabel, ok⟩])

theorem returns_demand {α : Type} {answered : Option (Except Text α)} {phase : Advertise.Phase}
    {next : α → Advertise.Phase × List Note} {result : Except FlowError Unit}
    (closed : unopened phase = true) (goes : ∀ value, .opened ∉ (next value).2) :
    Returns event phase result (Advertise.demand answered phase next).2 := by
  refine .early closed ?_
  rcases answered with _ | message | value
  · exact List.not_mem_nil
  · exact List.not_mem_nil
  · exact goes value

theorem returns_request {asked : Request} {phase : Advertise.Phase}
    {next : Except Text Unit → Advertise.Phase} {result : Except FlowError Unit}
    (closed : unopened phase = true) :
    Returns event phase result (Advertise.request event asked phase next).2 := by
  refine .early closed ?_
  unfold Advertise.request
  split
  · exact List.not_mem_nil
  · simp

theorem ne_returned_sweep {before : Advertise.Before} {ending : Advertise.Ending}
    {addresses : List Address} {result : Except FlowError Unit} :
    Advertise.sweep before ending addresses ≠ .returned result := by
  induction addresses with
  | nil => simp [Advertise.sweep]
  | cons device rest induction =>
      rw [Advertise.sweep]
      split
      · exact induction
      · simp

theorem returns_next {phase : Advertise.Phase} {result : Except FlowError Unit}
    (returned : (phase.next guided event).1 = .returned result) :
    Returns event phase result (phase.next guided event).2 := by
  cases phase with
  | session | adapter | naming | establishing | readingPairable =>
      exact returns_demand rfl fun _ => by simp
  | readingTimeout => exact returns_demand rfl fun _ => by simp
  | powered =>
      refine returns_demand rfl fun powered => ?_
      cases powered <;> simp
  | examining established rest device query =>
      refine .early rfl ?_
      dsimp only [Advertise.Phase.next]
      split <;> simp
  | widening | narrowing => exact returns_request rfl
  | opening before =>
      dsimp only [Advertise.Phase.next] at returned
      split at returned <;> cases returned
  | capturing | saving | flagging => cases returned
  | sweeping before ending =>
      dsimp only [Advertise.Phase.next] at returned
      split at returned
      · cases returned
      · cases returned
      · exact (ne_returned_sweep returned).elim
  | asking before ending rest device query =>
      dsimp only [Advertise.Phase.next] at returned
      split at returned
      · cases returned
      · cases returned
      · cases returned
      · exact (ne_returned_sweep returned).elim
  | cleaning before ending rest device cleaning =>
      cases cleaning with
      | waiting | settling =>
          dsimp only [Advertise.Phase.next] at returned
          split at returned <;> cases returned
      | checking =>
          dsimp only [Advertise.Phase.next] at returned
          split at returned
          · cases returned
          · split at returned <;> cases returned
      | disconnecting =>
          dsimp only [Advertise.Phase.next, Advertise.request] at returned
          split at returned <;> cases returned
      | removing =>
          dsimp only [Advertise.Phase.next, Advertise.request] at returned
          split at returned
          · cases returned
          · exact (ne_returned_sweep returned).elim
  | restoringTimeout before ending attempts =>
      dsimp only [Advertise.Phase.next, Advertise.request] at returned
      split at returned <;> cases returned
  | restoringPairable before ending attempts timeoutSet =>
      dsimp only [Advertise.Phase.next, Advertise.request] at returned
      cases answered : event.done with
      | none =>
          rw [answered] at returned
          cases returned
      | some outcome =>
          rw [answered] at returned
          dsimp only at returned
          split at returned
          · rename_i last
            have said : restoration event attempts timeoutSet =
                [.cleanup ⟨restoredLabel, timeoutSet && outcome.toBool⟩] := by
              rw [restoration, answered]
              exact if_pos last
            exact .restored rfl said
          · cases returned
  | pausing before ending attempts =>
      dsimp only [Advertise.Phase.next] at returned
      split at returned <;> cases returned
  | returned outcome =>
      cases returned
      exact .stays rfl rfl

end Phases

section Deeds

variable [DecidableEq Source] {crates : Crates} {toml : Toml Source} {guided : Guided}
  {flow next : Flow Source} {event : Event Source} {name : Text} {reports : List Progress}

theorem isSome_of_save (saves : guided.save = true) {key : Key} {peerName : Option Text}
    {store : Option Source} {enrolled : Option Text}
    (saved : (Flow.save crates toml guided key peerName store).1 = .ok enrolled) :
    ∃ id, enrolled = some id := by
  unfold Flow.save saveIrk at saved
  simp only [saves, Bool.not_true, Bool.false_eq_true, if_false] at saved
  generalize (enrollIrk crates toml key guided.profile guided.id _ store).1 = outcome at saved
  cases outcome with
  | error error => cases saved
  | ok id =>
      cases saved
      exact ⟨id, rfl⟩

/-- What a step adds to the trace, and what it reports, are the same deeds. -/
theorem deeds_of_moves (moves : Moves crates toml guided name flow event next reports)
    (saves : guided.save = true) :
    ∃ more, next.trace = flow.trace ++ more ∧
      reports.filterMap Progress.deed? = more.filterMap deed? := by
  cases moves with
  | edited | stays => exact ⟨[], (List.append_nil _).symm, rfl⟩
  | @turns _ before stage next capturing turn =>
      refine ⟨[], rfl, ?_⟩
      cases phaseBetween name event stage next <;> rfl
  | saves | fails | cancels | flags | ready => exact ⟨[], rfl, rfl⟩
  | commits saving saved store =>
      obtain ⟨id, rfl⟩ := isSome_of_save saves saved
      exact ⟨_, rfl, rfl⟩
  | refuses => exact ⟨[], rfl, rfl⟩
  | other unready =>
      refine ⟨_, rfl, ?_⟩
      by_cases removing : removes flow.phase = true
      · obtain ⟨before, ending, rest, device, at_phase⟩ := exists_of_removes removing
        rw [at_phase, cleanupReports, Advertise.Phase.next, Advertise.request, removal]
        cases event.done <;> rfl
      · rw [deeds_next flow.phase (Bool.eq_false_of_not_eq_true removing)]
        unfold cleanupReports
        split
        · exact (removing (by rename_i at_phase; rw [at_phase]; rfl)).elim
        · exact deeds_restoration event _ _
        · rfl

/-- A step that returns, or a flow that has returned. -/
theorem returned_of_moves (moves : Moves crates toml guided name flow event next reports)
    {result : Except FlowError Unit} (returned : next.phase = .returned result) :
    (flow.phase = .returned result ∧ next.trace = flow.trace ∧ reports = []) ∨
      (unopened flow.phase = true ∧ ∃ more, next.trace = flow.trace ++ more ∧ .opened ∉ more) ∨
        ∃ ok, reports = [.cleanup ⟨restoredLabel, ok⟩] := by
  cases moves with
  | edited | stays => exact .inl ⟨returned, rfl, rfl⟩
  | turns | saves | fails | cancels | commits | refuses | flags | ready => cases returned
  | other unready =>
      cases returns_next returned with
      | stays same silent =>
          refine .inl ⟨same, ?_, by rw [same]; rfl⟩
          rw [Flow.goto, silent, List.append_nil]
      | early closed unopens => exact .inr (.inl ⟨closed, _, rfl, unopens⟩)
      | @restored before ending attempts timeoutSet ok same said =>
          refine .inr (.inr ⟨ok, ?_⟩)
          rw [same]
          exact said

end Deeds

/-- What is known of the reports of a flow. -/
structure Truthful (watched : Watched Source) : Prop where
  /-- What is known of the flow. -/
  knows : watched.flow.Knows
  /-- The reports tell exactly what was done, in order. -/
  deeds : watched.reports.filterMap Progress.deed? = watched.flow.trace.filterMap deed?
  /-- If the window was opened, the last report is about the settings. -/
  restored : ∀ result, watched.flow.phase = .returned result → .opened ∈ watched.flow.trace →
    ∃ ok, watched.reports.getLast? = some (.cleanup ⟨restoredLabel, ok⟩)

theorem truthful_begin (store : Option Source) : Truthful (begin store) where
  knows := Flow.knows_of_fresh ⟨rfl, rfl, rfl⟩
  deeds := rfl
  restored result returned := by cases returned

variable [DecidableEq Source] {crates : Crates} {toml : Toml Source} {guided : Guided}

theorem Truthful.step {watched : Watched Source} (truthful : Truthful watched)
    (saves : guided.save = true) (event : Event Source) :
    Truthful (watched.step crates toml guided event) := by
  have moves := moves_step crates toml guided watched.name watched.flow event
  refine ⟨Flow.knows_step truthful.knows event, ?_, ?_⟩
  · obtain ⟨more, grown, same⟩ := deeds_of_moves moves saves
    rw [Watched.step, grown, List.filterMap_append, List.filterMap_append, truthful.deeds, same]
  · intro result returned opened
    rw [Watched.step] at returned opened ⊢
    dsimp only at returned opened ⊢
    rcases returned_of_moves moves returned with
      ⟨before, same, silent⟩ | ⟨closed, more, grown, unopens⟩ | ⟨ok, said⟩
    · rw [silent, List.append_nil]
      exact truthful.restored result before (same ▸ opened)
    · rw [grown] at opened
      rcases List.mem_append.mp opened with earlier | later
      · exact (opened_notMem truthful.knows closed earlier).elim
      · exact (unopens later).elim
    · refine ⟨ok, ?_⟩
      rw [said, List.getLast?_concat]

theorem truthful_run (crates : Crates) (toml : Toml Source) (saves : guided.save = true)
    (store : Option Source) (events : List (Event Source)) :
    Truthful (Execution.run (Watched.step crates toml guided) (begin store) events) :=
  Execution.run_invariant Truthful (fun _ event truthful => truthful.step saves event)
    (truthful_begin store) events

/-- What was put back, if that is reported. -/
def Progress.cleanup? : Progress → Option Cleanup
  | .cleanup part => some part
  | _ => none

theorem PairState.cleanup_after (reports : List Progress) :
    (after reports).cleanup = reports.filterMap Progress.cleanup? := by
  induction reports using List.reverseRecOn with
  | nil => rfl
  | append_singleton reports more induction =>
      rw [after_append, List.filterMap_append, ← induction]
      cases more with
      | phase phase => cases phase <;> exact (List.append_nil _).symm
      | cleanup part => rfl
      | enrolled id name => exact (List.append_nil _).symm

/-- The device on the screen is one that was reported. -/
theorem PairState.enrolled_of_enrolledId {reports : List Progress} {id : Text}
    (known : (after reports).enrolledId = some id) :
    .enrolled (some id) ∈ reports.filterMap Progress.deed? := by
  induction reports using List.reverseRecOn with
  | nil => cases known
  | append_singleton reports more induction =>
      rw [after_append] at known
      rw [List.filterMap_append, List.mem_append]
      cases more with
      | phase phase => cases phase <;> exact .inl (induction known)
      | cleanup part => exact .inl (induction known)
      | enrolled id name =>
          cases known
          exact .inr (List.mem_singleton_self _)

theorem PairState.isSome_enrolledId {reports : List Progress} {id : Option Text}
    (reported : .enrolled id ∈ reports.filterMap Progress.deed?) :
    (after reports).enrolledId.isSome = true := by
  induction reports using List.reverseRecOn with
  | nil => cases reported
  | append_singleton reports more induction =>
      rw [after_append]
      rw [List.filterMap_append, List.mem_append] at reported
      cases more with
      | phase phase =>
          have earlier := induction (reported.resolve_right List.not_mem_nil)
          cases phase <;> exact earlier
      | cleanup part =>
          refine induction (reported.resolve_right fun last => ?_)
          rw [List.filterMap_cons, Progress.deed?] at last
          split at last
          · rename_i silent
            cases last
          · rename_i deed said
            split at said
            · cases said
              cases List.mem_singleton.mp last
            · cases said
      | enrolled id name => rfl

theorem mem_deeds_iff {trace : List Note} {enrolled : Option Text} :
    .enrolled enrolled ∈ trace.filterMap deed? ↔ .committed enrolled ∈ trace := by
  rw [List.mem_filterMap]
  constructor
  · rintro ⟨note, member, deed⟩
    unfold deed? at deed
    split at deed
    · cases deed
      exact member
    · cases deed
    · cases deed
  · intro member
    exact ⟨_, member, rfl⟩

/-- A removal, as the screen names it. -/
def Cleanup.removed (part : Cleanup) : Bool := part.label = removedLabel

/-- A device is asked to be removed. -/
def isRemoval : Note → Bool
  | .requested (.removeDevice _) => true
  | _ => false

theorem count_removed_reports (reports : List Progress) :
    (reports.filterMap Progress.deed?).count .removed =
      ((reports.filterMap Progress.cleanup?).filter Cleanup.removed).length := by
  induction reports with
  | nil => rfl
  | cons report reports induction =>
      cases report with
      | phase phase => exact induction
      | enrolled id name =>
          simpa [List.filterMap_cons, Progress.deed?, Progress.cleanup?] using induction
      | cleanup part =>
          by_cases removed : part.label = removedLabel
          · simp [Progress.deed?, Progress.cleanup?, Cleanup.removed, removed, induction]
          · simp [Progress.deed?, Progress.cleanup?, Cleanup.removed, removed, induction]

theorem count_removed_trace (trace : List Note) :
    (trace.filterMap deed?).count .removed = (trace.filter isRemoval).length := by
  induction trace with
  | nil => rfl
  | cons note trace induction =>
      cases note with
      | requested request =>
          cases request <;>
            simp [List.filterMap_cons, List.filter_cons, deed?, isRemoval, induction]
      | _ => simp [List.filterMap_cons, deed?, isRemoval, induction]

/-- The line of the cancelled screen that speaks of the device. -/
def cancelledLine (state : PairState) : Text :=
  if state.enrolledId.isSome then "A device was enrolled before cancellation.".toList
  else "No device was enrolled.".toList

/-- Over every run of an enrollment that is to be saved, the screens that follow it say what was
done: the device they name is the one that was committed, they say that there is none only if there
is none, they have one line for each removal, and the last line is about the settings if the adapter
was made pairable. -/
theorem outcome_told (crates : Crates) (toml : Toml Source) {guided : Guided}
    (saves : guided.save = true) (store : Option Source) (events : List (Event Source)) :
    let watched := Execution.run (Watched.step crates toml guided) (begin store) events
    let state := PairState.after watched.reports
    (∀ id, state.enrolledId = some id → .committed (some id) ∈ watched.flow.trace) ∧
      (cancelledLine state = "No device was enrolled.".toList ↔ ¬ Committed watched.flow.trace) ∧
      (state.cleanup.filter Cleanup.removed).length =
        (watched.flow.trace.filter isRemoval).length ∧
      ∀ result, watched.flow.phase = .returned result →
        (result = .ok () ↔ state.enrolledId.isSome = true) ∧
          (.opened ∈ watched.flow.trace →
            ∃ ok, state.cleanup.getLast? = some ⟨restoredLabel, ok⟩) := by
  intro watched state
  have truthful : Truthful watched := truthful_run crates toml saves store events
  have committed_of : ∀ enrolled, .enrolled enrolled ∈ watched.reports.filterMap Progress.deed? ↔
      .committed enrolled ∈ watched.flow.trace := by
    intro enrolled
    rw [truthful.deeds]
    exact mem_deeds_iff
  have committed : state.enrolledId.isSome = true ↔ Committed watched.flow.trace := by
    constructor
    · intro known
      obtain ⟨id, known⟩ := Option.isSome_iff_exists.mp known
      exact ⟨_, (committed_of _).mp (PairState.enrolled_of_enrolledId known)⟩
    · rintro ⟨enrolled, known⟩
      exact PairState.isSome_enrolledId ((committed_of enrolled).mpr known)
  refine ⟨fun id known => (committed_of _).mp (PairState.enrolled_of_enrolledId known), ?_, ?_, ?_⟩
  · rw [← committed, cancelledLine]
    split
    · rename_i known
      exact iff_of_false (by decide) (not_not.mpr known)
    · rename_i unknown
      exact iff_of_true rfl unknown
  · rw [PairState.cleanup_after, ← count_removed_reports, truthful.deeds, count_removed_trace]
  · intro result returned
    have ends : Advertise.Returned result watched.flow.trace := by
      have knows := truthful.knows
      rwa [Flow.Knows, returned] at knows
    refine ⟨ends.truthful.trans committed.symm, fun opened => ?_⟩
    obtain ⟨ok, last⟩ := truthful.restored result returned opened
    refine ⟨ok, ?_⟩
    obtain ⟨front, reports⟩ := List.getLast?_eq_some_iff.mp last
    rw [PairState.cleanup_after, reports, List.filterMap_append]
    exact List.getLast?_concat

/-- The user cancels while the adapter is advertised; the settings are written back. -/
def cancelled : List (Event Document) :=
  advertised ++ [.cancels, .answers (.addresses (.ok [])), .answers (.done (.ok ())),
    .answers (.done (.ok ()))]

/-- An enrollment that is to be saved. -/
def enrollment : Guided := { Advertise.trial with save := true }

theorem outcome_told_cancelled :
    (watch enrollment cancelled).flow.phase = .returned (.error .cancelled) ∧
      cancelledLine (PairState.after (watch enrollment cancelled).reports) =
        "No device was enrolled.".toList := by
  have returned : (watch enrollment cancelled).flow.phase = .returned (.error .cancelled) := rfl
  have saves : enrollment.save = true := rfl
  obtain ⟨_, line, _, _⟩ :=
    outcome_told ConfigFile.plainCrates Toml.ofDocuments saves none cancelled
  refine ⟨returned, line.mpr ?_⟩
  have trace : (watch enrollment cancelled).flow.trace = [.readPairable true, .readTimeout 0,
    .requested (.setPairableTimeout 120), .requested (.setPairable true), .opened,
    .requested (.setPairableTimeout 0), .requested (.setPairable true)] := rfl
  rintro ⟨enrolled, committed⟩
  change _ ∈ (watch enrollment cancelled).flow.trace at committed
  rw [trace] at committed
  simp at committed

end PresenceUnlock.Cli.Milestones
