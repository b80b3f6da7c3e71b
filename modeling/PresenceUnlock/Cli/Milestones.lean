import PresenceUnlock.Cli.GuidedEnrollment

/-!
# How far a guided enrollment has got

The flow reports its phases, its enrollment and its cleanup as they happen.  Whatever the Bluetooth
stack answers and whenever the user cancels, the phases are reported in their order, each of them
once, and the last one names the step at which a flow fails.
-/

namespace PresenceUnlock.Cli.Milestones

open RustStd Advertise

/-- `enrollment::Phase`: how far an enrollment has got. -/
inductive Phase
  | adapterReady
  | monitorReady
  | advertising (name : Text)
  | connected (name : Option Text)
  | bonded
  | identityReceived
  | verified
  deriving DecidableEq, Repr

/-- The position in the sequence. -/
def Phase.rank : Phase → ℕ
  | .adapterReady => 0
  | .monitorReady => 1
  | .advertising _ => 2
  | .connected _ => 3
  | .bonded => 4
  | .identityReceived => 5
  | .verified => 6

/-- One thing that was put back. -/
structure Cleanup where
  /-- What was put back. -/
  label : Text
  /-- Whether that succeeded. -/
  ok : Bool
  deriving DecidableEq, Repr

/-- What the flow reports. -/
inductive Progress
  | phase (phase : Phase)
  | cleanup (cleanup : Cleanup)
  | enrolled (id : Text) (name : Option Text)
  deriving DecidableEq, Repr

/-- The phase, if it is one. -/
def Progress.phase? : Progress → Option Phase
  | .phase reached => some reached
  | _ => none

/-- The ranks of the phases that were reported. -/
def ranks (reports : List Progress) : List ℕ :=
  (reports.filterMap Progress.phase?).map Phase.rank

/-- The label of a device that is removed. -/
def removedLabel : Text := "Temporary Bluetooth device removed".toList

/-- The label of the settings. -/
def restoredLabel : Text := "Adapter settings restored".toList

variable {Source : Type}

/-- The phase that the capture reports between two of its stages. -/
def phaseBetween (name : Text) (event : Event Source) : Stage → Stage → Option Phase
  | .monitor, .agent => some .monitorReady
  | .advertisement, .listing => some (.advertising name)
  | .greeting _, .pairing _ =>
      some (.connected (reportedName (event.name.bind Except.toOption)))
  | .pairing _, .identifying _ | .awaitingPaired _, .identifying _ => some .bonded
  | .capturing _ _, .naming _ => some .identityReceived
  | _, _ => none

section Turns

/-- How many phases have been reported when the capture is at a stage. -/
def reachedAt : Stage → ℕ
  | .starting | .monitor => 1
  | .agent | .application | .advertisement => 2
  | .listing | .asking _ _ _ | .pausing | .greeting _ => 3
  | .pairing _ | .awaitingPaired _ | .pausingPaired _ => 4
  | .identifying _ | .capturing _ _ => 5
  | .naming _ | .aliasing _ | .deadline _ | .pausingName _ => 6

/-- How many phases have been reported when a flow ends so. -/
def Ends : Except FlowError Unit → ℕ → Prop
  | .ok (), n => n = 7
  | .error (.notPowered _), n => n = 0
  | .error (.noController _), n => n = 1
  | .error (.noConnection _), n => n = 3
  | .error (.pairingFailed _), n | .error .pairingTimedOut, n | .error .pairingIncomplete, n =>
      n = 4
  | .error (.capture .noIrk), n | .error (.capture .unresolved), n => n = 5
  | .error (.capture (.edit _)), n => n = 6
  | .error (.capture (.bond _)), _ => False
  | .error .cancelled, n => 1 ≤ n ∧ n ≤ 6
  | .error (.bluez _), n => n ≤ 5

theorem one_le_reachedAt (stage : Stage) : 1 ≤ reachedAt stage := by
  cases stage <;> exact of_decide_eq_true rfl

theorem reachedAt_le (stage : Stage) : reachedAt stage ≤ 6 := by
  cases stage <;> exact of_decide_eq_true rfl

variable {crates : Crates} {guided : Guided} {established : List Address} {name : Text}
  {event : Event Source}

/-- What a turn of the capture means for the phases that were reported before it. -/
def Turns (name : Text) (event : Event Source) (stage : Stage) : Turn → Prop
  | .pends next =>
      phaseBetween name event stage next = none ∧ reachedAt next = reachedAt stage ∨
        ∃ phase, phaseBetween name event stage next = some phase ∧ phase.rank = reachedAt stage ∧
          reachedAt next = reachedAt stage + 1
  | .saves _ _ => reachedAt stage = 6
  | .fails error => Ends (.error error) (reachedAt stage)

theorem turns_attempt {α : Type} {result : Option (Except Text α)} {stage : Stage}
    {next : α → Turn} (same : phaseBetween name event stage stage = none)
    (bluez : reachedAt stage ≤ 5) (goes : ∀ value, Turns name event stage (next value)) :
    Turns name event stage (attempt result stage next) := by
  rcases result with _ | message | value
  · exact .inl ⟨same, rfl⟩
  · exact bluez
  · exact goes value

/-- Only the wait for a connection can time out so. -/
theorem turns_connection {stage : Stage} {turn : Turn} (waits : reachedAt stage = 3)
    (goes : Turns name event stage turn) :
    Turns name event stage (Stage.connection guided event turn) := by
  unfold Stage.connection
  split
  · exact waits
  · exact goes

/-- A stage that goes on to one with as many phases behind it. -/
theorem turns_same {stage next : Stage} (silent : phaseBetween name event stage next = none)
    (same : reachedAt next = reachedAt stage) : Turns name event stage (.pends next) :=
  .inl ⟨silent, same⟩

theorem turns_phase {stage next : Stage} {phase : Phase}
    (said : phaseBetween name event stage next = some phase) (rank : phase.rank = reachedAt stage)
    (more : reachedAt next = reachedAt stage + 1) : Turns name event stage (.pends next) :=
  .inr ⟨phase, said, rank, more⟩

theorem turns_seek {stage : Stage} (waits : reachedAt stage = 3)
    (silent : ∀ next, phaseBetween name event stage next = none) (addresses : List Address) :
    Turns name event stage (.pends (seek established addresses)) := by
  refine turns_same (silent _) ?_
  rw [waits]
  induction addresses with
  | nil => rfl
  | cons device rest induction =>
      rw [seek]
      split
      · exact induction
      · rfl

theorem eq_unresolved_of_selfCheck {irk : Key} {scanned : Address} {error : PairingError}
    (failed : selfCheck crates irk scanned = .error error) : error = .unresolved := by
  unfold selfCheck at failed
  dsimp only at failed
  split at failed
  · cases failed
  · split at failed
    · cases failed
    · cases failed
      rfl

theorem turns_next (crates : Crates) (guided : Guided) (established : List Address) (name : Text)
    (event : Event Source) (stage : Stage) :
    Turns name event stage (stage.next crates guided established event) := by
  cases stage with
  | starting =>
      dsimp only [Stage.next]
      split
      · split
        · exact rfl
        · exact turns_same rfl rfl
      · exact turns_same rfl rfl
  | monitor => exact turns_attempt rfl (by decide) fun _ => turns_phase rfl rfl rfl
  | agent => exact turns_attempt rfl (by decide) fun _ => turns_same rfl rfl
  | application => exact turns_attempt rfl (by decide) fun _ => turns_same rfl rfl
  | advertisement => exact turns_attempt rfl (by decide) fun _ => turns_phase rfl rfl rfl
  | listing =>
      exact turns_connection rfl <|
        turns_attempt rfl (by decide) fun addresses => turns_seek rfl (fun _ => rfl) addresses
  | asking rest device query =>
      refine turns_connection rfl ?_
      split
      · exact turns_same rfl rfl
      · exact turns_same rfl rfl
      · exact turns_same rfl rfl
      · exact turns_seek rfl (fun _ => rfl) rest
  | pausing =>
      refine turns_connection rfl ?_
      split
      · exact turns_same rfl rfl
      · exact turns_same rfl rfl
  | greeting device =>
      dsimp only [Stage.next]
      split
      · exact turns_same rfl rfl
      · exact turns_phase rfl rfl rfl
  | pairing device =>
      dsimp only [Stage.next]
      split
      · exact rfl
      · exact turns_same rfl rfl
      · exact turns_phase rfl rfl rfl
      · split
        · exact turns_same rfl rfl
        · exact rfl
  | awaitingPaired device =>
      dsimp only [Stage.next]
      split
      · exact rfl
      · exact turns_same rfl rfl
      · split
        · exact turns_phase rfl rfl rfl
        · exact turns_same rfl rfl
  | pausingPaired device =>
      dsimp only [Stage.next]
      split
      · exact rfl
      · exact turns_same rfl rfl
      · exact turns_same rfl rfl
  | identifying device =>
      dsimp only [Stage.next]
      split
      · exact rfl
      · exact turns_same rfl rfl
      · exact turns_same rfl rfl
  | capturing device identity =>
      dsimp only [Stage.next]
      split
      · exact rfl
      · refine turns_attempt rfl (Nat.le_refl 5) fun capture => ?_
        split
        · split
          · rename_i error failed
            rw [eq_unresolved_of_selfCheck failed]
            exact rfl
          · exact turns_phase rfl rfl rfl
        · exact turns_same rfl rfl
  | naming key =>
      dsimp only [Stage.next]
      split
      · exact turns_same rfl rfl
      · split
        · exact rfl
        · exact turns_same rfl rfl
  | aliasing key =>
      dsimp only [Stage.next]
      split
      · exact turns_same rfl rfl
      · split
        · exact rfl
        · exact turns_same rfl rfl
  | deadline key =>
      dsimp only [Stage.next]
      split
      · exact rfl
      · exact turns_same rfl rfl
      · exact turns_same rfl rfl
  | pausingName key =>
      dsimp only [Stage.next]
      split
      · exact turns_same rfl rfl
      · exact turns_same rfl rfl

end Turns

section Ways

variable {guided : Guided} {event : Event Source} {n : ℕ}

/-- How many phases have been reported when the flow is there. -/
def ReachedIn : Advertise.Phase → ℕ → Prop
  | .session, n | .adapter, n | .powered, n => n = 0
  | .naming, n | .establishing, n | .examining _ _ _ _, n | .readingPairable _, n
  | .readingTimeout _ _, n | .widening _, n | .opening _, n | .narrowing _ _, n => n = 1
  | .capturing _ stage, n => n = reachedAt stage
  | .saving _ _ _, n | .flagging _, n => n = 6
  | .sweeping _ ending, n | .asking _ ending _ _ _, n | .cleaning _ ending _ _ _, n
  | .restoringTimeout _ ending _, n | .restoringPairable _ ending _ _, n
  | .pausing _ ending _, n => Ends ending.result n ∧ (ending.enrolled = true → n = 7)
  | .returned result, n => Ends result n

theorem reachedIn_examine {established addresses : List Address} :
    ReachedIn (examine established addresses) 1 := by
  cases addresses <;> rfl

theorem reachedIn_sweep {before : Before} {ending : Ending} (addresses : List Address)
    (ended : Ends ending.result n ∧ (ending.enrolled = true → n = 7)) :
    ReachedIn (sweep before ending addresses) n := by
  induction addresses with
  | nil => exact ended
  | cons device rest induction =>
      rw [sweep]
      split
      · exact induction
      · exact ended

theorem ends_answer {ending : Ending} (ended : Ends ending.result n)
    (enrolled : ending.enrolled = true → n = 7) : Ends ending.answer n := by
  rw [Ending.answer]
  split
  · exact enrolled ‹_›
  · exact ended

theorem reachedIn_demand {α : Type} {result : Option (Except Text α)} {pending : Advertise.Phase}
    {next : α → Advertise.Phase × List Note} (stays : ReachedIn pending n) (bluez : n ≤ 5)
    (goes : ∀ value, ReachedIn (next value).1 n) : ReachedIn (demand result pending next).1 n := by
  rcases result with _ | message | value
  · exact stays
  · exact bluez
  · exact goes value

theorem reachedIn_request {asked : Request} {pending : Advertise.Phase}
    {next : Except Text Unit → Advertise.Phase} (stays : ReachedIn pending n)
    (goes : ∀ result, ReachedIn (next result) n) :
    ReachedIn (request event asked pending next).1 n := by
  unfold request
  split
  · exact stays
  · exact goes _

/-- Outside of the capture, the phases stay as many, until the adapter is ready. -/
theorem reachedIn_next {phase : Advertise.Phase} (reached : ReachedIn phase n)
    (further : phase ≠ .powered) : ReachedIn (phase.next guided event).1 n := by
  cases phase with
  | session | adapter =>
      cases reached
      exact reachedIn_demand rfl (Nat.zero_le _) fun _ => rfl
  | powered => exact (further rfl).elim
  | naming =>
      cases reached
      exact reachedIn_demand rfl (by decide) fun _ => rfl
  | establishing =>
      cases reached
      exact reachedIn_demand rfl (by decide) fun _ => reachedIn_examine
  | examining established rest device query =>
      cases reached
      dsimp only [Advertise.Phase.next]
      split
      · exact rfl
      · exact rfl
      · exact reachedIn_examine
      · exact reachedIn_examine
  | readingPairable established =>
      cases reached
      exact reachedIn_demand rfl (by decide) fun _ => rfl
  | readingTimeout established pairable =>
      cases reached
      exact reachedIn_demand rfl (by decide) fun _ => rfl
  | widening before =>
      cases reached
      refine reachedIn_request rfl fun result => ?_
      cases result with
      | ok _ => exact rfl
      | error message => exact (by decide : 1 ≤ 5)
  | opening before =>
      cases reached
      dsimp only [Advertise.Phase.next]
      split
      · exact rfl
      · exact rfl
      · exact rfl
  | narrowing before message =>
      cases reached
      exact reachedIn_request rfl fun _ => (by decide : 1 ≤ 5)
  | capturing before stage => exact reached
  | saving before key peerName => exact reached
  | flagging before => exact reached
  | sweeping before ending =>
      dsimp only [Advertise.Phase.next]
      split
      · exact reached
      · exact reached
      · exact reachedIn_sweep _ reached
  | asking before ending rest device query =>
      dsimp only [Advertise.Phase.next]
      split
      · exact reached
      · exact reached
      · exact reached
      · exact reachedIn_sweep _ reached
  | cleaning before ending rest device cleaning =>
      cases cleaning with
      | waiting | settling =>
          dsimp only [Advertise.Phase.next]
          split
          · exact reached
          · exact reached
      | checking =>
          dsimp only [Advertise.Phase.next]
          split
          · exact reached
          · split
            · exact reached
            · exact reached
      | disconnecting => exact reachedIn_request reached fun _ => reached
      | removing => exact reachedIn_request reached fun _ => reachedIn_sweep _ reached
  | restoringTimeout before ending attempts => exact reachedIn_request reached fun _ => reached
  | restoringPairable before ending attempts timeoutSet =>
      refine reachedIn_request reached fun result => ?_
      split
      · exact ends_answer reached.1 reached.2
      · exact reached
  | pausing before ending attempts =>
      dsimp only [Advertise.Phase.next]
      split
      · exact reached
      · exact reached
  | returned result => exact reached

end Ways

/-- What is said of a device that was to be removed. -/
def removal (event : Event Source) : List Progress :=
  event.done.toList.map fun result => .cleanup ⟨removedLabel, result.toBool⟩

/-- What is said of the settings once they are written back, or given up. -/
def restoration (event : Event Source) (attempts : Nat) (timeoutSet : Bool) : List Progress :=
  match event.done with
  | none => []
  | some result =>
      if (timeoutSet && result.toBool) || attempts + 1 = restoreAttempts then
        [.cleanup ⟨restoredLabel, timeoutSet && result.toBool⟩]
      else []

/-- What is reported outside of the capture, once the adapter is ready. -/
def cleanupReports (event : Event Source) : Advertise.Phase → List Progress
  | .cleaning _ _ _ _ .removing => removal event
  | .restoringPairable _ _ attempts timeoutSet => restoration event attempts timeoutSet
  | _ => []

theorem ranks_removal (event : Event Source) : ranks (removal event) = [] := by
  unfold removal
  cases event.done <;> rfl

theorem ranks_restoration (event : Event Source) (attempts : Nat) (timeoutSet : Bool) :
    ranks (restoration event attempts timeoutSet) = [] := by
  unfold restoration
  split
  · rfl
  · split <;> rfl

theorem ranks_cleanupReports (event : Event Source) (phase : Advertise.Phase) :
    ranks (cleanupReports event phase) = [] := by
  unfold cleanupReports
  split
  · exact ranks_removal event
  · exact ranks_restoration event _ _
  · rfl

/-- The flag of the flow is set with its last phase. -/
structure Reached (flow : Flow Source) (n : ℕ) : Prop where
  /-- As many phases were reported as its phase says. -/
  phase : ReachedIn flow.phase n
  /-- The flag is set with the last of them. -/
  saved : flow.saved = true → n = 7

theorem Reached.at_stage {flow : Flow Source} {n : ℕ} {before : Before} {stage : Stage}
    (reached : Reached flow n)
    (capturing : flow.phase = .capturing before stage) : n = reachedAt stage := by
  have known := reached.phase
  rwa [capturing] at known

/-- A flow with the name it read, and all that it has reported. -/
structure Watched (Source : Type) where
  /-- The flow. -/
  flow : Flow Source
  /-- The name. -/
  name : Text
  /-- The reports, in order. -/
  reports : List Progress

/-- A flow that is about to begin. -/
def begin (store : Option Source) : Watched Source := ⟨⟨.session, false, store, []⟩, [], []⟩

/-- What the wizard has seen of a flow: its phases in their order, each of them once. -/
structure Ordered (watched : Watched Source) (n : ℕ) : Prop where
  /-- The ranks of the phases are the first ones, in order. -/
  ranks : ranks watched.reports = List.range n
  /-- The flow has got as far. -/
  reached : Reached watched.flow n

theorem ranks_append (first second : List Progress) :
    ranks (first ++ second) = ranks first ++ ranks second := by
  rw [ranks, List.filterMap_append, List.map_append]
  rfl

theorem ordered_begin (store : Option Source) : Ordered (begin store) 0 :=
  ⟨rfl, rfl, fun saved => by cases saved⟩

/-- The end of the capture, whatever it is. -/
theorem reached_leave {flow : Flow Source} {n : ℕ} {before : Before}
    {result : Except FlowError Unit} (saved : flow.saved = true → n = 7) (ends : Ends result n) :
    Reached (flow.leave before result) n :=
  ⟨⟨ends, saved⟩, saved⟩

variable [DecidableEq Source] (crates : Crates) (toml : Toml Source) (guided : Guided)

/-- What a step of the flow reports; the name is the one under which the adapter advertises. -/
def reported (name : Text) (flow : Flow Source) (event : Event Source) : List Progress :=
  match event, flow.phase with
  | .edited _, _ => []
  | .cancels, .capturing _ _ => []
  | event, .capturing before stage =>
      match stage.next crates guided before.established event with
      | .pends next => (phaseBetween name event stage next).toList.map .phase
      | _ => []
  | .proceeds, .saving _ key peerName =>
      match (Flow.save crates toml guided key peerName flow.store).1 with
      | .ok (some id) => [.enrolled id peerName]
      | _ => []
  | .proceeds, .flagging _ => [.phase .verified]
  | event, .powered => if event.flag = some (.ok true) then [.phase .adapterReady] else []
  | event, .cleaning _ _ _ _ .removing => removal event
  | event, .restoringPairable _ _ attempts timeoutSet => restoration event attempts timeoutSet
  | _, _ => []

/-- The name of the adapter is read once. -/
def nameAfter (name : Text) (flow : Flow Source) (event : Event Source) : Text :=
  match flow.phase, event.name with
  | .naming, some (.ok read) => read
  | _, _ => name

/-- One event. -/
def Watched.step (watched : Watched Source) (event : Event Source) : Watched Source where
  flow := watched.flow.step crates toml guided event
  name := nameAfter watched.name watched.flow event
  reports := watched.reports ++ reported crates toml guided watched.name watched.flow event

/-- The steps of the flow, with what each of them reports. -/
inductive Moves (name : Text) (flow : Flow Source) :
    Event Source → Flow Source → List Progress → Prop
  | edited (store : Option Source) : Moves name flow (.edited store) { flow with store := store } []
  | stays {event : Event Source} : Moves name flow event flow []
  | turns {event : Event Source} {before : Before} {stage next : Stage}
      (capturing : flow.phase = .capturing before stage)
      (turn : stage.next crates guided before.established event = .pends next) :
      Moves name flow event (flow.goto (.capturing before next, []))
        ((phaseBetween name event stage next).toList.map .phase)
  | saves {event : Event Source} {before : Before} {stage : Stage} {key : Key}
      {peerName : Option Text} (capturing : flow.phase = .capturing before stage)
      (turn : stage.next crates guided before.established event = .saves key peerName) :
      Moves name flow event (flow.goto (.saving before key peerName, [])) []
  | fails {event : Event Source} {before : Before} {stage : Stage} {error : FlowError}
      (capturing : flow.phase = .capturing before stage)
      (turn : stage.next crates guided before.established event = .fails error) :
      Moves name flow event (flow.leave before (.error error)) []
  | cancels {before : Before} {stage : Stage} (capturing : flow.phase = .capturing before stage) :
      Moves name flow .cancels (flow.leave before (.error .cancelled)) []
  | commits {before : Before} {key : Key} {peerName enrolled : Option Text}
      (saving : flow.phase = .saving before key peerName)
      (saved : (Flow.save crates toml guided key peerName flow.store).1 = .ok enrolled)
      (store : Option Source) :
      Moves name flow .proceeds
        ({ flow with store := store }.goto (.flagging before, [.committed enrolled]))
        (enrolled.toList.map fun id => .enrolled id peerName)
  | refuses {before : Before} {key : Key} {peerName : Option Text} {error : PairingError}
      (saving : flow.phase = .saving before key peerName)
      (failed : (Flow.save crates toml guided key peerName flow.store).1 = .error error)
      (store : Option Source) :
      Moves name flow .proceeds
        ({ flow with store := store }.leave before (.error (.capture error))) []
  | flags {before : Before} (flagging : flow.phase = .flagging before) :
      Moves name flow .proceeds ({ flow with saved := true }.leave before (.ok ()))
        [.phase .verified]
  | ready {event : Event Source} (powered : flow.phase = .powered)
      (answered : event.flag = some (.ok true)) :
      Moves name flow event (flow.goto (.naming, [])) [.phase .adapterReady]
  | other {event : Event Source} (unready : flow.phase = .powered → event.flag ≠ some (.ok true)) :
      Moves name flow event (flow.goto (flow.phase.next guided event))
        (cleanupReports event flow.phase)

section Steps

variable {crates toml guided} {flow : Flow Source} {event : Event Source} {name : Text} {n : ℕ}

theorem moves_capturing {before : Before} {stage : Stage}
    (capturing : flow.phase = .capturing before stage) (unedited : ∀ store, event ≠ .edited store)
    (uncancelled : event ≠ .cancels) :
    Moves crates toml guided name flow event (flow.step crates toml guided event)
      (reported crates toml guided name flow event) := by
  have said : reported crates toml guided name flow event =
      match stage.next crates guided before.established event with
      | .pends next => (phaseBetween name event stage next).toList.map .phase
      | _ => [] := by
    unfold reported
    rw [capturing]
    cases event with
    | edited store => exact (unedited store rfl).elim
    | cancels => exact (uncancelled rfl).elim
    | _ => rfl
  have stepped : flow.step crates toml guided event =
      match stage.next crates guided before.established event with
      | .pends stage => flow.goto (.capturing before stage, [])
      | .saves key peerName => flow.goto (.saving before key peerName, [])
      | .fails error => flow.leave before (.error error) := by
    unfold Flow.step
    rw [capturing]
    cases event with
    | edited store => exact (unedited store rfl).elim
    | cancels => exact (uncancelled rfl).elim
    | _ => rfl
  rw [said, stepped]
  cases turn : stage.next crates guided before.established event with
  | pends next => exact .turns capturing turn
  | saves key peerName => exact .saves capturing turn
  | fails error => exact .fails capturing turn

/-- A cancel is seen while the capture waits. -/
theorem moves_cancels {before : Before} {stage : Stage}
    (capturing : flow.phase = .capturing before stage) :
    Moves crates toml guided name flow .cancels (flow.step crates toml guided .cancels)
      (reported crates toml guided name flow .cancels) := by
  unfold reported Flow.step
  rw [capturing]
  dsimp only
  split
  · exact .cancels capturing
  · exact .stays

theorem moves_saving {before : Before} {key : Key} {peerName : Option Text}
    (saving : flow.phase = .saving before key peerName) :
    Moves crates toml guided name flow .proceeds (flow.step crates toml guided .proceeds)
      (reported crates toml guided name flow .proceeds) := by
  have stepped : flow.step crates toml guided .proceeds =
      flow.enroll crates toml guided before key peerName := by
    unfold Flow.step
    rw [saving]
  have said : reported crates toml guided name flow .proceeds =
      match (Flow.save crates toml guided key peerName flow.store).1 with
      | .ok (some id) => [.enrolled id peerName]
      | _ => [] := by
    unfold reported
    rw [saving]
  rw [said, stepped, Flow.enroll]
  cases outcome : (Flow.save crates toml guided key peerName flow.store).1 with
  | error error => exact .refuses saving outcome _
  | ok enrolled =>
      cases enrolled with
      | none => exact .commits saving outcome _
      | some id => exact .commits saving outcome _

theorem moves_powered (powered : flow.phase = .powered)
    (unedited : ∀ store, event ≠ .edited store) :
    Moves crates toml guided name flow event (flow.step crates toml guided event)
      (reported crates toml guided name flow event) := by
  have said : reported crates toml guided name flow event =
      if event.flag = some (.ok true) then [.phase .adapterReady] else [] := by
    unfold reported
    rw [powered]
    cases event <;> rfl
  have stepped : flow.step crates toml guided event = flow.goto (flow.phase.next guided event) := by
    unfold Flow.step
    rw [powered]
    cases event with
    | edited store => exact (unedited store rfl).elim
    | _ => rfl
  rw [said, stepped]
  by_cases answered : event.flag = some (.ok true)
  · rw [if_pos answered, powered, Advertise.Phase.next, answered]
    exact .ready powered answered
  · rw [if_neg answered]
    have other : Moves crates toml guided name flow event (flow.goto (flow.phase.next guided event))
        (cleanupReports event flow.phase) := .other fun _ => answered
    rwa [powered] at other ⊢

/-- Every step of the flow is one of these. -/
theorem moves_step (crates : Crates) (toml : Toml Source) (guided : Guided) (name : Text)
    (flow : Flow Source) (event : Event Source) :
    Moves crates toml guided name flow event (flow.step crates toml guided event)
      (reported crates toml guided name flow event) := by
  by_cases edited : ∃ store, event = .edited store
  · obtain ⟨store, rfl⟩ := edited
    exact .edited store
  have unedited : ∀ store, event ≠ .edited store := fun store same => edited ⟨store, same⟩
  obtain ⟨phase, saved, store, trace⟩ := flow
  cases phase with
  | session | adapter | naming | establishing | examining | readingPairable | readingTimeout
  | widening | opening | narrowing | sweeping | asking | restoringTimeout | restoringPairable
  | pausing | returned =>
      cases event with
      | edited store => exact (unedited store rfl).elim
      | _ => exact .other fun powered => by cases powered
  | powered => exact moves_powered rfl unedited
  | capturing before stage =>
      by_cases cancelled : event = .cancels
      · subst cancelled
        exact moves_cancels rfl
      · exact moves_capturing rfl unedited cancelled
  | saving before key peerName =>
      cases event with
      | edited store => exact (unedited store rfl).elim
      | proceeds => exact moves_saving rfl
      | _ => exact .other fun powered => by cases powered
  | flagging before =>
      cases event with
      | edited store => exact (unedited store rfl).elim
      | proceeds => exact .flags rfl
      | _ => exact .other fun powered => by cases powered
  | cleaning before ending rest device cleaning =>
      cases cleaning <;> cases event with
      | edited store => exact (unedited store rfl).elim
      | _ => exact .other fun powered => by cases powered

end Steps

/-- A step reports no phase, or the next one. -/
def Advances (n : ℕ) (reports : List Progress) (next : ℕ → Prop) : Prop :=
  ranks reports = [] ∧ next n ∨ ranks reports = [n] ∧ next (n + 1)

section Order

variable {crates toml guided} {flow next : Flow Source} {event : Event Source} {name : Text}
  {reports : List Progress} {n : ℕ}

/-- Saving fails only where the configuration cannot be edited. -/
theorem eq_edit_of_save {key : Key} {peerName : Option Text} {store : Option Source}
    {error : PairingError}
    (failed : (Flow.save crates toml guided key peerName store).1 = .error error) :
    ∃ edit, error = .edit edit := by
  unfold Flow.save saveIrk at failed
  split at failed
  · cases failed
  · dsimp only at failed
    generalize enrollIrk crates toml key guided.profile guided.id _ store = enrolled at failed
    obtain ⟨outcome, after⟩ := enrolled
    cases outcome with
    | ok id => cases failed
    | error edit =>
        cases failed
        exact ⟨edit, rfl⟩

theorem advances_of_moves (moves : Moves crates toml guided name flow event next reports)
    (reached : Reached flow n) : Advances n reports (Reached next) := by
  cases moves with
  | edited store => exact .inl ⟨rfl, reached.phase, reached.saved⟩
  | stays => exact .inl ⟨rfl, reached⟩
  | @turns _ before stage next capturing turn =>
      have at_stage := reached.at_stage capturing
      have turns := turns_next crates guided before.established name event stage
      rw [turn] at turns
      rcases turns with ⟨silent, same⟩ | ⟨phase, reports, rank, more⟩
      · rw [silent]
        exact .inl ⟨rfl, at_stage.trans same.symm, reached.saved⟩
      · rw [reports]
        refine .inr ⟨?_, (congrArg (· + 1) at_stage).trans more.symm, fun saved => ?_⟩
        · rw [at_stage, ← rank]
          rfl
        · have few := reachedAt_le stage
          have all := reached.saved saved
          omega
  | @saves _ before stage key peerName capturing turn =>
      have turns := turns_next crates guided before.established name event stage
      rw [turn] at turns
      exact .inl ⟨rfl, (reached.at_stage capturing).trans turns, reached.saved⟩
  | @fails _ before stage error capturing turn =>
      have turns := turns_next crates guided before.established name event stage
      rw [turn] at turns
      have ends : Ends (.error error) (reachedAt stage) := turns
      rw [← reached.at_stage capturing] at ends
      exact .inl ⟨rfl, reached_leave reached.saved ends⟩
  | @cancels before stage capturing =>
      refine .inl ⟨rfl, reached_leave reached.saved ?_⟩
      rw [reached.at_stage capturing]
      exact ⟨one_le_reachedAt stage, reachedAt_le stage⟩
  | @commits before key peerName enrolled saving saved store =>
      have six : n = 6 := by
        have known := reached.phase
        rwa [saving] at known
      refine .inl ⟨?_, six, reached.saved⟩
      cases enrolled <;> rfl
  | refuses saving failed store =>
      have six : n = 6 := by
        have known := reached.phase
        rwa [saving] at known
      obtain ⟨edit, rfl⟩ := eq_edit_of_save failed
      exact .inl ⟨rfl, reached_leave reached.saved six⟩
  | flags flagging =>
      have six : n = 6 := by
        have known := reached.phase
        rwa [flagging] at known
      subst six
      exact .inr ⟨rfl, reached_leave (fun _ => rfl) rfl⟩
  | ready powered answered =>
      have none_yet : n = 0 := by
        have known := reached.phase
        rwa [powered] at known
      subst none_yet
      exact .inr ⟨rfl, rfl, fun saved => absurd (reached.saved saved) (by decide)⟩
  | other unready =>
      refine .inl ⟨ranks_cleanupReports event flow.phase, ?_, reached.saved⟩
      by_cases powered : flow.phase = .powered
      · have none_yet : n = 0 := by
          have known := reached.phase
          rwa [powered] at known
        have waits := unready powered
        rw [powered, Flow.goto, Advertise.Phase.next]
        rcases flag : event.flag with _ | error | answer
        · exact none_yet
        · exact none_yet.trans_le (Nat.zero_le _)
        · cases answer with
          | false => exact none_yet
          | true => exact (waits flag).elim
      · exact reachedIn_next reached.phase powered

end Order

variable {crates toml guided}

theorem Ordered.step {watched : Watched Source} {n : ℕ} (ordered : Ordered watched n)
    (event : Event Source) :
    ∃ m, n ≤ m ∧ Ordered (watched.step crates toml guided event) m := by
  rcases advances_of_moves (moves_step crates toml guided watched.name watched.flow event)
    ordered.reached with ⟨silent, reached⟩ | ⟨next, reached⟩
  · refine ⟨n, Nat.le_refl n, ?_, reached⟩
    rw [Watched.step, ranks_append, ordered.ranks, silent, List.append_nil]
  · refine ⟨n + 1, Nat.le_succ n, ?_, reached⟩
    rw [Watched.step, ranks_append, ordered.ranks, next, List.range_succ]

variable (crates toml guided) in
theorem ordered_run (store : Option Source) (events : List (Event Source)) :
    ∃ n, Ordered (Execution.run (Watched.step crates toml guided) (begin store) events) n :=
  Execution.run_invariant (fun watched => ∃ n, Ordered watched n)
    (fun _ event ⟨_, ordered⟩ => (ordered.step event).imp fun _ later => later.2)
    ⟨0, ordered_begin store⟩ events

/-- Whatever the Bluetooth stack answers, and whenever the user cancels: the phases are reported in
the order of their ranks, each of them once, and how many there were says how the flow can end. -/
theorem phases_in_order (crates : Crates) (toml : Toml Source) (guided : Guided)
    (store : Option Source) (events : List (Event Source)) :
    let watched := Execution.run (Watched.step crates toml guided) (begin store) events
    ∃ n, ranks watched.reports = List.range n ∧
      ∀ result, watched.flow.phase = .returned result → Ends result n := by
  obtain ⟨n, ordered⟩ := ordered_run crates toml guided store events
  refine ⟨n, ordered.ranks, fun result returned => ?_⟩
  have reached := ordered.reached.phase
  rwa [returned] at reached

end PresenceUnlock.Cli.Milestones
