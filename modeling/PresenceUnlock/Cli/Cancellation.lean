import PresenceUnlock.Cli.Keys
import PresenceUnlock.Execution
import PresenceUnlock.RustStd.Text

/-!
# Stopping an operation, and leaving the app

A screen is painted while a worker runs: Esc stops the operation, Ctrl+C leaves the app.  The loop
of the screen, the worker and the thread of the signal handlers take their steps in any order.
Between two operations the app waits at its prompts, or shows the status of the daemon.
-/

namespace PresenceUnlock.Cli.Cancellation

open RustStd Execution Keys

/-- The signals that have a handler. -/
inductive Signal
  | interrupt
  | terminate
  | hangup
  | quit
  deriving DecidableEq, Repr

/-- The numbers of the signals. -/
def Signal.number : Signal → ℕ
  | .interrupt => 2
  | .terminate => 15
  | .hangup => 1
  | .quit => 3

/-- What the threads share of the process; `restored` once `on_quit` has run. -/
structure Process where
  /-- The app is to be left. -/
  quitRequested : Bool
  /-- The terminal has been restored. -/
  restored : Bool
  /-- The status that the process has ended with. -/
  exit : Option ℕ

/-- How far a thread has come in leaving the app: `asking` in `request_quit`, and then in
`force_quit`. -/
inductive Quitting
  | asking
  | forcing (signum : ℕ)
  | restoring (signum : ℕ)
  | exiting (signum : ℕ)
  deriving DecidableEq, Repr

/-- The next step on the way out; `none` where `request_quit` returns. -/
def Quitting.next (process : Process) : Quitting → Process × Option Quitting
  | .asking =>
      ({ process with quitRequested := true },
        if process.quitRequested then some (.forcing Signal.interrupt.number) else none)
  | .forcing signum => ({ process with quitRequested := true }, some (.restoring signum))
  | .restoring signum => ({ process with restored := true }, some (.exiting signum))
  | .exiting signum => ({ process with exit := some (128 + signum) }, some (.exiting signum))

/-- What the thread of the handlers does about a signal. -/
def Signal.handle : Signal → Quitting
  | .interrupt => .asking
  | signal => .forcing signal.number

section System

variable {Result : Type*}

/-- The worker, which always sends an outcome unless the thread is lost. -/
inductive Worker (Result : Type*)
  | running
  | ended (outcome : Except Text Result)
  | lost

/-- The loop of `run_cancellable`. -/
inductive Ui (Result : Type*)
  | painting
  | polling
  | quitting (quitting : Quitting)
  | checking
  | receiving
  | returned (outcome : Except Text Result) (cancelled : Bool)

/-- What is reported of work that panicked. -/
def panicked : Text := "cancellable operation panicked".toList

/-- What is reported of work whose worker was lost. -/
def withoutResult : Text := "cancellable operation ended without a result".toList

/-- The screen of an operation, its worker and the handlers. -/
structure System (Result : Type*) where
  /-- What they share. -/
  process : Process
  /-- The flag that the operation polls. -/
  cancel : Bool
  /-- Where the worker is. -/
  worker : Worker Result
  /-- The outcome that the worker has sent. -/
  channel : Option (Except Text Result)
  /-- Where the screen is. -/
  ui : Ui Result
  /-- Where the thread of the handlers is. -/
  handler : Option Quitting

/-- What happens. -/
inductive Event (Result : Type*)
  | ui
  | pressed (press : Press)
  /-- The work returns, or panics. -/
  | finishes (outcome : Option (Except Text Result))
  | loses
  | signal (signal : Signal)
  | handler

/-- Whether it is a step of the thread of the screen. -/
def Event.onScreen : Event Result → Bool
  | .ui | .pressed _ => true
  | _ => false

namespace System

/-- The app, which nobody has asked to leave yet, starts an operation. -/
def start : System Result where
  process := ⟨false, false, none⟩
  cancel := false
  worker := .running
  channel := none
  ui := .painting
  handler := none

/-- `try_recv`. -/
def receive (system : System Result) : System Result :=
  match system.channel, system.worker with
  | some outcome, _ =>
      { system with channel := none, ui := .returned outcome system.cancel }
  | none, .running => { system with ui := .painting }
  | none, _ => { system with ui := .returned (.error withoutResult) system.cancel }

/-- The screen goes on. -/
def uiStep (system : System Result) : System Result :=
  match system.ui with
  | .painting => { system with ui := .polling }
  | .quitting quitting =>
      { system with
        process := (quitting.next system.process).1
        ui := ((quitting.next system.process).2.map .quitting).getD .checking }
  | .checking =>
      { system with cancel := system.cancel || system.process.quitRequested, ui := .receiving }
  | .receiving => system.receive
  | .polling | .returned _ _ => system

/-- What the loop does about a press. -/
def press (system : System Result) : Press → System Result
  | .cancel => { system with cancel := true, ui := .checking }
  | .quit => { system with ui := .quitting .asking }
  | .idle | .pressed => { system with ui := .checking }

/-- One step. -/
def step (system : System Result) : Event Result → System Result
  | .ui => system.uiStep
  | .pressed press => system.press press
  | .finishes outcome =>
      let outcome := outcome.getD (.error panicked)
      { system with worker := .ended outcome, channel := some outcome }
  | .loses => { system with worker := .lost }
  | .signal signal => { system with handler := some signal.handle }
  | .handler =>
      match system.handler with
      | none => system
      | some quitting =>
          { system with
            process := (quitting.next system.process).1
            handler := (quitting.next system.process).2 }

/-- The process runs, and the thread of the event is at that point. -/
def allows (system : System Result) (event : Event Result) : Prop :=
  system.process.exit = none ∧
    match event with
    | .ui => system.ui ≠ .polling
    | .pressed _ => system.ui = .polling
    | .finishes _ | .loses => system.worker = .running
    | .signal _ => system.handler = none
    | .handler => system.handler ≠ none

end System

/-- A step, with the system before it. -/
abbrev Step (Result : Type*) := Recorded (System Result) (Event Result)

/-- The runs of an operation. -/
abbrev Runs : List (Step Result) → System Result → Prop :=
  Reaches System.allows System.step System.start

/-- Esc is read, or the loop sees that the app is to be left. -/
def Stops (step : Step Result) : Prop :=
  step.2 = .pressed .cancel ∨
    step.2 = .ui ∧ step.1.ui = .checking ∧ step.1.process.quitRequested = true

/-- A wait for a key that ends after the worker has. -/
def late (step : Step Result) : Bool :=
  match step.2, step.1.worker with
  | .pressed _, .running => false
  | .pressed _, _ => true
  | _, _ => false

/-- Where the outcome of the worker is. -/
def Carried (system : System Result) : Prop :=
  match system.worker with
  | .running => system.channel = none ∧ ∀ outcome cancelled, system.ui ≠ .returned outcome cancelled
  | .ended outcome =>
      (system.channel = some outcome ∧
        ∀ outcome cancelled, system.ui ≠ .returned outcome cancelled) ∨
        ∃ cancelled, system.ui = .returned outcome cancelled
  | .lost =>
      system.channel = none ∧ ∀ outcome cancelled, system.ui = .returned outcome cancelled →
        outcome = .error withoutResult

variable {system : System Result} {event : Event Result} {past : List (Step Result)}

theorem Carried.receive (carried : Carried system)
    (open_loop : ∀ outcome cancelled, system.ui ≠ .returned outcome cancelled) :
    Carried system.receive := by
  unfold Carried at carried
  unfold System.receive Carried
  cases worker : system.worker with
  | running =>
      simp only [worker] at carried
      simp [carried.1]
  | ended outcome =>
      simp only [worker] at carried
      rcases carried with ⟨sent, _⟩ | ⟨cancelled, returned⟩
      · simp [sent]
      · exact absurd returned (open_loop outcome cancelled)
  | lost =>
      simp only [worker] at carried
      simp [carried.1]

theorem Carried.step (carried : Carried system) (allowed : system.allows event) :
    Carried (system.step event) := by
  have elsewhere : ∀ {next : System Result}, next.worker = system.worker →
      next.channel = system.channel → (∀ outcome cancelled,
        next.ui = .returned outcome cancelled ↔ system.ui = .returned outcome cancelled) →
      Carried next := by
    intro next worker channel ui
    unfold Carried at carried ⊢
    rw [worker, channel]
    simpa only [ne_eq, ui] using carried
  cases event with
  | ui =>
      rw [System.step, System.uiStep]
      cases ui : system.ui with
      | receiving => exact carried.receive fun _ _ => by simp [ui]
      | returned outcome cancelled => exact carried
      | polling => exact carried
      | quitting quitting =>
          refine elsewhere rfl rfl fun outcome cancelled => ?_
          cases next : (quitting.next system.process).2 <;> simp [ui, next]
      | painting | checking => exact elsewhere rfl rfl fun _ _ => by simp [ui]
  | pressed press =>
      have polling : system.ui = .polling := allowed.2
      cases press <;>
        exact elsewhere rfl rfl fun _ _ => by simp [System.step, System.press, polling]
  | finishes outcome =>
      have running : system.worker = .running := allowed.2
      unfold Carried at carried
      rw [running] at carried
      exact .inl ⟨rfl, carried.2⟩
  | loses =>
      have running : system.worker = .running := allowed.2
      unfold Carried at carried
      rw [running] at carried
      exact ⟨carried.1, fun _ _ returned => absurd returned (carried.2 _ _)⟩
  | signal => exact elsewhere rfl rfl fun _ _ => Iff.rfl
  | handler =>
      rw [System.step]
      cases system.handler with
      | none => exact carried
      | some quitting => exact elsewhere rfl rfl fun _ _ => Iff.rfl

/-- What is known of a run of the loop. -/
structure Sound (past : List (Step Result)) (system : System Result) : Prop where
  /-- Where the outcome of the worker is. -/
  carried : Carried system
  /-- What was returned is the flag. -/
  flag : ∀ outcome cancelled, system.ui = .returned outcome cancelled → cancelled = system.cancel
  /-- The flag is set once something stopped the operation. -/
  cancelled : system.cancel = true ↔ ∃ step ∈ past, Stops step
  /-- Ctrl+C as a key sets the flag, or is about to. -/
  quits : (∃ step ∈ past, step.2 = .pressed .quit) →
    (∃ quitting, system.ui = .quitting quitting) ∨
      system.ui = .checking ∧ system.process.quitRequested = true ∨ system.cancel = true
  /-- No wait is late while the worker runs. -/
  running_late : system.worker = .running → past.countP late = 0
  /-- At most one wait is late. -/
  late_once : past.countP late ≤ 1
  /-- After a late wait, the screen does not wait again. -/
  late_over : 1 ≤ past.countP late → system.ui ≠ .painting ∧ system.ui ≠ .polling

theorem sound_start : Sound [] (System.start : System Result) where
  carried := ⟨rfl, nofun⟩
  flag := nofun
  cancelled := by simp [System.start]
  quits := by simp
  running_late _ := rfl
  late_once := Nat.zero_le _
  late_over := by simp

theorem exists_mem_concat {Item : Type*} {items : List Item} {item : Item} {shape : Item → Prop} :
    (∃ any ∈ items ++ [item], shape any) ↔ (∃ any ∈ items, shape any) ∨ shape item := by
  simp [or_and_right, exists_or]

/-- The flag is only ever raised, and by the steps that stop the operation. -/
theorem cancel_step (allowed : system.allows event) :
    (system.step event).cancel = true ↔ system.cancel = true ∨ Stops (system, event) := by
  cases event with
  | ui =>
      rw [System.step, System.uiStep]
      cases ui : system.ui with
      | receiving =>
          have kept : system.receive.cancel = system.cancel := by
            unfold System.receive
            split <;> rfl
          simp [Stops, ui, kept]
      | _ => simp [Stops, ui]
  | pressed press => cases press <;> simp [System.step, System.press, Stops]
  | handler =>
      rw [System.step]
      cases system.handler <;> simp [Stops]
  | _ => simp [System.step, Stops]

theorem quitRequested_next {process : Process} (requested : process.quitRequested = true)
    (quitting : Quitting) : (quitting.next process).1.quitRequested = true := by
  cases quitting <;> first | rfl | exact requested

theorem requested_of_next_eq_none {process : Process} {quitting : Quitting}
    (ended : (quitting.next process).2 = none) :
    (quitting.next process).1.quitRequested = true := by
  cases quitting with
  | asking => rfl
  | _ => cases ended

theorem Sound.flag_step (sound : Sound past system) (allowed : system.allows event) :
    ∀ outcome cancelled, (system.step event).ui = .returned outcome cancelled →
      cancelled = (system.step event).cancel := by
  intro outcome cancelled returned
  cases event with
  | ui =>
      rw [System.step, System.uiStep] at returned ⊢
      cases ui : system.ui with
      | receiving =>
          simp only [ui] at returned ⊢
          unfold System.receive at returned ⊢
          split at returned <;> cases returned <;> rfl
      | quitting quitting =>
          simp only [ui] at returned
          cases next : (quitting.next system.process).2 <;> simp [next] at returned
      | returned =>
          simp only [ui] at returned ⊢
          exact sound.flag outcome cancelled (ui ▸ returned)
      | _ => simp [ui] at returned
  | pressed press =>
      have polling : system.ui = .polling := allowed.2
      cases press <;> simp [System.step, System.press] at returned
  | handler =>
      rw [System.step] at returned ⊢
      cases handler : system.handler <;> simp only [handler] at returned ⊢ <;>
        exact sound.flag outcome cancelled returned
  | _ => exact sound.flag outcome cancelled returned

/-- Once Ctrl+C was read as a key, the loop is on its way to stop the operation. -/
theorem Sound.quits_step (sound : Sound past system) (allowed : system.allows event)
    (pressed : ∃ step ∈ past ++ [(system, event)], step.2 = .pressed .quit) :
    (∃ quitting, (system.step event).ui = .quitting quitting) ∨
      (system.step event).ui = .checking ∧ (system.step event).process.quitRequested = true ∨
        (system.step event).cancel = true := by
  rcases exists_mem_concat.mp pressed with before | now
  · rcases sound.quits before with ⟨quitting, ui⟩ | ⟨ui, requested⟩ | cancel
    · cases event with
      | ui =>
          simp only [System.step, System.uiStep, ui]
          cases next : (quitting.next system.process).2 with
          | none => exact .inr (.inl ⟨rfl, requested_of_next_eq_none next⟩)
          | some quitting => exact .inl ⟨quitting, rfl⟩
      | pressed press =>
          have polling : system.ui = .polling := allowed.2
          rw [ui] at polling
          cases polling
      | handler =>
          rw [System.step]
          cases system.handler <;> exact .inl ⟨quitting, ui⟩
      | _ => exact .inl ⟨quitting, ui⟩
    · cases event with
      | ui => exact .inr (.inr (by simp [System.step, System.uiStep, ui, requested]))
      | pressed press =>
          have polling : system.ui = .polling := allowed.2
          rw [ui] at polling
          cases polling
      | handler =>
          rw [System.step]
          cases system.handler with
          | none => exact .inr (.inl ⟨ui, requested⟩)
          | some quitting => exact .inr (.inl ⟨ui, quitRequested_next requested quitting⟩)
      | _ => exact .inr (.inl ⟨ui, requested⟩)
    · exact .inr (.inr ((cancel_step allowed).mpr (.inl cancel)))
  · cases now
    exact .inl ⟨.asking, rfl⟩

theorem Sound.not_late (sound : Sound past system) (allowed : system.allows event)
    (before : 1 ≤ past.countP late) : late (system, event) = false := by
  cases event with
  | pressed press => exact absurd allowed.2 (sound.late_over before).2
  | _ => rfl

/-- The loop does not go back to painting once the worker is done. -/
theorem Sound.late_over_step (sound : Sound past system)
    (lates : 1 ≤ (past ++ [(system, event)]).countP late) :
    (system.step event).ui ≠ .painting ∧ (system.step event).ui ≠ .polling := by
  rw [List.countP_append, List.countP_singleton] at lates
  cases event with
  | ui =>
      have before : 1 ≤ past.countP late := by simpa [late] using lates
      have done : system.worker ≠ .running := fun running => by
        rw [sound.running_late running] at before
        cases before
      obtain ⟨painting, polling⟩ := sound.late_over before
      rw [System.step, System.uiStep]
      cases ui : system.ui with
      | painting => exact absurd ui painting
      | polling => exact absurd ui polling
      | quitting quitting => cases next : (quitting.next system.process).2 <;> simp [next]
      | checking => simp
      | receiving =>
          dsimp only
          unfold System.receive
          split
          · simp
          · rename_i running
            exact absurd running done
          · simp
      | returned => simp [ui]
  | pressed press => cases press <;> simp [System.step, System.press]
  | handler =>
      have before : 1 ≤ past.countP late := by simpa [late] using lates
      rw [System.step]
      cases system.handler <;> exact sound.late_over before
  | _ => exact sound.late_over (by simpa [late] using lates)

theorem Sound.running_late_step (sound : Sound past system)
    (running : (system.step event).worker = .running) :
    (past ++ [(system, event)]).countP late = 0 := by
  have still : system.worker = .running := by
    cases event with
    | ui =>
        rw [System.step, System.uiStep] at running
        cases ui : system.ui with
        | receiving =>
            simp only [ui] at running
            unfold System.receive at running
            split at running <;> assumption
        | _ => simpa only [ui] using running
    | pressed press => cases press <;> exact running
    | handler =>
        rw [System.step] at running
        cases handler : system.handler <;> simpa only [handler] using running
    | finishes | loses => cases running
    | signal => exact running
  have punctual : late (system, event) = false := by
    unfold late
    rw [still]
    cases event <;> rfl
  rw [List.countP_append, List.countP_singleton, punctual, sound.running_late still]
  rfl

theorem Sound.step (sound : Sound past system) (allowed : system.allows event) :
    Sound (past ++ [(system, event)]) (system.step event) where
  carried := sound.carried.step allowed
  flag := sound.flag_step allowed
  cancelled := by rw [cancel_step allowed, exists_mem_concat, sound.cancelled]
  quits := sound.quits_step allowed
  running_late := sound.running_late_step
  late_once := by
    rw [List.countP_append, List.countP_singleton]
    rcases Nat.eq_zero_or_pos (past.countP late) with none_yet | before
    · split <;> omega
    · rw [sound.not_late allowed before]
      simpa using sound.late_once
  late_over := sound.late_over_step

theorem sound_of_runs (runs : Runs past system) : Sound past system :=
  Reaches.invariant Sound sound_start (fun _ _ _ sound allowed => sound.step allowed) runs

/-- Whatever the order of the steps: what the loop returns is the outcome of the worker, unless the
worker was lost, and whether Esc was read or the loop saw that the app is to be left, as it does
once Ctrl+C was read as a key; at most one wait for a key has ended after the worker had. -/
theorem outcome_of_returned {outcome : Except Text Result} {cancelled : Bool}
    (runs : Runs past system) (returned : system.ui = .returned outcome cancelled) :
    (system.worker = .ended outcome ∨
        system.worker = .lost ∧ outcome = .error withoutResult) ∧
      (cancelled = true ↔ ∃ step ∈ past, Stops step) ∧
      ((∃ step ∈ past, step.2 = .pressed .quit) → cancelled = true) ∧
      past.countP late ≤ 1 := by
  have sound := sound_of_runs runs
  have flag := sound.flag outcome cancelled returned
  refine ⟨?_, flag ▸ sound.cancelled, fun pressed => ?_, sound.late_once⟩
  · have carried := sound.carried
    unfold Carried at carried
    cases worker : system.worker with
    | running =>
        simp only [worker] at carried
        exact absurd returned (carried.2 outcome cancelled)
    | ended sent =>
        simp only [worker] at carried
        rcases carried with ⟨_, open_loop⟩ | ⟨_, other⟩
        · exact absurd returned (open_loop outcome cancelled)
        · rw [returned] at other
          cases other
          exact .inl rfl
    | lost =>
        simp only [worker] at carried
        exact .inr ⟨rfl, carried.2 outcome cancelled returned⟩
  · rcases sound.quits pressed with ⟨quitting, ui⟩ | ⟨ui, _⟩ | cancel
    · rw [returned] at ui
      cases ui
    · rw [returned] at ui
      cases ui
    · exact flag.trans cancel

/-- Esc is pressed, and the worker gives up. -/
def stopped : List (Event Unit) :=
  [.ui, .pressed .cancel, .finishes (some (.error "cancelled".toList)), .ui, .ui]

theorem allAllowed_stopped : AllAllowed System.allows System.step System.start stopped :=
  ⟨⟨rfl, nofun⟩, ⟨rfl, rfl⟩, ⟨rfl, rfl⟩, ⟨rfl, nofun⟩, ⟨rfl, nofun⟩, trivial⟩

theorem outcome_of_returned_stopped :
    ((run System.step System.start stopped).worker = .ended (.error "cancelled".toList) ∨
        (run System.step System.start stopped).worker = .lost ∧
          (.error "cancelled".toList : Except Text Unit) = .error withoutResult) ∧
      (true = true ↔ ∃ step ∈ recorded System.step System.start stopped, Stops step) ∧
      ((∃ step ∈ recorded System.step System.start stopped, step.2 = .pressed .quit) →
        true = true) ∧
      (recorded System.step System.start stopped).countP late ≤ 1 :=
  outcome_of_returned (Reaches.start.run_of_allAllowed allAllowed_stopped) rfl

/-- What there is to say for leaving the app without unwinding. -/
structure Reasons where
  /-- How often Ctrl+C came, as a key or as a signal. -/
  asks : ℕ
  /-- Another signal has come. -/
  received : Signal → Prop
  /-- The read of a prompt was cut short. -/
  interrupted : Prop

namespace Reasons

/-- Something other than Ctrl+C as a key or as a signal. -/
def Other (reasons : Reasons) : Prop := (∃ signal, reasons.received signal) ∨ reasons.interrupted

/-- Later there is as much to say, or more. -/
structure Grows (reasons later : Reasons) : Prop where
  /-- Ctrl+C came as often, or more often. -/
  asks : reasons.asks ≤ later.asks
  /-- What came has come. -/
  received : ∀ {signal}, reasons.received signal → later.received signal
  /-- A read that was cut short stays one. -/
  interrupted : reasons.interrupted → later.interrupted

/-- Why a thread gives up on the rest of the app, with the status of this signal. -/
def Gives (reasons : Reasons) (signal : Signal) : Prop :=
  reasons.received signal ∨
    signal = .interrupt ∧ (reasons.interrupted ∨
      1 ≤ reasons.asks ∧ (2 ≤ reasons.asks ∨ ∃ other, reasons.received other))

variable {reasons later : Reasons}

theorem Other.grows (other : reasons.Other) (grows : Grows reasons later) : later.Other :=
  other.imp (fun ⟨signal, received⟩ => ⟨signal, grows.received received⟩) grows.interrupted

theorem Gives.grows {signal : Signal} (gives : reasons.Gives signal) (grows : Grows reasons later) :
    later.Gives signal := by
  rcases gives with received | ⟨same, interrupted | ⟨once, twice | ⟨other, received⟩⟩⟩
  · exact .inl (grows.received received)
  · exact .inr ⟨same, .inl (grows.interrupted interrupted)⟩
  · exact .inr ⟨same, .inr ⟨once.trans grows.asks, .inl (twice.trans grows.asks)⟩⟩
  · exact .inr ⟨same, .inr ⟨once.trans grows.asks, .inr ⟨other, grows.received received⟩⟩⟩

/-- Ctrl+C came once more than the flag of the app needed. -/
theorem gives_of_asked (once : 1 ≤ reasons.asks) (again : 2 ≤ reasons.asks ∨ reasons.Other) :
    reasons.Gives .interrupt := by
  rcases again with twice | received | interrupted
  · exact .inr ⟨rfl, .inr ⟨once, .inl twice⟩⟩
  · exact .inr ⟨rfl, .inr ⟨once, .inr received⟩⟩
  · exact .inr ⟨rfl, .inl interrupted⟩

end Reasons

/-- The status that a thread on its way out will leave. -/
def Quitting.signum? : Quitting → Option ℕ
  | .asking => none
  | .forcing signum | .restoring signum | .exiting signum => some signum

/-- How many requests a thread has not recorded yet. -/
def pendingOf (quitting : Option Quitting) : ℕ := if quitting = some .asking then 1 else 0

/-- A thread on its way out has its reason, and has restored the terminal before it exits. -/
structure Leaving (reasons : Reasons) (process : Process) (quitting : Quitting) : Prop where
  /-- The status is that of a signal, and there is a reason for it. -/
  reason : ∀ signum ∈ quitting.signum?, ∃ signal, signum = signal.number ∧ reasons.Gives signal
  /-- The terminal is restored first. -/
  restored : ∀ signum, quitting = .exiting signum → process.restored = true

/-- What is known of the process and of the two threads that may be on their way out: that of the
screen, and that of the handlers. -/
structure Accounted (reasons : Reasons) (process : Process) (first second : Option Quitting) :
    Prop where
  /-- Each request that is not recorded yet came. -/
  pending : pendingOf first + pendingOf second ≤ reasons.asks
  /-- The flag is set for a request of its own, or for something else. -/
  requested : process.quitRequested = true →
    pendingOf first + pendingOf second + 1 ≤ reasons.asks ∨ reasons.Other
  /-- The one thread has its reason. -/
  first : ∀ quitting ∈ first, Leaving reasons process quitting
  /-- The other thread has its reason. -/
  second : ∀ quitting ∈ second, Leaving reasons process quitting
  /-- The process has ended only with the terminal restored, and for a reason. -/
  exited : ∀ code ∈ process.exit, process.restored = true ∧
    ∃ signal, code = 128 + signal.number ∧ reasons.Gives signal

theorem restored_next {process : Process} (restored : process.restored = true)
    (quitting : Quitting) : (quitting.next process).1.restored = true := by
  cases quitting <;> first | rfl | exact restored

section Threads

variable {reasons later : Reasons} {process : Process} {first second : Option Quitting}
  {quitting : Quitting}

theorem Leaving.grows (leaving : Leaving reasons process quitting)
    (grows : reasons.Grows later) : Leaving later process quitting where
  reason signum member := by
    obtain ⟨signal, number, gives⟩ := leaving.reason signum member
    exact ⟨signal, number, gives.grows grows⟩
  restored := leaving.restored

theorem Leaving.asking : Leaving reasons process .asking where
  reason _ member := by cases member
  restored _ last := by cases last

theorem Leaving.forcing {signal : Signal} (gives : reasons.Gives signal) :
    Leaving reasons process (.forcing signal.number) where
  reason _ member := ⟨signal, (Option.some.inj member).symm, gives⟩
  restored _ last := by cases last

theorem Accounted.symm (accounted : Accounted reasons process first second) :
    Accounted reasons process second first where
  pending := Nat.add_comm .. ▸ accounted.pending
  requested := Nat.add_comm (pendingOf first) _ ▸ accounted.requested
  first := accounted.second
  second := accounted.first
  exited := accounted.exited

theorem Accounted.grows (accounted : Accounted reasons process first second)
    (grows : reasons.Grows later) : Accounted later process first second where
  pending := accounted.pending.trans grows.asks
  requested set := (accounted.requested set).imp (fun asked => asked.trans grows.asks)
    (fun other => other.grows grows)
  first way member := (accounted.first way member).grows grows
  second way member := (accounted.second way member).grows grows
  exited code ended := by
    obtain ⟨restored, signal, number, gives⟩ := accounted.exited code ended
    exact ⟨restored, signal, number, gives.grows grows⟩

/-- A request comes to a thread that was not on its way out. -/
theorem Accounted.ask (accounted : Accounted reasons process none second)
    (grows : reasons.Grows later) (more : later.asks = reasons.asks + 1) :
    Accounted later process (some .asking) second := by
  have kept := accounted.grows grows
  have none_before : pendingOf none = 0 := rfl
  have one_now : pendingOf (some .asking) = 1 := rfl
  have pending := accounted.pending
  rw [none_before, Nat.zero_add] at pending
  refine ⟨?_, fun set => ?_, ?_, kept.second, kept.exited⟩
  · rw [one_now, more, Nat.add_comm]
    exact Nat.add_le_add_right pending 1
  · rw [one_now, more]
    have requested := accounted.requested set
    rw [none_before, Nat.zero_add] at requested
    exact requested.imp (fun asked => by omega) (fun other => other.grows grows)
  · rintro way ⟨⟩
    exact .asking

/-- A thread that was not on its way out gives up. -/
theorem Accounted.give (accounted : Accounted reasons process none second) {signal : Signal}
    (gives : reasons.Gives signal) :
    Accounted reasons process (some (.forcing signal.number)) second := by
  have none_now : pendingOf (some (.forcing signal.number)) = pendingOf none := rfl
  refine ⟨none_now ▸ accounted.pending, none_now ▸ accounted.requested, ?_, accounted.second,
    accounted.exited⟩
  rintro way ⟨⟩
  exact .forcing gives

theorem other_of_gives {signal : Signal} (gives : reasons.Gives signal) :
    2 ≤ reasons.asks ∨ reasons.Other := by
  rcases gives with received | ⟨_, interrupted | ⟨_, twice | received⟩⟩
  · exact .inr (.inl ⟨signal, received⟩)
  · exact .inr (.inr interrupted)
  · exact .inl twice
  · exact .inr (.inl received)

theorem pendingOf_le_one (quitting : Option Quitting) : pendingOf quitting ≤ 1 := by
  unfold pendingOf
  split
  · exact Nat.le_refl 1
  · exact Nat.zero_le 1

theorem pendingOf_next (process : Process) (quitting : Quitting) :
    pendingOf (quitting.next process).2 = 0 := by
  cases quitting with
  | asking => cases requested : process.quitRequested <;> simp [Quitting.next, requested, pendingOf]
  | forcing | restoring | exiting => rfl

/-- A thread takes a step on its way out. -/
theorem Accounted.advance (accounted : Accounted reasons process (some quitting) second) :
    Accounted reasons (quitting.next process).1 (quitting.next process).2 second := by
  have leaving := accounted.first quitting rfl
  have kept : ∀ way ∈ second, Leaving reasons (quitting.next process).1 way := fun way member =>
    ⟨(accounted.second way member).reason, fun signum last =>
      restored_next ((accounted.second way member).restored signum last) quitting⟩
  have few : pendingOf (quitting.next process).2 + pendingOf second = pendingOf second := by
    rw [pendingOf_next, Nat.zero_add]
  have pending : pendingOf (quitting.next process).2 + pendingOf second ≤ reasons.asks :=
    few.le.trans ((Nat.le_add_left _ _).trans accounted.pending)
  cases quitting with
  | asking =>
      have one : pendingOf (some Quitting.asking) = 1 := rfl
      have asked := accounted.pending
      rw [one, Nat.add_comm] at asked
      refine ⟨pending, fun _ => .inl ((Nat.succ_le_succ few.le).trans asked),
        fun way member => ?_, kept, accounted.exited⟩
      cases requested : process.quitRequested with
      | false => simp [Quitting.next, requested] at member
      | true =>
          have again := accounted.requested requested
          rw [one] at again
          simp only [Quitting.next, requested, if_true, Option.mem_some_iff] at member
          subst member
          exact .forcing (Reasons.gives_of_asked ((Nat.le_add_left 1 _).trans asked)
            (again.imp (fun more => by omega) id))
  | forcing signum =>
      obtain ⟨signal, rfl, gives⟩ := leaving.reason signum rfl
      refine ⟨pending, fun _ => (other_of_gives gives).imp (fun twice => ?_) id, ?_, kept,
        accounted.exited⟩
      · have at_most := pendingOf_le_one second
        omega
      · rintro way ⟨⟩
        exact ⟨leaving.reason, fun _ last => by cases last⟩
  | restoring signum =>
      refine ⟨pending, accounted.requested, ?_, kept, fun code ended =>
        ⟨rfl, (accounted.exited code ended).2⟩⟩
      rintro way ⟨⟩
      exact ⟨leaving.reason, fun _ _ => rfl⟩
  | exiting signum =>
      have restored := leaving.restored signum rfl
      refine ⟨pending, accounted.requested, ?_, kept, ?_⟩
      · rintro way ⟨⟩
        exact ⟨leaving.reason, fun _ _ => restored⟩
      · rintro code ⟨⟩
        obtain ⟨signal, rfl, gives⟩ := leaving.reason signum rfl
        exact ⟨restored, signal, rfl, gives⟩

end Threads

/-- What waits for the user between two operations. -/
inductive Prompt
  /-- A key is read, by the console. -/
  | reading
  /-- The status screen, whose reader polls. -/
  | watching
  /-- The prompt, or the reader of the status screen, on its way out. -/
  | leaving (quitting : Quitting)

/-- The app: its last operation, if any, and the prompt, unless the operation is still on. -/
structure App (Result : Type*) where
  /-- The operation, with what all screens share. -/
  system : System Result
  /-- The screen, while it is none of an operation. -/
  prompt : Option Prompt

/-- What happens in the app, whose screens may follow in any order. -/
inductive AppEvent (Result : Type*)
  /-- A step of the operation, of the handlers, or a signal. -/
  | operation (event : Event Result)
  /-- An operation is started. -/
  | operates
  /-- The operation has returned, or the status screen is left. -/
  | prompts
  /-- The status screen is opened. -/
  | watches
  /-- The read of a prompt ends, cut short or not. -/
  | reads (interrupted : Bool)
  /-- The reader of the status screen has polled. -/
  | polled (press : Press)
  /-- The next step of the prompt on its way out. -/
  | leaves

namespace App

/-- The app, which nobody has asked to leave yet, shows its menu. -/
def start : App Result := ⟨System.start, some .reading⟩

/-- The thread of the screen, if it is on its way out. -/
def quitting? (app : App Result) : Option Quitting :=
  match app.prompt, app.system.ui with
  | some (.leaving quitting), _ => some quitting
  | none, .quitting quitting => some quitting
  | _, _ => none

/-- What a step of the app does. -/
def step (app : App Result) : AppEvent Result → App Result
  | .operation event => { app with system := app.system.step event }
  | .operates =>
      { system := { System.start with process := app.system.process, handler := app.system.handler }
        prompt := none }
  | .prompts => { app with prompt := some .reading }
  | .watches => { app with prompt := some .watching }
  -- `exit_if_interrupted`, which does not ask first
  | .reads interrupted =>
      if interrupted then
        { app with prompt := some (.leaving (.forcing Signal.interrupt.number)) }
      else app
  | .polled .quit => { app with prompt := some (.leaving .asking) }
  | .polled .idle => app
  | .polled _ => { app with prompt := some .reading }
  | .leaves =>
      match app.prompt with
      | some (.leaving quitting) =>
          { system := { app.system with process := (quitting.next app.system.process).1 }
            prompt := some (((quitting.next app.system.process).2.map .leaving).getD .reading) }
      | _ => app

/-- The process runs, and the thread of the event is at that point. -/
def allows (app : App Result) (event : AppEvent Result) : Prop :=
  app.system.process.exit = none ∧
    match event with
    | .operation event => app.system.allows event ∧ (event.onScreen = true → app.prompt = none)
    | .operates | .watches | .reads _ => app.prompt = some .reading
    | .prompts => app.prompt = some .watching ∨
        app.prompt = none ∧ ∃ outcome cancelled, app.system.ui = .returned outcome cancelled
    | .polled _ => app.prompt = some .watching
    | .leaves => ∃ quitting, app.prompt = some (.leaving quitting)

end App

/-- A step of the app. -/
abbrev AppStep (Result : Type*) := Recorded (App Result) (AppEvent Result)

/-- The runs of the app. -/
abbrev AppRuns : List (AppStep Result) → App Result → Prop :=
  Reaches App.allows App.step App.start

/-- Ctrl+C, as a key or as a signal. -/
def asks (step : AppStep Result) : Bool :=
  match step.2 with
  | .operation (.pressed .quit) | .operation (.signal .interrupt) | .polled .quit => true
  | _ => false

/-- A signal has arrived that does not ask. -/
def Received (past : List (AppStep Result)) (signal : Signal) : Prop :=
  signal ≠ .interrupt ∧ ∃ step ∈ past, step.2 = .operation (.signal signal)

/-- The console has reported that Ctrl+C cut the read of a prompt short. -/
def Interrupted (past : List (AppStep Result)) : Prop := ∃ step ∈ past, step.2 = .reads true

/-- What there was to say for leaving the app. -/
def reasons (past : List (AppStep Result)) : Reasons :=
  ⟨past.countP asks, Received past, Interrupted past⟩

section App

variable {app next : App Result} {event : AppEvent Result} {past : List (AppStep Result)}

theorem grows_concat (past : List (AppStep Result)) (step : AppStep Result) :
    (reasons past).Grows (reasons (past ++ [step])) where
  asks := by
    dsimp only [reasons]
    rw [List.countP_append]
    exact Nat.le_add_right _ _
  received received := ⟨received.1, exists_mem_concat.mpr (.inl received.2)⟩
  interrupted interrupted := exists_mem_concat.mpr (.inl interrupted)

theorem asks_concat {step : AppStep Result} (asking : asks step = true) :
    (reasons (past ++ [step])).asks = (reasons past).asks + 1 := by
  dsimp only [reasons]
  rw [List.countP_append, List.countP_singleton, if_pos asking]

/-- What is known of the app once this much was to be said for leaving it. -/
def Justified (reasons : Reasons) (app : App Result) : Prop :=
  Accounted reasons app.system.process app.quitting? app.system.handler

theorem justified_start :
    Justified (reasons ([] : List (AppStep Result))) (App.start : App Result) where
  pending := Nat.le_refl _
  requested set := by cases set
  first _ member := by cases member
  second _ member := by cases member
  exited _ ended := by cases ended

/-- A step that no thread takes on its way out. -/
theorem Justified.kept (justified : Justified (reasons past) app) (step : AppStep Result)
    (process : next.system.process = app.system.process) (quitting : next.quitting? = app.quitting?)
    (handler : next.system.handler = app.system.handler) :
    Justified (reasons (past ++ [step])) next := by
  unfold Justified
  rw [process, quitting, handler]
  exact Accounted.grows justified (grows_concat past step)

/-- A step that the thread of the screen takes. -/
theorem Justified.screen (justified : Justified (reasons past) app) {quitting : Quitting}
    (leaving : app.quitting? = some quitting) (step : AppStep Result)
    (process : next.system.process = (quitting.next app.system.process).1)
    (further : next.quitting? = (quitting.next app.system.process).2)
    (handler : next.system.handler = app.system.handler) :
    Justified (reasons (past ++ [step])) next := by
  unfold Justified at justified ⊢
  rw [leaving] at justified
  rw [process, further, handler]
  exact justified.advance.grows (grows_concat past step)

/-- Ctrl+C is read as a key. -/
theorem Justified.key (justified : Justified (reasons past) app) (idle : app.quitting? = none)
    {step : AppStep Result} (asking : asks step = true)
    (process : next.system.process = app.system.process)
    (quitting : next.quitting? = some .asking)
    (handler : next.system.handler = app.system.handler) :
    Justified (reasons (past ++ [step])) next := by
  unfold Justified at justified ⊢
  rw [idle] at justified
  rw [process, quitting, handler]
  exact justified.ask (grows_concat past step) (asks_concat asking)

/-- A signal arrives while its thread waits. -/
theorem Justified.signal (justified : Justified (reasons past) app) {signal : Signal}
    (waiting : app.system.handler = none) :
    Justified (reasons (past ++ [(app, .operation (.signal signal))]))
      (app.step (.operation (.signal signal))) := by
  unfold Justified at justified ⊢
  rw [waiting] at justified
  have grows := grows_concat past (app, .operation (.signal signal))
  by_cases asking : signal = .interrupt
  · subst asking
    exact (justified.symm.ask grows (asks_concat rfl)).symm
  · have handled : signal.handle = .forcing signal.number := by
      cases signal with
      | interrupt => exact absurd rfl asking
      | terminate | hangup | quit => rfl
    have received : Received (past ++ [(app, .operation (.signal signal))]) signal :=
      ⟨asking, exists_mem_concat.mpr (.inr rfl)⟩
    have handler : (app.step (.operation (.signal signal))).system.handler =
        some (.forcing signal.number) := congrArg some handled
    rw [handler]
    exact ((justified.symm.grows grows).give (.inl received)).symm

/-- A step of the loop of an operation. -/
theorem Justified.ui (justified : Justified (reasons past) app) (on_screen : app.prompt = none) :
    Justified (reasons (past ++ [(app, .operation .ui)])) (app.step (.operation .ui)) := by
  obtain ⟨system, prompt⟩ := app
  subst on_screen
  have stepped : App.step ⟨system, none⟩ (.operation .ui) = ⟨system.uiStep, none⟩ := rfl
  rw [stepped, System.uiStep]
  cases ui : system.ui with
  | quitting quitting =>
      refine justified.screen (by rw [App.quitting?, ui]) _ rfl ?_ rfl
      dsimp only [App.quitting?]
      cases (quitting.next system.process).2 <;> rfl
  | receiving =>
      dsimp only
      unfold System.receive
      split <;> exact justified.kept _ rfl (by rw [App.quitting?, App.quitting?, ui]) rfl
  | painting | checking => exact justified.kept _ rfl (by rw [App.quitting?, App.quitting?, ui]) rfl
  | polling | returned => exact justified.kept _ rfl rfl rfl

/-- A step of an operation, or of the thread of the handlers. -/
theorem Justified.operation (justified : Justified (reasons past) app) {event : Event Result}
    (allowed : app.system.allows event) (on_screen : event.onScreen = true → app.prompt = none) :
    Justified (reasons (past ++ [(app, .operation event)])) (app.step (.operation event)) := by
  cases event with
  | ui => exact justified.ui (on_screen rfl)
  | pressed press =>
      have polling : app.system.ui = .polling := allowed.2
      have idle : app.quitting? = none := by rw [App.quitting?, on_screen rfl, polling]
      cases press with
      | quit =>
          refine justified.key idle rfl rfl ?_ rfl
          rw [App.step, App.quitting?, on_screen rfl]
          rfl
      | cancel | idle | pressed =>
          refine justified.kept _ rfl ?_ rfl
          rw [idle, App.step, App.quitting?, on_screen rfl]
          rfl
  | finishes outcome => exact justified.kept _ rfl rfl rfl
  | loses => exact justified.kept _ rfl rfl rfl
  | signal signal => exact justified.signal allowed.2
  | handler =>
      obtain ⟨quitting, handler⟩ := Option.ne_none_iff_exists'.mp allowed.2
      have stepped : app.system.step .handler =
          { app.system with
            process := (quitting.next app.system.process).1
            handler := (quitting.next app.system.process).2 } := by
        rw [System.step, handler]
      unfold Justified at justified ⊢
      rw [handler] at justified
      rw [App.step, stepped]
      exact justified.symm.advance.symm.grows (grows_concat past _)

theorem Justified.step (justified : Justified (reasons past) app) (allowed : app.allows event) :
    Justified (reasons (past ++ [(app, event)])) (app.step event) := by
  obtain ⟨_, here⟩ := allowed
  cases event with
  | operation event => exact justified.operation here.1 here.2
  | operates => exact justified.kept _ rfl (by rw [App.quitting?, App.quitting?, here]; rfl) rfl
  | prompts =>
      refine justified.kept _ rfl ?_ rfl
      rcases here with watching | ⟨none_yet, outcome, cancelled, returned⟩
      · rw [App.quitting?, App.quitting?, watching]
        rfl
      · rw [App.quitting?, App.quitting?, none_yet, returned]
        rfl
  | watches => exact justified.kept _ rfl (by rw [App.quitting?, App.quitting?, here]; rfl) rfl
  | reads interrupted =>
      have idle : app.quitting? = none := by rw [App.quitting?, here]
      cases interrupted with
      | false => exact justified.kept _ rfl rfl rfl
      | true =>
          have cut_short : Interrupted (past ++ [(app, .reads true)]) :=
            exists_mem_concat.mpr (.inr rfl)
          have grown := Accounted.grows justified (grows_concat past (app, .reads true))
          rw [idle] at grown
          exact grown.give (.inr ⟨rfl, .inl cut_short⟩)
  | polled press =>
      have idle : app.quitting? = none := by rw [App.quitting?, here]
      cases press with
      | quit => exact justified.key idle rfl rfl rfl rfl
      | idle => exact justified.kept _ rfl rfl rfl
      | cancel | pressed => exact justified.kept _ rfl idle.symm rfl
  | leaves =>
      obtain ⟨quitting, leaving⟩ := here
      have stepped : app.step .leaves =
          { system := { app.system with process := (quitting.next app.system.process).1 }
            prompt :=
              some (((quitting.next app.system.process).2.map .leaving).getD .reading) } := by
        rw [App.step, leaving]
      rw [stepped]
      refine justified.screen (by rw [App.quitting?, leaving]) _ rfl ?_ rfl
      dsimp only [App.quitting?]
      cases (quitting.next app.system.process).2 <;> rfl

theorem justified_of_runs (runs : AppRuns past app) : Justified (reasons past) app :=
  Reaches.invariant (fun past app => Justified (reasons past) app) justified_start
    (fun _ _ _ justified allowed => justified.step allowed) runs

end App

/-- In an operation, Ctrl+C is pressed as a key, and comes as a signal before the worker gives
up. -/
def forced : List (AppEvent Unit) :=
  [.operates, .operation .ui, .operation (.pressed .quit), .operation .ui,
    .operation (.signal .interrupt), .operation .handler, .operation .handler, .operation .handler,
    .operation .handler]

theorem allAllowed_forced : AllAllowed App.allows App.step App.start forced :=
  ⟨⟨rfl, rfl⟩, ⟨rfl, ⟨rfl, nofun⟩, fun _ => rfl⟩, ⟨rfl, ⟨rfl, rfl⟩, fun _ => rfl⟩,
    ⟨rfl, ⟨rfl, nofun⟩, fun _ => rfl⟩, ⟨rfl, ⟨rfl, rfl⟩, nofun⟩, ⟨rfl, ⟨rfl, nofun⟩, nofun⟩,
    ⟨rfl, ⟨rfl, nofun⟩, nofun⟩, ⟨rfl, ⟨rfl, nofun⟩, nofun⟩, ⟨rfl, ⟨rfl, nofun⟩, nofun⟩, trivial⟩

end System
end PresenceUnlock.Cli.Cancellation
