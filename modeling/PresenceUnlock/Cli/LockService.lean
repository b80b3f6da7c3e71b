import PresenceUnlock.Execution
import PresenceUnlock.RustStd.Text

/-!
# The presence authenticator of the lock screen

The block that setup generates into the stock lock, as a state machine over the events of the shell:
the hold gesture and its timer, the presence PAM context, the policy file, the password path and the
lifetime of the lock.  Of the stock lock only what the block reads is kept.
-/

namespace PresenceUnlock.Cli.LockService

open RustStd Execution

def presenceIdleText : Text := "Hold Alt to unlock with your trusted device".toList
def presenceHoldingText : Text := "Keep holding Alt to confirm unlock…".toList
def presenceCheckingText : Text := "Checking presence, authenticating…".toList
def presenceRetryText : Text := "Could not confirm presence. Hold Alt to retry.".toList
def presenceCancelledText : Text := "Hold Alt a little longer to unlock.".toList

/-- The properties of the generated service, the timer and the PAM context. -/
structure Service where
  /-- The session is to be locked. -/
  lockRequested : Bool
  /-- The lock covers every screen. -/
  secure : Bool
  /-- A password is being checked. -/
  authenticatingPassword : Bool
  /-- What the view says of presence. -/
  presenceMessage : Text
  /-- Presence is being checked. -/
  presenceAuthenticating : Bool
  /-- The policy could be loaded. -/
  presenceConfigured : Bool
  /-- The key is being held. -/
  presenceHoldTimerRunning : Bool
  /-- The PAM context runs. -/
  presencePamActive : Bool
  deriving DecidableEq

/-- A shell that is not locked. -/
def Service.initial : Service where
  lockRequested := false
  secure := false
  authenticatingPassword := false
  presenceMessage := presenceIdleText
  presenceAuthenticating := false
  presenceConfigured := false
  presenceHoldTimerRunning := false
  presencePamActive := false

/-- How the PAM context ends. -/
inductive PamResult
  | success
  | failed
  | error
  | maxTries
  deriving DecidableEq, Repr

/-- What the IPC caller of a hold is told. -/
inductive HoldReply
  | notLocked
  | busy
  | missingPam
  | holding
  deriving DecidableEq, Repr

/-- `timerExpiry` and `submitPassword` carry whether the attempt they make could be started. -/
inductive Event
  | hold
  | release
  | timerExpiry (started : Bool)
  | pamCompleted (result : PamResult)
  | pamError
  | policyLoaded
  | policyLoadFailed
  | submitPassword (password : Text) (started : Bool)
  | passwordResult
  | resetAuthenticationState
  | setLockRequested (requested : Bool)
  | setSecure (secure : Bool)
  deriving DecidableEq

namespace Service

/-- An abort leaves the PAM context active until its attempt completes. -/
def cancelPresence (service : Service) : Service :=
  { service with
    presenceHoldTimerRunning := false
    presenceAuthenticating := false
    presenceMessage := presenceIdleText }

/-- The lock is up and no password is in flight. -/
def Admissible (service : Service) : Prop :=
  service.lockRequested = true ∧ service.secure = true ∧ service.authenticatingPassword = false

instance (service : Service) : Decidable service.Admissible :=
  inferInstanceAs (Decidable (_ ∧ _ ∧ _))

/-- The key is pressed: the timer starts if the lock can use it. -/
def holdPresence (service : Service) : Service × HoldReply :=
  if !service.lockRequested || !service.secure then (service, .notLocked)
  else if service.authenticatingPassword || service.presenceAuthenticating ||
      service.presencePamActive || service.presenceHoldTimerRunning then
    (service, .busy)
  else if !service.presenceConfigured then
    ({ service with presenceMessage := presenceRetryText }, .missingPam)
  else
    ({ service with
        presenceMessage := presenceHoldingText
        presenceHoldTimerRunning := true }, .holding)

/-- The key is released: the timer stops before it fires. -/
def releasePresence (service : Service) : Service :=
  if service.presenceHoldTimerRunning then
    { service with
      presenceHoldTimerRunning := false
      presenceMessage := presenceCancelledText }
  else service

/-- `onTriggered` of the hold timer, which does not repeat. -/
def timerTriggered (started : Bool) (service : Service) : Service :=
  let service := { service with presenceHoldTimerRunning := false }
  if !service.lockRequested || !service.secure || service.authenticatingPassword then
    service.cancelPresence
  else
    let service := { service with
      presenceMessage := presenceCheckingText
      presenceAuthenticating := true }
    if !started then
      { service with
        presenceAuthenticating := false
        presenceMessage := presenceRetryText }
    else { service with presencePamActive := true }

/-- `onCompleted` of the presence PAM context, and whether it calls `finishUnlock`. -/
def pamCompleted (result : PamResult) (service : Service) : Service × Bool :=
  let service := { service with presencePamActive := false }
  if !service.presenceAuthenticating then (service, false)
  else
    let service := { service with presenceAuthenticating := false }
    if !service.lockRequested || !service.secure || service.authenticatingPassword then
      (service, false)
    else if result = .success then (service, true)
    else ({ service with presenceMessage := presenceRetryText }, false)

/-- The PAM context fails: a lock that is still requested may be retried. -/
def pamError (service : Service) : Service :=
  let service := { service with presenceAuthenticating := false }
  if service.lockRequested then { service with presenceMessage := presenceRetryText } else service

/-- The policy cannot be loaded. -/
def policyLoadFailed (service : Service) : Service :=
  { service with presenceConfigured := false }.cancelPresence

/-- Whether a submitted password gets past the first line of `submitPassword`. -/
def accepts (service : Service) (password : Text) : Bool :=
  !(!service.lockRequested || service.authenticatingPassword || password.length == 0)

/-- The patched `submitPassword`; after the patched line the stock lock starts its own attempt. -/
def submitPassword (password : Text) (started : Bool) (service : Service) : Service :=
  if service.accepts password then
    { service.cancelPresence with authenticatingPassword := started }
  else service

/-- One event. -/
def step (service : Service) : Event → Service
  | .hold => service.holdPresence.1
  | .release => service.releasePresence
  | .timerExpiry started => service.timerTriggered started
  | .pamCompleted result => (service.pamCompleted result).1
  | .pamError => service.pamError
  | .policyLoaded => { service with presenceConfigured := true }
  | .policyLoadFailed => service.policyLoadFailed
  | .submitPassword password started => service.submitPassword password started
  | .passwordResult => { service with authenticatingPassword := false }
  | .resetAuthenticationState => service.cancelPresence
  | .setLockRequested requested => { service with lockRequested := requested }
  | .setSecure secure => { service with secure := secure }

/-- Whether the event makes `onCompleted` call `finishUnlock`. -/
def finishesUnlock (service : Service) : Event → Bool
  | .pamCompleted result => (service.pamCompleted result).2
  | _ => false

/-- The events that end a hold in progress. -/
def EndsHold (service : Service) : Event → Prop
  | .release => True
  | .timerExpiry _ => True
  | .policyLoadFailed => True
  | .resetAuthenticationState => True
  | .submitPassword password _ => service.accepts password = true
  | _ => False

/-- The events that end an attempt, by completing it or by giving up on it. -/
def EndsAttempt (service : Service) : Event → Prop
  | .timerExpiry _ => True
  | .pamCompleted _ => True
  | .pamError => True
  | .policyLoadFailed => True
  | .resetAuthenticationState => True
  | .submitPassword password _ => service.accepts password = true
  | _ => False

/-- A hold starts the timer when the lock is up and nothing else is going on; otherwise it changes
the message at most. -/
theorem holdPresence_cases (service : Service) :
    (service.Admissible ∧ service.presenceAuthenticating = false ∧
      service.presencePamActive = false ∧ service.holdPresence.2 = .holding ∧
      service.holdPresence.1 = { service with
        presenceMessage := presenceHoldingText
        presenceHoldTimerRunning := true }) ∨
      (service.holdPresence.2 ≠ .holding ∧
        ∃ message, service.holdPresence.1 = { service with presenceMessage := message }) := by
  unfold holdPresence
  split
  · exact .inr ⟨nofun, _, rfl⟩
  rename_i locked
  split
  · exact .inr ⟨nofun, _, rfl⟩
  rename_i idle
  split
  · exact .inr ⟨nofun, _, rfl⟩
  simp only [Bool.or_eq_true, Bool.not_eq_true', not_or, Bool.not_eq_false, Bool.not_eq_true]
    at locked idle
  exact .inl ⟨⟨locked.1, locked.2, idle.1.1.1⟩, idle.1.1.2, idle.1.2, rfl, rfl⟩

theorem releasePresence_eq (service : Service) :
    ∃ message, service.releasePresence = { service with
      presenceHoldTimerRunning := false
      presenceMessage := message } := by
  unfold releasePresence
  split
  · exact ⟨_, rfl⟩
  · rename_i stopped
    exact ⟨service.presenceMessage, by rw [← Bool.eq_false_iff.mpr stopped]⟩

/-- An expiry starts an attempt if the lock is still up and no password is in flight. -/
theorem timerTriggered_cases (started : Bool) (service : Service) :
    (started = true ∧ service.Admissible ∧ service.timerTriggered started = { service with
        presenceHoldTimerRunning := false
        presenceMessage := presenceCheckingText
        presenceAuthenticating := true
        presencePamActive := true }) ∨
      ∃ message, service.timerTriggered started = { service with
        presenceHoldTimerRunning := false
        presenceMessage := message
        presenceAuthenticating := false } := by
  unfold timerTriggered
  dsimp only
  split
  · exact .inr ⟨_, rfl⟩
  rename_i locked
  simp only [Bool.or_eq_true, Bool.not_eq_true', not_or, Bool.not_eq_false, Bool.not_eq_true]
    at locked
  cases started with
  | false => exact .inr ⟨_, rfl⟩
  | true => exact .inl ⟨rfl, ⟨locked.1.1, locked.1.2, locked.2⟩, rfl⟩

theorem pamCompleted_eq (result : PamResult) (service : Service) :
    ∃ message, (service.pamCompleted result).1 = { service with
      presencePamActive := false
      presenceMessage := message
      presenceAuthenticating := false } := by
  unfold pamCompleted
  dsimp only
  split
  · rename_i stale
    have idle : service.presenceAuthenticating = false := by simpa using stale
    exact ⟨service.presenceMessage, by rw [← idle]⟩
  split
  · exact ⟨_, rfl⟩
  split
  · exact ⟨_, rfl⟩
  · exact ⟨_, rfl⟩

/-- The lock is finished by a success that is waited for while the lock is up. -/
theorem pamCompleted_finishes {result : PamResult} {service : Service}
    (finishes : (service.pamCompleted result).2 = true) :
    result = .success ∧ service.Admissible ∧ service.presenceAuthenticating = true := by
  unfold pamCompleted at finishes
  dsimp only at finishes
  split at finishes
  · cases finishes
  rename_i awaited
  split at finishes
  · cases finishes
  rename_i locked
  split at finishes
  · rename_i success
    simp only [Bool.or_eq_true, Bool.not_eq_true', not_or, Bool.not_eq_false, Bool.not_eq_true]
      at locked awaited
    exact ⟨success, ⟨locked.1.1, locked.1.2, locked.2⟩, awaited⟩
  · cases finishes

theorem pamError_eq (service : Service) :
    ∃ message, service.pamError = { service with
      presenceAuthenticating := false
      presenceMessage := message } := by
  unfold pamError
  dsimp only
  split
  · exact ⟨_, rfl⟩
  · exact ⟨_, rfl⟩

/-- The timer runs only from an admitted hold on, until something ends that hold. -/
theorem holdTimer_step {service : Service} {event : Event}
    (running : (service.step event).presenceHoldTimerRunning = true) :
    (event = .hold ∧ service.holdPresence.2 = .holding) ∨
      (service.presenceHoldTimerRunning = true ∧ ¬ service.EndsHold event) := by
  cases event with
  | hold =>
      rcases service.holdPresence_cases with ⟨_, _, _, admitted, _⟩ | ⟨_, message, kept⟩
      · exact .inl ⟨rfl, admitted⟩
      · rw [step, kept] at running
        exact .inr ⟨running, id⟩
  | release =>
      obtain ⟨message, stopped⟩ := service.releasePresence_eq
      rw [step, stopped] at running
      cases running
  | timerExpiry started =>
      rcases service.timerTriggered_cases started with ⟨_, _, stopped⟩ | ⟨message, stopped⟩
      all_goals
        rw [step, stopped] at running
        cases running
  | pamCompleted result =>
      obtain ⟨message, kept⟩ := service.pamCompleted_eq result
      rw [step, kept] at running
      exact .inr ⟨running, id⟩
  | pamError =>
      obtain ⟨message, kept⟩ := service.pamError_eq
      rw [step, kept] at running
      exact .inr ⟨running, id⟩
  | submitPassword password started =>
      rw [step, submitPassword] at running
      split at running
      · cases running
      · rename_i refused
        exact .inr ⟨running, refused⟩
  | policyLoadFailed | resetAuthenticationState => cases running
  | policyLoaded | passwordResult | setLockRequested | setSecure => exact .inr ⟨running, id⟩

/-- An attempt is waited for only from an expiry on, until something ends that attempt. -/
theorem authenticating_step {service : Service} {event : Event}
    (authenticating : (service.step event).presenceAuthenticating = true) :
    (event = .timerExpiry true ∧ service.Admissible) ∨
      (service.presenceAuthenticating = true ∧ ¬ service.EndsAttempt event) := by
  cases event with
  | hold =>
      rcases service.holdPresence_cases with ⟨_, _, _, _, kept⟩ | ⟨_, message, kept⟩
      all_goals
        rw [step, kept] at authenticating
        exact .inr ⟨authenticating, id⟩
  | release =>
      obtain ⟨message, kept⟩ := service.releasePresence_eq
      rw [step, kept] at authenticating
      exact .inr ⟨authenticating, id⟩
  | timerExpiry started =>
      rcases service.timerTriggered_cases started with ⟨rfl, admissible, _⟩ | ⟨message, stopped⟩
      · exact .inl ⟨rfl, admissible⟩
      · rw [step, stopped] at authenticating
        cases authenticating
  | pamCompleted result =>
      obtain ⟨message, stopped⟩ := service.pamCompleted_eq result
      rw [step, stopped] at authenticating
      cases authenticating
  | pamError =>
      obtain ⟨message, stopped⟩ := service.pamError_eq
      rw [step, stopped] at authenticating
      cases authenticating
  | submitPassword password started =>
      rw [step, submitPassword] at authenticating
      split at authenticating
      · cases authenticating
      · rename_i refused
        exact .inr ⟨authenticating, refused⟩
  | policyLoadFailed | resetAuthenticationState => cases authenticating
  | policyLoaded | passwordResult | setLockRequested | setSecure =>
      exact .inr ⟨authenticating, id⟩

/-- Only an expiry makes the PAM context active. -/
theorem pamActive_step {service : Service} {event : Event}
    (active : (service.step event).presencePamActive = true) :
    event = .timerExpiry true ∨ service.presencePamActive = true := by
  cases event with
  | hold =>
      rcases service.holdPresence_cases with ⟨_, _, _, _, kept⟩ | ⟨_, message, kept⟩
      all_goals
        rw [step, kept] at active
        exact .inr active
  | release =>
      obtain ⟨message, kept⟩ := service.releasePresence_eq
      rw [step, kept] at active
      exact .inr active
  | timerExpiry started =>
      rcases service.timerTriggered_cases started with ⟨rfl, _⟩ | ⟨message, kept⟩
      · exact .inl rfl
      · rw [step, kept] at active
        exact .inr active
  | pamCompleted result =>
      obtain ⟨message, stopped⟩ := service.pamCompleted_eq result
      rw [step, stopped] at active
      cases active
  | pamError =>
      obtain ⟨message, kept⟩ := service.pamError_eq
      rw [step, kept] at active
      exact .inr active
  | submitPassword password started =>
      rw [step, submitPassword] at active
      split at active
      · exact .inr active
      · exact .inr active
  | policyLoaded | policyLoadFailed | passwordResult | resetAuthenticationState
  | setLockRequested | setSecure => exact .inr active

/-- Only the stock lock requests or ends a lock. -/
theorem lockRequested_step (service : Service) {event : Event}
    (other : ∀ requested, event ≠ .setLockRequested requested) :
    (service.step event).lockRequested = service.lockRequested := by
  cases event with
  | hold =>
      rcases service.holdPresence_cases with ⟨_, _, _, _, kept⟩ | ⟨_, message, kept⟩
      all_goals rw [step, kept]
  | release =>
      obtain ⟨message, kept⟩ := service.releasePresence_eq
      rw [step, kept]
  | timerExpiry started =>
      rcases service.timerTriggered_cases started with ⟨_, _, kept⟩ | ⟨message, kept⟩
      all_goals rw [step, kept]
  | pamCompleted result =>
      obtain ⟨message, kept⟩ := service.pamCompleted_eq result
      rw [step, kept]
  | pamError =>
      obtain ⟨message, kept⟩ := service.pamError_eq
      rw [step, kept]
  | submitPassword password started =>
      rw [step, submitPassword]
      split
      · rfl
      · rfl
  | setLockRequested requested => exact (other requested rfl).elim
  | policyLoaded | policyLoadFailed | passwordResult | resetAuthenticationState | setSecure => rfl

end Service

/-- The service, and what the stock lock owes it: whether a lock ended without the reset that runs
when a lock ends, and whether the last thing that happened was that reset. -/
structure Shell where
  /-- The service. -/
  service : Service
  /-- The reset at the end of a lock is still to come. -/
  resetDue : Bool
  /-- The reset was the last thing that happened. -/
  justReset : Bool
  deriving DecidableEq

namespace Shell

/-- A shell that is not locked. -/
def initial : Shell := ⟨Service.initial, false, false⟩

/-- One event. -/
def step (shell : Shell) (event : Event) : Shell where
  service := shell.service.step event
  resetDue :=
    match event with
    | .resetAuthenticationState => false
    | .setLockRequested false =>
        shell.resetDue || (shell.service.lockRequested && !shell.justReset)
    | _ => shell.resetDue
  justReset := event = .resetAuthenticationState

/-- A timer expires while it runs, an attempt completes while it is active, and a lock does not
begin before the reset of the lock that ended. -/
def Allows (shell : Shell) : Event → Prop
  | .timerExpiry _ => shell.service.presenceHoldTimerRunning = true
  | .pamCompleted _ => shell.service.presencePamActive = true
  | .setLockRequested true => shell.resetDue = false
  | _ => True

end Shell

/-- A step of the shell, as it is remembered. -/
abbrev Step := Recorded Shell Event

/-- What the shell did in some run, and the state it is in. -/
abbrev ShellReaches : List Step → Shell → Prop := Reaches Shell.Allows Shell.step Shell.initial

/-- A hold that is admitted while the lock is up. -/
def OpensHold (_past : List Step) (step : Step) : Prop :=
  step.2 = .hold ∧ step.1.service.holdPresence.2 = .holding ∧ step.1.service.Admissible

/-- A hold was admitted, and since then the lock was requested and nothing ended the hold. -/
def Holding : List Step → Prop :=
  Since OpensHold fun step =>
    step.1.service.lockRequested = true ∧ ¬ step.1.service.EndsHold step.2

/-- The expiry of an uninterrupted hold that starts an attempt, with no other attempt in flight. -/
def OpensAttempt (past : List Step) (step : Step) : Prop :=
  step.2 = .timerExpiry true ∧ step.1.service.Admissible ∧
    step.1.service.presencePamActive = false ∧ Holding past

/-- An uninterrupted hold expired, and since then the lock was requested and nothing ended the
attempt that the expiry started. -/
def Attempting : List Step → Prop :=
  Since OpensAttempt fun step =>
    step.1.service.lockRequested = true ∧ ¬ step.1.service.EndsAttempt step.2

/-- What every run keeps. -/
structure Invariant (past : List Step) (shell : Shell) : Prop where
  /-- While the timer runs, nothing is being checked. -/
  timer_alone : shell.service.presenceHoldTimerRunning = true →
    shell.service.presenceAuthenticating = false ∧ shell.service.presencePamActive = false
  /-- After a reset, neither the timer nor a check is on. -/
  just_reset : shell.justReset = true →
    shell.service.presenceHoldTimerRunning = false ∧ shell.service.presenceAuthenticating = false
  /-- Once the lock is over, a timer or a check that is still on is going to be reset. -/
  reset_due : shell.service.lockRequested = false →
    shell.service.presenceHoldTimerRunning = true ∨ shell.service.presenceAuthenticating = true →
    shell.resetDue = true
  /-- While the timer of a lock runs, the key is held. -/
  holding : shell.service.presenceHoldTimerRunning = true → shell.service.lockRequested = true →
    Holding past
  /-- While a lock checks presence, the key was held long enough. -/
  attempting : shell.service.presenceAuthenticating = true → shell.service.lockRequested = true →
    Attempting past

theorem Invariant.initial : Invariant [] Shell.initial := by
  constructor <;> simp [Shell.initial, Service.initial]

/-- A lock that is up and is owed an authentication has been up since before the last event. -/
theorem Invariant.lockRequested_before {past : List Step} {shell : Shell} {event : Event}
    (invariant : Invariant past shell) (allowed : shell.Allows event)
    (pending : shell.service.presenceHoldTimerRunning = true ∨
      shell.service.presenceAuthenticating = true)
    (locked : (shell.step event).service.lockRequested = true) :
    shell.service.lockRequested = true := by
  by_contra unlocked
  have due := invariant.reset_due (Bool.eq_false_iff.mpr unlocked) pending
  cases event with
  | setLockRequested requested =>
      cases requested with
      | false => cases locked
      | true => exact absurd (due.symm.trans allowed) (by decide)
  | _ =>
      change (shell.service.step _).lockRequested = true at locked
      rw [Service.lockRequested_step _ (by simp)] at locked
      exact unlocked locked

/-- While the timer runs, no attempt is waited for and none is in flight. -/
theorem Invariant.timer_alone_step {past : List Step} {shell : Shell} {event : Event}
    (invariant : Invariant past shell)
    (running : (shell.step event).service.presenceHoldTimerRunning = true) :
    (shell.step event).service.presenceAuthenticating = false ∧
      (shell.step event).service.presencePamActive = false := by
  have before : shell.service.presenceAuthenticating = false ∧
      shell.service.presencePamActive = false ∧ event ≠ .timerExpiry true := by
    rcases Service.holdTimer_step running with ⟨rfl, admitted⟩ | ⟨running, quiet⟩
    · rcases shell.service.holdPresence_cases with ⟨_, idle, inactive, _⟩ | ⟨refused, _⟩
      · exact ⟨idle, inactive, nofun⟩
      · exact (refused admitted).elim
    · obtain ⟨idle, inactive⟩ := invariant.timer_alone running
      refine ⟨idle, inactive, ?_⟩
      rintro rfl
      exact quiet trivial
  obtain ⟨idle, inactive, no_expiry⟩ := before
  constructor
  · refine Bool.eq_false_iff.mpr fun authenticating => ?_
    rcases Service.authenticating_step authenticating with ⟨expiry, _⟩ | ⟨waiting, _⟩
    · exact no_expiry expiry
    · exact Bool.eq_false_iff.mp idle waiting
  · refine Bool.eq_false_iff.mpr fun active => ?_
    rcases Service.pamActive_step active with expiry | active
    · exact no_expiry expiry
    · exact Bool.eq_false_iff.mp inactive active

/-- What is pending once the lock is gone was pending before. -/
theorem pending_before {service : Service} {event : Event}
    (unlocked : (service.step event).lockRequested = false)
    (pending : (service.step event).presenceHoldTimerRunning = true ∨
      (service.step event).presenceAuthenticating = true) :
    service.presenceHoldTimerRunning = true ∨ service.presenceAuthenticating = true := by
  rcases pending with running | authenticating
  · rcases Service.holdTimer_step running with ⟨rfl, admitted⟩ | ⟨before, _⟩
    · rw [Service.lockRequested_step _ (by simp)] at unlocked
      rcases service.holdPresence_cases with ⟨⟨locked, _⟩, _⟩ | ⟨refused, _⟩
      · exact absurd (locked.symm.trans unlocked) (by decide)
      · exact (refused admitted).elim
    · exact .inl before
  · rcases Service.authenticating_step authenticating with ⟨rfl, locked, _⟩ | ⟨before, _⟩
    · rw [Service.lockRequested_step _ (by simp)] at unlocked
      exact absurd (locked.symm.trans unlocked) (by decide)
    · exact .inr before

/-- What is pending once the lock is gone is due to be reset. -/
theorem Invariant.reset_due_step {past : List Step} {shell : Shell} {event : Event}
    (invariant : Invariant past shell)
    (unlocked : (shell.step event).service.lockRequested = false)
    (pending : (shell.step event).service.presenceHoldTimerRunning = true ∨
      (shell.step event).service.presenceAuthenticating = true) :
    (shell.step event).resetDue = true := by
  have before := pending_before unlocked pending
  cases event with
  | resetAuthenticationState => simp [Shell.step, Service.step, Service.cancelPresence] at pending
  | setLockRequested requested =>
      obtain rfl : requested = false := unlocked
      change (shell.resetDue || (shell.service.lockRequested && !shell.justReset)) = true
      cases locked : shell.service.lockRequested with
      | false => rw [invariant.reset_due locked before, Bool.true_or]
      | true =>
          have not_reset : shell.justReset = false := by
            refine Bool.eq_false_iff.mpr fun reset => ?_
            obtain ⟨stopped, idle⟩ := invariant.just_reset reset
            rw [stopped, idle] at before
            simp at before
          rw [not_reset, Bool.not_false, Bool.and_true, Bool.or_true]
  | _ =>
      change (shell.service.step _).lockRequested = false at unlocked
      rw [Service.lockRequested_step _ (by simp)] at unlocked
      exact invariant.reset_due unlocked before

/-- The step: whatever happens, the invariant is kept. -/
theorem Invariant.step {past : List Step} {shell : Shell} {event : Event}
    (invariant : Invariant past shell) (allowed : shell.Allows event) :
    Invariant (past ++ [(shell, event)]) (shell.step event) where
  timer_alone := invariant.timer_alone_step
  just_reset := by
    intro reset
    obtain rfl : event = .resetAuthenticationState := of_decide_eq_true reset
    exact ⟨rfl, rfl⟩
  reset_due := invariant.reset_due_step
  holding := by
    intro running locked
    rcases Service.holdTimer_step running with ⟨rfl, admitted⟩ | ⟨running, quiet⟩
    · rcases shell.service.holdPresence_cases with ⟨admissible, _⟩ | ⟨refused, _⟩
      · exact .opened ⟨rfl, admitted, admissible⟩
      · exact (refused admitted).elim
    · have before := invariant.lockRequested_before allowed (.inl running) locked
      exact (invariant.holding running before).continued ⟨before, quiet⟩
  attempting := by
    intro authenticating locked
    rcases Service.authenticating_step authenticating with ⟨rfl, admissible⟩ | ⟨waiting, quiet⟩
    · exact .opened ⟨rfl, admissible, (invariant.timer_alone allowed).2,
        invariant.holding allowed admissible.1⟩
    · have before := invariant.lockRequested_before allowed (.inr waiting) locked
      exact (invariant.attempting waiting before).continued ⟨before, quiet⟩

/-- The run: every order of events keeps the invariant. -/
theorem invariant_of_reaches {past : List Step} {shell : Shell}
    (reached : ShellReaches past shell) : Invariant past shell :=
  reached.invariant Invariant .initial fun _ _ _ invariant allowed => invariant.step allowed

/-- Whenever a completion finishes the lock, it is a success that came while the lock was up and no
password was in flight, of the attempt that the expiry of an uninterrupted hold started. -/
theorem finishUnlock_follows_hold {past : List Step} {shell : Shell} {event : Event}
    (reached : ShellReaches past shell) (finishes : shell.service.finishesUnlock event = true) :
    event = .pamCompleted .success ∧ shell.service.Admissible ∧ Attempting past := by
  cases event with
  | pamCompleted result =>
      obtain ⟨rfl, admissible, awaited⟩ := Service.pamCompleted_finishes finishes
      exact ⟨rfl, admissible,
        (invariant_of_reaches reached).attempting awaited admissible.1⟩
  | _ => cases finishes

/-- The shell once a lock came up and a hold expired, with Alt already released. -/
def checkingShell : Shell :=
  run Shell.step Shell.initial
    [.policyLoaded, .setLockRequested true, .setSecure true, .hold, .timerExpiry true, .release]

theorem checkingShell_reached : ∃ past, ShellReaches past checkingShell := by
  have booted : ShellReaches [] Shell.initial := .start
  have configured := booted.next (show Shell.Allows _ .policyLoaded from trivial)
  have requested := configured.next (show Shell.Allows _ (.setLockRequested true) from rfl)
  have secured := requested.next (show Shell.Allows _ (.setSecure true) from trivial)
  have held := secured.next (show Shell.Allows _ .hold from trivial)
  have expired := held.next (show Shell.Allows _ (.timerExpiry true) from rfl)
  exact ⟨_, expired.next (show Shell.Allows _ .release from trivial)⟩

/-- A success finishes that lock, after its hold. -/
theorem finishUnlock_follows_hold_once :
    ∃ past, ShellReaches past checkingShell ∧
      checkingShell.service.finishesUnlock (.pamCompleted .success) = true ∧
      checkingShell.service.Admissible ∧ Attempting past := by
  obtain ⟨past, reached⟩ := checkingShell_reached
  have finishes : checkingShell.service.finishesUnlock (.pamCompleted .success) = true := rfl
  obtain ⟨_, admissible, attempting⟩ := finishUnlock_follows_hold reached finishes
  exact ⟨past, reached, finishes, admissible, attempting⟩

end PresenceUnlock.Cli.LockService
