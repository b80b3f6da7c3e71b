import PresenceUnlock.Daemon.FleetLock
import PresenceUnlock.Pam.Account
import PresenceUnlock.Pam.Conversation
import PresenceUnlock.Protocol.Evidence

/-!
# An unlock from end to end

Any number of calls of the module, each with a connection of its own, and the daemon with its
scanner, its clock and its mutex.  Whatever the order of their steps, a call that gets an answer
gets the decision of one moment between its beginning and its end.
-/

namespace PresenceUnlock.Unlock

open RustStd Execution

/-- The file type, the owner and the mode of the control socket. -/
structure SocketMetadata where
  /-- Whether it is a socket. -/
  isSocket : Bool
  /-- Its owner. -/
  uid : UInt32
  /-- Its mode, with the type. -/
  mode : UInt32
  deriving DecidableEq, Repr

/-- A socket of the user, whose lowest six mode bits are clear. -/
def socketMetadataIsSafe (metadata : SocketMetadata) (uid : UInt32) : Bool :=
  metadata.isSocket && metadata.uid == uid && 6 ≤ metadata.mode.toBitVec.ctz.toNat

/-- What a call finds: the PAM user, the effective uid, the account file and the socket. -/
structure Found where
  /-- The name that PAM gives, if any. -/
  user : Option (List UInt8)
  /-- The effective user of the process. -/
  euid : UInt32
  /-- The account file, if it can be read. -/
  passwd : Option Pam.PasswdFile
  /-- What is at the path of the socket, if anything. -/
  socket : Option SocketMetadata

/-- What `authenticate` returns. -/
inductive ReturnCode
  | serviceErr
  | exchanged (code : Pam.PamReturnCode)
  deriving DecidableEq, Repr

/-- Why a call ends before its exchange begins, if it does. -/
def Found.refusal (found : Found) : Option ReturnCode :=
  match found.user with
  | none => some .serviceErr
  | some user =>
      if !Pam.localAccountMatchesEuid found.passwd user found.euid then some .serviceErr
      else
        match found.socket with
        | none => some (.exchanged .authinfoUnavail)
        | some metadata =>
            if !socketMetadataIsSafe metadata found.euid then
              some (.exchanged .authinfoUnavail)
            else none

/-- A call may ask the daemon of its own account only, over a socket that is private to it. -/
structure Found.Admits (found : Found) : Prop where
  /-- The name is that of the process's own account. -/
  account : ∃ user ∈ found.user, Pam.localAccountMatchesEuid found.passwd user found.euid = true
  /-- The socket is private to it. -/
  socket : ∃ metadata ∈ found.socket, socketMetadataIsSafe metadata found.euid = true

theorem Found.refusal_eq_none_iff {found : Found} : found.refusal = none ↔ found.Admits := by
  constructor
  · intro admitted
    unfold refusal at admitted
    split at admitted
    · cases admitted
    rename_i user named
    split at admitted
    · cases admitted
    rename_i account
    split at admitted
    · cases admitted
    rename_i metadata present
    split at admitted
    · cases admitted
    rename_i socket
    exact ⟨⟨user, named, by simpa using account⟩, metadata, present, by simpa using socket⟩
  · rintro ⟨⟨user, named, account⟩, metadata, present, socket⟩
    rw [refusal, named, present]
    simp [account, socket]

/-- One call: what it found, when it began, its exchange with the daemon, the moment the daemon
judged it at with what the daemon had heard by then, and how and when it ended. -/
structure Call where
  /-- What it found. -/
  found : Found
  /-- When it began. -/
  began : UInt64
  /-- Its exchange with the daemon. -/
  exchange : Pam.System
  /-- When the daemon judged it, and what it had heard by then. -/
  judged : Option (UInt64 × List FleetEvent)
  /-- When it ended, and with what. -/
  ended : Option (UInt64 × ReturnCode)

namespace Call

/-- A call that begins now. -/
def begin (found : Found) (now : UInt64) : Call where
  found := found
  began := now
  exchange := .start
  judged := none
  ended := found.refusal.map fun code => (now, code)

/-- The daemon's answer reaches a connection that is waiting for it. -/
def serve (call : Call) (fleet : Fleet) (now : UInt64) (history : List FleetEvent) : Call :=
  match call.exchange.daemon with
  | .serving _ =>
      { call with
        exchange := call.exchange.step (.serve fleet now)
        judged := some (now, history) }
  | _ => call

/-- The module returns as soon as its exchange has finished. -/
def conclude (call : Call) (now : UInt64) : Call :=
  match call.ended, call.exchange.pam with
  | none, .finished reply =>
      { call with ended := some (now, .exchanged (Pam.exchangeResult reply)) }
  | _, _ => call

/-- A step of the exchange. -/
def move (call : Call) (event : Pam.Event) (now : UInt64) : Call :=
  { call with exchange := call.exchange.step event }.conclude now

/-- The deadline, an error or a lost connection: the module gives up and closes its end. -/
def fail (call : Call) (now : UInt64) : Call :=
  { call with
    exchange := { call.exchange with pam := .finished none }
    ended := some (now, .exchanged .authinfoUnavail) }

theorem began_serve (call : Call) (fleet : Fleet) (now : UInt64) (history : List FleetEvent) :
    (call.serve fleet now history).began = call.began := by
  unfold serve
  split <;> rfl

theorem began_move (call : Call) (event : Pam.Event) (now : UInt64) :
    (call.move event now).began = call.began := by
  unfold move conclude
  split <;> rfl

end Call

/-- The daemon, everything its fleet has heard, and the calls, each on its own connection. -/
structure System (Pid : Type*) where
  /-- The daemon. -/
  daemon : FleetLock.System Pid
  /-- Everything its fleet has heard. -/
  history : List FleetEvent
  /-- The calls. -/
  calls : Pid → Option Call

/-- A step of the daemon, a call, or a step of its exchange. -/
inductive Event (Pid : Type*)
  | daemon (event : FleetLock.Event Pid)
  | call (pid : Pid) (found : Found)
  | exchange (pid : Pid) (event : Pam.Event)
  | fails (pid : Pid)

namespace System

variable {Pid : Type*}

/-- A daemon that has heard nothing, and no call. -/
def start (specs : List DeviceSpec) (rule : MultiDeviceAuth) (clock : UInt64) : System Pid where
  daemon := .start specs rule clock
  history := []
  calls _ := none

/-- What a step of the daemon tells its fleet. -/
def heard (daemon : FleetLock.System Pid) : FleetLock.Event Pid → List FleetEvent
  | .next task =>
      match daemon.phase task with
      | .holding .invalidate _ => [.invalidate]
      | .observing advertisement now => [.observe now advertisement]
      | _ => []
  | _ => []

/-- The connection that a step of the daemon answers a `CHECK` on, and the time it is judged at. -/
def answered (daemon : FleetLock.System Pid) : FleetLock.Event Pid → Option (Pid × UInt64)
  | .next (.client pid) =>
      match daemon.phase (.client pid) with
      | .checking now _ => some (pid, now)
      | _ => none
  | _ => none

variable [DecidableEq Pid]

/-- A change of one call. -/
def updateCall (system : System Pid) (pid : Pid) (update : Call → Call) : System Pid :=
  { system with
    calls := Function.update system.calls pid ((system.calls pid).map update) }

/-- One step. -/
def step (system : System Pid) : Event Pid → System Pid
  | .daemon event =>
      let stepped : System Pid :=
        { system with
          daemon := system.daemon.step event
          history := system.history ++ heard system.daemon event }
      match answered system.daemon event with
      | some (pid, now) =>
          stepped.updateCall pid fun call => call.serve system.daemon.fleet now system.history
      | none => stepped
  | .call pid found =>
      { system with
        calls := Function.update system.calls pid (some (.begin found system.daemon.clock)) }
  | .exchange pid event => system.updateCall pid fun call => call.move event system.daemon.clock
  | .fails pid => system.updateCall pid fun call => call.fail system.daemon.clock

/-- A request is taken from a connection only once it has come in whole; a connection belongs to
one call; and only the daemon puts questions to its fleet. -/
def allows (system : System Pid) : Event Pid → Prop
  | .daemon (.request pid request) =>
      system.daemon.allows (.request pid request) ∧
        ∀ call ∈ system.calls pid,
          request = .check ∧ call.exchange.daemon = .serving Wire.reqCheck.asBytes
  | .daemon event => system.daemon.allows event
  | .call pid _ => system.calls pid = none ∧ system.daemon.phase (.client pid) = .idle
  | .exchange pid event =>
      (∃ call ∈ system.calls pid, call.found.refusal = none) ∧
        ∀ fleet now, event ≠ .serve fleet now
  | .fails pid => ∃ call ∈ system.calls pid, call.found.refusal = none ∧ call.ended = none

end System

section Daemon

variable {Pid : Type*} {daemon : FleetLock.System Pid} {event : FleetLock.Event Pid}

/-- The time that a task has read under the mutex and will use. -/
def readAt : FleetLock.Phase → Option UInt64
  | .observing _ now => some now
  | .checking now _ => some now
  | _ => none

theorem holds_of_readAt {phase : FleetLock.Phase} {now : UInt64} (read : readAt phase = some now) :
    phase.Holds := by
  cases phase with
  | observing => trivial
  | checking => trivial
  | _ => cases read

/-- Whatever is heard at some time was being folded in at that time. -/
theorem observing_of_heard {t : ℕ} (member : t ∈ FleetEvent.times (System.heard daemon event)) :
    ∃ task advertisement now, event = .next task ∧
      daemon.phase task = .observing advertisement now ∧ t = now.toNat := by
  cases event with
  | next task =>
      cases phase : daemon.phase task with
      | observing advertisement now =>
          simp only [System.heard, phase, FleetEvent.times, FleetEvent.time?, List.filterMap_cons,
            List.filterMap_nil, List.mem_singleton] at member
          exact ⟨task, advertisement, now, rfl, phase, member⟩
      | holding job snapshot =>
          cases job <;>
            simp [System.heard, phase, FleetEvent.times, FleetEvent.time?] at member
      | _ => simp [System.heard, phase, FleetEvent.times] at member
  | _ => simp [System.heard, FleetEvent.times] at member

theorem checking_of_answered {pid : Pid} {now : UInt64}
    (answered : System.answered daemon event = some (pid, now)) :
    event = .next (.client pid) ∧
      ∃ snapshot, daemon.phase (.client pid) = .checking now snapshot := by
  unfold System.answered at answered
  split at answered
  · rename_i client
    split at answered
    · rename_i checking
      cases answered
      exact ⟨rfl, _, checking⟩
    · cases answered
  · cases answered

variable [DecidableEq Pid]

theorem fleet_step :
    (daemon.step event).fleet = run Fleet.step daemon.fleet (System.heard daemon event) := by
  cases event with
  | tick => rfl
  | scan => rfl
  | request pid request => cases request <;> rfl
  | next task =>
      rw [FleetLock.System.step]
      cases phase : daemon.phase task with
      | waiting job =>
          simp only [FleetLock.System.next, phase, System.heard, run_nil]
          split <;> rfl
      | holding job snapshot =>
          cases job <;> simp [FleetLock.System.next, phase, System.heard, Fleet.step] <;> rfl
      | _ => simp [FleetLock.System.next, phase, System.heard, Fleet.step] <;> rfl

theorem clock_le_step (allowed : daemon.allows event) :
    daemon.clock ≤ (daemon.step event).clock := by
  cases event with
  | tick now => exact allowed
  | scan => exact UInt64.le_refl _
  | request pid request => cases request <;> exact UInt64.le_refl _
  | next task =>
      have same : (daemon.next task).clock = daemon.clock := by
        cases phase : daemon.phase task with
        | waiting job =>
            simp only [FleetLock.System.next, phase]
            split <;> rfl
        | holding job snapshot => cases job <;> simp only [FleetLock.System.next, phase] <;> rfl
        | _ => simp only [FleetLock.System.next, phase] <;> rfl
      exact UInt64.le_of_eq same.symm

/-- A task that has read a time has done so before, or does so now and without a word to the
fleet. -/
theorem readAt_step {task : FleetLock.Task Pid} {now : UInt64}
    (read : readAt ((daemon.step event).phase task) = some now) :
    readAt (daemon.phase task) = some now ∨
      now = daemon.clock ∧ System.heard daemon event = [] := by
  have moved : ∀ {actor : FleetLock.Task Pid} {phase : FleetLock.Phase},
      readAt (Function.update daemon.phase actor phase task) = some now →
        readAt (daemon.phase task) = some now ∨ actor = task ∧ readAt phase = some now := by
    intro actor phase read
    by_cases same : task = actor
    · subst same
      rw [Function.update_self] at read
      exact .inr ⟨rfl, read⟩
    · rw [Function.update_of_ne same] at read
      exact .inl read
  have unread : ∀ {actor : FleetLock.Task Pid} {phase : FleetLock.Phase}, readAt phase = none →
      readAt (Function.update daemon.phase actor phase task) = some now →
        readAt (daemon.phase task) = some now ∨
          now = daemon.clock ∧ System.heard daemon event = [] := by
    intro actor phase nothing read
    rcases moved read with old | ⟨_, new⟩
    · exact .inl old
    · rw [nothing] at new
      cases new
  cases event with
  | tick => exact .inl read
  | scan job => exact unread rfl read
  | request pid request => cases request <;> exact unread rfl read
  | next actor =>
      rw [FleetLock.System.step] at read
      cases phase : daemon.phase actor with
      | idle =>
          simp only [FleetLock.System.next, phase] at read
          exact .inl read
      | statusAsked =>
          simp only [FleetLock.System.next, phase] at read
          exact unread rfl read
      | waiting job =>
          simp only [FleetLock.System.next, phase] at read
          split at read
          · exact unread rfl read
          · exact .inl read
      | holding job snapshot =>
          cases job with
          | observe advertisement =>
              simp only [FleetLock.System.next, phase] at read
              rcases moved read with old | ⟨_, new⟩
              · exact .inl old
              · exact .inr ⟨(Option.some.inj new).symm, by simp [System.heard, phase]⟩
          | check =>
              simp only [FleetLock.System.next, phase] at read
              rcases moved read with old | ⟨_, new⟩
              · exact .inl old
              · exact .inr ⟨(Option.some.inj new).symm, by simp [System.heard, phase]⟩
          | _ =>
              simp only [FleetLock.System.next, phase] at read
              exact unread rfl read
      | _ =>
          simp only [FleetLock.System.next, phase] at read
          exact unread rfl read

/-- The task that takes its next step has let go of whatever time it had read. -/
theorem readAt_self {task : FleetLock.Task Pid} {now : UInt64}
    (read : readAt (daemon.phase task) = some now) :
    readAt ((daemon.step (.next task)).phase task) = none := by
  rw [FleetLock.System.step]
  cases phase : daemon.phase task with
  | observing =>
      simp only [FleetLock.System.next, phase, FleetLock.System.release, FleetLock.System.goto,
        Function.update_self]
      rfl
  | checking =>
      simp only [FleetLock.System.next, phase, FleetLock.System.release, FleetLock.System.answer,
        FleetLock.System.goto, Function.update_self]
      rfl
  | _ =>
      rw [phase] at read
      cases read

end Daemon

/-- What had been heard by a moment: everything up to then, and nothing after it. -/
structure Moment (whole : List FleetEvent) (now : UInt64) (history : List FleetEvent) : Prop where
  /-- Everything had been heard by then. -/
  past : ∀ t ∈ FleetEvent.times history, t ≤ now.toNat
  /-- What else there is was heard afterwards. -/
  later : ∃ later, whole = history ++ later ∧ ∀ t ∈ FleetEvent.times later, now.toNat ≤ t

theorem times_append (first second : List FleetEvent) :
    FleetEvent.times (first ++ second) = FleetEvent.times first ++ FleetEvent.times second :=
  List.filterMap_append

theorem Moment.grow {whole history new : List FleetEvent} {now : UInt64}
    (moment : Moment whole now history) (after : ∀ t ∈ FleetEvent.times new, now.toNat ≤ t) :
    Moment (whole ++ new) now history := by
  obtain ⟨later, rfl, order⟩ := moment.later
  refine ⟨moment.past, later ++ new, List.append_assoc _ _ _, fun t member => ?_⟩
  rw [times_append] at member
  rcases List.mem_append.mp member with old | fresh
  · exact order t old
  · exact after t fresh

namespace System

variable {Pid : Type*}

/-- No time before this moment is going to be used any more. -/
structure Past (daemon : FleetLock.System Pid) (now : UInt64) : Prop where
  /-- The clock has reached it. -/
  reached : now ≤ daemon.clock
  /-- Every task that has read the clock read it later. -/
  read : ∀ task t, readAt (daemon.phase task) = some t → now ≤ t

section Invariant

variable (specs : List DeviceSpec) (rule : MultiDeviceAuth)

/-- The daemon's fleet after a history. -/
abbrev fleetAfter (history : List FleetEvent) : Fleet :=
  run Fleet.step (Fleet.new specs rule) history

/-- A moment between the beginning and the end of a call at which the fleet allowed, or did not. -/
def DecidedBetween (daemon : FleetLock.System Pid) (whole : List FleetEvent)
    (began ended : UInt64) (allowed : Prop) : Prop :=
  ∃ now history, began ≤ now ∧ now ≤ ended ∧ Moment whole now history ∧ Past daemon now ∧
    (allowed ↔ (fleetAfter specs rule history).check now = .allow)

/-- What is known of a call: an answer that it waits for or has got was judged at a moment since it
began. -/
structure Knows (daemon : FleetLock.System Pid) (whole : List FleetEvent) (call : Call) :
    Prop where
  /-- It began in the past. -/
  began : call.began ≤ daemon.clock
  /-- The daemon answers by what it had heard when it judged. -/
  served : call.exchange.served =
    call.judged.map fun (now, history) => (fleetAfter specs rule history, now)
  /-- The daemon judged it after it began, at a moment that is past. -/
  judged : ∀ now history, call.judged = some (now, history) →
    call.began ≤ now ∧ Moment whole now history ∧ Past daemon now
  /-- Until it ends, its exchange goes on. -/
  unfinished : call.ended = none →
    call.found.Admits ∧ Pam.System.Consistent call.exchange ∧
      ∀ reply, call.exchange.pam ≠ .finished reply
  /-- If it ends with an answer, this was decided while it was on. -/
  result : ∀ ended code, call.ended = some (ended, .exchanged code) → code ≠ .authinfoUnavail →
    call.found.Admits ∧
      DecidedBetween specs rule daemon whole call.began ended (code = .success)

/-- Everything the fleet knows is in the history, in time order, and a task that has read a time
under the mutex has the fleet to itself. -/
structure Inv (system : System Pid) : Prop where
  /-- Only the holder of the mutex uses the fleet. -/
  daemon : system.daemon.Inv fun _ _ => True
  /-- The fleet is what was heard. -/
  fleet : system.daemon.fleet = fleetAfter specs rule system.history
  /-- It was heard in order. -/
  ordered : (FleetEvent.times system.history).Pairwise (· ≤ ·)
  /-- All of it was heard in the past. -/
  past : ∀ t ∈ FleetEvent.times system.history, t ≤ system.daemon.clock.toNat
  /-- A time that a task has read is not before anything that was heard. -/
  read : ∀ task now, readAt (system.daemon.phase task) = some now →
    now ≤ system.daemon.clock ∧ ∀ t ∈ FleetEvent.times system.history, t ≤ now.toNat
  /-- The time of a call's judgement is not before its beginning. -/
  began : ∀ pid now, readAt (system.daemon.phase (.client pid)) = some now →
    ∀ call ∈ system.calls pid, call.began ≤ now
  /-- What is known of every call. -/
  calls : ∀ pid, ∀ call ∈ system.calls pid, Knows specs rule system.daemon system.history call

end Invariant

variable {specs : List DeviceSpec} {rule : MultiDeviceAuth} {system : System Pid}

theorem inv_start (clock : UInt64) : Inv specs rule (start specs rule clock : System Pid) where
  daemon := FleetLock.System.inv_start specs rule clock
  fleet := rfl
  ordered := List.Pairwise.nil
  past := by simp [start, FleetEvent.times]
  read _ _ read := by cases read
  began _ _ read := by cases read
  calls _ _ member := by cases member

/-- Two tasks cannot both have read a time under the mutex. -/
theorem Inv.alone (inv : Inv specs rule system) {first second : FleetLock.Task Pid}
    {now later : UInt64} (read : readAt (system.daemon.phase first) = some now)
    (read' : readAt (system.daemon.phase second) = some later) : first = second := by
  have holder := inv.daemon.alone first (holds_of_readAt read)
  rw [inv.daemon.alone second (holds_of_readAt read')] at holder
  exact (Option.some.inj holder).symm

/-- What is heard is heard at a time that some task had read. -/
theorem Past.le_of_heard {now : UInt64} (past : Past system.daemon now)
    {event : FleetLock.Event Pid}
    {t : ℕ} (member : t ∈ FleetEvent.times (heard system.daemon event)) : now.toNat ≤ t := by
  obtain ⟨task, _, read, _, observing, rfl⟩ := observing_of_heard member
  exact UInt64.le_iff_toNat_le.mp (past.read task read (by rw [observing]; rfl))

variable [DecidableEq Pid] {event : FleetLock.Event Pid}

/-- The daemon after one of its steps, with what its fleet has heard. -/
def advance (system : System Pid) (event : FleetLock.Event Pid) : System Pid :=
  { system with
    daemon := system.daemon.step event
    history := system.history ++ heard system.daemon event }

theorem step_daemon (event : FleetLock.Event Pid) :
    system.step (.daemon event) =
      match answered system.daemon event with
      | some (pid, now) =>
          (system.advance event).updateCall pid fun call =>
            call.serve system.daemon.fleet now system.history
      | none => system.advance event := rfl

theorem Past.advance {now : UInt64} (past : Past system.daemon now)
    (allowed : system.daemon.allows event) : Past (system.daemon.step event) now where
  reached := UInt64.le_trans past.reached (clock_le_step allowed)
  read task t read := by
    rcases readAt_step read with old | ⟨new, _⟩
    · exact past.read task t old
    · exact new ▸ past.reached

theorem DecidedBetween.advance {began ended : UInt64} {result : Prop}
    (decided : DecidedBetween specs rule system.daemon system.history began ended result)
    (allowed : system.daemon.allows event) :
    DecidedBetween specs rule (system.advance event).daemon (system.advance event).history began
      ended result := by
  obtain ⟨now, history, since, until_end, moment, past, same⟩ := decided
  exact ⟨now, history, since, until_end, moment.grow fun _ member => past.le_of_heard member,
    past.advance allowed, same⟩

theorem Knows.advance {call : Call}
    (knows : Knows specs rule system.daemon system.history call)
    (allowed : system.daemon.allows event) :
    Knows specs rule (system.advance event).daemon (system.advance event).history call where
  began := UInt64.le_trans knows.began (clock_le_step allowed)
  served := knows.served
  judged now history judged := by
    obtain ⟨since, moment, past⟩ := knows.judged now history judged
    exact ⟨since, moment.grow fun _ member => past.le_of_heard member, past.advance allowed⟩
  unfinished := knows.unfinished
  result ended code returned answered := by
    obtain ⟨admits, decided⟩ := knows.result ended code returned answered
    exact ⟨admits, decided.advance allowed⟩

/-- The fleet hears things in the order of their times. -/
theorem Inv.advance (inv : Inv specs rule system) (allowed : system.daemon.allows event) :
    Inv specs rule (system.advance event) where
  daemon := FleetLock.System.inv_step inv.daemon allowed fun _ _ _ _ _ => trivial
  fleet := by
    change (system.daemon.step event).fleet = run Fleet.step _ (system.history ++ _)
    rw [fleet_step, inv.fleet, run, run, List.foldl_append, fleetAfter, run]
  ordered := by
    change (FleetEvent.times (system.history ++ heard system.daemon event)).Pairwise (· ≤ ·)
    rw [times_append, List.pairwise_append]
    refine ⟨inv.ordered, ?_, ?_⟩
    · have single : (FleetEvent.times (heard system.daemon event)).length ≤ 1 := by
        refine (List.length_filterMap_le _ _).trans ?_
        unfold heard
        split
        · split <;> simp
        · simp
      generalize FleetEvent.times (heard system.daemon event) = times at single
      rcases times with _ | ⟨t, _ | ⟨later, rest⟩⟩
      · exact .nil
      · exact List.pairwise_singleton _ _
      · simp at single
    · intro earlier member later new
      obtain ⟨task, _, now, _, observing, rfl⟩ := observing_of_heard new
      exact (inv.read task now (by rw [observing]; rfl)).2 earlier member
  past t member := by
    have order := UInt64.le_iff_toNat_le.mp (clock_le_step allowed)
    change t ∈ FleetEvent.times (system.history ++ heard system.daemon event) at member
    rw [times_append] at member
    rcases List.mem_append.mp member with old | new
    · exact (inv.past t old).trans order
    · obtain ⟨task, _, now, _, observing, rfl⟩ := observing_of_heard new
      exact (UInt64.le_iff_toNat_le.mp (inv.read task now (by rw [observing]; rfl)).1).trans order
  read task now read := by
    change _ ∧ ∀ t ∈ FleetEvent.times (system.history ++ heard system.daemon event), t ≤ now.toNat
    rcases readAt_step read with old | ⟨rfl, silent⟩
    · obtain ⟨reached, known⟩ := inv.read task now old
      refine ⟨UInt64.le_trans reached (clock_le_step allowed), fun t member => ?_⟩
      rw [times_append] at member
      rcases List.mem_append.mp member with before | new
      · exact known t before
      · -- Whoever is heard has the mutex, and lets go of it with this step.
        obtain ⟨actor, _, time, rfl, observing, rfl⟩ := observing_of_heard new
        have reading : readAt (system.daemon.phase actor) = some time := by rw [observing]; rfl
        obtain rfl := inv.alone old reading
        rw [System.advance, readAt_self reading] at read
        cases read
    · refine ⟨clock_le_step allowed, fun t member => ?_⟩
      rw [silent, List.append_nil] at member
      exact inv.past t member
  began pid now read call member := by
    rcases readAt_step read with old | ⟨rfl, _⟩
    · exact inv.began pid now old call member
    · exact (inv.calls pid call member).began
  calls pid call member := (inv.calls pid call member).advance allowed

omit [DecidableEq Pid] in
theorem served_step {exchange : Pam.System} {event : Pam.Event}
    (other : ∀ fleet now, event ≠ .serve fleet now) :
    (exchange.step event).served = exchange.served := by
  cases event with
  | serve fleet now => exact absurd rfl (other fleet now)
  | wouldBlock => rfl
  | pamWrite extra =>
      simp only [Pam.System.step]
      split <;> rfl
  | daemonRead extra =>
      simp only [Pam.System.step]
      split
      · split
        · split <;> rfl
        · rfl
      · rfl
  | daemonWrite extra =>
      simp only [Pam.System.step]
      split <;> rfl
  | pamRead extra =>
      simp only [Pam.System.step]
      split
      · split
        · split <;> rfl
        · rfl
      · rfl

omit [DecidableEq Pid] in
theorem refusal_cases {found : Found} {code : ReturnCode} (refused : found.refusal = some code) :
    code = .serviceErr ∨ code = .exchanged .authinfoUnavail := by
  unfold Found.refusal at refused
  split at refused
  · exact .inl (Option.some.inj refused).symm
  split at refused
  · exact .inl (Option.some.inj refused).symm
  split at refused
  · exact .inr (Option.some.inj refused).symm
  split at refused
  · exact .inr (Option.some.inj refused).symm
  · cases refused

omit [DecidableEq Pid] in
theorem knows_begin (found : Found) :
    Knows specs rule system.daemon system.history (.begin found system.daemon.clock) where
  began := UInt64.le_refl _
  served := rfl
  judged _ _ judged := by cases judged
  unfinished open_ended := by
    have admitted : found.refusal = none := by simpa [Call.begin] using open_ended
    exact ⟨Found.refusal_eq_none_iff.mp admitted, Pam.System.consistent_start,
      fun reply finished => by cases finished⟩
  result ended code returned answered := by
    obtain ⟨_, refused, same⟩ := Option.map_eq_some_iff.mp returned
    cases same
    rcases refusal_cases refused with service | unavailable
    · cases service
    · cases unavailable
      exact absurd rfl answered

omit [DecidableEq Pid] in
theorem Knows.serve {call : Call} {daemon : FleetLock.System Pid}
    {whole history : List FleetEvent} (knows : Knows specs rule daemon whole call) {now : UInt64}
    (since : call.began ≤ now) (moment : Moment whole now history) (past : Past daemon now) :
    Knows specs rule daemon whole (call.serve (fleetAfter specs rule history) now history) := by
  unfold Call.serve
  split
  · rename_i line serving
    have stepped : call.exchange.step (.serve (fleetAfter specs rule history) now) =
        { call.exchange with
          daemon := .replying (Control.answer line (fleetAfter specs rule history) now)
          served := some (fleetAfter specs rule history, now) } := by
      simp only [Pam.System.step, serving]
    refine ⟨knows.began, ?_, ?_, ?_, knows.result⟩
    · rw [stepped]
      rfl
    · intro now' history' judged
      cases judged
      exact ⟨since, moment, past⟩
    · intro open_ended
      obtain ⟨admits, consistent, unfinished⟩ := knows.unfinished open_ended
      refine ⟨admits, (Pam.System.advances_step consistent (.serve _ now)).consistent, ?_⟩
      change ∀ reply, (call.exchange.step _).pam ≠ _
      rw [stepped]
      exact unfinished
  · exact knows

omit [DecidableEq Pid] in
/-- A call that finishes returns what the fleet decided at the moment it was judged. -/
theorem Knows.move {call : Call} {daemon : FleetLock.System Pid} {whole : List FleetEvent}
    (knows : Knows specs rule daemon whole call) {event : Pam.Event}
    (other : ∀ fleet now, event ≠ .serve fleet now) :
    Knows specs rule daemon whole (call.move event daemon.clock) := by
  have served : (call.exchange.step event).served = call.judged.map fun (now, history) =>
      (fleetAfter specs rule history, now) := (served_step other).trans knows.served
  unfold Call.move Call.conclude
  split
  · rename_i reply open_ended finished
    obtain ⟨admits, consistent, _⟩ := knows.unfinished open_ended
    refine ⟨knows.began, served, knows.judged, nofun, fun ended code returned _ => ?_⟩
    obtain ⟨fleet, time, asked, same⟩ := Pam.System.result_of_finished
      (Pam.System.advances_step consistent event).consistent finished
    obtain ⟨⟨now, history⟩, judged, pair⟩ := Option.map_eq_some_iff.mp (served.symm.trans asked)
    cases pair
    cases returned
    obtain ⟨since, moment, past⟩ := knows.judged time history judged
    refine ⟨admits, time, history, since, past.reached, moment, past, ?_⟩
    rw [same]
    split
    · rename_i allows
      simp [allows]
    · rename_i denies
      simp [denies]
  · rename_i unfinished
    refine ⟨knows.began, served, knows.judged, fun open_ended => ?_, knows.result⟩
    obtain ⟨admits, consistent, _⟩ := knows.unfinished open_ended
    exact ⟨admits, (Pam.System.advances_step consistent event).consistent,
      fun reply finished => unfinished reply open_ended finished⟩

omit [DecidableEq Pid] in
theorem Knows.fail {call : Call} {daemon : FleetLock.System Pid} {whole : List FleetEvent}
    (knows : Knows specs rule daemon whole call) (now : UInt64) :
    Knows specs rule daemon whole (call.fail now) where
  began := knows.began
  served := knows.served
  judged := knows.judged
  unfinished := nofun
  result ended code returned answered := by
    cases returned
    exact absurd rfl answered

/-- A call is updated, and what is known of it is still known. -/
theorem Inv.updateCall (inv : Inv specs rule system) {pid : Pid} {update : Call → Call}
    (began : ∀ call, (update call).began = call.began)
    (knows : ∀ call ∈ system.calls pid,
      Knows specs rule system.daemon system.history (update call)) :
    Inv specs rule (system.updateCall pid update) where
  daemon := inv.daemon
  fleet := inv.fleet
  ordered := inv.ordered
  past := inv.past
  read := inv.read
  began other now read call member := by
    by_cases same : other = pid
    · subst same
      simp only [System.updateCall, Function.update_self, Option.mem_map] at member
      obtain ⟨previous, known, rfl⟩ := member
      rw [began]
      exact inv.began other now read previous known
    · simp only [System.updateCall, Function.update_of_ne same] at member
      exact inv.began other now read call member
  calls other call member := by
    by_cases same : other = pid
    · subst same
      simp only [System.updateCall, Function.update_self, Option.mem_map] at member
      obtain ⟨previous, known, rfl⟩ := member
      exact knows previous known
    · simp only [System.updateCall, Function.update_of_ne same] at member
      exact inv.calls other call member

theorem inv_step_daemon (inv : Inv specs rule system) (allowed : system.daemon.allows event) :
    Inv specs rule (system.step (.daemon event)) := by
  rw [step_daemon]
  cases answers : answered system.daemon event with
  | none => exact inv.advance allowed
  | some answer =>
      obtain ⟨pid, now⟩ := answer
      obtain ⟨rfl, snapshot, checking⟩ := checking_of_answered answers
      have read : readAt (system.daemon.phase (.client pid)) = some now := by rw [checking]; rfl
      have silent : heard system.daemon (.next (.client pid)) = [] := by
        simp only [heard, checking]
      obtain ⟨reached, known⟩ := inv.read _ now read
      refine (inv.advance allowed).updateCall (fun call => call.began_serve _ _ _) ?_
      intro call member
      have since : call.began ≤ now := inv.began pid now read call member
      have moment : Moment (system.advance (.next (.client pid))).history now system.history :=
        ⟨known, [], by rw [System.advance, silent], by simp [FleetEvent.times]⟩
      have past : Past (system.advance (.next (.client pid))).daemon now := by
        refine ⟨UInt64.le_trans reached (clock_le_step allowed), fun task t later => ?_⟩
        rcases readAt_step later with old | ⟨rfl, _⟩
        · -- The mutex was held by the call's own connection, which has let go of it.
          obtain rfl := inv.alone read old
          rw [System.advance, readAt_self read] at later
          cases later
        · exact reached
      rw [inv.fleet]
      exact ((inv.calls pid call member).advance allowed).serve since moment past

/-- Every step of the daemon and of the calls keeps what is known. -/
theorem inv_step (inv : Inv specs rule system) {event : Event Pid}
    (allowed : system.allows event) : Inv specs rule (system.step event) := by
  cases event with
  | daemon event =>
      refine inv_step_daemon inv ?_
      cases event with
      | request pid request => exact allowed.1
      | _ => exact allowed
  | call pid found =>
      obtain ⟨_, idle⟩ := allowed
      refine ⟨inv.daemon, inv.fleet, inv.ordered, inv.past, inv.read, ?_, ?_⟩
      · intro other now read call member
        by_cases same : other = pid
        · subst same
          change readAt (system.daemon.phase (.client other)) = some now at read
          rw [idle] at read
          cases read
        · simp only [System.step, Function.update_of_ne same] at member
          exact inv.began other now read call member
      · intro other call member
        by_cases same : other = pid
        · subst same
          simp only [System.step, Function.update_self, Option.mem_some_iff] at member
          exact member ▸ knows_begin found
        · simp only [System.step, Function.update_of_ne same] at member
          exact inv.calls other call member
  | exchange pid event =>
      exact inv.updateCall (fun call => call.began_move _ _)
        fun call member => (inv.calls pid call member).move allowed.2
  | fails pid =>
      exact inv.updateCall (fun _ => rfl) fun call member => (inv.calls pid call member).fail _

theorem inv_of_reaches {clock : UInt64} {past : List (Recorded (System Pid) (Event Pid))}
    (reached : Reaches allows step (start specs rule clock) past system) :
    Inv specs rule system :=
  reached.invariant (fun _ state => Inv specs rule state) (inv_start clock)
    fun _ _ _ inv allowed => inv_step inv allowed

/-- What a call returns was decided at a moment between its beginning and its end, by what the
daemon had heard up to then: a success says that enough devices were present at that moment, and
that the call was for the caller's own account over a private socket. -/
theorem unlock_decided_at_one_moment {Pid : Type*} [DecidableEq Pid] (specs : List DeviceSpec)
    (rule : MultiDeviceAuth) (clock : UInt64) {past : List (Recorded (System Pid) (Event Pid))}
    {system : System Pid} (reached : Reaches allows step (start specs rule clock) past system)
    {pid : Pid} {call : Call} (known : call ∈ system.calls pid) {ended : UInt64}
    {code : Pam.PamReturnCode} (returned : call.ended = some (ended, .exchanged code))
    (answered : code ≠ .authinfoUnavail) :
    call.found.Admits ∧ ∃ now history, call.began ≤ now ∧ now ≤ ended ∧
      Moment system.history now history ∧
      (code = .success ↔ specs ≠ [] ∧ rule.required specs.length ≤
        specs.countP fun spec => spec.Present history now.toNat) := by
  have inv := inv_of_reaches reached
  obtain ⟨admits, now, history, since, in_time, moment, _, decided⟩ :=
    (inv.calls pid call known).result ended code returned answered
  obtain ⟨later, whole, _⟩ := moment.later
  have ordered : (FleetEvent.times history).Pairwise (· ≤ ·) := by
    have all := inv.ordered
    rw [whole, times_append, List.pairwise_append] at all
    exact all.1
  refine ⟨admits, now, history, since, in_time, moment, decided.trans ?_⟩
  rw [fleetAfter, Fleet.check_run_eq_allow_iff]
  simp only [Device.check_run_eq_allow_iff _ history now ordered moment.past]

end System

/-- The account and the socket of one user. -/
def foundByAnn : Found where
  user := some (Text.asBytes "ann".toList)
  euid := 1000
  passwd := some ⟨some ⟨true, 0, 0o644⟩, some (Text.asBytes "ann:x:1000:1000::/:/bin/sh".toList)⟩
  socket := some ⟨true, 1000, 0o140600⟩

theorem admits_foundByAnn : foundByAnn.refusal = none := by decide +kernel

/-- A tag is seen twice, and then its owner logs in. -/
def unlockOfAnn : List (Event ℕ) :=
  [.daemon (.scan (.observe FleetLock.knownAdvertisement)), .daemon (.next .scanner),
    .daemon (.next .scanner), .daemon (.next .scanner), .daemon (.tick 1500),
    .daemon (.scan (.observe FleetLock.knownAdvertisement)), .daemon (.next .scanner),
    .daemon (.next .scanner), .daemon (.next .scanner), .call 0 foundByAnn,
    .exchange 0 (.pamWrite 7), .exchange 0 (.daemonRead 7), .daemon (.request 0 .check),
    .daemon (.next (.client 0)), .daemon (.next (.client 0)), .daemon (.next (.client 0)),
    .daemon (.tick 1600), .exchange 0 (.daemonWrite 5), .exchange 0 (.pamRead 5)]

set_option maxRecDepth 4000 in
theorem allAllowed_unlockOfAnn :
    AllAllowed System.allows System.step (System.start [FleetLock.knownDevice] .any 1000)
      unlockOfAnn := by
  have asks : ∀ call : Call, call.found.refusal = none →
      ∃ called ∈ some call, called.found.refusal = none := fun call asked => ⟨call, rfl, asked⟩
  refine ⟨⟨rfl, trivial⟩, trivial, trivial, trivial, show (1000 : UInt64) ≤ 1500 by decide,
    ⟨rfl, trivial⟩, trivial, trivial, trivial, ⟨rfl, rfl⟩, ⟨asks _ admits_foundByAnn, nofun⟩,
    ⟨asks _ admits_foundByAnn, nofun⟩, ⟨rfl, ?_⟩, trivial, trivial, trivial,
    show (1500 : UInt64) ≤ 1600 by decide, ⟨asks _ admits_foundByAnn, nofun⟩,
    ⟨asks _ admits_foundByAnn, nofun⟩, trivial⟩
  rintro call ⟨⟩
  exact ⟨rfl, rfl⟩

/-- The system after that run. -/
def afterUnlockOfAnn : System ℕ :=
  run System.step (System.start [FleetLock.knownDevice] .any 1000) unlockOfAnn

theorem ended_of_unlockOfAnn :
    ∃ call ∈ afterUnlockOfAnn.calls 0, call.ended = some (1600, .exchanged .success) := by
  have ended : (afterUnlockOfAnn.calls 0).bind (·.ended) = some (1600, .exchanged .success) := by
    decide +kernel
  exact Option.bind_eq_some_iff.mp ended

theorem unlock_decided_at_one_moment_of_ann :
    ∃ call ∈ afterUnlockOfAnn.calls 0, call.found.Admits ∧ ∃ now history,
      call.began ≤ now ∧ now ≤ 1600 ∧ Moment afterUnlockOfAnn.history now history ∧
      1 ≤ [FleetLock.knownDevice].countP fun spec => spec.Present history now.toNat := by
  obtain ⟨call, known, returned⟩ := ended_of_unlockOfAnn
  obtain ⟨admits, now, history, since, in_time, moment, decided⟩ :=
    System.unlock_decided_at_one_moment _ _ _
      (Reaches.start.run_of_allAllowed allAllowed_unlockOfAnn) known returned (by decide)
  exact ⟨call, known, admits, now, history, since, in_time, moment, (decided.mp rfl).2⟩

end PresenceUnlock.Unlock
