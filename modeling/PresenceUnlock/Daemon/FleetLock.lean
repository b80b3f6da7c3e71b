import Mathlib.Logic.Function.Basic
import PresenceUnlock.Daemon.Control
import PresenceUnlock.Execution

/-!
# The fleet behind its mutex

The scanner and any number of control-socket tasks share one fleet behind a mutex.  Reading the
clock, taking the mutex and using the fleet are separate steps of each task, and they come in any
order that the mutex allows.
-/

namespace PresenceUnlock

open RustStd

/-- Every time that a decision about this device can look at. -/
def Eligibility.times (state : Eligibility) : List UInt64 :=
  state.qualifyingSamples ++ state.lastQualifyingMs.toList ++ state.lastRevocationMs.toList

theorem Eligibility.mem_times_observe {state : Eligibility} {nowMs : UInt64} {rssi : Int16}
    {observation : Observation} {policy : Policy} {t : UInt64}
    (member : t ∈ (state.observe nowMs rssi observation policy).times) :
    t ∈ state.times ∨ t = nowMs := by
  cases observation with
  | revoke => exact .inr (by simpa [observe, invalidateEvidence, times] using member)
  | ignore => exact .inl member
  | qualify =>
      by_cases weak : rssi < policy.thresholdDbm
      · simp only [observe, retainRecent, weak, if_true, times, List.mem_append,
          List.mem_filter] at member ⊢
        tauto
      · simp only [observe, retainRecent, weak, if_false] at member
        cases crowded : state.lastQualifyingMs.any fun last =>
            decide (saturatingSub nowMs last < Policy.minSampleSpacingMs) with
        | true =>
            simp only [crowded, if_true, times, List.mem_append, List.mem_filter] at member ⊢
            tauto
        | false =>
            simp [crowded, times] at member ⊢
            tauto

namespace Fleet

/-- Every time that a decision about this fleet can look at. -/
def evidenceTimes (fleet : Fleet) : List UInt64 :=
  fleet.devices.flatMap fun device => device.eligibility.times

/-- Some device takes the advertisement as its own. -/
def folds (fleet : Fleet) (advertisement : Advertisement) : Bool :=
  fleet.devices.any fun device => device.spec.identity.matches advertisement

theorem mem_evidenceTimes_observe {fleet : Fleet} {nowMs : UInt64} {advertisement : Advertisement}
    {t : UInt64} (member : t ∈ (fleet.observe nowMs advertisement).evidenceTimes) :
    t ∈ fleet.evidenceTimes ∨ t = nowMs ∧ fleet.folds advertisement = true := by
  obtain ⟨_, observed, carries⟩ := List.mem_flatMap.mp member
  obtain ⟨device, known, rfl⟩ := List.mem_map.mp observed
  by_cases matched : device.spec.identity.matches advertisement = true
  · simp only [Device.observe, matched] at carries
    rcases Eligibility.mem_times_observe carries with old | new
    · exact .inl (List.mem_flatMap.mpr ⟨device, known, old⟩)
    · exact .inr ⟨new, List.any_eq_true.mpr ⟨device, known, matched⟩⟩
  · simp only [Device.observe, matched] at carries
    exact .inl (List.mem_flatMap.mpr ⟨device, known, carries⟩)

@[simp] theorem evidenceTimes_invalidate (fleet : Fleet) :
    fleet.invalidate.evidenceTimes = [] := by
  simp [evidenceTimes, invalidate, Device.invalidate, Eligibility.invalidate,
    Eligibility.invalidateEvidence, Eligibility.times]

@[simp] theorem evidenceTimes_new (specs : List DeviceSpec) (rule : MultiDeviceAuth) :
    (new specs rule).evidenceTimes = [] := by
  simp [evidenceTimes, new, Device.new, Eligibility.default, Eligibility.times]

end Fleet

namespace FleetLock

/-- A request that is answered from the fleet. -/
inductive Request
  | check
  | status
  deriving DecidableEq, Repr

/-- The line of a request. -/
def Request.line : Request → Text
  | .check => Wire.reqCheck
  | .status => Wire.reqStatus

/-- What a task does with the fleet once it has the mutex.  `STATUS` comes with the time it has
already read. -/
inductive Job
  | look
  | observe (advertisement : Advertisement)
  | invalidate
  | check
  | status (now : UInt64)

/-- The jobs of the scanner. -/
def Job.OfScanner : Job → Prop
  | look | observe _ | invalidate => True
  | check | status _ => False

/-- What was so when a task took the mutex: the time, and the times of the observations that had
been folded into the fleet. -/
structure Snapshot where
  /-- When the mutex was acquired. -/
  lockedAt : UInt64
  /-- The times of what had been folded in by then. -/
  folded : List UInt64

/-- Where a task is. -/
inductive Phase
  | idle
  | statusAsked
  | waiting (job : Job)
  | holding (job : Job) (snapshot : Snapshot)
  | observing (advertisement : Advertisement) (now : UInt64)
  | checking (now : UInt64) (snapshot : Snapshot)

/-- The phases in which a task holds the mutex. -/
def Phase.Holds : Phase → Prop
  | holding _ _ | observing _ _ | checking _ _ => True
  | idle | statusAsked | waiting _ => False

/-- The scanner, or the task of one client. -/
inductive Task (Pid : Type*)
  | scanner
  | client (pid : Pid)
  deriving DecidableEq

/-- An answer, with the time it was judged at and the fleet it was judged from. -/
structure Answer where
  /-- What was asked. -/
  request : Request
  /-- The time it was judged at. -/
  now : UInt64
  /-- What the task knew of the fleet. -/
  snapshot : Snapshot
  /-- The fleet it was judged from. -/
  fleet : Fleet

/-- The text sent back. -/
def Answer.response (answer : Answer) : Text :=
  Control.respond answer.request.line answer.fleet answer.now

/-- The clock, the mutex, the fleet behind it, the tasks, the times of the observations folded so
far, and the answers given so far. -/
structure System (Pid : Type*) where
  /-- The monotonic clock. -/
  clock : UInt64
  /-- The task that has the mutex. -/
  holder : Option (Task Pid)
  /-- The fleet. -/
  fleet : Fleet
  /-- Where every task is. -/
  phase : Task Pid → Phase
  /-- The times that were folded into the fleet. -/
  folded : List UInt64
  /-- The answers. -/
  answers : List Answer

/-- A step of the clock, or of one of the tasks. -/
inductive Event (Pid : Type*)
  | tick (now : UInt64)
  | scan (job : Job)
  | request (pid : Pid) (request : Request)
  | next (task : Task Pid)

namespace System

variable {Pid : Type*}

/-- The daemon when it starts. -/
def start (specs : List DeviceSpec) (rule : MultiDeviceAuth) (clock : UInt64) : System Pid where
  clock := clock
  holder := none
  fleet := Fleet.new specs rule
  phase _ := .idle
  folded := []
  answers := []

variable [DecidableEq Pid]

/-- A task moves on. -/
def goto (system : System Pid) (task : Task Pid) (phase : Phase) : System Pid :=
  { system with phase := Function.update system.phase task phase }

/-- The guard is dropped at the end of the statement that uses the fleet. -/
def release (system : System Pid) (task : Task Pid) : System Pid :=
  { system.goto task .idle with holder := none }

/-- An answer is given from the fleet as it is. -/
def answer (system : System Pid) (request : Request) (now : UInt64) (snapshot : Snapshot) :
    System Pid :=
  { system with answers := system.answers ++ [⟨request, now, snapshot, system.fleet⟩] }

/-- The next step of a task.  `CHECK` and the scanner read the clock under the mutex, `STATUS`
reads it before. -/
def next (system : System Pid) (task : Task Pid) : System Pid :=
  match system.phase task with
  | .idle => system
  | .statusAsked => system.goto task (.waiting (.status system.clock))
  | .waiting job =>
      match system.holder with
      | none =>
          { system.goto task (.holding job ⟨system.clock, system.folded⟩) with
            holder := some task }
      | some _ => system
  | .holding .look _ => system.release task
  | .holding (.observe advertisement) _ =>
      system.goto task (.observing advertisement system.clock)
  | .holding .invalidate _ => { system.release task with fleet := system.fleet.invalidate }
  | .holding .check snapshot => system.goto task (.checking system.clock snapshot)
  | .holding (.status now) snapshot => (system.answer .status now snapshot).release task
  | .observing advertisement now =>
      { system.release task with
        fleet := system.fleet.observe now advertisement
        folded := if system.fleet.folds advertisement then now :: system.folded
          else system.folded }
  | .checking now snapshot => (system.answer .check now snapshot).release task

/-- One step. -/
def step (system : System Pid) : Event Pid → System Pid
  | .tick now => { system with clock := now }
  | .scan job => system.goto .scanner (.waiting job)
  | .request pid .check => system.goto (.client pid) (.waiting .check)
  | .request pid .status => system.goto (.client pid) .statusAsked
  | .next task => system.next task

/-- The clock never goes back, and a task takes up one thing at a time. -/
def allows (system : System Pid) : Event Pid → Prop
  | .tick now => system.clock ≤ now
  | .scan job => system.phase .scanner = .idle ∧ job.OfScanner
  | .request pid _ => system.phase (.client pid) = .idle
  | .next _ => True

/-- Whoever takes the mutex for `STATUS` finds the clock where it read it, or nothing folded. -/
def Prompt (system : System Pid) (event : Event Pid) : Prop :=
  ∀ task now, event = .next task → system.phase task = .waiting (.status now) →
    system.holder = none → system.folded = [] ∨ system.clock ≤ now

end System

/-- An answer is judged at the time it is taken: no observation lies after the time it is judged
at, and none is younger than it was when the mutex was acquired. -/
structure Answer.Timely (answer : Answer) : Prop where
  /-- Nothing it relied on is from after its time. -/
  not_from_future : ∀ t ∈ answer.snapshot.folded, t ≤ answer.now
  /-- Nothing looks younger than it was when the mutex was acquired. -/
  not_younger : ∀ t ∈ answer.snapshot.folded,
    saturatingSub answer.snapshot.lockedAt t ≤ saturatingSub answer.now t

/-- A snapshot that a task took and that still describes the fleet. -/
structure Snapshot.Current (folded : List UInt64) (clock : UInt64) (snapshot : Snapshot) :
    Prop where
  /-- Nothing has been folded in since. -/
  folded_eq : snapshot.folded = folded
  /-- Everything had happened when the mutex was acquired. -/
  past : ∀ t ∈ snapshot.folded, t ≤ snapshot.lockedAt
  /-- The mutex was acquired in the past. -/
  locked : snapshot.lockedAt ≤ clock

section Invariant

-- What a schedule promises of the time that `STATUS` brings to the mutex.
variable (known : Snapshot → UInt64 → Prop)

/-- What a task in this phase relies on. -/
def Phase.Fits (folded : List UInt64) (clock : UInt64) : Phase → Prop
  | idle | statusAsked | waiting _ => True
  | holding job snapshot =>
      snapshot.Current folded clock ∧ ∀ now, job = .status now → known snapshot now
  | observing _ now => now ≤ clock
  | checking now snapshot => snapshot.Current folded clock ∧ snapshot.lockedAt ≤ now

/-- What an answer relied on. -/
structure Answer.Sound (answer : Answer) : Prop where
  /-- Everything had happened when the mutex was acquired. -/
  past : ∀ t ∈ answer.snapshot.folded, t ≤ answer.snapshot.lockedAt
  /-- The fleet relies on nothing else. -/
  evidence : ∀ t ∈ answer.fleet.evidenceTimes, t ∈ answer.snapshot.folded
  /-- A check reads the clock once it has the mutex. -/
  check : answer.request = .check → answer.snapshot.lockedAt ≤ answer.now
  /-- A status relies on what is known of its clock. -/
  status : answer.request = .status → known answer.snapshot answer.now

/-- Only the holder of the mutex uses the fleet, and what it knows of it is true. -/
structure System.Inv {Pid : Type*} (system : System Pid) : Prop where
  /-- Everything that was folded in is past. -/
  past : ∀ t ∈ system.folded, t ≤ system.clock
  /-- The fleet relies on nothing else. -/
  evidence : ∀ t ∈ system.fleet.evidenceTimes, t ∈ system.folded
  /-- A task that is past the mutex holds it. -/
  alone : ∀ task, (system.phase task).Holds → system.holder = some task
  /-- What a task knows is true. -/
  fits : ∀ task, (system.phase task).Fits known system.folded system.clock
  /-- The answers were sound. -/
  answers : ∀ answer ∈ system.answers, answer.Sound known

variable {known} {Pid : Type*}

theorem Phase.fits_of_not_holds {folded : List UInt64} {clock : UInt64} {phase : Phase}
    (outside : ¬ phase.Holds) : phase.Fits known folded clock := by
  cases phase with
  | holding => exact absurd trivial outside
  | observing => exact absurd trivial outside
  | checking => exact absurd trivial outside
  | _ => trivial

theorem Snapshot.Current.later {folded : List UInt64} {clock now : UInt64} {snapshot : Snapshot}
    (current : snapshot.Current folded clock) (order : clock ≤ now) :
    snapshot.Current folded now :=
  ⟨current.folded_eq, current.past, UInt64.le_trans current.locked order⟩

theorem Phase.Fits.later {folded : List UInt64} {clock now : UInt64} {phase : Phase}
    (fits : phase.Fits known folded clock) (order : clock ≤ now) :
    phase.Fits known folded now := by
  cases phase with
  | holding => exact ⟨fits.1.later order, fits.2⟩
  | observing => exact UInt64.le_trans fits order
  | checking => exact ⟨fits.1.later order, fits.2⟩
  | _ => trivial

namespace System

variable {system : System Pid}

theorem inv_start (specs : List DeviceSpec) (rule : MultiDeviceAuth) (clock : UInt64) :
    (start specs rule clock : System Pid).Inv known where
  past := by simp [start]
  evidence := by simp [start]
  alone _ holds := holds.elim
  fits _ := trivial
  answers := by simp [start]

theorem Inv.tick (inv : system.Inv known) {now : UInt64} (order : system.clock ≤ now) :
    { system with clock := now }.Inv known where
  past t member := UInt64.le_trans (inv.past t member) order
  evidence := inv.evidence
  alone := inv.alone
  fits task := (inv.fits task).later order
  answers := inv.answers

theorem Inv.answer (inv : system.Inv known) {request : Request} {now : UInt64}
    {snapshot : Snapshot} (current : snapshot.Current system.folded system.clock)
    (check : request = .check → snapshot.lockedAt ≤ now)
    (status : request = .status → known snapshot now) :
    ∀ answer ∈ (system.answer request now snapshot).answers, answer.Sound known := by
  intro answer member
  rcases List.mem_append.mp member with given | new
  · exact inv.answers answer given
  · rw [List.mem_singleton.mp new]
    exact ⟨current.past, fun t carries => current.folded_eq ▸ inv.evidence t carries, check, status⟩

variable [DecidableEq Pid]

/-- A task moves on to a phase that needs no mutex, or that needs the one it holds. -/
theorem Inv.goto (inv : system.Inv known) {task : Task Pid} {phase : Phase}
    (holds : phase.Holds → system.holder = some task)
    (fits : phase.Fits known system.folded system.clock) : (system.goto task phase).Inv known where
  past := inv.past
  evidence := inv.evidence
  alone other held := by
    by_cases same : other = task
    · subst same
      simp only [System.goto, Function.update_self] at held
      exact holds held
    · simp only [System.goto, Function.update_of_ne same] at held
      exact inv.alone other held
  fits other := by
    by_cases same : other = task
    · subst same
      simpa only [System.goto, Function.update_self] using fits
    · simpa only [System.goto, Function.update_of_ne same] using inv.fits other
  answers := inv.answers

/-- The mutex is free, and a task takes it. -/
theorem Inv.acquire (inv : system.Inv known) {task : Task Pid} {job : Job}
    (free : system.holder = none)
    (promised : ∀ now, job = .status now → known ⟨system.clock, system.folded⟩ now) :
    { system.goto task (.holding job ⟨system.clock, system.folded⟩) with
      holder := some task }.Inv known where
  past := inv.past
  evidence := inv.evidence
  alone other held := by
    by_cases same : other = task
    · rw [same]
    · simp only [System.goto, Function.update_of_ne same] at held
      have holder := inv.alone other held
      rw [free] at holder
      cases holder
  fits other := by
    by_cases same : other = task
    · subst same
      simp only [System.goto, Function.update_self]
      exact ⟨⟨rfl, inv.past, UInt64.le_refl _⟩, promised⟩
    · simpa only [System.goto, Function.update_of_ne same] using inv.fits other
  answers := inv.answers

/-- The holder of the mutex leaves its mark on the fleet or on the answers, and lets go. -/
theorem Inv.release {system' : System Pid} (inv : system.Inv known) {task : Task Pid}
    (held : (system.phase task).Holds)
    (phase : system'.phase = Function.update system.phase task .idle)
    (past : ∀ t ∈ system'.folded, t ≤ system'.clock)
    (evidence : ∀ t ∈ system'.fleet.evidenceTimes, t ∈ system'.folded)
    (answers : ∀ answer ∈ system'.answers, answer.Sound known) : system'.Inv known := by
  have nobody : ∀ other, ¬ (system'.phase other).Holds := by
    intro other holds
    rw [phase] at holds
    by_cases same : other = task
    · rw [same, Function.update_self] at holds
      exact holds
    · rw [Function.update_of_ne same] at holds
      have holder := (inv.alone other holds).symm.trans (inv.alone task held)
      exact same (Option.some.inj holder)
  exact ⟨past, evidence, fun other holds => absurd holds (nobody other),
    fun other => Phase.fits_of_not_holds (nobody other), answers⟩

theorem inv_next (inv : system.Inv known) {task : Task Pid}
    (promised : ∀ now, system.phase task = .waiting (.status now) → system.holder = none →
      known ⟨system.clock, system.folded⟩ now) : (system.next task).Inv known := by
  have fits := inv.fits task
  have alone := inv.alone task
  cases phase : system.phase task with
  | idle => simpa only [next, phase] using inv
  | statusAsked =>
      simp only [next, phase]
      exact inv.goto False.elim trivial
  | waiting job =>
      simp only [next, phase]
      cases holder : system.holder with
      | none => exact inv.acquire holder fun now status => promised now (status ▸ phase) holder
      | some _ => exact inv
  | holding job snapshot =>
      rw [phase] at fits alone
      have held : (system.phase task).Holds := by rw [phase]; trivial
      cases job with
      | look =>
          simp only [next, phase]
          exact inv.release held rfl inv.past inv.evidence inv.answers
      | observe advertisement =>
          simp only [next, phase]
          exact inv.goto (fun _ => alone trivial) (UInt64.le_refl _)
      | invalidate =>
          simp only [next, phase]
          exact inv.release held rfl inv.past (by simp [System.release]) inv.answers
      | check =>
          simp only [next, phase]
          exact inv.goto (fun _ => alone trivial) ⟨fits.1, fits.1.locked⟩
      | status now =>
          simp only [next, phase]
          exact inv.release held rfl inv.past inv.evidence
            (inv.answer fits.1 (by simp) fun _ => fits.2 now rfl)
  | observing advertisement now =>
      rw [phase] at fits
      have held : (system.phase task).Holds := by rw [phase]; trivial
      simp only [next, phase]
      refine inv.release held rfl ?_ ?_ inv.answers
      · intro t member
        dsimp only at member
        split at member
        · rcases List.mem_cons.mp member with new | old
          · exact new ▸ fits
          · exact inv.past t old
        · exact inv.past t member
      · intro t carries
        dsimp only
        rcases Fleet.mem_evidenceTimes_observe carries with old | ⟨new, folds⟩
        · split
          · exact List.mem_cons_of_mem _ (inv.evidence t old)
          · exact inv.evidence t old
        · rw [if_pos folds, new]
          exact List.mem_cons_self
  | checking now snapshot =>
      rw [phase] at fits
      have held : (system.phase task).Holds := by rw [phase]; trivial
      simp only [next, phase]
      exact inv.release held rfl inv.past inv.evidence
        (inv.answer fits.1 (fun _ => fits.2) (by simp))

theorem inv_step (inv : system.Inv known) {event : Event Pid} (allowed : system.allows event)
    (promised : ∀ task now, event = .next task → system.phase task = .waiting (.status now) →
      system.holder = none → known ⟨system.clock, system.folded⟩ now) :
    (system.step event).Inv known := by
  cases event with
  | tick now => exact inv.tick allowed
  | scan job => exact inv.goto False.elim trivial
  | request pid request =>
      cases request with
      | check => exact inv.goto False.elim trivial
      | status => exact inv.goto False.elim trivial
  | next task => exact inv_next inv fun now => promised task now rfl

/-- Every run keeps the invariant, with what its schedule promises. -/
theorem inv_of_reaches {specs : List DeviceSpec} {rule : MultiDeviceAuth} {clock : UInt64}
    {permits : System Pid → Event Pid → Prop}
    (allowed : ∀ system event, permits system event → system.allows event)
    (promised : ∀ system event, permits system event → ∀ task now, event = .next task →
      system.phase task = .waiting (.status now) → system.holder = none →
        known ⟨system.clock, system.folded⟩ now)
    {past : List (Execution.Recorded (System Pid) (Event Pid))}
    (reached : Execution.Reaches permits step (start specs rule clock) past system) :
    system.Inv known :=
  reached.invariant (fun _ state => state.Inv known) (inv_start specs rule clock)
    fun _ state event inv permitted =>
      inv_step inv (allowed state event permitted) (promised state event permitted)

end System
end Invariant

/-- An answer is timely exactly when it is judged no earlier than the mutex was acquired, or when
there was no observation to be wrong about. -/
theorem Answer.Sound.timely_iff {known : Snapshot → UInt64 → Prop} {answer : Answer}
    (sound : answer.Sound known) :
    answer.Timely ↔
      answer.snapshot.folded = [] ∨ answer.snapshot.lockedAt ≤ answer.now := by
  constructor
  · intro timely
    refine or_iff_not_imp_left.mpr fun some_folded => ?_
    obtain ⟨t, member⟩ := List.exists_mem_of_ne_nil _ some_folded
    have order := timely.not_from_future t member
    have ages := timely.not_younger t member
    rw [UInt64.le_iff_toNat_le] at order ages ⊢
    rw [saturatingSub_toNat, saturatingSub_toNat] at ages
    omega
  · rintro (empty | late)
    · exact ⟨by simp [empty], by simp [empty]⟩
    · refine ⟨fun t member => UInt64.le_trans (sound.past t member) late, fun t _ => ?_⟩
      rw [UInt64.le_iff_toNat_le] at late ⊢
      rw [saturatingSub_toNat, saturatingSub_toNat]
      omega

/-- While no `STATUS` finds the clock moved on under it, every answer is timely.  Over any schedule
an answer to `CHECK` is, and one to `STATUS` exactly when it is judged no earlier than the mutex
was acquired or nothing was folded by then. -/
theorem answers_timely {Pid : Type*} [DecidableEq Pid] (specs : List DeviceSpec)
    (rule : MultiDeviceAuth) (clock : UInt64) :
    (∀ past (system : System Pid),
      Execution.Reaches (fun system event => system.allows event ∧ system.Prompt event)
        System.step (System.start specs rule clock) past system →
      ∀ answer ∈ system.answers, answer.Timely) ∧
    (∀ past (system : System Pid),
      Execution.Reaches System.allows System.step (System.start specs rule clock) past system →
      ∀ answer ∈ system.answers,
        (answer.request = .check → answer.Timely) ∧
        (answer.Timely ↔
          answer.snapshot.folded = [] ∨ answer.snapshot.lockedAt ≤ answer.now) ∧
        ∀ t ∈ answer.fleet.evidenceTimes, t ∈ answer.snapshot.folded) := by
  constructor
  · intro past system reached answer given
    have inv : system.Inv fun snapshot now => snapshot.folded = [] ∨ snapshot.lockedAt ≤ now :=
      System.inv_of_reaches (fun _ _ permitted => permitted.1)
        (fun _ _ permitted => permitted.2) reached
    have sound := inv.answers answer given
    refine sound.timely_iff.mpr ?_
    cases request : answer.request with
    | check => exact .inr (sound.check request)
    | status => exact sound.status request
  · intro past system reached answer given
    have inv : system.Inv fun _ _ => True :=
      System.inv_of_reaches (fun _ _ permitted => permitted)
        (fun _ _ _ _ _ _ _ _ => trivial) reached
    have sound := inv.answers answer given
    exact ⟨fun check => sound.timely_iff.mpr (.inr (sound.check check)), sound.timely_iff,
      sound.evidence⟩

/-- A device known by its address, and an advertisement of it. -/
def knownAddress : Address := #v[0, 0, 0, 0, 0, 1]

/-- A device that is known by its address. -/
def knownDevice : DeviceSpec :=
  ⟨[], ⟨none, some knownAddress, none, none⟩, Profile.presence, Policy.default⟩

/-- What it sends. -/
def knownAdvertisement : Advertisement := Advertisement.new knownAddress (-50)

/-- The scanner takes the mutex, `STATUS` reads 1000 and waits, the scanner folds an observation at
1001, and `STATUS` goes on. -/
def waitingStatus : List (Event ℕ) :=
  [.scan (.observe knownAdvertisement), .next .scanner, .request 0 .status, .next (.client 0),
    .tick 1001, .next .scanner, .next .scanner, .next (.client 0), .next (.client 0)]

/-- The system after that run. -/
def afterWaitingStatus : System ℕ :=
  Execution.run System.step (System.start [knownDevice] .any 1000) waitingStatus

theorem allAllowed_waitingStatus :
    Execution.AllAllowed System.allows System.step (System.start [knownDevice] .any 1000)
      waitingStatus :=
  ⟨⟨rfl, trivial⟩, trivial, rfl, trivial, show (1000 : UInt64) ≤ 1001 by decide, trivial, trivial,
    trivial, trivial, trivial⟩

/-- The answer is judged at 1000, with an observation of 1001 in the fleet. -/
theorem status_judged_before_evidence :
    ¬ ∀ past (system : System ℕ),
      Execution.Reaches System.allows System.step (System.start [knownDevice] .any 1000) past
        system →
      ∀ answer ∈ system.answers, answer.Timely := by
  intro claim
  have reached := Execution.Reaches.start.run_of_allAllowed allAllowed_waitingStatus
  have answers : afterWaitingStatus.answers =
      [⟨.status, 1000, ⟨1001, [1001]⟩, (Fleet.new [knownDevice] .any).observe 1001
        knownAdvertisement⟩] := rfl
  have timely := claim _ _ reached _ (answers ▸ List.mem_cons_self)
  exact absurd (timely.not_from_future 1001 List.mem_cons_self) (by decide)

end FleetLock
end PresenceUnlock
