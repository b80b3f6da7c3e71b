import Mathlib.Logic.Function.Basic
import PresenceUnlock.Execution

/-!
# Starting on the control socket

Any number of daemons start on one socket path.  Each takes the sibling lock, probes what stands at
the path, removes a socket that nobody listens on, and binds its own.  Every system call is a step,
and the kernel closes the files of a daemon that ends one at a time.
-/

namespace PresenceUnlock.Control

/-- What stands at the socket path. -/
inductive Entry
  | socket (inode : Nat)
  | other
  deriving DecidableEq, Repr

/-- What a probing connection comes to. -/
inductive Probe
  | connected
  | refused
  | timedOut
  | failed
  deriving DecidableEq, Repr

/-- Where a call of `serve` is: what it is about to do, and what it knows. -/
inductive Phase
  | absent
  | opened
  | locked
  | socketSeen
  | stale
  | vacant
  | bound (inode : Nat)
  | serving (inode : Nat)
  | ending (listener : Option Nat)
  deriving DecidableEq, Repr

namespace Phase

/-- From the acquired lock to the end of the call. -/
def PastLock : Phase → Prop
  | locked | socketSeen | stale | vacant | bound _ | serving _ => True
  | absent | opened | ending _ => False

/-- The socket on which the process listens. -/
def listener : Phase → Option Nat
  | serving inode => some inode
  | ending listener => listener
  | _ => none

/-- `remove_stale_socket`, as far as what stands at the path decides it. -/
def afterStat : Option Entry → Phase
  | none => vacant
  | some (.socket _) => socketSeen
  | some .other => ending none

/-- `remove_stale_socket`, as far as the probe decides it. -/
def afterProbe : Probe → Phase
  | .refused => stale
  | .connected | .timedOut | .failed => ending none

end Phase

/-- The path, its lock, and the processes; `foreign` are the sockets that other programs listen
on. -/
structure System (Pid : Type*) where
  /-- What is at the path. -/
  entry : Option Entry
  /-- The process that holds the lock. -/
  lock : Option Pid
  /-- Where every process is. -/
  phase : Pid → Phase
  /-- The sockets that other programs listen on. -/
  foreign : List Nat
  /-- The inode of the next socket. -/
  nextInode : Nat

/-- A step: the next call of a process, its end, or the closing of a file after that. -/
inductive Event (Pid : Type*)
  | call (pid : Pid) (probe : Probe)
  | leave (pid : Pid)
  | closeListener (pid : Pid)
  | releaseLock (pid : Pid)
  | reap (pid : Pid)
  | foreignCloses (inode : Nat)

namespace System

variable {Pid : Type*}

/-- Some process listens on this socket. -/
def Live (system : System Pid) (inode : Nat) : Prop :=
  inode ∈ system.foreign ∨ ∃ pid, (system.phase pid).listener = some inode

/-- Something stands at the path, and no process listens on it. -/
def Dead (system : System Pid) : Prop :=
  system.entry ≠ none ∧ ∀ inode, system.entry = some (.socket inode) → ¬ system.Live inode

variable [DecidableEq Pid]

/-- A process moves on. -/
def goto (system : System Pid) (pid : Pid) (phase : Phase) : System Pid :=
  { system with phase := Function.update system.phase pid phase }

/-- The next system call of `serve`; a probe comes to `probe`.  A serving process only accepts. -/
def call (system : System Pid) (pid : Pid) (probe : Probe) : System Pid :=
  match system.phase pid with
  | .absent => system.goto pid .opened
  | .opened =>
      match system.lock with
      | none => { system.goto pid .locked with lock := some pid }
      | some _ => system.goto pid (.ending none)
  | .locked => system.goto pid (Phase.afterStat system.entry)
  | .socketSeen => system.goto pid (Phase.afterProbe probe)
  | .stale =>
      match system.entry with
      | none => system.goto pid (.ending none)
      | some _ => { system.goto pid .vacant with entry := none }
  | .vacant =>
      match system.entry with
      | none =>
          { system.goto pid (.bound system.nextInode) with
            entry := some (.socket system.nextInode)
            nextInode := system.nextInode + 1 }
      | some _ => system.goto pid (.ending none)
  | .bound inode => system.goto pid (.serving inode)
  | .serving _ | .ending _ => system

/-- One step. -/
def step (system : System Pid) : Event Pid → System Pid
  | .call pid probe => system.call pid probe
  | .leave pid => system.goto pid (.ending (system.phase pid).listener)
  | .closeListener pid => system.goto pid (.ending none)
  | .releaseLock pid => if system.lock = some pid then { system with lock := none } else system
  | .reap pid => system.goto pid .absent
  | .foreignCloses inode => { system with foreign := system.foreign.filter (· ≠ inode) }

/-- A probe is refused exactly when nobody listens.  A process can fail, return or be killed at any
point; then its files are closed in any order. -/
def allows (system : System Pid) : Event Pid → Prop
  | .call pid probe =>
      system.phase pid = .socketSeen → (probe = .refused ↔ system.Dead)
  | .leave pid => system.phase pid ≠ .absent
  | .closeListener pid | .releaseLock pid => ∃ listener, system.phase pid = .ending listener
  | .reap pid => system.phase pid = .ending none ∧ system.lock ≠ some pid
  | .foreignCloses _ => True

/-- No daemon has started yet; the path and the other programs are arbitrary. -/
def Fresh (system : System Pid) : Prop :=
  system.lock = none ∧ ∀ pid, system.phase pid = .absent

/-- What stands at the path when a process is in this phase. -/
def Seen (system : System Pid) : Phase → Prop
  | .socketSeen => ∃ inode, system.entry = some (.socket inode)
  | .stale => ∃ inode, system.entry = some (.socket inode) ∧ ¬ system.Live inode
  | _ => True

/-- Who is past the lock holds it, and what it knows of the path is true. -/
structure Inv (system : System Pid) : Prop where
  /-- A process that is past the lock holds it. -/
  locked : ∀ pid, (system.phase pid).PastLock → system.lock = some pid
  /-- What it knows of the path is true. -/
  seen : ∀ pid, system.Seen (system.phase pid)

section Invariant

omit [DecidableEq Pid]

theorem inv_of_fresh {system : System Pid} (fresh : system.Fresh) : system.Inv where
  locked pid past := by
    rw [fresh.2 pid] at past
    exact past.elim
  seen pid := by
    rw [fresh.2 pid]
    trivial

theorem Inv.alone {system : System Pid} (inv : system.Inv) {pid other : Pid}
    (past : (system.phase pid).PastLock) (other_past : (system.phase other).PastLock) :
    pid = other :=
  Option.some.inj ((inv.locked pid past).symm.trans (inv.locked other other_past))

/-- Before the lock, nothing is known of the path. -/
theorem seen_of_not_pastLock {system : System Pid} {phase : Phase} (before : ¬ phase.PastLock) :
    system.Seen phase := by
  cases phase with
  | socketSeen => exact (before trivial).elim
  | stale => exact (before trivial).elim
  | _ => trivial

theorem inv_of_alone {system : System Pid} (pid : Pid)
    (others : ∀ other, other ≠ pid → ¬ (system.phase other).PastLock)
    (locked : system.lock = some pid) (seen : system.Seen (system.phase pid)) : system.Inv where
  locked other past := by
    by_cases same : other = pid
    · rw [same, locked]
    · exact (others other same past).elim
  seen other := by
    by_cases same : other = pid
    · rw [same]
      exact seen
    · exact seen_of_not_pastLock (others other same)

/-- What is known of the path stays true while fewer processes listen. -/
theorem Seen.of_le {system system' : System Pid} {phase : Phase} (seen : system.Seen phase)
    (entry : system'.entry = system.entry)
    (fewer : ∀ inode, system'.Live inode → system.Live inode) :
    system'.Seen phase := by
  cases phase with
  | socketSeen =>
      obtain ⟨inode, stands⟩ := seen
      exact ⟨inode, entry.trans stands⟩
  | stale =>
      obtain ⟨inode, stands, dead⟩ := seen
      exact ⟨inode, entry.trans stands, fun live => dead (fewer inode live)⟩
  | _ => trivial

end Invariant

theorem phase_goto (system : System Pid) (pid other : Pid) (phase : Phase) :
    (system.goto pid phase).phase other = if other = pid then phase else system.phase other :=
  Function.update_apply system.phase pid phase other

/-- A process that is not past the lock does nothing that others rely on. -/
theorem Inv.goto {system : System Pid} (inv : system.Inv) {pid : Pid} {phase : Phase}
    (outside : ¬ phase.PastLock)
    (closes : ∀ inode, phase.listener = some inode → (system.phase pid).listener = some inode) :
    (system.goto pid phase).Inv where
  locked other past := by
    rw [phase_goto] at past
    split at past
    · exact (outside past).elim
    · exact inv.locked other past
  seen other := by
    rw [phase_goto]
    split
    · exact seen_of_not_pastLock outside
    · refine (inv.seen other).of_le rfl ?_
      rintro inode (foreign | ⟨listening, listens⟩)
      · exact .inl foreign
      · rw [phase_goto] at listens
        split at listens
        · exact .inr ⟨pid, closes inode listens⟩
        · exact .inr ⟨listening, listens⟩

/-- The holder of the lock moves on, and may change what stands at the path. -/
theorem Inv.hold {system system' : System Pid} (inv : system.Inv) {pid : Pid} {phase : Phase}
    (past : (system.phase pid).PastLock) (locked : system'.lock = system.lock)
    (moved : system'.phase = Function.update system.phase pid phase)
    (seen : system'.Seen phase) : system'.Inv := by
  apply inv_of_alone pid
  · intro other different other_past
    rw [moved, Function.update_of_ne different] at other_past
    exact different (inv.alone other_past past)
  · rw [locked, inv.locked pid past]
  · rw [moved, Function.update_self]
    exact seen

theorem inv_call {system : System Pid} (inv : system.Inv) {pid : Pid} {probe : Probe}
    (allowed : system.allows (.call pid probe)) : (system.call pid probe).Inv := by
  have nowhere : ∀ inode, (none : Option Nat) = some inode →
      (system.phase pid).listener = some inode := nofun
  rw [call]
  split
  case h_1 absent => exact inv.goto id nowhere
  case h_2 opened =>
    split
    · rename_i free
      apply inv_of_alone pid
      · intro other _ past
        rw [phase_goto, if_neg ‹_›] at past
        have held := inv.locked other past
        rw [free] at held
        cases held
      · rfl
      · rw [phase_goto, if_pos rfl]
        trivial
    · exact inv.goto id nowhere
  case h_3 locked =>
    have past : (system.phase pid).PastLock := by rw [locked]; trivial
    cases stands : system.entry with
    | none => exact inv.hold past rfl rfl trivial
    | some entry =>
        cases entry with
        | socket inode => exact inv.hold past rfl rfl ⟨inode, stands⟩
        | other => exact inv.goto id nowhere
  case h_4 socketSeen =>
    have past : (system.phase pid).PastLock := by rw [socketSeen]; trivial
    have seen := inv.seen pid
    rw [socketSeen] at seen
    obtain ⟨inode, stands⟩ := seen
    cases probe with
    | refused =>
        have dead := ((allowed socketSeen).mp rfl).2 inode stands
        refine inv.hold past rfl rfl ⟨inode, stands, ?_⟩
        rintro (foreign | ⟨other, listens⟩)
        · exact dead (.inl foreign)
        · rw [phase_goto] at listens
          split at listens
          · cases listens
          · exact dead (.inr ⟨other, listens⟩)
    | _ => exact inv.goto id nowhere
  case h_5 stale =>
    have past : (system.phase pid).PastLock := by rw [stale]; trivial
    split
    · exact inv.goto id nowhere
    · exact inv.hold past rfl rfl trivial
  case h_6 vacant =>
    have past : (system.phase pid).PastLock := by rw [vacant]; trivial
    split
    · exact inv.hold past rfl rfl trivial
    · exact inv.goto id nowhere
  case h_7 inode bound =>
    have past : (system.phase pid).PastLock := by rw [bound]; trivial
    exact inv.hold past rfl rfl trivial
  case h_8 => exact inv
  case h_9 => exact inv

theorem inv_step {system : System Pid} (inv : system.Inv) {event : Event Pid}
    (allowed : system.allows event) : (system.step event).Inv := by
  cases event with
  | call pid probe => exact inv_call inv allowed
  | leave pid => exact inv.goto id fun _ listens => listens
  | closeListener pid => exact inv.goto id nofun
  | reap pid => exact inv.goto id nofun
  | releaseLock pid =>
      obtain ⟨listener, ending⟩ := allowed
      rw [step]
      split
      · rename_i held
        refine ⟨fun other past => ?_, fun other => ?_⟩
        · have same := Option.some.inj ((inv.locked other past).symm.trans held)
          rw [same, ending] at past
          exact past.elim
        · exact (inv.seen other).of_le rfl fun _ live => live
      · exact inv
  | foreignCloses inode =>
      refine ⟨inv.locked, fun other => (inv.seen other).of_le rfl ?_⟩
      rintro socket (foreign | listening)
      · exact .inl (List.mem_of_mem_filter foreign)
      · exact .inr listening

theorem inv_of_reaches {start system : System Pid} (fresh : start.Fresh)
    {past : List (Execution.Recorded (System Pid) (Event Pid))}
    (reached : Execution.Reaches allows step start past system) : system.Inv :=
  reached.invariant (fun _ state => state.Inv) (inv_of_fresh fresh)
    fun _ _ _ inv allowed => inv_step inv allowed

/-- Only `remove_stale_socket` takes away what stands at the path. -/
theorem stale_of_removes {system : System Pid} {event : Event Pid} {entry : Entry}
    (stands : system.entry = some entry) (removed : (system.step event).entry ≠ some entry) :
    ∃ pid probe, event = .call pid probe ∧ system.phase pid = .stale := by
  cases event with
  | call pid probe =>
      rw [step, call] at removed
      split at removed
      case h_2 opened => split at removed <;> exact (removed stands).elim
      case h_5 stale => exact ⟨pid, probe, rfl, stale⟩
      case h_6 vacant =>
        rw [stands] at removed
        exact (removed stands).elim
      all_goals exact (removed stands).elim
  | releaseLock pid =>
      rw [step] at removed
      split at removed <;> exact (removed stands).elim
  | leave pid => exact (removed stands).elim
  | closeListener pid => exact (removed stands).elim
  | reap pid => exact (removed stands).elim
  | foreignCloses inode => exact (removed stands).elim

/-- At most one process is past the lock, and what a process takes away from the path is a socket
that no process listens on. -/
theorem serve_alone {start system : System Pid} (fresh : start.Fresh)
    {past : List (Execution.Recorded (System Pid) (Event Pid))}
    (reached : Execution.Reaches allows step start past system) :
    (∀ pid other, (system.phase pid).PastLock → (system.phase other).PastLock → pid = other) ∧
      ∀ event, system.allows event → ∀ entry, system.entry = some entry →
        (system.step event).entry ≠ some entry →
          ∃ inode, entry = .socket inode ∧ ¬ system.Live inode := by
  have inv := inv_of_reaches fresh reached
  refine ⟨fun _ _ => inv.alone, fun event _ entry stands removed => ?_⟩
  obtain ⟨pid, _, _, stale⟩ := stale_of_removes stands removed
  have seen := inv.seen pid
  rw [stale] at seen
  obtain ⟨inode, stands', dead⟩ := seen
  exact ⟨inode, Option.some.inj (stands.symm.trans stands'), dead⟩

/-- A socket that a crashed daemon left behind, before two daemons start. -/
def abandoned : System Nat where
  entry := some (.socket 0)
  lock := none
  phase _ := .absent
  foreign := []
  nextInode := 1

/-- Both open the lock file, the second one loses the lock, and the first one finds nobody
listening. -/
def starting : System Nat :=
  Execution.run step abandoned
    [.call 0 .failed, .call 1 .failed, .call 0 .failed, .call 1 .failed, .call 0 .failed,
      .call 0 .refused]

theorem starting_reached : ∃ past, Execution.Reaches allows step abandoned past starting := by
  have idle : Execution.Reaches allows step abandoned [] abandoned := .start
  have opened := idle.next (show allows _ (.call 0 .failed) from nofun)
  have both_opened := opened.next (show allows _ (.call 1 .failed) from nofun)
  have locked := both_opened.next (show allows _ (.call 0 .failed) from nofun)
  have lost := locked.next (show allows _ (.call 1 .failed) from nofun)
  have seen := lost.next (show allows _ (.call 0 .failed) from nofun)
  refine ⟨_, seen.next (show allows _ (.call 0 .refused) from ?_)⟩
  refine fun _ => iff_of_true rfl ⟨nofun, ?_⟩
  rintro inode _ (foreign | ⟨pid, listens⟩)
  · cases foreign
  · rcases pid with _ | _ | pid <;> cases listens

theorem serve_alone_abandoned :
    (∀ pid other, (starting.phase pid).PastLock → (starting.phase other).PastLock → pid = other) ∧
      ∃ inode, Entry.socket 0 = .socket inode ∧ ¬ starting.Live inode := by
  obtain ⟨_, reached⟩ := starting_reached
  obtain ⟨alone, removes_dead⟩ := serve_alone ⟨rfl, fun _ => rfl⟩ reached
  exact ⟨alone, removes_dead (.call 0 .failed) nofun (.socket 0) rfl (by decide)⟩

end System
end PresenceUnlock.Control
