import PresenceUnlock.Execution

/-!
# Pausing the unlock daemon

The menu stops the daemon for as long as an operation needs the adapter.  A forced exit skips the
destructors, so the thread that takes signals restarts the daemon as well, and one flag tells both
threads whether there is anything to restart.
-/

namespace PresenceUnlock.Cli.DaemonPause

/-- What is asked of the service manager. -/
inductive Command
  | stop
  | start
  deriving DecidableEq, Repr

/-- What the menu thread is about to do. -/
inductive MenuPhase
  | idle
  | announcing
  | stopping
  | operating
  | starting (resumes : Bool)
  | dropping
  deriving DecidableEq, Repr

/-- What the signal thread is about to do. -/
inductive SignalPhase
  | waiting
  | starting
  | exiting
  deriving DecidableEq, Repr

/-- The process, with every command it has issued, and the daemon that only it commands. -/
structure Wizard where
  /-- The flag that the threads share. -/
  daemonStopped : Bool
  /-- Where the menu is. -/
  menu : MenuPhase
  /-- Where the thread of the signal is. -/
  signal : SignalPhase
  /-- The commands, in order. -/
  commands : List Command
  /-- Whether the daemon runs. -/
  active : Bool
  /-- Whether the process has ended. -/
  ended : Bool
  deriving DecidableEq, Repr

/-- A step of either thread.  A pause is ended by `resume` or by `Drop` alone. -/
inductive Event
  | check (answered : Bool)
  | menu (resumes : Bool)
  | signal
  | returns
  deriving DecidableEq, Repr

namespace Wizard

/-- `systemctl`, which succeeds. -/
def systemctl (wizard : Wizard) (command : Command) : Wizard :=
  { wizard with commands := wizard.commands ++ [command], active := command = .start }

/-- What follows `restart_unlockd`: `resume` still drops the guard. -/
def restarted (resumes : Bool) : MenuPhase := if resumes then .dropping else .idle

/-- The next step of `DaemonPause` in the menu thread. -/
def menuStep (wizard : Wizard) (resumes : Bool) : Wizard :=
  match wizard.menu with
  | .idle => wizard
  | .announcing => { wizard with daemonStopped := true, menu := .stopping }
  | .stopping => { wizard.systemctl .stop with menu := .operating }
  | .operating =>
      if wizard.daemonStopped then
        { wizard with daemonStopped := false, menu := .starting resumes }
      else { wizard with menu := restarted resumes }
  | .starting resumes => { wizard.systemctl .start with menu := restarted resumes }
  | .dropping =>
      if wizard.daemonStopped then
        { wizard with daemonStopped := false, menu := .starting false }
      else { wizard with menu := .idle }

/-- The next step of `restore_terminal` in the signal thread, and then of `exit`. -/
def signalStep (wizard : Wizard) : Wizard :=
  match wizard.signal with
  | .waiting =>
      if wizard.daemonStopped then { wizard with daemonStopped := false, signal := .starting }
      else { wizard with signal := .exiting }
  | .starting => { wizard.systemctl .start with signal := .exiting }
  | .exiting => { wizard with ended := true }

/-- One step. -/
def step (wizard : Wizard) : Event → Wizard
  | .check answered =>
      { wizard with menu := if answered && wizard.active then .announcing else .operating }
  | .menu resumes => wizard.menuStep resumes
  | .signal => wizard.signalStep
  | .returns => { wizard with ended := true }

/-- A pause begins, and the menu returns, outside the pauses. -/
def allows (wizard : Wizard) (event : Event) : Prop :=
  wizard.ended = false ∧
    match event with
    | .check _ | .returns => wizard.menu = .idle
    | .menu _ => wizard.menu ≠ .idle
    | .signal => True

/-- The menu is open, and it has not paused anything yet. -/
def Fresh (wizard : Wizard) : Prop :=
  wizard.daemonStopped = false ∧ wizard.menu = .idle ∧ wizard.signal = .waiting ∧
    wizard.commands = [] ∧ wizard.ended = false

/-- The last command of the process is a stop. -/
def Stranded (wizard : Wizard) : Prop := wizard.commands.getLast? = some .stop

/-- After a stop: the flag is set for the menu thread to find, or a thread found it set and is about
to start the daemon. -/
def Owed (wizard : Wizard) : Prop :=
  wizard.menu = .operating ∧ wizard.daemonStopped = true ∨
    (∃ resumes, wizard.menu = .starting resumes) ∨
      wizard.signal = .starting ∧ wizard.menu ≠ .stopping

/-- The stop is issued while the flag still announces it, or while the signal thread is about to
start the daemon; and the process does not end while a start is owed. -/
def Orderly (wizard : Wizard) : Event → Prop
  | .check _ => True
  | .menu _ =>
      wizard.menu = .stopping → wizard.daemonStopped = true ∨ wizard.signal = .starting
  | .signal => wizard.signal = .exiting → ¬ wizard.Owed
  | .returns => ¬ wizard.Owed

/-- Every stop is owed a start, and nothing else is. -/
structure Paired (wizard : Wizard) : Prop where
  /-- The daemon is stranded exactly if a start is owed. -/
  owed : wizard.Stranded ↔ wizard.Owed
  /-- A stranded daemon does not run. -/
  inactive : wizard.Stranded → wizard.active = false
  /-- A stop is issued only while the daemon runs. -/
  announced : wizard.menu = .announcing ∨ wizard.menu = .stopping → wizard.active = true
  /-- The flag is set only around an operation. -/
  flag : wizard.daemonStopped = true → wizard.menu = .stopping ∨ wizard.menu = .operating
  /-- Only one thread starts the daemon. -/
  once : wizard.daemonStopped = true ∨ (∃ resumes, wizard.menu = .starting resumes) →
    wizard.signal ≠ .starting
  /-- A process that has ended owes nothing. -/
  ended : wizard.ended = true → ¬ wizard.Owed

theorem paired_of_fresh {wizard : Wizard} (fresh : wizard.Fresh) : wizard.Paired := by
  obtain ⟨flag, menu, signal, commands, ended⟩ := fresh
  constructor <;> simp [Stranded, Owed, flag, menu, signal, commands, ended]

theorem stranded_systemctl (wizard : Wizard) (command : Command) :
    (wizard.systemctl command).Stranded ↔ command = .stop := by
  simp [Stranded, systemctl]

/-- Nothing is owed while the pause is only about to stop the daemon. -/
theorem Paired.not_owed {wizard : Wizard} (paired : wizard.Paired)
    (announced : wizard.menu = .announcing ∨ wizard.menu = .stopping) : ¬ wizard.Owed := by
  intro owed
  have inactive := paired.inactive (paired.owed.mpr owed)
  rw [paired.announced announced] at inactive
  cases inactive

/-- A step of the menu thread that issues nothing and leaves the flag alone. -/
theorem Paired.goto {wizard : Wizard} (paired : wizard.Paired) {menu : MenuPhase}
    (clear : wizard.daemonStopped = false) (before : ∀ resumes, wizard.menu ≠ .starting resumes)
    (settled : wizard.menu ≠ .stopping) (after : ∀ resumes, menu ≠ .starting resumes)
    (settles : menu ≠ .stopping) (announces : menu = .announcing → wizard.active = true) :
    ({ wizard with menu } : Wizard).Paired := by
  have same : ({ wizard with menu } : Wizard).Owed ↔ wizard.Owed := by
    simp [Owed, clear, before, settled, after, settles]
  refine ⟨paired.owed.trans same.symm, paired.inactive, ?_, ?_, ?_, ?_⟩
  · rintro (announcing | stopping)
    · exact announces announcing
    · exact (settles stopping).elim
  · intro flag
    rw [clear] at flag
    cases flag
  · rintro (flag | ⟨resumes, starting⟩)
    · rw [clear] at flag
      cases flag
    · exact (after resumes starting).elim
  · intro ended owed
    exact paired.ended ended (same.mp owed)

theorem restarted_ne_starting (resumes again : Bool) : restarted resumes ≠ .starting again := by
  cases resumes <;> exact nofun

theorem restarted_ne_stopping (resumes : Bool) : restarted resumes ≠ .stopping := by
  cases resumes <;> exact nofun

theorem restarted_ne_announcing (resumes : Bool) : restarted resumes ≠ .announcing := by
  cases resumes <;> exact nofun

/-- The start that a thread owes is issued. -/
theorem paired_start {wizard : Wizard} {menu : MenuPhase} {signal : SignalPhase}
    (clear : wizard.daemonStopped = false) (menu_done : ∀ resumes, menu ≠ .starting resumes)
    (signal_done : signal ≠ .starting) :
    ({ wizard.systemctl .start with menu, signal } : Wizard).Paired := by
  have settled : ¬ ({ wizard.systemctl .start with menu, signal } : Wizard).Owed := by
    simp [Owed, systemctl, clear, menu_done, signal_done]
  have started : ¬ ({ wizard.systemctl .start with menu, signal } : Wizard).Stranded := by
    rintro stranded
    cases (stranded_systemctl wizard .start).mp stranded
  constructor
  · exact iff_of_false started settled
  · exact fun stranded => (started stranded).elim
  · exact fun _ => rfl
  · intro flag
    rw [show wizard.daemonStopped = true from flag] at clear
    cases clear
  · exact fun _ => signal_done
  · exact fun _ => settled

theorem Paired.clear {wizard : Wizard} (paired : wizard.Paired)
    (past : ¬ (wizard.menu = .stopping ∨ wizard.menu = .operating)) :
    wizard.daemonStopped = false :=
  Bool.eq_false_iff.mpr fun flag => past (paired.flag flag)

theorem paired_menuStep {wizard : Wizard} {resumes : Bool} (paired : wizard.Paired)
    (running : wizard.ended = false) (orderly : wizard.Orderly (.menu resumes)) :
    (wizard.menuStep resumes).Paired := by
  rw [menuStep]
  cases at_menu : wizard.menu with
  | idle => exact paired
  | announcing =>
      have settled := paired.not_owed (.inl at_menu)
      have unowed : ¬ ({ wizard with daemonStopped := true, menu := .stopping } : Wizard).Owed := by
        simp [Owed]
      refine ⟨iff_of_false (mt paired.owed.mp settled) unowed, paired.inactive, ?_, ?_, ?_, ?_⟩
      · exact fun _ => paired.announced (.inl at_menu)
      · exact fun _ => .inl rfl
      · exact fun _ signal => settled (.inr (.inr ⟨signal, by simp [at_menu]⟩))
      · exact fun _ => unowed
  | stopping =>
      have stopped : ({ wizard.systemctl .stop with menu := .operating } : Wizard).Stranded :=
        (stranded_systemctl wizard .stop).mpr rfl
      have owed : ({ wizard.systemctl .stop with menu := .operating } : Wizard).Owed := by
        rcases orderly at_menu with flag | signal
        · exact .inl ⟨rfl, flag⟩
        · exact .inr (.inr ⟨signal, nofun⟩)
      refine ⟨iff_of_true stopped owed, fun _ => rfl, ?_, fun _ => .inr rfl, ?_, ?_⟩
      · rintro (announcing | stopping)
        · cases announcing
        · cases stopping
      · rintro (flag | ⟨_, starting⟩)
        · exact paired.once (.inl flag)
        · cases starting
      · intro ended
        rw [show wizard.ended = true from ended] at running
        cases running
  | operating =>
      simp only
      split
      · rename_i flag
        have owed : wizard.Owed := .inl ⟨at_menu, flag⟩
        have still_owed : ({ wizard with
            daemonStopped := false, menu := .starting resumes } : Wizard).Owed :=
          .inr (.inl ⟨resumes, rfl⟩)
        refine ⟨iff_of_true (paired.owed.mpr owed) still_owed, paired.inactive, ?_, nofun, ?_, ?_⟩
        · rintro (announcing | stopping)
          · cases announcing
          · cases stopping
        · exact fun _ => paired.once (.inl flag)
        · exact fun ended => (paired.ended ended owed).elim
      · rename_i clear
        apply paired.goto (Bool.eq_false_iff.mpr clear)
        · simp [at_menu]
        · simp [at_menu]
        · exact restarted_ne_starting resumes
        · exact restarted_ne_stopping resumes
        · exact fun announcing => (restarted_ne_announcing resumes announcing).elim
  | starting resumes =>
      apply paired_start
      · exact paired.clear (by simp [at_menu])
      · exact restarted_ne_starting resumes
      · exact paired.once (.inr ⟨resumes, at_menu⟩)
  | dropping =>
      have clear := paired.clear (by simp [at_menu])
      simp only
      split
      · rename_i flag
        rw [clear] at flag
        cases flag
      · apply paired.goto clear <;> simp [at_menu]

theorem paired_signalStep {wizard : Wizard} (paired : wizard.Paired)
    (orderly : wizard.Orderly .signal) : wizard.signalStep.Paired := by
  rw [signalStep]
  split
  case h_1 at_signal =>
    split
    · rename_i flag
      have same : ({ wizard with daemonStopped := false, signal := .starting } : Wizard).Owed ↔
          wizard.Owed := by
        rcases paired.flag flag with stopping | operating
        · simp [Owed, at_signal, stopping]
        · simp [Owed, flag, operating]
      refine ⟨paired.owed.trans same.symm, paired.inactive, paired.announced, nofun, ?_, ?_⟩
      · rintro (set | ⟨resumes, starting⟩)
        · cases set
        · rcases paired.flag flag with stopping | operating
          · cases stopping.symm.trans starting
          · cases operating.symm.trans starting
      · exact fun ended owed => paired.ended ended (same.mp owed)
    · have same : ({ wizard with signal := .exiting } : Wizard).Owed ↔ wizard.Owed := by
        simp [Owed, at_signal]
      refine ⟨paired.owed.trans same.symm, paired.inactive, paired.announced, paired.flag, ?_, ?_⟩
      · exact fun _ => nofun
      · exact fun ended owed => paired.ended ended (same.mp owed)
  case h_2 at_signal =>
    apply paired_start
    · exact Bool.eq_false_iff.mpr fun flag => paired.once (.inl flag) at_signal
    · exact fun resumes starting => paired.once (.inr ⟨resumes, starting⟩) at_signal
    · exact nofun
  case h_3 at_signal => exact { paired with ended := fun _ => orderly at_signal }

theorem paired_step {wizard : Wizard} {event : Event} (paired : wizard.Paired)
    (allowed : wizard.allows event) (orderly : wizard.Orderly event) :
    (wizard.step event).Paired := by
  obtain ⟨running, enabled⟩ := allowed
  cases event with
  | check answered =>
      have idle : wizard.menu = .idle := enabled
      apply paired.goto (paired.clear (by simp [idle]))
      · simp [idle]
      · simp [idle]
      · intro resumes
        split <;> exact nofun
      · split <;> exact nofun
      · split
        · rename_i active
          exact fun _ => (Bool.and_eq_true_iff.mp active).2
        · exact nofun
  | menu resumes => exact paired_menuStep paired running orderly
  | signal => exact paired_signalStep paired orderly
  | returns => exact { paired with ended := fun _ => orderly }

/-- The last command was a stop, and no thread will start the daemon again. -/
structure Lost (wizard : Wizard) : Prop where
  /-- The daemon was stopped. -/
  stranded : wizard.Stranded
  /-- No thread is going to start it. -/
  gone : wizard.ended = false → wizard.active = false ∧ wizard.daemonStopped = false ∧
    wizard.signal ≠ .starting ∧
      (wizard.menu = .idle ∨ wizard.menu = .operating ∨ wizard.menu = .dropping)

theorem lost_of_disorder {wizard : Wizard} {event : Event} (paired : wizard.Paired)
    (disorder : ¬ wizard.Orderly event) : (wizard.step event).Lost := by
  cases event with
  | check answered => exact (disorder trivial).elim
  | menu resumes =>
      obtain ⟨stopping, unannounced⟩ := Classical.not_imp.mp disorder
      obtain ⟨clear, signal⟩ := not_or.mp unannounced
      rw [step, menuStep, stopping]
      refine ⟨(stranded_systemctl wizard .stop).mpr rfl,
        fun _ => ⟨rfl, ?_, signal, .inr (.inl rfl)⟩⟩
      exact Bool.eq_false_iff.mpr clear
  | signal =>
      obtain ⟨exiting, owed⟩ := Classical.not_imp.mp disorder
      rw [step, signalStep, exiting]
      exact ⟨paired.owed.mpr (not_not.mp owed), nofun⟩
  | returns => exact ⟨paired.owed.mpr (not_not.mp disorder), nofun⟩

theorem lost_step {wizard : Wizard} {event : Event} (lost : wizard.Lost)
    (allowed : wizard.allows event) : (wizard.step event).Lost := by
  obtain ⟨running, enabled⟩ := allowed
  obtain ⟨inactive, clear, signal, menu⟩ := lost.gone running
  cases event with
  | check answered =>
      refine ⟨lost.stranded, fun _ => ⟨inactive, clear, signal, ?_⟩⟩
      simp [step, inactive]
  | menu resumes =>
      rw [step, menuStep]
      rcases menu with idle | operating | dropping
      · rw [idle]
        exact lost
      · simp only [operating, clear, Bool.false_eq_true, if_false]
        refine ⟨lost.stranded, fun _ => ⟨inactive, rfl, signal, ?_⟩⟩
        cases resumes
        · exact .inl rfl
        · exact .inr (.inr rfl)
      · simp only [dropping, clear, Bool.false_eq_true, if_false]
        exact ⟨lost.stranded, fun _ => ⟨inactive, rfl, signal, .inl rfl⟩⟩
  | signal =>
      rw [step, signalStep]
      cases at_signal : wizard.signal with
      | waiting =>
          simp only [clear, Bool.false_eq_true, if_false]
          exact ⟨lost.stranded, fun _ => ⟨inactive, rfl, nofun, menu⟩⟩
      | starting => exact (signal at_signal).elim
      | exiting => exact ⟨lost.stranded, nofun⟩
  | returns => exact ⟨lost.stranded, nofun⟩

/-- A run so far is orderly and owes a start for each stop, or it is not and the stop is final. -/
theorem paired_or_lost {start wizard : Wizard} (fresh : start.Fresh)
    {past : List (Execution.Recorded Wizard Event)}
    (reached : Execution.Reaches allows step start past wizard) :
    (∀ taken ∈ past, Orderly taken.1 taken.2) ∧ wizard.Paired ∨
      (¬ ∀ taken ∈ past, Orderly taken.1 taken.2) ∧ wizard.Lost := by
  induction reached with
  | start => exact .inl ⟨nofun, paired_of_fresh fresh⟩
  | @next past wizard event _ allowed induction =>
      simp only [List.forall_mem_append, List.forall_mem_singleton]
      rcases induction with ⟨orderly, paired⟩ | ⟨disorder, lost⟩
      · by_cases this_orderly : wizard.Orderly event
        · exact .inl ⟨⟨orderly, this_orderly⟩, paired_step paired allowed this_orderly⟩
        · exact .inr ⟨fun both => this_orderly both.2, lost_of_disorder paired this_orderly⟩
      · exact .inr ⟨fun both => disorder both.1, lost_step lost allowed⟩

/-- Exactly when the process ends with a command that is not a stop. -/
theorem not_stranded_iff_orderly {start wizard : Wizard} (fresh : start.Fresh)
    {past : List (Execution.Recorded Wizard Event)}
    (reached : Execution.Reaches allows step start past wizard) (ended : wizard.ended = true) :
    ¬ wizard.Stranded ↔ ∀ taken ∈ past, Orderly taken.1 taken.2 := by
  rcases paired_or_lost fresh reached with ⟨orderly, paired⟩ | ⟨disorder, lost⟩
  · exact iff_of_true (fun stranded => paired.ended ended (paired.owed.mp stranded)) orderly
  · exact iff_of_false (not_not.mpr lost.stranded) disorder

/-- The menu as it opens, over a running daemon. -/
def opened : Wizard where
  daemonStopped := false
  menu := .idle
  signal := .waiting
  commands := []
  active := true
  ended := false

/-- A pause that runs to its end, and the return from the menu. -/
theorem not_stranded_iff_orderly_resume :
    ∃ past wizard, Execution.Reaches allows step opened past wizard ∧ wizard.ended = true ∧
      wizard.commands = [.stop, .start] ∧
      (¬ wizard.Stranded ↔ ∀ taken ∈ past, Orderly taken.1 taken.2) := by
  have idle : Execution.Reaches allows step opened [] opened := .start
  have announcing := idle.next (show allows _ (.check true) from ⟨rfl, rfl⟩)
  have stopping := announcing.next (show allows _ (.menu true) from ⟨rfl, nofun⟩)
  have operating := stopping.next (show allows _ (.menu true) from ⟨rfl, nofun⟩)
  have starting := operating.next (show allows _ (.menu true) from ⟨rfl, nofun⟩)
  have dropping := starting.next (show allows _ (.menu true) from ⟨rfl, nofun⟩)
  have done := dropping.next (show allows _ (.menu true) from ⟨rfl, nofun⟩)
  have ended := done.next (show allows _ .returns from ⟨rfl, rfl⟩)
  exact ⟨_, _, ended, rfl, rfl, not_stranded_iff_orderly ⟨rfl, rfl, rfl, rfl, rfl⟩ ended rfl⟩

/-- A forced exit that falls between the flag and the stop it announces. -/
theorem stranded_between_flag_and_stop :
    ∃ past wizard, Execution.Reaches allows step opened past wizard ∧ wizard.ended = true ∧
      wizard.commands = [.start, .stop] ∧ wizard.Stranded := by
  have idle : Execution.Reaches allows step opened [] opened := .start
  have announcing := idle.next (show allows _ (.check true) from ⟨rfl, rfl⟩)
  have stopping := announcing.next (show allows _ (.menu true) from ⟨rfl, nofun⟩)
  have swapped := stopping.next (show allows _ .signal from ⟨rfl, trivial⟩)
  have restarted := swapped.next (show allows _ .signal from ⟨rfl, trivial⟩)
  have stopped := restarted.next (show allows _ (.menu true) from ⟨rfl, nofun⟩)
  have ended := stopped.next (show allows _ .signal from ⟨rfl, trivial⟩)
  exact ⟨_, _, ended, rfl, rfl, rfl⟩

end Wizard
end PresenceUnlock.Cli.DaemonPause
