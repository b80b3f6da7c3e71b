import PresenceUnlock.Cli.CloneSwap
import PresenceUnlock.Execution
import PresenceUnlock.RustStd.Hasher

/-!
# Reloading the shell

The shell keeps the lock code that it has loaded, so that setup restarts it when that code changed.
A stamp holds a fingerprint of the code that was loaded last, and only covers the rendered files.
-/

namespace PresenceUnlock.Cli.ReloadCode

open RustStd Setup Execution

/-- How writing the stamp ends; its directory may fail to sync once the stamp is replaced. -/
inductive Record
  | written
  | unsynced
  | failed
  deriving DecidableEq, Repr

/-- A run of setup: the clone it installs, and how the steps end by which it reloads the shell. -/
structure Run where
  /-- The clone. -/
  clone : Clone
  /-- The stamp can be read, if there is one. -/
  reads : Bool
  /-- `omarchy restart shell` succeeds. -/
  restarts : Bool
  /-- How the steps end. -/
  record : Record

/-- Why a reload fails. -/
inductive ReloadError
  | restart
  | record
  deriving DecidableEq, Repr

/-- What a run does: whether it restarts the shell, and the stamp it leaves. -/
structure Reload where
  /-- Whether it succeeded. -/
  result : Except ReloadError Unit
  /-- Whether the shell was to be restarted. -/
  restarted : Bool
  /-- The stamp that is left. -/
  stamp : Option Text

/-- The texts that are hashed. -/
def hashed (clone : Clone) : List Text := clone.files.flatMap fun file => [file.1, file.2]

section Code

variable (hasher : List UInt8 → UInt64)

/-- What identifies the code of a clone. -/
def fingerprint (clone : Clone) : Text := Text.hexWord (hasher (Text.hash (hashed clone)))

/-- Restart the shell, unless the stamp is that of the clone. -/
def reloadCode (stamp : Option Text) (run : Run) : Reload :=
  let applied := fingerprint hasher run.clone
  if run.reads && stamp.any fun recorded => recorded.trim == applied then ⟨.ok (), false, stamp⟩
  else if !run.restarts then ⟨.error .restart, true, stamp⟩
  else
    match run.record with
    | .written => ⟨.ok (), true, some (applied ++ ['\n'])⟩
    | .unsynced => ⟨.error .record, true, some (applied ++ ['\n'])⟩
    | .failed => ⟨.error .record, true, stamp⟩

/-- The stamp, and the clone of the last run whose restart and stamp both succeeded. -/
structure State where
  /-- The stamp. -/
  stamp : Option Text
  /-- The clone. -/
  last : Option Clone

/-- No run has left a stamp. -/
def fresh : State := ⟨none, none⟩

/-- One run. -/
def step (state : State) (run : Run) : State :=
  let reload := reloadCode hasher state.stamp run
  { stamp := reload.stamp
    last := if reload.restarted && reload.result.isOk then some run.clone else state.last }

end Code

section Fingerprint

variable {hasher : List UInt8 → UInt64} {clones : Set Clone} {left right : Clone}

theorem hashed_inj : hashed left = hashed right ↔ left.files = right.files := by
  constructor
  · intro same
    simp only [hashed, Clone.files, List.flatMap_cons, List.flatMap_nil, List.cons_append,
      List.nil_append, List.append_nil, List.cons.injEq] at same
    simp [Clone.files, same]
  · intro same
    rw [hashed, hashed, same]

/-- The hasher tells the rendered files of these clones apart. -/
def TellsApart (hasher : List UInt8 → UInt64) (clones : Set Clone) : Prop :=
  Set.InjOn hasher ((fun clone => Text.hash (hashed clone)) '' clones)

theorem fingerprint_inj (apart : TellsApart hasher clones) (left_mem : left ∈ clones)
    (right_mem : right ∈ clones) :
    fingerprint hasher left = fingerprint hasher right ↔ left.files = right.files := by
  constructor
  · intro same
    have hashes := apart ⟨left, left_mem, rfl⟩ ⟨right, right_mem, rfl⟩ (Text.hexWord_injective same)
    exact hashed_inj.mp (Text.hash_injective hashes)
  · intro same
    rw [fingerprint, fingerprint, hashed_inj.mpr same]

theorem trim_stamp (clone : Clone) :
    Text.trim (fingerprint hasher clone ++ ['\n']) = fingerprint hasher clone :=
  Text.trim_concat_newline fun _ member => Text.hexDigits_solid member

theorem writeAll_of_notMem {files : List (Text × Text)} {directory : Directory} {name : Text}
    (absent : ∀ file ∈ files, file.1 ≠ name) : writeAll files directory name = directory name := by
  induction files generalizing directory with
  | nil => rfl
  | cons file files induction =>
      obtain ⟨first, rest⟩ := List.forall_mem_cons.mp absent
      have later : writeAll files (Function.update directory file.1 (some file.2)) name = _ :=
        induction rest
      exact later.trans (Function.update_of_ne first.symm ..)

/-- What is copied replaces no rendered file. -/
theorem installed_rendered (clone : Clone) :
    clone.installed manifestFile = some clone.manifest ∧
      clone.installed serviceFile = some clone.service ∧
      clone.installed viewFile = some clone.view := by
  have uncopied : ∀ name ∈ [manifestFile, serviceFile, viewFile],
      clone.installed name = writeAll clone.files (fun _ => none) name := fun name rendered =>
    writeAll_of_notMem fun file member same => clone.others file member (same ▸ rendered)
  have view_service : viewFile ≠ serviceFile := by decide +kernel
  have view_manifest : viewFile ≠ manifestFile := by decide +kernel
  have service_manifest : serviceFile ≠ manifestFile := by decide +kernel
  refine ⟨?_, ?_, ?_⟩
  · rw [uncopied _ (by simp)]
    simp [writeAll, Clone.files, view_manifest.symm, service_manifest.symm]
  · rw [uncopied _ (by simp)]
    simp [writeAll, Clone.files, view_service.symm]
  · rw [uncopied _ (by simp)]
    simp [writeAll, Clone.files]

/-- What is installed tells the rendered files. -/
theorem files_eq_of_installed_eq (same : left.installed = right.installed) :
    left.files = right.files := by
  obtain ⟨manifest, service, view⟩ := installed_rendered left
  obtain ⟨manifest', service', view'⟩ := installed_rendered right
  rw [same] at manifest service view
  rw [Clone.files, Clone.files, Option.some.inj (manifest.symm.trans manifest'),
    Option.some.inj (service.symm.trans service'), Option.some.inj (view.symm.trans view')]

end Fingerprint

section Runs

variable {hasher : List UInt8 → UInt64} {clones : Set Clone} {state : State} {run : Run}

/-- The stamp is that of the last run that recorded one. -/
structure Stamped (hasher : List UInt8 → UInt64) (clones : Set Clone) (state : State) : Prop where
  /-- The stamp is the fingerprint of the last clone. -/
  stamp_eq : state.stamp = state.last.map fun clone => fingerprint hasher clone ++ ['\n']
  /-- The last clone is one of the runs'. -/
  last_mem : ∀ clone ∈ state.last, clone ∈ clones

theorem stamped_fresh : Stamped hasher clones fresh := ⟨rfl, by simp [fresh]⟩

/-- A run restarts the shell, or finds the stamp that it would write. -/
theorem reloadCode_cases (hasher : List UInt8 → UInt64) (stamp : Option Text) (run : Run) :
    ((run.reads = true ∧ ∃ recorded ∈ stamp, recorded.trim = fingerprint hasher run.clone) ∧
        reloadCode hasher stamp run = ⟨.ok (), false, stamp⟩) ∨
      (¬ (run.reads = true ∧ ∃ recorded ∈ stamp, recorded.trim = fingerprint hasher run.clone) ∧
        (reloadCode hasher stamp run).restarted = true) := by
  have found : (run.reads && stamp.any fun recorded =>
      recorded.trim == fingerprint hasher run.clone) = true ↔
      run.reads = true ∧ ∃ recorded ∈ stamp, recorded.trim = fingerprint hasher run.clone := by
    simp [Option.any_eq_true]
  rw [← found, reloadCode]
  by_cases applied : (run.reads && stamp.any fun recorded =>
      recorded.trim == fingerprint hasher run.clone) = true
  · exact .inl ⟨applied, if_pos applied⟩
  · refine .inr ⟨applied, ?_⟩
    rw [if_neg applied]
    split
    · rfl
    · cases run.record <;> rfl

/-- A run that does not restart the shell has read the stamp of the same rendered files. -/
theorem restarted_eq_true_iff (stamped : Stamped hasher clones state)
    (apart : TellsApart hasher clones) (member : run.clone ∈ clones) :
    (reloadCode hasher state.stamp run).restarted = true ↔
      ∀ before ∈ state.last, before.files = run.clone.files → run.reads = false := by
  have recorded : (∃ recorded ∈ state.stamp, recorded.trim = fingerprint hasher run.clone) ↔
      ∃ before ∈ state.last, before.files = run.clone.files := by
    rw [stamped.stamp_eq]
    constructor
    · rintro ⟨_, here, trimmed⟩
      obtain ⟨before, last, rfl⟩ := Option.map_eq_some_iff.mp here
      rw [trim_stamp, fingerprint_inj apart (stamped.last_mem before last) member] at trimmed
      exact ⟨before, last, trimmed⟩
    · rintro ⟨before, last, same⟩
      refine ⟨_, Option.mem_map_of_mem _ last, ?_⟩
      rw [trim_stamp, fingerprint_inj apart (stamped.last_mem before last) member]
      exact same
  have cases := reloadCode_cases hasher state.stamp run
  rw [recorded] at cases
  rcases cases with ⟨⟨reads, before, last, same⟩, result⟩ | ⟨differs, restarted⟩
  · rw [result]
    refine iff_of_false Bool.false_ne_true fun unread => ?_
    rw [unread before last same] at reads
    cases reads
  · refine iff_of_true restarted fun before last same => ?_
    by_contra reads
    exact differs ⟨by simpa using reads, before, last, same⟩

/-- A run keeps the stamp, unless it replaces it without being able to sync that. -/
theorem stamped_step (stamped : Stamped hasher clones state) (member : run.clone ∈ clones)
    (synced : run.record ≠ .unsynced) : Stamped hasher clones (step hasher state run) := by
  rw [step, reloadCode]
  split
  · exact stamped
  · split
    · exact stamped
    · cases record : run.record with
      | written =>
          refine ⟨rfl, fun clone last => ?_⟩
          cases Option.mem_some_iff.mp last
          exact member
      | unsynced => exact absurd record synced
      | failed => exact stamped

theorem stamped_run {runs : List Run} (members : ∀ run ∈ runs, run.clone ∈ clones)
    (synced : ∀ run ∈ runs, run.record ≠ .unsynced) :
    Stamped hasher clones (Execution.run (step hasher) fresh runs) :=
  run_invariant_of_permitted (Stamped hasher clones)
    (fun run => run.clone ∈ clones ∧ run.record ≠ .unsynced)
    (fun _ _ stamped allowed => stamped_step stamped allowed.1 allowed.2) stamped_fresh
    fun run member => ⟨members run member, synced run member⟩

end Runs

/-- A run restarts the shell if, and only if, what it installs differs from what was installed by
the last run whose restart and stamp both succeeded, or there is none. -/
def RestartsOnChange (hasher : List UInt8 → UInt64) (state : State) (run : Run) : Prop :=
  (reloadCode hasher state.stamp run).restarted = true ↔
    ∀ before ∈ state.last, before.installed ≠ run.clone.installed

/-- If the rendered files are those of the last such run, the copied ones are as well if, and only
if, the stamp can be read. -/
def Covered (state : State) (run : Run) : Prop :=
  ∀ before ∈ state.last, before.files = run.clone.files →
    (run.reads = true ↔ before.installed = run.clone.installed)

/-- As long as every stamp that is replaced is synced, a run restarts the shell when the code
changed, and only then, exactly if the copied files did not change alone and the stamp can be
read. -/
theorem restarts_on_change_iff (hasher : List UInt8 → UInt64) (runs : List Run) (next : Run)
    (apart : TellsApart hasher {clone | ∃ run ∈ next :: runs, run.clone = clone})
    (synced : ∀ run ∈ runs, run.record ≠ .unsynced) :
    RestartsOnChange hasher (Execution.run (step hasher) fresh runs) next ↔
      Covered (Execution.run (step hasher) fresh runs) next := by
  have stamped : Stamped hasher {clone | ∃ run ∈ next :: runs, run.clone = clone}
      (Execution.run (step hasher) fresh runs) :=
    stamped_run (fun run member => ⟨run, List.mem_cons_of_mem next member, rfl⟩) synced
  have restarts := restarted_eq_true_iff stamped apart ⟨next, List.mem_cons_self, rfl⟩
  rw [RestartsOnChange, restarts, Covered]
  cases (Execution.run (step hasher) fresh runs).last with
  | none => simp
  | some before =>
      have rendered : before.installed = next.clone.installed → before.files = next.clone.files :=
        files_eq_of_installed_eq
      simp only [Option.mem_def, Option.some.injEq, forall_eq']
      by_cases same : before.files = next.clone.files
      · cases next.reads <;> simp [same]
      · simp [same, mt rendered same]

/-- A run on which every step succeeds. -/
def succeeding (clone : Clone) : Run := ⟨clone, true, true, .written⟩

/-- A new view is noticed. -/
theorem restarts_on_new_view :
    RestartsOnChange DefaultHasher.of
      (Execution.run (step DefaultHasher.of) fresh [succeeding plainClone])
      (succeeding { plainClone with view := ['1'] }) := by
  refine (restarts_on_change_iff DefaultHasher.of _ _ ?_ ?_).mpr ?_
  · have different : DefaultHasher.of (Text.hash (hashed { plainClone with view := ['1'] })) ≠
        DefaultHasher.of (Text.hash (hashed plainClone)) := by decide +kernel
    rintro _ ⟨left, ⟨_, known, rfl⟩, rfl⟩ _ ⟨right, ⟨_, known', rfl⟩, rfl⟩ same
    rcases List.mem_pair.mp known with rfl | rfl
    · rcases List.mem_pair.mp known' with rfl | rfl
      · rfl
      · exact absurd same different
    · rcases List.mem_pair.mp known' with rfl | rfl
      · exact absurd same.symm different
      · rfl
  · intro run member
    rw [List.mem_singleton.mp member]
    decide
  · rintro before last same
    cases last
    simp [Clone.files, succeeding, plainClone] at same

/-- A file that is only copied. -/
def clockFile : Text := "Clock.qml".toList

/-- The stock lock ships a clock. -/
def withClock (contents : Text) : Clone :=
  { plainClone with
    copied := [(clockFile, contents)]
    others := by
      intro file member
      have other : clockFile ∉ [manifestFile, serviceFile, viewFile] := by decide +kernel
      rw [List.mem_singleton.mp member]
      exact other }

/-- A new clock is not noticed. -/
theorem ignores_new_clock :
    TellsApart DefaultHasher.of {clone | ∃ run ∈ [succeeding (withClock ['2']),
      succeeding (withClock ['1'])], run.clone = clone} ∧
    ¬ RestartsOnChange DefaultHasher.of
      (Execution.run (step DefaultHasher.of) fresh [succeeding (withClock ['1'])])
      (succeeding (withClock ['2'])) := by
  refine ⟨?_, fun restarts => ?_⟩
  · rintro _ ⟨left, ⟨_, known, rfl⟩, rfl⟩ _ ⟨right, ⟨_, known', rfl⟩, rfl⟩ same
    rcases List.mem_pair.mp known with rfl | rfl <;>
      rcases List.mem_pair.mp known' with rfl | rfl <;> rfl
  · have restarted := restarts.mpr fun before last same => ?_
    · exact absurd restarted (by decide +kernel)
    · cases last
      have contents := congrFun same clockFile
      exact absurd contents (by decide +kernel)

end PresenceUnlock.Cli.ReloadCode
