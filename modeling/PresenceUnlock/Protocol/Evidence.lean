import PresenceUnlock.Execution
import PresenceUnlock.Protocol.Presence
import PresenceUnlock.Thinning

/-!
# Evidence as a function of the history

The incremental evidence of a device is compared with a specification that reads the whole history
at once: the advertisements since the last revocation, thinned to one for every spacing interval.
Pruning and window filtering then only ever discard what no later decision can count.
-/

namespace PresenceUnlock

open RustStd Execution Thinning

/-- One call on a fleet. -/
inductive FleetEvent
  | observe (nowMs : UInt64) (advertisement : Advertisement)
  | invalidate

namespace FleetEvent

/-- The timestamp of a call that carries one. -/
def time? : FleetEvent → Option ℕ
  | observe nowMs _ => some nowMs.toNat
  | invalidate => none

/-- The timestamps of a history. -/
def times (history : List FleetEvent) : List ℕ := history.filterMap time?

end FleetEvent

namespace Device

/-- What a device makes of an event. -/
def step (device : Device) : FleetEvent → Device
  | .observe nowMs advertisement => device.observe nowMs advertisement
  | .invalidate => device.invalidate

@[simp] theorem spec_run (device : Device) (history : List FleetEvent) :
    (run step device history).spec = device.spec := by
  refine run_invariant (fun state : Device => state.spec = device.spec) ?_ rfl history
  intro state event same
  cases event <;> simpa [step] using same

end Device

namespace Fleet

/-- What a fleet makes of an event. -/
def step (fleet : Fleet) : FleetEvent → Fleet
  | .observe nowMs advertisement => fleet.observe nowMs advertisement
  | .invalidate => fleet.invalidate

/-- The devices of a fleet run side by side, without influence on each other. -/
theorem run_eq (fleet : Fleet) (history : List FleetEvent) :
    run step fleet history =
      { fleet with devices := fleet.devices.map fun device => run Device.step device history } := by
  induction history generalizing fleet with
  | nil => simp
  | cons event history induction =>
      rw [run_cons, induction]
      cases event <;> simp [step, observe, invalidate, Device.step, Function.comp_def]

theorem devices_run_new (specs : List DeviceSpec) (rule : MultiDeviceAuth)
    (history : List FleetEvent) :
    (run step (new specs rule) history).devices =
      specs.map fun spec => run Device.step (Device.new spec) history := by
  simp [run_eq, new, Function.comp_def]

end Fleet

namespace DeviceSpec

/-- The calls that erase everything a device has accumulated. -/
def resets (spec : DeviceSpec) : FleetEvent → Bool
  | .observe _ advertisement =>
      spec.identity.matches advertisement && spec.profile.val.evaluate advertisement = .revoke
  | .invalidate => true

/-- The time of a matched, qualifying advertisement that is strong enough. -/
def qualifiesAt (spec : DeviceSpec) : FleetEvent → Option ℕ
  | .observe nowMs advertisement =>
      if spec.identity.matches advertisement ∧
          spec.profile.val.evaluate advertisement = .qualify ∧
          spec.policy.thresholdDbm ≤ advertisement.rssi then
        some nowMs.toNat
      else
        none
  | .invalidate => none

/-- The counted advertisements: those that qualify after the last reset, thinned greedily. -/
def counted (spec : DeviceSpec) (history : List FleetEvent) : List ℕ :=
  thin Policy.minSampleSpacingMs.toNat
    ((history.rtakeWhile fun event => !spec.resets event).filterMap spec.qualifiesAt)

/-- The counted advertisements that are inside the sample window at `now`. -/
def countedRecently (spec : DeviceSpec) (history : List FleetEvent) (now : ℕ) : List ℕ :=
  (spec.counted history).filter fun sample => now - sample ≤ spec.policy.sampleWindowMs.toNat

/-- A device is present when its newest counted advertisement is fresh and the window holds
enough of them. -/
def Present (spec : DeviceSpec) (history : List FleetEvent) (now : ℕ) : Prop :=
  (∃ newest ∈ (spec.counted history).getLast?, now - newest ≤ spec.policy.freshnessMs.toNat) ∧
    spec.policy.minimumSamples.toNat ≤ (spec.countedRecently history now).length

instance (spec : DeviceSpec) (history : List FleetEvent) (now : ℕ) :
    Decidable (spec.Present history now) := by
  unfold Present
  infer_instance

/-- The calls a device's answer depends on; all others are ignored, too weak, or another's. -/
def concerns (spec : DeviceSpec) (event : FleetEvent) : Bool :=
  spec.resets event || (spec.qualifiesAt event).isSome

@[simp] theorem counted_nil (spec : DeviceSpec) : spec.counted [] = [] := rfl

theorem counted_concat_of_resets (spec : DeviceSpec) (history : List FleetEvent)
    {event : FleetEvent} (resets : spec.resets event = true) :
    spec.counted (history ++ [event]) = [] := by
  simp [counted, resets]

theorem counted_concat_of_idle (spec : DeviceSpec) (history : List FleetEvent)
    {event : FleetEvent} (keeps : spec.resets event = false)
    (idle : spec.qualifiesAt event = none) :
    spec.counted (history ++ [event]) = spec.counted history := by
  simp [counted, keeps, idle]

theorem counted_concat_of_qualifies (spec : DeviceSpec) (history : List FleetEvent)
    {event : FleetEvent} (keeps : spec.resets event = false) {t : ℕ}
    (qualifies : spec.qualifiesAt event = some t) :
    spec.counted (history ++ [event]) =
      if Crowds Policy.minSampleSpacingMs.toNat (spec.counted history).getLast? t then
        spec.counted history
      else
        spec.counted history ++ [t] := by
  have appended : (history ++ [event]).rtakeWhile (fun event => !spec.resets event) =
      history.rtakeWhile (fun event => !spec.resets event) ++ [event] :=
    List.rtakeWhile_concat_pos _ _ _ (by simpa using keeps)
  simp only [counted, appended, List.filterMap_append, List.filterMap_cons, qualifies,
    List.filterMap_nil]
  exact thin_concat _ _ _

/-- Calls that do not concern a device leave its counted advertisements alone. -/
theorem counted_filter_concerns (spec : DeviceSpec) (history : List FleetEvent) :
    spec.counted (history.filter spec.concerns) = spec.counted history := by
  induction history using List.reverseRecOn with
  | nil => rfl
  | append_singleton history event induction =>
      rw [List.filter_append]
      cases resets : spec.resets event with
      | true =>
          have kept : [event].filter spec.concerns = [event] := by simp [concerns, resets]
          rw [kept, spec.counted_concat_of_resets _ resets, spec.counted_concat_of_resets _ resets]
      | false =>
          cases qualifies : spec.qualifiesAt event with
          | none =>
              have dropped : [event].filter spec.concerns = [] := by
                simp [concerns, resets, qualifies]
              rw [dropped, List.append_nil, induction,
                spec.counted_concat_of_idle history resets qualifies]
          | some t =>
              have kept : [event].filter spec.concerns = [event] := by
                simp [concerns, qualifies]
              rw [kept, spec.counted_concat_of_qualifies _ resets qualifies, induction,
                spec.counted_concat_of_qualifies history resets qualifies]

theorem present_filter_concerns (spec : DeviceSpec) (history : List FleetEvent) (now : ℕ) :
    spec.Present (history.filter spec.concerns) now ↔ spec.Present history now := by
  simp only [Present, countedRecently, counted_filter_concerns]

end DeviceSpec

namespace Eligibility

/-- The evidence a decision to allow reads: the newest counted sample and the stored ones. -/
def evidence (state : Eligibility) : Option ℕ × List ℕ :=
  (state.lastQualifyingMs.map UInt64.toNat, state.qualifyingSamples.map UInt64.toNat)

/-- The stored samples still inside the window at `now`. -/
def recent (samples : List ℕ) (policy : Policy) (now : ℕ) : List ℕ :=
  samples.filter fun sample => now - sample ≤ policy.sampleWindowMs.toNat

private theorem map_retained (samples : List UInt64) (nowMs : UInt64) (policy : Policy) :
    (samples.filter fun sample => saturatingSub nowMs sample ≤ policy.sampleWindowMs).map
        UInt64.toNat =
      recent (samples.map UInt64.toNat) policy nowMs.toNat := by
  rw [recent, List.filter_map]
  congr 1
  apply List.filter_congr
  intro sample _
  simp [UInt64.le_iff_toNat_le]

theorem withinWindow_eq (state : Eligibility) (nowMs : UInt64) (policy : Policy) :
    state.withinWindow nowMs policy = (recent state.evidence.2 policy nowMs.toNat).length := by
  rw [withinWindow, evidence, ← map_retained, List.length_map]

@[simp] theorem evidence_default : default.evidence = (none, []) := rfl

@[simp] theorem evidence_invalidate (state : Eligibility) :
    state.invalidate.evidence = (none, []) := rfl

theorem evidence_observe_revoke (state : Eligibility) (nowMs : UInt64) (rssi : Int16)
    (policy : Policy) : (state.observe nowMs rssi .revoke policy).evidence = (none, []) := rfl

theorem evidence_observe_ignore (state : Eligibility) (nowMs : UInt64) (rssi : Int16)
    (policy : Policy) : (state.observe nowMs rssi .ignore policy).evidence = state.evidence := rfl

private theorem any_crowds (last : Option UInt64) (nowMs : UInt64) :
    (last.any fun last => saturatingSub nowMs last < Policy.minSampleSpacingMs) =
      decide (Crowds Policy.minSampleSpacingMs.toNat (last.map UInt64.toNat) nowMs.toNat) := by
  cases last <;> simp [Crowds, UInt64.lt_iff_toNat_lt]

/-- A qualifying observation prunes, and then counts itself unless it is weak or crowded. -/
theorem evidence_observe_qualify (state : Eligibility) (nowMs : UInt64) (rssi : Int16)
    (policy : Policy) :
    (state.observe nowMs rssi .qualify policy).evidence =
      if rssi < policy.thresholdDbm ∨
          Crowds Policy.minSampleSpacingMs.toNat state.evidence.1 nowMs.toNat then
        (state.evidence.1, recent state.evidence.2 policy nowMs.toNat)
      else
        (some nowMs.toNat, recent state.evidence.2 policy nowMs.toNat ++ [nowMs.toNat]) := by
  have pruned := map_retained state.qualifyingSamples nowMs policy
  by_cases weak : rssi < policy.thresholdDbm
  · rw [if_pos (.inl weak)]
    simp [observe, retainRecent, weak, evidence, pruned]
  · simp only [observe, retainRecent, weak, if_false, false_or, any_crowds, decide_eq_true_eq]
    by_cases crowded : Crowds Policy.minSampleSpacingMs.toNat
        (state.lastQualifyingMs.map UInt64.toNat) nowMs.toNat
    · simp only [evidence, crowded, if_true, pruned]
    · simp only [evidence, crowded, if_false, List.map_append, pruned, Option.map_some,
        List.map_cons, List.map_nil]

end Eligibility

/-- The stored evidence answers every question from `clock` on as the specification does: pruning
has only discarded samples that are outside the window for good. -/
structure Tracks (spec : DeviceSpec) (evidence : Option ℕ × List ℕ) (history : List FleetEvent)
    (clock : ℕ) : Prop where
  /-- The newest sample is kept. -/
  newest : evidence.1 = (spec.counted history).getLast?
  /-- So are all that may still count. -/
  recent : ∀ now, clock ≤ now →
    Eligibility.recent evidence.2 spec.policy now = spec.countedRecently history now

namespace Tracks

theorem later {spec : DeviceSpec} {evidence : Option ℕ × List ℕ} {history : List FleetEvent}
    {clock now : ℕ} (tracks : Tracks spec evidence history clock) (order : clock ≤ now) :
    Tracks spec evidence history now :=
  ⟨tracks.newest, fun after reached => tracks.recent after (order.trans reached)⟩

/-- A call that neither resets nor counts leaves both sides alone. -/
theorem idle {spec : DeviceSpec} {evidence : Option ℕ × List ℕ} {history : List FleetEvent}
    {clock : ℕ} (tracks : Tracks spec evidence history clock) {event : FleetEvent}
    (keeps : spec.resets event = false) (idle : spec.qualifiesAt event = none) :
    Tracks spec evidence (history ++ [event]) clock := by
  constructor
  · rw [spec.counted_concat_of_idle history keeps idle]
    exact tracks.newest
  · intro now reached
    rw [DeviceSpec.countedRecently, spec.counted_concat_of_idle history keeps idle]
    exact tracks.recent now reached

/-- After a reset both sides are empty. -/
theorem reset (spec : DeviceSpec) (history : List FleetEvent) {event : FleetEvent}
    (resets : spec.resets event = true) (clock : ℕ) :
    Tracks spec (none, []) (history ++ [event]) clock := by
  constructor
  · simp [spec.counted_concat_of_resets history resets]
  · intro now _
    simp [DeviceSpec.countedRecently, spec.counted_concat_of_resets history resets,
      Eligibility.recent]

/-- What is inside the window later is inside it now. -/
private theorem recent_recent (samples : List ℕ) (policy : Policy) {earlier later : ℕ}
    (order : earlier ≤ later) :
    Eligibility.recent (Eligibility.recent samples policy earlier) policy later =
      Eligibility.recent samples policy later := by
  simp only [Eligibility.recent, List.filter_filter]
  apply List.filter_congr
  intro sample _
  simp only [← Bool.decide_and, decide_eq_decide, and_iff_left_iff_imp]
  omega

/-- Pruning at the clock does not show later. -/
theorem pruned {spec : DeviceSpec} {evidence : Option ℕ × List ℕ} {history : List FleetEvent}
    {clock : ℕ} (tracks : Tracks spec evidence history clock) :
    Tracks spec (evidence.1, Eligibility.recent evidence.2 spec.policy clock) history clock := by
  refine ⟨tracks.newest, ?_⟩
  intro now reached
  rw [recent_recent _ _ reached]
  exact tracks.recent now reached

/-- A counted advertisement extends both sides by the same sample. -/
theorem counts {spec : DeviceSpec} {evidence : Option ℕ × List ℕ} {history : List FleetEvent}
    {clock t : ℕ} (tracks : Tracks spec evidence history clock) {event : FleetEvent}
    (keeps : spec.resets event = false) (qualifies : spec.qualifiesAt event = some t)
    (clear : ¬ Crowds Policy.minSampleSpacingMs.toNat evidence.1 t) :
    Tracks spec (some t, evidence.2 ++ [t]) (history ++ [event]) clock := by
  have counted := spec.counted_concat_of_qualifies history keeps qualifies
  rw [← tracks.newest, if_neg clear] at counted
  constructor
  · simp [counted]
  · intro now reached
    have before := tracks.recent now reached
    simp only [Eligibility.recent, DeviceSpec.countedRecently] at before ⊢
    rw [counted, List.filter_append, List.filter_append, before]

/-- A crowded advertisement is counted by neither side. -/
theorem crowded {spec : DeviceSpec} {evidence : Option ℕ × List ℕ} {history : List FleetEvent}
    {clock t : ℕ} (tracks : Tracks spec evidence history clock) {event : FleetEvent}
    (keeps : spec.resets event = false) (qualifies : spec.qualifiesAt event = some t)
    (crowds : Crowds Policy.minSampleSpacingMs.toNat evidence.1 t) :
    Tracks spec evidence (history ++ [event]) clock := by
  have counted := spec.counted_concat_of_qualifies history keeps qualifies
  rw [← tracks.newest, if_pos crowds] at counted
  constructor
  · rw [counted]
    exact tracks.newest
  · intro now reached
    rw [DeviceSpec.countedRecently, counted]
    exact tracks.recent now reached

end Tracks

namespace Device

/-- One matched advertisement keeps the stored evidence in step with the specification. -/
private theorem tracks_matched {spec : DeviceSpec} {state : Eligibility}
    {history : List FleetEvent} {nowMs : UInt64} {advertisement : Advertisement}
    (tracks : Tracks spec state.evidence history nowMs.toNat)
    (matched : spec.identity.matches advertisement = true) :
    Tracks spec
      (state.observe nowMs advertisement.rssi (spec.profile.val.evaluate advertisement)
        spec.policy).evidence
      (history ++ [.observe nowMs advertisement]) nowMs.toNat := by
  cases reading : spec.profile.val.evaluate advertisement with
  | revoke =>
      rw [Eligibility.evidence_observe_revoke]
      exact .reset spec history (by simp [DeviceSpec.resets, matched, reading]) _
  | ignore =>
      rw [Eligibility.evidence_observe_ignore]
      exact tracks.idle (by simp [DeviceSpec.resets, reading])
        (by simp [DeviceSpec.qualifiesAt, reading])
  | qualify =>
      have keeps : spec.resets (.observe nowMs advertisement) = false := by
        simp [DeviceSpec.resets, reading]
      rw [Eligibility.evidence_observe_qualify]
      by_cases weak : advertisement.rssi < spec.policy.thresholdDbm
      · rw [if_pos (.inl weak)]
        exact tracks.pruned.idle keeps
          (by simp [DeviceSpec.qualifiesAt, matched, reading, Int16.not_le.mpr weak])
      · have qualifies :
            spec.qualifiesAt (.observe nowMs advertisement) = some nowMs.toNat := by
          simp [DeviceSpec.qualifiesAt, matched, reading, Int16.not_lt.mp weak]
        by_cases crowds :
            Crowds Policy.minSampleSpacingMs.toNat state.evidence.1 nowMs.toNat
        · rw [if_pos (.inr crowds)]
          exact tracks.pruned.crowded keeps qualifies crowds
        · rw [if_neg (not_or.mpr ⟨weak, crowds⟩)]
          exact tracks.pruned.counts keeps qualifies crowds

/-- Over any history in time order, the stored evidence follows the specification. -/
theorem tracks_run (spec : DeviceSpec) (history : List FleetEvent)
    (ordered : (FleetEvent.times history).Pairwise (· ≤ ·)) {clock : ℕ}
    (reached : ∀ t ∈ FleetEvent.times history, t ≤ clock) :
    Tracks spec (run step (new spec) history).eligibility.evidence history clock := by
  induction history using List.reverseRecOn generalizing clock with
  | nil => exact ⟨rfl, fun _ _ => rfl⟩
  | append_singleton history event induction =>
      have split : FleetEvent.times (history ++ [event]) =
          FleetEvent.times history ++ event.time?.toList := by
        cases event <;> simp [FleetEvent.times, FleetEvent.time?]
      rw [split] at ordered reached
      obtain ⟨earlier, _, after⟩ := List.pairwise_append.mp ordered
      rw [run_concat]
      cases event with
      | invalidate => exact .reset spec history rfl clock
      | observe nowMs advertisement =>
          have now_reached : nowMs.toNat ≤ clock := reached _ (by simp [FleetEvent.time?])
          have before : Tracks spec (run step (new spec) history).eligibility.evidence history
              nowMs.toNat :=
            induction earlier fun t member => after t member _ (by simp [FleetEvent.time?])
          refine Tracks.later ?_ now_reached
          rw [step, observe, spec_run]
          by_cases matched : spec.identity.matches advertisement = true
          · simpa [new, matched] using tracks_matched before matched
          · simp only [new, matched]
            exact before.idle (by simp [DeviceSpec.resets, matched])
              (by simp [DeviceSpec.qualifiesAt, matched])

/-- A device allows exactly when the history makes it present. -/
theorem check_run_eq_allow_iff (spec : DeviceSpec) (history : List FleetEvent) (nowMs : UInt64)
    (ordered : (FleetEvent.times history).Pairwise (· ≤ ·))
    (reached : ∀ t ∈ FleetEvent.times history, t ≤ nowMs.toNat) :
    (run step (new spec) history).check nowMs = .allow ↔ spec.Present history nowMs.toNat := by
  have tracks := tracks_run spec history ordered reached
  rw [check, spec_run, Eligibility.check_eq_allow_iff, Eligibility.withinWindow_eq]
  change (∃ last, _ ∧ _ ∧ spec.policy.minimumSamples.toNat ≤
    (Eligibility.recent _ spec.policy _).length) ↔ _
  rw [tracks.recent _ le_rfl, DeviceSpec.Present, ← tracks.newest]
  constructor
  · rintro ⟨last, newest, fresh, enough⟩
    refine ⟨⟨last.toNat, by simp [Eligibility.evidence, newest], ?_⟩, enough⟩
    simpa [UInt64.le_iff_toNat_le] using fresh
  · rintro ⟨⟨newest, stored, fresh⟩, enough⟩
    obtain ⟨last, newest_eq, rfl⟩ := Option.map_eq_some_iff.mp stored
    exact ⟨last, newest_eq, by simpa [UInt64.le_iff_toNat_le] using fresh, enough⟩

/-- A device that hears only what concerns it gives the same answer. -/
theorem check_run_filter_concerns (spec : DeviceSpec) (history : List FleetEvent) (nowMs : UInt64)
    (ordered : (FleetEvent.times history).Pairwise (· ≤ ·))
    (reached : ∀ t ∈ FleetEvent.times history, t ≤ nowMs.toNat) :
    (run step (new spec) (history.filter spec.concerns)).check nowMs = .allow ↔
      (run step (new spec) history).check nowMs = .allow := by
  have fewer : List.Sublist (FleetEvent.times (history.filter spec.concerns))
      (FleetEvent.times history) :=
    List.filter_sublist.filterMap _
  rw [check_run_eq_allow_iff spec history nowMs ordered reached,
    check_run_eq_allow_iff spec _ nowMs (ordered.sublist fewer) fun t member =>
      reached t (fewer.mem member),
    spec.present_filter_concerns]

end Device

namespace Fleet

/-- A fleet allows when enough of its devices do, each on its own. -/
theorem check_run_eq_allow_iff (specs : List DeviceSpec) (rule : MultiDeviceAuth)
    (history : List FleetEvent) (nowMs : UInt64) :
    (run step (new specs rule) history).check nowMs = .allow ↔
      specs ≠ [] ∧ rule.required specs.length ≤
        specs.countP fun spec =>
          (run Device.step (Device.new spec) history).check nowMs = .allow := by
  have same_rule : (run step (new specs rule) history).multiDeviceAuth = rule := by
    rw [run_eq]
    rfl
  rw [check_eq_allow_iff, devices_run_new, same_rule, List.length_map, List.countP_map]
  simp [Function.comp_def]

/-- The decision is a function of the history: a fleet allows exactly when enough of its devices
are present, and it would answer the same if each device heard only what concerns it. -/
theorem allows_iff_enough_present (specs : List DeviceSpec) (rule : MultiDeviceAuth)
    (history : List FleetEvent) (nowMs : UInt64)
    (ordered : (FleetEvent.times history).Pairwise (· ≤ ·))
    (reached : ∀ t ∈ FleetEvent.times history, t ≤ nowMs.toNat) :
    ((run step (new specs rule) history).check nowMs = .allow ↔
      specs ≠ [] ∧ rule.required specs.length ≤
        specs.countP fun spec => spec.Present history nowMs.toNat) ∧
    ((run step (new specs rule) history).check nowMs = .allow ↔
      specs ≠ [] ∧ rule.required specs.length ≤
        specs.countP fun spec =>
          (run Device.step (Device.new spec) (history.filter spec.concerns)).check nowMs =
            .allow) := by
  constructor
  · simp only [check_run_eq_allow_iff,
      Device.check_run_eq_allow_iff _ history nowMs ordered reached]
  · simp only [check_run_eq_allow_iff,
      Device.check_run_filter_concerns _ history nowMs ordered reached]

/-- A tag recognised by its address, under the default policy. -/
def addressTag (address : Address) : DeviceSpec where
  id := "tag".toList
  identity := ⟨none, some address, none, none⟩
  profile := Profile.presence
  policy := Policy.default

theorem allows_iff_enough_present_two_sightings :
    (run step (new [addressTag #v[1, 2, 3, 4, 5, 6]] .all)
      [.observe 1000 (.new #v[1, 2, 3, 4, 5, 6] (-50)),
        .observe 1400 (.new #v[9, 9, 9, 9, 9, 9] (-50)),
        .observe 1500 (.new #v[1, 2, 3, 4, 5, 6] (-50))]).check 2000 = .allow :=
  (allows_iff_enough_present _ _ _ 2000 (by decide) (by decide)).1.mpr (by decide)

end Fleet
end PresenceUnlock
