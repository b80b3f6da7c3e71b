import PresenceUnlock.Protocol.Config
import PresenceUnlock.Protocol.Evidence

/-!
# Feasible policies

The bound on `minimum_samples` is the capacity of the evidence: spacing and window together hold
at most so many samples, whatever the clock does, and a steady sender fills them.
-/

namespace PresenceUnlock

open RustStd Execution Thinning

namespace Policy

theorem toNat_maximumSamples (policy : Policy) :
    policy.maximumSamples.toNat =
      policy.sampleWindowMs.toNat / minSampleSpacingMs.toNat + 1 := by
  have bound := policy.sampleWindowMs.toNat_lt
  have quotient : (policy.sampleWindowMs / minSampleSpacingMs).toNat =
      policy.sampleWindowMs.toNat / minSampleSpacingMs.toNat := UInt64.toNat_div _ _
  have small : policy.sampleWindowMs.toNat / minSampleSpacingMs.toNat < 2 ^ 64 - 1 :=
    Nat.div_lt_of_lt_mul (bound.trans (by decide))
  rw [maximumSamples, UInt64.toNat_add, quotient]
  exact Nat.mod_eq_of_lt (Nat.add_lt_of_lt_sub small)

theorem feasible_iff (policy : Policy) :
    policy.Feasible ↔
      policy.minimumSamples.toNat ≤
        policy.sampleWindowMs.toNat / minSampleSpacingMs.toNat + 1 := by
  rw [Feasible, UInt64.le_iff_toNat_le, toNat_maximumSamples, UInt8.toNat_toUInt64]

end Policy

namespace Eligibility

/-- One call on the evidence of a device. -/
inductive Call
  | observe (nowMs : UInt64) (rssi : Int16) (observation : Observation)
  | invalidate

/-- What the evidence is after a call. -/
def step (policy : Policy) (state : Eligibility) : Call → Eligibility
  | .observe nowMs rssi observation => state.observe nowMs rssi observation policy
  | .invalidate => state.invalidate

/-- The stored samples are spaced and inside the window that ends at the newest counted one. -/
structure Compact (policy : Policy) (evidence : Option ℕ × List ℕ) : Prop where
  /-- They are spaced. -/
  spaced : Spaced Policy.minSampleSpacingMs.toNat evidence.2
  /-- They are inside the window. -/
  recent : ∀ sample ∈ evidence.2, ∃ newest ∈ evidence.1,
    sample ≤ newest ∧ newest - sample ≤ policy.sampleWindowMs.toNat

namespace Compact

variable {policy : Policy} {evidence : Option ℕ × List ℕ}

theorem empty (policy : Policy) : Compact policy (none, []) := ⟨.nil, by simp⟩

theorem pruned (compact : Compact policy evidence) (now : ℕ) :
    Compact policy (evidence.1, Eligibility.recent evidence.2 policy now) :=
  ⟨compact.spaced.filter _, fun sample member =>
    compact.recent sample (List.mem_of_mem_filter member)⟩

/-- A sample that is not crowded comes after everything stored, even when the clock has gone back
in between. -/
theorem counts (compact : Compact policy evidence) {now : ℕ}
    (clear : ¬ Crowds Policy.minSampleSpacingMs.toNat evidence.1 now) :
    Compact policy (some now, Eligibility.recent evidence.2 policy now ++ [now]) := by
  have after : ∀ sample ∈ evidence.2, sample + Policy.minSampleSpacingMs.toNat ≤ now := by
    intro sample member
    obtain ⟨newest, stored, order, _⟩ := compact.recent sample member
    have gap : ¬ now - newest < Policy.minSampleSpacingMs.toNat := fun crowded =>
      clear ⟨newest, stored, crowded⟩
    have positive : 0 < Policy.minSampleSpacingMs.toNat := by decide
    omega
  constructor
  · refine (compact.pruned now).spaced.concat ?_
    exact fun sample member => after sample (List.mem_of_mem_filter member)
  · intro sample member
    refine ⟨now, rfl, ?_⟩
    rcases List.mem_append.mp member with kept | new
    · have inside := List.of_mem_filter kept
      have order := after sample (List.mem_of_mem_filter kept)
      exact ⟨by omega, by simpa using inside⟩
    · rw [List.mem_singleton.mp new]
      simp

/-- The evidence never holds more samples than the window has room for. -/
theorem length_le (compact : Compact policy evidence) :
    evidence.2.length ≤
      policy.sampleWindowMs.toNat / Policy.minSampleSpacingMs.toNat + 1 := by
  cases newest : evidence.1 with
  | none =>
      have none_stored : evidence.2 = [] := by
        refine List.eq_nil_iff_forall_not_mem.mpr fun sample member => ?_
        obtain ⟨_, stored, _⟩ := compact.recent sample member
        simp [newest] at stored
      simp [none_stored]
  | some last =>
      have inside : ∀ sample ∈ evidence.2,
          sample ≤ last ∧ last - sample ≤ policy.sampleWindowMs.toNat := by
        intro sample member
        obtain ⟨other, stored, bounds⟩ := compact.recent sample member
        rw [newest, Option.mem_some_iff] at stored
        exact stored ▸ bounds
      exact length_le_of_spaced (by decide) compact.spaced
        (fun sample member => (inside sample member).1)
        (fun sample member => (inside sample member).2)

end Compact

theorem compact_step (policy : Policy) (state : Eligibility) (call : Call)
    (compact : Compact policy state.evidence) :
    Compact policy (state.step policy call).evidence := by
  cases call with
  | invalidate => exact Compact.empty policy
  | observe nowMs rssi observation =>
      rw [step]
      cases observation with
      | revoke =>
          rw [evidence_observe_revoke]
          exact Compact.empty policy
      | ignore =>
          rw [evidence_observe_ignore]
          exact compact
      | qualify =>
          rw [evidence_observe_qualify]
          split
          · exact compact.pruned nowMs.toNat
          · rename_i counted
            exact compact.counts (not_or.mp counted).2

/-- Whatever calls are made, in any order of timestamps, the evidence stays compact. -/
theorem compact_run (policy : Policy) (calls : List Call) :
    Compact policy (run (step policy) default calls).evidence := by
  have initially : Compact policy default.evidence := Compact.empty policy
  exact run_invariant (fun state : Eligibility => Compact policy state.evidence)
    (compact_step policy) initially calls

/-- What the sample store keeps to: its samples are spaced, none is newer than the last qualifying
one, the window has room for them, and without a qualifying one there are none. -/
structure StoreBounded (policy : Policy) (state : Eligibility) : Prop where
  /-- The samples are in order. -/
  increasing : state.qualifyingSamples.Pairwise fun earlier later => earlier < later
  /-- They are spaced. -/
  gaps : state.qualifyingSamples.IsChain fun earlier later =>
    Policy.minSampleSpacingMs ≤ later - earlier
  /-- None is later than the newest qualifying one. -/
  not_later : ∀ sample ∈ state.qualifyingSamples, ∃ last ∈ state.lastQualifyingMs, sample ≤ last
  /-- The window has room for them. -/
  capacity : state.qualifyingSamples.length ≤
    policy.sampleWindowMs.toNat / Policy.minSampleSpacingMs.toNat + 1
  /-- Without a qualifying one there are none. -/
  empty : state.lastQualifyingMs = none → state.qualifyingSamples = []

theorem storeBounded_of_compact {policy : Policy} {state : Eligibility}
    (compact : Compact policy state.evidence) : StoreBounded policy state := by
  have spaced : state.qualifyingSamples.Pairwise fun earlier later =>
      earlier.toNat + Policy.minSampleSpacingMs.toNat ≤ later.toNat :=
    List.pairwise_map.mp compact.spaced
  have positive : 0 < Policy.minSampleSpacingMs.toNat := by decide
  have not_later : ∀ sample ∈ state.qualifyingSamples,
      ∃ last ∈ state.lastQualifyingMs, sample ≤ last := by
    intro sample member
    obtain ⟨newest, stored, order, _⟩ := compact.recent _ (List.mem_map_of_mem member)
    obtain ⟨last, known, rfl⟩ := Option.mem_map.mp stored
    exact ⟨last, known, UInt64.le_iff_toNat_le.mpr order⟩
  refine ⟨spaced.imp fun gap => ?_, (spaced.imp fun gap => ?_).isChain, not_later, ?_, ?_⟩
  · rw [UInt64.lt_iff_toNat_lt]
    omega
  · rw [UInt64.le_iff_toNat_le, UInt64.toNat_sub_of_le _ _ (UInt64.le_iff_toNat_le.mpr (by omega))]
    omega
  · simpa [evidence] using compact.length_le
  · intro no_newest
    refine List.eq_nil_iff_forall_not_mem.mpr fun sample member => ?_
    obtain ⟨last, known, _⟩ := not_later sample member
    simp [no_newest] at known

/-- On any clock, and after every call, the sample store is bounded and well spaced. -/
theorem storeBounded_run (policy : Policy) (calls : List Call) :
    StoreBounded policy (run (step policy) default calls) :=
  storeBounded_of_compact (compact_run policy calls)

/-- Evidence that allows holds the samples the policy asks for, so the policy is feasible. -/
theorem feasible_of_check_run {policy : Policy} {calls : List Call} {nowMs : UInt64}
    (allows : (run (step policy) default calls).check nowMs policy = .allow) : policy.Feasible := by
  obtain ⟨_, _, _, enough⟩ := (check_eq_allow_iff _ nowMs policy).mp allows
  rw [withinWindow_eq] at enough
  rw [Policy.feasible_iff]
  exact enough.trans ((List.length_filter_le _ _).trans (compact_run policy calls).length_le)

end Eligibility

/-- As many advertisements as any policy can ask for, as close together as they are counted. -/
def steady (advertisement : Advertisement) : List FleetEvent :=
  (ticks Policy.minSampleSpacingMs.toNat 255).map fun t =>
    .observe (UInt64.ofNat t) advertisement

/-- The moment of the last of them. -/
def steadyEnd : UInt64 := 12700

private theorem toNat_ofNat_tick {t : ℕ}
    (member : t ∈ ticks Policy.minSampleSpacingMs.toNat 255) : (UInt64.ofNat t).toNat = t := by
  have bound : t ≤ 254 * Policy.minSampleSpacingMs.toNat := le_of_mem_ticks member
  exact UInt64.toNat_ofNat_of_lt' (lt_of_le_of_lt bound (by decide))

theorem times_steady (advertisement : Advertisement) :
    FleetEvent.times (steady advertisement) = ticks Policy.minSampleSpacingMs.toNat 255 := by
  rw [FleetEvent.times, steady, List.filterMap_map]
  refine (List.filterMap_congr fun t member => ?_).trans List.filterMap_some
  exact congrArg some (toNat_ofNat_tick member)

namespace DeviceSpec

theorem counted_steady {spec : DeviceSpec} {advertisement : Advertisement}
    (matched : spec.identity.matches advertisement = true)
    (qualifies : spec.profile.val.evaluate advertisement = .qualify)
    (strong : spec.policy.thresholdDbm ≤ advertisement.rssi) :
    spec.counted (steady advertisement) = ticks Policy.minSampleSpacingMs.toNat 255 := by
  have unbroken : (steady advertisement).rtakeWhile (fun event => !spec.resets event) =
      steady advertisement := by
    rw [List.rtakeWhile_eq_self_iff]
    intro event member
    obtain ⟨t, _, rfl⟩ := List.mem_map.mp member
    simp [resets, qualifies]
  have heard : (steady advertisement).filterMap spec.qualifiesAt =
      ticks Policy.minSampleSpacingMs.toNat 255 := by
    rw [steady, List.filterMap_map]
    refine (List.filterMap_congr fun t member => ?_).trans List.filterMap_some
    simp [qualifiesAt, matched, qualifies, strong, toNat_ofNat_tick member]
  rw [counted, unbroken, heard, thin_ticks]

/-- A feasible device is present after a steady sender it recognises. -/
theorem present_steady {spec : DeviceSpec} {advertisement : Advertisement}
    (matched : spec.identity.matches advertisement = true)
    (qualifies : spec.profile.val.evaluate advertisement = .qualify)
    (strong : spec.policy.thresholdDbm ≤ advertisement.rssi)
    (feasible : spec.policy.Feasible) : spec.Present (steady advertisement) steadyEnd.toNat := by
  have counted := counted_steady matched qualifies strong
  rw [Policy.feasible_iff] at feasible
  constructor
  · refine ⟨254 * Policy.minSampleSpacingMs.toNat, ?_, ?_⟩
    · rw [counted, getLast?_ticks_succ]
      rfl
    · have last : steadyEnd.toNat = 254 * Policy.minSampleSpacingMs.toNat := by decide
      simp [last]
  · rw [countedRecently, counted]
    have requested : spec.policy.minimumSamples.toNat ≤ 255 :=
      Nat.le_of_lt_succ spec.policy.minimumSamples.toNat_lt
    have room : spec.policy.minimumSamples.toNat - 1 ≤
        spec.policy.sampleWindowMs.toNat / Policy.minSampleSpacingMs.toNat :=
      Nat.sub_le_of_le_add feasible
    exact le_length_recent_ticks requested
      ((Nat.mul_le_mul_right _ room).trans (Nat.div_mul_le_self _ _))

end DeviceSpec

/-- The call a device passes on to its evidence. -/
def DeviceSpec.call? (spec : DeviceSpec) : FleetEvent → Option Eligibility.Call
  | .observe nowMs advertisement =>
      if spec.identity.matches advertisement then
        some (.observe nowMs advertisement.rssi (spec.profile.val.evaluate advertisement))
      else
        none
  | .invalidate => some .invalidate

/-- The evidence of a device is a run over the calls the device passes on. -/
theorem Device.eligibility_run (device : Device) (history : List FleetEvent) :
    (run Device.step device history).eligibility =
      run (Eligibility.step device.spec.policy) device.eligibility
        (history.filterMap device.spec.call?) := by
  induction history generalizing device with
  | nil => rfl
  | cons event history induction =>
      rw [run_cons, induction, List.filterMap_cons]
      cases event with
      | invalidate => simp [Device.step, DeviceSpec.call?, Device.invalidate, Eligibility.step]
      | observe nowMs advertisement =>
          by_cases matched : device.spec.identity.matches advertisement = true
          · simp [Device.step, Device.observe, DeviceSpec.call?, matched, Eligibility.step]
          · simp [Device.step, Device.observe, DeviceSpec.call?, matched]

namespace Eligibility

/-- A feasible policy is met by a steady sender of the strongest signal. -/
theorem check_run_of_feasible {policy : Policy} (range : policy.InRange)
    (feasible : policy.Feasible) :
    ∃ calls nowMs, Call.invalidate ∉ calls ∧
      (run (step policy) default calls).check nowMs policy = .allow := by
  let address : Address := #v[0, 0, 0, 0, 0, 0]
  let spec : DeviceSpec := ⟨[], ⟨none, some address, none, none⟩, Profile.presence, policy⟩
  let advertisement := Advertisement.new address Policy.maxThresholdDbm
  have matched : spec.identity.matches advertisement = true :=
    Identity.matches_of_verdict_match (by simp [Identity.verdict, Identity.isEmpty, spec,
      advertisement, Advertisement.new])
  have present := DeviceSpec.present_steady matched rfl range.threshold_max feasible
  refine ⟨(steady advertisement).filterMap spec.call?, steadyEnd, ?_, ?_⟩
  · intro member
    obtain ⟨event, heard, called⟩ := List.mem_filterMap.mp member
    obtain ⟨t, _, rfl⟩ := List.mem_map.mp heard
    simp [DeviceSpec.call?, matched] at called
  · have ordered : (FleetEvent.times (steady advertisement)).Pairwise (· ≤ ·) := by
      rw [times_steady]
      exact pairwise_ticks _ _
    have reached : ∀ t ∈ FleetEvent.times (steady advertisement), t ≤ steadyEnd.toNat := by
      rw [times_steady]
      exact fun t member => le_of_mem_ticks member
    have allows := (Device.check_run_eq_allow_iff spec _ steadyEnd ordered reached).mpr present
    rw [Device.check, Device.spec_run, Device.eligibility_run] at allows
    exact allows

/-- The bound of the configuration is exact: it accepts a policy that is in range if and only if
some observations meet it, and what it rejects is met by no calls at all, whatever the clock. -/
theorem validatePolicy_iff_attainable (entry : DeviceEntry) (policy : Policy)
    (range : policy.InRange) :
    (entry.validatePolicy policy = .ok () ↔
      ∃ calls nowMs, Call.invalidate ∉ calls ∧
        (run (step policy) default calls).check nowMs policy = .allow) ∧
    (entry.validatePolicy policy ≠ .ok () →
      ∀ calls nowMs, (run (step policy) default calls).check nowMs policy ≠ .allow) := by
  have accepts := entry.validatePolicy_eq_ok_iff policy
  refine ⟨⟨?_, ?_⟩, ?_⟩
  · intro accepted
    exact check_run_of_feasible range (accepts.mp accepted).2
  · rintro ⟨calls, nowMs, _, allows⟩
    exact accepts.mpr ⟨range, feasible_of_check_run allows⟩
  · intro rejected calls nowMs allows
    exact rejected (accepts.mpr ⟨range, feasible_of_check_run allows⟩)

/-- The default policy with another number of samples; its window has room for 61. -/
def requiring (samples : UInt8) : Policy := { Policy.default with minimumSamples := samples }

theorem validatePolicy_iff_attainable_at_the_edge :
    (∃ calls nowMs, Call.invalidate ∉ calls ∧
      (run (step (requiring 61)) default calls).check nowMs (requiring 61) = .allow) ∧
    ∀ calls nowMs,
      (run (step (requiring 62)) default calls).check nowMs (requiring 62) ≠ .allow := by
  let entry : DeviceEntry :=
    ⟨"watch".toList, Profile.presence.val.id, none, none, none, none, none, none, none, none⟩
  constructor
  · refine (validatePolicy_iff_attainable entry (requiring 61) ?_).1.mp rfl
    constructor <;> decide
  · refine (validatePolicy_iff_attainable entry (requiring 62) ?_).2 ?_
    · constructor <;> decide
    · intro accepted
      have feasible := ((entry.validatePolicy_eq_ok_iff _).mp accepted).2
      exact absurd feasible (by decide)

end Eligibility
end PresenceUnlock
