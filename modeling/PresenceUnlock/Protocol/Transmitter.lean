import PresenceUnlock.Protocol.Feasibility

/-!
# One transmitter and many identities

Which configured identities a single transmitter can satisfy at once, and what that means for a
rule that asks for several devices.
-/

namespace PresenceUnlock

open RustStd Execution Thinning

/-- What every advertisement of one physical transmitter has in common. -/
structure Transmitter where
  /-- The address. -/
  address : Address
  /-- The name. -/
  name : Option Text
  /-- The services. -/
  serviceUuids : Option (Finset Uuid)

namespace Transmitter

/-- An advertisement of this transmitter, with any signal strength and any payload. -/
structure Sends (transmitter : Transmitter) (advertisement : Advertisement) : Prop where
  /-- It has the address. -/
  address : advertisement.address = transmitter.address
  /-- It has the name. -/
  name : advertisement.name = transmitter.name
  /-- It has the services. -/
  serviceUuids : advertisement.serviceUuids = transmitter.serviceUuids

/-- Every advertisement of a history comes from this transmitter. -/
def SendsAll (transmitter : Transmitter) (history : List FleetEvent) : Prop :=
  ∀ nowMs advertisement, .observe nowMs advertisement ∈ history → transmitter.Sends advertisement

/-- The strongest advertisement of a transmitter, carrying the frame of an unlocked watch. -/
def strongest (transmitter : Transmitter) : Advertisement where
  address := transmitter.address
  rssi := Policy.maxThresholdDbm
  name := transmitter.name
  manufacturerData := some Profile.unlockedFrame
  serviceData := none
  serviceUuids := transmitter.serviceUuids

theorem sends_strongest (transmitter : Transmitter) : transmitter.Sends transmitter.strongest :=
  ⟨rfl, rfl, rfl⟩

/-- Whether an identity recognises the transmitter. -/
def satisfies (transmitter : Transmitter) (identity : Identity) : Bool :=
  identity.matches transmitter.strongest

theorem matches_of_sends {transmitter : Transmitter} {advertisement : Advertisement}
    (sends : transmitter.Sends advertisement) (identity : Identity) :
    identity.matches advertisement = transmitter.satisfies identity := by
  rw [Bool.eq_iff_iff, satisfies, Identity.matches_iff, Identity.matches_iff, sends.address,
    sends.name, sends.serviceUuids]
  rfl

end Transmitter

/-- Prefixes of one name: of any two, one begins with the other. -/
def Comparable (left right : Identity) : Prop :=
  ∀ first ∈ left.namePrefix, ∀ second ∈ right.namePrefix, first <+: second ∨ second <+: first

/-- Identities whose address criteria hold of one address and whose name prefixes are comparable. -/
structure Overlap (identities : List Identity) : Prop where
  /-- One address meets every address criterion. -/
  address : ∃ address, ∀ identity ∈ identities, identity.verdict address ≠ .reject
  /-- Of any two name prefixes, one begins with the other. -/
  names : identities.Pairwise Comparable

/-- Comparable prefixes are all prefixes of the longest of them. -/
theorem exists_common_name {identities : List Identity} (names : identities.Pairwise Comparable) :
    ∃ name : Text, ∀ identity ∈ identities, ∀ affix ∈ identity.namePrefix, affix <+: name := by
  induction identities with
  | nil => exact ⟨[], by simp⟩
  | cons identity identities induction =>
      obtain ⟨comparable, names⟩ := List.pairwise_cons.mp names
      obtain ⟨name, common⟩ := induction names
      cases given : identity.namePrefix with
      | none => exact ⟨name, List.forall_mem_cons.mpr ⟨by simp [given], common⟩⟩
      | some affix =>
          by_cases extended : ∃ other ∈ identities, ∃ longer ∈ other.namePrefix, affix <+: longer
          · obtain ⟨other, member, longer, other_prefix, begins⟩ := extended
            have whole := begins.trans (common other member longer other_prefix)
            refine ⟨name, List.forall_mem_cons.mpr ⟨?_, common⟩⟩
            simpa [given] using whole
          · refine ⟨affix, List.forall_mem_cons.mpr ⟨by simp [given], ?_⟩⟩
            intro other member shorter other_prefix
            refine (comparable other member affix given shorter other_prefix).resolve_left ?_
            exact fun begins => extended ⟨other, member, shorter, other_prefix, begins⟩

/-- Some transmitter satisfies all of these identities exactly when they overlap. -/
theorem exists_satisfies_iff (identities : List Identity) :
    (∃ transmitter : Transmitter, ∀ identity ∈ identities, transmitter.satisfies identity = true) ↔
      Overlap identities := by
  constructor
  · rintro ⟨transmitter, satisfied⟩
    have facts := fun (identity : Identity) member =>
      (identity.matches_iff transmitter.strongest).mp (satisfied identity member)
    refine ⟨⟨transmitter.address, fun identity member => (facts identity member).1⟩, ?_⟩
    refine List.pairwise_of_forall_mem_list fun left left_member right right_member => ?_
    intro first first_given second second_given
    obtain ⟨name, known, begins⟩ := (facts left left_member).2.2 first first_given
    obtain ⟨name', known', begins'⟩ := (facts right right_member).2.2 second second_given
    obtain rfl : name = name' := Option.mem_unique known known'
    exact List.prefix_or_prefix_of_prefix begins begins'
  · rintro ⟨⟨address, accepted⟩, names⟩
    obtain ⟨name, common⟩ := exists_common_name names
    let uuids : Finset Uuid := (identities.filterMap Identity.serviceUuid).toFinset
    refine ⟨⟨address, some name, some uuids⟩, fun identity member => ?_⟩
    refine (identity.matches_iff _).mpr ⟨accepted identity member, ?_, ?_⟩
    · intro uuid given
      refine ⟨uuids, rfl, List.mem_toFinset.mpr ?_⟩
      exact List.mem_filterMap.mpr ⟨identity, member, given⟩
    · intro affix given
      exact ⟨name, rfl, common identity member affix given⟩

/-- A device that the transmitter does not satisfy learns nothing from it. -/
theorem Device.run_of_not_satisfied {transmitter : Transmitter} {spec : DeviceSpec}
    (unknown : transmitter.satisfies spec.identity = false) {history : List FleetEvent}
    (single : transmitter.SendsAll history) : run step (new spec) history = new spec := by
  refine run_invariant_of_permitted (fun device : Device => device = new spec)
    (fun event => ∀ nowMs advertisement, event = .observe nowMs advertisement →
      transmitter.Sends advertisement) ?_ rfl ?_
  · rintro device event rfl sent
    cases event with
    | invalidate => rfl
    | observe nowMs advertisement =>
        have unmatched := (transmitter.matches_of_sends (sent nowMs advertisement rfl)
          spec.identity).trans unknown
        simp [step, observe, unmatched]
  · rintro event member nowMs advertisement rfl
    exact single nowMs advertisement member

theorem Device.check_new_ne_allow (spec : DeviceSpec) (nowMs : UInt64) :
    (new spec).check nowMs ≠ .allow := by
  simp [check, new, Eligibility.check, Eligibility.default]

namespace Fleet

/-- Only devices that the transmitter satisfies can count towards a decision. -/
theorem satisfied_of_check_run {transmitter : Transmitter} {specs : List DeviceSpec}
    {rule : MultiDeviceAuth} {history : List FleetEvent} {nowMs : UInt64}
    (single : transmitter.SendsAll history)
    (allows : (run step (new specs rule) history).check nowMs = .allow) :
    rule.required specs.length ≤
      ((specs.map DeviceSpec.identity).filter transmitter.satisfies).length := by
  obtain ⟨_, enough⟩ := (check_run_eq_allow_iff specs rule history nowMs).mp allows
  refine enough.trans ?_
  rw [← List.countP_eq_length_filter, List.countP_map]
  refine List.countP_mono_left fun spec _ counted => ?_
  by_contra unknown
  rw [Function.comp_apply, Bool.not_eq_true] at unknown
  rw [Device.run_of_not_satisfied unknown single] at counted
  exact Device.check_new_ne_allow spec nowMs (by simpa using counted)

/-- A steady transmitter makes every feasible device present that it satisfies. -/
theorem check_run_steady {transmitter : Transmitter} {specs : List DeviceSpec}
    {rule : MultiDeviceAuth} (nonempty : specs ≠ [])
    (strong : ∀ spec ∈ specs, spec.policy.thresholdDbm ≤ Policy.maxThresholdDbm)
    (feasible : ∀ spec ∈ specs, spec.policy.Feasible)
    (enough : rule.required specs.length ≤
      ((specs.map DeviceSpec.identity).filter transmitter.satisfies).length) :
    (run step (new specs rule) (steady transmitter.strongest)).check steadyEnd = .allow := by
  refine (check_run_eq_allow_iff specs rule _ steadyEnd).mpr ⟨nonempty, enough.trans ?_⟩
  rw [← List.countP_eq_length_filter, List.countP_map]
  refine List.countP_mono_left fun spec member satisfied => ?_
  have present := DeviceSpec.present_steady satisfied
    (Profile.evaluate_unlockedFrame spec.profile rfl) (strong spec member) (feasible spec member)
  have allows := (Device.check_run_eq_allow_iff spec _ steadyEnd ?_ ?_).mpr present
  · simpa using allows
  · rw [times_steady]
    exact pairwise_ticks _ _
  · rw [times_steady]
    exact fun t known => le_of_mem_ticks known

end Fleet

namespace ConfigFile

variable {crates : Crates} {config : ConfigFile} {settings : Settings}

/-- One transmitter never meets the rule of an accepted configuration exactly when no group of
entries as large as the rule requires has overlapping identities. -/
theorem single_transmitter_denied_iff (accepted : config.resolve crates = .ok settings) :
    (∀ transmitter history nowMs, Transmitter.SendsAll transmitter history →
      (run Fleet.step (Fleet.new settings.devices settings.multiDeviceAuth) history).check nowMs ≠
        .allow) ↔
    ∀ group : List Identity,
      List.Sublist group (config.devices.map (DeviceEntry.lowered crates)) → Overlap group →
        group.length < settings.multiDeviceAuth.required config.devices.length := by
  have count : settings.devices.length = config.devices.length := by
    simpa using congrArg List.length (identities_of_resolve accepted)
  rw [← count, ← identities_of_resolve accepted]
  constructor
  · intro denied group chosen overlap
    obtain ⟨transmitter, satisfied⟩ := (exists_satisfies_iff group).mpr overlap
    by_contra large
    have kept : group.filter transmitter.satisfies = group := List.filter_eq_self.mpr satisfied
    have enough : settings.multiDeviceAuth.required settings.devices.length ≤
        ((settings.devices.map DeviceSpec.identity).filter transmitter.satisfies).length := by
      have found := (chosen.filter transmitter.satisfies).length_le
      rw [kept] at found
      exact (Nat.not_lt.mp large).trans found
    refine denied transmitter (steady transmitter.strongest) steadyEnd ?_
      (Fleet.check_run_steady (devices_ne_of_resolve accepted)
        (fun spec member => (policy_of_resolve accepted member).1.threshold_max)
        (fun spec member => (policy_of_resolve accepted member).2) enough)
    intro nowMs advertisement member
    obtain ⟨t, _, sent⟩ := List.mem_map.mp member
    cases sent
    exact transmitter.sends_strongest
  · intro apart transmitter history nowMs single allows
    have enough := Fleet.satisfied_of_check_run single allows
    refine absurd enough (Nat.not_le.mpr (apart _ List.filter_sublist ?_))
    refine (exists_satisfies_iff _).mp ⟨transmitter, fun identity member => ?_⟩
    exact List.of_mem_filter member

/-- A file that requires all of its devices. -/
def requiringAll (devices : List DeviceEntry) : ConfigFile :=
  ⟨currentSchema, none, some "all".toList, devices⟩

theorem single_transmitter_denied_iff_two_names :
    ∃ settings, (requiringAll [plainEntry "phone".toList "Pixel".toList,
        plainEntry "watch".toList "Galaxy".toList]).resolve plainCrates = .ok settings ∧
      ∀ transmitter history nowMs, Transmitter.SendsAll transmitter history →
        (run Fleet.step (Fleet.new settings.devices settings.multiDeviceAuth) history).check nowMs ≠
          .allow := by
  have accepted : (requiringAll [plainEntry "phone".toList "Pixel".toList,
      plainEntry "watch".toList "Galaxy".toList]).resolve plainCrates = .ok _ := rfl
  refine ⟨_, accepted, (single_transmitter_denied_iff accepted).mpr ?_⟩
  intro group chosen overlap
  by_contra large
  have whole := chosen.eq_of_length_le (Nat.not_lt.mp large)
  have names := overlap.names
  rw [whole] at names
  have comparable := (List.pairwise_cons.mp names).1 _ List.mem_cons_self _ rfl _ rfl
  exact absurd comparable (by decide)

/-- Two entries whose name prefixes extend one another are accepted under `all`, and one
transmitter then answers for both. -/
theorem single_transmitter_allowed :
    ¬ ∀ (crates : Crates) (config : ConfigFile) (settings : Settings),
      config.resolve crates = .ok settings →
      2 ≤ settings.multiDeviceAuth.required settings.devices.length →
      ∀ transmitter history nowMs, Transmitter.SendsAll transmitter history →
        (run Fleet.step (Fleet.new settings.devices settings.multiDeviceAuth) history).check nowMs ≠
          .allow := by
  intro claim
  have denied := claim plainCrates
    (requiringAll [plainEntry "phone".toList "Pixel".toList,
      plainEntry "tablet".toList "Pixel 8".toList]) _ rfl (by decide)
    ⟨#v[1, 2, 3, 4, 5, 6], some "Pixel 8 Pro".toList, none⟩
    [.observe 1000 ⟨#v[1, 2, 3, 4, 5, 6], -50, some "Pixel 8 Pro".toList, none, none, none⟩,
      .observe 1500 ⟨#v[1, 2, 3, 4, 5, 6], -50, some "Pixel 8 Pro".toList, none, none, none⟩] 2000
  refine denied ?_ (by decide)
  intro nowMs advertisement member
  simp only [List.mem_cons, List.not_mem_nil, or_false, FleetEvent.observe.injEq] at member
  rcases member with ⟨_, rfl⟩ | ⟨_, rfl⟩ <;> exact ⟨rfl, rfl, rfl⟩

end ConfigFile
end PresenceUnlock
