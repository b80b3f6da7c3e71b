import PresenceUnlock.Protocol.Presence

/-!
# The closest obstacle

A fleet that denies reports one reason.  The decision loop finds it in one pass over the devices;
the specification here names it by the set of the devices' own denials, whatever their order.
-/

namespace PresenceUnlock

open RustStd

namespace Decision

/-- The reasons a device gives, the closest to authorising first. -/
def obstacles : List Text :=
  [Wire.denyInsufficientSamples, Wire.denyStale, Wire.denyDeviceLocked, Wire.denyNoDevice]

theorem rank_of_obstacle :
    ∀ reason ∈ obstacles, (deny reason).rank = obstacles.idxOf reason + 1 := by decide

/-- Ranks keep the obstacles apart. -/
theorem obstacle_eq_of_rank_eq {reason other : Text} (known : reason ∈ obstacles)
    (same : (deny reason).rank = (deny other).rank) (known_other : other ∈ obstacles) :
    reason = other := by
  rw [rank_of_obstacle reason known, rank_of_obstacle other known_other] at same
  exact (List.idxOf_inj known).mp (Nat.succ.inj same)

theorem rank_le_of_obstacle {reason : Text} (known : reason ∈ obstacles) :
    (deny reason).rank ≤ (deny Wire.denyNoDevice).rank := by
  have index : obstacles.idxOf reason < obstacles.length := List.idxOf_lt_length_of_mem known
  rw [rank_of_obstacle reason known]
  exact index

end Decision

/-- A device gives no reason but the four obstacles. -/
theorem Eligibility.obstacle_of_check {state : Eligibility} {nowMs : UInt64} {policy : Policy}
    {reason : Text} (denies : state.check nowMs policy = .deny reason) :
    reason ∈ Decision.obstacles := by
  unfold check at denies
  cases newest : state.lastQualifyingMs with
  | none =>
      simp only [newest] at denies
      split at denies <;> cases denies <;>
        simp only [Decision.obstacles, List.mem_cons, true_or, or_true]
  | some last =>
      simp only [newest] at denies
      split at denies
      · cases denies
        simp only [Decision.obstacles, List.mem_cons, true_or, or_true]
      split at denies <;> cases denies
      simp only [Decision.obstacles, List.mem_cons, true_or]

theorem Device.obstacle_of_check {device : Device} {nowMs : UInt64} {reason : Text}
    (denies : device.check nowMs = .deny reason) : reason ∈ Decision.obstacles :=
  Eligibility.obstacle_of_check denies

namespace Fleet

namespace Tally

/-- What the loop knows of the decisions it has seen. -/
structure Covers (decisions : List Decision) (tally : Tally) : Prop where
  /-- Its rank is that of its denial. -/
  ranked : tally.closestRank = (Decision.deny tally.closestDeny).rank
  /-- No denial has a lower rank. -/
  least : ∀ reason, .deny reason ∈ decisions → tally.closestRank ≤ (Decision.deny reason).rank
  /-- The denial is one of those seen, or the one to begin with. -/
  given : tally.closestDeny = Wire.denyNoDevice ∨ .deny tally.closestDeny ∈ decisions

theorem Covers.add {decisions : List Decision} {tally : Tally} (covers : tally.Covers decisions)
    (decision : Decision) : (tally.add decision).Covers (decisions ++ [decision]) := by
  cases decision with
  | allow =>
      refine ⟨covers.ranked, fun reason member => ?_, ?_⟩
      · exact covers.least reason (by simpa using member)
      · exact covers.given.imp_right fun member => List.mem_append_left _ member
  | deny reason =>
      rw [Tally.add]
      split
      · rename_i closer
        refine ⟨rfl, fun other member => ?_, ?_⟩
        · rcases List.mem_append.mp member with seen | new
          · exact closer.le.trans (covers.least other seen)
          · simp only [List.mem_singleton] at new
            rw [new]
        · exact .inr (List.mem_append_right _ List.mem_cons_self)
      · rename_i farther
        refine ⟨covers.ranked, fun other member => ?_, ?_⟩
        · rcases List.mem_append.mp member with seen | new
          · exact covers.least other seen
          · simp only [List.mem_singleton] at new
            rw [new]
            exact Nat.not_lt.mp farther
        · exact covers.given.imp_right fun member => List.mem_append_left _ member

/-- The reason the loop keeps is determined by the set of decisions it has seen. -/
theorem Covers.closestDeny_eq {decisions others : List Decision} {tally other : Tally}
    (covers : tally.Covers decisions) (covers_other : other.Covers others)
    (same : ∀ decision, decision ∈ decisions ↔ decision ∈ others)
    (known : ∀ reason, .deny reason ∈ decisions → reason ∈ Decision.obstacles) :
    tally.closestDeny = other.closestDeny := by
  have below : ∀ {seen : List Decision} {kept : Tally}, kept.Covers seen →
      (∀ reason, .deny reason ∈ seen → reason ∈ Decision.obstacles) →
        kept.closestDeny ∈ Decision.obstacles := by
    intro seen kept covered known
    rcases covered.given with start | given
    · rw [start]
      decide
    · exact known _ given
  have known_other : ∀ reason, .deny reason ∈ others → reason ∈ Decision.obstacles :=
    fun reason member => known reason ((same _).mpr member)
  refine Decision.obstacle_eq_of_rank_eq (below covers known) ?_ (below covers_other known_other)
  apply le_antisymm
  · rcases covers_other.given with start | given
    · rw [start]
      exact Decision.rank_le_of_obstacle (below covers known)
    · exact covers.ranked ▸ covers.least _ ((same _).mpr given)
  · rcases covers.given with start | given
    · rw [start]
      exact Decision.rank_le_of_obstacle (below covers_other known_other)
    · exact covers_other.ranked ▸ covers_other.least _ ((same _).mp given)

end Tally

/-- What the devices decide on their own, in order. -/
def decisions (fleet : Fleet) (nowMs : UInt64) : List Decision :=
  fleet.devices.map fun device => device.check nowMs

theorem obstacle_of_mem_decisions {fleet : Fleet} {nowMs : UInt64} {reason : Text}
    (denied : .deny reason ∈ fleet.decisions nowMs) : reason ∈ Decision.obstacles := by
  obtain ⟨device, _, denies⟩ := List.mem_map.mp denied
  exact device.obstacle_of_check denies

private theorem covers_decisions {seen : List Decision} {start : Tally} (covers : start.Covers seen)
    (decisions : List Decision) :
    (decisions.foldl Tally.add start).Covers (seen ++ decisions) := by
  induction decisions generalizing seen start with
  | nil => simpa using covers
  | cons decision decisions induction =>
      rw [List.append_cons]
      exact induction (covers.add decision)

theorem covers_tally (fleet : Fleet) (nowMs : UInt64) :
    (fleet.tally nowMs).Covers (fleet.decisions nowMs) := by
  have initially : Tally.Covers []
      ⟨0, Wire.denyNoDevice, (Decision.deny Wire.denyNoDevice).rank⟩ :=
    ⟨rfl, by simp, .inl rfl⟩
  rw [tally, ← List.foldl_map]
  exact covers_decisions initially (fleet.decisions nowMs)

/-- The reason comes first among the devices' own denials. -/
def ClosestDenial (fleet : Fleet) (nowMs : UInt64) (reason : Text) : Prop :=
  .deny reason ∈ fleet.decisions nowMs ∧
    ∀ other, .deny other ∈ fleet.decisions nowMs →
      Decision.obstacles.idxOf reason ≤ Decision.obstacles.idxOf other

theorem ClosestDenial.unique {fleet : Fleet} {nowMs : UInt64} {reason other : Text}
    (closest : fleet.ClosestDenial nowMs reason) (closest_other : fleet.ClosestDenial nowMs other) :
    reason = other := by
  have known := obstacle_of_mem_decisions closest.1
  exact (List.idxOf_inj known).mp
    (le_antisymm (closest.2 other closest_other.1) (closest_other.2 reason closest.1))

/-- When every device denies, the loop ends with the closest denial. -/
theorem closestDenial_tally {fleet : Fleet} {nowMs : UInt64} (nonempty : fleet.devices ≠ [])
    (none_allowed : .allow ∉ fleet.decisions nowMs) :
    fleet.ClosestDenial nowMs (fleet.tally nowMs).closestDeny := by
  have covers := fleet.covers_tally nowMs
  have given : .deny (fleet.tally nowMs).closestDeny ∈ fleet.decisions nowMs := by
    refine covers.given.elim (fun start => ?_) id
    -- The loop still holds its first value, so every device is as far away as that.
    obtain ⟨device, member⟩ := List.exists_mem_of_ne_nil _ nonempty
    have decided : device.check nowMs ∈ fleet.decisions nowMs :=
      List.mem_map_of_mem member
    cases decision : device.check nowMs with
    | allow => exact absurd (decision ▸ decided) none_allowed
    | deny reason =>
        rw [decision] at decided
        have known := obstacle_of_mem_decisions decided
        have farthest := covers.least reason decided
        rw [covers.ranked, start] at farthest
        have same : reason = Wire.denyNoDevice :=
          Decision.obstacle_eq_of_rank_eq known
            (le_antisymm (Decision.rank_le_of_obstacle known) farthest) (by decide)
        rw [start, ← same]
        exact decided
  refine ⟨given, fun other denied => ?_⟩
  have order := covers.least other denied
  rw [covers.ranked, Decision.rank_of_obstacle _ (obstacle_of_mem_decisions given),
    Decision.rank_of_obstacle _ (obstacle_of_mem_decisions denied)] at order
  exact Nat.le_of_succ_le_succ order

theorem tally_allowed_pos_iff (fleet : Fleet) (nowMs : UInt64) :
    0 < (fleet.tally nowMs).allowed ↔ .allow ∈ fleet.decisions nowMs := by
  simp [tally_allowed, decisions, List.countP_pos_iff]

theorem required_pos (fleet : Fleet) (nonempty : fleet.devices ≠ []) :
    0 < fleet.multiDeviceAuth.required fleet.devices.length := by
  have devices := List.length_pos_iff.mpr nonempty
  cases fleet.multiDeviceAuth <;> simp [MultiDeviceAuth.required, devices]

/-- The decision of a fleet does not depend on the order of its devices. -/
theorem check_eq_of_perm (fleet : Fleet) {devices : List Device}
    (reordered : devices.Perm fleet.devices) (nowMs : UInt64) :
    { fleet with devices := devices }.check nowMs = fleet.check nowMs := by
  have allowed : ({ fleet with devices := devices }.tally nowMs).allowed =
      (fleet.tally nowMs).allowed := by
    rw [tally_allowed, tally_allowed, reordered.countP_eq]
  have closest : ({ fleet with devices := devices }.tally nowMs).closestDeny =
      (fleet.tally nowMs).closestDeny := by
    refine (covers_tally _ nowMs).closestDeny_eq (covers_tally fleet nowMs) ?_
      (fun _ => obstacle_of_mem_decisions)
    exact fun decision => (reordered.map fun device => device.check nowMs).mem_iff
  have empty : devices.isEmpty = fleet.devices.isEmpty := reordered.isEmpty_eq
  simp only [check, allowed, closest, empty, reordered.length_eq]

theorem check_of_none_allowed {fleet : Fleet} {nowMs : UInt64} (nonempty : fleet.devices ≠ [])
    (none_allowed : .allow ∉ fleet.decisions nowMs) :
    fleet.check nowMs = .deny (fleet.tally nowMs).closestDeny := by
  have few : (fleet.tally nowMs).allowed = 0 := by
    rwa [← tally_allowed_pos_iff, Nat.not_lt, Nat.le_zero] at none_allowed
  have required := fleet.required_pos nonempty
  simp only [check, List.isEmpty_iff, nonempty, if_false, few, ge_iff_le, Nat.not_le.mpr required,
    gt_iff_lt, lt_irrefl]

theorem check_of_some_allowed {fleet : Fleet} {nowMs : UInt64}
    (some_allowed : .allow ∈ fleet.decisions nowMs) (denies : fleet.check nowMs ≠ .allow) :
    fleet.check nowMs = .deny Wire.denyMultiDeviceAuth := by
  have nonempty : fleet.devices ≠ [] := by
    rintro none
    simp [decisions, none] at some_allowed
  have some_counted : (fleet.tally nowMs).allowed > 0 :=
    (fleet.tally_allowed_pos_iff nowMs).mpr some_allowed
  revert denies
  simp only [check, List.isEmpty_iff, nonempty, if_false, some_counted, if_true]
  split
  · exact fun denies => absurd rfl denies
  · exact fun _ => rfl

/-- The reason of a fleet's denial is order-free and names the closest obstacle. -/
theorem denial_names_closest_obstacle (fleet : Fleet) (nowMs : UInt64) :
    (∀ devices : List Device, devices.Perm fleet.devices →
      { fleet with devices := devices }.check nowMs = fleet.check nowMs) ∧
    (fleet.check nowMs ≠ .allow →
      (fleet.devices = [] → fleet.check nowMs = .deny Wire.denyNoDevice) ∧
      ((∃ device ∈ fleet.devices, device.check nowMs = .allow) →
        fleet.check nowMs = .deny Wire.denyMultiDeviceAuth) ∧
      (fleet.devices ≠ [] → (∀ device ∈ fleet.devices, device.check nowMs ≠ .allow) →
        ∃ reason, fleet.check nowMs = .deny reason ∧ fleet.ClosestDenial nowMs reason ∧
          ∀ other, fleet.ClosestDenial nowMs other → other = reason)) ∧
    (fleet.devices ≠ [] → (∀ row ∈ fleet.report nowMs, row.decision ≠ .allow) →
      ∃ row ∈ fleet.report nowMs, fleet.check nowMs = row.decision) := by
  have decided : ∀ decision, decision ∈ fleet.decisions nowMs ↔
      ∃ row ∈ fleet.report nowMs, decision = row.decision := by
    intro decision
    simp [decisions, report, eq_comm]
  refine ⟨fun devices reordered => fleet.check_eq_of_perm reordered nowMs, fun denies => ?_, ?_⟩
  · refine ⟨fun empty => by simp [check, empty], ?_, ?_⟩
    · rintro ⟨device, member, allows⟩
      exact check_of_some_allowed (List.mem_map.mpr ⟨device, member, allows⟩) denies
    · intro nonempty all_deny
      have none_allowed : .allow ∉ fleet.decisions nowMs := by
        simpa [decisions] using all_deny
      have closest := closestDenial_tally nonempty none_allowed
      exact ⟨_, check_of_none_allowed nonempty none_allowed, closest,
        fun other closest_other => closest_other.unique closest⟩
  · intro nonempty all_deny
    have none_allowed : .allow ∉ fleet.decisions nowMs := by
      intro allowed
      obtain ⟨row, member, allows⟩ := (decided .allow).mp allowed
      exact all_deny row member allows.symm
    rw [check_of_none_allowed nonempty none_allowed]
    exact (decided _).mp (closestDenial_tally nonempty none_allowed).1

end Fleet
end PresenceUnlock
