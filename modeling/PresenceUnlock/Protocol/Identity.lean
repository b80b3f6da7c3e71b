import PresenceUnlock.Protocol.Irk

/-!
# Recognising a configured device

An identity is a conjunction of optional criteria.  The scanner first asks for a verdict from the
address alone; a full match also checks the criteria that read advertisement payload.
-/

namespace PresenceUnlock

open RustStd

/-- Whether an address alone accepts or rejects an advertisement. -/
inductive Verdict
  | match
  | reject
  | undecided
  deriving DecidableEq, Repr

/-- The criteria that recognise one device; all that are set must hold. -/
structure Identity where
  /-- The key that resolves the address. -/
  irk : Option IrkMatcher
  /-- The address. -/
  address : Option Address
  /-- A service. -/
  serviceUuid : Option Uuid
  /-- How the name begins. -/
  namePrefix : Option Text

namespace Identity

/-- No criterion is set. -/
def isEmpty (identity : Identity) : Bool :=
  identity.irk.isNone && identity.address.isNone && identity.serviceUuid.isNone &&
    identity.namePrefix.isNone

/-- Advertisement fields this identity has to read. -/
def needs (identity : Identity) : Needs where
  manufacturerData := false
  serviceData := false
  serviceUuids := identity.serviceUuid.isSome
  name := identity.namePrefix.isSome

/-- Decide as much as the address allows. -/
def verdict (identity : Identity) (address : Address) : Verdict :=
  if identity.isEmpty then .reject
  else if identity.irk.any fun irk => !irk.matches address then .reject
  else if identity.address.any fun expected => expected ≠ address then .reject
  else if identity.serviceUuid.isSome || identity.namePrefix.isSome then .undecided
  else .match

/-- Full match; a payload criterion whose field was not fetched counts as unmet. -/
def «matches» (identity : Identity) (advertisement : Advertisement) : Bool :=
  match identity.verdict advertisement.address with
  | .reject => false
  | .match => true
  | .undecided =>
      if identity.serviceUuid.any fun uuid =>
          !(advertisement.serviceUuids.any fun uuids => uuid ∈ uuids) then
        false
      else if identity.namePrefix.any fun affix =>
          !(advertisement.name.any fun name => affix <+: name) then
        false
      else
        true

private theorem any_eq_true {α : Type*} (field : Option α) (meets : α → Bool) :
    field.any meets = true ↔ ∃ value, field = some value ∧ meets value = true := by
  cases field <;> simp

/-- A match is an address that is not rejected, and every payload criterion met by its field. -/
theorem matches_iff (identity : Identity) (advertisement : Advertisement) :
    identity.matches advertisement = true ↔
      identity.verdict advertisement.address ≠ .reject ∧
      (∀ uuid ∈ identity.serviceUuid, ∃ uuids ∈ advertisement.serviceUuids, uuid ∈ uuids) ∧
      ∀ affix ∈ identity.namePrefix, ∃ name ∈ advertisement.name, affix <+: name := by
  unfold «matches»
  cases decided : identity.verdict advertisement.address with
  | reject => simp
  | «match» =>
      have unset : identity.serviceUuid = none ∧ identity.namePrefix = none := by
        unfold verdict at decided
        split at decided
        · cases decided
        split at decided
        · cases decided
        split at decided
        · cases decided
        split at decided
        · cases decided
        rename_i undecided
        simpa using undecided
      simp [unset.1, unset.2]
  | undecided =>
      cases uuid : identity.serviceUuid <;> cases affix : identity.namePrefix <;>
        simp [any_eq_true]

theorem matches_of_verdict_match {identity : Identity} {advertisement : Advertisement}
    (decided : identity.verdict advertisement.address = .match) :
    identity.matches advertisement = true := by
  simp [«matches», decided]

theorem matches_of_verdict_reject {identity : Identity} {advertisement : Advertisement}
    (decided : identity.verdict advertisement.address = .reject) :
    identity.matches advertisement = false := by
  simp [«matches», decided]

/-- A match reads only the address and the declared fields. -/
theorem matches_congr {identity : Identity} {left right : Advertisement}
    (agrees : left.AgreesOn identity.needs right) :
    identity.matches left = identity.matches right := by
  have uuids : identity.serviceUuid.isSome → left.serviceUuids = right.serviceUuids :=
    agrees.serviceUuids
  have names : identity.namePrefix.isSome → left.name = right.name := agrees.name
  unfold «matches»
  rw [agrees.address]
  cases identity.verdict right.address with
  | reject => rfl
  | «match» => rfl
  | undecided =>
      cases uuid : identity.serviceUuid <;> cases affix : identity.namePrefix <;>
        simp_all

/-- A single resolving key, with no payload criterion, matches on the address alone. -/
theorem matches_of_irk_only {identity : Identity} {irk : IrkMatcher}
    (irk_set : identity.irk = some irk) (no_address : identity.address = none)
    (no_uuid : identity.serviceUuid = none) (no_name : identity.namePrefix = none)
    {advertisement : Advertisement} (resolves : irk.matches advertisement.address = true) :
    identity.matches advertisement = true := by
  apply matches_of_verdict_match
  simp [verdict, isEmpty, irk_set, no_address, no_uuid, no_name, resolves]

/-- Every criterion that is set holds of the advertisement. -/
structure Meets (identity : Identity) (advertisement : Advertisement) : Prop where
  /-- The key resolves the address. -/
  irk : ∀ irk ∈ identity.irk, irk.Resolves advertisement.address
  /-- The address is the one. -/
  address : ∀ address ∈ identity.address, advertisement.address = address
  /-- The service is among those advertised. -/
  serviceUuid : ∀ uuid ∈ identity.serviceUuid, ∃ uuids ∈ advertisement.serviceUuids, uuid ∈ uuids
  /-- The name begins with the prefix. -/
  namePrefix : ∀ affix ∈ identity.namePrefix, ∃ name ∈ advertisement.name, affix <+: name

/-- An address is rejected exactly when nothing is asked for or it breaks a criterion about it. -/
theorem verdict_ne_reject_iff (identity : Identity) (address : Address) :
    identity.verdict address ≠ .reject ↔
      identity.isEmpty = false ∧ (∀ irk ∈ identity.irk, irk.Resolves address) ∧
        ∀ expected ∈ identity.address, address = expected := by
  have irk_kept : (identity.irk.any fun irk => !irk.matches address) = false ↔
      ∀ irk ∈ identity.irk, irk.Resolves address := by
    cases identity.irk <;> simp [← IrkMatcher.matches_iff]
  have address_kept : (identity.address.any fun expected => expected ≠ address) = false ↔
      ∀ expected ∈ identity.address, address = expected := by
    cases identity.address with
    | none => simp
    | some expected => simpa using eq_comm
  rw [← irk_kept, ← address_kept]
  unfold verdict
  constructor
  · intro kept
    split at kept
    · exact absurd rfl kept
    rename_i nonempty
    split at kept
    · exact absurd rfl kept
    rename_i irk
    split at kept
    · exact absurd rfl kept
    rename_i address
    exact ⟨by simpa using nonempty, by simpa using irk, by simpa using address⟩
  · rintro ⟨nonempty, irk, address⟩
    rw [nonempty, irk, address]
    simp only [Bool.false_eq_true, if_false]
    split <;> decide

/-- An address that is not rejected is accepted at once when no criterion reads the payload. -/
theorem verdict_eq_match_iff (identity : Identity) (address : Address) :
    identity.verdict address = .match ↔
      identity.verdict address ≠ .reject ∧ identity.serviceUuid = none ∧
        identity.namePrefix = none := by
  unfold verdict
  split
  · simp
  split
  · simp
  split
  · simp
  split
  · rename_i payload
    rcases Bool.or_eq_true_iff.mp payload with uuid | affix
    · simp [Option.isSome_iff_ne_none.mp uuid]
    · simp [Option.isSome_iff_ne_none.mp affix]
  · rename_i bare
    simpa using bare

/-- An advertisement with the payload that the criteria ask for. -/
def completing (identity : Identity) (address : Address) : Advertisement where
  address := address
  rssi := 0
  name := identity.namePrefix
  manufacturerData := none
  serviceData := none
  serviceUuids := identity.serviceUuid.map fun uuid => {uuid}

/-- The advertisement that completes an address matches unless the address is rejected. -/
theorem matches_completing_iff (identity : Identity) (address : Address) :
    identity.matches (identity.completing address) = true ↔ identity.verdict address ≠ .reject := by
  rw [matches_iff]
  constructor
  · exact And.left
  · intro kept
    refine ⟨kept, ?_, ?_⟩
    · intro uuid set
      exact ⟨{uuid}, by simp [completing, Option.mem_def.mp set], by simp⟩
    · intro affix set
      exact ⟨affix, set, List.prefix_rfl⟩

/-- An advertisement without payload matches only when the address decides. -/
theorem matches_new_iff (identity : Identity) (address : Address) (rssi : Int16) :
    identity.matches (Advertisement.new address rssi) = true ↔
      identity.verdict address = .match := by
  rw [matches_iff, verdict_eq_match_iff]
  simp [Advertisement.new, Option.eq_none_iff_forall_not_mem]

theorem verdict_eq_reject_iff_forall (identity : Identity) (address : Address) :
    identity.verdict address = .reject ↔
      ∀ advertisement : Advertisement, advertisement.address = address →
        identity.matches advertisement = false := by
  constructor
  · rintro rejected advertisement rfl
    exact matches_of_verdict_reject rejected
  · intro unmatched
    by_contra kept
    have completed := (identity.matches_completing_iff address).mpr kept
    rw [unmatched _ rfl] at completed
    cases completed

theorem verdict_eq_match_iff_forall (identity : Identity) (address : Address) :
    identity.verdict address = .match ↔
      ∀ advertisement : Advertisement, advertisement.address = address →
        identity.matches advertisement = true := by
  constructor
  · rintro decided advertisement rfl
    exact matches_of_verdict_match decided
  · intro matched
    exact (identity.matches_new_iff address 0).mp (matched _ rfl)

/-- A match is a criterion that is set and every set criterion met. -/
theorem matches_iff_meets (identity : Identity) (advertisement : Advertisement) :
    identity.matches advertisement = true ↔
      identity.isEmpty = false ∧ identity.Meets advertisement := by
  rw [matches_iff, verdict_ne_reject_iff]
  constructor
  · rintro ⟨⟨nonempty, irk, address⟩, uuid, affix⟩
    exact ⟨nonempty, irk, address, uuid, affix⟩
  · rintro ⟨nonempty, irk, address, uuid, affix⟩
    exact ⟨⟨nonempty, irk, address⟩, uuid, affix⟩

/-- The verdict on an address is what all the advertisements with that address have in common, and
a match is the conjunction of the criteria that are set, of which there must be one. -/
theorem verdict_abstracts_matches (identity : Identity) :
    (∀ address : Address,
      (identity.verdict address = .reject ↔
        ∀ advertisement : Advertisement, advertisement.address = address →
          identity.matches advertisement = false) ∧
      (identity.verdict address = .match ↔
        ∀ advertisement : Advertisement, advertisement.address = address →
          identity.matches advertisement = true) ∧
      (identity.verdict address = .undecided ↔
        (∃ advertisement : Advertisement, advertisement.address = address ∧
          identity.matches advertisement = true) ∧
        ∃ advertisement : Advertisement, advertisement.address = address ∧
          identity.matches advertisement = false)) ∧
    ∀ advertisement : Advertisement, identity.matches advertisement = true ↔
      (identity.irk ≠ none ∨ identity.address ≠ none ∨ identity.serviceUuid ≠ none ∨
        identity.namePrefix ≠ none) ∧
      identity.Meets advertisement := by
  constructor
  · intro address
    have rejects := identity.verdict_eq_reject_iff_forall address
    have decides := identity.verdict_eq_match_iff_forall address
    refine ⟨rejects, decides, ?_⟩
    have undecided : identity.verdict address = .undecided ↔
        ¬ identity.verdict address = .reject ∧ ¬ identity.verdict address = .match := by
      cases identity.verdict address <;> decide
    rw [undecided, rejects, decides]
    simp only [not_forall, Bool.not_eq_false, Bool.not_eq_true, exists_prop]
  · intro advertisement
    rw [matches_iff_meets]
    have set : identity.isEmpty = false ↔ identity.irk ≠ none ∨ identity.address ≠ none ∨
        identity.serviceUuid ≠ none ∨ identity.namePrefix ≠ none := by
      simp only [isEmpty, Bool.and_eq_false_iff, Option.isNone_eq_false_iff, or_assoc,
        Option.isSome_iff_ne_none]
    rw [set]

end Identity
end PresenceUnlock
