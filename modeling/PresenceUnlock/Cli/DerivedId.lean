import Mathlib.Data.List.Chain
import PresenceUnlock.Cli.Enrollments
import PresenceUnlock.RustStd.Hex

/-!
# The shape of a derived id

An id is derived from a name by collapsing what is not alphanumeric to single dashes, and made
unique by a number.  What comes out can stand in a configuration file as it is.
-/

namespace PresenceUnlock.Cli

open RustStd

/-- The characters between the dashes of an id. -/
def isIdCharacter (c : Char) : Bool := c.isLower || c.isDigit

/-- Not two dashes in a row. -/
def Parted (c next : Char) : Prop := ¬ (c = '-' ∧ next = '-')

instance : DecidableRel Parted := fun c next =>
  inferInstanceAs (Decidable (¬ (c = '-' ∧ next = '-')))

/-- Lower-case letters and digits, in groups that single dashes separate. -/
structure WellFormedId (id : Text) : Prop where
  /-- It is not empty. -/
  nonempty : id ≠ []
  /-- It has lower-case letters, digits and dashes only. -/
  characters : ∀ c ∈ id, isIdCharacter c = true ∨ c = '-'
  /-- No two dashes stand together. -/
  single_dashes : id.IsChain Parted
  /-- It does not begin with one. -/
  no_leading_dash : id.head? ≠ some '-'
  /-- It does not end with one. -/
  no_trailing_dash : id.getLast? ≠ some '-'

theorem isIdCharacter_toLower {c : Char} (alphanumeric : c.isAlphanum = true) :
    isIdCharacter c.toLower = true := by
  have bound := (Text.bounds_of_isAlphanum alphanumeric).2
  have ascii : c.toNat < 128 := by omega
  exact Text.forall_ascii (fun c => c.isAlphanum = true → isIdCharacter c.toLower = true)
    (by decide) ascii alphanumeric

theorem ne_dash_of_isIdCharacter {c : Char} (solid : isIdCharacter c = true) : c ≠ '-' := by
  rintro rfl
  exact absurd solid (by decide)

/-- What the slug loop keeps to while it runs. -/
structure SlugInvariant (out : Text) : Prop where
  /-- There are lower-case letters, digits and dashes only. -/
  characters : ∀ c ∈ out, isIdCharacter c = true ∨ c = '-'
  /-- No two dashes stand together. -/
  single_dashes : out.IsChain Parted

theorem SlugInvariant.concat {out : Text} (invariant : SlugInvariant out) {c : Char}
    (known : isIdCharacter c = true ∨ c = '-') (parted : c = '-' → out.getLast? ≠ some '-') :
    SlugInvariant (out ++ [c]) := by
  constructor
  · intro other member
    rcases List.mem_append.mp member with old | new
    · exact invariant.characters other old
    · rwa [List.mem_singleton.mp new]
  · refine invariant.single_dashes.append (List.isChain_singleton c) ?_
    rintro last ends next starts ⟨rfl, rfl⟩
    simp only [List.head?_cons, Option.mem_some_iff] at starts
    exact parted starts ends

theorem SlugInvariant.step {out : Text} (invariant : SlugInvariant out) (character : Char) :
    SlugInvariant (slugStep out character) := by
  rw [slugStep]
  split
  · rename_i alphanumeric
    have solid := isIdCharacter_toLower alphanumeric
    exact invariant.concat (.inl solid) fun dash => (ne_dash_of_isIdCharacter solid dash).elim
  · split
    · exact invariant
    · rename_i no_dash
      refine invariant.concat (.inr rfl) fun _ ends => no_dash ?_
      exact List.singleton_suffix_iff_getLast?_eq_some.mpr ends

theorem slugInvariant_foldl (name : Text) : SlugInvariant (name.foldl slugStep []) :=
  Execution.run_invariant SlugInvariant (fun _ character invariant => invariant.step character)
    ⟨by simp, .nil⟩ name

/-- Trimming the dashes off both ends leaves a well-formed id, or nothing. -/
theorem wellFormedId_slug {name id : Text} (derived : slug name = some id) : WellFormedId id := by
  rw [slug] at derived
  split at derived
  · cases derived
  rename_i nonempty
  obtain rfl := Option.some.inj derived
  have invariant := slugInvariant_foldl name
  generalize name.foldl slugStep [] = out at invariant nonempty ⊢
  have front : out.dropWhile (· == '-') <:+ out := List.dropWhile_suffix _
  have back : (out.dropWhile (· == '-')).rdropWhile (· == '-') <+: out.dropWhile (· == '-') :=
    List.rdropWhile_prefix _ _
  refine ⟨nonempty, fun c member => ?_, ?_, ?_, ?_⟩
  · exact invariant.characters c (front.subset (back.subset member))
  · exact List.IsChain.prefix (invariant.single_dashes.suffix front) back
  · intro leads
    have leads' : (out.dropWhile (· == '-')).head? = some '-' :=
      List.singleton_prefix_iff_head?_eq_some.mp
        ((List.singleton_prefix_iff_head?_eq_some.mpr leads).trans back)
    have stop := List.head?_dropWhile_not (· == '-') out
    simp [leads'] at stop
  · rw [List.getLast?_eq_some_getLast nonempty]
    have stop := List.rdropWhile_last_not _ _ nonempty
    simpa using stop

theorem wellFormedId_fallbackId : WellFormedId fallbackId := by
  have characters : fallbackId.all (fun c => isIdCharacter c || c == '-') = true := by decide
  refine ⟨by decide, fun c member => ?_, by decide, by decide, by decide⟩
  simpa using List.all_eq_true.mp characters c member

/-- The base of a derived id: the name, the address, or a fixed word. -/
theorem wellFormedId_base (name address : Option Text) :
    WellFormedId (((name.bind slug).or (address.bind slug)).getD fallbackId) := by
  cases derived : (name.bind slug).or (address.bind slug) with
  | none => exact wellFormedId_fallbackId
  | some id =>
      rcases Option.or_eq_some_iff.mp derived with named | ⟨_, addressed⟩
      · obtain ⟨_, _, slugged⟩ := Option.bind_eq_some_iff.mp named
        exact wellFormedId_slug slugged
      · obtain ⟨_, _, slugged⟩ := Option.bind_eq_some_iff.mp addressed
        exact wellFormedId_slug slugged

theorem isChain_of_solid {text : Text} (solid : ∀ c ∈ text, isIdCharacter c = true) :
    text.IsChain Parted := by
  refine (List.pairwise_of_forall_mem_list ?_).isChain
  rintro c member next _ ⟨dash, _⟩
  exact ne_dash_of_isIdCharacter (solid c member) dash

/-- A number after a dash keeps an id well-formed. -/
theorem WellFormedId.suffixed {base : Text} (wellFormed : WellFormedId base) (suffix : ℕ) :
    WellFormedId (base ++ '-' :: Text.ofNat suffix) := by
  have solid : ∀ c ∈ Text.ofNat suffix, isIdCharacter c = true := by
    intro c member
    simp [isIdCharacter, Text.isDigit_of_mem_ofNat member]
  have nonempty := Text.ofNat_ne_nil suffix
  refine ⟨by simp [wellFormed.nonempty], ?_, ?_, ?_, ?_⟩
  · intro c member
    rcases List.mem_append.mp member with old | new
    · exact wellFormed.characters c old
    · rcases List.mem_cons.mp new with dash | digit
      · exact .inr dash
      · exact .inl (solid c digit)
  · refine wellFormed.single_dashes.append ((isChain_of_solid solid).cons ?_) ?_
    · rintro digit leads ⟨_, rfl⟩
      exact ne_dash_of_isIdCharacter (solid '-' (List.mem_of_head? leads)) rfl
    · rintro last ends _ _ ⟨rfl, _⟩
      exact wellFormed.no_trailing_dash ends
  · rw [List.head?_append_of_ne_nil _ wellFormed.nonempty]
    exact wellFormed.no_leading_dash
  · rw [List.getLast?_append_of_ne_nil _ (List.cons_ne_nil _ _), List.getLast?_cons,
      List.getLast?_eq_some_getLast nonempty]
    intro ends
    have dash := Option.some.inj ends
    have last := solid _ (List.getLast_mem nonempty)
    simp only [Option.getD_some] at dash
    exact ne_dash_of_isIdCharacter last dash

/-- An entry holds this address, in whatever case. -/
def HasAddress (address : Text) (entry : DeviceEntry) : Prop :=
  ∃ known, entry.address = some known ∧ known.eqIgnoreAsciiCase address = true

theorem hasAddress_iff {address : Text} {entry : DeviceEntry} :
    (entry.address.any fun known => known.eqIgnoreAsciiCase address) = true ↔
      HasAddress address entry := Option.any_eq_true _ _

theorem wellFormedId_of_mem_suffixedIds {base candidate : Text} {taken : List Text}
    (wellFormed : WellFormedId base) (member : candidate ∈ suffixedIds base taken) :
    WellFormedId candidate := by
  obtain ⟨suffix, _, rfl⟩ := List.mem_map.mp member
  exact wellFormed.suffixed suffix

/-- Without a known address the base is used as it is, or the first free candidate after it. -/
theorem deriveId_of_unknown {entries : List DeviceEntry} {name address : Option Text}
    (unknown : ∀ given ∈ address, ∀ entry ∈ entries, ¬ HasAddress given entry) :
    deriveId entries name address ∉ entries.map DeviceEntry.id ∧
      WellFormedId (deriveId entries name address) := by
  have no_entry : (address.bind fun address => entries.find? fun entry =>
      entry.address.any fun known => known.eqIgnoreAsciiCase address) = none := by
    cases address with
    | none => rfl
    | some given =>
        refine List.find?_eq_none.mpr fun entry member holds => ?_
        exact unknown given rfl entry member (hasAddress_iff.mp holds)
  have wellFormed := wellFormedId_base name address
  rw [deriveId]
  simp only [no_entry]
  generalize ((name.bind slug).or (address.bind slug)).getD fallbackId = base at wellFormed ⊢
  split
  · rename_i free
    exact ⟨free, wellFormed⟩
  · obtain ⟨candidate, found⟩ := find?_suffixedIds base (entries.map DeviceEntry.id)
    rw [suffixedIds] at found
    rw [found, Option.getD_some]
    have free := List.find?_some found
    exact ⟨of_decide_eq_true free,
      wellFormedId_of_mem_suffixedIds wellFormed (List.mem_of_find?_eq_some found)⟩

theorem deriveId_of_known {entries before after : List DeviceEntry} {entry : DeviceEntry}
    (name : Option Text) {given : Text} (split : entries = before ++ entry :: after)
    (holds : HasAddress given entry) (first : ∀ earlier ∈ before, ¬ HasAddress given earlier) :
    deriveId entries name (some given) = entry.id := by
  have found : (entries.find? fun entry =>
      entry.address.any fun known => known.eqIgnoreAsciiCase given) = some entry := by
    refine List.find?_eq_some_iff_append.mpr
      ⟨hasAddress_iff.mpr holds, before, after, split, fun earlier member => ?_⟩
    rw [Bool.not_eq_true', ← Bool.not_eq_true, hasAddress_iff]
    exact first earlier member
  rw [deriveId, Option.bind_some, found]

/-- A derived id is the one of the first entry with the given address, or it is well-formed and
new; the fallback to a taken base is never reached. -/
theorem deriveId_known_or_fresh (entries : List DeviceEntry) (name address : Option Text) :
    ((∃ given before entry after, address = some given ∧ entries = before ++ entry :: after ∧
        HasAddress given entry ∧ (∀ earlier ∈ before, ¬ HasAddress given earlier) ∧
        deriveId entries name address = entry.id) ∨
      (∀ given ∈ address, ∀ entry ∈ entries, ¬ HasAddress given entry) ∧
        deriveId entries name address ∉ entries.map DeviceEntry.id ∧
        WellFormedId (deriveId entries name address)) ∧
    ∀ base, ∃ candidate,
      ((List.range' 2 ((entries.map DeviceEntry.id).length + 1)).map fun suffix =>
        base ++ '-' :: Text.ofNat suffix).find?
          (fun candidate => candidate ∉ entries.map DeviceEntry.id) = some candidate := by
  refine ⟨?_, fun base => find?_suffixedIds base (entries.map DeviceEntry.id)⟩
  by_cases unknown : ∀ given ∈ address, ∀ entry ∈ entries, ¬ HasAddress given entry
  · exact .inr ⟨unknown, deriveId_of_unknown unknown⟩
  · left
    push Not at unknown
    obtain ⟨given, rfl, entry, member, holds⟩ := unknown
    -- Of the entries with the address, the one that stands first decides.
    cases found : entries.find? fun entry =>
        entry.address.any fun known => known.eqIgnoreAsciiCase given with
    | none =>
        exact absurd (hasAddress_iff.mpr holds) (List.find?_eq_none.mp found entry member)
    | some first =>
        obtain ⟨holds, before, after, split, apart⟩ := List.find?_eq_some_iff_append.mp found
        have earlier : ∀ earlier ∈ before, ¬ HasAddress given earlier := by
          intro other member holds
          have missed := apart other member
          rw [hasAddress_iff.mpr holds] at missed
          cases missed
        exact ⟨given, before, first, after, rfl, split, hasAddress_iff.mp holds, earlier,
          deriveId_of_known name split (hasAddress_iff.mp holds) earlier⟩

end PresenceUnlock.Cli
