import Mathlib.Data.List.Infix
import PresenceUnlock.RustStd.Search

/-!
# Counting occurrences

`str::matches` counts occurrences that do not overlap.  What a count says about the parts of a
joined text, and when an edit of one word leaves the count of another unchanged.
-/

namespace RustStd.Text

/-- `str::matches` and its count. -/
def count (needle text : Text) : Nat := (matchIndices needle text).length

/-- `str::replacen` with a count of one. -/
def replaceFirst (needle replacement text : Text) : Text :=
  match find needle text with
  | some position => text.replaceRange position (position + needle.length) replacement
  | none => text

private theorem length_matchIndicesFrom (needle text : Text) (skip first second : Nat) :
    (matchIndicesFrom needle skip first text).length =
      (matchIndicesFrom needle skip second text).length := by
  induction text generalizing skip first second with
  | nil => rfl
  | cons c rest induction =>
      rw [matchIndicesFrom.eq_def, matchIndicesFrom.eq_def]
      cases skip with
      | succ skip => exact induction skip _ _
      | zero =>
          dsimp only
          split
          · rw [List.length_cons, List.length_cons, induction]
          · exact induction 0 _ _

theorem Straddles.cons {α : Type*} {needle before after : List α} {c : α}
    (straddles : Straddles needle before after) : Straddles needle (c :: before) after := by
  obtain ⟨front, back, front_ne, back_ne, split, ends, begins⟩ := straddles
  exact ⟨front, back, front_ne, back_ne, split, ends.trans (List.suffix_cons c before), begins⟩

private theorem length_matchIndicesFrom_append {needle before after : Text}
    (apart : ¬ Straddles needle before after) (skip position : Nat)
    (inside : skip ≤ before.length) :
    (matchIndicesFrom needle skip position (before ++ after)).length =
      (matchIndicesFrom needle skip position before).length + count needle after := by
  induction before generalizing skip position with
  | nil =>
      obtain rfl : skip = 0 := Nat.le_zero.mp inside
      rw [List.nil_append, matchIndicesFrom, List.length_nil, Nat.zero_add, count, matchIndices,
        length_matchIndicesFrom]
  | cons c rest induction =>
      have rest_apart : ¬ Straddles needle rest after := fun straddles => apart straddles.cons
      rw [List.cons_append, matchIndicesFrom.eq_def, matchIndicesFrom.eq_def needle skip]
      cases skip with
      | succ skip => exact induction rest_apart skip _ (by simpa using inside)
      | zero =>
          dsimp only
          by_cases here : needle <+: c :: rest
          · have here' : needle <+: c :: (rest ++ after) :=
              here.trans (List.prefix_append (c :: rest) after)
            have fits : needle.length - 1 ≤ rest.length := by
              have size := here.length_le
              rw [List.length_cons] at size
              omega
            rw [if_pos here, if_pos here', List.length_cons, List.length_cons,
              induction rest_apart _ _ fits]
            omega
          · have here' : ¬ needle <+: c :: (rest ++ after) := by
              rintro ⟨tail, split⟩
              rcases List.append_eq_append_iff.mp
                  (show needle ++ tail = (c :: rest) ++ after from split)
                with ⟨back, whole, _⟩ | ⟨back, rfl, begins⟩
              · exact here ⟨back, whole.symm⟩
              · refine apart ⟨c :: rest, back, List.cons_ne_nil _ _, ?_, rfl, List.suffix_rfl,
                  ⟨tail, begins.symm⟩⟩
                rintro rfl
                exact here (by simp)
            rw [if_neg here, if_neg here', induction rest_apart 0 _ (Nat.zero_le _)]

/-- The occurrences of a joined text are those of its parts when none straddles the joint. -/
theorem count_append {needle before after : Text} (apart : ¬ Straddles needle before after) :
    count needle (before ++ after) = count needle before + count needle after :=
  length_matchIndicesFrom_append apart 0 0 (Nat.zero_le _)

theorem matchIndicesFrom_eq_nil {needle text : Text} (absent : ¬ needle <:+: text)
    (position : Nat) : matchIndicesFrom needle 0 position text = [] := by
  induction text generalizing position with
  | nil => rfl
  | cons c rest induction =>
      rw [List.infix_cons_iff, not_or] at absent
      rw [matchIndicesFrom, if_neg absent.1]
      exact induction absent.2 (position + 1)

theorem count_eq_zero_iff {needle : Text} (nonempty : needle ≠ []) (text : Text) :
    count needle text = 0 ↔ ¬ needle <:+: text := by
  constructor
  · intro none inside
    induction text with
    | nil => exact nonempty (List.eq_nil_of_infix_nil inside)
    | cons c rest induction =>
        rw [count, matchIndices, matchIndicesFrom.eq_def] at none
        dsimp only at none
        split at none
        · cases none
        · rename_i elsewhere
          rw [length_matchIndicesFrom _ _ _ _ 0] at none
          exact induction none ((List.infix_cons_iff.mp inside).resolve_left elsewhere)
  · intro absent
    rw [count, matchIndices, matchIndicesFrom_eq_nil absent]
    rfl

theorem matchIndicesFrom_of_length_le {needle text : Text} {skip : Nat}
    (covered : text.length ≤ skip) (position : Nat) :
    matchIndicesFrom needle skip position text = [] := by
  induction text generalizing skip position with
  | nil => rfl
  | cons c rest induction =>
      cases skip with
      | zero => cases covered
      | succ skip => exact induction (by simpa using covered) _

theorem count_self {needle : Text} (nonempty : needle ≠ []) : count needle needle = 1 := by
  obtain ⟨c, rest, rfl⟩ := List.exists_cons_of_ne_nil nonempty
  rw [count, matchIndices, matchIndicesFrom.eq_def]
  dsimp only
  rw [if_pos List.prefix_rfl, matchIndicesFrom_of_length_le (by simp)]
  rfl

/-- The first index is where the text is found. -/
theorem find_eq_of_matchIndices {needle text : Text} {position : Nat} {rest : List Nat}
    (indices : matchIndices needle text = position :: rest) : find needle text = some position := by
  have general : ∀ text : Text, ∀ base position rest,
      matchIndicesFrom needle 0 base text = position :: rest →
        ∃ found, find needle text = some found ∧ base + found = position := by
    intro text
    induction text with
    | nil => exact fun _ _ _ none => nomatch none
    | cons c tail induction =>
        intro base position rest indices
        rw [matchIndicesFrom] at indices
        rw [find]
        split at indices
        · rename_i here
          rw [if_pos here]
          exact ⟨0, rfl, (List.cons.inj indices).1⟩
        · rename_i elsewhere
          rw [if_neg elsewhere]
          obtain ⟨found, first, same⟩ := induction _ _ _ indices
          exact ⟨found + 1, by rw [first]; rfl, by omega⟩
  obtain ⟨found, first, same⟩ := general text 0 position rest indices
  rw [first, ← same, Nat.zero_add]

/-- An occurrence that no other one precedes is the one that is found. -/
theorem find_append {needle front : Text} (back : Text) (nonempty : needle ≠ [])
    (first : ¬ needle <:+: front ++ needle.dropLast) :
    find needle (front ++ (needle ++ back)) = some front.length := by
  rw [find_eq_some_iff, List.drop_left]
  refine ⟨List.prefix_append _ _, by simp, fun earlier before here => first ?_⟩
  have some_length := List.length_pos_iff.mpr nonempty
  have whole : front ++ (needle ++ back) =
      (front ++ needle.dropLast) ++ (needle.getLast nonempty :: back) := by
    conv_lhs => rw [← List.dropLast_append_getLast nonempty]
    simp
  have inside : needle <+: (front ++ needle.dropLast).drop earlier := by
    rw [whole, List.drop_append_of_le_length (by simp; omega)] at here
    refine List.prefix_of_prefix_length_le here (List.prefix_append _ _) ?_
    simp
    omega
  exact inside.isInfix.trans (List.drop_suffix _ _).isInfix

/-- Occurrences of the needle and of the word have no character in common. -/
structure Apart (needle word : Text) : Prop where
  /-- The needle is not in the word. -/
  absent : ¬ needle <:+: word
  /-- The word is not in the needle. -/
  outside : ¬ word <:+: needle
  /-- The word does not begin with an end of the needle. -/
  begins : ∀ part, part ≠ [] → part <:+ needle → ¬ part <+: word
  /-- Nor does it end with a beginning of it. -/
  ends : ∀ part, part ≠ [] → part <+: needle → ¬ part <:+ word

namespace Apart

variable {needle word : Text} (apart : Apart needle word)

include apart

theorem not_straddles_left (before after : Text) : ¬ Straddles needle before (word ++ after) := by
  rintro ⟨front, back, _, nonempty, rfl, _, tail, split⟩
  rcases List.append_eq_append_iff.mp split with ⟨rest, whole, _⟩ | ⟨rest, rfl, _⟩
  · exact apart.begins back nonempty (List.suffix_append _ _) ⟨rest, whole.symm⟩
  · exact apart.outside ⟨front, rest, by simp⟩

theorem not_straddles_right (before after : Text) : ¬ Straddles needle (before ++ word) after := by
  rintro ⟨front, back, nonempty, _, rfl, ⟨head, split⟩, _⟩
  rcases List.append_eq_append_iff.mp split with ⟨rest, _, rfl⟩ | ⟨rest, _, whole⟩
  · exact apart.outside ⟨rest, back, by simp⟩
  · exact apart.ends front nonempty (List.prefix_append _ _) ⟨rest, whole.symm⟩

/-- A word that does not meet the needle separates its occurrences. -/
theorem count_around (before after : Text) :
    count needle (before ++ (word ++ after)) = count needle before + count needle after := by
  have nonempty : needle ≠ [] := by
    rintro rfl
    exact apart.absent List.nil_infix
  have right : ¬ Straddles needle word after := apart.not_straddles_right [] after
  rw [count_append (apart.not_straddles_left before after), count_append right,
    (count_eq_zero_iff nonempty word).mpr apart.absent, Nat.zero_add]

end Apart

/-- No two occurrences of the needle have a character in common. -/
structure Unbordered (needle : Text) : Prop where
  /-- It is not empty. -/
  nonempty : needle ≠ []
  /-- No beginning of it is an end of it, but for the whole. -/
  whole : ∀ part, part ≠ [] → part <+: needle → part <:+ needle → part = needle

namespace Unbordered

variable {needle : Text} (unbordered : Unbordered needle)

include unbordered

theorem not_straddles_left (before after : Text) :
    ¬ Straddles needle before (needle ++ after) := by
  rintro ⟨front, back, front_ne, back_ne, split, _, begins⟩
  have size := congrArg List.length split
  have some_length := List.length_pos_iff.mpr front_ne
  rw [List.length_append] at size
  have part : back <+: needle :=
    List.prefix_of_prefix_length_le begins (List.prefix_append _ _) (by omega)
  have same := unbordered.whole back back_ne part ⟨front, split.symm⟩
  rw [← same] at size
  omega

theorem not_straddles_right (before after : Text) :
    ¬ Straddles needle (before ++ needle) after := by
  rintro ⟨front, back, front_ne, back_ne, split, ends, _⟩
  have size := congrArg List.length split
  have some_length := List.length_pos_iff.mpr back_ne
  rw [List.length_append] at size
  have part : front <:+ needle :=
    List.suffix_of_suffix_length_le ends (List.suffix_append _ _) (by omega)
  have same := unbordered.whole front front_ne ⟨back, split.symm⟩ part
  rw [← same] at size
  omega

theorem count_around (before after : Text) :
    count needle (before ++ (needle ++ after)) = count needle before + 1 + count needle after := by
  have right : ¬ Straddles needle needle after := unbordered.not_straddles_right [] after
  rw [count_append (unbordered.not_straddles_left before after), count_append right,
    count_self unbordered.nonempty, Nat.add_assoc]

/-- The only occurrence is the one that is found. -/
theorem find_of_count {before after : Text}
    (single : count needle (before ++ (needle ++ after)) = 1) :
    find needle (before ++ (needle ++ after)) = some before.length := by
  rw [unbordered.count_around] at single
  have none : count needle before = 0 := by omega
  refine find_append after unbordered.nonempty ?_
  rw [infix_append_iff]
  rintro (inside | inside | ⟨front, back, front_ne, back_ne, split, ends, begins⟩)
  · exact (count_eq_zero_iff unbordered.nonempty before).mp none inside
  · have shorter := inside.length_le
    have some_length := List.length_pos_iff.mpr unbordered.nonempty
    rw [List.length_dropLast] at shorter
    omega
  · exact unbordered.not_straddles_left before after ⟨front, back, front_ne, back_ne, split, ends,
      begins.trans ((List.dropLast_prefix needle).trans (List.prefix_append _ _))⟩

theorem replaceFirst_of_count {before after : Text} (replacement : Text)
    (single : count needle (before ++ (needle ++ after)) = 1) :
    replaceFirst needle replacement (before ++ (needle ++ after)) =
      before ++ (replacement ++ after) := by
  rw [replaceFirst, unbordered.find_of_count single]
  dsimp only
  have behind : (before ++ (needle ++ after)).drop (before.length + needle.length) = after := by
    rw [← List.append_assoc, ← List.length_append, List.drop_left]
  rw [replaceRange, List.take_left, behind]

end Unbordered

/-- A text with an occurrence is cut around it. -/
theorem exists_split_of_count {needle text : Text} (nonempty : needle ≠ [])
    (some_count : count needle text ≠ 0) :
    ∃ before after, text = before ++ (needle ++ after) := by
  rw [ne_eq, count_eq_zero_iff nonempty, not_not] at some_count
  obtain ⟨before, after, split⟩ := some_count
  exact ⟨before, after, by rw [← split, List.append_assoc]⟩

/-- The needle occurs at exactly one position. -/
def Once (needle text : Text) : Prop := ∃! position, needle <+: text.drop position

theorem Unbordered.count_eq_one_iff {needle : Text} (unbordered : Unbordered needle)
    (text : Text) : count needle text = 1 ↔ Once needle text := by
  have cut : ∀ {position}, needle <+: text.drop position →
      ∃ before after, text = before ++ (needle ++ after) ∧ before.length = position := by
    rintro position ⟨after, split⟩
    refine ⟨text.take position, after, by rw [split, List.take_append_drop], ?_⟩
    have inside : position ≤ text.length := by
      by_contra outside
      rw [List.drop_of_length_le (by omega)] at split
      exact unbordered.nonempty (List.append_eq_nil_iff.mp split).1
    exact List.length_take_of_le inside
  constructor
  · intro single
    have some_count : count needle text ≠ 0 := by omega
    obtain ⟨before, after, rfl⟩ := exists_split_of_count unbordered.nonempty some_count
    refine ⟨before.length, by simp, fun other here => ?_⟩
    obtain ⟨before', after', same, rfl⟩ := cut here
    have found := unbordered.find_of_count single
    rw [same] at single found
    rw [unbordered.find_of_count single] at found
    exact Option.some.inj found
  · rintro ⟨position, here, only⟩
    obtain ⟨before, after, rfl, rfl⟩ := cut here
    have elsewhere : ∀ {first last}, before ++ (needle ++ after) = first ++ (needle ++ last) →
        first.length = before.length := by
      intro first last same
      exact only first.length (by simp [same])
    have some_length := List.length_pos_iff.mpr unbordered.nonempty
    have none_before : count needle before = 0 := by
      by_contra some_count
      obtain ⟨first, last, rfl⟩ := exists_split_of_count unbordered.nonempty some_count
      have same := @elsewhere first (last ++ (needle ++ after)) (by simp)
      simp only [List.length_append] at same
      omega
    have none_after : count needle after = 0 := by
      by_contra some_count
      obtain ⟨first, last, rfl⟩ := exists_split_of_count unbordered.nonempty some_count
      have same := @elsewhere (before ++ needle ++ first) last (by simp)
      simp only [List.length_append] at same
      omega
    rw [unbordered.count_around, none_before, none_after]

/-- A needle has no border when none of its ends begins it. -/
theorem Unbordered.of_tails {needle : Text} (nonempty : needle ≠ [])
    (ends : ∀ part ∈ needle.tails, part ≠ [] → part <+: needle → part = needle) :
    Unbordered needle :=
  ⟨nonempty, fun part part_ne begins final =>
    ends part ((List.mem_tails _ _).mpr final) part_ne begins⟩

/-- Whether words meet is decided by the ends and the beginnings of the needle. -/
theorem Apart.of_parts {needle word : Text} (absent : ¬ needle <:+: word)
    (outside : ¬ word <:+: needle)
    (begins : ∀ part ∈ needle.tails, part ≠ [] → ¬ part <+: word)
    (ends : ∀ part ∈ needle.inits, part ≠ [] → ¬ part <:+ word) : Apart needle word :=
  ⟨absent, outside, fun part part_ne final => begins part ((List.mem_tails _ _).mpr final) part_ne,
    fun part part_ne initial => ends part ((List.mem_inits _ _).mpr initial) part_ne⟩

end RustStd.Text
