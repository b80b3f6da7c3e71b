import PresenceUnlock.RustStd.Text

/-!
# Searching and editing text

Substring search and the edits that code makes at the positions it found.  Positions count
characters; the standard library counts bytes, which orders and slices a text the same way.
-/

namespace RustStd
namespace Text

/-- An occurrence that begins in one text and ends in the text after it. -/
def Straddles {α : Type*} (needle before after : List α) : Prop :=
  ∃ front back, front ≠ [] ∧ back ≠ [] ∧ needle = front ++ back ∧ front <:+ before ∧ back <+: after

/-- An occurrence in a joined text lies on one side of the joint or straddles it. -/
theorem infix_append_iff {α : Type*} {needle before after : List α} :
    needle <:+: before ++ after ↔
      needle <:+: before ∨ needle <:+: after ∨ Straddles needle before after := by
  constructor
  · rintro ⟨left, right, split⟩
    rw [List.append_assoc] at split
    rcases List.append_eq_append_iff.mp split with ⟨middle, rfl, inside⟩ | ⟨middle, rfl, inside⟩
    · rcases List.append_eq_append_iff.mp inside with ⟨rest, rfl, inside⟩ | ⟨rest, rfl, rfl⟩
      · exact .inl ⟨left, rest, by simp⟩
      · rcases List.eq_nil_or_concat middle with rfl | ⟨_, _, rfl⟩
        · exact .inr (.inl ⟨[], right, by simp⟩)
        rcases rest with _ | ⟨first, rest⟩
        · exact .inl ⟨left, [], by simp⟩
        exact .inr (.inr ⟨_, first :: rest, by simp, by simp, rfl, ⟨left, rfl⟩, ⟨right, rfl⟩⟩)
    · exact .inr (.inl ⟨middle, right, by rw [inside, List.append_assoc]⟩)
  · rintro
      (⟨left, right, rfl⟩ | ⟨left, right, rfl⟩ | ⟨front, back, _, _, rfl, ⟨left, rfl⟩, right, rfl⟩)
    · exact ⟨left, right ++ after, by simp⟩
    · exact ⟨before ++ left, right, by simp⟩
    · exact ⟨left, right, by simp⟩

/-- What ends just before a joint does not straddle it if it lacks the joint's last character. -/
theorem not_straddles_concat {α : Type*} {needle before after : List α} {c : α}
    (absent : c ∉ needle) : ¬ Straddles needle (before ++ [c]) after := by
  rintro ⟨front, back, nonempty, _, rfl, ends, _⟩
  rcases List.suffix_concat_iff.mp ends with rfl | ⟨front, rfl, _⟩
  · exact nonempty rfl
  · exact absent (by simp)

/-- What is not in a text but ends in one of its characters does not reach into it. -/
theorem infix_append_of_last {α : Type*} {needle before after : List α} {c : α}
    (last : c ∈ needle.getLast?) (absent : c ∉ after) :
    needle <:+: before ++ after ↔ needle <:+: before := by
  obtain ⟨front, rfl⟩ := List.getLast?_eq_some_iff.mp last
  rw [infix_append_iff]
  constructor
  · rintro (inside | inside | ⟨left, right, _, nonempty, split, _, begins⟩)
    · exact inside
    · exact (absent (inside.subset (by simp))).elim
    · obtain ⟨right, ending, rfl⟩ := (List.eq_nil_or_concat right).resolve_left nonempty
      have same : c = ending := by
        simpa [List.append_eq_append_iff] using congrArg List.getLast? split
      exact (absent (begins.subset (by simp [same]))).elim
  · exact .inl

/-- Taking out a character that an occurrence lacks leaves the occurrence whole. -/
theorem infix_append_of_infix_cons {α : Type*} {needle before after : List α} {c : α}
    (absent : c ∉ needle) (inside : needle <:+: before ++ c :: after) :
    needle <:+: before ∨ needle <:+: after := by
  rw [List.append_cons, infix_append_iff] at inside
  rcases inside with inside | inside | straddles
  · rcases infix_append_iff.mp inside with inside | inside | ⟨_, back, _, nonempty, rfl, _, begins⟩
    · exact .inl inside
    · cases needle with
      | nil => exact .inl (List.nil_infix)
      | cons first rest =>
          have first_eq : first = c := by simpa using inside.subset List.mem_cons_self
          exact (absent (first_eq ▸ List.mem_cons_self)).elim
    · obtain ⟨first, back, rfl⟩ := List.exists_cons_of_ne_nil nonempty
      have first_eq : first = c := by simpa using begins.subset List.mem_cons_self
      exact (absent (by simp [first_eq])).elim
  · exact .inr inside
  · exact (not_straddles_concat absent straddles).elim

/-- `str::find`. -/
def find (needle : Text) : Text → Option Nat
  | [] => if needle = [] then some 0 else none
  | c :: rest => if needle <+: c :: rest then some 0 else (find needle rest).map (· + 1)

/-- The turns of `str::match_indices`: after an occurrence, its own characters are skipped. -/
def matchIndicesFrom (needle : Text) (skip position : Nat) : Text → List Nat
  | [] => []
  | c :: rest =>
      match skip with
      | skip + 1 => matchIndicesFrom needle skip (position + 1) rest
      | 0 =>
          if needle <+: c :: rest then
            position :: matchIndicesFrom needle (needle.length - 1) (position + 1) rest
          else
            matchIndicesFrom needle 0 (position + 1) rest

/-- `str::match_indices` for a nonempty needle. -/
def matchIndices (needle text : Text) : List Nat := matchIndicesFrom needle 0 0 text

/-- `str::contains`. -/
def contains (needle text : Text) : Bool := (find needle text).isSome

/-- `str::rfind` on one character. -/
def rfind (c : Char) : Text → Option Nat
  | [] => none
  | head :: rest =>
      match rfind c rest with
      | some position => some (position + 1)
      | none => if head = c then some 0 else none

theorem find_eq_some_iff {needle text : Text} {position : Nat} :
    find needle text = some position ↔
      needle <+: text.drop position ∧ position ≤ text.length ∧
        ∀ earlier < position, ¬ needle <+: text.drop earlier := by
  induction text generalizing position with
  | nil =>
      simp only [find, List.drop_nil, List.prefix_nil, List.length_nil, Nat.le_zero]
      constructor
      · intro found
        split at found
        · cases found
          exact ⟨‹_›, rfl, nofun⟩
        · cases found
      · rintro ⟨rfl, rfl, _⟩
        rfl
  | cons c rest induction =>
      rw [find]
      split
      · rename_i here
        rw [Option.some.injEq]
        constructor
        · rintro rfl
          exact ⟨here, Nat.zero_le _, nofun⟩
        · rintro ⟨_, _, first⟩
          by_contra later
          exact first 0 (by omega) here
      · rename_i elsewhere
        rw [Option.map_eq_some_iff]
        constructor
        · rintro ⟨position, found, rfl⟩
          obtain ⟨here, bound, first⟩ := induction.mp found
          refine ⟨here, Nat.succ_le_succ bound, fun earlier before => ?_⟩
          cases earlier with
          | zero => exact elsewhere
          | succ earlier => exact first earlier (by omega)
        · rintro ⟨here, bound, first⟩
          cases position with
          | zero => exact (elsewhere here).elim
          | succ position =>
              refine ⟨position, induction.mpr ⟨here, Nat.le_of_succ_le_succ bound, ?_⟩, rfl⟩
              exact fun earlier before => first (earlier + 1) (Nat.succ_lt_succ before)

theorem find_eq_none_iff {needle text : Text} : find needle text = none ↔ ¬ needle <:+: text := by
  induction text with
  | nil => simp [find]
  | cons c rest induction =>
      rw [find, List.infix_cons_iff]
      split
      · simp [*]
      · simp [*]

@[simp] theorem contains_eq_true_iff {needle text : Text} :
    contains needle text = true ↔ needle <:+: text := by
  rw [contains, ← not_iff_not, ← find_eq_none_iff]
  simp

/-- The text around the first occurrence; the occurrence is not completed any earlier. -/
theorem exists_split_of_find {needle text : Text} {position : Nat}
    (found : find needle text = some position) :
    text = text.take position ++ (needle ++ text.drop (position + needle.length)) ∧
      (needle ≠ [] → ∀ bound ≤ position, ¬ needle <:+: text.take bound) := by
  obtain ⟨⟨after, here⟩, _, first⟩ := find_eq_some_iff.mp found
  refine ⟨?_, ?_⟩
  · rw [← List.drop_drop, ← here, List.drop_left, here, List.take_append_drop]
  · rintro nonempty bound within ⟨front, back, split⟩
    refine first front.length ?_ ?_
    · have lengths := congrArg List.length split
      have some_length := List.length_pos_iff.mpr nonempty
      simp only [List.length_append, List.length_take] at lengths
      omega
    · have whole : text = front ++ (needle ++ (back ++ text.drop bound)) := by
        conv_lhs => rw [← List.take_append_drop bound text, ← split]
        simp
      conv_rhs => rw [whole]
      rw [List.drop_left]
      exact List.prefix_append _ _

theorem rfind_eq_none_iff {c : Char} {text : Text} : rfind c text = none ↔ c ∉ text := by
  induction text with
  | nil => simp [rfind]
  | cons head rest induction =>
      rw [rfind, List.mem_cons, not_or]
      cases found : rfind c rest with
      | some position => simp [induction.not_left.mp (by simp [found])]
      | none =>
          have absent := induction.mp found
          by_cases same : head = c
          · simp [same]
          · simp [same, absent, Ne.symm same]

/-- The last occurrence of a character is the one that none follows. -/
theorem rfind_append_cons {c : Char} (front : Text) {back : Text} (last : c ∉ back) :
    rfind c (front ++ c :: back) = some front.length := by
  induction front with
  | nil => simp [rfind, rfind_eq_none_iff.mpr last]
  | cons head front induction => simp [rfind, induction]

/-- What lacks a character does not hide an earlier occurrence. -/
theorem rfind_append_of_notMem {c : Char} (front : Text) {back : Text} (absent : c ∉ back) :
    rfind c (front ++ back) = rfind c front := by
  induction front with
  | nil => simp [rfind, rfind_eq_none_iff.mpr absent]
  | cons head front induction => simp only [List.cons_append, rfind, induction]

/-- The text around the last occurrence of a character. -/
theorem exists_split_of_rfind {c : Char} {text : Text} {position : Nat}
    (found : rfind c text = some position) :
    ∃ front back, text = front ++ c :: back ∧ front.length = position ∧ c ∉ back := by
  have present : c ∈ text := by
    by_contra absent
    rw [rfind_eq_none_iff.mpr absent] at found
    cases found
  obtain ⟨back, front, split, last⟩ := List.eq_append_cons_of_mem (List.mem_reverse.mpr present)
  have text_eq : text = front.reverse ++ c :: back.reverse := by
    rw [← List.reverse_reverse text, split]
    simp
  have last' : c ∉ back.reverse := by simpa using last
  rw [text_eq, rfind_append_cons _ last'] at found
  exact ⟨front.reverse, back.reverse, text_eq, Option.some.inj found, last'⟩

/-- `str::trim_end`. -/
def trimEnd (text : Text) : Text := text.rdropWhile isWhitespace

/-- Blank characters at the end make no difference to what is left. -/
theorem trimEnd_append {blank : Text} (all : ∀ c ∈ blank, isWhitespace c = true) (text : Text) :
    trimEnd (text ++ blank) = trimEnd text := by
  have reversed : ∀ c ∈ blank.reverse, isWhitespace c = true := fun c member =>
    all c (List.mem_reverse.mp member)
  rw [trimEnd, trimEnd, List.rdropWhile, List.rdropWhile, List.reverse_append,
    List.dropWhile_append_of_pos reversed]

/-- `String::insert_str`. -/
def insertStr (text : Text) (position : Nat) (inserted : Text) : Text :=
  text.take position ++ (inserted ++ text.drop position)

/-- `String::replace_range` on the positions `[start, stop)`. -/
def replaceRange (text : Text) (start stop : Nat) (replacement : Text) : Text :=
  text.take start ++ (replacement ++ text.drop stop)

end Text
end RustStd
