import Mathlib.Data.List.Pairwise
import Mathlib.Data.List.Perm.Basic
import PresenceUnlock.RustStd.Occurrences

/-!
# Anchored edits

An edit replaces the only occurrence of its anchor.  Edits whose anchors keep apart from each other
and from what the others write can be made in any order, and leave all other text as it was.
-/

namespace RustStd.Text

/-- An anchor and what is written in its place. -/
structure Edit where
  /-- What is looked for. -/
  anchor : Text
  /-- What takes its place. -/
  patch : Text

namespace Edit

/-- Refused unless the anchor occurs exactly once. -/
def apply (edit : Edit) (text : Text) : Option Text :=
  if count edit.anchor text = 1 then some (replaceFirst edit.anchor edit.patch text) else none

/-- All edits in turn, if every one of them can be made. -/
def applyAll : List Edit → Text → Option Text
  | [], text => some text
  | edit :: rest, text => (edit.apply text).bind (applyAll rest)

/-- Neither edit touches, makes or unmakes the anchor of the other. -/
structure Separate (first second : Edit) : Prop where
  /-- The first anchor and the second. -/
  anchor : Apart first.anchor second.anchor
  /-- The first anchor and the second patch. -/
  patch : Apart first.anchor second.patch
  /-- The second anchor and the first. -/
  anchor' : Apart second.anchor first.anchor
  /-- The second anchor and the first patch. -/
  patch' : Apart second.anchor first.patch

theorem Separate.symm {first second : Edit} (separate : Separate first second) :
    Separate second first :=
  ⟨separate.anchor', separate.patch', separate.anchor, separate.patch⟩

/-- Edits that can be made in any order. -/
structure Independent (edits : List Edit) : Prop where
  /-- No anchor overlaps itself. -/
  unbordered : ∀ edit ∈ edits, Unbordered edit.anchor
  /-- No edit bears on another. -/
  separate : edits.Pairwise Separate

namespace Independent

theorem perm {edits order : List Edit} (independent : Independent edits)
    (same : order.Perm edits) : Independent order where
  unbordered edit member := independent.unbordered edit (same.mem_iff.mp member)
  separate := (same.pairwise_iff Separate.symm).mpr independent.separate

theorem tail {edit : Edit} {rest : List Edit} (independent : Independent (edit :: rest)) :
    Independent rest where
  unbordered other member := independent.unbordered other (List.mem_cons_of_mem edit member)
  separate := (List.pairwise_cons.mp independent.separate).2

theorem head {edit : Edit} {rest : List Edit} (independent : Independent (edit :: rest)) :
    Unbordered edit.anchor :=
  independent.unbordered edit List.mem_cons_self

end Independent

theorem apply_cut {edit : Edit} (unbordered : Unbordered edit.anchor) {before after : Text}
    (single : count edit.anchor (before ++ (edit.anchor ++ after)) = 1) :
    edit.apply (before ++ (edit.anchor ++ after)) = some (before ++ (edit.patch ++ after)) := by
  rw [apply, if_pos single, unbordered.replaceFirst_of_count edit.patch single]

theorem exists_cut_of_apply {edit : Edit} (unbordered : Unbordered edit.anchor)
    {text edited : Text} (applied : edit.apply text = some edited) :
    ∃ before after, text = before ++ (edit.anchor ++ after) ∧
      edited = before ++ (edit.patch ++ after) := by
  rw [apply] at applied
  split at applied
  · rename_i single
    have some_count : count edit.anchor text ≠ 0 := by omega
    obtain ⟨before, after, rfl⟩ := exists_split_of_count unbordered.nonempty some_count
    rw [unbordered.replaceFirst_of_count edit.patch single, Option.some.injEq] at applied
    exact ⟨before, after, rfl, applied.symm⟩
  · cases applied

/-- The text that an edit writes has no more and no fewer occurrences of another anchor than the
text it replaces. -/
theorem Separate.count_patched {edit other : Edit} (separate : Separate edit other)
    (before after : Text) :
    count other.anchor (before ++ (edit.patch ++ after)) =
      count other.anchor (before ++ (edit.anchor ++ after)) := by
  rw [separate.patch'.count_around, separate.anchor'.count_around]

theorem Separate.count_apply {edit other : Edit} (separate : Separate edit other)
    (unbordered : Unbordered edit.anchor) {text edited : Text}
    (applied : edit.apply text = some edited) :
    count other.anchor edited = count other.anchor text := by
  obtain ⟨before, after, rfl, rfl⟩ := exists_cut_of_apply unbordered applied
  exact separate.count_patched before after

theorem apply_eq_none {edit : Edit} {text : Text} (several : count edit.anchor text ≠ 1) :
    edit.apply text = none := if_neg several

section Two

variable {first second : Edit} (separate : Separate first second)
  (unbordered : Unbordered first.anchor) (unbordered' : Unbordered second.anchor)

include separate unbordered unbordered'

/-- Where one anchor stands before the other, either edit can be made first. -/
theorem apply_apply_cut {front middle back : Text}
    (single : count first.anchor
      (front ++ (first.anchor ++ (middle ++ (second.anchor ++ back)))) = 1)
    (single' : count second.anchor
      (front ++ (first.anchor ++ (middle ++ (second.anchor ++ back)))) = 1) :
    (first.apply (front ++ (first.anchor ++ (middle ++ (second.anchor ++ back))))).bind
        second.apply =
      (second.apply (front ++ (first.anchor ++ (middle ++ (second.anchor ++ back))))).bind
        first.apply := by
  have nested : ∀ word rest : Text, front ++ (word ++ (middle ++ (second.anchor ++ rest))) =
      (front ++ word ++ middle) ++ (second.anchor ++ rest) := by
    intro word rest
    simp
  have forward : (second.apply
      (front ++ (first.patch ++ (middle ++ (second.anchor ++ back))))) =
        some (front ++ (first.patch ++ (middle ++ (second.patch ++ back)))) := by
    have kept := separate.count_patched front (middle ++ (second.anchor ++ back))
    rw [single', nested] at kept
    rw [nested, apply_cut unbordered' kept]
    simp
  have backward : (first.apply
      (front ++ (first.anchor ++ (middle ++ (second.patch ++ back))))) =
        some (front ++ (first.patch ++ (middle ++ (second.patch ++ back)))) := by
    refine apply_cut unbordered ?_
    have kept := separate.symm.count_patched (front ++ first.anchor ++ middle) back
    simp only [List.append_assoc] at kept
    rw [kept, single]
  have begun : second.apply (front ++ (first.anchor ++ (middle ++ (second.anchor ++ back)))) =
      some (front ++ (first.anchor ++ (middle ++ (second.patch ++ back)))) := by
    rw [nested] at single' ⊢
    rw [apply_cut unbordered' single']
    simp
  rw [apply_cut unbordered single, begun, Option.bind_some, Option.bind_some, forward, backward]

theorem apply_comm (text : Text) :
    (first.apply text).bind second.apply = (second.apply text).bind first.apply := by
  by_cases single : count first.anchor text = 1
  · by_cases single' : count second.anchor text = 1
    · have some_count : count first.anchor text ≠ 0 := by omega
      obtain ⟨before, after, rfl⟩ := exists_split_of_count unbordered.nonempty some_count
      have parts := single'
      rw [separate.anchor'.count_around] at parts
      by_cases earlier : count second.anchor before = 0
      · have later : count second.anchor after ≠ 0 := by omega
        obtain ⟨middle, back, rfl⟩ := exists_split_of_count unbordered'.nonempty later
        exact apply_apply_cut separate unbordered unbordered' single single'
      · obtain ⟨front, middle, rfl⟩ := exists_split_of_count unbordered'.nonempty earlier
        simp only [List.append_assoc] at single single' ⊢
        exact (apply_apply_cut separate.symm unbordered' unbordered single' single).symm
    · rw [apply_eq_none single', Option.bind_none]
      cases applied : first.apply text with
      | none => rfl
      | some edited =>
          rw [Option.bind_some, apply_eq_none]
          rwa [separate.count_apply unbordered applied]
  · rw [apply_eq_none single, Option.bind_none]
    cases applied : second.apply text with
    | none => rfl
    | some edited =>
        rw [Option.bind_some, apply_eq_none]
        rwa [separate.symm.count_apply unbordered' applied]

end Two

/-- Independent edits are all made or none of them. -/
theorem exists_applyAll_iff {edits : List Edit} (independent : Independent edits) (text : Text) :
    (∃ edited, applyAll edits text = some edited) ↔ ∀ edit ∈ edits, count edit.anchor text = 1 := by
  induction edits generalizing text with
  | nil => simp [applyAll]
  | cons edit rest induction =>
      have separate := (List.pairwise_cons.mp independent.separate).1
      rw [List.forall_mem_cons, applyAll]
      cases applied : edit.apply text with
      | none =>
          rw [apply] at applied
          have several : count edit.anchor text ≠ 1 := by
            intro single
            rw [if_pos single] at applied
            cases applied
          simp [several]
      | some next =>
          have single : count edit.anchor text = 1 := by
            by_contra several
            rw [apply_eq_none several] at applied
            cases applied
          have counts : (∀ other ∈ rest, count other.anchor next = 1) ↔
              ∀ other ∈ rest, count other.anchor text = 1 :=
            forall₂_congr fun other member => by
              rw [(separate other member).count_apply independent.head applied]
          rw [Option.bind_some, induction independent.tail, counts]
          simp [single]

/-- Independent edits can be made in any order. -/
theorem applyAll_perm {edits order : List Edit} (same : order.Perm edits)
    (independent : Independent edits) (text : Text) :
    applyAll order text = applyAll edits text := by
  induction same generalizing text with
  | nil => rfl
  | cons edit _ induction =>
      rw [applyAll, applyAll]
      congr 1
      exact funext (induction independent.tail)
  | swap first second rest =>
      have separate := (List.pairwise_cons.mp independent.separate).1 second List.mem_cons_self
      simp only [applyAll]
      rw [← Option.bind_assoc, ← Option.bind_assoc,
        apply_comm separate independent.head independent.tail.head]
  | trans _ _ earlier later =>
      rename_i _ between _ _ same
      rw [earlier (independent.perm same), later independent]

/-- An edit with the text behind its anchor. -/
abbrev Place := Edit × Text

/-- The text before the edits. -/
def anchored (places : List Place) : Text :=
  places.flatMap fun place => place.1.anchor ++ place.2

/-- The text after them. -/
def patched (places : List Place) : Text :=
  places.flatMap fun place => place.1.patch ++ place.2

@[simp] theorem anchored_nil : anchored [] = [] := rfl

@[simp] theorem anchored_cons (place : Place) (rest : List Place) :
    anchored (place :: rest) = place.1.anchor ++ (place.2 ++ anchored rest) := by
  simp [anchored]

@[simp] theorem patched_nil : patched [] = [] := rfl

@[simp] theorem patched_cons (place : Place) (rest : List Place) :
    patched (place :: rest) = place.1.patch ++ (place.2 ++ patched rest) := by
  simp [patched]

/-- An anchor that occurs stands before the others or behind one of them. -/
theorem exists_place {edit : Edit} (nonempty : edit.anchor ≠ []) (places : List Place)
    (separate : ∀ place ∈ places, Separate edit place.1) (head : Text)
    (some_count : count edit.anchor (head ++ anchored places) ≠ 0) :
    ∃ head' places', head ++ anchored places = head' ++ anchored places' ∧
      (places'.map Prod.fst).Perm (edit :: places.map Prod.fst) := by
  by_cases earlier : count edit.anchor head = 0
  · induction places generalizing head with
    | nil => exact absurd (by simpa using earlier) some_count
    | cons place rest induction =>
        rw [anchored_cons, (separate place List.mem_cons_self).anchor.count_around, earlier,
          Nat.zero_add] at some_count
        have cut : ∃ head' places', place.2 ++ anchored rest = head' ++ anchored places' ∧
            (places'.map Prod.fst).Perm (edit :: rest.map Prod.fst) := by
          by_cases behind : count edit.anchor place.2 = 0
          · exact induction (fun other member => separate other (List.mem_cons_of_mem place member))
              place.2 some_count behind
          · obtain ⟨before, after, found⟩ := exists_split_of_count nonempty behind
            exact ⟨before, (edit, after) :: rest, by simp [found], .rfl⟩
        obtain ⟨head', places', same, perm⟩ := cut
        refine ⟨head, (place.1, head') :: places', by simp [same], ?_⟩
        exact (perm.cons place.1).trans (.swap edit place.1 _)
  · obtain ⟨before, after, rfl⟩ := exists_split_of_count nonempty earlier
    exact ⟨before, (edit, after) :: places, by simp, .rfl⟩

/-- A text with all anchors is cut at them. -/
theorem exists_places {edits : List Edit} (independent : Independent edits) {text : Text}
    (counts : ∀ edit ∈ edits, count edit.anchor text = 1) :
    ∃ head places, text = head ++ anchored places ∧ (places.map Prod.fst).Perm edits := by
  induction edits with
  | nil => exact ⟨text, [], by simp, .rfl⟩
  | cons edit rest induction =>
      have separate := (List.pairwise_cons.mp independent.separate).1
      obtain ⟨head, places, rfl, perm⟩ := induction independent.tail
        fun other member => counts other (List.mem_cons_of_mem edit member)
      have separate' : ∀ place ∈ places, Separate edit place.1 := fun place member =>
        separate place.1 (perm.mem_iff.mp (List.mem_map_of_mem member))
      have single := counts edit List.mem_cons_self
      obtain ⟨head', places', same, perm'⟩ :=
        exists_place independent.head.nonempty places separate' head (by omega)
      exact ⟨head', places', same, perm'.trans (perm.cons edit)⟩

/-- The edits, made in the order of their anchors, leave what stands between the anchors. -/
theorem applyAll_anchored {places : List Place} (independent : Independent (places.map Prod.fst))
    (head : Text)
    (counts : ∀ edit ∈ places.map Prod.fst, count edit.anchor (head ++ anchored places) = 1) :
    applyAll (places.map Prod.fst) (head ++ anchored places) = some (head ++ patched places) := by
  induction places generalizing head with
  | nil => rfl
  | cons place rest induction =>
      have separate := (List.pairwise_cons.mp independent.separate).1
      have single := counts place.1 List.mem_cons_self
      rw [anchored_cons] at single counts ⊢
      have after : head ++ (place.1.patch ++ (place.2 ++ anchored rest)) =
          (head ++ place.1.patch ++ place.2) ++ anchored rest := by simp
      rw [List.map_cons, applyAll, apply_cut independent.head single, Option.bind_some, after,
        induction independent.tail]
      · simp
      · intro other member
        rw [← after, (separate other member).count_patched]
        exact counts other (List.mem_cons_of_mem place.1 member)

/-- Each anchor is replaced by its patch, and the text around them is left. -/
theorem exists_places_of_applyAll {edits : List Edit} (independent : Independent edits)
    {text edited : Text} (applied : applyAll edits text = some edited) :
    ∃ head places, (places.map Prod.fst).Perm edits ∧
      text = head ++ anchored places ∧ edited = head ++ patched places := by
  have counts := (exists_applyAll_iff independent text).mp ⟨edited, applied⟩
  obtain ⟨head, places, rfl, perm⟩ := exists_places independent counts
  have inOrder := applyAll_anchored (independent.perm perm) head
    fun edit member => counts edit (perm.mem_iff.mp member)
  rw [applyAll_perm perm independent, applied, Option.some.injEq] at inOrder
  exact ⟨head, places, perm, rfl, inOrder⟩

end Edit

/-- A literal with its characters. -/
def spelled (literal : String) {chars : List Char} (_ : literal = String.ofList chars) : Text :=
  chars

/-- Lines, each with the line break that ends it. -/
def unlines (lines : List Text) : Text := lines.flatMap fun line => line ++ ['\n']

theorem unlines_cons (line : Text) (rest : List Text) :
    unlines (line :: rest) = (line ++ ['\n']) ++ unlines rest := rfl

theorem getLast?_unlines {lines : List Text} (nonempty : lines ≠ []) :
    (unlines lines).getLast? = some '\n' := by
  rw [← List.dropLast_append_getLast nonempty]
  simp [unlines]

theorem ends_of_suffix {part before after : Text} (final : part <:+ before ++ after) :
    part <:+ after ∨ ∃ back, back ≠ [] ∧ part = back ++ after ∧ back <:+ before := by
  obtain ⟨front, split⟩ := final
  rcases List.append_eq_append_iff.mp split with ⟨back, rfl, rfl⟩ | ⟨back, _, rfl⟩
  · by_cases none : back = []
    · rw [none]
      exact .inl List.suffix_rfl
    · exact .inr ⟨back, none, rfl, List.suffix_append _ _⟩
  · exact .inl (List.suffix_append _ _)

/-- Two lines that a text begins with are the same. -/
theorem line_unique {line other text : Text} (single : '\n' ∉ line) (single' : '\n' ∉ other)
    (begins : line ++ ['\n'] <+: text) (begins' : other ++ ['\n'] <+: text) : line = other := by
  have ended : ∀ {short long : Text}, '\n' ∉ long → short ++ ['\n'] <+: long ++ ['\n'] →
      short = long := by
    intro short long clean begins
    rcases List.prefix_concat_iff.mp begins with same | inside
    · exact List.append_cancel_right same
    · exact absurd (inside.subset (List.mem_append_right short List.mem_cons_self)) clean
  rcases List.prefix_or_prefix_of_prefix begins begins' with shorter | longer
  · exact ended single' shorter
  · exact (ended single longer).symm

/-- An end of a block begins inside one of its lines. -/
theorem exists_line_of_suffix {part : Text} (nonempty : part ≠ []) {lines : List Text}
    (final : part <:+ unlines lines) :
    ∃ line ∈ lines, ∃ rest, rest <:+ line ∧ rest ++ ['\n'] <+: part := by
  induction lines with
  | nil => exact absurd (List.suffix_nil.mp final) nonempty
  | cons line lines induction =>
      rw [unlines_cons] at final
      rcases ends_of_suffix final with later | ⟨back, back_ne, rfl, ends⟩
      · obtain ⟨other, member, found⟩ := induction later
        exact ⟨other, List.mem_cons_of_mem line member, found⟩
      · obtain ⟨rest, rfl, ends'⟩ := (List.suffix_concat_iff.mp ends).resolve_left back_ne
        exact ⟨line, List.mem_cons_self, rest, ends', List.prefix_append _ _⟩

/-- The first line begins every beginning of a block that ends with a line break. -/
theorem line_begins_part {part first : Text} {rest : List Text} (single : '\n' ∉ first)
    (initial : part <+: unlines (first :: rest)) (ended : part.getLast? = some '\n') :
    first ++ ['\n'] <+: part := by
  have begins : first ++ ['\n'] <+: unlines (first :: rest) := List.prefix_append _ _
  rcases List.prefix_or_prefix_of_prefix begins initial with whole | shorter
  · exact whole
  · rcases List.prefix_concat_iff.mp shorter with rfl | inside
    · exact List.prefix_rfl
    · exact absurd (inside.subset (List.mem_of_getLast? ended)) single

/-- A line occurs in a block where a line of the block ends with it. -/
theorem exists_line_of_infix {first : Text} {lines : List Text} (single : '\n' ∉ first)
    (each : ∀ line ∈ lines, '\n' ∉ line) (inside : first ++ ['\n'] <:+: unlines lines) :
    ∃ line ∈ lines, first <:+ line := by
  obtain ⟨part, begins, final⟩ := List.infix_iff_prefix_suffix.mp inside
  have nonempty : part ≠ [] := by
    rintro rfl
    exact absurd (List.prefix_nil.mp begins) (by simp)
  obtain ⟨line, member, rest, ends, begins'⟩ := exists_line_of_suffix nonempty final
  have clean : '\n' ∉ rest := fun break' => each line member (ends.subset break')
  rw [line_unique single clean begins begins']
  exact ⟨line, member, ends⟩

/-- No line of either block ends with the first line of the other. -/
def Foreign (first second : List Text) : Prop :=
  (∀ start ∈ first.head?, ∀ line ∈ second, ¬ start <:+ line) ∧
    ∀ start ∈ second.head?, ∀ line ∈ first, ¬ start <:+ line

instance (first second : List Text) : Decidable (Foreign first second) :=
  inferInstanceAs (Decidable (_ ∧ _))

theorem Foreign.symm {first second : List Text} (foreign : Foreign first second) :
    Foreign second first := And.symm foreign

/-- Blocks that share no line keep apart. -/
theorem Foreign.apart {first second : List Text} (foreign : Foreign first second)
    (nonempty : first ≠ []) (nonempty' : second ≠ []) (each : ∀ line ∈ first, '\n' ∉ line)
    (each' : ∀ line ∈ second, '\n' ∉ line) : Apart (unlines first) (unlines second) := by
  obtain ⟨start, rest, rfl⟩ := List.exists_cons_of_ne_nil nonempty
  obtain ⟨start', rest', rfl⟩ := List.exists_cons_of_ne_nil nonempty'
  obtain ⟨elsewhere, elsewhere'⟩ := foreign
  have single := each start List.mem_cons_self
  have single' := each' start' List.mem_cons_self
  have unseen : ¬ start ++ ['\n'] <:+: unlines (start' :: rest') := by
    intro inside
    obtain ⟨line, member, ends⟩ := exists_line_of_infix single each' inside
    exact elsewhere start rfl line member ends
  have begins : start ++ ['\n'] <+: unlines (start :: rest) := List.prefix_append _ _
  have begins' : start' ++ ['\n'] <+: unlines (start' :: rest') := List.prefix_append _ _
  constructor
  · exact fun inside => unseen (begins.isInfix.trans inside)
  · intro inside
    obtain ⟨line, member, ends⟩ := exists_line_of_infix single' each (begins'.isInfix.trans inside)
    exact elsewhere' start' rfl line member ends
  · intro part part_ne final initial
    obtain ⟨line, member, rest, ends, found⟩ := exists_line_of_suffix part_ne final
    have clean : '\n' ∉ rest := fun break' => each line member (ends.subset break')
    rw [line_unique clean single' (found.trans initial) begins'] at ends
    exact elsewhere' start' rfl line member ends
  · intro part part_ne initial final
    refine unseen (List.IsInfix.trans (List.IsPrefix.isInfix ?_) final.isInfix)
    refine line_begins_part single initial ?_
    obtain ⟨front, split⟩ := final
    rw [← List.getLast?_append_of_ne_nil front part_ne, split]
    exact getLast?_unlines (List.cons_ne_nil _ _)

/-- A block whose first line ends none of its other lines does not meet itself. -/
theorem unbordered_unlines {first : Text} {rest : List Text} (single : '\n' ∉ first)
    (each : ∀ line ∈ rest, '\n' ∉ line) (elsewhere : ∀ line ∈ rest, ¬ first <:+ line) :
    Unbordered (unlines (first :: rest)) := by
  refine ⟨by simp [unlines_cons], fun part part_ne initial final => ?_⟩
  have ended : part.getLast? = some '\n' := by
    obtain ⟨front, split⟩ := final
    rw [← List.getLast?_append_of_ne_nil front part_ne, split]
    exact getLast?_unlines (List.cons_ne_nil _ _)
  have begins := line_begins_part single initial ended
  rw [unlines_cons] at final ⊢
  rcases ends_of_suffix final with later | ⟨back, back_ne, rfl, ends⟩
  · obtain ⟨line, member, inside⟩ := exists_line_of_infix single each
      (begins.isInfix.trans later.isInfix)
    exact absurd inside (elsewhere line member)
  · obtain ⟨start, rfl, ends'⟩ := (List.suffix_concat_iff.mp ends).resolve_left back_ne
    have clean : '\n' ∉ start := fun break' => single (ends'.subset break')
    rw [line_unique single clean begins (List.prefix_append _ _)]

/-- An edit of whole lines. -/
structure LineEdit where
  /-- The lines that are looked for. -/
  anchor : List Text
  /-- The lines that take their place. -/
  patch : List Text

namespace LineEdit

/-- The edit of the text. -/
def edit (edit : LineEdit) : Edit := ⟨unlines edit.anchor, unlines edit.patch⟩

/-- What is checked of the lines of one edit. -/
def Formed (edit : LineEdit) : Prop :=
  edit.anchor ≠ [] ∧ edit.patch ≠ [] ∧ (∀ line ∈ edit.anchor, '\n' ∉ line) ∧
    (∀ line ∈ edit.patch, '\n' ∉ line) ∧
      ∀ start ∈ edit.anchor.head?, ∀ line ∈ edit.anchor.tail, ¬ start <:+ line

/-- What is checked of the lines of two edits. -/
def Strange (first second : LineEdit) : Prop :=
  Foreign first.anchor second.anchor ∧ Foreign first.anchor second.patch ∧
    Foreign second.anchor first.patch

instance (edit : LineEdit) : Decidable edit.Formed := inferInstanceAs (Decidable (_ ∧ _))

instance (first second : LineEdit) : Decidable (first.Strange second) :=
  inferInstanceAs (Decidable (_ ∧ _))

theorem Strange.separate {first second : LineEdit} (strange : first.Strange second)
    (formed : first.Formed) (formed' : second.Formed) :
    Edit.Separate first.edit second.edit := by
  obtain ⟨anchor_ne, patch_ne, anchor, patch, _⟩ := formed
  obtain ⟨anchor_ne', patch_ne', anchor', patch', _⟩ := formed'
  obtain ⟨anchors, forward, backward⟩ := strange
  exact ⟨anchors.apart anchor_ne anchor_ne' anchor anchor',
    forward.apart anchor_ne patch_ne' anchor patch',
    anchors.symm.apart anchor_ne' anchor_ne anchor' anchor,
    backward.apart anchor_ne' patch_ne anchor' patch⟩

theorem Formed.unbordered {edit : LineEdit} (formed : edit.Formed) :
    Unbordered edit.edit.anchor := by
  obtain ⟨nonempty, _, each, _, elsewhere⟩ := formed
  obtain ⟨first, rest, split⟩ := List.exists_cons_of_ne_nil nonempty
  rw [split] at each elsewhere
  rw [LineEdit.edit, split]
  exact unbordered_unlines (each first List.mem_cons_self)
    (fun line member => each line (List.mem_cons_of_mem first member)) (elsewhere first rfl)

/-- Edits of lines are independent when no block ends a line of another with its first one. -/
theorem independent {edits : List LineEdit} (formed : ∀ edit ∈ edits, edit.Formed)
    (strange : edits.Pairwise Strange) : Edit.Independent (edits.map LineEdit.edit) where
  unbordered := by
    intro edit member
    obtain ⟨source, inside, rfl⟩ := List.mem_map.mp member
    exact (formed source inside).unbordered
  separate := by
    rw [List.pairwise_map]
    exact strange.imp_of_mem fun {first second} member member' strange =>
      strange.separate (formed first member) (formed second member')

end LineEdit

end RustStd.Text
