import PresenceUnlock.Cli.Binding
import PresenceUnlock.RustStd.Occurrences

/-!
# Editing the bindings file

Setup and removal touch the block and the blank space before it, and nothing else of the file.
-/

namespace PresenceUnlock.Cli.Binding

open RustStd

theorem unbordered_blockStart : Text.Unbordered blockStart :=
  Text.Unbordered.of_tails (by decide) (by decide +kernel)

theorem unbordered_blockEnd : Text.Unbordered blockEnd :=
  Text.Unbordered.of_tails (by decide) (by decide +kernel)

theorem apart_start_end : Text.Apart blockStart blockEnd :=
  Text.Apart.of_parts (by decide +kernel) (by decide +kernel) (by decide +kernel)
    (by decide +kernel)

theorem apart_end_start : Text.Apart blockEnd blockStart :=
  Text.Apart.of_parts (by decide +kernel) (by decide +kernel) (by decide +kernel)
    (by decide +kernel)

theorem colon_notMem_blockBody : ':' ∉ blockBody := by
  unfold blockBody
  simp only [List.mem_append, not_or]
  and_intros <;> decide

/-- Both markers have a colon, and the block has none between them. -/
theorem count_blockBody {marker : Text} (written : ':' ∈ marker) :
    Text.count marker blockBody = 0 := by
  rw [Text.count_eq_zero_iff (List.ne_nil_of_mem written)]
  exact fun inside => colon_notMem_blockBody (inside.subset written)

/-- A file with one start marker and one end marker after it. -/
def marked (before middle after : Text) : Text :=
  before ++ (blockStart ++ (middle ++ (blockEnd ++ after)))

theorem count_blockStart_marked (before middle after : Text) :
    Text.count blockStart (marked before middle after) =
      Text.count blockStart before + 1 +
        (Text.count blockStart middle + Text.count blockStart after) := by
  rw [marked, unbordered_blockStart.count_around, apart_start_end.count_around]

theorem count_blockEnd_marked (before middle after : Text) :
    Text.count blockEnd (marked before middle after) =
      Text.count blockEnd before +
        (Text.count blockEnd middle + 1 + Text.count blockEnd after) := by
  rw [marked, apart_end_start.count_around, unbordered_blockEnd.count_around]

theorem matchIndices_eq_nil_iff {marker : Text} (nonempty : marker ≠ []) (source : Text) :
    Text.matchIndices marker source = [] ↔ ¬ marker <:+: source := by
  rw [← Text.count_eq_zero_iff nonempty, Text.count, List.length_eq_zero_iff]

/-- A single occurrence is listed where it begins. -/
theorem matchIndices_of_count {marker before after : Text} (unbordered : Text.Unbordered marker)
    (single : Text.count marker (before ++ (marker ++ after)) = 1) :
    Text.matchIndices marker (before ++ (marker ++ after)) = [before.length] := by
  obtain ⟨position, indices⟩ := List.length_eq_one_iff.mp single
  have found := Text.find_eq_of_matchIndices indices
  rw [unbordered.find_of_count single] at found
  rw [indices, Option.some.inj found]

/-- What is put between a file without markers and the block. -/
def padding (source : Text) : Text :=
  if source = [] then []
  else if ['\n', '\n'] <:+ source then []
  else if ['\n'] <:+ source then ['\n']
  else ['\n', '\n']

theorem isWhitespace_of_mem_padding {source : Text} {c : Char} (member : c ∈ padding source) :
    Text.isWhitespace c = true := by
  have blank : ∀ c ∈ padding source, c = '\n' := by
    unfold padding
    split
    · simp
    split
    · simp
    split <;> simp
  rw [blank c member]
  decide

theorem render_of_unmarked (path : Text) {source : Text} (noStart : ¬ blockStart <:+: source)
    (noEnd : ¬ blockEnd <:+: source) :
    render path source = .ok (source ++ padding source ++ block ++ ['\n']) := by
  rw [render, (matchIndices_eq_nil_iff (by decide) source).mpr noStart,
    (matchIndices_eq_nil_iff (by decide) source).mpr noEnd, padding]
  dsimp only
  by_cases empty : source = []
  · simp [empty]
  by_cases twice : ['\n', '\n'] <:+ source
  · have once : ['\n'] <:+ source := List.IsSuffix.trans ⟨['\n'], rfl⟩ twice
    simp [empty, once, twice]
  by_cases once : ['\n'] <:+ source
  · simp [empty, once, twice]
  · have ended : ¬ ['\n', '\n'] <:+ source ++ ['\n'] := by
      rintro ⟨front, split⟩
      have same : (front ++ ['\n']) ++ ['\n'] = source ++ ['\n'] := by simpa using split
      exact once ⟨front, List.append_cancel_right same⟩
    simp [empty, once, twice, ended]

/-- A file with one start marker before one end marker. -/
structure Marked (before middle after : Text) : Prop where
  /-- The start marker is there once. -/
  start : Text.count blockStart (marked before middle after) = 1
  /-- So is the end marker. -/
  stop : Text.count blockEnd (marked before middle after) = 1

namespace Marked

variable {before middle after : Text} (once : Marked before middle after)

include once

theorem matchIndices_start :
    Text.matchIndices blockStart (marked before middle after) = [before.length] :=
  matchIndices_of_count unbordered_blockStart once.start

theorem matchIndices_stop :
    Text.matchIndices blockEnd (marked before middle after) =
      [before.length + blockStart.length + middle.length] := by
  have split : marked before middle after =
      (before ++ blockStart ++ middle) ++ (blockEnd ++ after) := by simp [marked]
  have single := once.stop
  rw [split] at single ⊢
  rw [matchIndices_of_count unbordered_blockEnd single, List.length_append, List.length_append]

theorem find_start : Text.find blockStart (marked before middle after) = some before.length :=
  Text.find_eq_of_matchIndices once.matchIndices_start

theorem find_stop : Text.find blockEnd (marked before middle after) =
    some (before.length + blockStart.length + middle.length) :=
  Text.find_eq_of_matchIndices once.matchIndices_stop

omit once in
theorem replaceRange_marked (replacement : Text) :
    (marked before middle after).replaceRange before.length
      (before.length + blockStart.length + middle.length + blockEnd.length) replacement =
        before ++ (replacement ++ after) := by
  have behind : (marked before middle after).drop
      (before.length + blockStart.length + middle.length + blockEnd.length) = after := by
    have split : marked before middle after =
        (before ++ blockStart ++ middle ++ blockEnd) ++ after := by simp [marked]
    rw [split, ← List.length_append, ← List.length_append, ← List.length_append, List.drop_left]
  rw [Text.replaceRange, behind, marked, List.take_left]

/-- The block between the markers is replaced. -/
theorem render_eq (path : Text) :
    render path (marked before middle after) = .ok (before ++ (block ++ after)) := by
  rw [render, once.matchIndices_start, once.matchIndices_stop]
  have later : before.length < before.length + blockStart.length + middle.length := by
    have some_length : 0 < blockStart.length := by decide
    omega
  dsimp only
  rw [if_pos later, replaceRange_marked]

/-- What stands around the markers is left, with one line break for the blank space at its end. -/
theorem removal_eq (path : Text) :
    removal path (marked before middle after) = .ok (Text.trimEnd (before ++ after) ++ ['\n']) := by
  rw [removal, once.find_start, once.find_stop]
  dsimp only
  rw [if_neg (by omega), replaceRange_marked, List.nil_append]

/-- Replacing what stands between the markers leaves one of each. -/
theorem blockBody : Marked before blockBody after := by
  have start := once.start
  have stop := once.stop
  rw [count_blockStart_marked] at start
  rw [count_blockEnd_marked] at stop
  constructor
  · rw [count_blockStart_marked, count_blockBody (by decide)]
    omega
  · rw [count_blockEnd_marked, count_blockBody (by decide)]
    omega

end Marked

theorem marked_blockBody (before after : Text) :
    marked before blockBody after = before ++ (block ++ after) := by
  simp [marked, block]

/-- Line breaks after a file without markers leave it without markers. -/
theorem not_infix_padding {marker source : Text} {c : Char} (last : c ∈ marker.getLast?)
    (solid : Text.isWhitespace c = false) (absent : ¬ marker <:+: source) :
    ¬ marker <:+: source ++ padding source := by
  rwa [Text.infix_append_of_last last]
  intro member
  rw [isWhitespace_of_mem_padding member] at solid
  cases solid

/-- A removal takes back the padding, and the line break after the block. -/
theorem trimEnd_padded (source : Text) :
    Text.trimEnd (source ++ padding source ++ ['\n']) = Text.trimEnd source := by
  rw [List.append_assoc, Text.trimEnd_append]
  intro c member
  rcases List.mem_append.mp member with padded | final
  · exact isWhitespace_of_mem_padding padded
  · rw [List.mem_singleton.mp final]
    decide

/-- What setup adds to a file without markers is one block. -/
theorem Marked.of_unmarked {source : Text} (noStart : ¬ blockStart <:+: source)
    (noEnd : ¬ blockEnd <:+: source) :
    Marked (source ++ padding source) Binding.blockBody ['\n'] := by
  have start := (Text.count_eq_zero_iff (by decide) _).mpr
    (not_infix_padding (c := 't') rfl (by decide) noStart)
  have stop := (Text.count_eq_zero_iff (by decide) _).mpr
    (not_infix_padding (c := 'd') rfl (by decide) noEnd)
  constructor
  · rw [count_blockStart_marked, start, count_blockBody (by decide)]
    decide
  · rw [count_blockEnd_marked, stop, count_blockBody (by decide)]
    decide

/-- A file that is rendered has neither marker, or one of each in order. -/
theorem cases_of_render {path source rendered : Text}
    (written : render path source = .ok rendered) :
    (¬ blockStart <:+: source ∧ ¬ blockEnd <:+: source) ∨
      ∃ before middle after, source = marked before middle after ∧ Marked before middle after := by
  rw [render.eq_def] at written
  split at written
  · rename_i starts stops
    exact .inl ⟨(matchIndices_eq_nil_iff (by decide) source).mp starts,
      (matchIndices_eq_nil_iff (by decide) source).mp stops⟩
  · rename_i start stop starts stops
    split at written
    · rename_i order
      have start_once : Text.count blockStart source = 1 := by rw [Text.count, starts]; rfl
      have stop_once : Text.count blockEnd source = 1 := by rw [Text.count, stops]; rfl
      have start_found := Text.find_eq_of_matchIndices starts
      have stop_found := Text.find_eq_of_matchIndices stops
      obtain ⟨before, rest, rfl⟩ := Text.exists_split_of_count (by decide : blockStart ≠ [])
        (by omega : Text.count blockStart source ≠ 0)
      rw [unbordered_blockStart.find_of_count start_once, Option.some.injEq] at start_found
      have parts := stop_once
      rw [apart_end_start.count_around] at parts
      by_cases first : Text.count blockEnd before = 0
      · obtain ⟨middle, after, rfl⟩ := Text.exists_split_of_count (by decide : blockEnd ≠ [])
          (by omega : Text.count blockEnd rest ≠ 0)
        exact .inr ⟨before, middle, after, rfl, start_once, stop_once⟩
      · -- An end marker before the start marker would be the one that is found.
        obtain ⟨front, back, rfl⟩ := Text.exists_split_of_count (by decide : blockEnd ≠ []) first
        have split : front ++ (blockEnd ++ back) ++ (blockStart ++ rest) =
            front ++ (blockEnd ++ (back ++ (blockStart ++ rest))) := by simp
        rw [split] at stop_once stop_found
        rw [unbordered_blockEnd.find_of_count stop_once, Option.some.injEq] at stop_found
        rw [List.length_append] at start_found
        omega
    · cases written
  · cases written

/-- The edits of the bindings file: what is written to a file with neither marker or with one of
each, what a removal leaves of it, and no edit of any other file. -/
theorem edits_keep_file (path : Text) :
    (∀ source, ¬ blockStart <:+: source → ¬ blockEnd <:+: source →
      ∃ rendered, render path source = .ok rendered ∧ source <+: rendered ∧
        block <:+: rendered ∧ Text.Once blockStart rendered ∧ Text.Once blockEnd rendered ∧
        render path rendered = .ok rendered ∧
        removal path rendered = .ok (Text.trimEnd source ++ ['\n'])) ∧
    (∀ before middle after source, source = before ++ blockStart ++ middle ++ blockEnd ++ after →
      Text.Once blockStart source → Text.Once blockEnd source →
        render path source = .ok (before ++ block ++ after) ∧
        render path (before ++ block ++ after) = .ok (before ++ block ++ after) ∧
        removal path source = .ok (Text.trimEnd (before ++ after) ++ ['\n']) ∧
        removal path (before ++ block ++ after) =
          .ok (Text.trimEnd (before ++ after) ++ ['\n'])) ∧
    ∀ source, ¬ (¬ blockStart <:+: source ∧ ¬ blockEnd <:+: source) →
      (¬ ∃ before middle after, source = before ++ blockStart ++ middle ++ blockEnd ++ after ∧
        Text.Once blockStart source ∧ Text.Once blockEnd source) →
      ∃ error, render path source = .error error := by
  have assoc : ∀ before middle after : Text,
      before ++ blockStart ++ middle ++ blockEnd ++ after = marked before middle after := by
    intro before middle after
    simp [marked]
  have assoc' : ∀ before after : Text,
      before ++ block ++ after = marked before blockBody after := by
    intro before after
    rw [marked_blockBody, List.append_assoc]
  simp only [← unbordered_blockStart.count_eq_one_iff, ← unbordered_blockEnd.count_eq_one_iff,
    assoc, assoc']
  refine ⟨fun source noStart noEnd => ?_, ?_, fun source some other => ?_⟩
  · have once := Marked.of_unmarked noStart noEnd
    have rendered := render_of_unmarked path noStart noEnd
    rw [assoc'] at rendered
    refine ⟨_, rendered, ?_, ?_, once.start, once.stop, ?_, ?_⟩
    · rw [marked_blockBody, List.append_assoc]
      exact List.prefix_append _ _
    · rw [marked_blockBody]
      exact ⟨_, _, List.append_assoc _ _ _⟩
    · rw [once.render_eq, marked_blockBody]
    · rw [once.removal_eq, trimEnd_padded]
  · rintro before middle after _ rfl start stop
    have once : Marked before middle after := ⟨start, stop⟩
    refine ⟨?_, ?_, once.removal_eq path, once.blockBody.removal_eq path⟩
    · rw [once.render_eq, marked_blockBody]
    · rw [once.blockBody.render_eq, marked_blockBody]
  · cases outcome : render path source with
    | error error => exact ⟨error, rfl⟩
    | ok rendered =>
        rcases cases_of_render outcome with neither | ⟨before, middle, after, rfl, once⟩
        · exact absurd neither some
        · exact absurd ⟨before, middle, after, rfl, once.start, once.stop⟩ other

end PresenceUnlock.Cli.Binding
