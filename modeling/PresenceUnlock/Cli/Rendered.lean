import PresenceUnlock.Cli.BindingEdit
import PresenceUnlock.Cli.Removal

/-!
# What setup renders, a removal finds

In a file without markers the rendered block stands alone, so a removal cuts out what setup wrote.
-/

namespace PresenceUnlock.Cli

open RustStd

/-- A text without a complete or partial block. -/
def Clear (start stop source : Text) : Prop := ¬ start <:+: source ∧ ¬ stop <:+: source

theorem Clear.of_append {start stop front back : Text} (clear : Clear start stop (front ++ back)) :
    Clear start stop front :=
  ⟨fun inside => clear.1 (inside.trans (List.prefix_append _ _).isInfix),
    fun inside => clear.2 (inside.trans (List.prefix_append _ _).isInfix)⟩

/-- What neither ends in a blank nor has two of them does not reach across two blanks. -/
theorem not_straddles_blanks {needle before after : Text} {c : Char}
    (last : c ∈ needle.getLast?) (solid : c ≠ ' ') (single : ¬ [' ', ' '] <:+: needle) :
    ¬ Text.Straddles needle before (' ' :: ' ' :: after) := by
  rintro ⟨front, back, _, nonempty, rfl, _, begins⟩
  rw [List.getLast?_append_of_ne_nil _ nonempty] at last
  match back, begins with
  | [blank], begins =>
      obtain ⟨rfl, _⟩ := List.cons_prefix_cons.mp begins
      exact solid (by simpa using last.symm)
  | blank :: blank' :: back, begins =>
      obtain ⟨rfl, later⟩ := List.cons_prefix_cons.mp begins
      obtain ⟨rfl, _⟩ := List.cons_prefix_cons.mp later
      exact single ⟨front, back, by simp⟩

/-- What lacks a character does not reach across it. -/
theorem not_straddles_cons {α : Type*} {needle before after : List α} {c : α}
    (absent : c ∉ needle) :
    ¬ Text.Straddles needle before (c :: after) := by
  rintro ⟨front, back, _, nonempty, rfl, _, begins⟩
  obtain ⟨first, back, rfl⟩ := List.exists_cons_of_ne_nil nonempty
  obtain ⟨rfl, _⟩ := List.cons_prefix_cons.mp begins
  exact absent (by simp)

namespace Binding

/-- No end marker begins in front of the one that closes the block. -/
theorem blockEnd_not_infix : ¬ blockEnd <:+: blockStart ++ (blockBody ++ blockEnd.dropLast) := by
  have line : blockBody.head? = some '\n' := by
    unfold blockBody
    decide
  obtain ⟨body, same⟩ := List.head?_eq_some_iff.mp line
  rw [← List.append_assoc, Text.infix_append_of_last (c := 'd') rfl (by decide),
    Text.infix_append_iff]
  rintro (inside | inside | straddles)
  · exact absurd inside (by decide)
  · exact colon_notMem_blockBody (inside.subset (by decide))
  · rw [same] at straddles
    exact not_straddles_cons (by decide) straddles

/-- A line break at the end completes no marker. -/
theorem clear_concat_newline {source : Text} (clear : Clear blockStart blockEnd source) :
    Clear blockStart blockEnd (source ++ ['\n']) := by
  constructor
  · rw [Text.infix_append_of_last (c := 't') rfl (by decide)]
    exact clear.1
  · rw [Text.infix_append_of_last (c := 'd') rfl (by decide)]
    exact clear.2

/-- Before the block there is nothing, or a line ends. -/
theorem exists_render {path source rendered : Text} (clear : Clear blockStart blockEnd source)
    (written : render path source = .ok rendered) :
    ∃ front, rendered = front ++ (block ++ ['\n']) ∧ Clear blockStart blockEnd front ∧
      (front = [] ∨ ∃ line, front = line ++ ['\n']) := by
  rw [render, Text.matchIndices, Text.matchIndices, Text.matchIndicesFrom_eq_nil clear.1,
    Text.matchIndicesFrom_eq_nil clear.2] at written
  have lines : ∀ {text : Text}, ¬ (text ≠ [] ∧ ¬ ['\n', '\n'] <:+ text) →
      text = [] ∨ ∃ line, text = line ++ ['\n'] := by
    intro text complete
    by_cases empty : text = []
    · exact .inl empty
    · obtain ⟨front, rfl⟩ := not_not.mp (not_and.mp complete empty)
      exact .inr ⟨front ++ ['\n'], by simp⟩
  dsimp only at written
  split at written
  · have clear' := clear_concat_newline clear
    split at written
    · cases written
      exact ⟨_, by simp, clear_concat_newline clear', .inr ⟨_, rfl⟩⟩
    · cases written
      exact ⟨_, by simp, clear', .inr ⟨_, rfl⟩⟩
  · split at written
    · cases written
      exact ⟨_, by simp, clear_concat_newline clear, .inr ⟨_, rfl⟩⟩
    · rename_i complete
      cases written
      exact ⟨_, by simp, clear, lines complete⟩

/-- What setup wrote to a file without markers, a removal clears. -/
theorem clears_removal_of_render {path source rendered : Text}
    (clear : Clear blockStart blockEnd source) (written : render path source = .ok rendered) :
    Clears blockStart blockEnd (removal path rendered) := by
  rw [clears_removal_iff]
  obtain ⟨front, rfl, front_clear, joint⟩ := exists_render clear written
  have apart : ∀ {marker after : Text}, '\n' ∉ marker → ¬ Text.Straddles marker front after := by
    intro marker after single straddles
    rcases joint with rfl | ⟨line, rfl⟩
    · obtain ⟨before, _, nonempty, _, _, ends, _⟩ := straddles
      exact nonempty (List.suffix_nil.mp ends)
    · exact Text.not_straddles_concat single straddles
  have split : front ++ (block ++ ['\n']) =
      front ++ (blockStart ++ (blockBody ++ (blockEnd ++ ['\n']))) := by simp [block]
  have split' : front ++ (block ++ ['\n']) =
      (front ++ (blockStart ++ blockBody)) ++ (blockEnd ++ ['\n']) := by simp [block]
  have starts : Text.find blockStart (front ++ (block ++ ['\n'])) = some front.length := by
    rw [split]
    apply Text.find_append _ (by decide)
    rw [Text.infix_append_iff]
    rintro (inside | inside | straddles)
    · exact front_clear.1 inside
    · exact absurd inside (by decide)
    · exact apart (by decide) straddles
  have stops : Text.find blockEnd (front ++ (block ++ ['\n'])) =
      some (front ++ (blockStart ++ blockBody)).length := by
    rw [split']
    apply Text.find_append _ (by decide)
    rw [List.append_assoc, Text.infix_append_iff]
    rintro (inside | inside | straddles)
    · exact front_clear.2 inside
    · exact blockEnd_not_infix inside
    · exact apart (by decide) straddles
  have rest : (front ++ (block ++ ['\n'])).drop
      ((front ++ (blockStart ++ blockBody)).length + blockEnd.length) = ['\n'] := by
    rw [split', ← List.drop_drop, List.drop_left, List.drop_left]
  have left : ∀ {marker : Text}, ¬ marker <:+: ['\n'] → '\n' ∉ marker →
      ¬ Leftover marker (front ++ (block ++ ['\n'])) front.length
        ((front ++ (blockStart ++ blockBody)).length + blockEnd.length) := by
    intro marker absent single
    rw [Leftover, rest, List.take_left]
    rintro (inside | straddles)
    · exact absent inside
    · exact apart single straddles
  rw [Removable, starts, stops]
  exact .inr ⟨left (by decide) (by decide), left (by decide) (by decide)⟩

end Binding

namespace Menu

/-- What stands in the block before the end marker. -/
def blockBody : Text := '\n' :: (blockRows ++ ['\n', ' ', ' '])

theorem block_eq : block = ' ' :: ' ' :: (blockStart ++ (blockBody ++ (blockEnd ++ ['\n']))) := by
  simp [block, blockBody]

/-- A comma completes no marker. -/
theorem clear_separate {source : Text} (clear : Clear blockStart blockEnd source) (close : Nat) :
    Clear blockStart blockEnd (separate source close) := by
  have insert : ∀ {marker : Text}, ',' ∉ marker → ¬ marker <:+: source → ∀ position,
      ¬ marker <:+: source.insertStr position [','] := by
    intro marker comma absent position inside
    rcases Text.infix_append_of_infix_cons comma inside with inside | inside
    · exact absent (inside.trans (List.take_prefix _ _).isInfix)
    · exact absent (inside.trans (List.drop_suffix _ _).isInfix)
  rw [separate]
  split
  · split
    · exact ⟨insert (by decide) clear.1 _, insert (by decide) clear.2 _⟩
    · exact clear
  · exact clear

/-- The block goes in front of the line of the closing brace, or of the brace on the only line. -/
theorem exists_renderEntry {source rendered : Text} (clear : Clear blockStart blockEnd source)
    (written : renderEntry source = .ok rendered) :
    ∃ close close' front back, Text.rfind '\x7d' source = some close ∧
      Text.rfind '\x7d' (separate source close) = some close' ∧
      separate source close = front ++ back ∧
      front.length = lineStart close' (separate source close) close' ∧
      rendered = front ++ (block ++ back) := by
  have unmarked : renderRemoval source = .ok source := by
    rw [renderRemoval, Text.find_eq_none_iff.mpr clear.1]
  rw [renderEntry_of_removed unmarked] at written
  split at written
  · cases written
  · rename_i close closes
    split at written
    · cases written
    · rename_i close' closes'
      cases written
      refine ⟨close, close', _, _, closes, closes', (List.take_append_drop _ _).symm, ?_, rfl⟩
      have before := lineStart_le (separate source close) (le_refl close')
      obtain ⟨head, after, split, rfl, _⟩ := Text.exists_split_of_rfind closes'
      have lengths := congrArg List.length split
      rw [List.length_append, List.length_cons] at lengths
      rw [List.length_take]
      omega

theorem block_slashless : ¬ ['/', '/'] <:+: blockRows := by
  have unfound : Text.contains ['/', '/'] blockRows = false := by
    unfold blockRows rows setupRow manageRow removeRow
    simp only [List.map_cons, List.map_nil, Row.text]
    unfold row field presenceWhen appliedCondition setupEntryId manageEntryId removeEntryId
    rw [String.toList_append]
    repeat rw [String.toList_ofList]
    decide +kernel
  rw [← Text.contains_eq_true_iff, unfound]
  exact Bool.false_ne_true

/-- No marker stands between the markers. -/
theorem infix_blockBody {marker : Text} (slashes : ['/', '/'] <:+: marker) (newline : '\n' ∉ marker)
    (solid : ¬ marker <:+: [' ', ' ']) : ¬ marker <:+: blockBody := by
  have apart : ∀ {text : Text}, ¬ marker <:+: text → ¬ marker <:+: '\n' :: text := by
    intro text absent inside
    rcases List.infix_cons_iff.mp inside with begins | inside
    · cases marker with
      | nil => exact absent List.nil_infix
      | cons c marker =>
          obtain ⟨rfl, _⟩ := List.cons_prefix_cons.mp begins
          exact newline List.mem_cons_self
    · exact absent inside
  apply apart
  rw [Text.infix_append_iff]
  rintro (inside | inside | straddles)
  · exact block_slashless (slashes.trans inside)
  · exact apart solid inside
  · exact not_straddles_cons newline straddles

/-- The block that setup wrote is the first one. -/
theorem find_blockStart_block {front : Text} (back : Text)
    (clear : Clear blockStart blockEnd front) :
    Text.find blockStart (front ++ (block ++ back)) = some (front ++ [' ', ' ']).length := by
  have split : front ++ (block ++ back) =
      (front ++ [' ', ' ']) ++ (blockStart ++ (blockBody ++ (blockEnd ++ '\n' :: back))) := by
    simp [block_eq]
  rw [split]
  apply Text.find_append _ (by decide)
  rw [List.append_assoc, Text.infix_append_iff]
  rintro (inside | inside | straddles)
  · exact clear.1 inside
  · exact absurd inside (by decide)
  · exact not_straddles_blanks (c := 't') rfl (by decide) (by decide) straddles

/-- In a rendered file, a removal cuts out the block, or all from the beginning if the block is not
at the beginning of a line. -/
theorem renderRemoval_block {front back : Text}
    (clear : Clear blockStart blockEnd (front ++ back)) :
    renderRemoval (front ++ (block ++ back)) =
      .ok (dropTrailingComma (front.take (lineStart 0 front front.length) ++ back)) := by
  have front_clear := clear.of_append
  have split : front ++ (block ++ back) =
      (front ++ [' ', ' ']) ++ (blockStart ++ (blockBody ++ (blockEnd ++ '\n' :: back))) := by
    simp [block_eq]
  have split' : front ++ (block ++ back) =
      (front ++ ' ' :: ' ' :: (blockStart ++ blockBody)) ++ (blockEnd ++ '\n' :: back) := by
    simp [block_eq]
  have starts := find_blockStart_block back front_clear
  have stops : Text.find blockEnd (front ++ (block ++ back)) =
      some (front ++ ' ' :: ' ' :: (blockStart ++ blockBody)).length := by
    rw [split']
    apply Text.find_append _ (by decide)
    rw [Text.infix_append_of_last (c := 'd') rfl (by decide), Text.infix_append_iff]
    rintro (inside | inside | straddles)
    · exact front_clear.2 inside
    · change blockEnd <:+: (' ' :: ' ' :: blockStart) ++ blockBody at inside
      rcases Text.infix_append_iff.mp inside with inside | inside | straddles
      · exact absurd inside (by decide)
      · exact infix_blockBody (by decide) (by decide) (by decide) inside
      · exact not_straddles_cons (by decide) straddles
    · exact not_straddles_blanks (c := 'd') rfl (by decide) (by decide) straddles
  have line : lineStart 0 (front ++ (block ++ back)) (front ++ [' ', ' ']).length =
      lineStart 0 front front.length := by
    rw [split, lineStart, List.take_left, Text.rfind_append_of_notMem _ (by decide), lineStart,
      List.take_length]
  have stop_line : Text.find ['\n'] (blockEnd ++ '\n' :: back) = some blockEnd.length := by
    change Text.find ['\n'] (blockEnd ++ (['\n'] ++ back)) = _
    exact Text.find_append back (by decide) (by decide)
  have rest : (front ++ (block ++ back)).drop (lineEnd (front ++ (block ++ back))
      (front ++ ' ' :: ' ' :: (blockStart ++ blockBody)).length) = back := by
    rw [lineEnd, split', List.drop_left, stop_line]
    dsimp only
    rw [Nat.add_assoc, ← List.drop_drop, List.drop_left, ← List.drop_drop, List.drop_left]
    rfl
  have ordered : ¬ (front ++ [' ', ' ']).length >
      (front ++ ' ' :: ' ' :: (blockStart ++ blockBody)).length := by
    have indented : front ++ [' ', ' '] <+: front ++ ' ' :: ' ' :: (blockStart ++ blockBody) :=
      ⟨blockStart ++ blockBody, List.append_assoc ..⟩
    exact not_lt.mpr indented.length_le
  have before := lineStart_le front (Nat.zero_le front.length)
  rw [renderRemoval, starts, stops]
  dsimp only
  rw [if_neg ordered, Text.replaceRange, line, rest, List.nil_append,
    List.take_append_of_le_length before]

/-- What setup wrote to a file without markers, a removal clears. -/
theorem clears_renderRemoval_of_renderEntry {source rendered : Text}
    (clear : Clear blockStart blockEnd source) (written : renderEntry source = .ok rendered) :
    Clears blockStart blockEnd (renderRemoval rendered) := by
  obtain ⟨close, _, front, back, _, _, split, _, rfl⟩ := exists_renderEntry clear written
  have clear' := clear_separate clear close
  rw [split] at clear'
  have cut : ∀ {marker : Text}, Marked marker → ¬ marker <:+: front ++ back →
      ¬ marker <:+: front.take (lineStart 0 front front.length) ++ back := by
    intro marker marked absent inside
    rcases Text.infix_append_iff.mp inside with inside | inside | straddles
    · exact absent ((inside.trans (List.take_prefix _ _).isInfix).trans
        (List.prefix_append _ _).isInfix)
    · exact absent (inside.trans (List.suffix_append _ _).isInfix)
    · exact not_straddles_lineStart marked _ straddles
  rw [renderRemoval_block clear', clears_ok_iff, infix_dropTrailingComma_iff marked_blockStart,
    infix_dropTrailingComma_iff marked_blockEnd]
  exact ⟨cut marked_blockStart clear'.1, cut marked_blockEnd clear'.2⟩

end Menu

end PresenceUnlock.Cli
