import Mathlib.Data.List.Infix
import PresenceUnlock.Cli.Binding
import PresenceUnlock.Cli.Menu

/-!
# What a removal leaves behind

Both removals cut out what stands between the first start marker and the first end marker.  Whether
a marker is left over depends on what follows the cut, and in the bindings file also on what the cut
brings together.
-/

namespace PresenceUnlock.Cli

open RustStd

/-- A removal that reports success left neither marker. -/
def Clears (start stop : Text) (result : Except Text Text) : Prop :=
  ∀ rendered, result = .ok rendered → ¬ start <:+: rendered ∧ ¬ stop <:+: rendered

theorem clears_error {start stop message : Text} : Clears start stop (.error message) := nofun

theorem clears_ok_iff {start stop rendered : Text} :
    Clears start stop (.ok rendered) ↔ ¬ start <:+: rendered ∧ ¬ stop <:+: rendered := by
  constructor
  · exact fun clears => clears rendered rfl
  · rintro clear _ ⟨⟩
    exact clear

/-- A text that lacks both markers is clear, and a text with one of them is not. -/
theorem clears_ok_of_find {start stop source : Text} :
    Clears start stop (.ok source) ↔
      Text.find start source = none ∧ Text.find stop source = none := by
  rw [clears_ok_iff, Text.find_eq_none_iff, Text.find_eq_none_iff]

/-- What is found after a cut was there before it, or the cut completed it. -/
theorem infix_cut_iff {needle source : Text} {position before : Nat} (after : Nat)
    (nonempty : needle ≠ []) (found : Text.find needle source = some position)
    (within : before ≤ position) :
    needle <:+: source.take before ++ source.drop after ↔
      needle <:+: source.drop after ∨
        Text.Straddles needle (source.take before) (source.drop after) := by
  have first := (Text.exists_split_of_find found).2 nonempty before within
  rw [Text.infix_append_iff]
  exact or_iff_right first

namespace Binding

/-- A marker that the cut does not take out: it follows the cut, or the cut completes it. -/
def Leftover (marker source : Text) (start stop : Nat) : Prop :=
  marker <:+: source.drop stop ∨ Text.Straddles marker (source.take start) (source.drop stop)

/-- The texts whose removal either fails or takes everything. -/
def Removable (source : Text) : Prop :=
  match Text.find blockStart source, Text.find blockEnd source with
  | none, none => True
  | some start, some stop =>
      stop < start ∨
        ¬ Leftover blockStart source start (stop + blockEnd.length) ∧
          ¬ Leftover blockEnd source start (stop + blockEnd.length)
  | _, _ => False

/-- Blank space at the end of a text does not bear on what ends in something else. -/
theorem infix_trimEnd_newline_iff {needle source : Text} {c : Char} (last : c ∈ needle.getLast?)
    (solid : Text.isWhitespace c = false) :
    needle <:+: source.trimEnd ++ ['\n'] ↔ needle <:+: source := by
  have solid_ne : c ∉ ['\n'] := by
    rintro member
    rw [List.mem_singleton.mp member] at solid
    cases solid
  have blanks : c ∉ source.rtakeWhile Text.isWhitespace := by
    intro member
    rw [List.mem_rtakeWhile_imp member] at solid
    cases solid
  calc needle <:+: source.trimEnd ++ ['\n']
      ↔ needle <:+: source.trimEnd := Text.infix_append_of_last last solid_ne
    _ ↔ needle <:+: source.trimEnd ++ source.rtakeWhile Text.isWhitespace :=
        (Text.infix_append_of_last last blanks).symm
    _ ↔ needle <:+: source := by
        rw [Text.trimEnd, List.rdropWhile_append_rtakeWhile]

theorem clears_removal_iff (path source : Text) :
    Clears blockStart blockEnd (removal path source) ↔ Removable source := by
  rw [removal, Removable]
  cases starts : Text.find blockStart source with
  | none =>
      cases stops : Text.find blockEnd source <;> simp [clears_ok_of_find, starts, stops]
  | some start =>
      cases stops : Text.find blockEnd source with
      | none => simp [clears_ok_of_find, starts, stops]
      | some stop =>
          simp only
          split
          · rename_i reversed
            exact iff_of_true clears_error (.inl reversed)
          · rename_i ordered
            have cut_start := infix_cut_iff (stop + blockEnd.length) (by decide) starts le_rfl
            have cut_stop :=
              infix_cut_iff (stop + blockEnd.length) (by decide) stops (not_lt.mp ordered)
            rw [clears_ok_iff, infix_trimEnd_newline_iff (c := 't') rfl rfl,
              infix_trimEnd_newline_iff (c := 'd') rfl rfl, Text.replaceRange, List.nil_append,
              cut_start, cut_stop, or_iff_right ordered]
            rfl

end Binding

namespace Menu

theorem exists_scan_of_notes {mode : ScanMode} {position : Nat} {c : Char} {rest : Text}
    (noted : mode.notes c rest.head? = true) : scan mode position none (c :: rest) ≠ none := by
  rw [scan, if_pos noted, scan_eq_or]
  cases scan (mode.step c rest.head?) (position + 1) none rest <;> simp

/-- Outside strings and comments, a scan takes note of something in these first characters. -/
def startsNoted : Text → Bool
  | [] => false
  | [c] => c ≠ '/' && ScanMode.code.notes c none
  | c :: next :: _ =>
      ScanMode.code.notes c (some next) ||
        (c = ' ' && next ≠ '/' && ScanMode.code.notes next none)

theorem notes_of_ne {c : Char} (plain : c ≠ '/') (next next' : Option Char) :
    ScanMode.code.notes c next = ScanMode.code.notes c next' := by
  simp [ScanMode.notes, plain]

theorem exists_scan_of_startsNoted {front back : Text} {position : Nat}
    (starts : startsNoted front = true) : scan .code position none (front ++ back) ≠ none := by
  match front, starts with
  | [c], starts =>
      rw [startsNoted, Bool.and_eq_true, decide_eq_true_eq] at starts
      apply exists_scan_of_notes
      rw [notes_of_ne starts.1 _ none]
      exact starts.2
  | c :: next :: front, starts =>
      rw [startsNoted, Bool.or_eq_true] at starts
      rcases starts with noted | starts
      · exact exists_scan_of_notes noted
      · simp only [Bool.and_eq_true, decide_eq_true_eq] at starts
        obtain ⟨⟨rfl, plain⟩, noted⟩ := starts
        have later : scan .code (position + 1) none (next :: (front ++ back)) ≠ none := by
          apply exists_scan_of_notes
          rw [notes_of_ne plain _ none]
          exact noted
        simpa [scan, ScanMode.step, ScanMode.notes, Text.isWhitespace] using later

/-- What taking out a comma after an entry neither completes nor breaks. -/
structure Marked (marker : Text) : Prop where
  /-- It has no comma. -/
  comma : ',' ∉ marker
  /-- It has no closing brace. -/
  brace : '\x7d' ∉ marker
  /-- It is on one line. -/
  newline : '\n' ∉ marker
  /-- What it ends in does not look like a blank or a comment to the scan. -/
  ends : ∀ front back, front ≠ [] → back ≠ [] → marker = front ++ back → startsNoted back = true

theorem marked_of_tails {marker : Text} (comma : ',' ∉ marker) (brace : '\x7d' ∉ marker)
    (newline : '\n' ∉ marker)
    (ends : (marker.tail.tails.all fun back => back.isEmpty || startsNoted back) = true) :
    Marked marker where
  comma := comma
  brace := brace
  newline := newline
  ends := by
    rintro front back nonempty some_back rfl
    obtain ⟨first, front, rfl⟩ := List.exists_cons_of_ne_nil nonempty
    have member : back ∈ (first :: front ++ back).tail.tails :=
      (List.mem_tails _ _).mpr (List.suffix_append front back)
    simpa [some_back] using List.all_eq_true.mp ends back member

theorem marked_blockStart : Marked blockStart :=
  marked_of_tails (by decide) (by decide) (by decide) (by decide)

theorem marked_blockEnd : Marked blockEnd :=
  marked_of_tails (by decide) (by decide) (by decide) (by decide)

/-- A scan that takes note of a comma is outside strings and comments. -/
theorem eq_code_of_notes_comma {mode : ScanMode} {next : Option Char}
    (noted : mode.notes ',' next = true) : mode = .code := by
  cases mode with
  | code => rfl
  | string escaped => simp [ScanMode.notes] at noted
  | lineComment => cases noted
  | blockComment previous => cases noted

/-- The text around the comma that is taken out: nothing meaningful stands behind it. -/
theorem dropTrailingComma_cases (source : Text) :
    dropTrailingComma source = source ∨
      ∃ front back after position, source = front ++ ',' :: (back ++ '\x7d' :: after) ∧
        dropTrailingComma source = front ++ (back ++ '\x7d' :: after) ∧
        scan .code position none back = none := by
  rw [dropTrailingComma]
  cases closes : Text.rfind '\x7d' source with
  | none => exact .inl rfl
  | some close =>
      obtain ⟨head, after, rfl, rfl, _⟩ := Text.exists_split_of_rfind closes
      simp only [List.take_left]
      split
      · rename_i position found
        obtain ⟨front, back, rfl, at_front, noted, quiet⟩ := exists_split_of_scan found
        rw [eq_code_of_notes_comma noted] at quiet
        refine .inr ⟨front, back, after, position + 1, by simp, ?_, quiet⟩
        rw [at_front, Nat.zero_add, List.append_assoc,
          List.eraseIdx_append_of_length_le le_rfl, Nat.sub_self]
        rfl
      · exact .inl rfl

/-- Taking out the comma after the last entry neither completes a marker nor breaks one. -/
theorem infix_dropTrailingComma_iff {marker : Text} (marked : Marked marker) (source : Text) :
    marker <:+: dropTrailingComma source ↔ marker <:+: source := by
  rcases dropTrailingComma_cases source with
    same | ⟨front, back, after, position, rfl, dropped, quiet⟩
  · rw [same]
  rw [dropped]
  constructor
  · rw [Text.infix_append_iff]
    rintro (inside | inside | ⟨left, right, left_ne, right_ne, split, _, ⟨rest, begins⟩⟩)
    · exact inside.trans (List.prefix_append _ _).isInfix
    · exact inside.trans (((List.suffix_cons _ _).trans (List.suffix_append _ _)).isInfix)
    · exfalso
      have starts := marked.ends left right left_ne right_ne split
      rcases List.append_eq_append_iff.mp begins with ⟨more, rfl, _⟩ | ⟨more, rfl, rest_eq⟩
      · exact exists_scan_of_startsNoted starts quiet
      · cases more with
        | nil =>
            rw [List.append_nil] at starts
            exact @exists_scan_of_startsNoted _ [] _ starts (by rwa [List.append_nil])
        | cons c more =>
            obtain ⟨rfl, _⟩ := List.cons.inj rest_eq
            exact marked.brace (by simp [split])
  · intro inside
    rcases Text.infix_append_of_infix_cons marked.comma inside with inside | inside
    · exact inside.trans (List.prefix_append _ _).isInfix
    · exact inside.trans (List.suffix_append _ _).isInfix

/-- The texts whose removal either fails or takes everything. -/
def Removable (source : Text) : Prop :=
  match Text.find blockStart source, Text.find blockEnd source with
  | none, none => True
  | some start, some stop =>
      stop < start ∨
        ¬ blockStart <:+: source.drop (lineEnd source stop) ∧
          ¬ blockEnd <:+: source.drop (lineEnd source stop)
  | _, _ => False

/-- A cut from the beginning of a line brings nothing together. -/
theorem not_straddles_lineStart {marker source after : Text} (marked : Marked marker)
    (position : Nat) :
    ¬ Text.Straddles marker (source.take (lineStart 0 source position)) after := by
  rw [lineStart]
  split
  · rintro ⟨front, back, nonempty, _, _, ends, _⟩
    exact nonempty (List.suffix_nil.mp (by simpa using ends))
  · rename_i newline found
    obtain ⟨front, back, split, rfl, _⟩ := Text.exists_split_of_rfind found
    have line : source.take (front.length + 1) = front ++ ['\n'] := by
      calc source.take (front.length + 1)
          = (source.take position).take (front.length + 1) := by
            rw [List.take_take, Nat.min_eq_left]
            have lengths := congrArg List.length split
            simp only [List.length_take, List.length_append, List.length_cons] at lengths
            omega
        _ = front ++ ['\n'] := by simp [split, List.take_append]
    rw [line]
    exact Text.not_straddles_concat marked.newline

theorem lineStart_le {whole position : Nat} (source : Text) (within : whole ≤ position) :
    lineStart whole source position ≤ position := by
  rw [lineStart]
  split
  · exact within
  · rename_i newline found
    obtain ⟨front, back, split, rfl, _⟩ := Text.exists_split_of_rfind found
    have lengths := congrArg List.length split
    simp only [List.length_take, List.length_append, List.length_cons] at lengths
    omega

theorem clears_renderRemoval_iff (source : Text) :
    Clears blockStart blockEnd (renderRemoval source) ↔ Removable source := by
  rw [renderRemoval, Removable]
  cases starts : Text.find blockStart source with
  | none =>
      cases stops : Text.find blockEnd source <;> simp [clears_ok_of_find, starts, stops]
  | some start =>
      cases stops : Text.find blockEnd source with
      | none => simp [clears_ok_of_find, starts, stops]
      | some stop =>
          simp only
          split
          · rename_i reversed
            exact iff_of_true clears_error (.inl reversed)
          · rename_i ordered
            have before := lineStart_le source (Nat.zero_le start)
            have cut_start := infix_cut_iff (lineEnd source stop) (by decide) starts before
            have cut_stop :=
              infix_cut_iff (lineEnd source stop) (by decide) stops
                (before.trans (not_lt.mp ordered))
            rw [or_iff_left (not_straddles_lineStart marked_blockStart start)] at cut_start
            rw [or_iff_left (not_straddles_lineStart marked_blockEnd start)] at cut_stop
            rw [clears_ok_iff, infix_dropTrailingComma_iff marked_blockStart,
              infix_dropTrailingComma_iff marked_blockEnd, Text.replaceRange, List.nil_append,
              cut_start, cut_stop, or_iff_right ordered]

end Menu

/-- Exactly when a removal that reports success has removed everything, in either file. -/
theorem removals_clear_iff (path source : Text) :
    (Clears Binding.blockStart Binding.blockEnd (Binding.removal path source) ↔
        Binding.Removable source) ∧
      (Clears Menu.blockStart Menu.blockEnd (Menu.renderRemoval source) ↔
        Menu.Removable source) :=
  ⟨Binding.clears_removal_iff path source, Menu.clears_renderRemoval_iff source⟩

/-- The path of the bindings. -/
def bindingsPath : Text := ".config/hypr/bindings.lua".toList

/-- A start marker whose end marker is gone is reported as removed, and stays. -/
theorem removals_leave_start_marker :
    ¬ Clears Binding.blockStart Binding.blockEnd
        (Binding.removal bindingsPath (Binding.blockStart ++ ['\n'])) ∧
      ¬ Clears Menu.blockStart Menu.blockEnd
        (Menu.renderRemoval ("\x7b\n  ".toList ++ (Menu.blockStart ++ "\n\x7d\n".toList))) := by
  constructor
  · intro clears
    exact (clears (Binding.blockStart ++ ['\n']) (by decide)).1 (List.prefix_append _ _).isInfix
  · intro clears
    exact (clears ("\x7b\n  ".toList ++ (Menu.blockStart ++ "\n\x7d\n".toList)) (by decide)).1
      (List.infix_append' _ _ _)

end PresenceUnlock.Cli
