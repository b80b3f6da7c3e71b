import PresenceUnlock.Cli.MenuEntry

/-!
# Setting up again, and removing

Setup removes the block before it adds one.  It comes to the same file, and a removal comes back to
the same menu, if the removal takes out what setup put in: the lines of the block, and its comma.
-/

namespace PresenceUnlock.Cli.Menu

open RustStd Jsonc

/-- The closing brace is not on the first line, and the comma before it, if any, stands where setup
would put one.  Where a block comment is mistaken for closed, the scan may also end in a string, or
take a comma for the last one that is not. -/
def Reversible (source : Text) : Prop :=
  ∃ head after, source = head ++ '\x7d' :: after ∧ '\x7d' ∉ after ∧ '\n' ∈ head ∧
    (∀ escaped, ScanMode.code.after none head ≠ .string escaped) ∧
    ∀ front gap, head = front ++ ',' :: gap → lastMeaningful head = some (front.length, ',') →
      Tight front gap ∧
        (Misread .rest head → parse (front ++ (gap ++ '\x7d' :: after)) = parse source)

section Block

variable {source other head after top mid front back front' back' rendered : Text}
  {members : List Member}

/-- Setup only depends on what a removal leaves. -/
theorem renderEntry_congr (removed : renderRemoval source = .ok other)
    (clear : Clear blockStart blockEnd other) : renderEntry source = renderEntry other := by
  have unmarked : renderRemoval other = .ok other := by
    rw [renderRemoval, Text.find_eq_none_iff.mpr clear.1]
  rw [renderEntry, renderEntry, removed, unmarked]

/-- The block stands where its start marker is found. -/
theorem block_unique (clear : Clear blockStart blockEnd front)
    (clear' : Clear blockStart blockEnd front')
    (same : front ++ (block ++ back) = front' ++ (block ++ back')) :
    front = front' ∧ back = back' := by
  have found := find_blockStart_block back clear
  rw [same, find_blockStart_block back' clear'] at found
  have lengths := Option.some.inj found
  simp only [List.length_append, Nat.add_right_cancel_iff] at lengths
  obtain ⟨fronts, rest⟩ := List.append_inj same lengths.symm
  exact ⟨fronts, List.append_cancel_left rest⟩

theorem newline_mem_separated : '\n' ∈ separated head ↔ '\n' ∈ head := by
  rcases lastMeaningful_cases head with none | ⟨front, c, gap, rfl, ends⟩
  · rw [separated, none]
  · rw [ends.separated_eq]
    simp [newline_notMem_commaAfter]

/-- A removal takes out the lines of the block, if they are lines of their own. -/
theorem renderRemoval_of_line (absent : '\x7d' ∉ after)
    (clear : Clear blockStart blockEnd (top ++ mid ++ '\x7d' :: after))
    (broken : ∃ line, top = line ++ ['\n']) :
    renderRemoval (top ++ (block ++ (mid ++ '\x7d' :: after))) =
      .ok (unseparated (top ++ mid) ++ '\x7d' :: after) := by
  rw [List.append_assoc] at clear
  have whole : lineStart 0 top top.length = top.length := by
    obtain ⟨line, rfl⟩ := broken
    rw [lineStart, List.take_length, Text.rfind_append_cons _ List.not_mem_nil]
    simp
  rw [renderRemoval_block clear, whole, List.take_length, ← List.append_assoc,
    dropTrailingComma_append _ absent]

/-- On the first line, it takes out everything in front of the brace. -/
theorem renderRemoval_of_single (absent : '\x7d' ∉ after)
    (clear : Clear blockStart blockEnd (top ++ '\x7d' :: after)) (single : '\n' ∉ top) :
    renderRemoval (top ++ (block ++ '\x7d' :: after)) = .ok ('\x7d' :: after) := by
  have whole : lineStart 0 top top.length = 0 := by
    rw [lineStart, List.take_length, Text.rfind_eq_none_iff.mpr single]
  rw [renderRemoval_block clear, whole]
  exact congrArg Except.ok (dropTrailingComma_append [] absent)

theorem parse_closeBrace_ne (value : Json) : parse ('\x7d' :: after) ≠ some value := by
  intro parsed
  obtain ⟨tokens, mode, late, lexed, _, ran⟩ := parse_eq_some.mp parsed
  obtain ⟨first, middle, later, stepped, _, rfl⟩ := lexFrom_cons_eq_some.mp lexed
  cases stepped
  cases ran

/-- Setup puts the block in front of the line of the last brace. -/
theorem exists_of_renderEntry (absent : '\x7d' ∉ after)
    (clear : Clear blockStart blockEnd (head ++ '\x7d' :: after))
    (written : renderEntry (head ++ '\x7d' :: after) = .ok rendered) :
    ∃ top mid, separated head = top ++ mid ∧ LastLine top mid ∧
      rendered = top ++ (block ++ (mid ++ '\x7d' :: after)) := by
  obtain ⟨top, mid, same, line⟩ := exists_lastLine (separated head)
  rw [renderEntry_append absent clear line same] at written
  exact ⟨top, mid, same, line, (Except.ok.inj written).symm⟩

theorem clear_separated (clear : Clear blockStart blockEnd (head ++ '\x7d' :: after)) :
    Clear blockStart blockEnd (separated head ++ '\x7d' :: after) := by
  rw [← separate_append]
  exact clear_separate clear head.length

/-- The block comes to stand where it was exactly if the comma does. -/
theorem renderEntry_eq_iff {other : Text} (absent : '\x7d' ∉ after)
    (clear : Clear blockStart blockEnd (head ++ '\x7d' :: after))
    (clear' : Clear blockStart blockEnd (other ++ '\x7d' :: after))
    (written : renderEntry (head ++ '\x7d' :: after) = .ok rendered) :
    renderEntry (other ++ '\x7d' :: after) = .ok rendered ↔ separated other = separated head := by
  obtain ⟨top, mid, same, line, rfl⟩ := exists_of_renderEntry absent clear written
  constructor
  · intro written'
    obtain ⟨top', mid', same', line', rendered_eq⟩ := exists_of_renderEntry absent clear' written'
    have top_clear : Clear blockStart blockEnd top := by
      have whole := clear_separated clear
      rw [same] at whole
      exact whole.of_append.of_append
    have top_clear' : Clear blockStart blockEnd top' := by
      have whole := clear_separated clear'
      rw [same'] at whole
      exact whole.of_append.of_append
    obtain ⟨rfl, rest⟩ := block_unique top_clear top_clear' rendered_eq
    rw [same, same', List.append_cancel_right rest]
  · intro stays
    exact renderEntry_append absent clear' line (stays.trans same)

theorem roundTrips_iff_of_broken (absent : '\x7d' ∉ after)
    (clear : Clear blockStart blockEnd (head ++ '\x7d' :: after))
    (written : renderEntry (head ++ '\x7d' :: after) = .ok rendered) (broken : '\n' ∈ head) :
    (renderEntry rendered = .ok rendered ∧ ∃ removed, renderRemoval rendered = .ok removed ∧
        Clear blockStart blockEnd removed ∧ parse removed = some (.object members)) ↔
      separated (unseparated (separated head)) = separated head ∧
        parse (unseparated (separated head) ++ '\x7d' :: after) = some (.object members) := by
  obtain ⟨top, mid, same, line, rendered_eq⟩ := exists_of_renderEntry absent clear written
  have line_break : ∃ before, top = before ++ ['\n'] := by
    rcases line.begins with ⟨rfl, single⟩ | line_break
    · rw [← newline_mem_separated, same, List.append_nil] at broken
      exact (single broken).elim
    · exact line_break
  have clear' := clear_separated clear
  have removed : renderRemoval rendered =
      .ok (unseparated (separated head) ++ '\x7d' :: after) := by
    rw [same] at clear' ⊢
    rw [rendered_eq, renderRemoval_of_line absent clear' line_break]
  have removed_clear :
      Clear blockStart blockEnd (unseparated (separated head) ++ '\x7d' :: after) :=
    clears_renderRemoval_of_renderEntry clear written _ removed
  rw [renderEntry_congr removed removed_clear,
    renderEntry_eq_iff absent clear removed_clear written,
    removed]
  constructor
  · rintro ⟨stable, _, ⟨⟩, _, parsed⟩
    exact ⟨stable, parsed⟩
  · rintro ⟨stable, parsed⟩
    exact ⟨stable, _, rfl, removed_clear, parsed⟩

theorem not_roundTrips_of_single (absent : '\x7d' ∉ after)
    (clear : Clear blockStart blockEnd (head ++ '\x7d' :: after))
    (written : renderEntry (head ++ '\x7d' :: after) = .ok rendered) (single : '\n' ∉ head) :
    ¬ ∃ removed, renderRemoval rendered = .ok removed ∧
      Clear blockStart blockEnd removed ∧ parse removed = some (.object members) := by
  obtain ⟨top, mid, same, line, rfl⟩ := exists_of_renderEntry absent clear written
  have clear' := clear_separated clear
  rw [← newline_mem_separated, same] at single
  rcases line.begins with ⟨rfl, single'⟩ | ⟨before, rfl⟩
  · rw [same, List.append_nil] at clear'
    rw [List.nil_append, renderRemoval_of_single absent clear' single']
    rintro ⟨_, ⟨⟩, _, parsed⟩
    exact parse_closeBrace_ne _ parsed
  · simp at single

end Block

section Comma

variable {source front gap after head : Text} {members : List Member}

/-- What reads a comma was outside of strings and comments. -/
theorem outside_of_step_comma {mode middle : Mode} {tokens : List Token} (outside : middle.Outside)
    (stepped : mode.step ',' = some (tokens, middle)) : mode.Outside := by
  cases mode with
  | rest | atom => trivial
  | string units escape =>
      cases escape with
      | outside =>
          cases stepped
          exact outside
      | begun | hex => cases stepped
  | slash => cases stepped
  | lineComment =>
      cases stepped
      exact outside
  | blockComment star =>
      have stays : ¬ (star = true ∧ ',' = '/') := by simp
      rw [Mode.step, if_neg stays] at stepped
      cases stepped
      exact outside

/-- Without the comma after its last member, an object reads the same. -/
theorem parse_of_trailing_comma
    (parsed : parse (front ++ ',' :: (gap ++ '\x7d' :: after)) = some (.object members))
    (absent : '\x7d' ∉ after) (plain : ¬ Misread .rest (front ++ ',' :: gap))
    (ends : Ends front ',' gap) :
    parse (front ++ (gap ++ '\x7d' :: after)) = some (.object members) := by
  have whole : front ++ ',' :: (gap ++ '\x7d' :: after) =
      (front ++ ',' :: gap) ++ '\x7d' :: after := by
    simp
  have plain' : ¬ Misleads (front ++ ',' :: (gap ++ '\x7d' :: after)) := by
    rintro ⟨head, after', same, absent', misread⟩
    obtain ⟨rfl, _⟩ := last_brace_unique absent absent' (whole.symm.trans same)
    exact plain misread
  obtain ⟨front', c, gap', after', init, last, mode, split, side⟩ := exists_split parsed plain'
  have whole' : (front ++ ',' :: gap) ++ '\x7d' :: after =
      (front' ++ c :: gap') ++ '\x7d' :: after' := by
    rw [← whole, split.source]
    simp
  obtain ⟨heads, rfl⟩ := last_brace_unique absent split.brace whole'
  have found := lastMeaningful_eq_iff.mpr ends
  rw [heads, split.found] at found
  obtain ⟨lengths, rfl⟩ := Prod.mk.inj (Option.some.inj found)
  obtain ⟨rfl, behind⟩ := List.append_inj heads lengths.symm
  cases behind
  have token := split.token
  obtain rfl : last = .comma := token.comma.mp rfl
  rcases side with closing | trailing
  · obtain ⟨final, lexed, ended⟩ := closing.ended
    obtain rfl := closing.outside
    obtain ⟨tokens, middle, late, read, outside, pending, all⟩ := token.reads
    obtain ⟨before, mode, _, fronts, lexed', rfl⟩ := lexFrom_append_eq_some.mp read
    obtain ⟨here, middle', _, stepped, stopped, rfl⟩ := lexFrom_cons_eq_some.mp lexed'
    cases stopped
    have open_front := outside_of_step_comma outside stepped
    obtain ⟨late', pending', rfl, rfl⟩ := Mode.eq_of_step_punctuation open_front rfl stepped
    cases pending
    have init_eq : before ++ late' = init := by
      have joined : (before ++ late') ++ [Token.comma] = init ++ [.comma] := by simpa using all
      exact List.append_cancel_right joined
    have rest := lexFrom_append token.gap (lexFrom_brace lexed)
    have joined : lexFrom .rest (front ++ (gap ++ '\x7d' :: after)) =
        some (init ++ [.closeBrace], final) := by
      obtain ⟨first, text, split'⟩ :=
        List.exists_cons_of_ne_nil (show gap ++ '\x7d' :: after ≠ [] by simp)
      have between : Mode.rest.Between := trivial
      have solid := token.solid between (solid_brace after)
      rw [split'] at rest solid ⊢
      have continued := lexFrom_of_outside open_front (solid first rfl) pending' rest
      rw [lexFrom_append fronts continued, ← init_eq]
      simp
    obtain ⟨state, ran, closes⟩ := closing.closes
    refine parse_eq_some.mpr ⟨_, final, [], joined, ended, ?_⟩
    rw [List.append_nil]
    exact State.run_closeBrace (State.closes_of_run_comma ran closes) (.afterMember [] members)
  · cases trailing.brace

/-- What setup and a removal make of the text before the brace. -/
theorem roundTrips_iff_reversible
    (parsed : parse (head ++ '\x7d' :: after) = some (.object members))
    (absent : '\x7d' ∉ after) :
    (separated (unseparated (separated head)) = separated head ∧
        parse (unseparated (separated head) ++ '\x7d' :: after) = some (.object members)) ↔
      (∀ escaped, ScanMode.code.after none head ≠ .string escaped) ∧
        ∀ front gap, head = front ++ ',' :: gap → lastMeaningful head = some (front.length, ',') →
          Tight front gap ∧ (Misread .rest head →
            parse (front ++ (gap ++ '\x7d' :: after)) = parse (head ++ '\x7d' :: after)) := by
  rw [stable_iff]
  constructor
  · rintro ⟨⟨closed, tight⟩, parsed'⟩
    refine ⟨closed, fun front gap split found => ?_⟩
    subst split
    rw [lastMeaningful_eq_iff] at found
    refine ⟨tight front gap rfl found, fun _ => ?_⟩
    rw [found.separated_comma, found.unseparated_comma, List.append_assoc] at parsed'
    rw [parsed, parsed']
  · rintro ⟨closed, comma⟩
    refine ⟨⟨closed, fun front gap split ends => ?_⟩, ?_⟩
    · subst split
      exact (comma front gap rfl (lastMeaningful_eq_iff.mpr ends)).1
    · by_cases trailing : ∃ front gap, head = front ++ ',' :: gap ∧ Ends front ',' gap
      · obtain ⟨front, gap, rfl, ends⟩ := trailing
        rw [ends.separated_comma, ends.unseparated_comma, List.append_assoc]
        by_cases misread : Misread .rest (front ++ ',' :: gap)
        · rw [(comma front gap rfl (lastMeaningful_eq_iff.mpr ends)).2 misread, parsed]
        · have whole :
            front ++ ',' :: gap ++ '\x7d' :: after = front ++ ',' :: (gap ++ '\x7d' :: after) := by
            simp
          rw [whole] at parsed
          exact parse_of_trailing_comma parsed absent misread ends
      · rw [unseparated_separated closed
            fun front gap split ends => trailing ⟨front, gap, split, ends⟩]
        exact parsed

end Comma

/-- Exactly when setting up again changes nothing, and a removal gives the menu back. -/
theorem renderEntry_roundTrips_iff {source rendered : Text} {members : List Member}
    (clear : Clear blockStart blockEnd source) (parsed : parse source = some (.object members))
    (written : renderEntry source = .ok rendered) :
    (renderEntry rendered = .ok rendered ∧ ∃ removed, renderRemoval rendered = .ok removed ∧
      Clear blockStart blockEnd removed ∧ parse removed = some (.object members)) ↔
      Reversible source := by
  obtain ⟨head, after, rfl, absent⟩ :
      ∃ head after, source = head ++ '\x7d' :: after ∧ '\x7d' ∉ after := by
    obtain ⟨close, _, _, _, closes, _⟩ := exists_renderEntry clear written
    obtain ⟨head, after, split, _, absent⟩ := Text.exists_split_of_rfind closes
    exact ⟨head, after, split, absent⟩
  have cut : Reversible (head ++ '\x7d' :: after) ↔ '\n' ∈ head ∧
      (∀ escaped, ScanMode.code.after none head ≠ .string escaped) ∧
      ∀ front gap, head = front ++ ',' :: gap → lastMeaningful head = some (front.length, ',') →
        Tight front gap ∧ (Misread .rest head →
          parse (front ++ (gap ++ '\x7d' :: after)) = parse (head ++ '\x7d' :: after)) := by
    constructor
    · rintro ⟨head', after', same, absent', reversible⟩
      obtain ⟨rfl, rfl⟩ := last_brace_unique absent absent' same
      exact reversible
    · exact fun reversible => ⟨head, after, rfl, absent, reversible⟩
  rw [cut]
  by_cases broken : '\n' ∈ head
  · rw [roundTrips_iff_of_broken absent clear written broken,
      roundTrips_iff_reversible parsed absent, and_iff_right broken]
  · refine iff_of_false ?_ fun reversible => broken reversible.1
    rintro ⟨_, removal⟩
    exact not_roundTrips_of_single absent clear written broken removal

/-- The menu with one entry comes back. -/
theorem renderEntry_roundTrips_personalMenu :
    ∃ rendered, renderEntry rendered = .ok rendered ∧
      ∃ removed, renderRemoval rendered = .ok removed ∧ Clear blockStart blockEnd removed ∧
        parse removed = some (.object [personalMember]) := by
  have clear : Clear blockStart blockEnd personalMenu := by
    unfold Clear
    decide +kernel
  obtain ⟨rendered, written⟩ : ∃ rendered, renderEntry personalMenu = .ok rendered := ⟨_, rfl⟩
  refine ⟨rendered, (renderEntry_roundTrips_iff clear rfl written).mpr ?_⟩
  refine ⟨"\x7b\n  \"personal\": \x7b\"label\":\"Personal\"\x7d\n".toList, ['\n'], rfl,
    by decide, by decide,
    fun escaped => by cases escaped <;> decide, ?_⟩
  intro front gap _ found
  have last : (lastMeaningful "\x7b\n  \"personal\": \x7b\"label\":\"Personal\"\x7d\n".toList).map
      Prod.snd = some '\x7d' := by decide +kernel
  rw [found] at last
  cases last

/-- A menu on one line. -/
def oneLineMenu : Text := "\x7b\"a\": 1\x7d".toList

/-- A removal takes out all of a menu that is on one line, but for its brace. -/
theorem renderEntry_loses_oneLineMenu :
    Clear blockStart blockEnd oneLineMenu ∧
      parse oneLineMenu = some (.object [(encode ['a'], .scalar (.number ['1']))]) ∧
      ∃ rendered, renderEntry oneLineMenu = .ok rendered ∧
        ¬ (renderEntry rendered = .ok rendered ∧ ∃ removed, renderRemoval rendered = .ok removed ∧
          Clear blockStart blockEnd removed ∧
          parse removed = some (.object [(encode ['a'], .scalar (.number ['1']))])) := by
  have clear : Clear blockStart blockEnd oneLineMenu := by
    unfold Clear
    decide +kernel
  have line : LastLine "\x7b\"a\": 1,".toList [] := ⟨List.not_mem_nil, .inl ⟨rfl, by decide⟩⟩
  have same : separated "\x7b\"a\": 1".toList = "\x7b\"a\": 1,".toList ++ [] := by decide +kernel
  have split : "\x7b\"a\": 1".toList ++ '\x7d' :: [] = oneLineMenu := by decide
  have written := renderEntry_append List.not_mem_nil (split ▸ clear) line same
  rw [split, List.nil_append] at written
  refine ⟨clear, rfl, _, written, ?_⟩
  rintro ⟨_, removed, written, _, parsed⟩
  have left : renderRemoval ("\x7b\"a\": 1,".toList ++ (block ++ ['\x7d'])) = .ok ['\x7d'] := by
    have clear' : Clear blockStart blockEnd ("\x7b\"a\": 1,".toList ++ ['\x7d']) := by
      unfold Clear
      decide +kernel
    rw [renderRemoval_block clear']
    decide +kernel
  rw [left] at written
  cases written
  exact parse_closeBrace_ne _ parsed

end PresenceUnlock.Cli.Menu
