import PresenceUnlock.Cli.MenuLayout
import PresenceUnlock.Cli.MenuRows

/-!
# Installing the rows

The rows are added after the user's entries if nothing else stands on the line of the closing brace.
-/

namespace PresenceUnlock.Cli.Menu

open RustStd Jsonc

/-- The last brace closes the root object, and on its line there are only blanks and comments before
it, unless the whole text before it is one line; a block comment may not reach into the line. -/
def Placed (source : Text) : Prop :=
  ∃ top mid after, source = top ++ (mid ++ '\x7d' :: after) ∧ '\x7d' ∉ after ∧ LastLine top mid ∧
    (∃ tokens mode, lexFrom .rest top = some (tokens, mode) ∧ mode.Outside) ∧
    lexFrom .rest mid = some ([], .rest)

section Lines

variable {front gap top mid text : Text} {c : Char} {init tokens : List Token} {last : Token}
  {mode mode' : Mode}

theorem not_isWhitespace_of_notes {scan : ScanMode} {next : Option Char}
    (noted : scan.notes c next = true) : Text.isWhitespace c = false := by
  cases scan with
  | code =>
      by_contra blank
      have unnoted : ScanMode.code.notes c next = false := by
        refine notes_code_eq_false.mpr ⟨?_, .inl (by simpa using blank)⟩
        rintro rfl
        exact blank rfl
      rw [noted] at unnoted
      cases unnoted
  | string escaped =>
      simp only [ScanMode.notes, Bool.and_eq_true, decide_eq_true_eq] at noted
      rw [noted.2]
      rfl
  | lineComment | blockComment => cases noted

theorem ne_newline_of_lastMeaningful {position : Nat}
    (found : lastMeaningful text = some (position, c)) : c ≠ '\n' := by
  obtain ⟨_, _, _, _, noted, _⟩ := exists_split_of_scan found
  rintro rfl
  cases not_isWhitespace_of_notes noted

/-- The last line begins behind the last token, or before it, or there is one line only; the comma
does not bear on it. -/
theorem lastLine_cases (front gap : Text) (solid : c ≠ '\n') :
    (∃ g₁ g₂, gap = g₁ ++ g₂ ∧ (∃ line, g₁ = line ++ ['\n']) ∧
        ∀ sep, LastLine (front ++ c :: (sep ++ g₁)) g₂) ∨
      (∃ f₁ f₂, front = f₁ ++ f₂ ∧ (∃ line, f₁ = line ++ ['\n']) ∧
        ∀ sep, '\n' ∉ sep → LastLine f₁ (f₂ ++ c :: (sep ++ gap))) ∨
      ∀ sep, '\n' ∉ sep → LastLine (front ++ c :: (sep ++ gap)) [] := by
  obtain ⟨g₁, g₂, rfl, line⟩ := exists_lastLine gap
  rcases line.begins with ⟨rfl, single⟩ | ⟨before, rfl⟩
  · right
    obtain ⟨f₁, f₂, rfl, line'⟩ := exists_lastLine front
    rcases line'.begins with ⟨rfl, single'⟩ | ⟨before, rfl⟩
    · right
      intro sep single_sep
      refine ⟨List.not_mem_nil, .inl ⟨rfl, ?_⟩⟩
      simp [single, single', single_sep, Ne.symm solid]
    · left
      refine ⟨_, f₂, rfl, ⟨before, rfl⟩, fun sep single_sep => ⟨?_, .inr ⟨before, rfl⟩⟩⟩
      simp [single, line'.single, single_sep, Ne.symm solid]
  · left
    refine ⟨_, g₂, rfl, ⟨before, rfl⟩, fun sep =>
      ⟨line.single, .inr ⟨front ++ c :: (sep ++ before), ?_⟩⟩⟩
    simp

/-- After the end of a line, nothing but a block comment is open. -/
theorem mode_of_newline (broken : ∃ line, text = line ++ ['\n'])
    (lexed : lexFrom mode text = some (tokens, mode')) :
    mode' = .rest ∨ mode' = .blockComment false := by
  obtain ⟨line, rfl⟩ := broken
  obtain ⟨_, middle, _, _, lexed', _⟩ := lexFrom_append_eq_some.mp lexed
  obtain ⟨_, after, _, stepped, ended, _⟩ := lexFrom_cons_eq_some.mp lexed'
  cases ended
  exact Mode.eq_of_step_newline stepped

/-- The last token does not stand between blanks. -/
theorem LastToken.not_blank {f₁ f₂ more : Text} (token : LastToken (f₁ ++ f₂) c gap init last mode)
    (lexed : lexFrom .rest f₁ = some (tokens, .rest)) :
    lexFrom .rest (f₂ ++ c :: more) ≠ some ([], .rest) := by
  intro blank
  obtain ⟨before, middle, rest, inside, ended, split⟩ :=
    lexFrom_append_eq_some.mp (List.append_cons f₂ c more ▸ blank)
  obtain ⟨rfl, rfl⟩ := List.append_eq_nil_iff.mp split.symm
  have between := between_of_lexFrom ended trivial
  obtain ⟨all, middle', late, read, outside, pending, same⟩ := token.reads
  obtain ⟨first, stop, fresh, few⟩ := token.fresh
  have read' := lexFrom_append lexed inside
  rw [← List.append_assoc, read] at read'
  cases read'
  rw [Mode.pending_of_between between] at pending
  cases pending
  obtain ⟨known, _, more, lexed', _, rfl⟩ := lexFrom_append_eq_some.mp fresh
  rw [lexed] at lexed'
  cases lexed'
  have lengths := congrArg List.length same
  simp only [List.length_append, List.append_nil, List.length_singleton] at lengths few
  omega

end Lines

section Block

variable {top mid after : Text} {tokens : List Token} {final : Mode}

/-- The block adds its tokens where the last line begins, unless a comment swallows it. -/
theorem lexFrom_rendered {before later : List Token} {middle : Mode}
    (lexed : lexFrom .rest top = some (before, middle))
    (lexed' : lexFrom middle (mid ++ '\x7d' :: after) = some (later, final)) :
    (middle = .rest → lexFrom .rest (top ++ (block ++ (mid ++ '\x7d' :: after))) =
        some (before ++ (blockTokens ++ later), final)) ∧
      (middle = .blockComment false → lexFrom .rest (top ++ (block ++ (mid ++ '\x7d' :: after))) =
        some (before ++ later, final)) := by
  constructor
  · rintro rfl
    exact lexFrom_append lexed (lexFrom_append lexFrom_block lexed')
  · rintro rfl
    exact lexFrom_append lexed (lexFrom_append lexFrom_block_of_comment lexed')

theorem length_presenceRows : presenceRows.length = 3 := rfl

theorem finish_eq_nil {late : List Token} (ended : final.finish = some [])
    (same : final.finish = some late) : late = [] := by
  rw [ended] at same
  exact (Option.some.inj same).symm

/-- Outside strings and comments, with nothing pending, the lexer is between tokens. -/
theorem eq_rest_of_pending {mode : Mode} (outside : mode.Outside)
    (pending : mode.pending = some []) : mode = .rest := by
  cases mode with
  | rest => rfl
  | atom spelling =>
      obtain ⟨_, _, same⟩ := Option.map_eq_some_iff.mp pending
      cases same
  | string | slash | lineComment | blockComment => exact outside.elim

/-- Where the rows are read as members of the root object, the block stands between blanks. -/
theorem blank_of_preserved {members : List Member} {init : List Token}
    (broken : ∃ line, top = line ++ ['\n'])
    (outside : ∀ tokens mode, lexFrom .rest (top ++ mid) = some (tokens, mode) → mode.Outside)
    (lexed : lexFrom .rest (top ++ (mid ++ '\x7d' :: after)) = some (init ++ [.closeBrace], final))
    (ended : final.finish = some [])
    (ran : State.start.run init = some (.key [] members))
    (parsed : parse (top ++ (block ++ (mid ++ '\x7d' :: after))) =
      some (.object (members ++ presenceRows))) :
    (∃ tokens, lexFrom .rest top = some (tokens, .rest)) ∧
      lexFrom .rest mid = some ([], .rest) := by
  obtain ⟨before, middle, later, read, lexed', split⟩ := lexFrom_append_eq_some.mp lexed
  obtain ⟨placed, swallowed⟩ := lexFrom_rendered read lexed'
  obtain ⟨tokens, mode, late, rendered, finished, ran'⟩ := parse_eq_some.mp parsed
  have closed := State.run_closeBrace ran (.key [] members)
  rw [split] at closed
  rcases mode_of_newline broken read with rfl | rfl
  · rw [placed rfl] at rendered
    cases rendered
    rw [finish_eq_nil ended finished, List.append_nil] at ran'
    by_cases last : later = [.closeBrace]
    · refine ⟨⟨before, read⟩, ?_⟩
      subst last
      obtain ⟨inside, at_brace, _, blank, lexed'', split'⟩ := lexFrom_append_eq_some.mp lexed'
      obtain ⟨here, _, behind, stepped, rest, rfl⟩ := lexFrom_cons_eq_some.mp lexed''
      obtain ⟨late, pending, rfl, rfl⟩ := Mode.eq_of_step_punctuation
        (outside _ _ (lexFrom_append read blank)) rfl stepped
      have lengths := congrArg List.length split'
      simp only [List.length_append, List.length_singleton] at lengths
      obtain rfl : inside = [] := List.length_eq_zero_iff.mp (by omega)
      obtain rfl : late = [] := List.length_eq_zero_iff.mp (by omega)
      rw [blank, eq_rest_of_pending (outside _ _ (lexFrom_append read blank)) pending]
    · have lengths := State.length_eq_of_inserted adds_blockTokens last closed ran'
      simp [length_presenceRows] at lengths
  · rw [swallowed rfl] at rendered
    cases rendered
    rw [finish_eq_nil ended finished, List.append_nil, closed] at ran'
    simp [presenceRows, rows] at ran'

/-- After a comma that follows the root object, nothing is read. -/
theorem not_parsed_of_trailing {value value' : Json} {init : List Token} {mode : Mode}
    (line : LastLine top mid) (lexed : lexFrom .rest (top ++ mid) = some (init ++ [.comma], mode))
    (ran : State.start.run init = some (.done value))
    (lexed_brace : lexFrom mode ('\x7d' :: after) = some ([], final))
    (ended : final.finish = some []) :
    parse (top ++ (block ++ (mid ++ '\x7d' :: after))) ≠ some value' := by
  intro parsed
  obtain ⟨tokens, mode', late, rendered, finished, ran'⟩ := parse_eq_some.mp parsed
  obtain ⟨before, middle, later, read, lexed', split⟩ := lexFrom_append_eq_some.mp lexed
  have stuck : ∀ {rest}, State.start.run (init ++ [.comma] ++ rest) ≠ some (.done value') := by
    intro rest
    rw [List.append_assoc, State.run_append, ran, Option.bind_some, List.singleton_append,
      State.not_run_done (List.cons_ne_nil _ _)]
    exact nofun
  rcases List.eq_nil_or_concat later with rfl | ⟨later, last, rfl⟩
  · rw [List.append_nil] at split
    obtain ⟨known, _, rest, read', _, rfl⟩ := lexFrom_append_eq_some.mp rendered
    rw [read] at read'
    cases read'
    rw [← split, List.append_assoc] at ran'
    exact stuck ran'
  · rw [List.concat_eq_append] at split lexed'
    have comma : last = .comma := by
      rw [← List.append_assoc] at split
      cases (List.append_inj' split rfl).2
      rfl
    subst comma
    have broken : ∃ line, top = line ++ ['\n'] := by
      rcases line.begins with ⟨rfl, _⟩ | broken
      · rw [lexFrom_nil] at lexed'
        simp at lexed'
      · exact broken
    obtain ⟨placed, swallowed⟩ := lexFrom_rendered read (lexFrom_append lexed' lexed_brace)
    rcases mode_of_newline broken read with rfl | rfl
    · rw [placed rfl] at rendered
      cases rendered
      rw [finish_eq_nil ended finished, List.append_nil, List.append_nil, ← List.append_assoc,
        ← List.append_assoc, State.run_concat_eq_some] at ran'
      obtain ⟨state, _, stepped⟩ := ran'
      exact State.step_comma_ne_done stepped
    · rw [swallowed rfl] at rendered
      cases rendered
      rw [List.append_nil, ← split] at ran'
      exact stuck ran'

end Block

section Entry

variable {source front gap after top mid : Text} {c : Char} {init : List Token} {last : Token}
  {mode : Mode} {members : List Member}

theorem last_brace_unique {before before' behind behind' : Text} (absent : '\x7d' ∉ behind)
    (absent' : '\x7d' ∉ behind')
    (same : before ++ '\x7d' :: behind = before' ++ '\x7d' :: behind') :
    before = before' ∧ behind = behind' := by
  have lengths : before.length = before'.length := by
    have found := Text.rfind_append_cons before absent
    rw [same, Text.rfind_append_cons before' absent'] at found
    exact (Option.some.inj found).symm
  obtain ⟨rfl, rest⟩ := List.append_inj same lengths
  exact ⟨rfl, (List.cons.inj rest).2⟩

/-- What a file that is placed has in front of its last brace. -/
theorem exists_of_placed (placed : Placed source)
    (split : Split source front c gap after init last mode) :
    ∃ top mid, front ++ c :: gap = top ++ mid ∧ LastLine top mid ∧
      (∃ tokens mode, lexFrom .rest top = some (tokens, mode) ∧ mode.Outside) ∧
      lexFrom .rest mid = some ([], .rest) := by
  obtain ⟨top, mid, after', same, absent, line, read, blank⟩ := placed
  have whole : (front ++ c :: gap) ++ '\x7d' :: after = (top ++ mid) ++ '\x7d' :: after' := by
    rw [List.append_assoc, List.cons_append, ← split.source, same, List.append_assoc]
  exact ⟨top, mid, (last_brace_unique split.brace absent whole).1, line, read, blank⟩

theorem LastToken.solid {more : Text} (token : LastToken front c gap init last mode)
    (between : mode.Between) (solid : ∀ first ∈ more.head?, isAtomic first = false) :
    ∀ first ∈ (gap ++ more).head?, isAtomic first = false := by
  cases gap with
  | nil => exact solid
  | cons first rest =>
      rintro _ ⟨⟩
      exact solid_of_lexFrom between token.gap

theorem solid_brace (after : Text) : ∀ first ∈ ('\x7d' :: after).head?, isAtomic first = false := by
  rintro _ ⟨⟩
  rfl

/-- With its comma, the root object takes another member. -/
theorem Closing.run_key (closing : Closing after init last mode members) :
    State.start.run (init ++ last :: commaTokens last) = some (.key [] members) := by
  obtain ⟨state, ran, closes⟩ := closing.closes
  rw [commaTokens]
  split
  · rename_i separates
    rw [← State.run_eq_key_of_last ran closes separates]
    exact ran
  · rename_i ends
    have same := State.run_eq_afterMember_of_last ran closes (not_or.mp ends)
    subst same
    simpa using State.run_comma ran

/-- The text with its comma, up to its end. -/
theorem Split.lexFrom_separated {more : Text} {later : List Token} {final : Mode}
    (split : Split source front c gap after init last .rest)
    (solid : ∀ first ∈ more.head?, isAtomic first = false) (nonempty : more ≠ [])
    (lexed : lexFrom .rest more = some (later, final)) :
    lexFrom .rest (front ++ c :: (commaAfter c ++ (gap ++ more))) =
      some (init ++ last :: commaTokens last ++ later, final) := by
  have joined := split.token.lexFrom_commaAfter (split.token.solid trivial solid)
    (List.append_ne_nil_of_right_ne_nil _ nonempty) lexed
  simpa using joined

theorem lexFrom_brace {final : Mode} (lexed : lexFrom .rest after = some ([], final)) :
    lexFrom .rest ('\x7d' :: after) = some ([.closeBrace], final) := by
  have brace : Mode.rest.step '\x7d' = some ([.closeBrace], .rest) := rfl
  exact lexFrom_cons brace lexed

/-- Where the rows stand in front of the brace, they are the last members. -/
theorem parse_of_block {rendered : Text} {init : List Token} {mode : Mode}
    (ran : State.start.run init = some (.key [] members))
    (lexed : lexFrom .rest rendered = some (init ++ (blockTokens ++ [.closeBrace]), mode))
    (ended : mode.finish = some []) :
    parse rendered = some (.object (members ++ presenceRows)) := by
  refine parse_eq_some.mpr ⟨_, _, _, lexed, ended, ?_⟩
  have added : State.start.run (init ++ blockTokens) =
      (State.start.run init).bind fun state => state.run blockTokens := State.run_append
  rw [ran, Option.bind_some, adds_blockTokens.run] at added
  have closed := State.run_closeBrace added (.afterMember [] _)
  simpa using closed

/-- The rows are the last members of the root object. -/
def Preserved (source : Text) (members : List Member) : Prop :=
  ∃ rendered, renderEntry source = .ok rendered ∧
    parse rendered = some (.object (members ++ presenceRows))

/-- Blanks and comments end outside strings and comments, if they begin there. -/
theorem outside_of_blank {text : Text} {tokens : List Token} {middle final : Mode}
    (outside : middle.Outside) (blank : lexFrom .rest text = some ([], .rest))
    (lexed : lexFrom middle text = some (tokens, final)) : final.Outside := by
  cases text with
  | nil =>
      cases lexed
      exact outside
  | cons c text =>
      have between : Mode.rest.Between := trivial
      have solid := solid_of_lexFrom between blank
      obtain ⟨_, _, _, stepped, _⟩ := lexFrom_cons_eq_some.mp lexed
      rw [Mode.step_of_outside outside solid] at stepped
      obtain ⟨late, pending, _⟩ := Option.bind_eq_some_iff.mp stepped
      rw [lexFrom_of_outside outside solid pending blank] at lexed
      cases lexed
      trivial

/-- Before the last brace, with or without the comma, the lexer is outside strings and comments. -/
theorem LastToken.head_outside (token : LastToken front c gap init last .rest) {sep : Text}
    (comma : sep = [] ∨ sep = [',']) :
    ∃ tokens mode,
      lexFrom .rest (front ++ c :: (sep ++ gap)) = some (tokens, mode) ∧ mode.Outside := by
  have ended : lexFrom .rest [] = some ([], .rest) := rfl
  rcases comma with rfl | rfl
  · cases gap with
    | nil =>
        obtain ⟨tokens, middle, _, read, outside, _⟩ := token.reads
        exact ⟨tokens, middle, read, outside⟩
    | cons first rest =>
        have solid : ∀ first ∈ ([] : Text).head?, isAtomic first = false := by simp
        have lexed := token.append (token.solid trivial solid) (by simp) ended
        exact ⟨init ++ [last], .rest, by simpa using lexed, trivial⟩
  · have lexed := token.separated ended
    exact ⟨init ++ [last, .comma], .rest, by simpa using lexed, trivial⟩

theorem preserved_of_one_line (clear : Clear blockStart blockEnd source)
    (split : Split source front c gap after init last mode)
    (closing : Closing after init last mode members)
    (line : ∀ sep, '\n' ∉ sep → LastLine (front ++ c :: (sep ++ gap)) []) :
    Preserved source members ∧ Placed source := by
  obtain ⟨final, lexed, ended⟩ := closing.ended
  obtain rfl := closing.outside
  constructor
  · refine ⟨_, renderEntry_eq clear split (line _ (newline_notMem_commaAfter c))
      (List.append_nil _).symm, ?_⟩
    have solid : ∀ first ∈ (block ++ '\x7d' :: after).head?, isAtomic first = false := by
      rintro _ ⟨⟩
      rfl
    have rendered := split.lexFrom_separated solid (List.append_ne_nil_of_right_ne_nil _ (by simp))
      (lexFrom_append lexFrom_block (lexFrom_brace lexed))
    exact parse_of_block closing.run_key (by simpa using rendered) ended
  · refine ⟨front ++ c :: gap, [], after, by simp [split.source], split.brace,
      line [] List.not_mem_nil, split.token.head_outside (.inl rfl), rfl⟩

theorem LastToken.outside_of_separated (token : LastToken front c gap init last .rest)
    {tokens : List Token} {final : Mode}
    (read : lexFrom .rest (front ++ c :: (commaAfter c ++ gap)) = some (tokens, final)) :
    final.Outside := by
  obtain ⟨_, _, read', outside⟩ := token.head_outside (commaAfter_cases c)
  rw [read] at read'
  cases read'
  exact outside

theorem not_preserved_of_entry_on_line (clear : Clear blockStart blockEnd source)
    (split : Split source front c gap after init last mode)
    (closing : Closing after init last mode members) {f₁ f₂ : Text} (front_eq : front = f₁ ++ f₂)
    (broken : ∃ line, f₁ = line ++ ['\n'])
    (line : ∀ sep, '\n' ∉ sep → LastLine f₁ (f₂ ++ c :: (sep ++ gap))) :
    ¬ Preserved source members ∧ ¬ Placed source := by
  obtain ⟨final, lexed, ended⟩ := closing.ended
  obtain rfl := closing.outside
  subst front_eq
  constructor
  · rintro ⟨rendered, written, parsed⟩
    have lastLine := line _ (newline_notMem_commaAfter c)
    have same : f₁ ++ f₂ ++ c :: (commaAfter c ++ gap) = f₁ ++ (f₂ ++ c :: (commaAfter c ++ gap)) :=
      List.append_assoc ..
    rw [renderEntry_eq clear split lastLine same] at written
    cases written
    have separated :=
      split.lexFrom_separated (solid_brace after) (List.cons_ne_nil _ _) (lexFrom_brace lexed)
    have outside : ∀ tokens mode, lexFrom .rest (f₁ ++ (f₂ ++ c :: (commaAfter c ++ gap))) =
        some (tokens, mode) → mode.Outside := by
      rw [← same]
      exact fun _ _ => split.token.outside_of_separated
    obtain ⟨⟨tokens, read⟩, blank⟩ := blank_of_preserved broken outside
      (by simpa using separated) ended closing.run_key parsed
    exact split.token.not_blank read blank
  · intro placed
    obtain ⟨top, mid, same, lastLine, ⟨tokens, mode, read, outside⟩, blank⟩ :=
      exists_of_placed placed split
    rw [List.append_assoc] at same
    obtain ⟨rfl, rfl⟩ := (line [] List.not_mem_nil).unique lastLine same
    rcases mode_of_newline broken read with rfl | rfl
    · exact split.token.not_blank read blank
    · exact outside

theorem preserved_iff_of_line_break (clear : Clear blockStart blockEnd source)
    (split : Split source front c gap after init last mode)
    (closing : Closing after init last mode members) {g₁ g₂ : Text} (gap_eq : gap = g₁ ++ g₂)
    (broken : ∃ line, g₁ = line ++ ['\n'])
    (line : ∀ sep, LastLine (front ++ c :: (sep ++ g₁)) g₂) :
    Preserved source members ↔ Placed source := by
  obtain ⟨final, lexed, ended⟩ := closing.ended
  obtain rfl := closing.outside
  subst gap_eq
  obtain ⟨first, between, second, inside, blank, empty⟩ :=
    lexFrom_append_eq_some.mp split.token.gap
  obtain ⟨rfl, rfl⟩ := List.append_eq_nil_iff.mp empty.symm
  have token : LastToken front c g₁ init last between :=
    { split.token with gap := inside }
  have between' := between_of_lexFrom blank trivial
  have filled : g₁ ≠ [] := by
    obtain ⟨before, rfl⟩ := broken
    simp
  have nothing : lexFrom between [] = some ([], between) := rfl
  have solid : ∀ {more : Text}, ∀ first ∈ (g₁ ++ more).head?, isAtomic first = false := by
    intro more
    cases g₁ with
    | nil => exact (filled rfl).elim
    | cons first rest =>
        rintro _ ⟨⟩
        exact solid_of_lexFrom between' token.gap
  have head := token.append solid (by simpa using filled) nothing
  rw [List.append_nil] at head
  have same : front ++ c :: (commaAfter c ++ (g₁ ++ g₂)) =
      front ++ c :: (commaAfter c ++ g₁) ++ g₂ := by simp
  constructor
  · rintro ⟨rendered, written, parsed⟩
    rw [renderEntry_eq clear split (line _) same] at written
    cases written
    have separated :=
      split.lexFrom_separated (solid_brace after) (List.cons_ne_nil _ _) (lexFrom_brace lexed)
    have outside : ∀ tokens mode, lexFrom .rest (front ++ c :: (commaAfter c ++ g₁) ++ g₂) =
        some (tokens, mode) → mode.Outside := by
      rw [← same]
      exact fun _ _ => split.token.outside_of_separated
    have broken' : ∃ line, front ++ c :: (commaAfter c ++ g₁) = line ++ ['\n'] := by
      obtain ⟨before, rfl⟩ := broken
      exact ⟨front ++ c :: (commaAfter c ++ before), by simp⟩
    obtain ⟨⟨tokens, read⟩, blank'⟩ := blank_of_preserved broken' outside
      (by simpa using separated) ended closing.run_key parsed
    have read' := token.lexFrom_commaAfter solid (by simpa using filled) nothing
    rw [List.append_nil, read] at read'
    cases read'
    exact ⟨_, g₂, after, by simp [split.source], split.brace, line [], ⟨_, _, head, trivial⟩,
      blank'⟩
  · intro placed
    obtain ⟨top, mid, cut, lastLine, ⟨tokens, mode, read, outside⟩, blank'⟩ :=
      exists_of_placed placed split
    have cut' : front ++ c :: ([] ++ g₁) ++ g₂ = top ++ mid := by simpa using cut
    obtain ⟨rfl, rfl⟩ := (line []).unique lastLine cut'
    rw [List.nil_append, head] at read
    cases read
    obtain rfl : between = .rest := by
      rcases mode_of_newline broken inside with rfl | rfl
      · rfl
      · exact outside.elim
    refine ⟨_, renderEntry_eq clear split (line _) same, ?_⟩
    have rendered := token.lexFrom_commaAfter solid (by simp [filled])
      (lexFrom_append lexFrom_block (lexFrom_append blank' (lexFrom_brace lexed)))
    exact parse_of_block closing.run_key (by simpa using rendered) ended

theorem not_preserved_of_trailing (clear : Clear blockStart blockEnd source)
    (split : Split source front c gap after init last mode)
    (trailing : Trailing after init last mode members) :
    ¬ Preserved source members ∧ ¬ Placed source := by
  obtain ⟨final, lexed, ended⟩ := trailing.ended
  have comma : commaAfter c = [','] := by
    rw [split.token.commaAfter_eq, trailing.brace]
    rfl
  constructor
  · rintro ⟨rendered, written, parsed⟩
    obtain ⟨top, mid, same, line⟩ := exists_lastLine (front ++ c :: (commaAfter c ++ gap))
    rw [renderEntry_eq clear split line same] at written
    cases written
    have nothing : lexFrom mode [] = some ([], mode) := rfl
    have separated := split.token.separated nothing
    refine not_parsed_of_trailing line ?_ trailing.done lexed ended parsed
    rw [← same, comma]
    simpa using separated
  · intro placed
    obtain ⟨top, mid, same, _, ⟨tokens, middle, read, outside⟩, blank⟩ :=
      exists_of_placed placed split
    have between : mode.Between := by
      rcases trailing.comment with rfl | ⟨_, rfl⟩ <;> trivial
    have commented : ¬ mode.Outside := by
      rcases trailing.comment with rfl | ⟨_, rfl⟩ <;> exact id
    have nonempty : gap ++ [] ≠ [] := by
      rw [List.append_nil]
      rintro rfl
      cases split.token.gap
      exact commented trivial
    have nothing : lexFrom mode [] = some ([], mode) := rfl
    have solid : ∀ first ∈ ([] : Text).head?, isAtomic first = false := by simp
    have head := split.token.append (split.token.solid between solid) nonempty nothing
    rw [List.append_nil, same] at head
    obtain ⟨_, middle', _, read', lexed', _⟩ := lexFrom_append_eq_some.mp head
    rw [read] at read'
    cases read'
    exact commented (outside_of_blank outside blank lexed')

/-- Exactly when installing the rows keeps the members of a menu and adds the rows behind them. -/
theorem renderEntry_preserves_iff (clear : Clear blockStart blockEnd source)
    (parsed : parse source = some (.object members)) (plain : ¬ Misleads source) :
    (∃ rendered, renderEntry source = .ok rendered ∧
        parse rendered = some (.object (members ++ presenceRows))) ↔ Placed source := by
  obtain ⟨front, c, gap, after, init, last, mode, split, closing | trailing⟩ :=
    exists_split parsed plain
  · rcases lastLine_cases front gap (ne_newline_of_lastMeaningful split.found) with
      ⟨g₁, g₂, gap_eq, broken, line⟩ | ⟨f₁, f₂, front_eq, broken, line⟩ | line
    · exact preserved_iff_of_line_break clear split closing gap_eq broken line
    · obtain ⟨broken, unplaced⟩ :=
        not_preserved_of_entry_on_line clear split closing front_eq broken line
      exact iff_of_false broken unplaced
    · obtain ⟨preserved, placed⟩ := preserved_of_one_line clear split closing line
      exact iff_of_true preserved placed
  · obtain ⟨broken, unplaced⟩ := not_preserved_of_trailing clear split trailing
    exact iff_of_false broken unplaced

/-- Without an asterisk there is no block comment. -/
theorem not_misleads_of_notMem (absent : '*' ∉ source) : ¬ Misleads source := by
  rintro ⟨_, _, rfl, _, _, _, _, rfl, _⟩
  exact absent (by simp)

end Entry

/-- A menu with one entry. -/
def personalMenu : Text := "\x7b\n  \"personal\": \x7b\"label\":\"Personal\"\x7d\n\x7d\n".toList

/-- That entry. -/
def personalMember : Member :=
  (encode "personal".toList, .object [(encode "label".toList, stringValue "Personal".toList)])

/-- An entry on lines of its own keeps its place. -/
theorem renderEntry_preserves_personalMenu :
    ∃ rendered, renderEntry personalMenu = .ok rendered ∧
      parse rendered = some (.object ([personalMember] ++ presenceRows)) := by
  have clear : Clear blockStart blockEnd personalMenu := by
    unfold Clear
    decide +kernel
  have placed : Placed personalMenu := by
    refine ⟨"\x7b\n  \"personal\": \x7b\"label\":\"Personal\"\x7d\n".toList, [], ['\n'],
      rfl, by decide,
      ⟨List.not_mem_nil, .inr ⟨"\x7b\n  \"personal\": \x7b\"label\":\"Personal\"\x7d".toList, rfl⟩⟩,
      ⟨_, _, rfl, trivial⟩, rfl⟩
  exact (renderEntry_preserves_iff clear rfl (not_misleads_of_notMem (by decide))).mpr placed

/-- A menu whose last line has an entry and the closing brace. -/
def closedOnEntryLine : Text := "\x7b\n  \"a\": 1\x7d\n".toList

/-- With the closing brace on the line of the last entry, the rows are put before that entry, and
the comma behind it. -/
theorem renderEntry_breaks_closedOnEntryLine :
    Clear blockStart blockEnd closedOnEntryLine ∧
      parse closedOnEntryLine = some (.object [(encode ['a'], .scalar (.number ['1']))]) ∧
      ¬ ∃ rendered, renderEntry closedOnEntryLine = .ok rendered ∧
        parse rendered =
          some (.object ([(encode ['a'], .scalar (.number ['1']))] ++ presenceRows)) := by
  have clear : Clear blockStart blockEnd closedOnEntryLine := by
    unfold Clear
    decide +kernel
  have line : LastLine ['\x7b', '\n'] "  \"a\": 1,".toList := ⟨by decide, .inr ⟨['\x7b'], rfl⟩⟩
  have same : separated "\x7b\n  \"a\": 1".toList = ['\x7b', '\n'] ++ "  \"a\": 1,".toList := by
    decide +kernel
  have split : "\x7b\n  \"a\": 1".toList ++ '\x7d' :: ['\n'] = closedOnEntryLine := by decide
  have written' := renderEntry_append (by decide) (split ▸ clear) line same
  refine ⟨clear, rfl, ?_⟩
  rintro ⟨rendered, written, parsed⟩
  rw [split, written, Except.ok.injEq] at written'
  subst written'
  have opened : lexFrom .rest ['\x7b', '\n'] = some ([.openBrace], .rest) := rfl
  have entry : lexFrom .rest ("  \"a\": 1,".toList ++ '\x7d' :: ['\n']) =
      some ([stringToken ['a'], .colon, .scalar (.number ['1']), .comma, .closeBrace], .rest) := rfl
  rw [parse, lex, lexFrom_append opened (lexFrom_append lexFrom_block entry)] at parsed
  cases parsed

end PresenceUnlock.Cli.Menu
