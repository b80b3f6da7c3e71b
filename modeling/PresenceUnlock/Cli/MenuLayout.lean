import PresenceUnlock.Cli.LastToken
import PresenceUnlock.Cli.Rendered
import PresenceUnlock.Jsonc.Parser

/-!
# The layout of a menu file

The last brace of a menu file closes its root object, or it stands in a comment after it.  The rows
go in front of the line that the brace is on.
-/

namespace PresenceUnlock.Cli.Menu

open RustStd Jsonc

/-- A text is cut where its last line begins, or at its end if it has one line only. -/
structure LastLine (top mid : Text) : Prop where
  /-- What is cut off is one line at most. -/
  single : '\n' ∉ mid
  /-- The cut is where a line begins. -/
  begins : mid = [] ∧ '\n' ∉ top ∨ ∃ line, top = line ++ ['\n']

theorem exists_lastLine (head : Text) : ∃ top mid, head = top ++ mid ∧ LastLine top mid := by
  cases newline : Text.rfind '\n' head with
  | none =>
      exact ⟨head, [], by simp, List.not_mem_nil, .inl ⟨rfl, Text.rfind_eq_none_iff.mp newline⟩⟩
  | some position =>
      obtain ⟨line, mid, rfl, _, single⟩ := Text.exists_split_of_rfind newline
      exact ⟨line ++ ['\n'], mid, by simp, single, .inr ⟨line, rfl⟩⟩

section LastLine

variable {top mid top' mid' : Text}

theorem LastLine.lineStart (line : LastLine top mid) (more : Text) :
    lineStart (top ++ mid).length (top ++ mid ++ more) (top ++ mid).length = top.length := by
  rw [Menu.lineStart, List.take_left]
  rcases line.begins with ⟨rfl, single⟩ | ⟨front, rfl⟩
  · rw [List.append_nil, Text.rfind_eq_none_iff.mpr single]
  · rw [List.append_assoc, List.singleton_append, Text.rfind_append_cons _ line.single]
    simp

/-- There is one way to cut. -/
theorem LastLine.unique (line : LastLine top mid) (line' : LastLine top' mid')
    (same : top ++ mid = top' ++ mid') : top = top' ∧ mid = mid' := by
  have lengths : top.length = top'.length := by
    rw [← line.lineStart [], ← line'.lineStart [], same]
  exact List.append_inj same lengths

end LastLine

/-- The token of the comma that a last token takes. -/
def commaTokens (last : Token) : List Token :=
  if last = .openBrace ∨ last = .comma then [] else [.comma]

section LastToken

variable {front gap more : Text} {c : Char} {init tokens : List Token} {last : Token}
  {mode mode' : Mode}

/-- What is read between tokens does not begin within a word. -/
theorem solid_of_lexFrom {text : Text} (between : mode.Between)
    (lexed : lexFrom .rest (c :: text) = some ([], mode)) : isAtomic c = false := by
  obtain ⟨first, middle, later, stepped, lexed', split⟩ := lexFrom_cons_eq_some.mp lexed
  obtain ⟨rfl, rfl⟩ := List.append_eq_nil_iff.mp split.symm
  have between' := between_of_lexFrom lexed' between
  change Mode.begin c = _ at stepped
  unfold Mode.begin at stepped
  split_ifs at stepped with blank quote slash atomic
  · by_contra atomic
    have solid := isWhitespace_of_isBlank blank
    rw [not_isWhitespace_of_isAtomic (by simpa using atomic)] at solid
    cases solid
  · subst quote
    rfl
  · subst slash
    rfl
  · cases stepped
    exact between'.elim
  · simpa using atomic

/-- What follows the last token is read as it would be on its own. -/
theorem LastToken.append (token : LastToken front c gap init last mode)
    (solid : ∀ first ∈ (gap ++ more).head?, isAtomic first = false) (nonempty : gap ++ more ≠ [])
    (lexed : lexFrom mode more = some (tokens, mode')) :
    lexFrom .rest (front ++ c :: (gap ++ more)) = some (init ++ last :: tokens, mode') := by
  obtain ⟨before, middle, late, read, outside, pending, all⟩ := token.reads
  have rest := lexFrom_append token.gap lexed
  obtain ⟨first, text, split⟩ := List.exists_cons_of_ne_nil nonempty
  rw [split] at rest solid ⊢
  have lexed' := lexFrom_append read
    (lexFrom_of_outside outside (solid first rfl) pending rest)
  rw [← List.append_assoc, all] at lexed'
  simpa using lexed'

/-- The comma that is put after the last token is read as one. -/
theorem LastToken.separated (token : LastToken front c gap init last mode)
    (lexed : lexFrom mode more = some (tokens, mode')) :
    lexFrom .rest (front ++ c :: ',' :: (gap ++ more)) =
      some (init ++ last :: .comma :: tokens, mode') := by
  obtain ⟨before, middle, late, read, outside, pending, all⟩ := token.reads
  have comma := lexFrom_cons (Mode.step_punctuation outside (c := ',') rfl pending)
    (lexFrom_append token.gap lexed)
  have lexed' := lexFrom_append read comma
  have tokens_eq : before ++ (late ++ [Token.comma] ++ ([] ++ tokens)) =
      init ++ last :: .comma :: tokens := by
    calc before ++ (late ++ [Token.comma] ++ ([] ++ tokens))
        = before ++ late ++ .comma :: tokens := by simp
      _ = init ++ last :: .comma :: tokens := by
        rw [all]
        simp
  rw [tokens_eq] at lexed'
  simpa using lexed'

theorem LastToken.commaAfter_eq (token : LastToken front c gap init last mode) :
    commaAfter c = if last = .openBrace ∨ last = .comma then [] else [','] := by
  simp only [commaAfter, ne_eq, token.brace, token.comma]
  split_ifs with separate begun begun
  · exact (begun.elim separate.1 separate.2).elim
  · rfl
  · rfl
  · exact (separate (not_or.mp begun)).elim

/-- With the comma that it takes, the text up to the brace is read with the comma that it takes. -/
theorem LastToken.lexFrom_commaAfter (token : LastToken front c gap init last mode)
    (solid : ∀ first ∈ (gap ++ more).head?, isAtomic first = false) (nonempty : gap ++ more ≠ [])
    (lexed : lexFrom mode more = some (tokens, mode')) :
    lexFrom .rest (front ++ c :: (commaAfter c ++ (gap ++ more))) =
      some (init ++ last :: (commaTokens last ++ tokens), mode') := by
  rw [token.commaAfter_eq, commaTokens]
  split
  · exact token.append solid nonempty lexed
  · exact token.separated lexed

end LastToken

/-- What stands around the last brace of a text. -/
structure Split (source front : Text) (c : Char) (gap after : Text) (init : List Token)
    (last : Token) (mode : Mode) : Prop where
  /-- The text, around its last brace. -/
  source : source = front ++ c :: (gap ++ '\x7d' :: after)
  /-- There is no brace after it. -/
  brace : '\x7d' ∉ after
  /-- What the scan finds before it. -/
  found : lastMeaningful (front ++ c :: gap) = some (front.length, c)
  /-- Where the last token before it ends. -/
  token : LastToken front c gap init last mode

/-- The last brace closes the root object. -/
structure Closing (after : Text) (init : List Token) (last : Token) (mode : Mode)
    (members : List Member) : Prop where
  /-- It stands in no comment. -/
  outside : mode = .rest
  /-- The tokens before it are those of an object that it closes. -/
  closes : ∃ state, State.start.run (init ++ [last]) = some state ∧ state.Closes [] members
  /-- Only comments follow. -/
  ended : ∃ mode, lexFrom .rest after = some ([], mode) ∧ mode.finish = some []

/-- The last brace stands in a comment after the root object. -/
structure Trailing (after : Text) (init : List Token) (last : Token) (mode : Mode)
    (members : List Member) : Prop where
  /-- It stands in a comment. -/
  comment : mode = .lineComment ∨ ∃ star, mode = .blockComment star
  /-- The last token is a brace. -/
  brace : last = .closeBrace
  /-- The tokens are those of an object. -/
  done : State.start.run (init ++ [last]) = some (.done (.object members))
  /-- The comment ends. -/
  ended : ∃ mode', lexFrom mode ('\x7d' :: after) = some ([], mode') ∧ mode'.finish = some []

/-- A block comment before the last brace begins with `/*/`. -/
def Misleads (source : Text) : Prop :=
  ∃ head after, source = head ++ '\x7d' :: after ∧ '\x7d' ∉ after ∧ Misread .rest head

section Split

variable {source front gap after top mid : Text} {c : Char} {init : List Token} {last : Token}
  {mode : Mode} {members : List Member}

/-- Setup puts the block in front of the line of the last brace, in a text with a comma that
separates it. -/
theorem renderEntry_append {head : Text} (absent : '\x7d' ∉ after)
    (clear : Clear blockStart blockEnd (head ++ '\x7d' :: after)) (line : LastLine top mid)
    (same : separated head = top ++ mid) :
    renderEntry (head ++ '\x7d' :: after) = .ok (top ++ (block ++ (mid ++ '\x7d' :: after))) := by
  have unmarked : renderRemoval (head ++ '\x7d' :: after) = .ok (head ++ '\x7d' :: after) := by
    rw [renderRemoval, Text.find_eq_none_iff.mpr clear.1]
  have close : Text.rfind '\x7d' (head ++ '\x7d' :: after) = some head.length :=
    Text.rfind_append_cons head absent
  have comma : separate (head ++ '\x7d' :: after) head.length = top ++ mid ++ '\x7d' :: after := by
    rw [separate_append, same]
  rw [renderEntry_of_removed unmarked, close]
  dsimp only
  rw [comma, Text.rfind_append_cons _ absent]
  dsimp only
  rw [line.lineStart, Text.insertStr, List.append_assoc, List.take_left, List.drop_left]

theorem renderEntry_eq (clear : Clear blockStart blockEnd source)
    (split : Split source front c gap after init last mode) (line : LastLine top mid)
    (same : front ++ c :: (commaAfter c ++ gap) = top ++ mid) :
    renderEntry source = .ok (top ++ (block ++ (mid ++ '\x7d' :: after))) := by
  have ends := lastMeaningful_eq_iff.mp split.found
  have whole : source = (front ++ c :: gap) ++ '\x7d' :: after := by simp [split.source]
  subst whole
  exact renderEntry_append split.brace clear line (ends.separated_eq.trans same)

end Split

section Parsed

variable {source head after : Text} {tokens : List Token} {mode : Mode} {members : List Member}

theorem parse_eq_some {value : Json} :
    parse source = some value ↔ ∃ tokens mode late, lexFrom .rest source = some (tokens, mode) ∧
      mode.finish = some late ∧ State.start.run (tokens ++ late) = some (.done value) := by
  simp only [parse, lex, Option.bind_eq_some_iff, parseTokens_eq_some, Option.bind_eq_bind,
    Option.pure_def, Option.some.injEq, Prod.exists]
  constructor
  · rintro ⟨_, ⟨tokens, mode, lexed, late, finished, rfl⟩, ran⟩
    exact ⟨tokens, mode, late, lexed, finished, ran⟩
  · rintro ⟨tokens, mode, late, lexed, finished, ran⟩
    exact ⟨_, ⟨tokens, mode, lexed, late, finished, rfl⟩, ran⟩

theorem finish_cases {late : List Token} (finished : mode.finish = some late) :
    late = [] ∧ mode.Between ∨ ∃ value, late = [.scalar value] := by
  cases mode with
  | rest | lineComment =>
      cases finished
      exact .inl ⟨rfl, trivial⟩
  | atom spelling =>
      obtain ⟨value, _, rfl⟩ := Option.map_eq_some_iff.mp finished
      exact .inr ⟨value, rfl⟩
  | string | slash | blockComment => cases finished

/-- An object is read up to its brace, and no token follows. -/
theorem exists_of_parse_object (parsed : parse source = some (.object members)) :
    ∃ init mode state, lexFrom .rest source = some (init ++ [.closeBrace], mode) ∧
      mode.Between ∧ mode.finish = some [] ∧ State.start.run init = some state ∧
      state.Closes [] members := by
  obtain ⟨tokens, mode, late, lexed, finished, ran⟩ := parse_eq_some.mp parsed
  obtain ⟨init, state, split, reached, closes⟩ := State.exists_of_run_object ran
  rcases finish_cases finished with ⟨rfl, between⟩ | ⟨value, rfl⟩
  · rw [List.append_nil] at split
    subst split
    exact ⟨init, mode, state, lexed, between, finished, reached, closes⟩
  · cases (List.append_inj_right' split rfl)

/-- Behind the last brace there is no token. -/
theorem tokens_eq_nil_of_notMem {mode' : Mode} {before init : List Token} (absent : '\x7d' ∉ after)
    (lexed : lexFrom mode after = some (tokens, mode'))
    (split : before ++ tokens = init ++ [.closeBrace]) : tokens = [] := by
  rcases List.eq_nil_or_concat tokens with rfl | ⟨front, last, rfl⟩
  · rfl
  · rw [List.concat_eq_append, ← List.append_assoc] at split
    obtain ⟨_, same⟩ := List.append_inj' split rfl
    cases same
    exact (absent (closeBrace_mem_of_lexFrom lexed (by simp))).elim

/-- The last brace is read as one, or it stands in a comment. -/
theorem brace_cases {middle final : Mode} (stepped : mode.step '\x7d' = some (tokens, middle))
    (lexed : lexFrom middle after = some ([], final)) (between : final.Between) :
    (mode.Outside ∧ ∃ late, mode.pending = some late ∧ tokens = late ++ [.closeBrace] ∧
        middle = .rest) ∨
      ((mode = .lineComment ∨ ∃ star, mode = .blockComment star) ∧ tokens = []) := by
  cases mode with
  | rest | atom =>
      exact .inl ⟨trivial, Mode.eq_of_step_punctuation trivial rfl stepped⟩
  | string units escape =>
      exfalso
      rcases string_or_noted none stepped with ⟨units, escape, rfl⟩ | noted
      · exact between_of_lexFrom lexed between
      · simp [ScanMode.notes] at noted
  | slash => cases stepped
  | lineComment =>
      cases stepped
      exact .inr ⟨.inl rfl, rfl⟩
  | blockComment star =>
      cases stepped
      exact .inr ⟨.inr ⟨star, rfl⟩, rfl⟩

/-- A text with tokens has a last meaningful character. -/
theorem exists_lastMeaningful {late : List Token} (plain : ¬ Misread .rest head)
    (lexed : lexFrom .rest head = some (tokens, mode)) (complete : mode.pending = some late)
    (nonempty : tokens ++ late ≠ []) : ∃ position c, lastMeaningful head = some (position, c) := by
  cases found : lastMeaningful head with
  | some last => exact ⟨last.1, last.2, rfl⟩
  | none =>
      exfalso
      have start : Coupled .rest .code head.head? := rfl
      obtain ⟨rfl, between⟩ := lexFrom_of_scan_eq_none start trivial plain found lexed
      rw [Mode.pending_of_between between] at complete
      cases complete
      exact nonempty rfl

theorem exists_split (parsed : parse source = some (.object members)) (plain : ¬ Misleads source) :
    ∃ front c gap after init last mode, Split source front c gap after init last mode ∧
      (Closing after init last mode members ∨ Trailing after init last mode members) := by
  obtain ⟨init, final, state, lexed, between, finished, reached, closes⟩ :=
    exists_of_parse_object parsed
  obtain ⟨position, closing⟩ : ∃ position, Text.rfind '\x7d' source = some position := by
    rw [← Option.isSome_iff_exists, Option.isSome_iff_ne_none, ne_eq, Text.rfind_eq_none_iff,
      not_not]
    exact closeBrace_mem_of_lexFrom lexed (by simp)
  obtain ⟨head, after, rfl, _, absent⟩ := Text.exists_split_of_rfind closing
  have plain' : ¬ Misread .rest head := fun misread => plain ⟨head, after, rfl, absent, misread⟩
  obtain ⟨before, mode, _, read, lexed', split⟩ := lexFrom_append_eq_some.mp lexed
  obtain ⟨here, middle, later, stepped, lexed'', rfl⟩ := lexFrom_cons_eq_some.mp lexed'
  rw [← List.append_assoc] at split
  obtain rfl := tokens_eq_nil_of_notMem absent lexed'' split.symm
  rw [List.append_nil] at split
  rcases brace_cases stepped lexed'' between with
    ⟨outside, late, pending, rfl, rfl⟩ | ⟨comment, rfl⟩
  · have all : before ++ late = init := by
      rw [← List.append_assoc] at split
      exact (List.append_inj_left' split rfl).symm
    have nonempty : before ++ late ≠ [] := by
      rw [all]
      rintro rfl
      cases reached
      cases closes
    have open_ : mode ≠ .slash := by
      rintro rfl
      exact outside
    obtain ⟨position, c, found⟩ := exists_lastMeaningful plain' read pending nonempty
    obtain ⟨front, gap, init', last, mode', rfl, rfl, all', token, outside', _⟩ :=
      exists_lastToken plain' read pending (.inl outside) open_ found
    rw [all] at all'
    subst all'
    exact ⟨front, c, gap, after, init', last, mode', ⟨by simp, absent, found, token⟩,
      .inl ⟨outside' outside, ⟨state, reached, closes⟩, final, lexed'', finished⟩⟩
  · rw [List.append_nil] at split
    have between' : mode.Between := by
      rcases comment with rfl | ⟨star, rfl⟩ <;> trivial
    have open_ : mode ≠ .slash := by
      rcases comment with rfl | ⟨star, rfl⟩ <;> exact Mode.noConfusion
    have pending := Mode.pending_of_between between'
    have nonempty : before ++ [] ≠ [] := by
      rw [List.append_nil, ← split]
      exact List.append_ne_nil_of_right_ne_nil _ (List.cons_ne_nil _ _)
    obtain ⟨position, c, found⟩ := exists_lastMeaningful plain' read pending nonempty
    obtain ⟨front, gap, init', last, mode', rfl, rfl, all', token, _, between''⟩ :=
      exists_lastToken plain' read pending (.inr between') open_ found
    rw [List.append_nil, ← split] at all'
    obtain ⟨rfl, same⟩ := List.append_inj' all' rfl
    cases same
    obtain rfl := between'' between'
    exact ⟨front, c, gap, after, init, .closeBrace, mode', ⟨by simp, absent, found, token⟩,
      .inr ⟨comment, rfl, State.run_closeBrace reached closes,
        final, lexFrom_cons stepped lexed'', finished⟩⟩

end Parsed

end PresenceUnlock.Cli.Menu
