import PresenceUnlock.Cli.LastCharacter
import PresenceUnlock.Jsonc.Lexer

/-!
# The last token

The scan for the last meaningful character keeps step with the lexer, except that it takes a block
comment that begins with `/*/` for closed.  Where there is none, it finds the end of the last token.
-/

namespace PresenceUnlock.Cli.Menu

open RustStd Jsonc

/-- A block comment begins with `/*/`. -/
def Misread (mode : Mode) (text : Text) : Prop :=
  ∃ front back tokens,
    text = front ++ '*' :: '/' :: back ∧ lexFrom mode front = some (tokens, .slash)

/-- The scan is where the lexer is, if this is the next character. -/
def Coupled : Mode → ScanMode → Option Char → Prop
  | .rest, scan, _ | .atom _, scan, _ => scan = .code
  | .string _ escape, scan, _ => scan = .string (escape = .begun)
  | .slash, scan, next =>
      (next = some '/' → scan = .lineComment) ∧ (next = some '*' → scan = .blockComment ' ')
  | .lineComment, scan, _ => scan = .lineComment
  | .blockComment star, scan, next =>
      ∃ previous, scan = .blockComment previous ∧
        (star = decide (previous = '*') ∨ previous = '*' ∧ next ≠ some '/')

section Coupled

variable {mode mode' : Mode} {scan : ScanMode} {c : Char} {text rest more : Text}
  {tokens : List Token}

theorem not_misread_step (plain : ¬ Misread mode (c :: rest))
    (stepped : mode.step c = some (tokens, mode')) : ¬ Misread mode' rest := by
  rintro ⟨front, back, later, rfl, lexed⟩
  exact plain ⟨c :: front, back, tokens ++ later, rfl, lexFrom_cons stepped lexed⟩

theorem coupled_begin {next : Option Char} (begins : Mode.begin c = some (tokens, mode')) :
    Coupled mode' (ScanMode.code.step c next) next := by
  unfold Mode.begin at begins
  split_ifs at begins with blank quote slash atomic
  · cases begins
    have unquoted : c ≠ '"' := by
      rintro rfl
      cases blank
    have no_slash : c ≠ '/' := by
      rintro rfl
      cases blank
    simp [Coupled, ScanMode.step, unquoted, no_slash]
  · cases begins
    simp [Coupled, ScanMode.step, quote]
  · cases begins
    subst slash
    constructor
    · rintro rfl
      rfl
    · rintro rfl
      rfl
  · cases begins
    simp [Coupled, ScanMode.step, quote, slash]
  · obtain ⟨token, _, same⟩ := Option.map_eq_some_iff.mp begins
    cases same
    simp [Coupled, ScanMode.step, quote, slash]

theorem coupled_atom {next : Option Char} {spelling : Text} (atomic : isAtomic c = true) :
    Coupled (.atom spelling) (ScanMode.code.step c next) next := by
  have unquoted : c ≠ '"' := by
    rintro rfl
    cases atomic
  have no_slash : c ≠ '/' := by
    rintro rfl
    cases atomic
  simp [Coupled, ScanMode.step, unquoted, no_slash]

theorem coupled_string {next : Option Char} {units : List Nat} {escape : Escape}
    (stepped : (Mode.string units escape).step c = some (tokens, mode')) :
    Coupled mode' ((ScanMode.string (escape = .begun)).step c next) next := by
  rcases Mode.step_string_cases stepped with
    ⟨rfl, rfl, _, rfl⟩ | ⟨_, _, escape', rfl, begins, unquoted⟩
  · rfl
  · by_cases escaped : escape = .begun
    · simp [Coupled, ScanMode.step, begins, escaped]
    · by_cases backslash : c = '\\' <;>
        simp [Coupled, ScanMode.step, begins, escaped, backslash, unquoted escaped]

theorem coupled_blockComment {star : Bool} {next : Option Char}
    (coupled : Coupled (.blockComment star) scan (some c))
    (stepped : (Mode.blockComment star).step c = some (tokens, mode')) :
    Coupled mode' (scan.step c next) next := by
  obtain ⟨previous, rfl, agree⟩ := coupled
  have closes : (star = true ∧ c = '/') ↔ (previous = '*' ∧ c = '/') := by
    rcases agree with rfl | ⟨_, other⟩
    · simp
    · have no_slash : c ≠ '/' := fun same => other (congrArg some same)
      simp [no_slash]
  cases stepped
  by_cases closed : previous = '*' ∧ c = '/'
  · rw [if_pos (closes.mpr closed), ScanMode.step, if_pos closed]
    rfl
  · rw [if_neg (mt closes.mp closed), ScanMode.step, if_neg closed]
    exact ⟨c, rfl, .inl rfl⟩

/-- One character keeps the scan in step. -/
theorem Coupled.step (coupled : Coupled mode scan (some c)) (plain : ¬ Misread mode (c :: rest))
    (stepped : mode.step c = some (tokens, mode')) :
    Coupled mode' (scan.step c rest.head?) rest.head? := by
  cases mode with
  | rest =>
      cases coupled
      exact coupled_begin stepped
  | atom spelling =>
      cases coupled
      rcases Mode.step_atom_cases stepped with ⟨atomic, _, rfl⟩ | ⟨_, _, _, _, begins, _⟩
      · exact coupled_atom atomic
      · exact coupled_begin begins
  | string units escape =>
      cases coupled
      exact coupled_string stepped
  | slash =>
      obtain ⟨_, ⟨rfl, rfl⟩ | ⟨rfl, rfl⟩⟩ := Mode.step_slash_cases stepped
      · rw [coupled.1 rfl]
        rfl
      · rw [coupled.2 rfl]
        refine ⟨'*', rfl, .inr ⟨rfl, fun opened => plain ?_⟩⟩
        obtain ⟨back, rfl⟩ := List.head?_eq_some_iff.mp opened
        exact ⟨[], back, [], rfl, rfl⟩
  | lineComment =>
      cases coupled
      cases stepped
      rw [ScanMode.step]
      split <;> rfl
  | blockComment star => exact coupled_blockComment coupled stepped

/-- A text keeps the scan in step. -/
theorem Coupled.run (coupled : Coupled mode scan (text ++ more).head?)
    (plain : ¬ Misread mode (text ++ more)) (lexed : lexFrom mode text = some (tokens, mode')) :
    Coupled mode' (scan.after more.head? text) more.head? ∧ ¬ Misread mode' more := by
  induction text generalizing mode scan tokens with
  | nil =>
      cases lexed
      exact ⟨coupled, plain⟩
  | cons c text induction =>
      obtain ⟨first, middle, later, stepped, lexed', rfl⟩ := lexFrom_cons_eq_some.mp lexed
      have next : text.head?.or more.head? = (text ++ more).head? := List.head?_append.symm
      rw [ScanMode.after, next]
      exact induction (coupled.step plain stepped) (not_misread_step plain stepped) lexed'

theorem isWhitespace_of_isBlank (blank : isBlank c = true) : Text.isWhitespace c = true := by
  simp only [isBlank, Bool.or_eq_true, beq_iff_eq] at blank
  rcases blank with ((rfl | rfl) | rfl) | rfl <;> rfl

theorem bounds_of_isAtomic (atomic : isAtomic c = true) : 0x2B ≤ c.toNat ∧ c.toNat ≤ 0x7A := by
  simp only [isAtomic, Bool.or_eq_true, beq_iff_eq] at atomic
  rcases atomic with ((alphanum | rfl) | rfl) | rfl
  · exact Text.bounds_of_isAlphanum alphanum
  · decide
  · decide
  · decide

theorem bounds_of_isWhitespace (blank : Text.isWhitespace c = true) :
    c.toNat ≤ 0x20 ∨ 0x85 ≤ c.toNat := by
  simp only [Text.isWhitespace, Bool.or_eq_true, Bool.and_eq_true, decide_eq_true_eq, beq_iff_eq,
    UInt32.le_iff_toNat_le, ← UInt32.toNat_inj] at blank
  have code : c.toNat = c.val.toNat := rfl
  simp only [UInt32.reduceToNat] at blank
  omega

theorem not_isWhitespace_of_isAtomic (atomic : isAtomic c = true) :
    Text.isWhitespace c = false := by
  by_contra blank
  have low := bounds_of_isAtomic atomic
  have high := bounds_of_isWhitespace (by simpa using blank)
  omega

theorem not_isWhitespace_of_punctuation {token : Token} (punctuates : punctuation c = some token) :
    Text.isWhitespace c = false := by
  unfold punctuation at punctuates
  split at punctuates <;> first | rfl | cases punctuates

/-- What begins neither a token nor a comment goes without notice, and nothing else does. -/
theorem notes_code_eq_false {next : Option Char} :
    ScanMode.code.notes c next = false ↔
      c ≠ '"' ∧ (Text.isWhitespace c = true ∨ c = '/' ∧ (next = some '/' ∨ next = some '*')) := by
  rw [ScanMode.notes]
  split_ifs with quote line block
  · simp [quote]
  · simp [line]
  · simp [block]
  · rw [Bool.not_eq_false', and_iff_right quote, or_iff_left]
    rintro ⟨slash, opens | opens⟩
    · exact line ⟨slash, opens⟩
    · exact block ⟨slash, opens⟩

/-- What goes without notice between tokens is not a token. -/
theorem between_of_quiet (coupled : Coupled mode scan (some c)) (between : mode.Between)
    (quiet : scan.notes c rest.head? = false) (stepped : mode.step c = some (tokens, mode')) :
    tokens = [] ∧ mode'.Between := by
  cases mode with
  | rest =>
      cases coupled
      obtain ⟨unquoted, blank⟩ := notes_code_eq_false.mp quiet
      change Mode.begin c = _ at stepped
      unfold Mode.begin at stepped
      split_ifs at stepped with json_blank slash atomic
      · cases stepped
        exact ⟨rfl, trivial⟩
      · cases stepped
        exact ⟨rfl, trivial⟩
      · rw [not_isWhitespace_of_isAtomic atomic] at blank
        simp [slash] at blank
      · obtain ⟨token, punctuates, _⟩ := Option.map_eq_some_iff.mp stepped
        rw [not_isWhitespace_of_punctuation punctuates] at blank
        simp [slash] at blank
  | atom | string => exact between.elim
  | slash =>
      obtain ⟨rfl, ⟨_, rfl⟩ | ⟨_, rfl⟩⟩ := Mode.step_slash_cases stepped
      · exact ⟨rfl, trivial⟩
      · exact ⟨rfl, trivial⟩
  | lineComment =>
      cases stepped
      refine ⟨rfl, ?_⟩
      split <;> trivial
  | blockComment =>
      cases stepped
      refine ⟨rfl, ?_⟩
      split <;> trivial

/-- A text that goes without notice has no tokens. -/
theorem lexFrom_of_scan_eq_none {position : Nat} (coupled : Coupled mode scan text.head?)
    (between : mode.Between) (plain : ¬ Misread mode text)
    (quiet : Menu.scan scan position none text = none)
    (lexed : lexFrom mode text = some (tokens, mode')) : tokens = [] ∧ mode'.Between := by
  induction text generalizing mode scan position tokens with
  | nil =>
      cases lexed
      exact ⟨rfl, between⟩
  | cons c text induction =>
      obtain ⟨first, middle, later, stepped, lexed', rfl⟩ := lexFrom_cons_eq_some.mp lexed
      obtain ⟨unnoted, quiet'⟩ := scan_cons_eq_none.mp quiet
      obtain ⟨rfl, between'⟩ := between_of_quiet coupled between unnoted stepped
      exact induction (coupled.step plain stepped) between' (not_misread_step plain stepped) quiet'
        lexed'

/-- A slash begins a comment. -/
theorem head_of_lexFrom_slash (ended : mode' ≠ .slash)
    (lexed : lexFrom .slash text = some (tokens, mode')) :
    text.head? = some '/' ∨ text.head? = some '*' := by
  cases text with
  | nil =>
      cases lexed
      exact (ended rfl).elim
  | cons c text =>
      obtain ⟨first, middle, later, stepped, _⟩ := lexFrom_cons_eq_some.mp lexed
      obtain ⟨_, ⟨slash, _⟩ | ⟨star, _⟩⟩ := Mode.step_slash_cases stepped
      · exact .inl (congrArg some slash)
      · exact .inr (congrArg some star)

end Coupled

/-- A token ends with a character, and only blanks and comments follow it. -/
structure LastToken (front : Text) (c : Char) (gap : Text) (init : List Token) (last : Token)
    (mode : Mode) : Prop where
  /-- The token is not complete before the character. -/
  fresh : ∃ tokens middle, lexFrom .rest front = some (tokens, middle) ∧
    tokens.length ≤ init.length
  /-- It is, with the character, whatever follows. -/
  reads : ∃ tokens middle late, lexFrom .rest (front ++ [c]) = some (tokens, middle) ∧
    middle.Outside ∧ middle.pending = some late ∧ tokens ++ late = init ++ [last]
  /-- After it there are only blanks and comments. -/
  gap : lexFrom .rest gap = some ([], mode)
  /-- It is an opening brace if the character is one. -/
  brace : c = '\x7b' ↔ last = .openBrace
  /-- It is a comma if the character is one. -/
  comma : c = ',' ↔ last = .comma
  /-- The scan takes note of the character. -/
  noted : ∀ next, (ScanMode.code.after (some c) front).notes c next = true ∧
    (ScanMode.code.after (some c) front).step c next = .code

theorem punctuation_eq_iff {c : Char} {token : Token} (punctuates : punctuation c = some token) :
    (c = '\x7b' ↔ token = .openBrace) ∧ (c = ',' ↔ token = .comma) := by
  unfold punctuation at punctuates
  split at punctuates <;> cases punctuates <;> decide

section LastToken

variable {mode mode' : Mode} {scan : ScanMode} {front gap text : Text} {c : Char}
  {next : Option Char} {tokens late : List Token}

/-- What a noted character does: it ends a token, it belongs to a word, it begins a string, or it is
a slash that begins nothing. -/
inductive Noted (c : Char) (next : Option Char) : List Token → Mode → Prop
  | ends (init : List Token) {last : Token} (no_slash : c ≠ '/')
      (brace : c = '\x7b' ↔ last = .openBrace) (comma : c = ',' ↔ last = .comma) :
      Noted c next (init ++ [last]) .rest
  | word (spelling : Text) (atomic : isAtomic c = true) : Noted c next [] (.atom spelling)
  | quote (tokens : List Token) (opens : c = '"') : Noted c next tokens (.string [] .outside)
  | slash (tokens : List Token) (alone : next ≠ some '/' ∧ next ≠ some '*') :
      Noted c next tokens .slash

theorem Noted.append (noted : Noted c next tokens mode) (solid : isAtomic c = false)
    (late : List Token) : Noted c next (late ++ tokens) mode := by
  cases noted with
  | ends init no_slash brace comma =>
      rw [← List.append_assoc]
      exact .ends _ no_slash brace comma
  | word spelling atomic =>
      rw [solid] at atomic
      cases atomic
  | quote tokens opens => exact .quote _ opens
  | slash tokens alone => exact .slash _ alone

theorem noted_begin (noted : ScanMode.code.notes c next = true)
    (begins : Mode.begin c = some (tokens, mode)) : Noted c next tokens mode := by
  have unnoted : ¬ ScanMode.code.notes c next = false := by simp [noted]
  rw [notes_code_eq_false] at unnoted
  unfold Mode.begin at begins
  split_ifs at begins with blank quote slash atomic
  · exfalso
    apply unnoted
    refine ⟨?_, .inl (isWhitespace_of_isBlank blank)⟩
    rintro rfl
    cases blank
  · cases begins
    exact .quote [] quote
  · cases begins
    refine .slash [] ⟨fun line => unnoted ⟨quote, .inr ⟨slash, .inl line⟩⟩,
      fun block => unnoted ⟨quote, .inr ⟨slash, .inr block⟩⟩⟩
  · cases begins
    exact .word [c] atomic
  · obtain ⟨token, punctuates, same⟩ := Option.map_eq_some_iff.mp begins
    cases same
    obtain ⟨brace, comma⟩ := punctuation_eq_iff punctuates
    exact .ends [] slash brace comma

theorem noted_step (coupled : Coupled mode scan (some c)) (noted : scan.notes c next = true)
    (stepped : mode.step c = some (tokens, mode')) : Noted c next tokens mode' := by
  cases mode with
  | rest =>
      cases coupled
      exact noted_begin noted stepped
  | atom spelling =>
      cases coupled
      rcases Mode.step_atom_cases stepped with
        ⟨atomic, rfl, rfl⟩ | ⟨value, later, solid, _, begins, rfl⟩
      · exact .word _ atomic
      · exact (noted_begin noted begins).append solid [.scalar value]
  | string units escape =>
      cases coupled
      simp only [ScanMode.notes, Bool.and_eq_true, Bool.not_eq_true', decide_eq_false_iff_not,
        decide_eq_true_eq] at noted
      obtain ⟨⟨unescaped, _⟩, rfl⟩ := noted
      rcases Mode.step_string_cases stepped with ⟨_, _, rfl, rfl⟩ | ⟨_, _, _, _, _, unquoted⟩
      · exact .ends [] (by decide) (by simp) (by simp)
      · exact absurd rfl (unquoted unescaped)
  | slash =>
      obtain ⟨_, ⟨line, _⟩ | ⟨block, _⟩⟩ := Mode.step_slash_cases stepped
      · rw [coupled.1 (congrArg some line)] at noted
        cases noted
      · rw [coupled.2 (congrArg some block)] at noted
        cases noted
  | lineComment =>
      cases coupled
      cases noted
  | blockComment star =>
      obtain ⟨previous, rfl, _⟩ := coupled
      cases noted

/-- A string goes on, or its end is noted. -/
theorem string_or_noted (next : Option Char) {units : List Nat} {escape : Escape}
    (stepped : (Mode.string units escape).step c = some (tokens, mode)) :
    (∃ units escape, mode = .string units escape) ∨
      (ScanMode.string (escape = .begun)).notes c next = true := by
  rcases Mode.step_string_cases stepped with ⟨rfl, rfl, _⟩ | ⟨_, units', escape', open_string, _⟩
  · exact .inr rfl
  · exact .inl ⟨units', escape', open_string⟩

/-- A string whose end goes without notice does not end. -/
theorem exists_string_of_quiet {position : Nat} {units : List Nat} {escape : Escape}
    (quiet : Menu.scan (.string (escape = .begun)) position none text = none)
    (lexed : lexFrom (.string units escape) text = some (tokens, mode)) :
    ∃ units escape, mode = .string units escape := by
  induction text generalizing units escape position tokens with
  | nil =>
      cases lexed
      exact ⟨units, escape, rfl⟩
  | cons c text induction =>
      obtain ⟨first, middle, later, stepped, lexed', _⟩ := lexFrom_cons_eq_some.mp lexed
      obtain ⟨unnoted, quiet'⟩ := scan_cons_eq_none.mp quiet
      have coupled : Coupled middle _ text.head? := coupled_string stepped
      rcases string_or_noted text.head? stepped with ⟨units, escape, rfl⟩ | noted
      · rw [coupled] at quiet'
        exact induction quiet' lexed'
      · rw [noted] at unnoted
        cases unnoted

/-- What follows a token and goes without notice only completes the token. -/
theorem gap_of_quiet {position : Nat} {middle : Mode} (outside : middle.Outside)
    (plain : ¬ Misread middle gap) (quiet : Menu.scan .code position none gap = none)
    (lexed : lexFrom middle gap = some (tokens, mode)) (complete : mode.pending = some late) :
    ∃ completed mode', middle.pending = some completed ∧ tokens ++ late = completed ∧
      lexFrom .rest gap = some ([], mode') ∧ (mode.Outside → mode' = .rest) ∧
      (mode.Between → mode' = mode) := by
  have rest_of_outside : ∀ {mode : Mode}, mode.Between → mode.Outside → mode = .rest := by
    intro mode between outside
    cases mode with
    | rest => rfl
    | atom => exact between.elim
    | string | slash | lineComment | blockComment => exact outside.elim
  have start : Coupled .rest .code gap.head? := rfl
  cases middle with
  | rest =>
      obtain ⟨rfl, between⟩ := lexFrom_of_scan_eq_none start trivial plain quiet lexed
      rw [Mode.pending_of_between between] at complete
      cases complete
      exact ⟨[], mode, rfl, rfl, lexed, rest_of_outside between, fun _ => rfl⟩
  | atom spelling =>
      cases gap with
      | nil =>
          cases lexed
          exact ⟨late, .rest, complete, rfl, rfl, fun _ => rfl, fun between => between.elim⟩
      | cons c gap =>
          have solid : isAtomic c = false := by
            obtain ⟨_, blank | ⟨rfl, _⟩⟩ := notes_code_eq_false.mp (scan_cons_eq_none.mp quiet).1
            · by_contra atomic
              rw [not_isWhitespace_of_isAtomic (by simpa using atomic)] at blank
              cases blank
            · rfl
          obtain ⟨first, after, later, stepped, lexed', rfl⟩ := lexFrom_cons_eq_some.mp lexed
          rw [Mode.step_of_outside outside solid] at stepped
          simp only [Option.bind_eq_bind, Option.bind_eq_some_iff] at stepped
          obtain ⟨completed, pending, ⟨begun, middle⟩, begins, same⟩ := stepped
          cases same
          have lexed_rest : lexFrom .rest (c :: gap) = some (begun ++ later, mode) :=
            lexFrom_cons begins lexed'
          have plain' : ¬ Misread .rest (c :: gap) := by
            rintro ⟨front, back, tokens, split, opened⟩
            cases front with
            | nil => cases opened
            | cons first front =>
                obtain ⟨rfl, _⟩ := List.cons.inj split
                exact plain ⟨_, back, _, split, lexFrom_of_outside outside solid pending opened⟩
          obtain ⟨empty, between⟩ :=
            lexFrom_of_scan_eq_none start trivial plain' quiet lexed_rest
          rw [Mode.pending_of_between between] at complete
          cases complete
          refine ⟨completed, mode, pending, ?_, ?_, rest_of_outside between, fun _ => rfl⟩
          · rw [List.append_nil, List.append_assoc, empty, List.append_nil]
          · rw [lexed_rest, empty]
  | string | slash | lineComment | blockComment => exact outside.elim

/-- What follows does not bear on what is not a slash. -/
theorem noted_of_ne_slash {next : Option Char} (no_slash : c ≠ '/')
    (noted : scan.notes c next = true) (stays : scan.step c next = .code) (next' : Option Char) :
    scan.notes c next' = true ∧ scan.step c next' = .code := by
  cases scan with
  | code =>
      simp only [ScanMode.notes, ScanMode.step, no_slash, false_and, if_false] at noted stays ⊢
      exact ⟨noted, stays⟩
  | string escaped =>
      cases escaped <;> exact ⟨noted, stays⟩
  | lineComment | blockComment => cases noted

theorem exists_lastToken {p : Nat} {head : Text} (plain : ¬ Misread .rest head)
    (lexed : lexFrom .rest head = some (tokens, mode)) (complete : mode.pending = some late)
    (closed : mode.Outside ∨ mode.Between) (ended : mode ≠ .slash)
    (found : lastMeaningful head = some (p, c)) :
    ∃ front gap init last mode', head = front ++ c :: gap ∧ p = front.length ∧
      tokens ++ late = init ++ [last] ∧ LastToken front c gap init last mode' ∧
      (mode.Outside → mode' = .rest) ∧ (mode.Between → mode' = mode) := by
  obtain ⟨front, gap, rfl, position, noted, quiet⟩ := exists_split_of_scan found
  rw [Nat.zero_add] at position
  obtain ⟨before, middle, rest, read, lexed', rfl⟩ := lexFrom_append_eq_some.mp lexed
  obtain ⟨here, after, later, stepped, lexed'', rfl⟩ := lexFrom_cons_eq_some.mp lexed'
  have start : Coupled .rest .code (front ++ c :: gap).head? := rfl
  obtain ⟨coupled, plain'⟩ := start.run plain read
  have coupled' := coupled.step plain' stepped
  have plain'' := not_misread_step plain' stepped
  cases noted_step coupled noted stepped with
  | ends init no_slash brace comma =>
      have always := noted_of_ne_slash no_slash noted coupled'
      have closed_rest : Mode.rest.Outside := trivial
      rw [show (ScanMode.code.after (some c) front).step c gap.head? = .code from coupled'] at quiet
      obtain ⟨completed, mode', pending, all, blank, outside, between⟩ :=
        gap_of_quiet closed_rest plain'' quiet lexed'' complete
      cases pending
      refine ⟨front, gap, before ++ init, _, mode', rfl, position, ?_,
        ⟨⟨before, middle, read, by simp⟩,
          ⟨_, _, _, lexFrom_append read (lexFrom_cons stepped lexFrom_nil), trivial, rfl, ?_⟩,
            blank, brace, comma, always⟩, outside, between⟩
      · simp [all]
      · simp
  | word spelling atomic =>
      have open_word : (Mode.atom spelling).Outside := trivial
      have coupled_word : (ScanMode.code.after (some c) front).step c gap.head? = .code := coupled'
      rw [show (ScanMode.code.after (some c) front).step c gap.head? = .code from coupled'] at quiet
      obtain ⟨completed, mode', pending, all, blank, outside, between⟩ :=
        gap_of_quiet open_word plain'' quiet lexed'' complete
      obtain ⟨value, _, rfl⟩ := Option.map_eq_some_iff.mp pending
      have solid : c ≠ '\x7b' ∧ c ≠ ',' ∧ c ≠ '/' := by
        refine ⟨?_, ?_, ?_⟩
        all_goals
          rintro rfl
          cases atomic
      refine ⟨front, gap, before, .scalar value, mode', rfl, position, ?_,
        ⟨⟨before, middle, read, le_rfl⟩,
          ⟨_, _, _, lexFrom_append read (lexFrom_cons stepped lexFrom_nil), trivial, pending, ?_⟩,
          blank, by simp [solid.1], by simp [solid.2.1],
          noted_of_ne_slash solid.2.2 noted coupled_word⟩, outside, between⟩
      · simp [all]
      · simp
  | quote _ opens =>
      exfalso
      have unended : Menu.scan (.string (Escape.outside = .begun)) (p + 1) none gap = none := by
        rw [← show (ScanMode.code.after (some c) front).step c gap.head? =
          .string (Escape.outside = .begun) from coupled']
        exact quiet
      obtain ⟨units, escape, rfl⟩ := exists_string_of_quiet unended lexed''
      exact closed.elim id id
  | slash _ alone =>
      exact ((head_of_lexFrom_slash ended lexed'').elim alone.1 alone.2).elim

end LastToken

end PresenceUnlock.Cli.Menu
