import Mathlib.Data.List.Basic

/-!
# The tokens of JSON with comments

A text is read character by character.  Line comments end with the line, block comments with the
first `*/` after their beginning, and nothing but blanks, comments and tokens is accepted.
-/

namespace Jsonc

/-- A value without parts; a string is its UTF-16 code units. -/
inductive Scalar
  | null
  | boolean (value : Bool)
  | number (spelling : List Char)
  /-- A string, as its UTF-16 code units. -/
  | string (units : List Nat)
  deriving DecidableEq, Repr

/-- The tokens. -/
inductive Token
  | openBrace
  | closeBrace
  | openBracket
  | closeBracket
  | comma
  | colon
  | scalar (value : Scalar)
  deriving DecidableEq, Repr

/-- The blanks between tokens. -/
def isBlank (c : Char) : Bool := c == ' ' || c == '\t' || c == '\n' || c == '\r'

/-- The characters of numbers and of the words `null`, `true` and `false`. -/
def isAtomic (c : Char) : Bool := c.isAlphanum || c == '+' || c == '-' || c == '.'

/-- The tokens of one character. -/
def punctuation : Char → Option Token
  | '\x7b' => some .openBrace
  | '\x7d' => some .closeBrace
  | '[' => some .openBracket
  | ']' => some .closeBracket
  | ',' => some .comma
  | ':' => some .colon
  | _ => none

/-- The UTF-16 code units of a character. -/
def utf16 (c : Char) : List Nat :=
  if c.toNat < 0x10000 then [c.toNat]
  else [0xD800 + (c.toNat - 0x10000) / 0x400, 0xDC00 + (c.toNat - 0x10000) % 0x400]

/-- The UTF-16 code units of a text. -/
def encode (text : List Char) : List Nat := text.flatMap utf16

/-- The code unit that a one-letter escape stands for. -/
def escapeUnit : Char → Option Nat
  | '"' => some 0x22
  | '\\' => some 0x5C
  | '/' => some 0x2F
  | 'b' => some 0x08
  | 'f' => some 0x0C
  | 'n' => some 0x0A
  | 'r' => some 0x0D
  | 't' => some 0x09
  | _ => none

/-- The value of a hexadecimal digit. -/
def hexDigit (c : Char) : Option Nat :=
  if '0' ≤ c ∧ c ≤ '9' then some (c.toNat - '0'.toNat)
  else if 'a' ≤ c ∧ c ≤ 'f' then some (c.toNat - 'a'.toNat + 10)
  else if 'A' ≤ c ∧ c ≤ 'F' then some (c.toNat - 'A'.toNat + 10)
  else none

/-- What of a number has been read. -/
inductive NumberState
  | start
  | minus
  | zero
  | whole
  | point
  | fraction
  | exponent
  | sign
  | power
  deriving DecidableEq, Repr

namespace NumberState

/-- The next character of a number. -/
def step (state : NumberState) (c : Char) : Option NumberState :=
  match state with
  | start => if c = '-' then some minus else if c = '0' then some zero
      else if c.isDigit then some whole else none
  | minus => if c = '0' then some zero else if c.isDigit then some whole else none
  | zero => if c = '.' then some point else if c = 'e' ∨ c = 'E' then some exponent else none
  | whole => if c.isDigit then some whole else if c = '.' then some point
      else if c = 'e' ∨ c = 'E' then some exponent else none
  | point => if c.isDigit then some fraction else none
  | fraction => if c.isDigit then some fraction
      else if c = 'e' ∨ c = 'E' then some exponent else none
  | exponent => if c = '+' ∨ c = '-' then some sign else if c.isDigit then some power else none
  | sign => if c.isDigit then some power else none
  | power => if c.isDigit then some power else none

/-- The number may end here. -/
def accepts : NumberState → Bool
  | zero | whole | fraction | power => true
  | _ => false

end NumberState

/-- The spelling is that of a number. -/
def isNumber (spelling : List Char) : Bool :=
  (spelling.foldlM NumberState.step .start).any NumberState.accepts

/-- The value of a word. -/
def readAtom (spelling : List Char) : Option Scalar :=
  if spelling = ['n', 'u', 'l', 'l'] then some .null
  else if spelling = ['t', 'r', 'u', 'e'] then some (.boolean true)
  else if spelling = ['f', 'a', 'l', 's', 'e'] then some (.boolean false)
  else if isNumber spelling then some (.number spelling)
  else none

/-- What of an escape sequence has been read. -/
inductive Escape
  | outside
  | begun
  | hex (missing value : Nat)
  deriving DecidableEq, Repr

/-- Where the lexer is. -/
inductive Mode
  | rest
  | atom (spelling : List Char)
  | string (units : List Nat) (escape : Escape)
  | slash
  | lineComment
  | blockComment (star : Bool)
  deriving DecidableEq, Repr

namespace Mode

/-- A character after what came before it is complete. -/
def begin (c : Char) : Option (List Token × Mode) :=
  if isBlank c then some ([], rest)
  else if c = '"' then some ([], string [] .outside)
  else if c = '/' then some ([], slash)
  else if isAtomic c then some ([], atom [c])
  else (punctuation c).map fun token => ([token], rest)

/-- The token that is complete once another character begins something new. -/
def pending : Mode → Option (List Token)
  | atom spelling => (readAtom spelling).map fun value => [.scalar value]
  | _ => some []

/-- The next character, with the tokens that it completes. -/
def step (mode : Mode) (c : Char) : Option (List Token × Mode) :=
  match mode with
  | rest => begin c
  | atom spelling =>
      if isAtomic c then some ([], atom (spelling ++ [c]))
      else do
        let late ← pending (atom spelling)
        let (tokens, mode) ← begin c
        return (late ++ tokens, mode)
  | string units .outside =>
      if c = '"' then some ([.scalar (.string units)], rest)
      else if c = '\\' then some ([], string units .begun)
      else if c < ' ' then none
      else some ([], string (units ++ utf16 c) .outside)
  | string units .begun =>
      if c = 'u' then some ([], string units (.hex 3 0))
      else (escapeUnit c).map fun unit => ([], string (units ++ [unit]) .outside)
  | string units (.hex missing value) =>
      (hexDigit c).map fun digit =>
        match missing with
        | 0 => ([], string (units ++ [16 * value + digit]) .outside)
        | missing + 1 => ([], string units (.hex missing (16 * value + digit)))
  | slash =>
      if c = '/' then some ([], lineComment)
      else if c = '*' then some ([], blockComment false)
      else none
  | lineComment => some ([], if c = '\n' then rest else lineComment)
  | blockComment star =>
      some ([], if star ∧ c = '/' then rest else blockComment (c = '*'))

/-- Outside strings and comments. -/
def Outside : Mode → Prop
  | rest | atom _ => True
  | _ => False

/-- Between tokens, or in a comment. -/
def Between : Mode → Prop
  | atom _ | string _ _ => False
  | _ => True

end Mode

/-- The tokens of a text, and where the lexer is after it. -/
def lexFrom (mode : Mode) : List Char → Option (List Token × Mode)
  | [] => some ([], mode)
  | c :: text => do
      let (tokens, mode) ← mode.step c
      let (later, mode) ← lexFrom mode text
      return (tokens ++ later, mode)

/-- The last tokens of a text that ends here; strings and block comments must not be open. -/
def Mode.finish : Mode → Option (List Token)
  | rest => some []
  | atom spelling => pending (atom spelling)
  | lineComment => some []
  | _ => none

/-- The tokens of a text. -/
def lex (text : List Char) : Option (List Token) := do
  let (tokens, mode) ← lexFrom .rest text
  let late ← mode.finish
  return tokens ++ late

variable {mode mode' : Mode} {text more : List Char} {tokens later : List Token} {c : Char}

@[simp]
theorem lexFrom_nil : lexFrom mode [] = some ([], mode) := rfl

theorem lexFrom_cons_eq_some :
    lexFrom mode (c :: text) = some (tokens, mode') ↔
      ∃ first middle later, mode.step c = some (first, middle) ∧
        lexFrom middle text = some (later, mode') ∧ tokens = first ++ later := by
  simp only [lexFrom, Option.bind_eq_bind, Option.bind_eq_some_iff, Prod.exists, Option.pure_def,
    Option.some.injEq, Prod.mk.injEq]
  constructor
  · rintro ⟨first, middle, step, later, _, lexed, rfl, rfl⟩
    exact ⟨first, middle, later, step, lexed, rfl⟩
  · rintro ⟨first, middle, later, step, lexed, rfl⟩
    exact ⟨first, middle, step, later, _, lexed, rfl, rfl⟩

/-- A joined text is lexed piece by piece. -/
theorem lexFrom_append_eq_some :
    lexFrom mode (text ++ more) = some (tokens, mode') ↔
      ∃ first middle later, lexFrom mode text = some (first, middle) ∧
        lexFrom middle more = some (later, mode') ∧ tokens = first ++ later := by
  induction text generalizing mode tokens with
  | nil => simp
  | cons c text induction =>
      rw [List.cons_append]
      simp only [lexFrom_cons_eq_some, induction]
      constructor
      · rintro ⟨first, middle, _, step, ⟨second, middle', later, lexed, lexed', rfl⟩, rfl⟩
        exact ⟨first ++ second, middle', later, ⟨first, middle, second, step, lexed, rfl⟩, lexed',
          (List.append_assoc ..).symm⟩
      · rintro ⟨_, middle', later, ⟨first, middle, second, step, lexed, rfl⟩, lexed', rfl⟩
        exact ⟨first, middle, second ++ later, step, ⟨second, middle', later, lexed, lexed', rfl⟩,
          List.append_assoc ..⟩

theorem lexFrom_append (lexed : lexFrom mode text = some (tokens, mode')) {mode'' : Mode}
    (lexed' : lexFrom mode' more = some (later, mode'')) :
    lexFrom mode (text ++ more) = some (tokens ++ later, mode'') :=
  lexFrom_append_eq_some.mpr ⟨tokens, mode', later, lexed, lexed', rfl⟩

theorem lexFrom_cons {first : List Token} {middle : Mode}
    (step : mode.step c = some (first, middle))
    (lexed : lexFrom middle text = some (later, mode')) :
    lexFrom mode (c :: text) = some (first ++ later, mode') :=
  lexFrom_cons_eq_some.mpr ⟨first, middle, later, step, lexed, rfl⟩

namespace Mode

/-- A character that ends a word completes what is pending, and begins something new. -/
theorem step_of_outside (outside : mode.Outside) (solid : isAtomic c = false) :
    mode.step c = do
      let late ← mode.pending
      let (tokens, mode) ← begin c
      return (late ++ tokens, mode) := by
  cases mode with
  | rest => cases begins : begin c <;> simp [step, pending, begins]
  | atom spelling => simp [step, solid]
  | string | slash | lineComment | blockComment => exact outside.elim

/-- A character in a word belongs to it, or completes it and begins something new. -/
theorem step_atom_cases {spelling : List Char}
    (stepped : (atom spelling).step c = some (tokens, mode')) :
    isAtomic c = true ∧ tokens = [] ∧ mode' = atom (spelling ++ [c]) ∨
      ∃ value later, isAtomic c = false ∧ readAtom spelling = some value ∧
        begin c = some (later, mode') ∧ tokens = .scalar value :: later := by
  rw [step] at stepped
  split at stepped
  · rename_i atomic
    cases stepped
    exact .inl ⟨atomic, rfl, rfl⟩
  · rename_i solid
    simp only [pending, Option.bind_eq_bind, Option.bind_eq_some_iff,
      Option.map_eq_some_iff] at stepped
    obtain ⟨_, ⟨value, read, rfl⟩, ⟨later, middle⟩, begins, same⟩ := stepped
    cases same
    exact .inr ⟨value, later, by simpa using solid, read, begins, rfl⟩

/-- A character in a string ends it, or leaves it open; only a backslash begins an escape. -/
theorem step_string_cases {units : List Nat} {escape : Escape}
    (stepped : (string units escape).step c = some (tokens, mode')) :
    escape = .outside ∧ c = '"' ∧ tokens = [.scalar (.string units)] ∧ mode' = rest ∨
      tokens = [] ∧ ∃ units' escape', mode' = string units' escape' ∧
        (escape' = .begun ↔ escape ≠ .begun ∧ c = '\\') ∧ (escape ≠ .begun → c ≠ '"') := by
  cases escape with
  | outside =>
      rw [step] at stepped
      split_ifs at stepped with quote backslash
      · cases stepped
        exact .inl ⟨rfl, quote, rfl, rfl⟩
      · cases stepped
        exact .inr ⟨rfl, _, _, rfl, by simp [backslash], fun _ => quote⟩
      · cases stepped
        exact .inr ⟨rfl, _, _, rfl, by simp [backslash], fun _ => quote⟩
  | begun =>
      right
      rw [step] at stepped
      split at stepped
      · cases stepped
        exact ⟨rfl, _, _, rfl, by simp, fun other => absurd rfl other⟩
      · obtain ⟨unit, _, same⟩ := Option.map_eq_some_iff.mp stepped
        cases same
        exact ⟨rfl, _, _, rfl, by simp, fun other => absurd rfl other⟩
  | hex missing value =>
      right
      obtain ⟨digit, digits, same⟩ := Option.map_eq_some_iff.mp stepped
      have unquoted : c ≠ '"' := by
        rintro rfl
        cases digits
      have no_backslash : c ≠ '\\' := by
        rintro rfl
        cases digits
      cases missing <;> cases same <;>
        exact ⟨rfl, _, _, rfl, by simp [no_backslash], fun _ => unquoted⟩

/-- A slash goes on as a comment. -/
theorem step_slash_cases (stepped : slash.step c = some (tokens, mode')) :
    tokens = [] ∧ (c = '/' ∧ mode' = lineComment ∨ c = '*' ∧ mode' = blockComment false) := by
  rw [step] at stepped
  split_ifs at stepped with line block
  · cases stepped
    exact ⟨rfl, .inl ⟨line, rfl⟩⟩
  · cases stepped
    exact ⟨rfl, .inr ⟨block, rfl⟩⟩

theorem begin_punctuation {token : Token} (punctuates : punctuation c = some token) :
    isAtomic c = false ∧ begin c = some ([token], rest) := by
  unfold punctuation at punctuates
  split at punctuates <;> cases punctuates <;> exact ⟨rfl, rfl⟩

theorem step_punctuation {token : Token} {late : List Token} (outside : mode.Outside)
    (punctuates : punctuation c = some token) (complete : mode.pending = some late) :
    mode.step c = some (late ++ [token], rest) := by
  obtain ⟨solid, begins⟩ := begin_punctuation punctuates
  rw [step_of_outside outside solid, complete, begins]
  rfl

/-- Outside of a string, a brace is read as one. -/
theorem eq_of_step_punctuation {token : Token} (outside : mode.Outside)
    (punctuates : punctuation c = some token) (stepped : mode.step c = some (tokens, mode')) :
    ∃ late, mode.pending = some late ∧ tokens = late ++ [token] ∧ mode' = rest := by
  obtain ⟨solid, begins⟩ := begin_punctuation punctuates
  rw [step_of_outside outside solid, begins] at stepped
  cases complete : mode.pending with
  | none =>
      rw [complete] at stepped
      cases stepped
  | some late =>
      rw [complete] at stepped
      cases stepped
      exact ⟨late, rfl, rfl, rfl⟩

theorem pending_of_between (between : mode.Between) : mode.pending = some [] := by
  cases mode with
  | rest | slash | lineComment | blockComment => rfl
  | atom | string => exact between.elim

/-- After the end of a line, nothing but a block comment is open. -/
theorem eq_of_step_newline (stepped : mode.step '\n' = some (tokens, mode')) :
    mode' = rest ∨ mode' = blockComment false := by
  cases mode with
  | rest =>
      cases stepped
      exact .inl rfl
  | atom spelling =>
      rcases step_atom_cases stepped with ⟨atomic, _⟩ | ⟨_, _, _, _, begins, _⟩
      · cases atomic
      · cases begins
        exact .inl rfl
  | string units escape =>
      cases escape with
      | outside | begun => cases stepped
      | hex missing value => cases stepped
  | slash => cases stepped
  | lineComment =>
      cases stepped
      exact .inl rfl
  | blockComment star =>
      cases stepped
      exact .inr (by simp)

theorem between_or_emits (stepped : mode.step c = some (tokens, mode')) (between : mode'.Between) :
    mode.Between ∨ tokens ≠ [] := by
  cases mode with
  | rest | slash | lineComment | blockComment => exact .inl trivial
  | atom spelling =>
      right
      rcases step_atom_cases stepped with ⟨_, _, rfl⟩ | ⟨value, later, _, _, _, rfl⟩
      · exact between.elim
      · exact List.cons_ne_nil _ _
  | string units escape =>
      right
      rcases step_string_cases stepped with ⟨_, _, rfl, _⟩ | ⟨_, _, _, rfl, _⟩
      · exact List.cons_ne_nil _ _
      · exact between.elim

theorem begin_closeBrace (begins : begin c = some (tokens, mode'))
    (member : Token.closeBrace ∈ tokens) : c = '\x7d' := by
  unfold begin at begins
  split_ifs at begins
  · cases begins
    cases member
  · cases begins
    cases member
  · cases begins
    cases member
  · cases begins
    cases member
  · obtain ⟨token, punctuates, same⟩ := Option.map_eq_some_iff.mp begins
    cases same
    cases List.mem_singleton.mp member
    unfold punctuation at punctuates
    split at punctuates <;> cases punctuates
    rfl

/-- Only a brace is read as one. -/
theorem eq_of_closeBrace_mem (stepped : mode.step c = some (tokens, mode'))
    (member : Token.closeBrace ∈ tokens) : c = '\x7d' := by
  cases mode with
  | rest => exact begin_closeBrace stepped member
  | atom spelling =>
      rcases step_atom_cases stepped with ⟨_, rfl, _⟩ | ⟨value, later, _, _, begins, rfl⟩
      · cases member
      · rcases List.mem_cons.mp member with ⟨⟨⟩⟩ | there
        exact begin_closeBrace begins there
  | string units escape =>
      rcases step_string_cases stepped with ⟨_, _, rfl, _⟩ | ⟨rfl, _⟩
      · cases List.mem_singleton.mp member
      · cases member
  | slash =>
      rw [(step_slash_cases stepped).1] at member
      cases member
  | lineComment | blockComment =>
      cases stepped
      cases member

end Mode

/-- What is read without a token does not begin in one, unless it ends in one. -/
theorem between_of_lexFrom (lexed : lexFrom mode text = some ([], mode'))
    (between : mode'.Between) : mode.Between := by
  induction text generalizing mode with
  | nil =>
      cases lexed
      exact between
  | cons c text induction =>
      obtain ⟨first, middle, later, stepped, lexed', split⟩ := lexFrom_cons_eq_some.mp lexed
      obtain ⟨rfl, rfl⟩ := List.append_eq_nil_iff.mp split.symm
      exact (Mode.between_or_emits stepped (induction lexed')).resolve_right (absurd rfl)

theorem closeBrace_mem_of_lexFrom (lexed : lexFrom mode text = some (tokens, mode'))
    (member : Token.closeBrace ∈ tokens) : '\x7d' ∈ text := by
  induction text generalizing mode tokens with
  | nil =>
      cases lexed
      cases member
  | cons c text induction =>
      obtain ⟨first, middle, later, stepped, lexed', rfl⟩ := lexFrom_cons_eq_some.mp lexed
      rcases List.mem_append.mp member with here | there
      · rw [Mode.eq_of_closeBrace_mem stepped here]
        exact List.mem_cons_self
      · exact List.mem_cons_of_mem c (induction lexed' there)

/-- What begins something new is read alike from everywhere outside strings and comments. -/
theorem lexFrom_of_outside {late : List Token} (outside : mode.Outside) (solid : isAtomic c = false)
    (complete : mode.pending = some late)
    (lexed : lexFrom .rest (c :: text) = some (tokens, mode')) :
    lexFrom mode (c :: text) = some (late ++ tokens, mode') := by
  obtain ⟨first, middle, later, stepped, lexed', rfl⟩ := lexFrom_cons_eq_some.mp lexed
  rw [← List.append_assoc]
  refine lexFrom_cons ?_ lexed'
  change Mode.begin c = _ at stepped
  rw [Mode.step_of_outside outside solid, complete, stepped]
  rfl

/-- A line comment goes on to the end of the line. -/
theorem lexFrom_lineComment (single : '\n' ∉ text) :
    lexFrom .lineComment text = some ([], .lineComment) := by
  induction text with
  | nil => rfl
  | cons c text induction =>
      rw [List.mem_cons, not_or] at single
      have stepped : Mode.lineComment.step c = some ([], .lineComment) := by
        simp [Mode.step, Ne.symm single.1]
      exact lexFrom_cons stepped (induction single.2)

/-- A block comment goes on as long as there is no star. -/
theorem lexFrom_blockComment (starless : '*' ∉ text) :
    lexFrom (.blockComment false) text = some ([], .blockComment false) := by
  induction text with
  | nil => rfl
  | cons c text induction =>
      rw [List.mem_cons, not_or] at starless
      have stepped : (Mode.blockComment false).step c = some ([], .blockComment false) := by
        simp [Mode.step, Ne.symm starless.1]
      exact lexFrom_cons stepped (induction starless.2)

/-- A character that stands for itself in a string. -/
def isPlain (c : Char) : Bool := c ≠ '"' && c ≠ '\\' && !(c < ' ')

theorem lexFrom_plain {units : List Nat} (plain : text.all isPlain = true) :
    lexFrom (.string units .outside) text = some ([], .string (units ++ encode text) .outside) := by
  induction text generalizing units with
  | nil => simp [encode]
  | cons c text induction =>
      rw [List.all_cons, Bool.and_eq_true] at plain
      have stepped : (Mode.string units .outside).step c =
          some ([], .string (units ++ utf16 c) .outside) := by
        simp only [isPlain, Bool.and_eq_true, decide_eq_true_eq, Bool.not_eq_true',
          decide_eq_false_iff_not] at plain
        rw [Mode.step, if_neg plain.1.1.1, if_neg plain.1.1.2, if_neg plain.1.2]
      refine (lexFrom_cons stepped (induction plain.2)).trans ?_
      simp [encode]

end Jsonc
