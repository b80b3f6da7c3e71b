import PresenceUnlock.Cli.Menu

/-!
# Meaningful characters

A text of JSON with comments falls into blanks, marks, strings and comments.  The scan takes `/*/`
for a whole comment; where no comment begins like this, it finds the last character with a meaning.
-/

namespace PresenceUnlock.Cli.Menu

open RustStd

/-- A piece of a text; only the last one may be left open. -/
inductive Piece
  | blank (c : Char)
  | mark (c : Char)
  | string (body : Text) (closed : Bool)
  | lineComment (body : Text) (closed : Bool)
  | blockComment (body : Text) (closed : Bool)
  deriving DecidableEq, Repr

/-- What may stand in a string; a backslash escapes the character after it. -/
inductive Quoted : Text → Prop
  | nil : Quoted []
  | plain {c : Char} {body : Text} : c ≠ '"' → c ≠ '\\' → Quoted body → Quoted (c :: body)
  | escape {c : Char} {body : Text} : Quoted body → Quoted ('\\' :: c :: body)

namespace Piece

/-- The text of a piece. -/
def text : Piece → Text
  | blank c | mark c => [c]
  | string body closed => '"' :: (body ++ if closed then ['"'] else [])
  | lineComment body closed => '/' :: '/' :: (body ++ if closed then ['\n'] else [])
  | blockComment body closed => '/' :: '*' :: (body ++ if closed then ['*', '/'] else [])

/-- A piece with what follows it: a string ends with the first quote that is not escaped, a line
comment with the line, and a block comment with the first `*/` behind its beginning. -/
def Fits : Piece → Text → Prop
  | blank c, _ => Text.isWhitespace c = true
  | mark c, rest => Text.isWhitespace c = false ∧ c ≠ '"' ∧
      (c = '/' → rest.head? ≠ some '/' ∧ rest.head? ≠ some '*')
  | string body true, _ => Quoted body
  | string body false, rest =>
      (Quoted body ∨ ∃ front, body = front ++ ['\\'] ∧ Quoted front) ∧ rest = []
  | lineComment body closed, rest => '\n' ∉ body ∧ (closed = false → rest = [])
  | blockComment body closed, rest => ¬ ['*', '/'] <:+: body ∧ (closed = false → rest = [])

/-- The characters with a meaning, and where they stand; a string is represented by its quotes. -/
def meaningful (position : Nat) : Piece → List (Nat × Char)
  | blank _ | lineComment _ _ | blockComment _ _ => []
  | mark c => [(position, c)]
  | string body closed =>
      (position, '"') :: if closed then [(position + (body.length + 1), '"')] else []

/-- A block comment that begins with `/*/`. -/
def Slips : Piece → Prop
  | blockComment body _ => body.head? = some '/'
  | _ => False

end Piece

/-- A text falls into these pieces. -/
inductive Reads : Text → List Piece → Prop
  | nil : Reads [] []
  | cons {piece : Piece} {rest : Text} {pieces : List Piece} :
      piece.Fits rest → Reads rest pieces → Reads (piece.text ++ rest) (piece :: pieces)

/-- The characters with a meaning, and where they stand. -/
def meaningfulFrom (position : Nat) : List Piece → List (Nat × Char)
  | [] => []
  | piece :: pieces =>
      piece.meaningful position ++ meaningfulFrom (position + piece.text.length) pieces

/-- The scan finds the last character with a meaning, and where it stands. -/
structure Agrees (text : Text) : Prop where
  /-- The text falls into pieces in one way. -/
  readable : ∃! pieces, Reads text pieces
  /-- The scan finds the last character with a meaning. -/
  found : ∀ pieces, Reads text pieces → lastMeaningful text = (meaningfulFrom 0 pieces).getLast?

/-- Some block comment of the text begins with `/*/`. -/
def Slips (text : Text) : Prop := ∃ pieces, Reads text pieces ∧ ∃ piece ∈ pieces, piece.Slips

section Scan

variable {mode : ScanMode} {c : Char} {body rest : Text} {position : Nat}
  {found : Option (Nat × Char)}

theorem scan_cons_unnoted (unnoted : mode.notes c rest.head? = false) :
    scan mode position found (c :: rest) =
      scan (mode.step c rest.head?) (position + 1) found rest := by
  rw [scan, unnoted, if_neg Bool.false_ne_true]

theorem scan_cons_noted (noted : mode.notes c rest.head? = true) :
    scan mode position found (c :: rest) =
      scan (mode.step c rest.head?) (position + 1) (some (position, c)) rest := by
  rw [scan, noted, if_pos rfl]

theorem scan_quoted (quoted : Quoted body) (rest : Text) (position : Nat) :
    scan (.string false) position found (body ++ rest) =
      scan (.string false) (position + body.length) found rest := by
  induction quoted generalizing position with
  | nil => rfl
  | plain unquoted unescaped _ induction =>
      rw [List.cons_append, scan_cons_unnoted (by simp [ScanMode.notes, unquoted]), ScanMode.step,
        if_neg unescaped, if_neg unquoted, induction, List.length_cons, Nat.add_right_comm,
        Nat.add_assoc]
  | escape _ induction =>
      rw [List.cons_append, List.cons_append, scan_cons_unnoted rfl, ScanMode.step, if_pos rfl,
        scan_cons_unnoted rfl, ScanMode.step, induction, List.length_cons, List.length_cons]
      congr 1
      omega

theorem scan_line (inside : '\n' ∉ body) (rest : Text) (position : Nat) :
    scan .lineComment position found (body ++ rest) =
      scan .lineComment (position + body.length) found rest := by
  induction body generalizing position with
  | nil => rfl
  | cons c body induction =>
      rw [List.mem_cons, not_or] at inside
      rw [List.cons_append, scan_cons_unnoted rfl, ScanMode.step, if_neg (Ne.symm inside.1),
        induction inside.2, List.length_cons, Nat.add_right_comm, Nat.add_assoc]

theorem scan_block {previous : Char} (inside : ¬ ['*', '/'] <:+: previous :: body) (rest : Text)
    (position : Nat) :
    ∃ last, scan (.blockComment previous) position found (body ++ rest) =
      scan (.blockComment last) (position + body.length) found rest := by
  induction body generalizing previous position with
  | nil => exact ⟨previous, rfl⟩
  | cons c body induction =>
      rw [List.infix_cons_iff, not_or] at inside
      have unclosed : ¬ (previous = '*' ∧ c = '/') := by
        rintro ⟨rfl, rfl⟩
        exact inside.1 ⟨body, rfl⟩
      obtain ⟨last, scanned⟩ := induction inside.2 (position + 1)
      refine ⟨last, ?_⟩
      rw [List.cons_append, scan_cons_unnoted rfl, ScanMode.step, if_neg unclosed, scanned,
        List.length_cons, Nat.add_right_comm, Nat.add_assoc]

/-- What the scan of a piece is to find: the last of its characters with a meaning. -/
def Piece.finds (piece : Piece) (position : Nat) (found : Option (Nat × Char)) :
    Option (Nat × Char) :=
  (piece.meaningful position).getLast?.or found

theorem scan_string {closed : Bool} (fits : (Piece.string body closed).Fits rest) :
    scan .code position found ((Piece.string body closed).text ++ rest) =
      scan .code (position + (Piece.string body closed).text.length)
        ((Piece.string body closed).finds position found) rest := by
  cases closed with
  | true =>
      have text_eq : (Piece.string body true).text = '"' :: (body ++ ['"']) := rfl
      have finds_eq : (Piece.string body true).finds position found =
          some (position + 1 + body.length, '"') := by
        simp [Piece.finds, Piece.meaningful, Nat.add_right_comm, Nat.add_assoc]
      have length : position + (Piece.string body true).text.length =
          position + 1 + body.length + 1 := by
        rw [text_eq, List.length_cons, List.length_append, List.length_singleton]
        omega
      rw [length, finds_eq, text_eq, List.cons_append, scan_cons_noted rfl, ScanMode.step,
        if_pos rfl, List.append_assoc, scan_quoted fits, List.singleton_append,
        scan_cons_noted rfl, ScanMode.step, if_neg (by decide), if_pos rfl]
  | false =>
      obtain ⟨quoted, rfl⟩ := fits
      rw [Piece.text, List.cons_append, scan_cons_noted rfl, ScanMode.step, if_pos rfl,
        List.append_assoc]
      rcases quoted with quoted | ⟨front, rfl, quoted⟩
      · rw [scan_quoted quoted]
        rfl
      · rw [List.append_assoc, scan_quoted quoted]
        rfl

theorem scan_lineComment {closed : Bool} (fits : (Piece.lineComment body closed).Fits rest) :
    scan .code position found ((Piece.lineComment body closed).text ++ rest) =
      scan .code (position + (Piece.lineComment body closed).text.length) found rest := by
  obtain ⟨inside, ends⟩ := fits
  have begins : ∀ ending : Text, scan .code position found ('/' :: '/' :: (body ++ ending)) =
      scan .lineComment (position + 2 + body.length) found ending := by
    intro ending
    rw [scan_cons_unnoted rfl, ScanMode.step, if_neg (by decide), if_pos ⟨rfl, rfl⟩,
      scan_cons_unnoted rfl, ScanMode.step, if_neg (by decide), scan_line inside]
  cases closed with
  | true =>
      have text_eq : (Piece.lineComment body true).text = '/' :: '/' :: (body ++ ['\n']) := rfl
      have length : position + (Piece.lineComment body true).text.length =
          position + 2 + body.length + 1 := by
        rw [text_eq, List.length_cons, List.length_cons, List.length_append, List.length_singleton]
        omega
      rw [length, text_eq, List.cons_append, List.cons_append, List.append_assoc, begins,
        List.singleton_append, scan_cons_unnoted rfl, ScanMode.step, if_pos rfl]
  | false =>
      rw [ends rfl, Piece.text, List.cons_append, List.cons_append, List.append_assoc, begins]
      rfl

theorem scan_blockComment {closed : Bool} (fits : (Piece.blockComment body closed).Fits rest)
    (plain : ¬ (Piece.blockComment body closed).Slips) :
    scan .code position found ((Piece.blockComment body closed).text ++ rest) =
      scan .code (position + (Piece.blockComment body closed).text.length) found rest := by
  obtain ⟨inside, ends⟩ := fits
  have unclosed : ¬ ['*', '/'] <:+: '*' :: body := by
    rw [List.infix_cons_iff, not_or]
    refine ⟨fun closes => plain ?_, inside⟩
    obtain ⟨after, same⟩ := closes
    rw [Piece.Slips, ← (List.cons.inj same).2]
    rfl
  have begins : ∀ ending : Text, ∃ last,
      scan .code position found ('/' :: '*' :: (body ++ ending)) =
        scan (.blockComment last) (position + 2 + body.length) found ending := by
    intro ending
    obtain ⟨last, scanned⟩ : ∃ last, scan (.blockComment '*') (position + 2) found
        (body ++ ending) = scan (.blockComment last) (position + 2 + body.length) found ending :=
      scan_block unclosed ending (position + 2)
    refine ⟨last, ?_⟩
    rw [scan_cons_unnoted rfl, ScanMode.step, if_neg (by decide), if_neg (by simp),
      if_pos ⟨rfl, rfl⟩, scan_cons_unnoted rfl, ScanMode.step, if_neg (by decide), scanned]
  cases closed with
  | true =>
      have text_eq : (Piece.blockComment body true).text = '/' :: '*' :: (body ++ ['*', '/']) := rfl
      have length : position + (Piece.blockComment body true).text.length =
          position + 2 + body.length + 1 + 1 := by
        rw [text_eq, List.length_cons, List.length_cons, List.length_append]
        simp only [List.length_cons, List.length_nil]
        omega
      obtain ⟨last, scanned⟩ := begins ('*' :: '/' :: rest)
      rw [length, text_eq, List.cons_append, List.cons_append, List.append_assoc, List.cons_append,
        List.singleton_append, scanned, scan_cons_unnoted rfl, ScanMode.step, if_neg (by simp),
        scan_cons_unnoted rfl, ScanMode.step, if_pos ⟨rfl, rfl⟩]
  | false =>
      obtain ⟨last, scanned⟩ := begins []
      rw [ends rfl, Piece.text, List.cons_append, List.cons_append, List.append_assoc]
      exact scanned

/-- A piece is scanned as it is read, unless it slips. -/
theorem scan_piece {piece : Piece} (fits : piece.Fits rest) (plain : ¬ piece.Slips) :
    scan .code position found (piece.text ++ rest) =
      scan .code (position + piece.text.length) (piece.finds position found) rest := by
  cases piece with
  | blank c =>
      have unquoted : c ≠ '"' := by
        rintro rfl
        cases fits
      have other : c ≠ '/' := by
        rintro rfl
        cases fits
      have blank : Text.isWhitespace c = true := fits
      change scan .code position found (c :: rest) = scan .code (position + 1) found rest
      rw [scan_cons_unnoted (by simp [ScanMode.notes, unquoted, other, blank]), ScanMode.step,
        if_neg unquoted, if_neg (by simp [other]), if_neg (by simp [other])]
  | mark c =>
      obtain ⟨solid, unquoted, alone⟩ := fits
      have line : ¬ (c = '/' ∧ rest.head? = some '/') := fun begins =>
        (alone begins.1).1 begins.2
      have block : ¬ (c = '/' ∧ rest.head? = some '*') := fun begins =>
        (alone begins.1).2 begins.2
      change scan .code position found (c :: rest) =
        scan .code (position + 1) (some (position, c)) rest
      rw [scan_cons_noted (by simp only [ScanMode.notes, if_neg unquoted, if_neg line,
        if_neg block, solid, Bool.not_false]), ScanMode.step, if_neg unquoted, if_neg line,
        if_neg block]
  | string body closed => exact scan_string fits
  | lineComment body closed => exact scan_lineComment fits
  | blockComment body closed => exact scan_blockComment fits plain

/-- A text is scanned as it is read, unless some comment slips. -/
theorem scan_reads {text : Text} {pieces : List Piece} (reads : Reads text pieces)
    (plain : ∀ piece ∈ pieces, ¬ piece.Slips) :
    scan .code position found text = (meaningfulFrom position pieces).getLast?.or found := by
  induction reads generalizing position found with
  | nil => rfl
  | cons fits _ induction =>
      obtain ⟨first, later⟩ := List.forall_mem_cons.mp plain
      rw [scan_piece fits first, induction later, Piece.finds, meaningfulFrom, List.getLast?_append,
        Option.or_assoc]

end Scan

theorem Piece.text_ne_nil (piece : Piece) : piece.text ≠ [] := by
  cases piece <;> exact List.cons_ne_nil _ _

theorem exists_quoted (text : Text) :
    (∃ body rest, text = body ++ '"' :: rest ∧ Quoted body) ∨ Quoted text ∨
      ∃ front, text = front ++ ['\\'] ∧ Quoted front := by
  induction text using List.twoStepInduction with
  | nil => exact .inr (.inl .nil)
  | singleton c =>
      by_cases quote : c = '"'
      · exact .inl ⟨[], [], by rw [quote]; rfl, .nil⟩
      · by_cases backslash : c = '\\'
        · exact .inr (.inr ⟨[], by rw [backslash]; rfl, .nil⟩)
        · exact .inr (.inl (.plain quote backslash .nil))
  | cons_cons c next text escaped plain =>
      by_cases quote : c = '"'
      · exact .inl ⟨[], next :: text, by rw [quote]; rfl, .nil⟩
      · by_cases backslash : c = '\\'
        · subst backslash
          rcases escaped with ⟨body, rest, rfl, quoted⟩ | quoted | ⟨front, rfl, quoted⟩
          · exact .inl ⟨'\\' :: next :: body, rest, rfl, .escape quoted⟩
          · exact .inr (.inl (.escape quoted))
          · exact .inr (.inr ⟨'\\' :: next :: front, rfl, .escape quoted⟩)
        · rcases plain next with ⟨body, rest, split, quoted⟩ | quoted | ⟨front, split, quoted⟩
          · exact .inl ⟨c :: body, rest, by rw [split]; rfl, .plain quote backslash quoted⟩
          · exact .inr (.inl (.plain quote backslash quoted))
          · exact .inr (.inr ⟨c :: front, by rw [split]; rfl, .plain quote backslash quoted⟩)

theorem exists_string (text : Text) : ∃ body closed rest,
    '"' :: text = (Piece.string body closed).text ++ rest ∧
      (Piece.string body closed).Fits rest := by
  rcases exists_quoted text with ⟨body, rest, rfl, quoted⟩ | quoted
  · exact ⟨body, true, rest, by simp [Piece.text], quoted⟩
  · exact ⟨text, false, [], by simp [Piece.text], quoted, rfl⟩

theorem exists_lineComment (text : Text) : ∃ body closed rest,
    '/' :: '/' :: text = (Piece.lineComment body closed).text ++ rest ∧
      (Piece.lineComment body closed).Fits rest := by
  by_cases ends : '\n' ∈ text
  · obtain ⟨body, rest, rfl, inside⟩ := List.eq_append_cons_of_mem ends
    exact ⟨body, true, rest, by simp [Piece.text], inside, nofun⟩
  · exact ⟨text, false, [], by simp [Piece.text], ends, fun _ => rfl⟩

theorem exists_blockComment (text : Text) : ∃ body closed rest,
    '/' :: '*' :: text = (Piece.blockComment body closed).text ++ rest ∧
      (Piece.blockComment body closed).Fits rest := by
  cases closes : Text.find ['*', '/'] text with
  | none =>
      exact ⟨text, false, [], by simp [Piece.text], Text.find_eq_none_iff.mp closes, fun _ => rfl⟩
  | some position =>
      obtain ⟨split, first⟩ := Text.exists_split_of_find closes
      refine ⟨text.take position, true, text.drop (position + 2), ?_, ?_, nofun⟩
      · conv_lhs => rw [split]
        simp [Piece.text]
      · exact first (List.cons_ne_nil _ _) position le_rfl

theorem exists_piece (c : Char) (text : Text) :
    ∃ piece rest, c :: text = Piece.text piece ++ rest ∧ piece.Fits rest := by
  cases blank : Text.isWhitespace c with
  | true => exact ⟨.blank c, text, rfl, blank⟩
  | false =>
      by_cases quote : c = '"'
      · obtain ⟨body, closed, rest, split, fits⟩ := exists_string text
        exact ⟨_, rest, quote ▸ split, fits⟩
      by_cases line : c = '/' ∧ text.head? = some '/'
      · obtain ⟨more, rfl⟩ := List.head?_eq_some_iff.mp line.2
        obtain ⟨body, closed, rest, split, fits⟩ := exists_lineComment more
        exact ⟨_, rest, line.1 ▸ split, fits⟩
      by_cases block : c = '/' ∧ text.head? = some '*'
      · obtain ⟨more, rfl⟩ := List.head?_eq_some_iff.mp block.2
        obtain ⟨body, closed, rest, split, fits⟩ := exists_blockComment more
        exact ⟨_, rest, block.1 ▸ split, fits⟩
      · exact ⟨.mark c, text, rfl, blank, quote, fun slash =>
          ⟨fun next => line ⟨slash, next⟩, fun next => block ⟨slash, next⟩⟩⟩

theorem exists_reads (text : Text) : ∃ pieces, Reads text pieces := by
  induction size : text.length using Nat.strongRecOn generalizing text with
  | ind bound induction =>
      cases text with
      | nil => exact ⟨[], .nil⟩
      | cons c text =>
          obtain ⟨piece, rest, split, fits⟩ := exists_piece c text
          have shorter : rest.length < bound := by
            have some_length := List.length_pos_iff.mpr piece.text_ne_nil
            have lengths := congrArg List.length split
            rw [List.length_append] at lengths
            omega
          obtain ⟨pieces, reads⟩ := induction _ shorter rest rfl
          exact ⟨piece :: pieces, split ▸ .cons fits reads⟩

section Unique

variable {piece piece' : Piece} {body body' more rest rest' text : Text}

theorem Quoted.of_plain {c : Char} (unescaped : c ≠ '\\') (quoted : Quoted (c :: text)) :
    Quoted text := by
  cases quoted with
  | plain _ _ rest => exact rest
  | escape _ => exact absurd rfl unescaped

theorem Quoted.of_escape {c : Char} (quoted : Quoted ('\\' :: c :: text)) : Quoted text := by
  cases quoted with
  | plain _ unescaped _ => exact absurd rfl unescaped
  | escape rest => exact rest

theorem Quoted.append_iff (quoted : Quoted body) : Quoted (body ++ more) ↔ Quoted more := by
  induction quoted with
  | nil => exact Iff.rfl
  | plain unquoted unescaped _ induction =>
      exact ⟨fun whole => induction.mp (whole.of_plain unescaped),
        fun rest => .plain unquoted unescaped (induction.mpr rest)⟩
  | escape _ induction =>
      exact ⟨fun whole => induction.mp whole.of_escape, fun rest => .escape (induction.mpr rest)⟩

theorem not_quoted_quote (rest : Text) : ¬ Quoted ('"' :: rest) := by
  intro quoted
  cases quoted with
  | plain unquoted _ _ => exact unquoted rfl

/-- Where one body stops, no other one goes on. -/
theorem eq_of_bodies {inside : Text → Prop} {stop : Text}
    (halts : ∀ body more after after', inside body → inside (body ++ more) →
      stop ++ after = more ++ (stop ++ after') → more = [])
    (within : inside body) (within' : inside body')
    (same : body ++ (stop ++ rest) = body' ++ (stop ++ rest')) : body = body' ∧ rest = rest' := by
  rcases List.append_eq_append_iff.mp same with ⟨more, rfl, split⟩ | ⟨more, rfl, split⟩
  · obtain rfl := halts body more rest rest' within within' split
    exact ⟨(List.append_nil _).symm, List.append_cancel_left split⟩
  · obtain rfl := halts body' more rest' rest within' within split
    exact ⟨List.append_nil _, (List.append_cancel_left split).symm⟩

theorem quoted_halts (body more after after' : Text) (quoted : Quoted body)
    (further : Quoted (body ++ more)) (split : ['"'] ++ after = more ++ (['"'] ++ after')) :
    more = [] := by
  rcases List.cons_eq_append_iff.mp split with ⟨rfl, _⟩ | ⟨later, rfl, _⟩
  · rfl
  · exact absurd (quoted.append_iff.mp further) (not_quoted_quote later)

theorem line_halts (body more after after' : Text) (_ : '\n' ∉ body)
    (further : '\n' ∉ body ++ more) (split : ['\n'] ++ after = more ++ (['\n'] ++ after')) :
    more = [] := by
  rcases List.cons_eq_append_iff.mp split with ⟨rfl, _⟩ | ⟨later, rfl, _⟩
  · rfl
  · exact absurd (List.mem_append_right body List.mem_cons_self) further

theorem block_halts (body more after after' : Text) (_ : ¬ ['*', '/'] <:+: body)
    (further : ¬ ['*', '/'] <:+: body ++ more)
    (split : ['*', '/'] ++ after = more ++ (['*', '/'] ++ after')) : more = [] := by
  rcases List.cons_eq_append_iff.mp split with ⟨rfl, _⟩ | ⟨later, rfl, slash⟩
  · rfl
  · rcases List.cons_eq_append_iff.mp slash with ⟨rfl, star⟩ | ⟨last, rfl, _⟩
    · cases star
    · exact absurd ⟨body, last, by simp⟩ further

/-- A string that ends is none that is left open. -/
theorem Quoted.closes (quoted : Quoted body) :
    ¬ (Quoted (body ++ '"' :: rest) ∨
      ∃ front, body ++ '"' :: rest = front ++ ['\\'] ∧ Quoted front) := by
  rintro (whole | ⟨front, split, fronted⟩)
  · exact not_quoted_quote rest (quoted.append_iff.mp whole)
  · rcases List.append_eq_append_iff.mp split with ⟨more, rfl, ends⟩ | ⟨more, rfl, ends⟩
    · rcases List.cons_eq_append_iff.mp ends with ⟨rfl, backslash⟩ | ⟨later, rfl, _⟩
      · cases backslash
      · exact not_quoted_quote later (quoted.append_iff.mp fronted)
    · rcases List.cons_eq_append_iff.mp ends with ⟨rfl, quote⟩ | ⟨later, rfl, nothing⟩
      · cases quote
      · simp at nothing

/-- What a piece is, by its first character and the one after it. -/
inductive Kind
  | blank
  | mark
  | string
  | lineComment
  | blockComment

/-- What a character begins. -/
def Kind.of (c : Char) (next : Option Char) : Kind :=
  if Text.isWhitespace c then .blank
  else if c = '"' then .string
  else if c = '/' ∧ next = some '/' then .lineComment
  else if c = '/' ∧ next = some '*' then .blockComment
  else .mark

/-- What a piece begins with. -/
def Piece.kind : Piece → Kind
  | blank _ => .blank
  | mark _ => .mark
  | string _ _ => .string
  | lineComment _ _ => .lineComment
  | blockComment _ _ => .blockComment

theorem Piece.Fits.kind_eq (fits : piece.Fits rest) {c : Char} {text : Text}
    (split : piece.text ++ rest = c :: text) : piece.kind = Kind.of c text.head? := by
  cases piece with
  | blank c =>
      obtain ⟨rfl, rfl⟩ := List.cons.inj split
      have blank : Text.isWhitespace c = true := fits
      rw [Kind.of, if_pos blank]
      rfl
  | mark c =>
      obtain ⟨rfl, rfl⟩ := List.cons.inj split
      obtain ⟨solid, unquoted, alone⟩ := fits
      rw [Kind.of, solid, if_neg Bool.false_ne_true, if_neg unquoted,
        if_neg fun begins => (alone begins.1).1 begins.2,
        if_neg fun begins => (alone begins.1).2 begins.2]
      rfl
  | string body closed =>
      obtain ⟨rfl, rfl⟩ := List.cons.inj split
      rfl
  | lineComment body closed =>
      obtain ⟨rfl, rfl⟩ := List.cons.inj split
      rfl
  | blockComment body closed =>
      obtain ⟨rfl, rfl⟩ := List.cons.inj split
      rfl

theorem Piece.Fits.kind_eq_kind (fits : piece.Fits rest) (fits' : piece'.Fits rest')
    (same : piece.text ++ rest = piece'.text ++ rest') : piece.kind = piece'.kind := by
  obtain ⟨c, text, split⟩ := List.exists_cons_of_ne_nil piece.text_ne_nil
  have whole : piece.text ++ rest = c :: (text ++ rest) := by rw [split, List.cons_append]
  rw [fits.kind_eq whole, fits'.kind_eq (same.symm.trans whole)]

/-- A body up to where it stops, or to the end of the text. -/
def Bounded (inside opened : Text → Prop) (body : Text) (closed : Bool) (rest : Text) : Prop :=
  if closed then inside body else opened body ∧ rest = []

theorem Bounded.unique {inside opened : Text → Prop} {stop : Text} {closed closed' : Bool}
    (halts : ∀ body more after after', inside body → inside (body ++ more) →
      stop ++ after = more ++ (stop ++ after') → more = [])
    (stops : ∀ body after, inside body → ¬ opened (body ++ (stop ++ after)))
    (bounded : Bounded inside opened body closed rest)
    (bounded' : Bounded inside opened body' closed' rest')
    (same : body ++ ((if closed then stop else []) ++ rest) =
      body' ++ ((if closed' then stop else []) ++ rest')) :
    body = body' ∧ closed = closed' ∧ rest = rest' := by
  cases closed with
  | true =>
      cases closed' with
      | true =>
          obtain ⟨same_body, same_rest⟩ := eq_of_bodies halts bounded bounded' same
          exact ⟨same_body, rfl, same_rest⟩
      | false =>
          obtain ⟨opened', rfl⟩ := bounded'
          have longer : body ++ (stop ++ rest) = body' := by simpa using same
          exact absurd opened' (longer ▸ stops body rest bounded)
  | false =>
      obtain ⟨opened, rfl⟩ := bounded
      cases closed' with
      | true =>
          have longer : body' ++ (stop ++ rest') = body := by simpa using same.symm
          exact absurd opened (longer ▸ stops body' rest' bounded')
      | false =>
          obtain ⟨_, rfl⟩ := bounded'
          exact ⟨by simpa using same, rfl, rfl⟩

theorem string_unique {closed closed' : Bool} (fits : (Piece.string body closed).Fits rest)
    (fits' : (Piece.string body' closed').Fits rest')
    (same : (body ++ if closed then ['"'] else []) ++ rest =
      (body' ++ if closed' then ['"'] else []) ++ rest') :
    body = body' ∧ closed = closed' ∧ rest = rest' := by
  have bounded : ∀ {body : Text} {closed : Bool} {rest : Text},
      (Piece.string body closed).Fits rest → Bounded Quoted (fun body =>
        Quoted body ∨ ∃ front, body = front ++ ['\\'] ∧ Quoted front) body closed rest := by
    intro body closed rest fits
    cases closed <;> exact fits
  rw [List.append_assoc, List.append_assoc] at same
  exact (bounded fits).unique quoted_halts (fun _ _ quoted => quoted.closes) (bounded fits') same

theorem lineComment_unique {closed closed' : Bool}
    (fits : (Piece.lineComment body closed).Fits rest)
    (fits' : (Piece.lineComment body' closed').Fits rest')
    (same : (body ++ if closed then ['\n'] else []) ++ rest =
      (body' ++ if closed' then ['\n'] else []) ++ rest') :
    body = body' ∧ closed = closed' ∧ rest = rest' := by
  have bounded : ∀ {body : Text} {closed : Bool} {rest : Text},
      (Piece.lineComment body closed).Fits rest →
        Bounded ('\n' ∉ ·) ('\n' ∉ ·) body closed rest := by
    intro body closed rest fits
    cases closed with
    | true => exact fits.1
    | false => exact ⟨fits.1, fits.2 rfl⟩
  rw [List.append_assoc, List.append_assoc] at same
  exact (bounded fits).unique line_halts (fun body _ _ outside =>
    outside (List.mem_append_right body List.mem_cons_self)) (bounded fits') same

theorem blockComment_unique {closed closed' : Bool}
    (fits : (Piece.blockComment body closed).Fits rest)
    (fits' : (Piece.blockComment body' closed').Fits rest')
    (same : (body ++ if closed then ['*', '/'] else []) ++ rest =
      (body' ++ if closed' then ['*', '/'] else []) ++ rest') :
    body = body' ∧ closed = closed' ∧ rest = rest' := by
  have bounded : ∀ {body : Text} {closed : Bool} {rest : Text},
      (Piece.blockComment body closed).Fits rest →
        Bounded (¬ ['*', '/'] <:+: ·) (¬ ['*', '/'] <:+: ·) body closed rest := by
    intro body closed rest fits
    cases closed with
    | true => exact fits.1
    | false => exact ⟨fits.1, fits.2 rfl⟩
  rw [List.append_assoc, List.append_assoc] at same
  exact (bounded fits).unique block_halts (fun body after _ outside =>
    outside ⟨body, after, by simp⟩) (bounded fits') same

theorem Piece.Fits.unique (fits : piece.Fits rest) (fits' : piece'.Fits rest')
    (same : piece.text ++ rest = piece'.text ++ rest') : piece = piece' ∧ rest = rest' := by
  have kinds := fits.kind_eq_kind fits' same
  cases piece with
  | blank c =>
      cases piece' <;> cases kinds
      obtain ⟨rfl, rest_eq⟩ := List.cons.inj same
      exact ⟨rfl, rest_eq⟩
  | mark c =>
      cases piece' <;> cases kinds
      obtain ⟨rfl, rest_eq⟩ := List.cons.inj same
      exact ⟨rfl, rest_eq⟩
  | string body closed =>
      cases piece' <;> cases kinds
      obtain ⟨rfl, rfl, rest_eq⟩ := string_unique fits fits' (List.cons.inj same).2
      exact ⟨rfl, rest_eq⟩
  | lineComment body closed =>
      cases piece' <;> cases kinds
      obtain ⟨rfl, rfl, rest_eq⟩ :=
        lineComment_unique fits fits' (List.cons.inj (List.cons.inj same).2).2
      exact ⟨rfl, rest_eq⟩
  | blockComment body closed =>
      cases piece' <;> cases kinds
      obtain ⟨rfl, rfl, rest_eq⟩ :=
        blockComment_unique fits fits' (List.cons.inj (List.cons.inj same).2).2
      exact ⟨rfl, rest_eq⟩

theorem Reads.cases_text {pieces : List Piece} (reads : Reads text pieces) :
    (text = [] ∧ pieces = []) ∨ ∃ piece rest later, text = Piece.text piece ++ rest ∧
      pieces = piece :: later ∧ piece.Fits rest ∧ Reads rest later := by
  cases reads with
  | nil => exact .inl ⟨rfl, rfl⟩
  | cons fits later => exact .inr ⟨_, _, _, rfl, rfl, fits, later⟩

theorem Reads.unique {pieces pieces' : List Piece} (reads : Reads text pieces)
    (reads' : Reads text pieces') : pieces = pieces' := by
  induction reads generalizing pieces' with
  | nil =>
      rcases reads'.cases_text with ⟨_, rfl⟩ | ⟨piece, rest, later, split, _⟩
      · rfl
      · exact absurd (List.append_eq_nil_iff.mp split.symm).1 piece.text_ne_nil
  | @cons piece rest _ fits _ induction =>
      rcases reads'.cases_text with ⟨empty, _⟩ | ⟨piece', rest', later, split, rfl, fits', reads'⟩
      · exact absurd (List.append_eq_nil_iff.mp empty).1 piece.text_ne_nil
      · obtain ⟨rfl, rfl⟩ := fits.unique fits' split
        rw [induction reads']

/-- Every text is read in exactly one way. -/
theorem exists_unique_reads (text : Text) : ∃! pieces, Reads text pieces := by
  obtain ⟨pieces, reads⟩ := exists_reads text
  exact ⟨pieces, reads, fun _ reads' => reads'.unique reads⟩

end Unique

/-- What stands before a comment falls into these pieces, and is scanned as it is read. -/
structure Leads (front : Text) (before : List Piece) : Prop where
  /-- It falls into the pieces, whatever the comment says. -/
  reads : ∀ ending after, Reads ('/' :: ending) after →
    Reads (front ++ '/' :: ending) (before ++ after)
  /-- The scan goes on with what it found in them. -/
  scans : ∀ ending position found, scan .code position found (front ++ '/' :: ending) =
    scan .code (position + front.length) ((meaningfulFrom position before).getLast?.or found)
      ('/' :: ending)
  /-- What it found stands before the comment. -/
  within : ∀ position, ∀ mark ∈ meaningfulFrom position before, mark.1 < position + front.length

section Slips

variable {front rest rest' text : Text} {piece : Piece} {pieces before : List Piece}

theorem Piece.Fits.congr (fits : piece.Fits rest) (same : rest.head? = rest'.head?) :
    piece.Fits rest' := by
  have ends : rest = [] → rest' = [] := by
    rintro rfl
    exact List.head?_eq_none_iff.mp same.symm
  cases piece with
  | blank c => exact fits
  | mark c =>
      rw [Piece.Fits, ← same]
      exact fits
  | string body closed =>
      cases closed with
      | true => exact fits
      | false => exact ⟨fits.1, ends fits.2⟩
  | lineComment body closed => exact ⟨fits.1, fun opened => ends (fits.2 opened)⟩
  | blockComment body closed => exact ⟨fits.1, fun opened => ends (fits.2 opened)⟩

theorem Piece.lt_of_mem_meaningful {position : Nat} {mark : Nat × Char}
    (member : mark ∈ piece.meaningful position) : mark.1 < position + piece.text.length := by
  cases piece with
  | blank c | lineComment body closed | blockComment body closed => cases member
  | mark c =>
      cases List.mem_singleton.mp member
      exact Nat.lt_succ_self _
  | string body closed =>
      rcases List.mem_cons.mp member with rfl | last
      · exact Nat.lt_add_of_pos_right (Nat.succ_pos _)
      · cases closed with
        | true =>
            cases List.mem_singleton.mp last
            simp [Piece.text]
        | false => cases last

theorem leads_nil : Leads [] [] :=
  ⟨fun _ _ reads => reads, fun _ _ _ => rfl, by simp [meaningfulFrom]⟩

theorem Leads.cons (leads : Leads front before) (plain : ¬ piece.Slips) {ending : Text}
    (fits : piece.Fits (front ++ '/' :: ending)) :
    Leads (piece.text ++ front) (piece :: before) := by
  have fits' : ∀ ending, piece.Fits (front ++ '/' :: ending) := by
    intro ending'
    apply fits.congr
    cases front <;> rfl
  refine ⟨fun ending after reads => ?_, fun ending position found => ?_,
    fun position mark member => ?_⟩
  · rw [List.append_assoc]
    exact .cons (fits' ending) (leads.reads ending after reads)
  · rw [List.append_assoc, scan_piece (fits' ending) plain, leads.scans, Piece.finds,
      meaningfulFrom, List.getLast?_append, Option.or_assoc, List.length_append, Nat.add_assoc]
  · rw [List.length_append, ← Nat.add_assoc]
    rcases List.mem_append.mp member with here | later
    · exact Nat.lt_of_lt_of_le (Piece.lt_of_mem_meaningful here) (Nat.le_add_right _ _)
    · exact leads.within _ _ later

/-- The first comment that slips. -/
theorem exists_leads (reads : Reads text pieces) (slips : ∃ piece ∈ pieces, piece.Slips) :
    ∃ front rest before, text = front ++ '/' :: '*' :: '/' :: rest ∧ Leads front before := by
  induction reads with
  | nil => simp at slips
  | @cons piece rest pieces fits _ induction =>
      by_cases here : piece.Slips
      · cases piece with
        | blockComment body closed =>
            obtain ⟨more, rfl⟩ := List.head?_eq_some_iff.mp here
            exact ⟨[], _, [], rfl, leads_nil⟩
        | blank c | mark c | string body closed | lineComment body closed => cases here
      · have later : ∃ piece ∈ pieces, piece.Slips := by
          obtain ⟨slip, member, slips⟩ := slips
          rcases List.mem_cons.mp member with rfl | member
          · exact absurd slips here
          · exact ⟨slip, member, slips⟩
        obtain ⟨front, more, before, rfl, leads⟩ := induction later
        exact ⟨piece.text ++ front, more, piece :: before, (List.append_assoc ..).symm,
          leads.cons here fits⟩

theorem meaningfulFrom_concat_blockComment (pieces : List Piece) (body : Text) (closed : Bool)
    (position : Nat) : meaningfulFrom position (pieces ++ [.blockComment body closed]) =
      meaningfulFrom position pieces := by
  induction pieces generalizing position with
  | nil => rfl
  | cons piece pieces induction => rw [List.cons_append, meaningfulFrom, meaningfulFrom, induction]

/-- After `/*/` the scan takes note of the comment. -/
theorem Leads.disagrees (leads : Leads front before) {c : Char}
    (solid : Text.isWhitespace c = false) : ¬ Agrees (front ++ ['/', '*', '/', c]) := by
  intro agrees
  have comment : Reads ['/', '*', '/', c] [.blockComment ['/', c] false] := by
    have open_comment : (Piece.blockComment ['/', c] false).Fits [] :=
      ⟨by simp [List.infix_cons_iff], fun _ => rfl⟩
    exact .cons open_comment .nil
  have noted : ScanMode.code.notes c ([] : Text).head? = true := by
    simp [ScanMode.notes, solid]
  have found : lastMeaningful (front ++ ['/', '*', '/', c]) =
      some (0 + front.length + 1 + 1 + 1, c) := by
    rw [lastMeaningful, leads.scans, scan_cons_unnoted rfl, ScanMode.step, if_neg (by decide),
      if_neg (by simp), if_pos ⟨rfl, rfl⟩, scan_cons_unnoted rfl, ScanMode.step,
      if_neg (by decide), scan_cons_unnoted rfl, ScanMode.step, if_pos ⟨rfl, rfl⟩,
      scan_cons_noted noted, scan]
  have meant := agrees.found _ (leads.reads _ _ comment)
  rw [found, meaningfulFrom_concat_blockComment] at meant
  have inside := leads.within 0 _ (List.mem_of_getLast? meant.symm)
  simp only at inside
  omega

end Slips

/-- Where no block comment begins with `/*/`, the last meaningful character is found.  Where one
does, the answer is wrong for the beginning of the text up to there and any solid character. -/
theorem lastMeaningful_agrees (text : Text) :
    (¬ Slips text → Agrees text) ∧
      (Slips text → ∃ front, front <+: text ∧
        ∀ c, Text.isWhitespace c = false → ¬ Agrees (front ++ [c])) := by
  constructor
  · intro plain
    refine ⟨exists_unique_reads text, fun pieces reads => ?_⟩
    have found : scan .code 0 none text = (meaningfulFrom 0 pieces).getLast?.or none :=
      scan_reads reads fun piece member slips => plain ⟨pieces, reads, piece, member, slips⟩
    rwa [Option.or_none] at found
  · rintro ⟨pieces, reads, slips⟩
    obtain ⟨front, rest, before, rfl, leads⟩ := exists_leads reads slips
    refine ⟨front ++ ['/', '*', '/'], ⟨rest, by simp⟩, fun c solid => ?_⟩
    rw [List.append_assoc]
    exact leads.disagrees solid

/-- The brace is the last meaningful character, and the end of the comment is found. -/
theorem finds_end_of_comment : ¬ Agrees ['\x7b', '/', '*', '/', ' ', '*', '/'] := by
  intro agrees
  have reads : Reads ['\x7b', '/', '*', '/', ' ', '*', '/']
      [.mark '\x7b', .blockComment ['/', ' '] true] := by
    have brace : (Piece.mark '\x7b').Fits ['/', '*', '/', ' ', '*', '/'] :=
      ⟨by decide, by decide, nofun⟩
    have comment : (Piece.blockComment ['/', ' '] true).Fits [] := ⟨by decide, nofun⟩
    exact .cons brace (.cons comment .nil)
  exact absurd (agrees.found _ reads) (by decide)

end PresenceUnlock.Cli.Menu
