import PresenceUnlock.RustStd.Number

/-!
# A terminal

A grid of cells, a cursor with a deferred wrap, and the control sequences that erase and move.  A
character in the last column leaves the cursor there: the wrap is made by the next character, and
an erasure before that begins at the last column.
-/

namespace Terminal

open RustStd

/-- Where a sequence of control characters has got to. -/
inductive Mode
  | ground
  | escape
  | sequence (body : Text)
  deriving DecidableEq, Repr

/-- What a terminal shows, and where it is going to write. -/
structure Screen where
  /-- The character of a cell, by row and column. -/
  grid : ℕ → ℕ → Option Char
  /-- The row of the cursor. -/
  row : ℕ
  /-- The column of the cursor. -/
  col : ℕ
  /-- The row is full, and the next character wraps. -/
  deferred : Bool
  /-- The cursor is shown. -/
  cursor : Bool
  /-- How far a control sequence has been read. -/
  mode : Mode

/-- The character that begins a control sequence. -/
def esc : Char := Char.ofNat 0x1B

/-- The characters that end a sequence. -/
def isFinal (c : Char) : Bool := '@' ≤ c && c ≤ '~'

/-- A character that is no control character: it is written into a cell, if it takes one column. -/
def Plain (c : Char) : Prop := ' ' ≤ c ∧ ¬ (Char.ofNat 0x7F ≤ c ∧ c ≤ Char.ofNat 0x9F)

instance (c : Char) : Decidable (Plain c) := inferInstanceAs (Decidable (_ ∧ _))

theorem Plain.ne_of_lt {c control : Char} (plain : Plain c) (below : control < ' ') :
    c ≠ control := by
  rintro rfl
  exact absurd plain.1 (Char.not_le.mpr below)

theorem Plain.ne_esc {c : Char} (plain : Plain c) : c ≠ esc := plain.ne_of_lt (by decide)

theorem Plain.ne_newline {c : Char} (plain : Plain c) : c ≠ '\n' := plain.ne_of_lt (by decide)

/-- The row and the column of a move, counted from one. -/
def position (body : Text) : ℕ × ℕ :=
  let number (digits : Text) := (Text.digitsValue 10 digits).getD 1
  (number (body.takeWhile (· ≠ ';')), number (body.dropWhile (· ≠ ';')).tail)

variable (rows cols : ℕ)

namespace Screen

/-- The first column of the next row; the last row scrolls. -/
def newline (screen : Screen) : Screen :=
  if screen.row + 1 < rows then
    { screen with row := screen.row + 1, col := 0, deferred := false }
  else
    { screen with
      grid := fun row col => if row + 1 < rows then screen.grid (row + 1) col else none
      col := 0
      deferred := false }

/-- A character of one column is written, after the wrap that was deferred. -/
def write (screen : Screen) (c : Char) : Screen :=
  let screen := if screen.deferred then screen.newline rows else screen
  { screen with
    grid := fun row col =>
      if row = screen.row ∧ col = screen.col then some c else screen.grid row col
    col := if screen.col + 1 < cols then screen.col + 1 else screen.col
    deferred := !(screen.col + 1 < cols) }

/-- The row is erased from the cursor on. -/
def eraseLine (screen : Screen) : Screen :=
  { screen with
    grid := fun row col =>
      if row = screen.row ∧ screen.col ≤ col then none else screen.grid row col
    deferred := false }

/-- Everything from the cursor on is erased. -/
def eraseBelow (screen : Screen) : Screen :=
  { screen with
    grid := fun row col =>
      if screen.row < row ∨ row = screen.row ∧ screen.col ≤ col then none
      else screen.grid row col
    deferred := false }

/-- The cursor is moved, within the screen. -/
def move (screen : Screen) (target : ℕ × ℕ) : Screen :=
  { screen with
    row := min (target.1 - 1) (rows - 1), col := min (target.2 - 1) (cols - 1), deferred := false }

/-- A whole sequence; those that only change the style do nothing to the cells. -/
def execute (screen : Screen) (body : Text) (final : Char) : Screen :=
  let screen := { screen with mode := .ground }
  if final = 'H' then screen.move rows cols (position body)
  else if final = 'K' ∧ body = [] then screen.eraseLine
  else if final = 'J' ∧ body = [] then screen.eraseBelow
  else if final = 'h' ∧ body = "?25".toList then { screen with cursor := true }
  else if final = 'l' ∧ body = "?25".toList then { screen with cursor := false }
  else screen

/-- One character arrives.  Of the control characters only escapes and newlines are told apart. -/
def put (screen : Screen) (c : Char) : Screen :=
  match screen.mode with
  | .ground =>
      if c = esc then { screen with mode := .escape }
      else if c = '\n' then screen.newline rows
      else screen.write rows cols c
  | .escape =>
      if c = '[' then { screen with mode := .sequence [] } else { screen with mode := .ground }
  | .sequence body =>
      if isFinal c then screen.execute rows cols body c
      else { screen with mode := .sequence (body ++ [c]) }

/-- Characters arrive one after the other. -/
def feed (screen : Screen) (text : Text) : Screen := text.foldl (put rows cols) screen

variable {rows cols} {screen : Screen}

theorem feed_append (first second : Text) :
    screen.feed rows cols (first ++ second) = (screen.feed rows cols first).feed rows cols second :=
  List.foldl_append

theorem feed_newline (ground : screen.mode = .ground) :
    screen.feed rows cols ['\n'] = screen.newline rows := by
  have different : ¬ '\n' = esc := by decide
  simp [feed, put, ground, different]

theorem feed_plain {c : Char} (ground : screen.mode = .ground) (plain : Plain c) :
    screen.feed rows cols [c] = screen.write rows cols c := by
  simp [feed, put, ground, plain.ne_esc, plain.ne_newline]

/-- The body of a sequence is collected. -/
theorem feed_body {body front : Text} (sequence : screen.mode = .sequence front)
    (inner : ∀ c ∈ body, isFinal c = false) :
    screen.feed rows cols body = { screen with mode := .sequence (front ++ body) } := by
  induction body generalizing screen front with
  | nil =>
      rw [List.append_nil, ← sequence]
      rfl
  | cons c body induction =>
      have collected : screen.put rows cols c =
          { screen with mode := .sequence (front ++ [c]) } := by
        simp [put, sequence, inner c List.mem_cons_self]
      have rest : (screen.put rows cols c).feed rows cols body =
          { screen.put rows cols c with mode := .sequence (front ++ [c] ++ body) } :=
        induction (by rw [collected]) fun later member =>
          inner later (List.mem_cons_of_mem c member)
      rw [feed] at rest
      rw [feed, List.foldl_cons, rest, collected]
      simp

/-- A sequence is executed when its last character arrives. -/
theorem feed_sequence {body : Text} {final : Char} (ground : screen.mode = .ground)
    (inner : ∀ c ∈ body, isFinal c = false) (ends : isFinal final = true) :
    screen.feed rows cols (esc :: '[' :: (body ++ [final])) =
      screen.execute rows cols body final := by
  have opened : screen.feed rows cols [esc, '['] = { screen with mode := .sequence [] } := by
    simp [feed, put, ground]
  rw [← List.cons_append, ← List.cons_append, feed_append]
  change Screen.feed rows cols (screen.feed rows cols ([esc, '['] ++ body)) [final] = _
  rw [feed_append, opened, feed_body rfl inner]
  simp [feed, put, ends, execute]

/-- The screen after characters were written from the first column of an empty row on. -/
structure Written (rows cols : ℕ) (start : Screen) (chars : Text) (screen : Screen) : Prop where
  /-- No control sequence is open. -/
  mode : screen.mode = .ground
  /-- The cursor is still in the row. -/
  row : screen.row = start.row
  /-- The characters fit in the row. -/
  fits : chars.length ≤ cols
  /-- The cursor is behind the characters, or on the last of them if they fill the row. -/
  col : screen.col = min chars.length (cols - 1)
  /-- A row that is full defers the wrap. -/
  deferred : screen.deferred = decide (chars.length = cols)
  /-- The cursor is shown or hidden as before. -/
  cursor : screen.cursor = start.cursor
  /-- The row holds the characters alone, and the others are unchanged. -/
  grid : ∀ row col,
    screen.grid row col = if row = start.row then chars[col]? else start.grid row col

variable {start : Screen} {chars : Text}

theorem Written.write {c : Char} (written : Written rows cols start chars screen)
    (room : chars.length < cols) (plain : Plain c) :
    Written rows cols start (chars ++ [c]) (screen.feed rows cols [c]) := by
  have undeferred : screen.deferred = false := by
    rw [written.deferred, decide_eq_false (Nat.ne_of_lt room)]
  have at_end : screen.col = chars.length := by
    rw [written.col, Nat.min_eq_left (by omega)]
  rw [feed_plain written.mode plain, Screen.write, undeferred]
  simp only [Bool.false_eq_true, if_false, at_end, written.row]
  have length : (chars ++ [c]).length = chars.length + 1 := List.length_append
  refine ⟨written.mode, rfl, length ▸ room, ?_, ?_, written.cursor, fun row col => ?_⟩
  · rw [length]
    split <;> dsimp only <;> omega
  · rw [length]
    by_cases more : chars.length + 1 < cols
    · simp [more, Nat.ne_of_lt more]
    · have full : chars.length + 1 = cols := by omega
      simp [full]
  · simp only [written.grid]
    by_cases here : row = start.row
    · subst here
      by_cases last : col = chars.length
      · simp [last]
      · simp only [true_and, last, if_false, if_true]
        rcases Nat.lt_or_gt_of_ne last with before | after
        · rw [List.getElem?_append_left before]
        · rw [List.getElem?_eq_none (by omega), List.getElem?_eq_none (by omega)]
    · simp [here]

/-- Styles take no cells. -/
theorem Written.style {code : Text} (written : Written rows cols start chars screen)
    (inner : ∀ c ∈ code, isFinal c = false) :
    Written rows cols start chars (screen.feed rows cols (esc :: '[' :: (code ++ ['m']))) := by
  rw [feed_sequence written.mode inner (by decide)]
  exact ⟨rfl, written.row, written.fits, written.col, written.deferred, written.cursor,
    written.grid⟩

/-- An erased row is there to be written. -/
theorem written_eraseLine (wide : 0 < cols) (ground : start.mode = .ground)
    (first : start.col = 0) :
    Written rows cols start [] (start.feed rows cols (esc :: '[' :: ([] ++ ['K']))) := by
  rw [feed_sequence ground (by simp) (by decide)]
  refine ⟨rfl, rfl, Nat.zero_le _, first.trans (Nat.zero_min _).symm, ?_, rfl, fun row col => ?_⟩
  · exact (decide_eq_false (Nat.ne_of_lt wide)).symm
  · by_cases here : row = start.row
    · simp [execute, eraseLine, here, first]
    · simp [execute, eraseLine, here]

/-- The next row is begun. -/
theorem Written.newline (written : Written rows cols start chars screen)
    (room : start.row + 1 < rows) :
    screen.feed rows cols ['\n'] =
      { screen with row := start.row + 1, col := 0, deferred := false } := by
  rw [feed_newline written.mode, Screen.newline, written.row, if_pos room]

end Screen
end Terminal
