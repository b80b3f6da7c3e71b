import PresenceUnlock.Terminal

/-!
# Painting a frame

A frame is a complete list of lines, painted from the top-left corner over whatever was there
before.  Each row is cleared before its content, and everything below the last one after it.
-/

namespace PresenceUnlock.Cli.Paint

open RustStd Terminal

/-- A character of a line, or a change of style. -/
inductive Glyph
  | char (c : Char)
  | style (code : Text)
  deriving DecidableEq, Repr

/-- A line of text with its changes of style. -/
abbrev Line := List Glyph

/-- What a terminal is sent for a glyph. -/
def Glyph.text : Glyph → Text
  | .char c => [c]
  | .style code => esc :: '[' :: (code ++ ['m'])

/-- What a terminal is sent for a line. -/
def Line.text (line : Line) : Text := line.flatMap Glyph.text

/-- The character of a glyph, if it is one. -/
def Glyph.char? : Glyph → Option Char
  | .char c => some c
  | .style _ => none

/-- What is seen of a line. -/
def Line.visible (line : Line) : Text := line.filterMap Glyph.char?

/-- A line without a style. -/
def plain (text : Text) : Line := text.map .char

/-- The styles of the screens. -/
inductive Style
  | bold
  | dim
  | green
  | cyan
  | red
  | yellow
  deriving DecidableEq, Repr

/-- What the screens use of the `console` crate. -/
structure Console where
  /-- `style`: a line in a style, which may be off. -/
  styled : Style → Line → Line
  /-- `truncate_str`, without a tail. -/
  truncateStr : Line → ℕ → Line
  /-- How many columns a character takes. -/
  cells : Char → ℕ

/-- The characters beyond ASCII that the screens write themselves. -/
def symbols : Text := "✓◉○✗→↑↓“”’…".toList

/-- A character that takes one cell of the terminal. -/
def Console.Cell (console : Console) (c : Char) : Prop := Plain c ∧ console.cells c = 1

/-- Every change of style is a whole one. -/
def Line.Complete (line : Line) : Prop :=
  ∀ code, Glyph.style code ∈ line → ∀ c ∈ code, isFinal c = false

/-- The documented behaviour of the crate, on characters of one column. -/
structure Console.Lawful (console : Console) : Prop where
  /-- A style is not seen. -/
  visible_styled : ∀ style line, Line.visible (console.styled style line) = Line.visible line
  /-- A style is begun and ended by whole changes of style. -/
  complete_styled : ∀ style {line}, Line.Complete line → Line.Complete (console.styled style line)
  /-- A line is cut to so many columns. -/
  visible_truncateStr : ∀ line width, (∀ c ∈ Line.visible line, console.cells c = 1) →
    Line.visible (console.truncateStr line width) = (Line.visible line).take width
  /-- Changes of style are not cut. -/
  complete_truncateStr : ∀ {line} width, Line.Complete line →
    Line.Complete (console.truncateStr line width)
  /-- The printable characters of ASCII take one column. -/
  cells_ascii : ∀ c, ' ' ≤ c → c ≤ '~' → console.cells c = 1
  /-- And so do the symbols of the screens. -/
  cells_symbols : ∀ c ∈ symbols, console.cells c = 1

/-- The characters of a line go into cells, and its styles are complete. -/
structure Line.Clean (console : Console) (line : Line) : Prop where
  /-- The characters go into one cell each. -/
  cell : ∀ c ∈ line.visible, console.Cell c
  /-- The styles are complete. -/
  complete : line.Complete

theorem visible_append (front back : Line) :
    Line.visible (front ++ back) = Line.visible front ++ Line.visible back :=
  List.filterMap_append

theorem visible_plain (text : Text) : Line.visible (plain text) = text := by
  induction text with
  | nil => rfl
  | cons c text induction => exact congrArg (c :: ·) induction

variable {console : Console}

theorem clean_nil : Line.Clean console [] :=
  ⟨List.forall_mem_nil _, fun _ member => absurd member List.not_mem_nil⟩

theorem clean_cons {glyph : Glyph} {line : Line} (clean : Line.Clean console (glyph :: line)) :
    Line.Clean console [glyph] ∧ Line.Clean console line := by
  have visible : Line.visible (glyph :: line) = Line.visible [glyph] ++ Line.visible line :=
    visible_append [glyph] line
  have cell := clean.cell
  rw [visible, List.forall_mem_append] at cell
  refine ⟨⟨cell.1, fun code member => ?_⟩, cell.2, fun code member => ?_⟩
  · exact clean.complete code (List.mem_cons.mpr (.inl (List.mem_singleton.mp member)))
  · exact clean.complete code (List.mem_cons_of_mem glyph member)

theorem clean_plain {text : Text} (cells : ∀ c ∈ text, console.Cell c) :
    Line.Clean console (plain text) where
  cell := by rwa [visible_plain]
  complete code member := by
    obtain ⟨c, _, same⟩ := List.mem_map.mp member
    cases same

theorem clean_append {front back : Line} (first : Line.Clean console front)
    (second : Line.Clean console back) : Line.Clean console (front ++ back) where
  cell := by
    rw [visible_append, List.forall_mem_append]
    exact ⟨first.cell, second.cell⟩
  complete code member := by
    rcases List.mem_append.mp member with inside | inside
    · exact first.complete code inside
    · exact second.complete code inside

theorem clean_styled (lawful : console.Lawful) (style : Style) {line : Line}
    (clean : Line.Clean console line) : Line.Clean console (console.styled style line) where
  cell := by
    rw [lawful.visible_styled]
    exact clean.cell
  complete := lawful.complete_styled style clean.complete

theorem visible_truncateStr (lawful : console.Lawful) {line : Line}
    (clean : Line.Clean console line) (width : ℕ) :
    Line.visible (console.truncateStr line width) = (Line.visible line).take width :=
  lawful.visible_truncateStr line width fun c member => (clean.cell c member).2

theorem clean_truncateStr (lawful : console.Lawful) {line : Line}
    (clean : Line.Clean console line) (width : ℕ) :
    Line.Clean console (console.truncateStr line width) where
  cell c member := by
    rw [visible_truncateStr lawful clean] at member
    exact clean.cell c (List.mem_of_mem_take member)
  complete := lawful.complete_truncateStr width clean.complete

/-- What the screens write themselves goes into cells. -/
def isOwn (c : Char) : Bool := ' ' ≤ c && c ≤ '~' || List.elem c symbols

theorem cell_of_isOwn (lawful : console.Lawful) {c : Char} (own : isOwn c = true) :
    console.Cell c := by
  have symbols_plain : (symbols.all fun c => decide (Plain c)) = true := rfl
  simp only [isOwn, Bool.or_eq_true, Bool.and_eq_true, decide_eq_true_eq,
    List.elem_eq_mem] at own
  rcases own with ⟨above, below⟩ | symbol
  · refine ⟨⟨above, fun control => ?_⟩, lawful.cells_ascii c above below⟩
    exact absurd (UInt32.le_trans control.1 below) (by decide)
  · exact ⟨of_decide_eq_true (List.all_eq_true.mp symbols_plain c symbol),
      lawful.cells_symbols c symbol⟩

theorem cells_of_all (lawful : console.Lawful) {text : Text} (own : text.all isOwn = true) :
    ∀ c ∈ text, console.Cell c := fun c member =>
  cell_of_isOwn lawful (List.all_eq_true.mp own c member)

theorem clean_own (lawful : console.Lawful) {text : Text} (own : text.all isOwn = true) :
    Line.Clean console (plain text) := clean_plain (cells_of_all lawful own)

/-- A complete list of lines for a terminal. -/
structure Frame where
  /-- The columns of the terminal. -/
  width : ℕ
  /-- The rows of the terminal. -/
  rows : ℕ
  /-- The lines, from the top. -/
  lines : List Line
  /-- The row and column of the cursor, counted from one. -/
  cursor : Option (ℕ × ℕ)

namespace Frame

/-- A frame without a line. -/
def new (width rows : ℕ) : Frame := ⟨width, rows, [], none⟩

/-- Add a line. -/
def line (frame : Frame) (line : Line) : Frame := { frame with lines := frame.lines ++ [line] }

/-- Add an empty line. -/
def blank (frame : Frame) : Frame := frame.line []

/-- Add secondary text. -/
def dim (console : Console) (frame : Frame) (text : Line) : Frame :=
  frame.line (console.styled .dim text)

/-- The title, with the step pushed to the right margin. -/
def title (console : Console) (frame : Frame) (title : Text) (step : Option Text) : Frame :=
  frame.line (console.styled .bold (plain title) ++
    match step with
    | none => []
    | some step =>
        plain (List.replicate (max (frame.width - (title.length + step.length)) 2) ' ') ++
          console.styled .dim (plain step))

/-- Lines that are added one after the other. -/
theorem foldl_line (frame : Frame) (lines : List Line) :
    lines.foldl line frame = { frame with lines := frame.lines ++ lines } := by
  induction lines generalizing frame with
  | nil => simp
  | cons next lines induction =>
      rw [List.foldl_cons, induction]
      simp [line]

end Frame

/-- Move to the top-left corner. -/
def home : Text := esc :: '[' :: ([] ++ ['H'])
/-- Erase to the end of the row. -/
def clearLine : Text := esc :: '[' :: ([] ++ ['K'])
/-- Erase to the end of the screen. -/
def clearBelow : Text := esc :: '[' :: ([] ++ ['J'])
/-- Hide the cursor. -/
def hideCursor : Text := esc :: '[' :: ("?25".toList ++ ['l'])
/-- Show the cursor. -/
def showCursor : Text := esc :: '[' :: ("?25".toList ++ ['h'])

/-- A row is cleared before its content, which is cut to the width. -/
def paintLine (console : Console) (width : ℕ) (line : Line) : Text :=
  clearLine ++ Line.text (console.truncateStr line width)

/-- Where the frame puts the cursor, if that is on the screen. -/
def Frame.target (frame : Frame) : Option (ℕ × ℕ) :=
  frame.cursor.filter fun target => target.1 ≤ (frame.lines.take frame.rows).length

/-- A cursor is moved, and then shown. -/
def paintCursor : Option (ℕ × ℕ) → Text
  | some (row, column) =>
      esc :: '[' :: ((Text.ofNat row ++ ';' :: Text.ofNat column) ++ ['H']) ++ showCursor
  | none => []

/-- The exact sequence that a frame paints as. -/
def paint (console : Console) (frame : Frame) : Text :=
  hideCursor ++ (home ++
    (List.intercalate ['\n'] ((frame.lines.take frame.rows).map (paintLine console frame.width)) ++
      (clearBelow ++ paintCursor frame.target)))

/-- `Screen::draw`: nothing is painted once the app is to be left. -/
def draw (console : Console) (quitRequested : Bool) (frame : Frame) : Text :=
  if quitRequested then [] else paint console frame

variable {rows cols : ℕ} {start screen : Screen} {chars : Text}

/-- A line that fits is written after what its row already has. -/
theorem written_line {line : Line} (written : Screen.Written rows cols start chars screen)
    (clean : Line.Clean console line) (fits : (chars ++ line.visible).length ≤ cols) :
    Screen.Written rows cols start (chars ++ line.visible) (screen.feed rows cols line.text) := by
  induction line generalizing chars screen with
  | nil =>
      have empty : chars ++ Line.visible [] = chars := by simp [Line.visible]
      exact empty.symm ▸ written
  | cons glyph line induction =>
      obtain ⟨first, rest⟩ := clean_cons clean
      have text : Line.text (glyph :: line) = glyph.text ++ Line.text line := List.flatMap_cons
      rw [text, Screen.feed_append]
      cases glyph with
      | char c =>
          have visible : Line.visible (.char c :: line) = c :: Line.visible line := rfl
          rw [visible, List.append_cons] at fits ⊢
          have room : chars.length < cols := by
            simp only [List.length_append, List.length_singleton] at fits
            omega
          have cell := first.cell c (List.mem_singleton_self c)
          exact induction (written.write room cell.1) rest fits
      | style code =>
          have visible : Line.visible (.style code :: line) = Line.visible line := rfl
          rw [visible] at fits ⊢
          have whole := first.complete code (List.mem_singleton_self _)
          exact induction (written.style whole) rest fits

/-- One row is cleared and written. -/
theorem written_paintLine (lawful : console.Lawful) {line : Line} (wide : 0 < cols)
    (ground : start.mode = .ground) (first : start.col = 0) (clean : Line.Clean console line) :
    Screen.Written rows cols start (line.visible.take cols)
      (start.feed rows cols (paintLine console cols line)) := by
  have cleared : Screen.Written rows cols start [] (start.feed rows cols clearLine) :=
    Screen.written_eraseLine wide ground first
  rw [paintLine, Screen.feed_append, ← visible_truncateStr lawful clean]
  refine written_line cleared (clean_truncateStr lawful clean cols) ?_
  rw [visible_truncateStr lawful clean, List.nil_append]
  exact List.length_take_le _ _

/-- Rows that were cleared and written one below the other. -/
structure Drawn (rows cols : ℕ) (start : Screen) (texts : List Text) (screen : Screen) : Prop where
  /-- No control sequence is open. -/
  mode : screen.mode = .ground
  /-- The cursor is in the last of the rows. -/
  row : screen.row + 1 = start.row + texts.length
  /-- The cursor is behind the last text, or on its last character if it fills the row. -/
  col : ∀ last ∈ texts.getLast?, screen.col = min last.length (cols - 1)
  /-- The cursor is shown or hidden as before. -/
  cursor : screen.cursor = start.cursor
  /-- The rows hold the texts, and the others are unchanged. -/
  grid : ∀ row col, screen.grid row col =
    if start.row ≤ row ∧ row < start.row + texts.length then
      texts[row - start.row]?.bind fun text => text[col]?
    else start.grid row col

theorem Drawn.of_written (written : Screen.Written rows cols start chars screen) :
    Drawn rows cols start [chars] screen := by
  refine ⟨written.mode, by rw [written.row]; rfl, ?_, written.cursor, fun row col => ?_⟩
  · intro last member
    cases member
    exact written.col
  · rw [written.grid]
    by_cases here : row = start.row
    · simp [here]
    · have outside : ¬ (start.row ≤ row ∧ row < start.row + [chars].length) := by
        simp only [List.length_singleton]
        omega
      rw [if_neg here, if_neg outside]

theorem Drawn.cons {middle : Screen} {texts : List Text}
    (written : Screen.Written rows cols start chars screen) (nonempty : texts ≠ [])
    (drawn : Drawn rows cols { screen with row := start.row + 1, col := 0, deferred := false } texts
      middle) : Drawn rows cols start (chars :: texts) middle := by
  refine ⟨drawn.mode, ?_, ?_, drawn.cursor.trans written.cursor, fun row col => ?_⟩
  · rw [drawn.row, List.length_cons]
    dsimp only
    omega
  · rw [List.getLast?_cons_of_ne_nil nonempty]
    exact drawn.col
  · rw [drawn.grid, List.length_cons]
    dsimp only
    by_cases below : start.row + 1 ≤ row ∧ row < start.row + 1 + texts.length
    · have inside : start.row ≤ row ∧ row < start.row + (texts.length + 1) := by omega
      have index : row - start.row = row - (start.row + 1) + 1 := by omega
      rw [if_pos below, if_pos inside, index, List.getElem?_cons_succ]
    · rw [if_neg below, written.grid]
      by_cases here : row = start.row
      · simp [here]
      · have outside : ¬ (start.row ≤ row ∧ row < start.row + (texts.length + 1)) := by omega
        rw [if_neg here, if_neg outside]

theorem drawn_lines (lawful : console.Lawful) {lines : List Line} (wide : 0 < cols)
    (nonempty : lines ≠ [])
    (ground : start.mode = .ground) (first : start.col = 0)
    (room : start.row + lines.length ≤ rows) (clean : ∀ line ∈ lines, Line.Clean console line) :
    Drawn rows cols start (lines.map fun line => line.visible.take cols)
      (start.feed rows cols (List.intercalate ['\n'] (lines.map (paintLine console cols)))) := by
  induction lines generalizing start with
  | nil => exact absurd rfl nonempty
  | cons line lines induction =>
      obtain ⟨clean_line, clean_rest⟩ := List.forall_mem_cons.mp clean
      have written : Screen.Written rows cols start (line.visible.take cols) _ :=
        written_paintLine lawful wide ground first clean_line
      cases lines with
      | nil => simpa [List.intercalate] using Drawn.of_written written
      | cons next lines =>
          have text : List.intercalate ['\n']
              ((line :: next :: lines).map (paintLine console cols)) =
              paintLine console cols line ++ (['\n'] ++
                List.intercalate ['\n'] ((next :: lines).map (paintLine console cols))) := by
            simp [List.intercalate]
          rw [List.length_cons] at room
          rw [text, Screen.feed_append, Screen.feed_append,
            written.newline (by rw [List.length_cons] at room; omega)]
          refine Drawn.cons written (by simp) (induction (by simp) written.mode rfl ?_ clean_rest)
          dsimp only
          omega

theorem feed_hideCursor (ground : screen.mode = .ground) :
    screen.feed rows cols hideCursor = { screen with cursor := false, mode := .ground } := by
  rw [hideCursor, Screen.feed_sequence ground (by simp [isFinal]) (by decide)]
  rfl

theorem feed_showCursor (ground : screen.mode = .ground) :
    screen.feed rows cols showCursor = { screen with cursor := true, mode := .ground } := by
  rw [showCursor, Screen.feed_sequence ground (by simp [isFinal]) (by decide)]
  rfl

theorem feed_home (ground : screen.mode = .ground) :
    screen.feed rows cols home =
      { screen with row := 0, col := 0, deferred := false, mode := .ground } := by
  rw [home, Screen.feed_sequence ground (by simp) (by decide)]
  have first : position [] = (0, 0) := rfl
  simp [Screen.execute, Screen.move, first]

theorem feed_clearBelow (ground : screen.mode = .ground) :
    screen.feed rows cols clearBelow = { screen.eraseBelow with mode := .ground } := by
  rw [clearBelow, Screen.feed_sequence ground (by simp) (by decide)]
  rfl

theorem position_ofNat (row column : ℕ) :
    position (Text.ofNat row ++ ';' :: Text.ofNat column) = (row, column) := by
  have digits : ∀ c ∈ Text.ofNat row, decide (c ≠ ';') = true := by
    intro c member
    have digit := Text.isDigit_of_mem_ofNat member
    exact decide_eq_true fun same => by simp [same] at digit
  have front : (Text.ofNat row ++ ';' :: Text.ofNat column).takeWhile (· ≠ ';') =
      Text.ofNat row := by
    rw [List.takeWhile_append_of_pos digits]
    simp
  have back : (Text.ofNat row ++ ';' :: Text.ofNat column).dropWhile (· ≠ ';') =
      ';' :: Text.ofNat column := by
    rw [List.dropWhile_append_of_pos digits]
    simp
  simp only [position, front, back, List.tail_cons, Text.digitsValue_ofNat, Option.getD_some]

theorem isFinal_of_isDigit {c : Char} (digit : c.isDigit = true) : isFinal c = false := by
  simp only [Char.isDigit, Bool.and_eq_true, decide_eq_true_eq] at digit
  have below : ¬ '@' ≤ c := fun above => absurd (UInt32.le_trans above digit.2) (by decide)
  simp [isFinal, below]

/-- A move of the cursor, which is then shown, leaves the cells. -/
theorem feed_paintCursor_some {row column : ℕ} (ground : screen.mode = .ground) :
    screen.feed rows cols (paintCursor (some (row, column))) =
      { screen with
        row := min (row - 1) (rows - 1)
        col := min (column - 1) (cols - 1)
        deferred := false
        cursor := true
        mode := .ground } := by
  have inner : ∀ c ∈ Text.ofNat row ++ ';' :: Text.ofNat column, isFinal c = false := by
    intro c member
    rcases List.mem_append.mp member with row_digit | tail
    · exact isFinal_of_isDigit (Text.isDigit_of_mem_ofNat row_digit)
    rcases List.mem_cons.mp tail with rfl | column_digit
    · decide
    · exact isFinal_of_isDigit (Text.isDigit_of_mem_ofNat column_digit)
  rw [paintCursor, Screen.feed_append, Screen.feed_sequence ground inner (by decide)]
  simp only [Screen.execute, if_true, Screen.move, position_ofNat]
  exact feed_showCursor rfl

/-- What a frame has in a cell of the screen. -/
def Frame.cell (frame : Frame) (row col : ℕ) : Option Char :=
  (frame.lines.take frame.rows)[row]?.bind fun line => (Line.visible line |>.take frame.width)[col]?

/-- A screen that a frame was painted on.  The erasure of what is below blanks the last cell of the
last row, where the cursor waits if the line fills it. -/
structure Painted (frame : Frame) (screen : Screen) : Prop where
  /-- No control sequence is open. -/
  mode : screen.mode = .ground
  /-- The cells hold the frame, but for that one. -/
  grid : ∀ row col, screen.grid row col =
    if row + 1 = (frame.lines.take frame.rows).length ∧ col + 1 = frame.width then none
    else frame.cell row col
  /-- The cursor is shown if the frame has one on the screen. -/
  cursor : screen.cursor = frame.target.isSome
  /-- And then it is where the frame has it. -/
  target : ∀ target ∈ frame.target, screen.row = min (target.1 - 1) (frame.rows - 1) ∧
    screen.col = min (target.2 - 1) (frame.width - 1)

theorem Frame.cell_eq (frame : Frame) (row col : ℕ) :
    frame.cell row col = ((frame.lines.take frame.rows).map
      fun line => (Line.visible line).take frame.width)[row]?.bind fun text => text[col]? := by
  rw [Frame.cell, List.getElem?_map, Option.bind_map]
  rfl

/-- The rows, and what is erased below them. -/
theorem grid_eraseBelow {frame : Frame} {texts : List Text} (wide : 0 < frame.width)
    (shown : texts = (frame.lines.take frame.rows).map
      fun line => (Line.visible line).take frame.width) (nonempty : texts ≠ [])
    (top : start.row = 0) (drawn : Drawn rows frame.width start texts screen) (row col : ℕ) :
    screen.eraseBelow.grid row col =
      if row + 1 = (frame.lines.take frame.rows).length ∧ col + 1 = frame.width then none
      else frame.cell row col := by
  have length : texts.length = (frame.lines.take frame.rows).length := by
    rw [shown, List.length_map]
  have some_rows : 0 < texts.length := List.length_pos_iff.mpr nonempty
  have last_row : screen.row + 1 = texts.length := by rw [drawn.row, top, Nat.zero_add]
  obtain ⟨last, ends⟩ := Option.ne_none_iff_exists'.mp
    (mt List.getLast?_eq_none_iff.mp nonempty)
  have last_at : texts[screen.row]? = some last := by
    rw [← ends, List.getLast?_eq_getElem?, ← last_row, Nat.add_sub_cancel]
  have narrow : last.length ≤ frame.width := by
    have member := List.mem_of_getElem? last_at
    rw [shown] at member
    obtain ⟨line, _, rfl⟩ := List.mem_map.mp member
    exact List.length_take_le _ _
  have last_col := drawn.col last ends
  rw [← length, Frame.cell_eq, ← shown]
  simp only [Screen.eraseBelow, drawn.grid, top, Nat.zero_le, true_and, Nat.zero_add, Nat.sub_zero]
  rcases Nat.lt_trichotomy row screen.row with above | here | below
  · -- The rows above the last one are not erased.
    rw [if_neg (by omega), if_pos (by omega), if_neg (by omega)]
  · subst here
    by_cases erased : screen.col ≤ col
    · rw [if_pos (.inr ⟨rfl, erased⟩)]
      split
      · rfl
      · rw [last_at, Option.bind_some, List.getElem?_eq_none (by omega)]
    · rw [if_neg (by omega), if_pos (by omega), if_neg (by omega)]
  · rw [if_pos (.inl below), if_neg (by omega), List.getElem?_eq_none (by omega)]
    rfl

theorem painted (lawful : console.Lawful) {frame : Frame} (wide : 0 < frame.width)
    (ground : screen.mode = .ground) (clean : ∀ line ∈ frame.lines, Line.Clean console line) :
    Painted frame (screen.feed frame.rows frame.width (paint console frame)) := by
  have rest : ∀ {drawn : Screen}, drawn.mode = .ground → drawn.cursor = false →
      (∀ row col, drawn.eraseBelow.grid row col =
        if row + 1 = (frame.lines.take frame.rows).length ∧ col + 1 = frame.width then none
        else frame.cell row col) →
      Painted frame
        (drawn.feed frame.rows frame.width (clearBelow ++ paintCursor frame.target)) := by
    intro drawn drawn_ground hidden grid
    rw [Screen.feed_append, feed_clearBelow drawn_ground]
    cases placed : frame.target with
    | none => exact ⟨rfl, grid, hidden.trans (by rw [placed]; rfl), by simp [placed]⟩
    | some target =>
        rw [feed_paintCursor_some rfl]
        refine ⟨rfl, grid, by rw [placed]; rfl, fun other member => ?_⟩
        cases placed.symm.trans member
        exact ⟨rfl, rfl⟩
  rw [paint, Screen.feed_append, Screen.feed_append, Screen.feed_append, feed_hideCursor ground,
    feed_home rfl]
  by_cases empty : frame.lines.take frame.rows = []
  · rw [empty]
    refine rest rfl rfl fun row col => ?_
    have erased : 0 < row ∨ row = 0 ∧ 0 ≤ col := by omega
    have blank : frame.cell row col = none := by rw [Frame.cell, empty]; rfl
    rw [blank, ite_self]
    exact if_pos erased
  · have drawn : Drawn frame.rows frame.width
        { screen with cursor := false, row := 0, col := 0, deferred := false, mode := .ground }
        _ _ :=
      drawn_lines lawful wide empty rfl rfl (by simp) fun line member =>
        clean line (List.mem_of_mem_take member)
    refine rest drawn.mode drawn.cursor fun row col => ?_
    exact grid_eraseBelow wide rfl (by simpa using empty) rfl drawn row col

/-- Whatever was on the terminal before, painting shows the rows of the frame cut to its width, and
nothing else, but for the last cell of the last row, which stays blank; so the whole frame is shown
if and only if the last line that fits does not fill its row. -/
theorem paint_shows_frame (lawful : console.Lawful) {frame : Frame} (wide : 0 < frame.width)
    (ground : screen.mode = .ground) (clean : ∀ line ∈ frame.lines, Line.Clean console line) :
    (∀ row col, (screen.feed frame.rows frame.width (paint console frame)).grid row col =
      if row + 1 = (frame.lines.take frame.rows).length ∧ col + 1 = frame.width then none
      else frame.cell row col) ∧
      ((∀ row col,
        (screen.feed frame.rows frame.width (paint console frame)).grid row col =
          frame.cell row col) ↔
        ∀ last ∈ (frame.lines.take frame.rows).getLast?,
          (Line.visible last).length < frame.width) := by
  have grid := (painted lawful wide ground clean).grid
  refine ⟨grid, fun shown last ends => ?_, fun narrow row col => ?_⟩
  · rw [List.getLast?_eq_getElem?] at ends
    have nonempty : 0 < (frame.lines.take frame.rows).length := by
      by_contra none_shown
      rw [List.getElem?_eq_none (by omega)] at ends
      cases ends
    have lost := shown ((frame.lines.take frame.rows).length - 1) (frame.width - 1)
    rw [grid, if_pos ⟨by omega, by omega⟩, Frame.cell, ends, Option.bind_some, eq_comm,
      List.getElem?_eq_none_iff, List.length_take] at lost
    omega
  · rw [grid]
    split
    · rename_i corner
      have ends : (frame.lines.take frame.rows).getLast? =
          (frame.lines.take frame.rows)[row]? := by
        rw [List.getLast?_eq_getElem?, ← corner.1, Nat.add_sub_cancel]
      rw [Frame.cell]
      cases shown : (frame.lines.take frame.rows)[row]? with
      | none => rfl
      | some last =>
          have short := narrow last (ends.trans shown)
          rw [Option.bind_some, List.getElem?_eq_none]
          rw [List.length_take]
          omega
    · rfl

namespace Console

/-- The code of a style. -/
def code : Style → Text
  | .bold => ['1']
  | .dim => ['2']
  | .green => ['3', '2']
  | .cyan => ['3', '6']
  | .red => ['3', '1']
  | .yellow => ['3', '3']

/-- The characters that come before so many columns are full, and all changes of style. -/
def cut : ℕ → Line → Line
  | _, [] => []
  | width, .style code :: line => .style code :: cut width line
  | 0, .char _ :: line => cut 0 line
  | width + 1, .char c :: line => .char c :: cut width line

/-- The crate on a terminal with colours, for characters of one column. -/
def colours : Console where
  styled style line := .style (code style) :: line ++ [.style ['0']]
  truncateStr line width := cut width line
  cells _ := 1

theorem visible_cut (width : ℕ) (line : Line) :
    (cut width line).visible = line.visible.take width := by
  fun_induction cut width line with
  | case1 => simp [Line.visible]
  | case2 width code line induction =>
      simpa [Line.visible, Glyph.char?, List.filterMap_cons] using induction
  | case3 c line induction => simpa [Line.visible] using induction
  | case4 width c line induction =>
      simpa [Line.visible, Glyph.char?, List.filterMap_cons] using induction

theorem mem_of_mem_cut {width : ℕ} {line : Line} {code : Text}
    (member : Glyph.style code ∈ cut width line) : Glyph.style code ∈ line := by
  fun_induction cut width line with
  | case1 => exact member
  | case2 width other line induction =>
      exact List.mem_cons.mpr ((List.mem_cons.mp member).imp_right induction)
  | case3 c line induction => exact List.mem_cons_of_mem _ (induction member)
  | case4 width c line induction =>
      exact List.mem_cons.mpr ((List.mem_cons.mp member).imp_right induction)

theorem lawful_colours : colours.Lawful where
  visible_styled style line := by
    have opened : Line.visible (Glyph.style (code style) :: line) = Line.visible line := rfl
    have reset : Line.visible [Glyph.style ['0']] = [] := rfl
    rw [colours, visible_append, opened, reset, List.append_nil]
  complete_styled style line complete other member := by
    have codes : ∀ c ∈ code style, isFinal c = false := by cases style <;> simp [code, isFinal]
    have inside : Glyph.style other ∈ .style (code style) :: (line ++ [.style ['0']]) := member
    rw [List.mem_cons, List.mem_append, List.mem_singleton] at inside
    rcases inside with opened | inside | reset
    · cases opened
      exact codes
    · exact complete other inside
    · cases reset
      simp [isFinal]
  visible_truncateStr line width _ := visible_cut width line
  complete_truncateStr width complete code member := complete code (mem_of_mem_cut member)
  cells_ascii _ _ _ := rfl
  cells_symbols _ _ := rfl

end Console

/-- A hint that fills the only row of a terminal. -/
def fullFrame : Frame := (Frame.new 4 1).line (plain "Back".toList)

/-- A screen that is full of something else. -/
def usedScreen : Screen := ⟨fun _ _ => some 'x', 0, 3, true, true, .ground⟩

/-- The last character of the hint is lost. -/
theorem paint_shows_frame_full :
    ¬ ∀ row col, (usedScreen.feed 1 4 (paint Console.colours fullFrame)).grid row col =
      fullFrame.cell row col := by
  have clean : ∀ line ∈ fullFrame.lines, Line.Clean Console.colours line := by
    intro line member
    rw [List.mem_singleton.mp member]
    exact clean_own Console.lawful_colours rfl
  intro shown
  exact absurd ((paint_shows_frame Console.lawful_colours (by decide) rfl clean).2.mp shown _ rfl)
    (by decide)

end PresenceUnlock.Cli.Paint
