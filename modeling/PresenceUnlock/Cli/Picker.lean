import PresenceUnlock.Cli.Paint

/-!
# Picking from a list

A list is painted again after every key, with one of its items marked.  What a terminal shows as
marked when a key selects it is what the list returns.
-/

namespace PresenceUnlock.Cli.Paint

open RustStd Terminal

/-- The keys that a list tells apart. -/
inductive Key
  | arrowUp
  | arrowDown
  | tab
  | home
  | «end»
  | enter
  | escape
  | char (c : Char)
  | other
  deriving DecidableEq, Repr

/-- A pick-one list. -/
structure Menu where
  /-- What stands above the list. -/
  head : Frame
  /-- The items. -/
  items : List Line
  /-- The keys that the list knows, as the last line tells them. -/
  footer : Line
  /-- The marked item. -/
  selected : ℕ
  /-- The lines that describe the marked item. -/
  detail : Option (ℕ → List Line)

namespace Menu

/-- The footer of most lists. -/
def navBack : Line := plain "↑↓ navigate   Enter select   Esc back".toList

/-- A list with its first item marked. -/
def new (head : Frame) (items : List Line) : Menu := ⟨head, items, navBack, 0, none⟩

/-- Where the mark starts. -/
def select (menu : Menu) (index : ℕ) : Menu :=
  { menu with selected := if index < menu.items.length then index else 0 }

/-- How many items there is room for. -/
def capacity (menu : Menu) : ℕ := max (menu.head.rows - (menu.head.blank.lines.length + 2)) 1

/-- The first item that is shown. -/
def first (menu : Menu) : ℕ :=
  min (menu.selected - (menu.capacity - 1)) (menu.items.length - menu.capacity)

/-- The lines that describe the marked item, under an empty one. -/
def detailLines (menu : Menu) : List Line :=
  match menu.detail with
  | none => []
  | some detail => [] :: detail menu.selected

/-- The last item. -/
def last (menu : Menu) : ℕ := menu.items.length - 1

/-- What a key does: the list goes on, or it ends, with a choice or without. -/
def press (menu : Menu) : Key → Menu ⊕ Option ℕ
  | .arrowUp | .char 'k' =>
      .inl { menu with selected := if menu.selected = 0 then menu.last else menu.selected - 1 }
  | .arrowDown | .char 'j' | .tab =>
      .inl { menu with
        selected := if menu.selected = menu.last then 0 else menu.selected + 1 }
  | .home => .inl { menu with selected := 0 }
  | .end => .inl { menu with selected := menu.last }
  | .enter | .char ' ' => .inr (some menu.selected)
  | .escape => .inr none
  | _ => .inl menu

end Menu

/-- Why no key is read. -/
inductive ReadError
  | interrupted
  | other
  deriving DecidableEq, Repr

/-- One turn of the loop of a list. -/
structure Turn where
  /-- Whether the app is to be left when the list is drawn. -/
  quitRequested : Bool
  /-- Whether the terminal takes what is drawn. -/
  written : Bool
  /-- What is read then. -/
  key : Except ReadError Key

/-- How a list ends. -/
inductive Outcome
  | returned (choice : Option ℕ)
  | failed
  /-- The read was cut short by Ctrl+C, which leaves the app. -/
  | left
  deriving DecidableEq, Repr

namespace Menu

variable (console : Console)

/-- An item, marked or not. -/
def itemLine (menu : Menu) (item : Line) (index : ℕ) : Line :=
  if index = menu.selected then
    plain "  ".toList ++
      (console.styled .green (plain ['→']) ++ (plain [' '] ++ console.styled .green item))
  else plain "    ".toList ++ item

/-- The items that are shown. -/
def window (menu : Menu) : List Line :=
  ((menu.items.zipIdx.drop menu.first).take menu.capacity).map fun (item, index) =>
    menu.itemLine console item index

/-- The whole screen of a list. -/
def render (menu : Menu) : Frame :=
  let frame := menu.head.blank
  let frame := (menu.window console).foldl Frame.line frame
  let frame := menu.detailLines.foldl Frame.line frame
  frame.blank.dim console menu.footer

/-- The frames that are drawn in these turns, each with whether the app was to be left by then, and
how the list ends, if it does. -/
def loop (menu : Menu) : List Turn → List (Bool × Frame) × Option Outcome
  | [] => ([], none)
  | turn :: turns =>
      let drawn := (turn.quitRequested, menu.render console)
      if turn.quitRequested = false ∧ turn.written = false then ([], some .failed)
      else
        match turn.key with
        | .error .interrupted => ([drawn], some .left)
        | .error .other => ([drawn], some .failed)
        | .ok key =>
            match menu.press key with
            | .inl next => (drawn :: (next.loop turns).1, (next.loop turns).2)
            | .inr choice => ([drawn], some (.returned choice))

/-- `Menu::run`: an empty list ends at once. -/
def run (menu : Menu) (turns : List Turn) : List (Bool × Frame) × Option Outcome :=
  if menu.items = [] then ([], some (.returned none)) else menu.loop console turns

end Menu

/-- The terminal after these frames are drawn. -/
def drawAll (console : Console) (screen : Screen) (frames : List (Bool × Frame)) : Screen :=
  frames.foldl (fun screen drawn =>
    screen.feed drawn.2.rows drawn.2.width (draw console drawn.1 drawn.2)) screen

namespace Menu

variable {console : Console} {menu next : Menu} {turns : List Turn} {screen : Screen}

/-- A list whose mark is on one of its items, of lines that can be shown. -/
structure Valid (console : Console) (menu : Menu) : Prop where
  /-- The mark is on an item. -/
  selected : menu.selected < menu.items.length
  /-- The terminal has a column. -/
  wide : 0 < menu.head.width
  /-- What is above the list can be shown. -/
  head : ∀ line ∈ menu.head.lines, Line.Clean console line
  /-- The items can be shown. -/
  items : ∀ item ∈ menu.items, Line.Clean console item
  /-- The footer can be shown. -/
  footer : Line.Clean console menu.footer
  /-- Every description can be shown. -/
  detail : ∀ detail ∈ menu.detail, ∀ index, ∀ line ∈ detail index, Line.Clean console line

/-- Lists that differ in the mark only. -/
structure Same (menu next : Menu) : Prop where
  /-- The same head. -/
  head : next.head = menu.head
  /-- The same items. -/
  items : next.items = menu.items
  /-- The same footer. -/
  footer : next.footer = menu.footer
  /-- The same descriptions. -/
  detail : next.detail = menu.detail

theorem press_inl {key : Key} (valid : menu.Valid console) (pressed : menu.press key = .inl next) :
    next.Valid console ∧ Same menu next := by
  have moved : ∀ index, index < menu.items.length →
      ({ menu with selected := index } : Menu).Valid console ∧
        Same menu { menu with selected := index } :=
    fun index inside => ⟨⟨inside, valid.wide, valid.head, valid.items, valid.footer,
      valid.detail⟩, rfl, rfl, rfl, rfl⟩
  have some_item := valid.selected
  unfold press last at pressed
  split at pressed
  · cases pressed
    exact moved _ (by split <;> omega)
  · cases pressed
    exact moved _ (by split <;> omega)
  · cases pressed
    exact moved _ (by split <;> omega)
  · cases pressed
    exact moved _ (by split <;> omega)
  · cases pressed
    exact moved _ (by split <;> omega)
  · cases pressed
    exact moved 0 (by omega)
  · cases pressed
    exact moved _ (by omega)
  · cases pressed
  · cases pressed
  · cases pressed
  · cases pressed
    exact ⟨valid, rfl, rfl, rfl, rfl⟩

theorem press_inr {key : Key} {index : ℕ} (pressed : menu.press key = .inr (some index)) :
    index = menu.selected := by
  unfold press at pressed
  split at pressed <;> cases pressed <;> rfl

theorem Same.trans {later : Menu} (first : Same menu next) (second : Same next later) :
    Same menu later :=
  ⟨second.head.trans first.head, second.items.trans first.items,
    second.footer.trans first.footer, second.detail.trans first.detail⟩

/-- A choice is the item that was marked in the last frame, after frames of the same list. -/
theorem loop_chosen {frames : List (Bool × Frame)} {index : ℕ} (valid : menu.Valid console)
    (looped : menu.loop console turns = (frames, some (.returned (some index)))) :
    ∃ before shown quitRequested, frames = before ++ [(quitRequested, shown.render console)] ∧
      shown.Valid console ∧ Same menu shown ∧ shown.selected = index ∧
      ∀ drawn ∈ before, ∃ other : Menu, drawn.2 = other.render console ∧ other.Valid console ∧
        Same menu other := by
  induction turns generalizing menu frames with
  | nil => cases looped
  | cons turn turns induction =>
      rw [loop] at looped
      split at looped
      · cases looped
      cases read : turn.key with
      | error error =>
          rw [read] at looped
          cases error <;> cases looped
      | ok key =>
          rw [read] at looped
          dsimp only at looped
          cases pressed : menu.press key with
          | inl next =>
              rw [pressed] at looped
              obtain ⟨next_valid, same⟩ := press_inl valid pressed
              simp only [Prod.mk.injEq] at looped
              obtain ⟨rfl, ended⟩ := looped
              obtain ⟨before, shown, quitRequested, drawn, shown_valid, later, marked, others⟩ :=
                induction next_valid (Prod.ext rfl ended)
              refine ⟨(turn.quitRequested, menu.render console) :: before, shown, quitRequested,
                congrArg ((turn.quitRequested, menu.render console) :: ·) drawn, shown_valid,
                same.trans later, marked, ?_⟩
              refine List.forall_mem_cons.mpr ⟨⟨menu, rfl, valid, rfl, rfl, rfl, rfl⟩, ?_⟩
              intro frame member
              obtain ⟨other, render, other_valid, other_same⟩ := others frame member
              exact ⟨other, render, other_valid, same.trans other_same⟩
          | inr choice =>
              rw [pressed] at looped
              cases looped
              exact ⟨[], menu, turn.quitRequested, rfl, valid, ⟨rfl, rfl, rfl, rfl⟩,
                (press_inr pressed).symm, List.forall_mem_nil _⟩

theorem render_lines (console : Console) (menu : Menu) :
    (menu.render console).lines = menu.head.lines ++ ([] :: (menu.window console ++
      (menu.detailLines ++ [[], console.styled .dim menu.footer]))) := by
  simp [render, Frame.dim, Frame.blank, Frame.foldl_line, Frame.line]

theorem render_width (console : Console) (menu : Menu) :
    (menu.render console).width = menu.head.width := by
  simp [render, Frame.dim, Frame.blank, Frame.foldl_line, Frame.line]

theorem render_rows (console : Console) (menu : Menu) :
    (menu.render console).rows = menu.head.rows := by
  simp [render, Frame.dim, Frame.blank, Frame.foldl_line, Frame.line]

/-- The row of an item, if the list shows it. -/
def rowOf (menu : Menu) (index : ℕ) : Option ℕ :=
  if menu.first ≤ index ∧ index < menu.first + menu.capacity ∧ index < menu.items.length then
    some (menu.head.lines.length + 1 + (index - menu.first))
  else none

theorem window_getElem? {index : ℕ} {item : Line} (shown : menu.first ≤ index)
    (inside : index < menu.first + menu.capacity) (here : menu.items[index]? = some item) :
    (menu.window console)[index - menu.first]? = some (menu.itemLine console item index) := by
  have offset : menu.first + (index - menu.first) = index := by omega
  have zipped : menu.items.zipIdx[index]? = some (item, index) := by
    simp [List.getElem?_zipIdx, here]
  rw [window, List.getElem?_map, List.getElem?_take_of_lt (by omega), List.getElem?_drop, offset,
    zipped]
  rfl

theorem render_rowOf {index row : ℕ} {item : Line} (shown : menu.rowOf index = some row)
    (here : menu.items[index]? = some item) :
    (menu.render console).lines[row]? = some (menu.itemLine console item index) := by
  unfold rowOf at shown
  split at shown
  · rename_i inside
    cases shown
    have line : (menu.window console)[index - menu.first]? = _ :=
      window_getElem? inside.1 inside.2.1 here
    have short : index - menu.first < (menu.window console).length :=
      (List.getElem?_eq_some_iff.mp line).1
    have past_head : menu.head.lines.length ≤
        menu.head.lines.length + 1 + (index - menu.first) := by
      omega
    have next : menu.head.lines.length + 1 + (index - menu.first) - menu.head.lines.length =
        index - menu.first + 1 := by omega
    rw [render_lines, List.getElem?_append_right past_head, next, List.getElem?_cons_succ,
      List.getElem?_append_left short, line]
  · cases shown

/-- The marked item is always in the window, and on the screen unless what is above the list leaves
no row for it. -/
theorem rowOf_selected (valid : menu.Valid console) :
    ∃ row, menu.rowOf menu.selected = some row ∧
      (row < menu.head.rows ↔ menu.head.lines.length + 2 ≤ menu.head.rows) := by
  have inside := valid.selected
  have some_room : 1 ≤ menu.capacity := Nat.le_max_right _ _
  have shown : menu.first ≤ menu.selected ∧ menu.selected < menu.first + menu.capacity ∧
      menu.selected < menu.items.length := by
    unfold first
    omega
  refine ⟨_, if_pos shown, ?_⟩
  have length : menu.head.blank.lines.length = menu.head.lines.length + 1 := by
    simp [Frame.blank, Frame.line]
  have room : menu.capacity = max (menu.head.rows - (menu.head.lines.length + 1 + 2)) 1 := by
    rw [capacity, length]
  omega

theorem clean_itemLine (lawful : console.Lawful) {item : Line} (clean : Line.Clean console item)
    (index : ℕ) : Line.Clean console (menu.itemLine console item index) := by
  unfold itemLine
  split
  · exact clean_append (clean_own lawful rfl) (clean_append
      (clean_styled lawful .green (clean_own lawful rfl))
      (clean_append (clean_own lawful rfl) (clean_styled lawful .green clean)))
  · exact clean_append (clean_own lawful rfl) clean

theorem clean_render (lawful : console.Lawful) (valid : menu.Valid console) :
    ∀ line ∈ (menu.render console).lines, Line.Clean console line := by
  intro line member
  rw [render_lines] at member
  simp only [List.mem_append, List.mem_cons, List.not_mem_nil, or_false] at member
  rcases member with head | rfl | window | detail | rfl | rfl
  · exact valid.head line head
  · exact clean_nil
  · obtain ⟨⟨item, index⟩, inside, rfl⟩ := List.mem_map.mp window
    have item_of := List.fst_mem_of_mem_zipIdx (List.mem_of_mem_drop (List.mem_of_mem_take inside))
    exact clean_itemLine lawful (valid.items item item_of) index
  · unfold detailLines at detail
    split at detail
    · cases detail
    · rename_i lines described
      rcases List.mem_cons.mp detail with rfl | inside
      · exact clean_nil
      · exact valid.detail lines described menu.selected line inside
  · exact clean_nil
  · exact clean_styled lawful .dim valid.footer

theorem ground_drawAll (lawful : console.Lawful) {frames : List (Bool × Frame)}
    (ground : screen.mode = .ground)
    (drawn : ∀ drawn ∈ frames, ∃ other : Menu, drawn.2 = other.render console ∧
      other.Valid console) : (drawAll console screen frames).mode = .ground := by
  induction frames generalizing screen with
  | nil => exact ground
  | cons frame frames induction =>
      obtain ⟨⟨other, render, valid⟩, rest⟩ := List.forall_mem_cons.mp drawn
      rw [drawAll, List.foldl_cons]
      refine induction ?_ rest
      rw [draw, render]
      split
      · exact ground
      · have wide : 0 < (other.render console).width := other.render_width console ▸ valid.wide
        exact (Paint.painted lawful wide ground (clean_render lawful valid)).mode

/-- Before an item stands its mark, or as much space. -/
def mark (marked : Bool) : Text := if marked then "  → ".toList else "    ".toList

theorem visible_itemLine (lawful : console.Lawful) (item : Line) (index : ℕ) :
    Line.visible (menu.itemLine console item index) =
      mark (decide (index = menu.selected)) ++ Line.visible item := by
  unfold itemLine mark
  by_cases marked : index = menu.selected
  · simp only [marked, if_true, decide_true, visible_append, visible_plain,
      lawful.visible_styled]
    rfl
  · simp only [marked, if_false, decide_false, visible_append, visible_plain]
    rfl

/-- A painted list shows its items, with the mark on the selected one. -/
theorem painted_item (lawful : console.Lawful) {painted_on : Screen} {index row col : ℕ}
    {item : Line} (painted : Painted (menu.render console) painted_on)
    (shown : menu.rowOf index = some row) (here : menu.items[index]? = some item)
    (on_screen : row < menu.head.rows) (inside : col + 1 < menu.head.width) :
    painted_on.grid row col =
      (mark (decide (index = menu.selected)) ++ Line.visible item)[col]? := by
  have before_last : ¬ (row + 1 =
      ((menu.render console).lines.take (menu.render console).rows).length ∧
        col + 1 = (menu.render console).width) := by
    rw [render_width]
    omega
  rw [painted.grid, if_neg before_last, Frame.cell, render_rows,
    List.getElem?_take_of_lt on_screen, render_rowOf shown here, Option.bind_some,
    visible_itemLine lawful, render_width, List.getElem?_take_of_lt (by omega)]

end Menu

/-- Whatever keys are pressed, and whatever was on the terminal before: the item that a list returns
is the one that the terminal shows as marked, among the items that it shows, unless the app was to
be left when the list was drawn last; and it is on the screen unless what is above the list leaves
no row for it. -/
theorem run_chooses_marked {console : Console} (lawful : console.Lawful) {menu : Menu}
    {turns : List Turn} {frames : List (Bool × Frame)} {index : ℕ} {screen : Screen}
    (valid : menu.Valid console) (ground : screen.mode = .ground)
    (ran : menu.run console turns = (frames, some (.returned (some index)))) :
    index < menu.items.length ∧
      (∃ row, ({ menu with selected := index } : Menu).rowOf index = some row ∧
        (row < menu.head.rows ↔ menu.head.lines.length + 2 ≤ menu.head.rows)) ∧
      ((∀ drawn ∈ frames.getLast?, drawn.1 = false) →
        ∀ other item row, menu.items[other]? = some item →
          ({ menu with selected := index } : Menu).rowOf other = some row → row < menu.head.rows →
            ∀ col, col + 1 < menu.head.width → (drawAll console screen frames).grid row col =
              (Menu.mark (decide (other = index)) ++ Line.visible item)[col]?) := by
  have some_item : menu.items ≠ [] := List.length_pos_iff.mp (Nat.zero_lt_of_lt valid.selected)
  rw [Menu.run, if_neg some_item] at ran
  obtain ⟨before, shown, quitRequested, rfl, shown_valid, same, marked, others⟩ :=
    Menu.loop_chosen valid ran
  have shown_eq : shown = { menu with selected := index } := by
    obtain ⟨head, items, footer, detail⟩ := same
    cases shown
    simp_all
  subst shown_eq
  refine ⟨shown_valid.selected, Menu.rowOf_selected shown_valid, fun stays => ?_⟩
  have drawn_last : quitRequested = false := stays _ List.getLast?_concat
  subst drawn_last
  have before_ground : (drawAll console screen before).mode = .ground :=
    Menu.ground_drawAll lawful ground fun frame member => by
      obtain ⟨other, render, other_valid, _⟩ := others frame member
      exact ⟨other, render, other_valid⟩
  have wide : 0 < (({ menu with selected := index } : Menu).render console).width := by
    rw [Menu.render_width]
    exact valid.wide
  have paints := painted lawful wide before_ground (Menu.clean_render lawful shown_valid)
  intro other item row here row_of on_screen col inside
  rw [drawAll, List.foldl_append]
  exact Menu.painted_item lawful paints row_of here on_screen inside

/-- Two items under an empty head. -/
def twoItems : Menu :=
  Menu.new (Frame.new 40 6) [plain "Enroll".toList, plain "Status".toList]

theorem valid_twoItems : twoItems.Valid Console.colours where
  selected := by decide
  wide := by decide
  head := List.forall_mem_nil _
  items := by
    intro item member
    rcases List.mem_pair.mp member with rfl | rfl <;> exact clean_own Console.lawful_colours rfl
  footer := clean_own Console.lawful_colours rfl
  detail detail member := by cases member

/-- The second item is marked, and chosen. -/
def secondItem : List Turn := [⟨false, true, .ok .arrowDown⟩, ⟨false, true, .ok .enter⟩]

theorem run_chooses_marked_status :
    (List.range 10).map ((drawAll Console.colours usedScreen
        (twoItems.run Console.colours secondItem).1).grid 2) =
      "  → Status".toList.map some := by
  have ran : twoItems.run Console.colours secondItem =
      ((twoItems.run Console.colours secondItem).1, some (.returned (some 1))) := rfl
  have ground : usedScreen.mode = .ground := rfl
  obtain ⟨_, _, shown⟩ := run_chooses_marked Console.lawful_colours valid_twoItems ground ran
  have cells : ∀ col ∈ List.range 10, (drawAll Console.colours usedScreen
      (twoItems.run Console.colours secondItem).1).grid 2 col = ("  → Status".toList)[col]? := by
    intro col inside
    have narrow : col + 1 < 40 := by
      rw [List.mem_range] at inside
      omega
    refine shown (fun drawn last => ?_) 1 (plain "Status".toList) 2 rfl rfl (by decide) col narrow
    cases last
    rfl
  rw [List.map_congr_left cells]
  rfl

end PresenceUnlock.Cli.Paint
