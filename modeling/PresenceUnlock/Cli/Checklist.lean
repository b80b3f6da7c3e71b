import PresenceUnlock.Cli.Milestones
import PresenceUnlock.Cli.Paint

/-!
# The pairing checklist

The wizard folds what a guided enrollment reports into the state of its screen, and draws a
checklist from it.  A row of the painted checklist is ticked if and only if its phase was reported.
-/

namespace PresenceUnlock.Cli.Milestones

open RustStd Terminal Paint
open Advertise (Before Ending Event Flow FlowError Guided Request Stage request sweep)

/-- What the wizard keeps of the reports of a guided enrollment. -/
structure PairState where
  /-- The last phase that was reported. -/
  reached : Option Phase
  /-- The name that is advertised. -/
  advertisingAs : Option Text
  /-- The name of the device. -/
  deviceName : Option Text
  /-- The id that the device was enrolled under. -/
  enrolledId : Option Text
  /-- What was put back. -/
  cleanup : List Cleanup
  deriving DecidableEq, Repr

namespace PairState

/-- Nothing is reported yet. -/
def init : PairState := ⟨none, none, none, none, []⟩

/-- What a report adds. -/
def apply (state : PairState) : Progress → PairState
  | .phase (.advertising name) =>
      { state with reached := some (.advertising name), advertisingAs := some name }
  | .phase (.connected name) =>
      { state with reached := some (.connected name), deviceName := name }
  | .phase phase => { state with reached := some phase }
  | .enrolled id name =>
      { state with enrolledId := some id, deviceName := name.or state.deviceName }
  | .cleanup cleanup => { state with cleanup := state.cleanup ++ [cleanup] }

/-- What a screen knows after these reports. -/
def after (reports : List Progress) : PairState := reports.foldl apply init

/-- How far the flow got; nothing reported yet ranks below the first phase. -/
def rank (state : PairState) : ℤ := state.reached.elim (-1) fun phase => phase.rank

end PairState

/-- The state of one entry. -/
inductive Mark
  | done
  | active
  | pending
  | failed
  deriving DecidableEq, Repr

namespace Mark

/-- A row: its mark, and its text. -/
def render (console : Console) (text : Text) : Mark → Line
  | .done =>
      plain "  ".toList ++ (console.styled .green (plain ['✓']) ++ plain (' ' :: text))
  | .active =>
      plain "  ".toList ++ (console.styled .cyan (plain ['◉']) ++ plain (' ' :: text))
  | .pending =>
      plain "  ".toList ++ (console.styled .dim (plain ['○']) ++
        (plain [' '] ++ console.styled .dim (plain text)))
  | .failed =>
      plain "  ".toList ++ (console.styled .red (plain ['✗']) ++ plain (' ' :: text))

/-- What is seen before the text of a row. -/
def front : Mark → Text
  | .done => "  ✓ ".toList
  | .active => "  ◉ ".toList
  | .pending => "  ○ ".toList
  | .failed => "  ✗ ".toList

variable {console : Console}

theorem visible_render (lawful : console.Lawful) (mark : Mark) (text : Text) :
    Line.visible (mark.render console text) = mark.front ++ text := by
  cases mark <;> simp [render, visible_append, visible_plain, lawful.visible_styled, front]

theorem clean_render (lawful : console.Lawful) {text : Text} (cells : ∀ c ∈ text, console.Cell c)
    (mark : Mark) : Line.Clean console (mark.render console text) := by
  have space : console.Cell ' ' := cell_of_isOwn lawful rfl
  have inside : Line.Clean console (plain (' ' :: text)) :=
    clean_plain (List.forall_mem_cons.mpr ⟨space, cells⟩)
  have margin : Line.Clean console (plain "  ".toList) := clean_own lawful rfl
  have sign : ∀ style c, isOwn c = true → Line.Clean console (console.styled style (plain [c])) :=
    fun style c own => clean_styled lawful style
      (clean_plain (List.forall_mem_singleton.mpr (cell_of_isOwn lawful own)))
  cases mark with
  | done => exact clean_append margin (clean_append (sign .green '✓' rfl) inside)
  | active => exact clean_append margin (clean_append (sign .cyan '◉' rfl) inside)
  | pending =>
      exact clean_append margin (clean_append (sign .dim '○' rfl)
        (clean_append (clean_own lawful rfl) (clean_styled lawful .dim (clean_plain cells))))
  | failed => exact clean_append margin (clean_append (sign .red '✗' rfl) inside)

end Mark

/-- The mark of a row that is done with a phase. -/
def markAt (rank doneAt : ℤ) : Mark :=
  if rank ≥ doneAt then .done else if rank = doneAt - 1 then .active else .pending

/-- A row whose text stays. -/
def milestone (rank doneAt : ℤ) (label : Text) : Mark × Text := (markAt rank doneAt, label)

/-- A row whose text is told in the tense of its mark. -/
def milestoneTensed (rank doneAt : ℤ) (doing done : Text) : Mark × Text :=
  match markAt rank doneAt with
  | .done => (.done, done)
  | .active => (.active, doing ++ ['…'])
  | mark => (mark, doing)

/-- A name in quotation marks. -/
def quoted (name : Text) : Text := '“' :: (name ++ ['”'])

/-- The words of one provider. -/
structure Words where
  /-- What the device is called. -/
  label : Text
  /-- Where the user finds the computer on the device. -/
  hint : Text

/-- The rows of the live checklist. -/
def pairRows (words : Words) (state : PairState) (advertisedAs : Text) : List (Mark × Text) :=
  milestone state.rank 0 "Bluetooth adapter ready".toList ::
    milestone state.rank 1 "Secure pairing monitor ready".toList ::
    if state.rank < 3 then
      [milestone state.rank 2
          ("Advertising as ".toList ++ quoted (state.advertisingAs.getD advertisedAs)),
        (if state.rank ≥ 2 then .active else .pending,
          "Waiting for ".toList ++ (words.label ++ ['…']))]
    else
      [(.done, (state.deviceName.elim words.label quoted) ++ " connected".toList),
        milestoneTensed state.rank 4 "Completing secure pairing".toList
          "Secure pairing completed".toList,
        milestoneTensed state.rank 5 "Receiving device identity".toList
          "Device identity received".toList,
        milestoneTensed state.rank 6 "Verifying enrollment".toList "Enrollment verified".toList]

/-- `mm:ss`. -/
def countdown (seconds : ℕ) : Text :=
  List.leftpad 2 '0' (Text.ofNat (seconds / 60)) ++
    ':' :: List.leftpad 2 '0' (Text.ofNat (seconds % 60))

/-- What stands under the rows while the device is waited for. -/
def waitingLines (words : Words) (state : PairState) (remaining : ℕ) : List Line :=
  if state.rank < 3 then
    [[], plain words.hint, [], plain ("Time remaining: ".toList ++ countdown remaining)]
  else []

/-- The footer while a flow runs. -/
def navCancel : Text := "Esc cancel".toList

/-- The live pairing screen. -/
def pairFrame (console : Console) (width rows : ℕ) (words : Words) (state : PairState)
    (advertisedAs : Text) (remaining : ℕ) : Frame :=
  let frame := (Frame.new width rows).title console ("Pair ".toList ++ words.label)
    (some "Step 2 of 3".toList)
  let frame := frame.blank
  let frame := (pairRows words state advertisedAs).foldl
    (fun frame row => frame.line (row.1.render console row.2)) frame
  let frame := (waitingLines words state remaining).foldl Frame.line frame
  frame.blank.dim console (plain navCancel)

theorem PairState.after_append (reports : List Progress) (more : Progress) :
    after (reports ++ [more]) = (after reports).apply more := by
  rw [after, List.foldl_append]
  rfl

/-- The screen has reached the last phase that was reported. -/
theorem PairState.reached_after (reports : List Progress) :
    (after reports).reached = (reports.filterMap Progress.phase?).getLast? := by
  induction reports using List.reverseRecOn with
  | nil => rfl
  | append_singleton reports more induction =>
      rw [after_append, List.filterMap_append]
      cases more with
      | phase phase =>
          have last : List.filterMap Progress.phase? [Progress.phase phase] = [phase] := rfl
          rw [last, List.getLast?_concat]
          cases phase <;> rfl
      | cleanup cleanup =>
          have last : List.filterMap Progress.phase? [Progress.cleanup cleanup] = [] := rfl
          rw [last, List.append_nil, ← induction]
          rfl
      | enrolled id name =>
          have last : List.filterMap Progress.phase? [Progress.enrolled id name] = [] := rfl
          rw [last, List.append_nil, ← induction]
          rfl

variable {reports : List Progress} {n : ℕ}

theorem PairState.rank_after (ordered : ranks reports = List.range n) :
    (after reports).rank = (n : ℤ) - 1 := by
  have last : (after reports).reached.map Phase.rank = (List.range n).getLast? := by
    rw [reached_after, ← ordered, ranks, List.getLast?_map]
  rw [rank]
  cases n with
  | zero =>
      rw [List.range_zero, List.getLast?_nil, Option.map_eq_none_iff] at last
      rw [last]
      rfl
  | succ n =>
      rw [List.range_succ, List.getLast?_concat, Option.map_eq_some_iff] at last
      obtain ⟨phase, reached, rank⟩ := last
      rw [reached, Option.elim_some, rank]
      omega

/-- The phases that the rows stand for: those before the connection, or those from it on. -/
def rowPhases (reports : List Progress) : List ℕ :=
  if 3 ∈ ranks reports then [0, 1, 3, 4, 5, 6] else [0, 1, 2, 3]

/-- The mark of a row whose phase is reported, is next, or is later than that. -/
def markOf (n phase : ℕ) : Mark :=
  if phase < n then .done else if phase = n then .active else .pending

theorem markAt_eq (n phase : ℕ) : markAt ((n : ℤ) - 1) phase = markOf n phase := by
  have done : (n : ℤ) - 1 ≥ phase ↔ phase < n := by omega
  have active : (n : ℤ) - 1 = phase - 1 ↔ phase = n := by omega
  simp only [markAt, markOf, done, active]

theorem fst_milestoneTensed (rank doneAt : ℤ) (doing done : Text) :
    (milestoneTensed rank doneAt doing done).1 = markAt rank doneAt := by
  unfold milestoneTensed
  split <;> simp [*]

theorem pairRows_marks (ordered : ranks reports = List.range n) (words : Words)
    (advertisedAs : Text) :
    (pairRows words (PairState.after reports) advertisedAs).map Prod.fst =
      (rowPhases reports).map (markOf n) := by
  have zero := markAt_eq n 0
  have one := markAt_eq n 1
  have two := markAt_eq n 2
  have four := markAt_eq n 4
  have five := markAt_eq n 5
  have six := markAt_eq n 6
  have waits : (n : ℤ) - 1 < 3 ↔ ¬ 3 < n := by omega
  rw [pairRows, rowPhases, PairState.rank_after ordered]
  simp only [ordered, List.mem_range]
  by_cases connected : 3 < n
  · have third : markOf n 3 = .done := if_pos connected
    rw [if_neg (mt waits.mp (not_not.mpr connected)), if_pos connected]
    simp only [List.map_cons, List.map_nil, milestone, fst_milestoneTensed, third]
    exact congrArg₂ _ zero (congrArg₂ _ one (congrArg₂ _ rfl (congrArg₂ _ four
      (congrArg₂ _ five (congrArg₂ _ six rfl)))))
  · have third : (if (n : ℤ) - 1 ≥ 2 then Mark.active else Mark.pending) = markOf n 3 := by
      rw [markOf, if_neg connected]
      have same : (n : ℤ) - 1 ≥ 2 ↔ 3 = n := by omega
      simp only [same]
    rw [if_pos (waits.mpr connected), if_neg connected]
    simp only [List.map_cons, List.map_nil, milestone, third]
    exact congrArg₂ _ zero (congrArg₂ _ one (congrArg₂ _ two rfl))

theorem markOf_eq_done_iff {phase : ℕ} : markOf n phase = .done ↔ phase < n := by
  unfold markOf
  split
  · simp [*]
  · split <;> simp [*]

theorem markOf_eq_active_iff {phase : ℕ} : markOf n phase = .active ↔ phase = n := by
  unfold markOf
  split
  · rename_i before
    simp [Nat.ne_of_lt before]
  · split <;> simp [*]

/-- The texts of the screen go into cells: none of them has a control character. -/
structure Words.Shown (console : Console) (words : Words) (state : PairState)
    (advertisedAs : Text) : Prop where
  /-- The label goes into cells. -/
  label : ∀ c ∈ words.label, console.Cell c
  /-- The hint goes into cells. -/
  hint : ∀ c ∈ words.hint, console.Cell c
  /-- The name that is to be advertised goes into cells. -/
  advertisedAs : ∀ c ∈ advertisedAs, console.Cell c
  /-- The name that is advertised goes into cells. -/
  advertisingAs : ∀ name ∈ state.advertisingAs, ∀ c ∈ name, console.Cell c
  /-- The name that the device gives itself goes into cells. -/
  deviceName : ∀ name ∈ state.deviceName, ∀ c ∈ name, console.Cell c

section Frame

variable {console : Console} {width rows remaining : ℕ} {words : Words} {state : PairState}
  {advertisedAs : Text}

theorem cells_append {first second : Text} (front : ∀ c ∈ first, console.Cell c)
    (back : ∀ c ∈ second, console.Cell c) : ∀ c ∈ first ++ second, console.Cell c :=
  List.forall_mem_append.mpr ⟨front, back⟩

theorem cells_quoted (lawful : console.Lawful) {name : Text} (cells : ∀ c ∈ name, console.Cell c) :
    ∀ c ∈ quoted name, console.Cell c :=
  List.forall_mem_cons.mpr ⟨cell_of_isOwn lawful rfl, cells_append cells (cells_of_all lawful rfl)⟩

theorem isOwn_of_isDigit {c : Char} (digit : c.isDigit = true) : isOwn c = true := by
  simp only [Char.isDigit, Bool.and_eq_true, decide_eq_true_eq] at digit
  have above : ' ' ≤ c := UInt32.le_trans (by decide) digit.1
  have below : c ≤ '~' := UInt32.le_trans digit.2 (by decide)
  simp [isOwn, above, below]

theorem cells_ofNat (lawful : console.Lawful) (value : ℕ) :
    ∀ c ∈ Text.ofNat value, console.Cell c := fun _ member =>
  cell_of_isOwn lawful (isOwn_of_isDigit (Text.isDigit_of_mem_ofNat member))

theorem cells_countdown (lawful : console.Lawful) (seconds : ℕ) :
    ∀ c ∈ countdown seconds, console.Cell c := by
  have padded : ∀ value, ∀ c ∈ List.leftpad 2 '0' (Text.ofNat value), console.Cell c := by
    intro value
    rw [List.leftpad]
    refine cells_append (fun c member => ?_) (cells_ofNat lawful value)
    rw [List.eq_of_mem_replicate member]
    exact cell_of_isOwn lawful rfl
  exact cells_append (padded _)
    (List.forall_mem_cons.mpr ⟨cell_of_isOwn lawful rfl, padded _⟩)

theorem cells_milestoneTensed (lawful : console.Lawful) {rank doneAt : ℤ} {doing done : Text}
    (first : ∀ c ∈ doing, console.Cell c) (second : ∀ c ∈ done, console.Cell c) :
    ∀ c ∈ (milestoneTensed rank doneAt doing done).2, console.Cell c := by
  unfold milestoneTensed
  split
  · exact second
  · exact cells_append first (cells_of_all lawful rfl)
  · exact first

theorem cells_row (lawful : console.Lawful) (shown : words.Shown console state advertisedAs) :
    ∀ row ∈ pairRows words state advertisedAs, ∀ c ∈ row.2, console.Cell c := by
  have advertising : ∀ c ∈ state.advertisingAs.getD advertisedAs, console.Cell c := by
    cases named : state.advertisingAs with
    | none => exact shown.advertisedAs
    | some name => exact shown.advertisingAs name named
  have device : ∀ c ∈ state.deviceName.elim words.label quoted, console.Cell c := by
    cases named : state.deviceName with
    | none => exact shown.label
    | some name => exact cells_quoted lawful (shown.deviceName name named)
  refine List.forall_mem_cons.mpr ⟨cells_of_all lawful rfl,
    List.forall_mem_cons.mpr ⟨cells_of_all lawful rfl, ?_⟩⟩
  split
  · refine List.forall_mem_cons.mpr ⟨?_, List.forall_mem_singleton.mpr ?_⟩
    · exact cells_append (cells_of_all lawful rfl) (cells_quoted lawful advertising)
    · exact cells_append (cells_of_all lawful rfl)
        (cells_append shown.label (cells_of_all lawful rfl))
  · refine List.forall_mem_cons.mpr ⟨cells_append device (cells_of_all lawful rfl), ?_⟩
    refine List.forall_mem_cons.mpr ⟨cells_milestoneTensed lawful (cells_of_all lawful rfl)
      (cells_of_all lawful rfl), ?_⟩
    refine List.forall_mem_cons.mpr ⟨cells_milestoneTensed lawful (cells_of_all lawful rfl)
      (cells_of_all lawful rfl), ?_⟩
    exact List.forall_mem_singleton.mpr (cells_milestoneTensed lawful (cells_of_all lawful rfl)
      (cells_of_all lawful rfl))

theorem clean_waitingLines (lawful : console.Lawful)
    (shown : words.Shown console state advertisedAs) :
    ∀ line ∈ waitingLines words state remaining, Line.Clean console line := by
  unfold waitingLines
  split
  · refine List.forall_mem_cons.mpr ⟨clean_nil, List.forall_mem_cons.mpr ⟨clean_plain shown.hint,
      List.forall_mem_cons.mpr ⟨clean_nil, List.forall_mem_singleton.mpr (clean_plain ?_)⟩⟩⟩
    exact cells_append (cells_of_all lawful rfl) (cells_countdown lawful remaining)
  · exact List.forall_mem_nil _

/-- The title of the screen. -/
def pairTitle (console : Console) (width : ℕ) (words : Words) : Line :=
  console.styled .bold (plain ("Pair ".toList ++ words.label)) ++
    (plain (List.replicate (max (width - (("Pair ".toList ++ words.label).length +
      "Step 2 of 3".toList.length)) 2) ' ') ++ console.styled .dim (plain "Step 2 of 3".toList))

theorem clean_pairTitle (lawful : console.Lawful) (label : ∀ c ∈ words.label, console.Cell c) :
    Line.Clean console (pairTitle console width words) := by
  refine clean_append (clean_styled lawful .bold (clean_plain ?_))
    (clean_append (clean_plain ?_) (clean_styled lawful .dim (clean_own lawful rfl)))
  · exact cells_append (cells_of_all lawful rfl) label
  · intro c member
    rw [List.eq_of_mem_replicate member]
    exact cell_of_isOwn lawful rfl

/-- The lines of the screen. -/
def pairLines (console : Console) (width : ℕ) (words : Words) (state : PairState)
    (advertisedAs : Text) (remaining : ℕ) : List Line :=
  pairTitle console width words :: [] ::
    ((pairRows words state advertisedAs).map (fun row => row.1.render console row.2) ++
      (waitingLines words state remaining ++ [[], console.styled .dim (plain navCancel)]))

theorem pairFrame_eq : pairFrame console width rows words state advertisedAs remaining =
    ⟨width, rows, pairLines console width words state advertisedAs remaining, none⟩ := by
  have rendered : ∀ frame : Frame, (pairRows words state advertisedAs).foldl
      (fun frame row => frame.line (row.1.render console row.2)) frame =
        ((pairRows words state advertisedAs).map fun row => row.1.render console row.2).foldl
          Frame.line frame := fun frame => List.foldl_map.symm
  rw [pairFrame, rendered, Frame.foldl_line, Frame.foldl_line]
  simp [Frame.new, Frame.title, Frame.blank, Frame.dim, Frame.line, pairLines, pairTitle]

theorem clean_pairLines (lawful : console.Lawful)
    (shown : words.Shown console state advertisedAs) :
    ∀ line ∈ pairLines console width words state advertisedAs remaining,
      Line.Clean console line := by
  have cells : ∀ c ∈ navCancel, console.Cell c := cells_of_all lawful rfl
  have footer : Line.Clean console (console.styled .dim (plain navCancel)) :=
    clean_styled lawful .dim (clean_plain cells)
  intro line member
  simp only [pairLines, List.mem_cons, List.mem_append, List.mem_map, List.not_mem_nil,
    or_false] at member
  rcases member with rfl | rfl | ⟨row, inside, rfl⟩ | waiting | rfl | rfl
  · exact clean_pairTitle lawful shown.label
  · exact clean_nil
  · exact Mark.clean_render lawful (cells_row lawful shown row inside) row.1
  · exact clean_waitingLines lawful shown line waiting
  · exact clean_nil
  · exact footer

/-- A row of the checklist, on whatever the terminal showed before. -/
theorem grid_pairFrame (lawful : console.Lawful) {screen : Screen} (ground : screen.mode = .ground)
    (shown : words.Shown console state advertisedAs) {i : ℕ} {mark : Mark} {text : Text}
    (row : (pairRows words state advertisedAs)[i]? = some (mark, text)) (on_screen : i + 2 < rows)
    {col : ℕ} (inside : col + 1 < width) :
    (screen.feed rows width (paint console
      (pairFrame console width rows words state advertisedAs remaining))).grid (i + 2) col =
        (mark.front ++ text)[col]? := by
  rw [pairFrame_eq]
  have wide : 0 < width := Nat.zero_lt_of_lt inside
  have painted_frame : Painted ⟨width, rows,
      pairLines console width words state advertisedAs remaining, none⟩ _ :=
    painted lawful wide ground (clean_pairLines lawful shown)
  have before_last : ¬ (i + 2 + 1 =
      ((pairLines console width words state advertisedAs remaining).take rows).length ∧
        col + 1 = width) := by omega
  have line : (pairLines console width words state advertisedAs remaining)[i + 2]? =
      some (mark.render console text) := by
    have short : i < (pairRows words state advertisedAs).length :=
      (List.getElem?_eq_some_iff.mp row).1
    rw [pairLines, List.getElem?_cons_succ, List.getElem?_cons_succ,
      List.getElem?_append_left (by rw [List.length_map]; exact short), List.getElem?_map, row]
    rfl
  rw [painted_frame.grid, if_neg before_last, Frame.cell]
  dsimp only
  rw [List.getElem?_take_of_lt on_screen, line, Option.bind_some,
    Mark.visible_render lawful, List.getElem?_take_of_lt (by omega)]

end Frame

/-- Over every run of a guided enrollment, and whatever the terminal showed before: a row of the
painted checklist is ticked if and only if the flow has reported its phase, and it is the active one
if and only if its phase is the next to come. -/
theorem checklist_tells_progress {console : Console} (lawful : console.Lawful) {Source : Type}
    [DecidableEq Source] (crates : Crates) (toml : Toml Source) (guided : Guided)
    (store : Option Source) (events : List (Event Source)) {words : Words} {advertisedAs : Text}
    {screen : Screen} (ground : screen.mode = .ground) (width rows remaining : ℕ) :
    let watched := Execution.run (Watched.step crates toml guided) (begin store) events
    let state := PairState.after watched.reports
    words.Shown console state advertisedAs →
      ∀ i mark text, (pairRows words state advertisedAs)[i]? = some (mark, text) →
        ∃ phase, (rowPhases watched.reports)[i]? = some phase ∧
          (mark = .done ↔ phase ∈ ranks watched.reports) ∧
          (mark = .active ↔ phase ∉ ranks watched.reports ∧
            ∀ earlier < phase, earlier ∈ ranks watched.reports) ∧
          (i + 2 < rows → ∀ col, col + 1 < width →
            (screen.feed rows width (paint console
              (pairFrame console width rows words state advertisedAs remaining))).grid (i + 2) col =
                (mark.front ++ text)[col]?) := by
  intro watched state shown i mark text row
  obtain ⟨n, ordered⟩ := ordered_run crates toml guided store events
  have marks := pairRows_marks ordered.ranks words advertisedAs
  have here : ((pairRows words state advertisedAs).map Prod.fst)[i]? = some mark := by
    rw [List.getElem?_map, row]
    rfl
  rw [marks, List.getElem?_map, Option.map_eq_some_iff] at here
  obtain ⟨phase, stands, rfl⟩ := here
  refine ⟨phase, stands, ?_, ?_, fun on_screen col inside =>
    grid_pairFrame lawful ground shown row on_screen inside⟩
  · rw [markOf_eq_done_iff, ordered.ranks, List.mem_range]
  · rw [markOf_eq_active_iff, ordered.ranks]
    simp only [List.mem_range]
    constructor
    · rintro rfl
      exact ⟨Nat.lt_irrefl _, fun _ => id⟩
    · rintro ⟨unreported, before⟩
      have last := before (phase - 1)
      omega

/-- What is said of an Apple Watch. -/
def watchWords : Words :=
  ⟨"Apple Watch".toList, "Open Settings → Bluetooth → Health Devices on the Watch.".toList⟩

/-- An adapter by the name of `desk` is advertised. -/
def advertised : List (Event Document) :=
  [.answers (.done (.ok ())), .answers (.done (.ok ())), .answers (.flag (.ok true)),
    .answers (.name (.ok "desk".toList)), .answers (.addresses (.ok [])),
    .answers (.flag (.ok true)), .answers (.seconds (.ok 0)), .answers (.done (.ok ())),
    .answers (.done (.ok ())), .proceeds, .answers (.done (.ok ())), .answers (.done (.ok ())),
    .answers (.done (.ok ())), .answers (.done (.ok ()))]

/-- A run from an empty configuration, with its reports. -/
abbrev watch (guided : Guided) (events : List (Event Document)) : Watched Document :=
  Execution.run (Watched.step ConfigFile.plainCrates Toml.ofDocuments guided) (begin none) events

/-- A screen full of something else. -/
def tornScreen : Screen := ⟨fun _ _ => some 'x', 3, 79, true, true, .ground⟩

/-- The checklist while the adapter is advertised. -/
abbrev waitingFrame : Frame :=
  pairFrame .colours 80 24 watchWords
    (PairState.after (watch Advertise.trial advertised).reports) [] 300

/-- The third row is ticked, and the fourth one is the active one. -/
theorem checklist_tells_progress_advertised :
    (tornScreen.feed 24 80 (paint .colours waitingFrame)).grid (2 + 2) 2 = some '✓' ∧
      (tornScreen.feed 24 80 (paint .colours waitingFrame)).grid (3 + 2) 2 = some '◉' := by
  have lawful := Console.lawful_colours
  have shown : watchWords.Shown .colours
      (PairState.after (watch Advertise.trial advertised).reports) [] := {
    label := cells_of_all lawful rfl
    hint := cells_of_all lawful rfl
    advertisedAs := List.forall_mem_nil _
    advertisingAs := by
      intro name known
      cases known
      exact cells_of_all lawful rfl
    deviceName := by
      intro name known
      cases known }
  have ground : tornScreen.mode = .ground := rfl
  have rows :=
    checklist_tells_progress lawful ConfigFile.plainCrates Toml.ofDocuments Advertise.trial none
      advertised ground 80 24 300 shown
  obtain ⟨_, _, _, _, third⟩ :=
    rows 2 .done ("Advertising as ".toList ++ quoted "desk".toList) rfl
  obtain ⟨_, _, _, _, fourth⟩ := rows 3 .active "Waiting for Apple Watch…".toList rfl
  constructor
  · rw [third (by decide) 2 (by decide)]
    rfl
  · rw [fourth (by decide) 2 (by decide)]
    rfl

/-- What is said where no phase was reached. -/
def adapterClosed : Text := "The Bluetooth adapter could not be opened.".toList
/-- What is said once the adapter is ready. -/
def monitorNotStarted : Text := "The secure pairing monitor could not be started.".toList
/-- What is said once the monitor is ready. -/
def notDiscoverable : Text := "This computer could not be made discoverable.".toList

namespace Words

variable (words : Words)

/-- What is said once the computer is advertised. -/
def neverConnected : Text := "The ".toList ++ (words.label ++ " never connected.".toList)

/-- What is said once the device is connected. -/
def pairingIncomplete : Text :=
  "The ".toList ++ (words.label ++ " connected, but secure pairing did not complete.".toList)

/-- What is said once the device is bonded. -/
def noIdentity : Text :=
  "The ".toList ++ (words.label ++ " connected, but no device identity was received.".toList)

/-- The advice to remove the bond on the device. -/
def forget : Text :=
  "Remove this computer from the ".toList ++ (words.label ++ "’s Bluetooth devices".toList)

/-- The advice to keep the device close. -/
def close : Text :=
  "Keep the ".toList ++ (words.label ++ " unlocked and close to the computer".toList)

end Words

/-- What is said once the identity is received. -/
def unverified : Text := "The device identity could not be verified.".toList
/-- The last advice. -/
def again : Text := "Start pairing again".toList

/-- What went wrong and what to try, by how far the flow got. -/
def failureAdvice (words : Words) : ℤ → Text × List Text
  | .negSucc _ =>
      (adapterClosed,
        ["Check that Bluetooth is switched on".toList,
          "Make sure the configured adapter exists".toList, again])
  | 0 =>
      (monitorNotStarted,
        ["Secure pairing needs administrator access".toList,
          "Answer the password prompt, or configure sudo to allow it".toList, again])
  | 1 =>
      (notDiscoverable,
        ["Make sure no other application is using the adapter".toList,
          "Check that Bluetooth is switched on".toList, again])
  | 2 => (words.neverConnected, [words.hint, words.close, again])
  | 3 => (words.pairingIncomplete, [words.forget, words.close, again])
  | 4 => (words.noIdentity, [words.forget, words.close, again])
  | _ => (unverified, [words.forget, again])

/-- The steps of a guided enrollment, as a user would name them. -/
inductive Step
  | adapter
  | settings
  | monitor
  | discoverability
  | connection
  | pairing
  | identity
  | verification
  deriving DecidableEq, Repr

/-- The headline for a step that failed.  The settings of the adapter have none of their own. -/
def Step.headline (words : Words) : Step → Text
  | .adapter => adapterClosed
  | .settings | .monitor => monitorNotStarted
  | .discoverability => notDiscoverable
  | .connection => words.neverConnected
  | .pairing => words.pairingIncomplete
  | .identity => words.noIdentity
  | .verification => unverified

/-- The step that the capture is at. -/
def stepOf : Stage → Step
  | .starting | .monitor => .monitor
  | .agent | .application | .advertisement => .discoverability
  | .listing | .asking _ _ _ | .pausing | .greeting _ => .connection
  | .pairing _ | .awaitingPaired _ | .pausingPaired _ => .pairing
  | .identifying _ | .capturing _ _ => .identity
  | .naming _ | .aliasing _ | .deadline _ | .pausingName _ => .verification

/-- The step that the flow is at, until it only has to clean up. -/
def stepAt : Advertise.Phase → Option Step
  | .session | .adapter | .powered => some .adapter
  | .naming | .establishing | .examining _ _ _ _ | .readingPairable _ | .readingTimeout _ _
  | .widening _ | .opening _ => some .settings
  | .capturing _ stage => some (stepOf stage)
  | .saving _ _ _ | .flagging _ => some .verification
  | _ => none

/-- The step that an error is of.  A call of the Bluetooth stack may be of any. -/
def stepOfError : FlowError → Option Step
  | .notPowered _ => some .adapter
  | .noController _ => some .monitor
  | .noConnection _ => some .connection
  | .pairingFailed _ | .pairingTimedOut | .pairingIncomplete => some .pairing
  | .capture .noIrk | .capture .unresolved => some .identity
  | .capture (.edit _) => some .verification
  | .capture (.bond _) | .cancelled | .bluez _ => none

section Failures

variable {Source : Type} {flow next : Flow Source} {event : Event Source} {name : Text}
  {guided : Guided} {words : Words} {step : Step}

/-- The phases that were reported by then tell the headline of the step. -/
theorem headline_of_reached {phase : Advertise.Phase} (reached : ReachedIn phase n)
    (going : stepAt phase = some step) :
    (failureAdvice words ((n : ℤ) - 1)).1 = step.headline words := by
  cases phase with
  | capturing before stage =>
      cases going
      cases reached
      cases stage <;> rfl
  | session | adapter | powered | naming | establishing | examining | readingPairable
  | readingTimeout | widening | opening | saving | flagging =>
      cases going
      cases reached
      rfl
  | narrowing | sweeping | asking | cleaning | restoringTimeout | restoringPairable | pausing
  | returned => cases going

theorem headline_of_ends {error : FlowError} (ends : Ends (.error error) n)
    (known : stepOfError error = some step) :
    (failureAdvice words ((n : ℤ) - 1)).1 = step.headline words := by
  cases error with
  | notPowered | noController | noConnection | pairingFailed | pairingTimedOut
  | pairingIncomplete =>
      cases ends
      cases known
      rfl
  | capture error =>
      cases error with
      | bond => cases known
      | noIrk | unresolved | edit =>
          cases ends
          cases known
          rfl
  | cancelled | bluez => cases known

theorem le_of_ends {error : FlowError} (ends : Ends (.error error) n) : n ≤ 6 := by
  cases error with
  | notPowered | noController | noConnection | pairingFailed | pairingTimedOut
  | pairingIncomplete =>
      cases ends
      decide
  | capture error =>
      cases error with
      | bond => exact ends.elim
      | noIrk | unresolved | edit =>
          cases ends
          decide
  | cancelled => exact ends.2
  | bluez => exact Nat.le_succ_of_le ends

theorem stepAt_sweep (before : Before) (ending : Ending) (addresses : List Address) :
    stepAt (sweep before ending addresses) = none := by
  induction addresses with
  | nil => rfl
  | cons device rest induction =>
      rw [sweep]
      split
      · exact induction
      · rfl

theorem stepAt_request {asked : Request} {pending : Advertise.Phase}
    {next : Except Text Unit → Advertise.Phase} (stays : stepAt pending = none)
    (goes : ∀ result, stepAt (next result) = none) :
    stepAt (request event asked pending next).1 = none := by
  unfold request
  split
  · exact stays
  · exact goes _

/-- A flow that only has to clean up takes up no other step. -/
theorem stepAt_next {phase : Advertise.Phase} (over_now : stepAt phase = none) :
    stepAt (phase.next guided event).1 = none := by
  cases phase with
  | session | adapter | powered | naming | establishing | examining | readingPairable
  | readingTimeout | widening | opening | capturing | saving | flagging => cases over_now
  | narrowing before message => exact stepAt_request rfl fun _ => rfl
  | sweeping before ending =>
      dsimp only [Advertise.Phase.next]
      split
      · rfl
      · rfl
      · exact stepAt_sweep before ending _
  | asking before ending rest device query =>
      dsimp only [Advertise.Phase.next]
      split
      · rfl
      · rfl
      · rfl
      · exact stepAt_sweep before ending rest
  | cleaning before ending rest device cleaning =>
      cases cleaning with
      | waiting | settling =>
          dsimp only [Advertise.Phase.next]
          split <;> rfl
      | checking =>
          dsimp only [Advertise.Phase.next]
          split
          · rfl
          · split <;> rfl
      | disconnecting => exact stepAt_request rfl fun _ => rfl
      | removing => exact stepAt_request rfl fun _ => stepAt_sweep before ending rest
  | restoringTimeout before ending attempts => exact stepAt_request rfl fun _ => rfl
  | restoringPairable before ending attempts timeoutSet =>
      refine stepAt_request rfl fun result => ?_
      split <;> rfl
  | pausing before ending attempts =>
      dsimp only [Advertise.Phase.next]
      split <;> rfl
  | returned result => rfl

variable [DecidableEq Source] {crates : Crates} {toml : Toml Source} {reports : List Progress}

/-- No phase is reported any more. -/
theorem quiet_of_moves (moves : Moves crates toml guided name flow event next reports)
    (over_now : stepAt flow.phase = none) : stepAt next.phase = none ∧ ranks reports = [] := by
  cases moves with
  | edited | stays => exact ⟨over_now, rfl⟩
  | turns capturing | saves capturing | fails capturing | cancels capturing =>
      rw [capturing] at over_now
      cases over_now
  | commits saving | refuses saving =>
      rw [saving] at over_now
      cases over_now
  | flags flagging =>
      rw [flagging] at over_now
      cases over_now
  | ready powered =>
      rw [powered] at over_now
      cases over_now
  | other unready => exact ⟨stepAt_next over_now, ranks_cleanupReports event flow.phase⟩

/-- Only a success reports a phase when it leaves its step. -/
theorem leaves_of_moves (moves : Moves crates toml guided name flow event next reports)
    (over_now : stepAt next.phase = none) :
    ranks reports = [] ∨ ∃ before, flow.phase = .flagging before ∧ ranks reports = [6] := by
  cases moves with
  | edited | stays | saves | fails | cancels | refuses => exact .inl rfl
  | turns | commits | ready => cases over_now
  | flags flagging => exact .inr ⟨_, flagging, rfl⟩
  | other unready => exact .inl (ranks_cleanupReports event flow.phase)

theorem count_of_ordered {watched : Watched Source} {m : ℕ} (ordered : Ordered watched n)
    (later : Ordered (watched.step crates toml guided event) m) :
    m = n + (ranks (reported crates toml guided watched.name watched.flow event)).length := by
  have lengths := congrArg List.length later.ranks
  rw [Watched.step, ranks_append, ordered.ranks] at lengths
  simpa using lengths.symm

/-- What was reported when the flow began to clean up is all that is ever reported of phases. -/
theorem ordered_of_over {watched : Watched Source} (ordered : Ordered watched n)
    (over_now : stepAt watched.flow.phase = none) (events : List (Event Source)) :
    Ordered (Execution.run (Watched.step crates toml guided) watched events) n := by
  have kept := Execution.run_invariant
    (fun watched : Watched Source => Ordered watched n ∧ stepAt watched.flow.phase = none)
    (fun watched event invariant => by
      have quiet := quiet_of_moves
        (moves_step crates toml guided watched.name watched.flow event) invariant.2
      obtain ⟨m, _, later⟩ : ∃ m, n ≤ m ∧ Ordered (watched.step crates toml guided event) m :=
        invariant.1.step event
      have same := count_of_ordered invariant.1 later
      rw [quiet.2, List.length_nil, Nat.add_zero] at same
      exact ⟨same ▸ later, quiet.1⟩) ⟨ordered, over_now⟩ events
  exact kept.1

end Failures

/-- A flow that fails has left, at one of its events, the step that the headline of the failure
screen names; and where the error says of which step it is, the headline is that of this step.  What
fails while the settings of the adapter are read or changed is told as the monitor's failure, a key
that does not resolve the address as one that was not received, and one that could not be saved as
one that was not verified. -/
theorem failure_blames_step {Source : Type} [DecidableEq Source] (crates : Crates)
    (toml : Toml Source) (guided : Guided) (store : Option Source) (events : List (Event Source))
    (words : Words) :
    let run := fun events => Execution.run (Watched.step crates toml guided) (begin store) events
    let told := (failureAdvice words (PairState.after (run events).reports).rank).1
    ∀ error, (run events).flow.phase = .returned (.error error) →
      (∃ earlier event later step, events = earlier ++ event :: later ∧
        stepAt (run earlier).flow.phase = some step ∧
        stepAt (run (earlier ++ [event])).flow.phase = none ∧ told = step.headline words) ∧
      ∀ step ∈ stepOfError error, told = step.headline words := by
  intro run told error returned
  obtain ⟨n, ordered⟩ := ordered_run crates toml guided store events
  have ends : Ends (.error error) n := by
    have reached := ordered.reached.phase
    rwa [returned] at reached
  have rank : told = (failureAdvice words ((n : ℤ) - 1)).1 :=
    congrArg (fun rank => (failureAdvice words rank).1) (PairState.rank_after ordered.ranks)
  refine ⟨?_, fun step known => rank.trans (headline_of_ends ends known)⟩
  have over_last : stepAt (run events).flow.phase = none := by rw [returned]; rfl
  obtain ⟨earlier, event, later, rfl, going, over_now⟩ := Execution.exists_first
    (fun watched : Watched Source => stepAt watched.flow.phase = none)
    (fun none_yet => by cases none_yet) over_last
  obtain ⟨step, at_step⟩ := Option.ne_none_iff_exists'.mp going
  refine ⟨earlier, event, later, step, rfl, at_step, over_now, rank.trans ?_⟩
  obtain ⟨m, before⟩ := ordered_run crates toml guided store earlier
  obtain ⟨k, after⟩ := ordered_run crates toml guided store (earlier ++ [event])
  have last : Ordered (run (earlier ++ event :: later)) k := by
    dsimp only [run]
    rw [List.append_cons, Execution.run_append]
    exact ordered_of_over after over_now later
  have same : n = k := by
    have ranges := ordered.ranks.symm.trans last.ranks
    simpa using congrArg List.length ranges
  rw [Execution.run_concat] at after over_now
  have added := count_of_ordered before after
  rcases leaves_of_moves (moves_step ..) over_now with silent | ⟨flagged, flagging, reports⟩
  · rw [silent] at added
    exact (same.trans added) ▸ headline_of_reached before.reached.phase at_step
  · have all : m = 6 := by
      have reached := before.reached.phase
      rwa [flagging] at reached
    have few := le_of_ends ends
    rw [reports, List.length_singleton] at added
    omega

/-- Nobody answers. -/
theorem failure_blames_step_noConnection :
    let events := advertised ++ [.expires, .answers (.addresses (.ok [])),
      .answers (.done (.ok ())), .answers (.done (.ok ()))]
    (failureAdvice watchWords (PairState.after (watch Advertise.trial events).reports).rank).1 =
      watchWords.neverConnected := by
  intro events
  obtain ⟨_, told⟩ := failure_blames_step ConfigFile.plainCrates Toml.ofDocuments Advertise.trial
    none events watchWords (.noConnection 60) rfl
  exact told .connection rfl

end PresenceUnlock.Cli.Milestones
