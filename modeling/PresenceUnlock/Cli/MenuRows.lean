import PresenceUnlock.Cli.Menu
import PresenceUnlock.Jsonc.Parser

/-!
# The rows as JSON

The managed block reads as three members, wherever an object may have another one.
-/

namespace PresenceUnlock.Cli.Menu

open RustStd Jsonc

/-- A text as the value of a member. -/
def stringValue (text : Text) : Json := .scalar (.string (encode text))

/-- What every command is run by. -/
def launcher : Text := "omarchy-launch-floating-terminal-with-presentation ".toList

/-- What the action of a row runs. -/
def actionText (command : Text) : Text := launcher ++ command

/-- A row as a member of the root object. -/
def rowMember (row : Row) : Member :=
  (encode row.id, .object
    [(encode "icon".toList, stringValue icon), (encode "label".toList, stringValue row.label),
      (encode "description".toList, stringValue row.description),
      (encode "when".toList, stringValue row.condition),
      (encode "action".toList, stringValue (actionText row.command))])

/-- The members that the block adds. -/
def presenceRows : List Member := rows.map rowMember

/-- A text as a token. -/
def stringToken (text : Text) : Token := .scalar (.string (encode text))

/-- The tokens of a member of a row. -/
def fieldTokens (name text : Text) : List Token := [stringToken name, .colon, stringToken text]

/-- The tokens of a row. -/
def rowTokens (row : Row) : List Token :=
  stringToken row.id :: .colon :: .openBrace ::
    (fieldTokens "icon".toList icon ++ (.comma :: (fieldTokens "label".toList row.label ++
      (.comma :: (fieldTokens "description".toList row.description ++
        (.comma :: (fieldTokens "when".toList row.condition ++
          (.comma :: (fieldTokens "action".toList (actionText row.command) ++
            [.closeBrace])))))))))

theorem adds_rowTokens (row : Row) : State.Adds (rowTokens row) [rowMember row] where
  begins := ⟨_, _, rfl⟩
  run _ _ := rfl

/-- A text as it is spelled in a string. -/
def Spells (spelling text : Text) : Prop :=
  ∀ units, lexFrom (.string units .outside) spelling =
    some ([], .string (units ++ encode text) .outside)

theorem spells_plain {text : Text} (plain : text.all isPlain = true) : Spells text text :=
  fun _ => lexFrom_plain plain

theorem Spells.append {spelling spelling' text text' : Text} (spells : Spells spelling text)
    (spells' : Spells spelling' text') : Spells (spelling ++ spelling') (text ++ text') := by
  intro units
  have lexed := lexFrom_append (spells units) (spells' (units ++ encode text))
  simpa [encode] using lexed

theorem spells_escapeQuotes {text : Text}
    (plain : (text.all fun c => isPlain c || c == '"') = true) :
    Spells (escapeQuotes text) text := by
  induction text with
  | nil => exact spells_plain rfl
  | cons c text induction =>
      rw [List.all_cons, Bool.and_eq_true] at plain
      have first : Spells (if c = '"' then ['\\', '"'] else [c]) [c] := by
        split
        · rename_i quote
          subst quote
          exact fun units => rfl
        · rename_i solid
          apply spells_plain
          simpa [solid] using plain.1
      exact first.append (induction plain.2)

theorem lexFrom_string {spelling text : Text} (spells : Spells spelling text) :
    lexFrom .rest ('"' :: (spelling ++ ['"'])) = some ([stringToken text], .rest) := by
  have opened : Mode.rest.step '"' = some ([], .string [] .outside) := rfl
  have closed : lexFrom (.string (encode text) .outside) ['"'] =
      some ([stringToken text], .rest) := rfl
  exact lexFrom_cons opened (lexFrom_append (spells []) closed)

theorem lexFrom_field {name spelling text : Text} (plain : name.all isPlain = true)
    (spells : Spells spelling text) :
    lexFrom .rest (field name spelling) = some (fieldTokens name text, .rest) := by
  have colon : lexFrom .rest [':'] = some ([.colon], .rest) := rfl
  have lexed := lexFrom_append (lexFrom_string (spells_plain plain))
    (lexFrom_append colon (lexFrom_string spells))
  have split : field name spelling =
      '"' :: (name ++ ['"']) ++ ([':'] ++ '"' :: (spelling ++ ['"'])) := by simp [field]
  rw [split]
  exact lexed

/-- The parts of a row that are lexed one after another. -/
theorem row_eq (id label description condition command : Text) :
    row id label description condition command =
      [' ', ' '] ++ ('"' :: (id ++ ['"']) ++ ([':', ' ', '\x7b'] ++ (field "icon".toList icon ++
        ([','] ++ (field "label".toList label ++ ([','] ++
          (field "description".toList description ++ ([','] ++
            (field "when".toList (escapeQuotes condition) ++ ([','] ++
              (field "action".toList (actionText command) ++ ['\x7d']))))))))))) := by
  have joined : ∀ blanks opened closed first second third fourth fifth : Text,
      blanks ++ id ++ opened ++
          List.intercalate [','] [first, second, third, fourth, fifth] ++ closed =
        blanks ++ (id ++ (opened ++ (first ++ ([','] ++ (second ++ ([','] ++ (third ++ ([','] ++
          (fourth ++ ([','] ++ (fifth ++ closed))))))))))) := by
    intros
    simp [List.intercalate, List.intersperse]
  refine (joined _ _ _ _ _ _ _ _).trans ?_
  simp only [List.append_assoc, List.cons_append, List.nil_append]
  rfl

/-- What holds of the characters of a literal, which `toList` would have to decode. -/
theorem all_literal {literal : String} {chars : Text} {p : Char → Bool}
    (spelled : literal = String.ofList chars) (all : chars.all p = true) :
    literal.toList.all p = true := by
  rw [spelled, String.toList_ofList]
  exact all

theorem plain_icon : icon.all isPlain = true := by decide +kernel

theorem plain_launcher : launcher.all isPlain = true := all_literal rfl (by decide +kernel)

/-- A condition is joined from these literals. -/
theorem all_presenceWhen {p : Char → Bool}
    (command : "command -v omarchy-presence-unlock >/dev/null".toList.all p = true)
    (conjunction : " && ".toList.all p = true) (negation : "! ".toList.all p = true)
    (condition : appliedCondition.all p = true) (state : Integration) :
    (presenceWhen state).all p = true := by
  unfold presenceWhen
  rw [List.all_append, List.all_append, command, conjunction, Bool.true_and, Bool.true_and]
  cases state with
  | applied => exact condition
  | unapplied =>
      dsimp only
      rw [List.all_append, negation, condition, Bool.and_self]

theorem plain_presenceWhen (state : Integration) :
    ((presenceWhen state).all fun c => isPlain c || c == '"') = true := by
  apply all_presenceWhen
  · exact all_literal rfl (by decide +kernel)
  · exact all_literal rfl (by decide +kernel)
  · exact all_literal rfl (by decide +kernel)
  · unfold appliedCondition
    rw [String.toList_append, List.all_append, Bool.and_eq_true]
    exact ⟨all_literal rfl (by decide +kernel), all_literal rfl (by decide +kernel)⟩

/-- A row whose texts need no escapes, but for the quotes of its condition. -/
structure Row.Solid (row : Row) : Prop where
  /-- The member needs none. -/
  id : row.id.all isPlain = true
  /-- The name needs none. -/
  label : row.label.all isPlain = true
  /-- The description needs none. -/
  description : row.description.all isPlain = true
  /-- The condition needs some for its quotes. -/
  condition : (row.condition.all fun c => isPlain c || c == '"') = true
  /-- The command needs none. -/
  command : row.command.all isPlain = true

theorem solid_of_mem_rows {row : Row} (member : row ∈ rows) : row.Solid := by
  simp only [rows, List.mem_cons, List.not_mem_nil, or_false] at member
  rcases member with rfl | rfl | rfl
  · exact ⟨all_literal rfl (by decide +kernel), all_literal rfl (by decide +kernel),
      all_literal rfl (by decide +kernel), plain_presenceWhen .unapplied,
      all_literal rfl (by decide +kernel)⟩
  · exact ⟨all_literal rfl (by decide +kernel), all_literal rfl (by decide +kernel),
      all_literal rfl (by decide +kernel), plain_presenceWhen .applied,
      all_literal rfl (by decide +kernel)⟩
  · exact ⟨all_literal rfl (by decide +kernel), all_literal rfl (by decide +kernel),
      all_literal rfl (by decide +kernel), plain_presenceWhen .applied,
      all_literal rfl (by decide +kernel)⟩

theorem lexFrom_row {row : Row} (solid : row.Solid) :
    lexFrom .rest row.text = some (rowTokens row, .rest) := by
  have comma : lexFrom .rest [','] = some ([.comma], .rest) := rfl
  have opened : lexFrom .rest [':', ' ', '\x7b'] = some ([.colon, .openBrace], .rest) := rfl
  have closed : lexFrom .rest ['\x7d'] = some ([.closeBrace], .rest) := rfl
  have blanks : lexFrom .rest [' ', ' '] = some ([], .rest) := rfl
  have plain_action : (actionText row.command).all isPlain = true := by
    rw [actionText, List.all_append, plain_launcher, solid.command, Bool.and_true]
  have names : ∀ name ∈ ["icon", "label", "description", "when", "action"],
      name.toList.all isPlain = true := by decide
  have icon_field := lexFrom_field (names "icon" (by simp)) (spells_plain plain_icon)
  have label_field := lexFrom_field (names "label" (by simp)) (spells_plain solid.label)
  have description_field := lexFrom_field (names "description" (by simp))
    (spells_plain solid.description)
  have when_field := lexFrom_field (names "when" (by simp)) (spells_escapeQuotes solid.condition)
  have action_field := lexFrom_field (names "action" (by simp)) (spells_plain plain_action)
  rw [Row.text, row_eq]
  exact lexFrom_append blanks (lexFrom_append (lexFrom_string (spells_plain solid.id))
    (lexFrom_append opened (lexFrom_append icon_field (lexFrom_append comma
      (lexFrom_append label_field (lexFrom_append comma (lexFrom_append description_field
        (lexFrom_append comma (lexFrom_append when_field (lexFrom_append comma
          (lexFrom_append action_field closed)))))))))))

/-- The tokens of the block. -/
def blockTokens : List Token :=
  rowTokens setupRow ++ .comma :: (rowTokens manageRow ++ .comma :: rowTokens removeRow)

theorem adds_blockTokens : State.Adds blockTokens presenceRows :=
  (adds_rowTokens setupRow).append ((adds_rowTokens manageRow).append (adds_rowTokens removeRow))

/-- A line that is a comment. -/
theorem lexFrom_comment {text : Text} (slashes : ['/', '/'] <+: text) (single : '\n' ∉ text) :
    lexFrom .rest (text ++ ['\n']) = some ([], .rest) := by
  obtain ⟨comment, rfl⟩ := slashes
  have begun : lexFrom .rest ['/', '/'] = some ([], .lineComment) := rfl
  have ended : lexFrom .lineComment ['\n'] = some ([], .rest) := rfl
  have absent : '\n' ∉ comment := fun member => single (List.mem_append_right _ member)
  exact lexFrom_append (lexFrom_append begun (lexFrom_lineComment absent)) ended

theorem lexFrom_block : lexFrom .rest block = some (blockTokens, .rest) := by
  have separated : lexFrom .rest [',', '\n'] = some ([.comma], .rest) := rfl
  have blanks : lexFrom .rest [' ', ' '] = some ([], .rest) := rfl
  have indented : lexFrom .rest ['\n', ' ', ' '] = some ([], .rest) := rfl
  have start : lexFrom .rest (blockStart ++ ['\n']) = some ([], .rest) :=
    lexFrom_comment (by decide) (by decide)
  have stop : lexFrom .rest (blockEnd ++ ['\n']) = some ([], .rest) :=
    lexFrom_comment (by decide) (by decide)
  have rows : lexFrom .rest blockRows = some (blockTokens, .rest) := by
    have split : blockRows = setupRow.text ++ ([',', '\n'] ++ (manageRow.text ++ ([',', '\n'] ++
        removeRow.text))) := by
      unfold blockRows rows
      simp [List.intercalate, List.intersperse]
    have lexed : ∀ row ∈ rows, lexFrom .rest row.text = some (rowTokens row, .rest) :=
      fun row member => lexFrom_row (solid_of_mem_rows member)
    rw [split]
    exact lexFrom_append (lexed setupRow (by simp [rows])) (lexFrom_append separated
      (lexFrom_append (lexed manageRow (by simp [rows])) (lexFrom_append separated
        (lexed removeRow (by simp [rows])))))
  have split : block = [' ', ' '] ++ (blockStart ++ ['\n'] ++ (blockRows ++ (['\n', ' ', ' '] ++
      (blockEnd ++ ['\n'])))) := by
    simp [block]
  rw [split]
  have lexed := lexFrom_append blanks (lexFrom_append start (lexFrom_append rows
    (lexFrom_append indented stop)))
  simpa using lexed

/-- A comment swallows the block. -/
theorem lexFrom_block_of_comment :
    lexFrom (.blockComment false) block = some ([], .blockComment false) := by
  apply lexFrom_blockComment
  unfold block blockRows rows setupRow manageRow removeRow
  simp only [List.map_cons, List.map_nil, Row.text]
  unfold row field presenceWhen appliedCondition blockStart blockEnd setupEntryId manageEntryId
    removeEntryId
  rw [String.toList_append]
  repeat rw [String.toList_ofList]
  decide +kernel

end PresenceUnlock.Cli.Menu
