import PresenceUnlock.RustStd.Search

/-!
# The rows in the menu file

The rows of this integration stand in the user's menu extension file between two markers, as the
last entries of its root object.  The file is mostly comments, so it is edited as text.
-/

namespace PresenceUnlock.Cli.Menu

open RustStd

def blockStart : Text := "// omarchy-presence-unlock:menu:start".toList
def blockEnd : Text := "// omarchy-presence-unlock:menu:end".toList

def setupEntryId : Text := "setup.security.presence".toList
def manageEntryId : Text := "setup.security.presence-manage".toList
def removeEntryId : Text := "remove.security.presence".toList

/-- The icon of the rows. -/
def icon : Text := [Char.ofNat 0xF0990]

/-- Whether the generated lock is installed, as a condition for the shell. -/
def appliedCondition : Text :=
  ("grep -qsF 'omarchy-presence-unlock:presence' " ++
    "\"$HOME/.config/omarchy/plugins/$\x7bUSER\x7d.lock/Service.qml\"").toList

/-- Whether setup has been applied. -/
inductive Integration
  | applied
  | unapplied
  deriving DecidableEq, Repr

/-- The condition under which a row is shown. -/
def presenceWhen (state : Integration) : Text :=
  let installed := "command -v omarchy-presence-unlock >/dev/null".toList
  let applied :=
    match state with
    | .applied => appliedCondition
    | .unapplied => "! ".toList ++ appliedCondition
  installed ++ (" && ".toList ++ applied)

/-- The quotes of a shell condition, escaped for a JSON string. -/
def escapeQuotes (text : Text) : Text :=
  text.flatMap fun c => if c = '"' then ['\\', '"'] else [c]

/-- One member of a row's object. -/
def field (name value : Text) : Text :=
  '"' :: (name ++ ("\":\"".toList ++ (value ++ ['"'])))

/-- One row. -/
def row (id label description condition command : Text) : Text :=
  let members := List.intercalate [',']
    [field "icon".toList icon, field "label".toList label,
      field "description".toList description, field "when".toList (escapeQuotes condition),
      field "action".toList
        ("omarchy-launch-floating-terminal-with-presentation ".toList ++ command)]
  "  \"".toList ++ id ++ "\": \x7b".toList ++ members ++ ['\x7d']

/-- What a row says. -/
structure Row where
  /-- The member that the row is. -/
  id : Text
  /-- The name of the entry. -/
  label : Text
  /-- What the entry does. -/
  description : Text
  /-- When the entry is shown. -/
  condition : Text
  /-- What the entry runs. -/
  command : Text

/-- The row, as it is written. -/
def Row.text (entry : Row) : Text :=
  row entry.id entry.label entry.description entry.condition entry.command

/-- Shown until setup has run. -/
def setupRow : Row where
  id := setupEntryId
  label := "Presence Unlock".toList
  description := "Set up unlocking with a trusted Bluetooth device".toList
  condition := presenceWhen .unapplied
  command := "omarchy-presence-unlock setup".toList

/-- Shown once setup has run. -/
def manageRow : Row where
  id := manageEntryId
  label := "Presence Unlock".toList
  description := "Enroll a trusted device, manage presence unlock, and run diagnostics".toList
  condition := presenceWhen .applied
  command := "omarchy-presence-unlock".toList

/-- Shown among what can be removed. -/
def removeRow : Row where
  id := removeEntryId
  label := "Presence Unlock".toList
  description := "Remove presence unlock and restore Omarchy's own lock screen".toList
  condition := presenceWhen .applied
  command := "omarchy-presence-unlock uninstall".toList

/-- The three rows. -/
def rows : List Row := [setupRow, manageRow, removeRow]

/-- The rows between the markers. -/
def blockRows : Text := List.intercalate ",\n".toList (rows.map Row.text)

/-- The managed block, on lines of its own. -/
def block : Text :=
  "  ".toList ++ (blockStart ++ ('\n' :: (blockRows ++ ("\n  ".toList ++ (blockEnd ++ ['\n'])))))

/-- What is written for a user without a menu file, before the rows. -/
def emptyExtensions : Text := "\x7b\n\x7d\n".toList

/-- Where the scan is. -/
inductive ScanMode
  | code
  | string (escaped : Bool)
  | lineComment
  | blockComment (previous : Char)
  deriving DecidableEq, Repr

namespace ScanMode

/-- The mode after a character that `next` follows. -/
def step (mode : ScanMode) (c : Char) (next : Option Char) : ScanMode :=
  match mode with
  | .code =>
      if c = '"' then .string false
      else if c = '/' ∧ next = some '/' then .lineComment
      else if c = '/' ∧ next = some '*' then .blockComment ' '
      else .code
  | .string true => .string false
  | .string false =>
      if c = '\\' then .string true else if c = '"' then .code else .string false
  | .lineComment => if c = '\n' then .code else .lineComment
  | .blockComment previous =>
      if previous = '*' ∧ c = '/' then .code else .blockComment c

/-- Whether the scan takes note of a character that `next` follows. -/
def notes (mode : ScanMode) (c : Char) (next : Option Char) : Bool :=
  match mode with
  | .code =>
      if c = '"' then true
      else if c = '/' ∧ next = some '/' then false
      else if c = '/' ∧ next = some '*' then false
      else !Text.isWhitespace c
  | .string escaped => !escaped && c ≠ '\\' && c = '"'
  | .lineComment => false
  | .blockComment _ => false

end ScanMode

/-- The turns of the scan, from a position on. -/
def scan (mode : ScanMode) (position : Nat) (found : Option (Nat × Char)) :
    Text → Option (Nat × Char)
  | [] => found
  | c :: rest =>
      scan (mode.step c rest.head?) (position + 1)
        (if mode.notes c rest.head? then some (position, c) else found) rest

/-- The position of the last character that is neither whitespace nor comment. -/
def lastMeaningful (source : Text) : Option (Nat × Char) := scan .code 0 none source

/-- The mode at the end of a text that `next` follows. -/
def ScanMode.after (mode : ScanMode) (next : Option Char) : Text → ScanMode
  | [] => mode
  | c :: rest => (mode.step c (rest.head?.or next)).after next rest

theorem scan_eq_or (mode : ScanMode) (position : Nat) (found : Option (Nat × Char))
    (source : Text) :
    scan mode position found source = (scan mode position none source).or found := by
  induction source generalizing mode position found with
  | nil => simp [scan]
  | cons c rest induction =>
      rw [scan, scan, induction]
      conv_rhs => rw [induction]
      rw [Option.or_assoc]
      split <;> rfl

/-- What the scan finds is noted where it stands, and nothing after it is. -/
theorem exists_split_of_scan {mode : ScanMode} {start position : Nat} {source : Text} {c : Char}
    (found : scan mode start none source = some (position, c)) :
    ∃ front back, source = front ++ c :: back ∧ position = start + front.length ∧
      (mode.after (some c) front).notes c back.head? = true ∧
      scan ((mode.after (some c) front).step c back.head?) (position + 1) none back = none := by
  induction source generalizing mode start with
  | nil => cases found
  | cons head rest induction =>
      rw [scan, scan_eq_or] at found
      cases later : scan (mode.step head rest.head?) (start + 1) none rest with
      | some last =>
          rw [later, Option.some_or] at found
          obtain rfl := Option.some.inj found
          obtain ⟨front, back, rfl, rfl, noted, quiet⟩ := induction later
          have next : (front ++ c :: back).head? = front.head?.or (some c) := by
            cases front <;> rfl
          rw [next] at noted quiet
          exact ⟨head :: front, back, rfl, by simp; omega, noted, quiet⟩
      | none =>
          rw [later, Option.none_or] at found
          split at found
          · obtain ⟨rfl, rfl⟩ := Prod.mk.inj (Option.some.inj found)
            exact ⟨[], rest, rfl, rfl, ‹_›, later⟩
          · cases found

def malformed : Text :=
  "the presence menu block is malformed; remove it from omarchy-menu.jsonc by hand".toList
def noClosingBrace : Text :=
  "omarchy-menu.jsonc has no closing brace; fix it by hand and rerun setup".toList

/-- Where the line of a position begins, or `whole` if nothing before it ends a line. -/
def lineStart (whole : Nat) (source : Text) (position : Nat) : Nat :=
  match Text.rfind '\n' (source.take position) with
  | none => whole
  | some newline => newline + 1

/-- Where the line of a position ends, with its newline. -/
def lineEnd (source : Text) (position : Nat) : Nat :=
  match Text.find ['\n'] (source.drop position) with
  | none => source.length
  | some newline => position + newline + 1

/-- Drop the comma after the last entry, which only separated the block. -/
def dropTrailingComma (source : Text) : Text :=
  match Text.rfind '\x7d' source with
  | none => source
  | some close =>
      match lastMeaningful (source.take close) with
      | some (position, ',') => source.eraseIdx position
      | _ => source

/-- Remove the managed block, and the comma that only existed to separate it. -/
def renderRemoval (source : Text) : Except Text Text :=
  match Text.find blockStart source, Text.find blockEnd source with
  | some start, some stop =>
      if start > stop then .error malformed
      else
        .ok (dropTrailingComma
          (source.replaceRange (lineStart 0 source start) (lineEnd source stop) []))
  | _, _ => .ok source

/-- Separate the last entry before `close` from one to come. -/
def separate (source : Text) (close : Nat) : Text :=
  match lastMeaningful (source.take close) with
  | some (position, c) =>
      if c ≠ '\x7b' ∧ c ≠ ',' then source.insertStr (position + 1) [','] else source
  | none => source

/-- Append the managed block as the last entry of the root object. -/
def renderEntry (source : Text) : Except Text Text := do
  let rendered ← renderRemoval source
  match Text.rfind '\x7d' rendered with
  | none => .error noClosingBrace
  | some close =>
      let rendered := separate rendered close
      match Text.rfind '\x7d' rendered with
      | none => .error noClosingBrace
      | some close => .ok (rendered.insertStr (lineStart close rendered close) block)

/-- What setup makes of the file that a removal leaves. -/
theorem renderEntry_of_removed {source rendered : Text}
    (removed : renderRemoval source = .ok rendered) :
    renderEntry source = match Text.rfind '\x7d' rendered with
      | none => .error noClosingBrace
      | some close =>
          match Text.rfind '\x7d' (separate rendered close) with
          | none => .error noClosingBrace
          | some close' => .ok ((separate rendered close).insertStr
              (lineStart close' (separate rendered close) close') block) := by
  rw [renderEntry, removed]
  rfl

end PresenceUnlock.Cli.Menu
