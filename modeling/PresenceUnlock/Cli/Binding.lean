import PresenceUnlock.RustStd.Search

/-!
# The block in the bindings file

The key binding that reports the unlock gesture stands in the user's bindings file between two
markers.  Setup writes the block, removal takes it back.
-/

namespace PresenceUnlock.Cli.Binding

open RustStd

def blockStart : Text := "-- omarchy-presence-unlock:start".toList
def blockEnd : Text := "-- omarchy-presence-unlock:end".toList

/-- What stands between the markers. -/
def blockBody : Text :=
  "\nfor _, presence_key in ipairs(".toList ++ ("\x7b \"ALT_L\", \"ALT_R\" \x7d) do\n".toList ++
  ("  o.bind(presence_key, \"Presence unlock\", ".toList ++
  ("\"omarchy-shell -q presence-unlock hold\", \x7b\n".toList ++
  ("    locked = true,\n    ignore_mods = true,\n".toList ++
  ("    non_consuming = true,\n  \x7d)\n".toList ++
  ("  o.bind(\"ALT + \" .. presence_key, ".toList ++ ("\"Presence unlock release\", ".toList ++
  ("\"omarchy-shell -q presence-unlock release\", \x7b\n".toList ++
  ("    locked = true,\n    release = true,\n".toList ++
  "    non_consuming = true,\n  \x7d)\nend\n".toList)))))))))

/-- The block, from marker to marker. -/
def block : Text := blockStart ++ (blockBody ++ blockEnd)

def incomplete (path : Text) : Text :=
  path ++ " contains an incomplete or duplicate presence-unlock block".toList
def malformed (path : Text) : Text :=
  path ++ " contains a malformed presence-unlock block; remove it by hand".toList

/-- Write the block: at the end of a file without one, else in place of the only one. -/
def render (path source : Text) : Except Text Text :=
  match Text.matchIndices blockStart source, Text.matchIndices blockEnd source with
  | [], [] =>
      let output := if source ≠ [] ∧ ¬ ['\n'] <:+ source then source ++ ['\n'] else source
      let output := if output ≠ [] ∧ ¬ ['\n', '\n'] <:+ output then output ++ ['\n'] else output
      .ok (output ++ block ++ ['\n'])
  | [start], [stop] =>
      if start < stop then
        .ok (source.replaceRange start (stop + blockEnd.length) block)
      else .error (incomplete path)
  | _, _ => .error (incomplete path)

/-- Take the block out again, with the blank space at the end of the file. -/
def removal (path source : Text) : Except Text Text :=
  match Text.find blockStart source, Text.find blockEnd source with
  | some start, some stop =>
      if start > stop then .error (malformed path)
      else
        .ok ((source.replaceRange start (stop + blockEnd.length) []).trimEnd ++ ['\n'])
  | _, _ => .ok source

end PresenceUnlock.Cli.Binding
