import PresenceUnlock.RustStd.Number

/-!
# The control-socket wire protocol

Requests are one line.  `CHECK` answers with one line; `STATUS` answers with `DEVICE` lines, the
aggregate, and a terminator.
-/

namespace PresenceUnlock.Wire

open RustStd

def reqCheck : Text := "CHECK 1\n".toList
def reqStatus : Text := "STATUS 1\n".toList
def respAllow : Text := "ALLOW\n".toList
def respEnd : Text := "END\n".toList

def deviceWord : Text := "DEVICE".toList
def allowWord : Text := "ALLOW".toList
def denyWord : Text := "DENY".toList
def endWord : Text := "END".toList
def rssiKey : Text := "rssi=".toList

/-- A refusal; `reason` is a stable machine-readable token. -/
def deny (reason : Text) : Text := denyWord ++ [' '] ++ reason ++ ['\n']

def denyProtocol : Text := "protocol".toList
def denyNoDevice : Text := "no-device".toList
def denyStale : Text := "stale".toList
def denyInsufficientSamples : Text := "insufficient-samples".toList
def denyDeviceLocked : Text := "device-locked".toList
def denyMultiDeviceAuth : Text := "multi-device-auth".toList

/-- One `STATUS` row: `DEVICE <id> <profile> <ALLOW|DENY reason> rssi=<dbm|->`. -/
def deviceStatus (id profile decision : Text) (rssi : Option Int16) : Text :=
  deviceWord ++ [' '] ++ id ++ [' '] ++ profile ++ [' '] ++ decision ++ [' '] ++ rssiKey ++
    match rssi with
    | some dbm => Text.ofInt dbm.toInt ++ ['\n']
    | none => ['-', '\n']

/-- A parsed `STATUS` device row. -/
structure DeviceRow where
  /-- The name of the device. -/
  id : Text
  /-- The id of its profile. -/
  profile : Text
  /-- Whether it is present. -/
  allowed : Bool
  /-- Why it is not. -/
  reason : Option Text
  /-- The last signal of it. -/
  rssi : Option Int16
  deriving DecidableEq, Repr

/-- The verdict fields of a row: whether it allows, its reason, and the signal field. -/
def parseVerdict : List Text → Option (Bool × Option Text × Text × List Text)
  | verdict :: rssi :: fields =>
      if verdict = allowWord then some (true, none, rssi, fields)
      else if verdict = denyWord then
        match fields with
        | [] => none
        | denied :: fields => some (false, some rssi, denied, fields)
      else none
  | _ => none

/-- The value of the signal field. -/
def parseRssi (field : Text) : Option (Option Int16) := do
  let value ← Text.stripPrefix rssiKey field
  if value = ['-'] then some none else (Text.parseI16 value).map some

/-- Parse one `STATUS` device row. -/
def parseDeviceStatus (line : Text) : Option DeviceRow :=
  let line : Text := (Text.stripSuffix ['\n'] line).getD line
  match line.splitAsciiWhitespace with
  | kind :: id :: profile :: fields =>
      if kind ≠ deviceWord then none
      else do
        let (allowed, reason, rssi, fields) ← parseVerdict fields
        if fields ≠ [] then none
        else do
          let rssi ← parseRssi rssi
          some { id, profile, allowed, reason, rssi }
  | _ => none

/-- A parsed aggregate decision line. -/
inductive Aggregate
  | allow
  | deny (reason : Text)
  deriving DecidableEq, Repr

/-- Parse a bare aggregate line: `ALLOW`, or `DENY <reason>`. -/
def parseDecision (line : Text) : Option Aggregate :=
  let line : Text := (Text.stripSuffix ['\n'] line).getD line
  match line.splitAsciiWhitespace with
  | [verdict] => if verdict = allowWord then some .allow else none
  | [verdict, reason] => if verdict = denyWord then some (.deny reason) else none
  | _ => none

end PresenceUnlock.Wire
