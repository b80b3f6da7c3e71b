import PresenceUnlock.Protocol.Obstacle

/-!
# The control socket

One request line in, one response out.
-/

namespace PresenceUnlock

open RustStd

/-- The byte that ends a line. -/
def newline : UInt8 := 0x0A

namespace Control

/-- The longest request that is read. -/
def maxRequestBytes : Nat := 64

/-- The line of a decision. -/
def render : Decision → Text
  | .allow => Wire.respAllow
  | .deny reason => Wire.deny reason

/-- The verdict words of one `DEVICE` row. -/
def verdictText : Decision → Text
  | .allow => Wire.allowWord
  | .deny reason => Wire.denyWord ++ [' '] ++ reason

/-- The line of a device. -/
def renderRow (status : DeviceStatus) : Text :=
  Wire.deviceStatus status.id status.profile.val.id (verdictText status.decision) status.rssi

/-- A `DEVICE` line per configured device, then the aggregate, then `END`. -/
def status (fleet : Fleet) (nowMs : UInt64) : Text :=
  (fleet.report nowMs).flatMap renderRow ++ render (fleet.check nowMs) ++ Wire.respEnd

/-- The answer to a request. -/
def respond (request : Text) (fleet : Fleet) (nowMs : UInt64) : Text :=
  if request = Wire.reqCheck then render (fleet.check nowMs)
  else if request = Wire.reqStatus then status fleet nowMs
  else Wire.deny Wire.denyProtocol

/-- Whether the request line is still being read, and what has been read of it. -/
inductive RequestLine
  | reading (line : List UInt8)
  | complete (line : List UInt8)
  deriving DecidableEq

/-- `read_line` on the bounded stream, after one more nonempty read. -/
def RequestLine.extend (line chunk : List UInt8) : RequestLine :=
  let line := line ++ chunk.take (maxRequestBytes - line.length)
  match line.findIdx? (· == newline) with
  | some index => .complete (line.take (index + 1))
  | none => if line.length = maxRequestBytes then .complete line else .reading line

/-- The bytes written back; a request that is not UTF-8 is dropped without an answer. -/
def answer (line : List UInt8) (fleet : Fleet) (nowMs : UInt64) : List UInt8 :=
  match Text.fromUtf8 line with
  | none => []
  | some request => (respond request fleet nowMs).asBytes

theorem answer_reqCheck (fleet : Fleet) (nowMs : UInt64) :
    answer Wire.reqCheck.asBytes fleet nowMs = (render (fleet.check nowMs)).asBytes := by
  simp [answer, respond]

end Control

namespace Wire

/-- Every reason a fleet gives. -/
def fleetReasons : List Text :=
  [denyNoDevice, denyStale, denyInsufficientSamples, denyDeviceLocked, denyMultiDeviceAuth]

end Wire

theorem Wire.fleetReasons_of_obstacle :
    ∀ reason ∈ Decision.obstacles, reason ∈ Wire.fleetReasons := by decide

theorem Eligibility.reason_of_check {state : Eligibility} {nowMs : UInt64} {policy : Policy}
    {reason : Text} (denies : state.check nowMs policy = .deny reason) :
    reason ∈ Wire.fleetReasons :=
  Wire.fleetReasons_of_obstacle reason (obstacle_of_check denies)

theorem Fleet.reason_of_check {fleet : Fleet} {nowMs : UInt64} {reason : Text}
    (denies : fleet.check nowMs = .deny reason) : reason ∈ Wire.fleetReasons := by
  unfold check at denies
  split at denies
  · cases denies
    exact List.mem_cons_self
  dsimp only at denies
  split at denies
  · cases denies
  split at denies <;> cases denies
  · simp only [Wire.fleetReasons, List.mem_cons, true_or, or_true]
  · rcases (fleet.covers_tally nowMs).given with start | given
    · rw [start]
      exact List.mem_cons_self
    · exact Wire.fleetReasons_of_obstacle _ (obstacle_of_mem_decisions given)

end PresenceUnlock
