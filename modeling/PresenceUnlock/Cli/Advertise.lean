import PresenceUnlock.Cli.Pairing
import PresenceUnlock.Execution
import PresenceUnlock.RustStd.Search

/-!
# Guided enrollment

The computer advertises as a pairable peripheral and enrolls the key of the device that bonds with
it.  Every call to the Bluetooth stack may answer anything, and a cancel is seen wherever the
capture waits; what was asked of the adapter, and what it answered about its devices, is traced.
-/

namespace PresenceUnlock.Cli.Advertise

open RustStd

/-- Why a flow fails. -/
inductive FlowError
  | bluez (message : Text)
  | notPowered (adapter : Text)
  | noController (adapter : Text)
  | noConnection (seconds : UInt64)
  | pairingFailed (message : Text)
  | pairingTimedOut
  | pairingIncomplete
  | capture (error : PairingError)
  | cancelled

/-- The answer to a call. -/
inductive Answer
  | done (result : Except Text Unit)
  | flag (result : Except Text Bool)
  | seconds (result : Except Text UInt32)
  | name (result : Except Text Text)
  | reported (result : Except Text (Option Text))
  | addresses (result : Except Text (List Address))
  | address (result : Except Text Address)
  | captured (result : Except Text CapturedIrk)

/-- What a flow waits for: the answer to its call, the end of a pause, a timeout, or a cancel.  It
also takes steps without waiting, and others may change the configuration. -/
inductive Event (Source : Type)
  | answers (answer : Answer)
  | wakes
  | expires
  | cancels
  | proceeds
  | edited (store : Option Source)

/-- What a flow asks of the adapter that outlives the flow. -/
inductive Request
  | setPairableTimeout (seconds : UInt32)
  | setPairable (pairable : Bool)
  | disconnect (device : Address)
  | removeDevice (device : Address)
  deriving DecidableEq

/-- What the trace of a flow keeps: the settings it read, a window it opened, the devices it was
told are live before and after the capture, its commit point, and its requests. -/
inductive Note
  | readPairable (pairable : Bool)
  | readTimeout (seconds : UInt32)
  | opened
  | recorded (device : Address)
  | committed (enrolled : Option Text)
  | found (device : Address)
  | requested (request : Request)
  deriving DecidableEq

/-- What one guided enrollment is enrolling, and on which adapter. -/
structure Guided where
  /-- The profile to enroll under. -/
  profile : Text
  /-- The name of a device that tells none. -/
  fallback : Text
  /-- The id, if the user gave one. -/
  id : Option Text
  /-- Whether the device is to be saved. -/
  save : Bool
  /-- The configured adapter. -/
  adapter : Text
  /-- How long the capture may take. -/
  timeoutSecs : UInt64

variable {Source : Type}

namespace Event

/-- The answer of a call without a result. -/
def done : Event Source → Option (Except Text Unit)
  | .answers (.done result) => some result
  | _ => none

/-- The answer of a yes-or-no question. -/
def flag : Event Source → Option (Except Text Bool)
  | .answers (.flag result) => some result
  | _ => none

/-- The answer that is a time. -/
def seconds : Event Source → Option (Except Text UInt32)
  | .answers (.seconds result) => some result
  | _ => none

/-- The answer that is a name. -/
def name : Event Source → Option (Except Text Text)
  | .answers (.name result) => some result
  | _ => none

/-- The answer that may be a name. -/
def reported : Event Source → Option (Except Text (Option Text))
  | .answers (.reported result) => some result
  | _ => none

/-- The answer that lists devices. -/
def addresses : Event Source → Option (Except Text (List Address))
  | .answers (.addresses result) => some result
  | _ => none

/-- The answer that is one device. -/
def address : Event Source → Option (Except Text Address)
  | .answers (.address result) => some result
  | _ => none

/-- The answer of the monitor. -/
def captured : Event Source → Option (Except Text CapturedIrk)
  | .answers (.captured result) => some result
  | _ => none

end Event

/-- What a device is asked: its handle, whether it is connected, and whether it is paired. -/
inductive Query
  | handle
  | connected
  | paired
  deriving DecidableEq

/-- What an answer means: another question, or the end of the questions. -/
inductive Asked
  | pending (query : Query)
  | decided (found : Bool)

namespace Query

/-- Whether a device is connected or paired; a failed call counts as a no. -/
def live (event : Event Source) : Query → Option Asked
  | .handle => event.done.map fun
      | .ok () => .pending .connected
      | .error _ => .decided false
  | .connected => event.flag.map fun result =>
      if result.toOption.getD false then .decided true else .pending .paired
  | .paired => event.flag.map fun result => .decided (result.toOption.getD false)

/-- Whether a device is connected and not yet paired. -/
def incoming (event : Event Source) : Query → Option Asked
  | .handle => event.done.map fun
      | .ok () => .pending .connected
      | .error _ => .decided false
  | .connected => event.flag.map fun result =>
      if result.toOption.getD false then .pending .paired else .decided false
  | .paired => event.flag.map fun result => .decided !(result.toOption.getD false)

end Query

/-- Where `active_capture` is: the call or the pause it waits for, up to the enrollment. -/
inductive Stage
  | starting
  | monitor
  | agent
  | application
  | advertisement
  | listing
  | asking (rest : List Address) (device : Address) (query : Query)
  | pausing
  | greeting (device : Address)
  | pairing (device : Address)
  | awaitingPaired (device : Address)
  | pausingPaired (device : Address)
  | identifying (device : Address)
  | capturing (device : Address) (identity : Option Address)
  | naming (key : Key)
  | aliasing (key : Key)
  | deadline (key : Key)
  | pausingName (key : Key)

/-- How a stage ends: with another one, with a key to be saved, or with an error. -/
inductive Turn
  | pends (stage : Stage)
  | saves (key : Key) (peerName : Option Text)
  | fails (error : FlowError)

/-- `char::is_ascii_hexdigit`. -/
def isAsciiHexdigit (c : Char) : Bool := (Text.toDigit 16 c).isSome

/-- Whether a text is a Bluetooth address rather than a name. -/
def looksLikeAddress (text : Text) : Bool :=
  let fields := text.splitOnP fun c => c == '-' || c == ':'
  (fields.all fun field => Text.len field = 2 && field.all isAsciiHexdigit) && fields.length = 6

/-- A peer's own name, if it has given one. -/
def reportedName (candidate : Option Text) : Option Text :=
  (candidate.map Text.trim).filter fun trimmed => trimmed ≠ [] && !looksLikeAddress trimmed

/-- The number of an adapter that is named `hci` and a number. -/
def adapterIndex (name : Text) : Option UInt16 :=
  ((Text.stripPrefix "hci".toList name).bind
    (Text.unsignedFromStrRadix 10 65536)).map UInt16.ofNat

/-- A peer that got there first is success arriving out of order. -/
def outOfOrder (message : Text) : Bool :=
  Text.contains "InProgress".toList message || Text.contains "AlreadyExists".toList message

/-- The next device that was not established when the flow started. -/
def seek (established : List Address) : List Address → Stage
  | [] => .pausing
  | device :: rest =>
      if device ∈ established then seek established rest else .asking rest device .handle

/-- A call that has to succeed. -/
def attempt {α : Type} (result : Option (Except Text α)) (pending : Stage) (next : α → Turn) :
    Turn :=
  match result with
  | none => .pends pending
  | some (.error message) => .fails (.bluez message)
  | some (.ok value) => next value

namespace Stage

/-- A cancel is seen wherever the capture waits. -/
def waits : Stage → Bool
  | .deadline _ => false
  | _ => true

variable (crates : Crates) (guided : Guided) (established : List Address)

/-- The connection that is waited for may time out. -/
def connection (event : Event Source) (turn : Turn) : Turn :=
  match event with
  | .expires => .fails (.noConnection guided.timeoutSecs)
  | _ => turn

/-- One step of `active_capture` up to the enrollment. -/
def next (event : Event Source) : Stage → Turn
  | .starting =>
      match event with
      | .proceeds =>
          match adapterIndex guided.adapter with
          | none => .fails (.noController guided.adapter)
          | some _ => .pends .monitor
      | _ => .pends .starting
  | .monitor => attempt event.done .monitor fun _ => .pends .agent
  | .agent => attempt event.done .agent fun _ => .pends .application
  | .application => attempt event.done .application fun _ => .pends .advertisement
  | .advertisement => attempt event.done .advertisement fun _ => .pends .listing
  | .listing =>
      connection guided event <|
        attempt event.addresses .listing fun addresses => .pends (seek established addresses)
  | .asking rest device query =>
      connection guided event <|
        match query.incoming event with
        | none => .pends (.asking rest device query)
        | some (.pending query) => .pends (.asking rest device query)
        | some (.decided true) => .pends (.greeting device)
        | some (.decided false) => .pends (seek established rest)
  | .pausing =>
      connection guided event <|
        match event with
        | .wakes => .pends .listing
        | _ => .pends .pausing
  | .greeting device =>
      match event.name with
      | none => .pends (.greeting device)
      | some _ => .pends (.pairing device)
  | .pairing device =>
      match event, event.done with
      | .expires, _ => .fails .pairingTimedOut
      | _, none => .pends (.pairing device)
      | _, some (.ok _) => .pends (.identifying device)
      | _, some (.error message) =>
          if outOfOrder message then .pends (.awaitingPaired device)
          else .fails (.pairingFailed message)
  | .awaitingPaired device =>
      match event, event.flag with
      | .expires, _ => .fails .pairingIncomplete
      | _, none => .pends (.awaitingPaired device)
      | _, some result =>
          if result.toOption.getD false then .pends (.identifying device)
          else .pends (.pausingPaired device)
  | .pausingPaired device =>
      match event with
      | .expires => .fails .pairingIncomplete
      | .wakes => .pends (.awaitingPaired device)
      | _ => .pends (.pausingPaired device)
  | .identifying device =>
      match event, event.address with
      | .expires, _ => .fails (.capture .noIrk)
      | _, none => .pends (.identifying device)
      | _, some result => .pends (.capturing device result.toOption)
  | .capturing device identity =>
      match event with
      | .expires => .fails (.capture .noIrk)
      | event =>
          attempt event.captured (.capturing device identity) fun capture =>
            if belongsToPeer device identity capture then
              match selfCheck crates capture.key device with
              | .error error => .fails (.capture error)
              | .ok _ => .pends (.naming capture.key)
            else .pends (.capturing device identity)
  | .naming key =>
      match event.reported with
      | none => .pends (.naming key)
      | some result =>
          match reportedName (result.toOption.bind id) with
          | some name => .saves key (some name)
          | none => .pends (.aliasing key)
  | .aliasing key =>
      match event.name with
      | none => .pends (.aliasing key)
      | some result =>
          match reportedName result.toOption with
          | some name => .saves key (some name)
          | none => .pends (.deadline key)
  | .deadline key =>
      match event with
      | .expires => .saves key none
      | .proceeds => .pends (.pausingName key)
      | _ => .pends (.deadline key)
  | .pausingName key =>
      match event with
      | .wakes => .pends (.naming key)
      | _ => .pends (.pausingName key)

end Stage

/-- The settings of the adapter that the flow overrides. -/
structure Pairability where
  /-- Whether the adapter accepts pairings. -/
  pairable : Bool
  /-- For how long. -/
  timeout : UInt32

/-- What the flow read before it opened the window. -/
structure Before where
  /-- The devices that had a relationship. -/
  established : List Address
  /-- The settings. -/
  pairability : Pairability

/-- How the capture ended, and whether its flag was set. -/
structure Ending where
  /-- The flag. -/
  enrolled : Bool
  /-- What the capture returned. -/
  result : Except FlowError Unit

/-- What is done to a device that the flow left behind. -/
inductive Cleaning
  | waiting
  | checking
  | disconnecting
  | settling
  | removing
  deriving DecidableEq

/-- Where the flow is. -/
inductive Phase
  | session
  | adapter
  | powered
  | naming
  | establishing
  | examining (established rest : List Address) (device : Address) (query : Query)
  | readingPairable (established : List Address)
  | readingTimeout (established : List Address) (pairable : Bool)
  | widening (before : Before)
  | opening (before : Before)
  | narrowing (before : Before) (message : Text)
  | capturing (before : Before) (stage : Stage)
  | saving (before : Before) (key : Key) (peerName : Option Text)
  | flagging (before : Before)
  | sweeping (before : Before) (ending : Ending)
  | asking (before : Before) (ending : Ending) (rest : List Address) (device : Address)
      (query : Query)
  | cleaning (before : Before) (ending : Ending) (rest : List Address) (device : Address)
      (cleaning : Cleaning)
  | restoringTimeout (before : Before) (ending : Ending) (attempts : Nat)
  | restoringPairable (before : Before) (ending : Ending) (attempts : Nat) (timeoutSet : Bool)
  | pausing (before : Before) (ending : Ending) (attempts : Nat)
  | returned (result : Except FlowError Unit)

/-- Go on with the snapshot of the devices that are live already. -/
def examine (established : List Address) : List Address → Phase
  | [] => .readingPairable established
  | device :: rest => .examining established rest device .handle

/-- Go on with the cleanup, which leaves established devices alone. -/
def sweep (before : Before) (ending : Ending) : List Address → Phase
  | [] => .restoringTimeout before ending 0
  | device :: rest =>
      if device ∈ before.established then sweep before ending rest
      else .asking before ending rest device .handle

/-- A call that has to succeed. -/
def demand {α : Type} (result : Option (Except Text α)) (pending : Phase)
    (next : α → Phase × List Note) : Phase × List Note :=
  match result with
  | none => (pending, [])
  | some (.error message) => (.returned (.error (.bluez message)), [])
  | some (.ok value) => next value

/-- A request, whatever becomes of it. -/
def request (event : Event Source) (request : Request) (pending : Phase)
    (next : Except Text Unit → Phase) : Phase × List Note :=
  match event.done with
  | none => (pending, [])
  | some result => (next result, [.requested request])

/-- How often the settings are tried to be restored. -/
def restoreAttempts : Nat := 10

/-- How long the adapter stays pairable by itself: the wait and a margin. -/
def window (guided : Guided) : UInt32 :=
  UInt32.ofNat (min (min (guided.timeoutSecs.toNat + 60) (2 ^ 64 - 1)) (2 ^ 32 - 1))

/-- The result of the flow. -/
def Ending.answer (ending : Ending) : Except FlowError Unit :=
  if ending.enrolled then .ok () else ending.result

/-- One step of the flow, before the capture and after it. -/
def Phase.next (guided : Guided) (event : Event Source) : Phase → Phase × List Note
  | .session => demand event.done .session fun _ => (.adapter, [])
  | .adapter => demand event.done .adapter fun _ => (.powered, [])
  | .powered =>
      demand event.flag .powered fun powered =>
        if powered then (.naming, [])
        else (.returned (.error (.notPowered guided.adapter)), [])
  | .naming => demand event.name .naming fun _ => (.establishing, [])
  | .establishing =>
      demand event.addresses .establishing fun addresses => (examine [] addresses, [])
  | .examining established rest device query =>
      match query.live event with
      | none => (.examining established rest device query, [])
      | some (.pending query) => (.examining established rest device query, [])
      | some (.decided true) => (examine (device :: established) rest, [.recorded device])
      | some (.decided false) => (examine established rest, [])
  | .readingPairable established =>
      demand event.flag (.readingPairable established) fun pairable =>
        (.readingTimeout established pairable, [.readPairable pairable])
  | .readingTimeout established pairable =>
      demand event.seconds (.readingTimeout established pairable) fun seconds =>
        (.widening ⟨established, pairable, seconds⟩, [.readTimeout seconds])
  | .widening before =>
      request event (.setPairableTimeout (window guided)) (.widening before) fun
        | .ok _ => .opening before
        | .error message => .returned (.error (.bluez message))
  | .opening before =>
      match event.done with
      | none => (.opening before, [])
      | some (.ok _) => (.capturing before .starting, [.requested (.setPairable true), .opened])
      | some (.error message) => (.narrowing before message, [.requested (.setPairable true)])
  | .narrowing before message =>
      request event (.setPairableTimeout before.pairability.timeout) (.narrowing before message)
        fun _ => .returned (.error (.bluez message))
  | .capturing before stage => (.capturing before stage, [])
  | .saving before key peerName => (.saving before key peerName, [])
  | .flagging before => (.flagging before, [])
  | .sweeping before ending =>
      match event.addresses with
      | none => (.sweeping before ending, [])
      | some (.error _) => (.restoringTimeout before ending 0, [])
      | some (.ok addresses) => (sweep before ending addresses, [])
  | .asking before ending rest device query =>
      match query.live event with
      | none => (.asking before ending rest device query, [])
      | some (.pending query) => (.asking before ending rest device query, [])
      | some (.decided true) => (.cleaning before ending rest device .waiting, [.found device])
      | some (.decided false) => (sweep before ending rest, [])
  | .cleaning before ending rest device .waiting =>
      match event with
      | .wakes => (.cleaning before ending rest device .checking, [])
      | _ => (.cleaning before ending rest device .waiting, [])
  | .cleaning before ending rest device .checking =>
      match event.flag with
      | none => (.cleaning before ending rest device .checking, [])
      | some result =>
          if result.toOption.getD false then
            (.cleaning before ending rest device .disconnecting, [])
          else (.cleaning before ending rest device .settling, [])
  | .cleaning before ending rest device .disconnecting =>
      request event (.disconnect device) (.cleaning before ending rest device .disconnecting)
        fun _ => .cleaning before ending rest device .settling
  | .cleaning before ending rest device .settling =>
      match event with
      | .wakes => (.cleaning before ending rest device .removing, [])
      | _ => (.cleaning before ending rest device .settling, [])
  | .cleaning before ending rest device .removing =>
      request event (.removeDevice device) (.cleaning before ending rest device .removing)
        fun _ => sweep before ending rest
  | .restoringTimeout before ending attempts =>
      request event (.setPairableTimeout before.pairability.timeout)
        (.restoringTimeout before ending attempts)
        fun result => .restoringPairable before ending attempts result.toBool
  -- the second write is tried even where the first one failed
  | .restoringPairable before ending attempts timeoutSet =>
      request event (.setPairable before.pairability.pairable)
        (.restoringPairable before ending attempts timeoutSet)
        fun result =>
          if (timeoutSet && result.toBool) || attempts + 1 = restoreAttempts then
            .returned ending.answer
          else .pausing before ending (attempts + 1)
  | .pausing before ending attempts =>
      match event with
      | .wakes => (.restoringTimeout before ending attempts, [])
      | _ => (.pausing before ending attempts, [])
  | .returned result => (.returned result, [])

/-- The flow, its flag, the configuration, and the trace. -/
structure Flow (Source : Type) where
  /-- Where the flow is. -/
  phase : Phase
  /-- The flag. -/
  saved : Bool
  /-- The configuration. -/
  store : Option Source
  /-- What the flow has done. -/
  trace : List Note

namespace Flow

/-- The flow moves on, with what it does. -/
def goto (flow : Flow Source) (move : Phase × List Note) : Flow Source :=
  { flow with phase := move.1, trace := flow.trace ++ move.2 }

/-- The end of the capture; the flag is read right after it. -/
def leave (flow : Flow Source) (before : Before) (result : Except FlowError Unit) : Flow Source :=
  flow.goto (.sweeping before ⟨flow.saved, result⟩, [])

variable [DecidableEq Source] (crates : Crates) (toml : Toml Source) (guided : Guided)

/-- What saving makes of the configuration. -/
def save (key : Key) (peerName : Option Text) (store : Option Source) :
    Except PairingError (Option Text) × Option Source :=
  saveIrk crates toml key guided.profile guided.id (peerName.or (some guided.fallback)) guided.save
    store

/-- The enrollment, which is the commit point of the capture. -/
def enroll (flow : Flow Source) (before : Before) (key : Key) (peerName : Option Text) :
    Flow Source :=
  let saved := save crates toml guided key peerName flow.store
  match saved.1 with
  | .ok enrolled =>
      { flow with store := saved.2 }.goto (.flagging before, [.committed enrolled])
  | .error error => { flow with store := saved.2 }.leave before (.error (.capture error))

/-- One step of the flow, or of someone else who changes the configuration.  Nothing is waited for
between the enrollment and the flag. -/
def step (flow : Flow Source) (event : Event Source) : Flow Source :=
  match event, flow.phase with
  | .edited store, _ => { flow with store := store }
  | .cancels, .capturing before stage =>
      if stage.waits then flow.leave before (.error .cancelled) else flow
  | event, .capturing before stage =>
      match stage.next crates guided before.established event with
      | .pends stage => flow.goto (.capturing before stage, [])
      | .saves key peerName => flow.goto (.saving before key peerName, [])
      | .fails error => flow.leave before (.error error)
  | .proceeds, .saving before key peerName =>
      flow.enroll crates toml guided before key peerName
  | .proceeds, .flagging before => { flow with saved := true }.leave before (.ok ())
  | event, phase => flow.goto (phase.next guided event)

end Flow

end PresenceUnlock.Cli.Advertise
