import PresenceUnlock.Daemon.Control
import PresenceUnlock.Execution

/-!
# The PAM side of the exchange

The module writes one request and accumulates one reply line in a fixed buffer.  Both loops are
state machines over the outcomes of their system calls.
-/

namespace PresenceUnlock.Pam

open RustStd Execution

/-- The size of the reply buffer. -/
def maxReplyBytes : Nat := 64

/-- What the daemon may answer. -/
inductive Reply
  | allow
  | deny
  deriving DecidableEq, Repr

/-- What the module returns. -/
inductive PamReturnCode
  | success
  | authErr
  | authinfoUnavail
  deriving DecidableEq, Repr

/-- `u8::is_ascii_graphic`. -/
def isAsciiGraphic (byte : UInt8) : Bool := 0x21 ≤ byte && byte ≤ 0x7E

def denyPrefix : Text := "DENY ".toList

/-- The answer, if it is one. -/
def parseReply (reply : List UInt8) : Option Reply :=
  if reply = Wire.respAllow.asBytes then
    some .allow
  else do
    let rest ← Text.stripPrefix denyPrefix.asBytes reply
    let reason ← Text.stripSuffix [newline] rest
    if reason ≠ [] ∧ reason.all isAsciiGraphic then some .deny else none

/-- What the module makes of an answer. -/
def replyResult : Reply → PamReturnCode
  | .allow => .success
  | .deny => .authErr

/-- What `authenticate` returns for the outcome of the exchange. -/
def exchangeResult : Option Reply → PamReturnCode
  | some reply => replyResult reply
  | none => .authinfoUnavail

/-- A complete refusal line: `DENY `, a reason of graphic characters, and the newline. -/
def IsRefusal (line : List UInt8) : Prop :=
  ∃ reason, reason ≠ [] ∧ (∀ byte ∈ reason, isAsciiGraphic byte = true) ∧
    line = denyPrefix.asBytes ++ reason ++ [newline]

theorem parseReply_eq_allow {reply : List UInt8} (read : parseReply reply = some .allow) :
    reply = Wire.respAllow.asBytes := by
  unfold parseReply at read
  split at read
  · assumption
  · simp only [Option.bind_eq_bind, Option.bind_eq_some_iff] at read
    obtain ⟨_, _, _, _, outcome⟩ := read
    split at outcome <;> cases outcome

theorem parseReply_eq_deny {reply : List UInt8} (read : parseReply reply = some .deny) :
    IsRefusal reply := by
  unfold parseReply at read
  split at read
  · cases read
  · simp only [Option.bind_eq_bind, Option.bind_eq_some_iff] at read
    obtain ⟨rest, stripped, reason, ended, outcome⟩ := read
    split at outcome
    · rename_i graphic
      rw [Text.stripPrefix_eq_some] at stripped
      rw [Text.stripSuffix_eq_some] at ended
      refine ⟨reason, graphic.1, List.all_eq_true.mp graphic.2, ?_⟩
      rw [stripped, ended, List.append_assoc]
    · cases outcome

theorem parseReply_of_isRefusal {reply : List UInt8} (refusal : IsRefusal reply) :
    parseReply reply = some .deny := by
  obtain ⟨reason, nonempty, graphic, rfl⟩ := refusal
  have not_allow : denyPrefix.asBytes ++ reason ++ [newline] ≠ Wire.respAllow.asBytes := by
    intro same
    have head := congrArg List.head? same
    rw [List.append_assoc, List.head?_append_of_ne_nil _ (by decide)] at head
    exact absurd head (by decide)
  rw [parseReply, if_neg not_allow, List.append_assoc, Text.stripPrefix_append, Option.bind_eq_bind,
    Option.bind_some, Text.stripSuffix_append, Option.bind_some,
    if_pos ⟨nonempty, List.all_eq_true.mpr graphic⟩]

/-- Where the exchange stands. -/
inductive State
  | writing (rest : List UInt8)
  | reading (received : List UInt8)
  | finished (reply : Option Reply)
  deriving DecidableEq

/-- The write loop after one `write` that took `written` bytes. -/
def afterWrite (rest : List UInt8) (written : Nat) : State :=
  if written = 0 then .finished none
  else
    match rest.drop written with
    | [] => .reading []
    | rest => .writing rest

/-- The read loop after one `read` that returned `chunk`; an empty one is the end of the stream. -/
def afterRead (received chunk : List UInt8) : State :=
  if chunk = [] then .finished none
  else
    let received := received ++ chunk
    match received.findIdx? (· == newline) with
    | some index =>
        .finished (if index + 1 = received.length then parseReply received else none)
    | none => if received.length = maxReplyBytes then .finished none else .reading received

/-- Without a newline there is nothing to find. -/
theorem findIdx?_of_incomplete {bytes : List UInt8} (incomplete : newline ∉ bytes) :
    bytes.findIdx? (· == newline) = none := by
  rw [List.findIdx?_eq_none_iff]
  intro byte member
  simpa using fun same : byte = newline => incomplete (same ▸ member)

theorem findIdx?_line {front : List UInt8} (single : newline ∉ front)
    (rest : List UInt8) :
    (front ++ newline :: rest).findIdx? (· == newline) = some front.length := by
  simp [List.findIdx?_append, findIdx?_of_incomplete single, List.findIdx?_cons]

/-- The first newline ends the exchange; anything after it spoils the reply. -/
theorem afterRead_of_line {received chunk front rest : List UInt8} (nonempty : chunk ≠ [])
    (single : newline ∉ front) (line : received ++ chunk = front ++ newline :: rest) :
    afterRead received chunk =
      .finished (if rest = [] then parseReply (front ++ [newline]) else none) := by
  rw [afterRead, if_neg nonempty]
  simp only [line, findIdx?_line single]
  cases rest with
  | nil => simp
  | cons byte rest => simp

/-- Without a newline the loop goes on until the buffer is full. -/
theorem afterRead_of_incomplete {received chunk : List UInt8} (nonempty : chunk ≠ [])
    (incomplete : newline ∉ received ++ chunk) :
    afterRead received chunk =
      if (received ++ chunk).length = maxReplyBytes then .finished none
      else .reading (received ++ chunk) := by
  rw [afterRead, if_neg nonempty]
  simp only [findIdx?_of_incomplete incomplete]

/-- How one turn of the read loop ends: with up to `extra + 1` bytes or the end of the stream, with
`WouldBlock`, with an error, or without the descriptor having become readable in time. -/
inductive ReadEvent
  | ready (extra : Nat)
  | wouldBlock
  | error
  | notReady

/-- The reader, and what the peer has still to send before it closes. -/
structure Reader where
  /-- The reader. -/
  state : State
  /-- What is still to come. -/
  stream : List UInt8

namespace Reader

/-- Nothing has been read. -/
def start (stream : List UInt8) : Reader := ⟨.reading [], stream⟩

/-- One turn of `read_reply_until_deadline`; `read` fills at most the unused part of the buffer. -/
def step (reader : Reader) (event : ReadEvent) : Reader :=
  match reader.state with
  | .reading received =>
      match event with
      | .ready extra =>
          let count := min (extra + 1) (maxReplyBytes - received.length)
          ⟨afterRead received (reader.stream.take count), reader.stream.drop count⟩
      | .wouldBlock => reader
      | .error => { reader with state := .finished none }
      | .notReady => { reader with state := .finished none }
  | _ => reader

/-- What is known of a reader whose peer sends `stream` in all. -/
inductive Consistent (stream : List UInt8) : Reader → Prop
  | reading {received rest : List UInt8} (parts : received ++ rest = stream)
      (incomplete : newline ∉ received) (room : received.length < maxReplyBytes) :
      Consistent stream ⟨.reading received, rest⟩
  | failed {rest : List UInt8} : Consistent stream ⟨.finished none, rest⟩
  | parsed {line rest : List UInt8} (parts : line ++ rest = stream)
      (short : line.length ≤ maxReplyBytes) :
      Consistent stream ⟨.finished (parseReply line), rest⟩

theorem consistent_start (stream : List UInt8) : Consistent stream (start stream) :=
  .reading rfl (by simp) (by decide)

/-- A read into the free part of the buffer keeps what is known. -/
theorem consistent_afterRead {stream received chunk rest : List UInt8}
    (parts : received ++ (chunk ++ rest) = stream)
    (fits : (received ++ chunk).length ≤ maxReplyBytes) :
    Consistent stream ⟨afterRead received chunk, rest⟩ := by
  rw [← List.append_assoc] at parts
  by_cases empty : chunk = []
  · rw [afterRead, if_pos empty]
    exact .failed
  by_cases ended : newline ∈ received ++ chunk
  · obtain ⟨front, after, line, single⟩ := List.eq_append_cons_of_mem ended
    rw [afterRead_of_line empty single line]
    split
    · rename_i nothing_after
      subst nothing_after
      rw [line] at parts fits
      exact .parsed parts fits
    · exact .failed
  · rw [afterRead_of_incomplete empty ended]
    split
    · exact .failed
    · rename_i not_full
      exact .reading parts ended (lt_of_le_of_ne fits not_full)

theorem consistent_step {stream : List UInt8} {reader : Reader}
    (consistent : Consistent stream reader) (event : ReadEvent) :
    Consistent stream (reader.step event) := by
  cases consistent with
  | failed => exact .failed
  | parsed parts short => exact .parsed parts short
  | reading parts incomplete room =>
      cases event with
      | wouldBlock => exact .reading parts incomplete room
      | error => exact .failed
      | notReady => exact .failed
      | ready extra =>
          refine consistent_afterRead (by rwa [List.take_append_drop]) ?_
          rw [List.length_append, List.length_take]
          omega

theorem consistent_run (stream : List UInt8) (events : List ReadEvent) :
    Consistent stream (run step (start stream) events) :=
  run_invariant (Consistent stream) (fun _ event consistent => consistent_step consistent event)
    (consistent_start stream) events

/-- Only the exact line `ALLOW` allows. -/
theorem prefix_of_allow {stream : List UInt8} {reader : Reader}
    (consistent : Consistent stream reader) (allows : reader.state = .finished (some .allow)) :
    Wire.respAllow.asBytes <+: stream := by
  cases consistent with
  | reading => cases allows
  | failed => cases allows
  | @parsed line rest parts short =>
      have read : parseReply line = some .allow := State.finished.inj allows
      rw [← parts, ← parseReply_eq_allow read]
      exact List.prefix_append line rest

/-- Only a well-formed refusal line that fits the buffer denies. -/
theorem prefix_of_deny {stream : List UInt8} {reader : Reader}
    (consistent : Consistent stream reader) (denies : reader.state = .finished (some .deny)) :
    ∃ line, IsRefusal line ∧ line.length ≤ maxReplyBytes ∧ line <+: stream := by
  cases consistent with
  | reading => cases denies
  | failed => cases denies
  | @parsed line rest parts short =>
      have read : parseReply line = some .deny := State.finished.inj denies
      exact ⟨line, parseReply_eq_deny read, short, parts ▸ List.prefix_append line rest⟩

/-- While it reads, the buffer has room and holds no newline. -/
theorem room_of_reading {stream : List UInt8} {reader : Reader}
    (consistent : Consistent stream reader) {received : List UInt8}
    (reads : reader.state = .reading received) :
    received.length < maxReplyBytes ∧ newline ∉ received ∧ received <+: stream := by
  cases consistent with
  | failed => cases reads
  | parsed => cases reads
  | @reading received' rest parts incomplete room =>
      cases reads
      exact ⟨room, incomplete, parts ▸ List.prefix_append _ rest⟩

/-- A reply needs a newline among the bytes that fit the buffer. -/
theorem newline_mem_of_reply {stream : List UInt8} {reader : Reader}
    (consistent : Consistent stream reader) {reply : Reply}
    (replied : reader.state = .finished (some reply)) : newline ∈ stream.take maxReplyBytes := by
  have ends : ∃ line, newline ∈ line ∧ line.length ≤ maxReplyBytes ∧ line <+: stream := by
    cases reply with
    | allow => exact ⟨_, by decide, by decide, prefix_of_allow consistent replied⟩
    | deny =>
        obtain ⟨line, ⟨reason, _, _, rfl⟩, short, begins⟩ := prefix_of_deny consistent replied
        exact ⟨_, by simp, short, begins⟩
  obtain ⟨line, member, short, begins⟩ := ends
  rw [List.prefix_iff_eq_take] at begins
  rw [begins] at member
  exact (List.take_subset_take_left stream short) member

/-- A read that fills the buffer without a newline ends the loop without a reply. -/
theorem finished_of_full {stream : List UInt8} {reader : Reader}
    (consistent : Consistent stream reader) {received : List UInt8}
    (reads : reader.state = .reading received) (endless : newline ∉ stream.take maxReplyBytes)
    {extra : Nat}
    (fills : maxReplyBytes ≤ received.length + (reader.stream.take (extra + 1)).length) :
    (reader.step (.ready extra)).state = .finished none := by
  cases consistent with
  | failed => cases reads
  | parsed => cases reads
  | @reading _ rest parts incomplete room =>
      cases reads
      simp only [step, List.length_take] at fills ⊢
      generalize bounded : min (extra + 1) (maxReplyBytes - received.length) = count
      have full : (received ++ rest.take count).length = maxReplyBytes := by
        rw [List.length_append, List.length_take]
        omega
      have buffer : received ++ rest.take count = stream.take maxReplyBytes := by
        have begins : received ++ rest.take count <+: stream := by
          rw [← parts]
          exact (List.prefix_append_right_inj received).mpr (List.take_prefix count rest)
        rw [List.prefix_iff_eq_take, full] at begins
        exact begins
      have nonempty : rest.take count ≠ [] := by
        rintro empty
        rw [empty, List.append_nil] at full
        omega
      rw [afterRead_of_incomplete nonempty (buffer ▸ endless), if_pos full]

end Reader
end PresenceUnlock.Pam
