import PresenceUnlock.Pam.Exchange

/-!
# The conversation between the PAM module and the daemon

Both processes and the two directions of the socket between them.  Each event moves some bytes, and
the invariant says which bytes of the request and of the response are where.
-/

namespace PresenceUnlock.Pam

open RustStd Execution Control

/-- A line: a newline at its end and nowhere else. -/
def IsLine (bytes : List UInt8) : Prop := ∃ front, newline ∉ front ∧ bytes = front ++ [newline]

/-- A piece of a line that has the newline is the whole line. -/
theorem IsLine.whole {first second : List UInt8} (line : IsLine (first ++ second))
    (member : newline ∈ first) : second = [] := by
  obtain ⟨front, single, parts⟩ := line
  rcases List.eq_nil_or_concat second with empty | ⟨front', last, rfl⟩
  · exact empty
  · rw [List.concat_eq_append, ← List.append_assoc] at parts
    have same : first ++ front' = front := List.append_inj_left' parts rfl
    exact (single (same ▸ List.mem_append_left front' member)).elim

theorem IsLine.newline_mem {bytes : List UInt8} (line : IsLine bytes) : newline ∈ bytes := by
  obtain ⟨front, _, rfl⟩ := line
  exact List.mem_append_right front (List.mem_singleton_self newline)

/-- A piece without the newline leaves something of the line. -/
theorem IsLine.rest_ne_nil {first second : List UInt8} (line : IsLine (first ++ second))
    (incomplete : newline ∉ first) : second ≠ [] := by
  rintro rfl
  rw [List.append_nil] at line
  exact incomplete line.newline_mem

/-- The request that the module writes. -/
def request : List UInt8 := Wire.reqCheck.asBytes

theorem length_request : request.length = 8 := by decide

theorem isLine_request : IsLine request := ⟨request.dropLast, by decide, by decide⟩

/-- The reply that a decision is meant to be read as. -/
def replyTo : Decision → Reply
  | .allow => .allow
  | .deny _ => .deny

theorem isRefusal_render {reason : Text} (given : reason ∈ Wire.fleetReasons) :
    IsRefusal (render (.deny reason)).asBytes := by
  have graphic : ∀ reason ∈ Wire.fleetReasons,
      reason.asBytes ≠ [] ∧ reason.asBytes.all isAsciiGraphic = true := by decide
  obtain ⟨nonempty, all_graphic⟩ := graphic reason given
  refine ⟨reason.asBytes, nonempty, List.all_eq_true.mp all_graphic, ?_⟩
  rw [render, Wire.deny, Text.asBytes_append, Text.asBytes_append]
  rfl

/-- What the daemon writes about a fleet: one short line that is read back as the decision. -/
structure Speaks (fleet : Fleet) (nowMs : UInt64) : Prop where
  /-- It is a line. -/
  line : IsLine (render (fleet.check nowMs)).asBytes
  /-- It is short enough for the module. -/
  short : (render (fleet.check nowMs)).asBytes.length ≤ maxReplyBytes
  /-- The module reads the decision. -/
  read : parseReply (render (fleet.check nowMs)).asBytes = some (replyTo (fleet.check nowMs))

theorem speaks (fleet : Fleet) (nowMs : UInt64) : Speaks fleet nowMs := by
  cases decision : fleet.check nowMs with
  | allow =>
      refine ⟨?_, ?_, ?_⟩ <;> rw [decision]
      · exact ⟨Wire.respAllow.asBytes.dropLast, by decide, by decide⟩
      · decide
      · exact if_pos rfl
  | deny reason =>
      have given := Fleet.reason_of_check decision
      have refusal := isRefusal_render given
      have short : ∀ reason ∈ Wire.fleetReasons,
          (render (.deny reason)).asBytes.length ≤ maxReplyBytes := by decide
      refine ⟨?_, ?_, ?_⟩ <;> rw [decision]
      · obtain ⟨reason', _, graphic, line⟩ := refusal
        refine ⟨denyPrefix.asBytes ++ reason', ?_, line⟩
        rw [List.mem_append, not_or]
        exact ⟨by decide, fun member => absurd (graphic newline member) (by decide)⟩
      · exact short reason given
      · exact parseReply_of_isRefusal refusal

/-- Where the task of the connection is. -/
inductive DaemonState
  | reading (line : List UInt8)
  | serving (line : List UInt8)
  | replying (rest : List UInt8)

/-- Both processes, the bytes on their way in each direction, and the question the daemon put to
its fleet. -/
structure System where
  /-- The module. -/
  pam : State
  /-- The bytes on their way to the daemon. -/
  toDaemon : List UInt8
  /-- The daemon. -/
  daemon : DaemonState
  /-- The bytes on their way to the module. -/
  toPam : List UInt8
  /-- The fleet that was asked, and when. -/
  served : Option (Fleet × UInt64)

/-- One thing that happens; where bytes move, at least one and at most `extra + 1` of them do. -/
inductive Event
  | pamWrite (extra : Nat)
  | daemonRead (extra : Nat)
  | serve (fleet : Fleet) (nowMs : UInt64)
  | daemonWrite (extra : Nat)
  | pamRead (extra : Nat)
  | wouldBlock

namespace System

/-- The module is to send its request. -/
def start : System := ⟨.writing request, [], .reading [], [], none⟩

/-- The daemon's reader after its next read. -/
def daemonState : RequestLine → DaemonState
  | .reading line => .reading line
  | .complete line => .serving line

/-- The effect of one event; one that cannot happen now changes nothing. -/
def step (system : System) : Event → System
  | .pamWrite extra =>
      match system.pam with
      | .writing rest =>
          let written := min (extra + 1) rest.length
          { system with
            pam := afterWrite rest written
            toDaemon := system.toDaemon ++ rest.take written }
      | _ => system
  | .daemonRead extra =>
      match system.daemon with
      | .reading line =>
          if system.toDaemon = [] then
            -- The end of the stream: the client has closed.
            match system.pam with
            | .finished _ => { system with daemon := .serving line }
            | _ => system
          else
            { system with
              daemon := daemonState (.extend line (system.toDaemon.take (extra + 1)))
              toDaemon := system.toDaemon.drop (extra + 1) }
      | _ => system
  | .serve fleet nowMs =>
      match system.daemon with
      | .serving line =>
          { system with
            daemon := .replying (answer line fleet nowMs)
            served := some (fleet, nowMs) }
      | _ => system
  | .daemonWrite extra =>
      match system.daemon with
      | .replying rest =>
          { system with
            daemon := .replying (rest.drop (extra + 1))
            toPam := system.toPam ++ rest.take (extra + 1) }
      | _ => system
  | .pamRead extra =>
      match system.pam with
      | .reading received =>
          if system.toPam = [] then
            -- The daemon closes once everything is written.
            match system.daemon with
            | .replying [] => { system with pam := afterRead received [] }
            | _ => system
          else
            let count := min (extra + 1) (maxReplyBytes - received.length)
            { system with
              pam := afterRead received (system.toPam.take count)
              toPam := system.toPam.drop count }
      | _ => system
  | .wouldBlock => system

/-- Where the bytes of the request and of the response are. -/
inductive Consistent : System → Prop
  | sending {rest toDaemon line : List UInt8} (parts : line ++ (toDaemon ++ rest) = request)
      (unsent : rest ≠ []) (incomplete : newline ∉ line) :
      Consistent ⟨.writing rest, toDaemon, .reading line, [], none⟩
  | sent {toDaemon line : List UInt8} (parts : line ++ toDaemon = request)
      (incomplete : newline ∉ line) : Consistent ⟨.reading [], toDaemon, .reading line, [], none⟩
  | asked : Consistent ⟨.reading [], [], .serving request, [], none⟩
  | answering {received toPam rest : List UInt8} {fleet : Fleet} {nowMs : UInt64}
      (parts : received ++ (toPam ++ rest) = (render (fleet.check nowMs)).asBytes)
      (incomplete : newline ∉ received) :
      Consistent ⟨.reading received, [], .replying rest, toPam, some (fleet, nowMs)⟩
  | answered {fleet : Fleet} {nowMs : UInt64} :
      Consistent ⟨.finished (some (replyTo (fleet.check nowMs))), [], .replying [], [],
        some (fleet, nowMs)⟩

/-- An upper bound on the bytes still to be moved and the changes of phase still to come. -/
def pending (system : System) : Nat :=
  (match system.pam with
    | .writing rest => 2 * rest.length + 1
    | .reading _ => 1
    | .finished _ => 0) +
  system.toDaemon.length +
  (match system.daemon with
    | .reading _ => 2 * maxReplyBytes + 2
    | .serving _ => 2 * maxReplyBytes + 1
    | .replying rest => 2 * rest.length) +
  system.toPam.length

/-- An event either changes nothing or brings the end nearer, and keeps the invariant. -/
structure Advances (before after : System) : Prop where
  /-- The invariant is kept. -/
  consistent : Consistent after
  /-- The end is nearer, if anything changes. -/
  nearer : after = before ∨ after.pending < before.pending

theorem Advances.refl {system : System} (consistent : Consistent system) :
    Advances system system :=
  ⟨consistent, .inl rfl⟩

theorem consistent_start : Consistent start := .sending rfl (by decide) (by simp)

private theorem advances_pamWrite {rest toDaemon line : List UInt8}
    (parts : line ++ (toDaemon ++ rest) = request) (unsent : rest ≠ [])
    (incomplete : newline ∉ line) (extra : Nat) :
    Advances ⟨.writing rest, toDaemon, .reading line, [], none⟩
      (step ⟨.writing rest, toDaemon, .reading line, [], none⟩ (.pamWrite extra)) := by
  have length_pos := List.length_pos_iff.mpr unsent
  simp only [step]
  generalize bounded : min (extra + 1) rest.length = written
  have written_pos : written ≠ 0 := by omega
  have written_le : written ≤ rest.length := by omega
  have moved : (rest.take written).length = written := by simpa using written_le
  rw [← List.take_append_drop written rest, ← List.append_assoc toDaemon] at parts
  rw [afterWrite, if_neg written_pos]
  cases left : rest.drop written with
  | nil =>
      rw [left, List.append_nil] at parts
      refine ⟨.sent parts incomplete, .inr ?_⟩
      simp only [pending, List.length_append, moved]
      omega
  | cons byte later =>
      have shorter : (byte :: later).length = rest.length - written := by
        rw [← left, List.length_drop]
      rw [left] at parts
      refine ⟨.sending parts (List.cons_ne_nil byte later) incomplete, .inr ?_⟩
      simp only [pending, List.length_append, moved, shorter]
      omega

/-- Reading a piece of the request either completes it or leaves the line open. -/
private theorem extend_eq {line chunk later : List UInt8}
    (parts : line ++ (chunk ++ later) = request) :
    RequestLine.extend line chunk =
      if newline ∈ line ++ chunk then .complete (line ++ chunk) else .reading (line ++ chunk) := by
  have bound : line.length + (chunk.length + later.length) = 8 := by
    rw [← length_request, ← parts, List.length_append, List.length_append]
  have fits : chunk.take (maxRequestBytes - line.length) = chunk :=
    List.take_of_length_le (by rw [maxRequestBytes]; omega)
  have not_full : (line ++ chunk).length ≠ maxRequestBytes := by
    rw [List.length_append, maxRequestBytes]
    omega
  simp only [RequestLine.extend, fits]
  by_cases member : newline ∈ line ++ chunk
  · have whole : IsLine ((line ++ chunk) ++ later) := by
      rw [List.append_assoc, parts]
      exact isLine_request
    rw [whole.whole member, List.append_nil] at whole
    obtain ⟨front, single, same⟩ := whole
    rw [if_pos member, same, findIdx?_line single]
    simp
  · simp only [findIdx?_of_incomplete member, if_neg member, if_neg not_full]

private theorem advances_daemonRead {pam : State} {toDaemon line rest : List UInt8}
    (parts : line ++ (toDaemon ++ rest) = request) (arrived : toDaemon ≠ [])
    (open_line : ∀ {line toDaemon : List UInt8}, line ++ (toDaemon ++ rest) = request →
      newline ∉ line → Consistent ⟨pam, toDaemon, .reading line, [], none⟩)
    (all_sent : rest = [] → pam = .reading []) (extra : Nat) :
    Advances ⟨pam, toDaemon, .reading line, [], none⟩
      (step ⟨pam, toDaemon, .reading line, [], none⟩ (.daemonRead extra)) := by
  have shorter : (toDaemon.drop (extra + 1)).length < toDaemon.length := by
    have length_pos := List.length_pos_iff.mpr arrived
    rw [List.length_drop]
    omega
  have pieces : line ++ (toDaemon.take (extra + 1) ++ (toDaemon.drop (extra + 1) ++ rest)) =
      request := by
    rw [← List.append_assoc (toDaemon.take _), List.take_append_drop, parts]
  simp only [step, if_neg arrived, extend_eq pieces]
  rw [← List.append_assoc] at pieces
  by_cases member : newline ∈ line ++ toDaemon.take (extra + 1)
  · have nothing_left := (pieces ▸ isLine_request).whole member
    obtain ⟨none_flying, rfl⟩ := List.append_eq_nil_iff.mp nothing_left
    rw [none_flying, List.append_nil, List.append_nil] at pieces
    rw [if_pos member, daemonState, pieces, none_flying, all_sent rfl]
    refine ⟨.asked, .inr ?_⟩
    have length_pos := List.length_pos_iff.mpr arrived
    simp only [pending, List.length_nil]
    omega
  · rw [if_neg member, daemonState]
    refine ⟨open_line pieces member, .inr ?_⟩
    simp only [pending]
    omega

private theorem advances_serve (fleet : Fleet) (nowMs : UInt64) :
    Advances ⟨.reading [], [], .serving request, [], none⟩
      (step ⟨.reading [], [], .serving request, [], none⟩ (.serve fleet nowMs)) := by
  have short := (speaks fleet nowMs).short
  have answered : answer request fleet nowMs = (render (fleet.check nowMs)).asBytes :=
    answer_reqCheck fleet nowMs
  simp only [step, answered]
  refine ⟨.answering rfl (by simp), .inr ?_⟩
  simp only [pending, List.length_nil]
  omega

private theorem advances_daemonWrite {received toPam rest : List UInt8} {fleet : Fleet}
    {nowMs : UInt64}
    (parts : received ++ (toPam ++ rest) = (render (fleet.check nowMs)).asBytes)
    (incomplete : newline ∉ received) (unsent : rest ≠ []) (extra : Nat) :
    Advances ⟨.reading received, [], .replying rest, toPam, some (fleet, nowMs)⟩
      (step ⟨.reading received, [], .replying rest, toPam, some (fleet, nowMs)⟩
        (.daemonWrite extra)) := by
  have length_pos := List.length_pos_iff.mpr unsent
  rw [← List.take_append_drop (extra + 1) rest, ← List.append_assoc toPam] at parts
  refine ⟨.answering parts incomplete, .inr ?_⟩
  simp only [step, pending, List.length_append, List.length_take, List.length_drop]
  omega

private theorem advances_pamRead {received toPam rest : List UInt8} {fleet : Fleet}
    {nowMs : UInt64}
    (parts : received ++ (toPam ++ rest) = (render (fleet.check nowMs)).asBytes)
    (arrived : toPam ≠ []) (extra : Nat) :
    Advances ⟨.reading received, [], .replying rest, toPam, some (fleet, nowMs)⟩
      (step ⟨.reading received, [], .replying rest, toPam, some (fleet, nowMs)⟩
        (.pamRead extra)) := by
  have spoken := speaks fleet nowMs
  have total : received.length + (toPam.length + rest.length) ≤ maxReplyBytes := by
    rw [← List.length_append, ← List.length_append, parts]
    exact spoken.short
  have length_pos := List.length_pos_iff.mpr arrived
  simp only [step, if_neg arrived]
  generalize bounded : min (extra + 1) (maxReplyBytes - received.length) = count
  have count_pos : 0 < count := by omega
  have nonempty : toPam.take count ≠ [] := by
    simpa using ⟨count_pos.ne', arrived⟩
  have pieces : (received ++ toPam.take count) ++ (toPam.drop count ++ rest) =
      (render (fleet.check nowMs)).asBytes := by
    rw [List.append_assoc, ← List.append_assoc (toPam.take _), List.take_append_drop, parts]
  have line := pieces ▸ spoken.line
  by_cases member : newline ∈ received ++ toPam.take count
  · have nothing_left := line.whole member
    obtain ⟨none_flying, rfl⟩ := List.append_eq_nil_iff.mp nothing_left
    rw [none_flying, List.append_nil, List.append_nil] at pieces
    obtain ⟨front, single, ends⟩ := spoken.line
    rw [afterRead_of_line nonempty single (pieces.trans ends), if_pos rfl, ← ends, spoken.read,
      none_flying]
    refine ⟨.answered, .inr ?_⟩
    simp only [pending, List.length_nil]
    omega
  · have something_left := List.length_pos_iff.mpr (line.rest_ne_nil member)
    have not_full : (received ++ toPam.take count).length ≠ maxReplyBytes := by
      simp only [List.length_append, List.length_take, List.length_drop] at something_left ⊢
      omega
    rw [afterRead_of_incomplete nonempty member, if_neg not_full]
    rw [List.append_assoc] at pieces
    refine ⟨.answering (by rwa [List.append_assoc]) member, .inr ?_⟩
    simp only [pending, List.length_drop]
    omega

/-- Every event keeps the invariant and, unless it changes nothing, brings the end nearer. -/
theorem advances_step {system : System} (consistent : Consistent system) (event : Event) :
    Advances system (system.step event) := by
  cases consistent with
  | @sending rest toDaemon line parts unsent incomplete =>
      cases event with
      | pamWrite extra => exact advances_pamWrite parts unsent incomplete extra
      | daemonRead extra =>
          by_cases arrived : toDaemon = []
          · subst arrived
            exact .refl (.sending parts unsent incomplete)
          · exact advances_daemonRead parts arrived
              (fun pieces still_open => .sending pieces unsent still_open)
              (fun none_left => (unsent none_left).elim) extra
      | _ => exact .refl (.sending parts unsent incomplete)
  | @sent toDaemon line parts incomplete =>
      cases event with
      | daemonRead extra =>
          by_cases arrived : toDaemon = []
          · subst arrived
            exact .refl (.sent parts incomplete)
          · rw [← List.append_nil toDaemon] at parts
            refine advances_daemonRead parts arrived (fun pieces still_open => ?_) (fun _ => rfl)
              extra
            rw [List.append_nil] at pieces
            exact .sent pieces still_open
      | _ => exact .refl (.sent parts incomplete)
  | asked =>
      cases event with
      | serve fleet nowMs => exact advances_serve fleet nowMs
      | _ => exact .refl .asked
  | @answering received toPam rest fleet nowMs parts incomplete =>
      cases event with
      | daemonWrite extra =>
          by_cases unsent : rest = []
          · subst unsent
            have same : step ⟨.reading received, [], .replying [], toPam, some (fleet, nowMs)⟩
                (.daemonWrite extra) =
                ⟨.reading received, [], .replying [], toPam, some (fleet, nowMs)⟩ := by
              simp [step]
            rw [same]
            exact .refl (.answering parts incomplete)
          · exact advances_daemonWrite parts incomplete unsent extra
      | pamRead extra =>
          by_cases arrived : toPam = []
          · subst arrived
            cases rest with
            | nil =>
                -- The daemon closes only after the whole line has been read.
                have line := parts ▸ (speaks fleet nowMs).line
                exact (line.rest_ne_nil incomplete rfl).elim
            | cons byte rest => exact .refl (.answering parts incomplete)
          · exact advances_pamRead parts arrived extra
      | _ => exact .refl (.answering parts incomplete)
  | answered =>
      cases event with
      | daemonWrite extra =>
          have same : ∀ reply served, step ⟨.finished reply, [], .replying [], [], served⟩
              (.daemonWrite extra) = ⟨.finished reply, [], .replying [], [], served⟩ := by
            simp [step]
          rw [same]
          exact .refl .answered
      | _ => exact .refl .answered

/-- Unless the module has finished, something can happen that brings the end nearer. -/
theorem exists_nearer {system : System} (consistent : Consistent system) :
    (∃ reply, system.pam = .finished reply) ∨
      ∃ event, (system.step event).pending < system.pending := by
  have moves : ∀ event, system.step event ≠ system →
      ∃ event, (system.step event).pending < system.pending := fun event changed =>
    ⟨event, (advances_step consistent event).nearer.resolve_left changed⟩
  cases consistent with
  | @sending rest toDaemon line parts unsent incomplete =>
      refine .inr (moves (.pamWrite 0) fun same => ?_)
      have lengths := congrArg (fun system => system.toDaemon.length) same
      have length_pos := List.length_pos_iff.mpr unsent
      simp only [step, List.length_append, List.length_take] at lengths
      omega
  | @sent toDaemon line parts incomplete =>
      have arrived : toDaemon ≠ [] := (parts ▸ isLine_request).rest_ne_nil incomplete
      refine .inr (moves (.daemonRead 0) fun same => ?_)
      have lengths := congrArg (fun system => system.toDaemon.length) same
      have length_pos := List.length_pos_iff.mpr arrived
      simp only [step, if_neg arrived, List.length_drop] at lengths
      omega
  | asked =>
      refine .inr (moves (.serve (Fleet.new [] .any) 0) fun same => ?_)
      have daemons := congrArg System.daemon same
      exact DaemonState.noConfusion daemons
  | @answering received toPam rest fleet nowMs parts incomplete =>
      by_cases unsent : rest = []
      · subst unsent
        have line := parts ▸ (speaks fleet nowMs).line
        have arrived : toPam ≠ [] := by simpa using line.rest_ne_nil incomplete
        have room : received.length < maxReplyBytes := by
          have length_pos := List.length_pos_iff.mpr arrived
          have total := congrArg List.length parts
          have short := (speaks fleet nowMs).short
          simp only [List.length_append] at total
          omega
        refine .inr (moves (.pamRead 0) fun same => ?_)
        have lengths := congrArg (fun system => system.toPam.length) same
        have length_pos := List.length_pos_iff.mpr arrived
        simp only [step, if_neg arrived, List.length_drop] at lengths
        omega
      · refine .inr (moves (.daemonWrite 0) fun same => ?_)
        have lengths := congrArg (fun system => system.toPam.length) same
        have length_pos := List.length_pos_iff.mpr unsent
        simp only [step, List.length_append, List.length_take] at lengths
        omega
  | answered => exact .inl ⟨_, rfl⟩

theorem consistent_run (schedule : List Event) : Consistent (run step start schedule) :=
  run_invariant Consistent (fun _ event consistent => (advances_step consistent event).consistent)
    consistent_start schedule

/-- When the module has finished, it returns what the fleet decided. -/
theorem result_of_finished {system : System} (consistent : Consistent system)
    {reply : Option Reply} (finished : system.pam = .finished reply) :
    ∃ fleet nowMs, system.served = some (fleet, nowMs) ∧
      exchangeResult reply = if fleet.check nowMs = .allow then .success else .authErr := by
  cases consistent with
  | sending => cases finished
  | sent => cases finished
  | asked => cases finished
  | answering => cases finished
  | @answered fleet nowMs =>
      cases finished
      refine ⟨fleet, nowMs, rfl, ?_⟩
      cases decision : fleet.check nowMs with
      | allow => simp [exchangeResult, replyTo, replyResult]
      | deny reason => simp [exchangeResult, replyTo, replyResult]

end System

/-- However the bytes are split, the exchange comes to its end and returns what the fleet decided;
and whatever a peer sends, the reader answers only to a well-formed line that fits its buffer. -/
theorem exchange_agrees :
    (∀ schedule : List Event,
      let system := run System.step System.start schedule
      (∀ reply, system.pam = .finished reply →
        ∃ fleet nowMs, system.served = some (fleet, nowMs) ∧
          exchangeResult reply = if fleet.check nowMs = .allow then .success else .authErr) ∧
      (∀ event, system.step event = system ∨ (system.step event).pending < system.pending) ∧
      ((∃ reply, system.pam = .finished reply) ∨
        ∃ event, (system.step event).pending < system.pending)) ∧
    (∀ (stream : List UInt8) (events : List ReadEvent),
      let reader := run Reader.step (Reader.start stream) events
      (reader.state = .finished (some .allow) → Wire.respAllow.asBytes <+: stream) ∧
      (reader.state = .finished (some .deny) →
        ∃ line, IsRefusal line ∧ line.length ≤ maxReplyBytes ∧ line <+: stream) ∧
      (∀ received, reader.state = .reading received →
        received.length < maxReplyBytes ∧
        (reader.stream = [] → ∀ extra, (reader.step (.ready extra)).state = .finished none) ∧
        (reader.step .error).state = .finished none ∧
        (reader.step .notReady).state = .finished none ∧
        (newline ∉ stream.take maxReplyBytes → ∀ extra,
          maxReplyBytes ≤ received.length + (reader.stream.take (extra + 1)).length →
            (reader.step (.ready extra)).state = .finished none)) ∧
      (newline ∉ stream.take maxReplyBytes →
        ∀ reply, reader.state ≠ .finished (some reply))) := by
  constructor
  · intro schedule
    have consistent := System.consistent_run schedule
    exact ⟨fun reply finished => System.result_of_finished consistent finished,
      fun event => (System.advances_step consistent event).nearer,
      System.exists_nearer consistent⟩
  · intro stream events
    have consistent := Reader.consistent_run stream events
    refine ⟨Reader.prefix_of_allow consistent, Reader.prefix_of_deny consistent, ?_, ?_⟩
    · intro received reads
      refine ⟨(Reader.room_of_reading consistent reads).1, ?_, ?_, ?_, ?_⟩
      · intro ended extra
        simp [Reader.step, reads, ended, afterRead]
      · simp [Reader.step, reads]
      · simp [Reader.step, reads]
      · intro endless extra fills
        exact Reader.finished_of_full consistent reads endless fills
    · intro endless reply replied
      exact endless (Reader.newline_mem_of_reply consistent replied)

end PresenceUnlock.Pam
