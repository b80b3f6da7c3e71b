import Mathlib.Data.List.Basic
import Mathlib.Data.UInt

/-!
# Cancel keys

While an operation runs, the terminal is polled for the keys that stop it.  A read can end in the
middle of a key's sequence, so a trailing escape is held back until its tail arrives.  However the
bytes are cut into reads, the polling answers like one scan over all of them, as long as the tails
arrive within their window and within the budget of the wait.
-/

namespace PresenceUnlock.Cli.Keys

def esc : UInt8 := 0x1B
def ctrlC : UInt8 := 0x03

/-- A millisecond, in the nanoseconds that times are counted in. -/
def millisecond : ℕ := 1000000

/-- How long a trailing escape is held back. -/
def escTail : ℕ := 50 * millisecond

/-- The largest timeout of a poll, in milliseconds. -/
def maxPollTimeout : ℕ := 2 ^ 31 - 1

/-- The size of the buffer, of which a held-back escape takes the first byte. -/
def bufferSize : ℕ := 32

/-- What a run of input bytes asks for. -/
inductive Verdict
  | cancel
  | quit
  | idle
  | undecided
  deriving DecidableEq, Repr

/-- `[` and `O` after an escape open the sequence of a key. -/
def opensSequence (byte : UInt8) : Bool := byte == 0x5B || byte == 0x4F

/-- What the bytes in hand ask for. -/
def verdict : List UInt8 → Verdict
  | [] => .idle
  | byte :: rest =>
      if byte = ctrlC then .quit
      else if byte = esc then
        match rest with
        | [] => .undecided
        | next :: _ => if opensSequence next then verdict rest else .cancel
      else verdict rest

/-- What the user asked for during a wait. -/
inductive Press
  | idle
  | pressed
  | cancel
  | quit
  deriving DecidableEq, Repr

/-- A byte of the terminal. -/
structure Arrival where
  /-- When the byte is there to be read. -/
  time : ℕ
  /-- The byte. -/
  byte : UInt8
  deriving DecidableEq, Repr

/-- The bytes of a stream, without their times. -/
def bytes (stream : List Arrival) : List UInt8 := stream.map Arrival.byte

/-- What one turn of the loop meets, apart from the bytes. -/
inductive Turn
  /-- The poll begins `late` after the turn.  If it finds input, the read begins `lag` after that,
  and takes up to `more + 1` of the bytes that are there. -/
  | polls (late lag more : ℕ)
  /-- A signal ends the poll `late` after the turn begins. -/
  | interrupted (late : ℕ)
  /-- The poll or the read fails, or the terminal is hung up. -/
  | failed
  deriving DecidableEq, Repr

/-- How a wait ends, and whether an escape was held back when it did. -/
inductive Ending
  | waiting (held : Bool)
  | timedOut (held : Bool)
  | failed (held : Bool)
  | judged (press : Press)
  deriving DecidableEq, Repr

/-- What the wait returns, once it does. -/
def Ending.press : Ending → Option Press
  | .waiting _ => none
  | .timedOut true => some .cancel
  | .timedOut false => some .idle
  | .failed _ => some .idle
  | .judged press => some press

/-- How many milliseconds a poll waits, which are whole ones.  A held-back escape gets the shorter
of its own window and what is left of the caller's budget. -/
def pollTimeout (timeout elapsed : ℕ) (held : Bool) : ℕ :=
  let remaining := timeout - elapsed
  min ((if held then min remaining escTail else remaining) / millisecond) maxPollTimeout

/-- The front of the buffer: nothing, or the escape that is held back. -/
def heldBack (held : Bool) : List UInt8 := if held then [esc] else []

/-- What a read at this time takes, if it takes up to `count` bytes. -/
def chunk (stream : List Arrival) (time count : ℕ) : List Arrival :=
  (stream.takeWhile fun arrival => arrival.time ≤ time).take count

/-- One read. -/
structure Read where
  /-- When the wait began. -/
  start : ℕ
  /-- The budget of the wait. -/
  timeout : ℕ
  /-- When the bytes were read. -/
  time : ℕ
  /-- The bytes that are judged: a held-back escape and those that were read. -/
  run : List UInt8
  /-- The bytes still to come. -/
  rest : List Arrival
  deriving DecidableEq, Repr

/-- A wait, as far as its turns go. -/
structure Wait where
  /-- How it ends. -/
  ending : Ending
  /-- The time at which it does. -/
  clock : ℕ
  /-- The bytes still to come. -/
  rest : List Arrival
  /-- The reads it made. -/
  reads : List Read
  deriving DecidableEq, Repr

/-- The polling loop on the bytes still to come, at a time of the clock. -/
def waitLoop (start timeout clock : ℕ) (held : Bool) (stream : List Arrival) : List Turn → Wait
  | [] => ⟨.waiting held, clock, stream, []⟩
  | .interrupted late :: turns => waitLoop start timeout (clock + late) held stream turns
  | .failed :: _ => ⟨.failed held, clock, stream, []⟩
  | .polls late lag more :: turns =>
      let now := clock + late
      let deadline := now + pollTimeout timeout (now - start) held * millisecond
      match stream with
      | [] => ⟨.timedOut held, deadline, stream, []⟩
      | first :: _ =>
          if deadline < first.time then ⟨.timedOut held, deadline, stream, []⟩
          else
            let time := max now first.time + lag
            let taken := chunk stream time (min (more + 1) (bufferSize - (heldBack held).length))
            let rest := stream.drop taken.length
            let run := heldBack held ++ bytes taken
            let read : Read := ⟨start, timeout, time, run, rest⟩
            match verdict run with
            | .cancel => ⟨.judged .cancel, time, rest, [read]⟩
            | .quit => ⟨.judged .quit, time, rest, [read]⟩
            | .idle => ⟨.judged .pressed, time, rest, [read]⟩
            | .undecided =>
                let later := waitLoop start timeout time true rest turns
                { later with reads := read :: later.reads }

/-- One call of `wait_for_press`. -/
structure Call where
  /-- How long after the end of the last call it begins. -/
  late : ℕ
  /-- Whether there is a terminal to put into raw mode. -/
  terminal : Bool
  /-- The budget. -/
  timeout : ℕ
  /-- What the turns of its loop meet. -/
  turns : List Turn

/-- `wait_for_press`. -/
def Call.run (call : Call) (clock : ℕ) (stream : List Arrival) : Wait :=
  let start := clock + call.late
  if call.terminal then waitLoop start call.timeout start false stream call.turns
  else ⟨.failed false, start, stream, []⟩

/-- The answers that end the repetition. -/
def Press.Stops (press : Press) : Prop := press = .cancel ∨ press = .quit

instance (press : Press) : Decidable press.Stops :=
  inferInstanceAs (Decidable (press = .cancel ∨ press = .quit))

/-- The bytes that a wait has not judged. -/
def Wait.unjudged (wait : Wait) : List UInt8 :=
  match wait.ending with
  | .waiting held => heldBack held ++ bytes wait.rest
  | _ => bytes wait.rest

/-- Waits one after another. -/
structure Repetition where
  /-- The answer that stops the operation. -/
  answer : Option Press
  /-- The bytes that were not judged. -/
  unjudged : List UInt8
  /-- The reads that were made. -/
  reads : List Read
  deriving DecidableEq, Repr

/-- Wait until an answer stops the operation. -/
def repeatWait : List Call → ℕ → List Arrival → Repetition
  | [], _, stream => ⟨none, bytes stream, []⟩
  | call :: calls, clock, stream =>
      let wait := call.run clock stream
      match wait.ending.press with
      | none => ⟨none, wait.unjudged, wait.reads⟩
      | some press =>
          if press.Stops then ⟨some press, wait.unjudged, wait.reads⟩
          else
            let later := repeatWait calls wait.clock wait.rest
            { later with reads := wait.reads ++ later.reads }

/-- If a read ends in an escape that is held back, the next byte arrives within the window of the
escape, and a millisecond before the budget of the wait ends; or there is none. -/
def Read.TailInTime (read : Read) : Prop :=
  verdict read.run = .undecided → ∀ next ∈ read.rest.head?,
    next.time ≤ read.time + escTail ∧ next.time + millisecond ≤ read.start + read.timeout

instance (read : Read) : Decidable read.TailInTime :=
  inferInstanceAs (Decidable (_ → ∀ next ∈ read.rest.head?, _ ∧ _))

/-- From left to right, `0x03` quits and an escape that opens no sequence cancels. -/
def scan : List UInt8 → Option Press
  | [] => none
  | byte :: rest =>
      if byte = ctrlC then some .quit
      else if byte = esc ∧ ¬ rest.head?.any opensSequence then some .cancel
      else scan rest

theorem scan_cons_ctrlC (rest : List UInt8) : scan (ctrlC :: rest) = some .quit := by
  rw [scan, if_pos rfl]

theorem scan_cons_esc (rest : List UInt8) :
    scan (esc :: rest) = if rest.head?.any opensSequence then scan rest else some .cancel := by
  rw [scan, if_neg (by decide)]
  by_cases opens : rest.head?.any opensSequence = true <;> simp [opens]

theorem scan_cons_other {byte : UInt8} (not_quit : byte ≠ ctrlC) (not_esc : byte ≠ esc)
    (rest : List UInt8) : scan (byte :: rest) = scan rest := by
  simp [scan, not_quit, not_esc]

theorem verdict_cons_ctrlC (rest : List UInt8) : verdict (ctrlC :: rest) = .quit := by
  rw [verdict.eq_def]
  simp

theorem verdict_cons_esc_cons (next : UInt8) (rest : List UInt8) :
    verdict (esc :: next :: rest) =
      if opensSequence next then verdict (next :: rest) else .cancel := by
  conv_lhs => rw [verdict.eq_def]
  rfl

theorem verdict_cons_other {byte : UInt8} (not_quit : byte ≠ ctrlC) (not_esc : byte ≠ esc)
    (rest : List UInt8) : verdict (byte :: rest) = verdict rest := by
  conv_lhs => rw [verdict.eq_def]
  simp [not_quit, not_esc]

/-- What a judged run leaves to the scan of the bytes after it. -/
def Verdict.followedBy (rest : List UInt8) : Verdict → Option Press
  | .cancel => some .cancel
  | .quit => some .quit
  | .idle => scan rest
  | .undecided => scan (esc :: rest)

/-- The verdict on a run is the scan of it, up to an escape at its end. -/
theorem scan_append (run rest : List UInt8) :
    scan (run ++ rest) = (verdict run).followedBy rest := by
  induction run with
  | nil => rfl
  | cons byte run induction =>
      by_cases quits : byte = ctrlC
      · rw [quits, List.cons_append, scan_cons_ctrlC, verdict_cons_ctrlC]
        rfl
      by_cases escapes : byte = esc
      · subst escapes
        cases run with
        | nil => rfl
        | cons next run =>
            rw [List.cons_append, scan_cons_esc, induction, verdict_cons_esc_cons]
            by_cases opens : opensSequence next = true
            · simp [opens]
            · simp [opens, Verdict.followedBy]
      · rw [List.cons_append, scan_cons_other quits escapes, induction,
          verdict_cons_other quits escapes]

/-- What a wait answers, or else what the bytes it has not judged do. -/
def Wait.verdict (wait : Wait) : Option Press :=
  (wait.ending.press.filter fun press => press.Stops).or (scan wait.unjudged)

/-- What the loop knows of an escape that it holds back: when the next byte arrives. -/
def Expects (start timeout clock : ℕ) (held : Bool) (stream : List Arrival) : Prop :=
  held = true → ∀ next ∈ stream.head?,
    next.time ≤ clock + escTail ∧ next.time + millisecond ≤ start + timeout

theorem chunk_append_drop (stream : List Arrival) (time count : ℕ) :
    chunk stream time count ++ stream.drop (chunk stream time count).length = stream := by
  have front : chunk stream time count <+: stream :=
    (List.take_prefix _ _).trans (List.takeWhile_prefix _)
  conv_lhs => rw [List.prefix_iff_eq_take.mp front, List.length_take,
    Nat.min_eq_left front.length_le, List.take_append_drop]

/-- The poll for the tail of a held-back escape lasts until the tail is there. -/
theorem time_le_deadline {start timeout clock late : ℕ} {first : Arrival} {rest : List Arrival}
    (begun : start ≤ clock) (expects : Expects start timeout clock true (first :: rest)) :
    first.time ≤ clock + late +
      pollTimeout timeout (clock + late - start) true * millisecond := by
  obtain ⟨window, budget⟩ := expects rfl first rfl
  unfold pollTimeout maxPollTimeout
  unfold escTail millisecond at *
  simp only [if_true]
  omega

/-- The verdict on what is read leaves the rest of the scan to the bytes still to come. -/
theorem scan_of_read (held : Bool) (stream : List Arrival) (time count : ℕ) :
    scan (heldBack held ++ bytes stream) =
      (verdict (heldBack held ++ bytes (chunk stream time count))).followedBy
        (bytes (stream.drop (chunk stream time count).length)) := by
  have split := congrArg bytes (chunk_append_drop stream time count)
  rw [bytes, List.map_append] at split
  rw [← scan_append, ← split, List.append_assoc]
  rfl

/-- The loop answers like the scan of the held-back escape and the bytes still to come. -/
theorem waitLoop_scan {start timeout clock : ℕ} {held : Bool} {stream : List Arrival}
    {turns : List Turn} (sound : .failed ∉ turns) (begun : start ≤ clock)
    (expects : Expects start timeout clock held stream)
    (inTime : ∀ read ∈ (waitLoop start timeout clock held stream turns).reads, read.TailInTime) :
    (waitLoop start timeout clock held stream turns).verdict =
      scan (heldBack held ++ bytes stream) := by
  induction turns generalizing clock held stream with
  | nil => rfl
  | cons turn turns induction =>
      have sound_later : .failed ∉ turns := fun member => sound (List.mem_cons_of_mem _ member)
      cases turn with
      | failed => exact (sound List.mem_cons_self).elim
      | interrupted late =>
          refine induction sound_later (begun.trans (Nat.le_add_right _ _)) ?_ inTime
          intro escape next member
          obtain ⟨window, budget⟩ := expects escape next member
          exact ⟨window.trans (by omega), budget⟩
      | polls late lag more =>
          cases stream with
          | nil => cases held <;> rfl
          | cons first stream =>
              rw [waitLoop] at inTime ⊢
              dsimp only at inTime ⊢
              by_cases expires : clock + late + pollTimeout timeout (clock + late - start) held *
                  millisecond < first.time
              · rw [if_pos expires]
                cases held with
                | false => rfl
                | true => exact absurd (time_le_deadline begun expects) (Nat.not_le.mpr expires)
              have later : start ≤ max (clock + late) first.time + lag := by omega
              rw [if_neg expires] at inTime ⊢
              generalize max (clock + late) first.time + lag = time at inTime later ⊢
              generalize min (more + 1) (bufferSize - (heldBack held).length) = count at inTime ⊢
              rw [scan_of_read held (first :: stream) time count]
              cases judged :
                  verdict (heldBack held ++ bytes (chunk (first :: stream) time count)) with
              | cancel => rfl
              | quit => rfl
              | idle => rfl
              | undecided =>
                  simp only [judged] at inTime ⊢
                  obtain ⟨tail, rest⟩ := List.forall_mem_cons.mp inTime
                  exact induction sound_later later (fun _ => tail judged) rest

theorem run_scan {call : Call} {clock : ℕ} {stream : List Arrival} (sound : .failed ∉ call.turns)
    (inTime : ∀ read ∈ (call.run clock stream).reads, read.TailInTime) :
    (call.run clock stream).verdict = scan (bytes stream) := by
  unfold Call.run at inTime ⊢
  dsimp only at inTime ⊢
  split at inTime
  · rename_i terminal
    rw [if_pos terminal]
    exact waitLoop_scan sound (Nat.le_refl _) (fun escape => by cases escape) inTime
  · rename_i no_terminal
    rw [if_neg no_terminal]
    rfl

/-- A wait that does not stop the repetition leaves the scan to what it has not judged. -/
theorem scan_of_goes_on {wait : Wait} {press : Press} (returned : wait.ending.press = some press)
    (goes_on : ¬ press.Stops) : wait.verdict = scan (bytes wait.rest) := by
  rw [Wait.verdict, returned, Option.filter_some_neg (by simpa using goes_on), Option.none_or,
    Wait.unjudged]
  cases ending : wait.ending with
  | waiting held =>
      rw [ending] at returned
      cases returned
  | timedOut | failed | judged => rfl

/-- The repetition's answer, or else the scan of what it has not judged, is the scan of it all. -/
theorem repeatWait_scan {calls : List Call} {clock : ℕ} {stream : List Arrival}
    (sound : ∀ call ∈ calls, .failed ∉ call.turns)
    (inTime : ∀ read ∈ (repeatWait calls clock stream).reads, read.TailInTime) :
    (repeatWait calls clock stream).answer.or (scan (repeatWait calls clock stream).unjudged) =
      scan (bytes stream) := by
  induction calls generalizing clock stream with
  | nil => rfl
  | cons call calls induction =>
      obtain ⟨sound_now, sound_later⟩ := List.forall_mem_cons.mp sound
      have one : (∀ read ∈ (call.run clock stream).reads, read.TailInTime) →
          (call.run clock stream).verdict = scan (bytes stream) := run_scan sound_now
      rw [repeatWait] at inTime ⊢
      dsimp only at inTime ⊢
      cases returned : (call.run clock stream).ending.press with
      | none =>
          rw [returned] at inTime
          have now := one inTime
          rwa [Wait.verdict, returned] at now
      | some press =>
          simp only [returned] at inTime ⊢
          by_cases stops : press.Stops
          · rw [if_pos stops] at inTime ⊢
            have now := one inTime
            rwa [Wait.verdict, returned, Option.filter_some_pos (by simpa using stops)] at now
          · rw [if_neg stops] at inTime ⊢
            rw [List.forall_mem_append] at inTime
            rw [induction sound_later inTime.2, ← scan_of_goes_on returned stops]
            exact one inTime.1

/-- Ordinary bytes and complete CSI and SS3 sequences. -/
inductive CompleteKeys : List UInt8 → Prop
  | nil : CompleteKeys []
  | ordinary {byte : UInt8} {rest : List UInt8} : byte ≠ ctrlC → byte ≠ esc →
      CompleteKeys rest → CompleteKeys (byte :: rest)
  | csi {body : List UInt8} {final : UInt8} {rest : List UInt8} :
      (∀ byte ∈ body, 0x20 ≤ byte ∧ byte ≤ 0x3F) → 0x40 ≤ final → final ≤ 0x7E →
      CompleteKeys rest → CompleteKeys (esc :: 0x5B :: (body ++ final :: rest))
  | ss3 {final : UInt8} {rest : List UInt8} : 0x20 ≤ final → final ≤ 0x7E →
      CompleteKeys rest → CompleteKeys (esc :: 0x4F :: final :: rest)

theorem ordinary_of_ge {byte : UInt8} (printable : 0x20 ≤ byte) : byte ≠ ctrlC ∧ byte ≠ esc := by
  constructor <;> rintro rfl <;> exact absurd printable (by decide)

theorem scan_cons_printable {byte : UInt8} (printable : 0x20 ≤ byte) (rest : List UInt8) :
    scan (byte :: rest) = scan rest :=
  scan_cons_other (ordinary_of_ge printable).1 (ordinary_of_ge printable).2 rest

theorem scan_append_printable {body : List UInt8} (printable : ∀ byte ∈ body, 0x20 ≤ byte)
    (rest : List UInt8) : scan (body ++ rest) = scan rest := by
  induction body with
  | nil => rfl
  | cons byte body induction =>
      rw [List.cons_append, scan_cons_printable (printable byte List.mem_cons_self)]
      exact induction fun other member => printable other (List.mem_cons_of_mem byte member)

theorem scan_cons_introducer {byte : UInt8} (opens : opensSequence byte = true)
    (rest : List UInt8) : scan (esc :: byte :: rest) = scan (byte :: rest) := by
  rw [scan_cons_esc]
  exact if_pos opens

theorem CompleteKeys.scan_eq_none {stream : List UInt8} (complete : CompleteKeys stream) :
    scan stream = none := by
  induction complete with
  | nil => rfl
  | ordinary not_quit not_esc _ induction => rwa [scan_cons_other not_quit not_esc]
  | @csi body final rest parameters above _ _ induction =>
      have final_printable : 0x20 ≤ final := UInt8.le_trans (by decide) above
      rw [scan_cons_introducer rfl, scan_cons_printable (by decide),
        scan_append_printable fun byte member => (parameters byte member).1,
        scan_cons_printable final_printable, induction]
  | ss3 above _ _ induction =>
      rw [scan_cons_introducer rfl, scan_cons_printable (by decide), scan_cons_printable above,
        induction]

/-- An arrow key in three reads, a letter and a return, and an escape that the last wait holds
back. -/
def arrowThenEscape : List Call :=
  [⟨0, true, 100 * millisecond, [.polls 0 0 0, .polls 3 0 0]⟩,
    ⟨0, true, 100 * millisecond, [.interrupted 5, .polls 20 0 2]⟩,
    ⟨7, true, 100 * millisecond, [.polls 0 0 31, .polls 0 0 31]⟩]

/-- A byte that arrives at this millisecond. -/
def arrives (milliseconds : ℕ) (byte : UInt8) : Arrival := ⟨milliseconds * millisecond, byte⟩

/-- The bytes of that. -/
def arrowThenEscapeBytes : List Arrival :=
  [arrives 20 0x1B, arrives 60 0x5B, arrives 61 0x41, arrives 61 0x71, arrives 61 0x0D,
    arrives 150 0x1B]

/-- An arrow key whose tail comes ten milliseconds after its escape, which is read at the end of the
budget. -/
def lateArrow : List Arrival := [arrives 95 0x1B, arrives 105 0x5B, arrives 105 0x41]

end PresenceUnlock.Cli.Keys
