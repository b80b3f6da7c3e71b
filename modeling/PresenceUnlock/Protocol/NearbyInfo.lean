import PresenceUnlock.Protocol.Profile
import PresenceUnlock.RustStd.Machine

/-!
# The grammar of Continuity frames

A frame is a sequence of records, and the record loop reads it as one.  Where it fails, it names the
first record that is not as it should be.
-/

namespace PresenceUnlock.Apple

open RustStd

/-- A type byte, a length byte, and exactly that many bytes of payload. -/
structure Record where
  /-- The type. -/
  kind : UInt8
  /-- The length byte. -/
  length : UInt8
  /-- The payload. -/
  payload : List UInt8
  /-- It is as long as the length byte says. -/
  sized : payload.length = length.toNat

namespace Record

/-- The bytes of a record. -/
def bytes (record : Record) : List UInt8 := record.kind :: record.length :: record.payload

/-- The record that tells of the lock. -/
def IsNearbyInfo (record : Record) : Prop := record.kind = nearbyInfoType

instance (record : Record) : Decidable record.IsNearbyInfo := inferInstanceAs (Decidable (_ = _))

/-- A Nearby Info record of at least three bytes, the second of which carries these flags. -/
def Carries (record : Record) (info : NearbyInfo) : Prop :=
  3 ≤ record.payload.length ∧ ∃ flags, record.payload[1]? = some flags ∧
    info.watchLocked = (flags &&& 0x20 != 0) ∧
    info.watchAutoUnlockEnabled = (flags &&& 0x40 != 0) ∧
    info.autoUnlockEnabled = (flags &&& 0x80 != 0)

theorem length_bytes (record : Record) : record.bytes.length = 2 + record.length.toNat := by
  rw [bytes, List.length_cons, List.length_cons, record.sized]
  omega

end Record

/-- The bytes of a sequence of records. -/
def framing (records : List Record) : List UInt8 := records.flatMap Record.bytes

/-- Bytes that end within a record. -/
inductive Truncated : List UInt8 → Prop
  | kind (kind : UInt8) : Truncated [kind]
  | payload (kind length : UInt8) (payload : List UInt8) (short : payload.length < length.toNat) :
      Truncated (kind :: length :: payload)

/-- Bytes end, or end within a record, or begin with one. -/
theorem cases_framing (bytes : List UInt8) :
    bytes = [] ∨ Truncated bytes ∨ ∃ record more, bytes = Record.bytes record ++ more := by
  rcases bytes with _ | ⟨kind, _ | ⟨length, rest⟩⟩
  · exact .inl rfl
  · exact .inr (.inl (.kind kind))
  · right
    by_cases short : rest.length < length.toNat
    · exact .inl (.payload kind length rest short)
    · right
      have sized : (rest.take length.toNat).length = length.toNat := by
        rw [List.length_take]
        omega
      refine ⟨⟨kind, length, rest.take length.toNat, sized⟩, rest.drop length.toNat, ?_⟩
      rw [Record.bytes, List.cons_append, List.cons_append, List.take_append_drop]

section Loop

variable {front rest more : List UInt8} {result final : Option NearbyInfo} {record : Record}
  {records : List Record} {outcome : Except ParseError NearbyInfo}

theorem getElem?_at (front rest : List UInt8) (position : Nat) :
    (front ++ rest)[front.length + position]? = rest[position]? := by
  rw [List.getElem?_append_right (Nat.le_add_right _ _), Nat.add_sub_cancel_left]

/-- At the end of the bytes, the loop returns what it found. -/
theorem parseRecords_end_some (info : NearbyInfo) :
    parseRecords front front.length (some info) = .ok info := by
  rw [parseRecords.eq_def, if_neg (Nat.lt_irrefl _)]

theorem parseRecords_end_none :
    parseRecords front front.length none = .error .missingNearbyInfo := by
  rw [parseRecords.eq_def, if_neg (Nat.lt_irrefl _)]

/-- Two bytes in, the loop knows which bytes are the payload. -/
theorem parseRecords_header {data : List UInt8} {offset : Nat} {kind length : UInt8}
    (kind_at : data[offset]? = some kind) (length_at : data[offset + 1]? = some length) :
    parseRecords data offset result =
      if offset + 2 + length.toNat ≤ data.length then
        (readRecord kind ((data.take (offset + 2 + length.toNat)).drop (offset + 2)) result).bind
          (parseRecords data (offset + 2 + length.toNat))
      else .error .truncated := by
  obtain ⟨inside, _⟩ := List.getElem?_eq_some_iff.mp kind_at
  rw [parseRecords.eq_def, if_pos inside, kind_at, length_at]
  dsimp only
  split_ifs
  · cases readRecord kind ((data.take (offset + 2 + length.toNat)).drop (offset + 2)) result <;> rfl
  · rfl

theorem parseRecords_truncated (truncated : Truncated rest) :
    parseRecords (front ++ rest) front.length result = .error .truncated := by
  have kind_at := getElem?_at front rest 0
  have length_at := getElem?_at front rest 1
  rw [Nat.add_zero] at kind_at
  cases truncated with
  | kind kind =>
      rw [parseRecords.eq_def, if_pos (by simp), kind_at, length_at]
      rfl
  | payload kind length payload short =>
      rw [parseRecords_header kind_at length_at, if_neg]
      simp only [List.length_append, List.length_cons]
      omega

/-- A record is read, and the loop goes on behind it. -/
theorem parseRecords_record :
    parseRecords (front ++ (record.bytes ++ more)) front.length result =
      (readRecord record.kind record.payload result).bind
        (parseRecords (front ++ (record.bytes ++ more)) (front ++ record.bytes).length) := by
  have kind_at : (front ++ (record.bytes ++ more))[front.length]? = some record.kind :=
    getElem?_at front (record.bytes ++ more) 0
  have length_at : (front ++ (record.bytes ++ more))[front.length + 1]? = some record.length :=
    getElem?_at front (record.bytes ++ more) 1
  have position : front.length + 2 + record.length.toNat = (front ++ record.bytes).length := by
    rw [List.length_append, record.length_bytes]
    omega
  have payload : ((front ++ (record.bytes ++ more)).take (front ++ record.bytes).length).drop
      (front.length + 2) = record.payload := by
    rw [← List.append_assoc, List.take_left, ← List.drop_drop, List.drop_left]
    rfl
  rw [parseRecords_header kind_at length_at, position, payload, if_pos]
  simp

end Loop

/-- What the records of a frame do to the result, one after another. -/
def readRecords (result : Option NearbyInfo) : List Record → Except ParseError (Option NearbyInfo)
  | [] => .ok result
  | record :: records =>
      match readRecord record.kind record.payload result with
      | .error error => .error error
      | .ok result => readRecords result records

/-- How the loop ends: at the end of the bytes, within a record, or at a record it refuses. -/
inductive Ends : Option NearbyInfo → List UInt8 → Except ParseError NearbyInfo → Prop
  | found (info : NearbyInfo) : Ends (some info) [] (.ok info)
  | missing : Ends none [] (.error .missingNearbyInfo)
  | truncated (result : Option NearbyInfo) {rest : List UInt8} (truncated : Truncated rest) :
      Ends result rest (.error .truncated)
  | refused {result : Option NearbyInfo} {record : Record} {error : ParseError} (more : List UInt8)
      (refuses : readRecord record.kind record.payload result = .error error) :
      Ends result (record.bytes ++ more) (.error error)

section Loop

variable {front rest more : List UInt8} {result final : Option NearbyInfo} {record : Record}
  {records : List Record} {outcome : Except ParseError NearbyInfo}

theorem parseRecords_of_ends (ends : Ends result rest outcome) :
    parseRecords (front ++ rest) front.length result = outcome := by
  cases ends with
  | found info => rw [List.append_nil, parseRecords_end_some]
  | missing => rw [List.append_nil, parseRecords_end_none]
  | truncated _ truncated => exact parseRecords_truncated truncated
  | refused more refuses =>
      rw [parseRecords_record, refuses]
      exact rfl

/-- The loop reads records until it ends. -/
theorem parseRecords_framing (read : readRecords result records = .ok final) :
    parseRecords (front ++ (framing records ++ rest)) front.length result =
      parseRecords (front ++ (framing records ++ rest))
          (front ++ framing records).length final := by
  induction records generalizing front result with
  | nil =>
      cases read
      simp [framing]
  | cons record records induction =>
      rw [readRecords] at read
      have split : front ++ (framing (record :: records) ++ rest) =
          front ++ (record.bytes ++ (framing records ++ rest)) := by simp [framing]
      have behind : front ++ framing (record :: records) =
          front ++ record.bytes ++ framing records := by
        simp [framing]
      rw [split, parseRecords_record, behind]
      cases reads : readRecord record.kind record.payload result with
      | error error =>
          rw [reads] at read
          cases read
      | ok next =>
          rw [reads] at read
          rw [← List.append_assoc front]
          exact induction read

/-- Some records are read, and then the loop ends. -/
theorem exists_framing (result : Option NearbyInfo) (rest : List UInt8) :
    ∃ records more final outcome, rest = framing records ++ more ∧
      readRecords result records = .ok final ∧ Ends final more outcome := by
  induction length : rest.length using Nat.strongRecOn generalizing rest result with
  | ind size induction =>
      rcases cases_framing rest with rfl | truncated | ⟨record, more, rfl⟩
      · cases result with
        | none => exact ⟨[], [], none, _, rfl, rfl, .missing⟩
        | some info => exact ⟨[], [], some info, _, rfl, rfl, .found info⟩
      · exact ⟨[], rest, result, _, rfl, rfl, .truncated result truncated⟩
      · cases reads : readRecord record.kind record.payload result with
        | error error => exact ⟨[], _, result, _, rfl, rfl, .refused more reads⟩
        | ok next =>
            have shorter : more.length < size := by
              rw [← length, List.length_append, record.length_bytes]
              omega
            obtain ⟨records, more', final, outcome, rfl, read, ends⟩ :=
              induction more.length shorter next more rfl
            refine ⟨record :: records, more', final, outcome, by simp [framing], ?_, ends⟩
            rw [readRecords, reads]
            exact read

/-- The loop, as a reading of records. -/
theorem parseNearbyInfo_eq_iff {data : List UInt8} : parseNearbyInfo data = outcome ↔
    ∃ records more final, data = framing records ++ more ∧
      readRecords none records = .ok final ∧ Ends final more outcome := by
  have parsed : ∀ {records more final outcome}, readRecords none records = .ok final →
      Ends final more outcome → parseNearbyInfo (framing records ++ more) = outcome := by
    intro records more final outcome read ends
    have run : parseRecords ([] ++ (framing records ++ more)) 0 none =
        parseRecords ([] ++ (framing records ++ more)) ([] ++ framing records).length final :=
      parseRecords_framing read
    rw [List.nil_append, List.nil_append] at run
    rw [parseNearbyInfo]
    exact run.trans (parseRecords_of_ends ends)
  constructor
  · rintro rfl
    obtain ⟨records, more, final, outcome, rfl, read, ends⟩ := exists_framing none data
    exact ⟨records, more, final, rfl, read, parsed read ends ▸ ends⟩
  · rintro ⟨records, more, final, rfl, read, ends⟩
    exact parsed read ends

end Loop

/-- The bytes are records, exactly one of which is a Nearby Info record, and that one carries
`info`. -/
def Accepts (data : List UInt8) (info : NearbyInfo) : Prop :=
  ∃ records record, data = framing records ∧ records.filter Record.IsNearbyInfo = [record] ∧
    record.Carries info

/-- The bytes are records, none of which is a Nearby Info record. -/
def Lacks (data : List UInt8) : Prop :=
  ∃ records, data = framing records ∧ ∀ record ∈ records, ¬ record.IsNearbyInfo

/-- Nearby Info records are at least three bytes long, and there is at most one. -/
def Sound (records : List Record) : Prop :=
  (∀ record ∈ records, record.IsNearbyInfo → 3 ≤ record.payload.length) ∧
    (records.filter Record.IsNearbyInfo).length ≤ 1

/-- The first record that is not as it should be, behind records that are. -/
inductive Offends : List UInt8 → ParseError → Prop
  | truncated {records : List Record} {rest : List UInt8} (sound : Sound records)
      (truncated : Truncated rest) : Offends (framing records ++ rest) .truncated
  | short {records : List Record} {record : Record} (more : List UInt8) (sound : Sound records)
      (nearby : record.IsNearbyInfo) (short : record.payload.length < 3) :
      Offends (framing records ++ (record.bytes ++ more)) .shortNearbyInfo
  | duplicate {records : List Record} {first record : Record} (more : List UInt8)
      (sound : Sound records) (member : first ∈ records) (known : first.IsNearbyInfo)
      (nearby : record.IsNearbyInfo) (long : 3 ≤ record.payload.length) :
      Offends (framing records ++ (record.bytes ++ more)) .duplicateNearbyInfo

section Records

variable {result final : Option NearbyInfo} {record : Record} {records : List Record}
  {info : NearbyInfo} {error : ParseError}

theorem readRecord_of_other (other : ¬ record.IsNearbyInfo) :
    readRecord record.kind record.payload result = .ok result := if_pos other

theorem readRecord_of_nearby (nearby : record.IsNearbyInfo) :
    readRecord record.kind record.payload result =
      if record.payload.length < 3 then .error .shortNearbyInfo
      else if result.isSome then .error .duplicateNearbyInfo
      else .ok ((record.payload[1]?).map NearbyInfo.ofFlags) := if_neg (not_not.mpr nearby)

/-- A Nearby Info record is read if it is long enough and the first one. -/
theorem readRecord_eq_ok_iff (nearby : record.IsNearbyInfo) :
    readRecord record.kind record.payload result = .ok final ↔
      result = none ∧ ∃ info, record.Carries info ∧ final = some info := by
  rw [readRecord_of_nearby nearby]
  by_cases short : record.payload.length < 3
  · rw [if_pos short]
    refine iff_of_false nofun ?_
    rintro ⟨_, _, ⟨long, _⟩, _⟩
    omega
  · rw [if_neg short]
    cases result with
    | some known => exact iff_of_false nofun nofun
    | none =>
        obtain ⟨flags, found⟩ : ∃ flags, record.payload[1]? = some flags :=
          ⟨_, List.getElem?_eq_getElem (by omega)⟩
        rw [found]
        constructor
        · rintro ⟨⟩
          exact ⟨rfl, _, ⟨not_lt.mp short, flags, found, rfl, rfl, rfl⟩, rfl⟩
        · rintro ⟨_, info, ⟨_, flags', found', locked, capable, enabled⟩, rfl⟩
          rw [found] at found'
          cases found'
          cases info
          cases locked
          cases capable
          cases enabled
          rfl

theorem readRecord_eq_error_iff : readRecord record.kind record.payload result = .error error ↔
    record.IsNearbyInfo ∧
      (record.payload.length < 3 ∧ error = .shortNearbyInfo ∨
        3 ≤ record.payload.length ∧ result.isSome ∧ error = .duplicateNearbyInfo) := by
  by_cases nearby : record.IsNearbyInfo
  · rw [readRecord_of_nearby nearby, and_iff_right nearby]
    by_cases short : record.payload.length < 3
    · rw [if_pos short]
      constructor
      · rintro ⟨⟩
        exact .inl ⟨short, rfl⟩
      · rintro (⟨_, rfl⟩ | ⟨long, _⟩)
        · rfl
        · omega
    · rw [if_neg short]
      cases result with
      | none =>
          refine iff_of_false nofun ?_
          rintro (⟨short', _⟩ | ⟨_, ⟨⟩, _⟩)
          exact short short'
      | some known =>
          constructor
          · rintro ⟨⟩
            exact .inr ⟨not_lt.mp short, rfl, rfl⟩
          · rintro (⟨short', _⟩ | ⟨_, _, rfl⟩)
            · exact (short short').elim
            · rfl
  · rw [readRecord_of_other nearby]
    exact iff_of_false nofun fun refused => nearby refused.1

/-- After a Nearby Info record, there may not be another one. -/
theorem readRecords_of_some : readRecords (some info) records = .ok final ↔
    records.filter Record.IsNearbyInfo = [] ∧ final = some info := by
  induction records with
  | nil => simp [readRecords, eq_comm]
  | cons record records induction =>
      rw [readRecords]
      by_cases nearby : record.IsNearbyInfo
      · rw [List.filter_cons_of_pos (by simpa using nearby)]
        refine iff_of_false ?_ nofun
        cases reads : readRecord record.kind record.payload (some info) with
        | error error => exact nofun
        | ok next => cases ((readRecord_eq_ok_iff nearby).mp reads).1
      · rw [readRecord_of_other nearby, List.filter_cons_of_neg (by simpa using nearby)]
        exact induction

theorem readRecords_of_none : readRecords none records = .ok final ↔
    records.filter Record.IsNearbyInfo = [] ∧ final = none ∨
      ∃ record info, records.filter Record.IsNearbyInfo = [record] ∧ record.Carries info ∧
        final = some info := by
  induction records with
  | nil => simp [readRecords, eq_comm]
  | cons record records induction =>
      rw [readRecords]
      by_cases nearby : record.IsNearbyInfo
      · rw [List.filter_cons_of_pos (by simpa using nearby)]
        constructor
        · intro read
          cases reads : readRecord record.kind record.payload none with
          | error error =>
              rw [reads] at read
              cases read
          | ok next =>
              rw [reads] at read
              obtain ⟨_, info, carries, rfl⟩ := (readRecord_eq_ok_iff nearby).mp reads
              obtain ⟨alone, rfl⟩ := readRecords_of_some.mp read
              exact .inr ⟨record, info, by rw [alone], carries, rfl⟩
        · rintro (⟨⟨⟩, _⟩ | ⟨_, info, alone, carries, rfl⟩)
          obtain ⟨rfl, others⟩ := List.cons.inj alone
          rw [(readRecord_eq_ok_iff nearby).mpr ⟨rfl, info, carries, rfl⟩]
          exact readRecords_of_some.mpr ⟨others, rfl⟩
      · rw [readRecord_of_other nearby, List.filter_cons_of_neg (by simpa using nearby)]
        exact induction

theorem exists_carries (long : 3 ≤ record.payload.length) : ∃ info, record.Carries info := by
  obtain ⟨flags, found⟩ : ∃ flags, record.payload[1]? = some flags :=
    ⟨_, List.getElem?_eq_getElem (by omega)⟩
  exact ⟨NearbyInfo.ofFlags flags, long, flags, found, rfl, rfl, rfl⟩

theorem mem_nearbyInfos : record ∈ records.filter Record.IsNearbyInfo ↔
    record ∈ records ∧ record.IsNearbyInfo := by
  simp

/-- Sound records are read, and what is found tells whether there is a Nearby Info record. -/
theorem sound_iff : Sound records ↔ ∃ final, readRecords none records = .ok final := by
  constructor
  · rintro ⟨long, few⟩
    cases split : records.filter Record.IsNearbyInfo with
    | nil => exact ⟨none, readRecords_of_none.mpr (.inl ⟨split, rfl⟩)⟩
    | cons record others =>
        have member : record ∈ records.filter Record.IsNearbyInfo := by simp [split]
        obtain ⟨present, nearby⟩ := mem_nearbyInfos.mp member
        obtain ⟨info, carries⟩ := exists_carries (long record present nearby)
        rw [split, List.length_cons] at few
        obtain rfl : others = [] := List.length_eq_zero_iff.mp (by omega)
        exact ⟨some info, readRecords_of_none.mpr (.inr ⟨record, info, split, carries, rfl⟩)⟩
  · rintro ⟨final, read⟩
    rcases readRecords_of_none.mp read with ⟨none, _⟩ | ⟨known, info, alone, carries, _⟩
    · refine ⟨fun record member nearby => ?_, by simp [none]⟩
      have absent := mem_nearbyInfos.mpr ⟨member, nearby⟩
      rw [none] at absent
      cases absent
    · refine ⟨fun record member nearby => ?_, by simp [alone]⟩
      have same := mem_nearbyInfos.mpr ⟨member, nearby⟩
      rw [alone, List.mem_singleton] at same
      rw [same]
      exact carries.1

theorem isSome_iff (read : readRecords none records = .ok final) :
    final.isSome ↔ ∃ record ∈ records, record.IsNearbyInfo := by
  rcases readRecords_of_none.mp read with ⟨none, rfl⟩ | ⟨known, info, alone, _, rfl⟩
  · refine iff_of_false nofun ?_
    rintro ⟨record, member, nearby⟩
    have absent := mem_nearbyInfos.mpr ⟨member, nearby⟩
    rw [none] at absent
    cases absent
  · refine iff_of_true rfl ⟨known, mem_nearbyInfos.mp ?_⟩
    rw [alone]
    exact List.mem_singleton_self known

theorem parseNearbyInfo_eq_ok_iff {data : List UInt8} :
    parseNearbyInfo data = .ok info ↔ Accepts data info := by
  rw [parseNearbyInfo_eq_iff]
  constructor
  · rintro ⟨records, more, final, rfl, read, ends⟩
    cases ends
    rcases readRecords_of_none.mp read with ⟨_, ⟨⟩⟩ | ⟨record, info, alone, carries, ⟨⟩⟩
    exact ⟨records, record, List.append_nil _, alone, carries⟩
  · rintro ⟨records, record, rfl, alone, carries⟩
    exact ⟨records, [], some info, (List.append_nil _).symm,
      readRecords_of_none.mpr (.inr ⟨record, info, alone, carries, rfl⟩), .found info⟩

theorem parseNearbyInfo_eq_missing_iff {data : List UInt8} :
    parseNearbyInfo data = .error .missingNearbyInfo ↔ Lacks data := by
  rw [parseNearbyInfo_eq_iff]
  constructor
  · rintro ⟨records, more, final, rfl, read, ends⟩
    cases ends with
    | missing =>
        refine ⟨records, List.append_nil _, fun record member nearby => ?_⟩
        cases (isSome_iff read).mpr ⟨record, member, nearby⟩
    | refused more refuses =>
        rcases (readRecord_eq_error_iff.mp refuses).2 with ⟨_, ⟨⟩⟩ | ⟨_, _, ⟨⟩⟩
  · rintro ⟨records, rfl, others⟩
    have none_nearby : records.filter Record.IsNearbyInfo = [] :=
      List.filter_eq_nil_iff.mpr (by simpa using others)
    exact ⟨records, [], none, (List.append_nil _).symm,
      readRecords_of_none.mpr (.inl ⟨none_nearby, rfl⟩), .missing⟩

/-- Every other error is about the first record that is not as it should be. -/
theorem parseNearbyInfo_eq_error_iff {data : List UInt8} :
    parseNearbyInfo data = .error error ↔
      error = .missingNearbyInfo ∧ Lacks data ∨ Offends data error := by
  constructor
  · intro failed
    by_cases missing : error = .missingNearbyInfo
    · subst missing
      exact .inl ⟨rfl, parseNearbyInfo_eq_missing_iff.mp failed⟩
    · right
      obtain ⟨records, more, final, rfl, read, ends⟩ := parseNearbyInfo_eq_iff.mp failed
      have sound := sound_iff.mpr ⟨final, read⟩
      cases ends with
      | missing => exact (missing rfl).elim
      | truncated _ truncated => exact .truncated sound truncated
      | refused more refuses =>
          obtain ⟨nearby, ⟨short, rfl⟩ | ⟨long, known, rfl⟩⟩ := readRecord_eq_error_iff.mp refuses
          · exact .short more sound nearby short
          · obtain ⟨first, member, known⟩ := (isSome_iff read).mp known
            exact .duplicate more sound member known nearby long
  · rintro (⟨rfl, lacks⟩ | offends)
    · exact parseNearbyInfo_eq_missing_iff.mpr lacks
    · rw [parseNearbyInfo_eq_iff]
      cases offends with
      | truncated sound truncated =>
          obtain ⟨final, read⟩ := sound_iff.mp sound
          exact ⟨_, _, final, rfl, read, .truncated final truncated⟩
      | short more sound nearby short =>
          obtain ⟨final, read⟩ := sound_iff.mp sound
          exact ⟨_, _, final, rfl, read,
            .refused more (readRecord_eq_error_iff.mpr ⟨nearby, .inl ⟨short, rfl⟩⟩)⟩
      | duplicate more sound member known nearby long =>
          obtain ⟨final, read⟩ := sound_iff.mp sound
          have found := (isSome_iff read).mpr ⟨_, member, known⟩
          exact ⟨_, _, final, rfl, read,
            .refused more (readRecord_eq_error_iff.mpr ⟨nearby, .inr ⟨long, found, rfl⟩⟩)⟩

end Records

/-- What one turn of the loop comes to. -/
inductive Turn
  | returns (outcome : Except ParseError NearbyInfo)
  | continues (offset : Nat) (result : Option NearbyInfo)

/-- The turn that a record's reading comes to. -/
def Turn.ofReading (next : Nat) : Except ParseError (Option NearbyInfo) → Turn
  | .error error => .returns (.error error)
  | .ok result => .continues next result

/-- One turn of the loop, with the panics that its operations could end in. -/
def turn (data : List UInt8) (offset : Nat) (result : Option NearbyInfo) : Except Fault Turn := do
  if offset < data.length then
    let left ← subUsize data.length offset
    if left < 2 then
      return .returns (.error .truncated)
    let kind ← indexed data offset
    let next ← addUsize offset 1
    let length ← indexed data next
    let start ← addUsize offset 2
    match checkedAdd start length.toNat with
    | none => return .returns (.error .truncated)
    | some stop =>
        match getRange data start stop with
        | none => return .returns (.error .truncated)
        | some payload =>
            if kind ≠ nearbyInfoType then
              return .continues stop result
            if payload.length < 3 then
              return .returns (.error .shortNearbyInfo)
            if result.isSome then
              return .returns (.error .duplicateNearbyInfo)
            let flags ← indexed payload 1
            return .continues stop (some (NearbyInfo.ofFlags flags))
  else
    return .returns (match result with
      | none => .error .missingNearbyInfo
      | some info => .ok info)

/-- So many turns of the loop; `none` if they are not enough. -/
def turns (data : List UInt8) : Nat → Nat → Option NearbyInfo →
    Except Fault (Option (Except ParseError NearbyInfo))
  | 0, _, _ => .ok none
  | fuel + 1, offset, result => do
      match ← turn data offset result with
      | .returns outcome => return some outcome
      | .continues offset result => turns data fuel offset result

section Turns

variable {data : List UInt8} {offset : Nat} {result : Option NearbyInfo}

/-- A turn does what the source's record does, and no operation panics. -/
theorem turn_header {kind length : UInt8} (bounded : data.length < 2 ^ 63)
    (kind_at : data[offset]? = some kind) (length_at : data[offset + 1]? = some length) :
    turn data offset result =
      if offset + 2 + length.toNat ≤ data.length then
        .ok (.ofReading (offset + 2 + length.toNat)
          (readRecord kind ((data.take (offset + 2 + length.toNat)).drop (offset + 2)) result))
      else .ok (.returns (.error .truncated)) := by
  obtain ⟨inside, _⟩ := List.getElem?_eq_some_iff.mp kind_at
  obtain ⟨inside', _⟩ := List.getElem?_eq_some_iff.mp length_at
  have small := length.toNat_lt
  have left : subUsize data.length offset = .ok (data.length - offset) := subUsize_of_le inside.le
  have kind_read : indexed data offset = .ok kind := indexed_of_getElem? kind_at
  have next : addUsize offset 1 = .ok (offset + 1) := addUsize_of_lt (by omega)
  have length_read : indexed data (offset + 1) = .ok length := indexed_of_getElem? length_at
  have start : addUsize offset 2 = .ok (offset + 2) := addUsize_of_lt (by omega)
  have stop : checkedAdd (offset + 2) length.toNat = some (offset + 2 + length.toNat) :=
    checkedAdd_of_lt (by omega)
  have enough : ¬ data.length - offset < 2 := by omega
  rw [turn.eq_def, if_pos inside, left]
  simp only [Except.bind, bind, pure, Except.pure, kind_read, next, length_read, start, stop,
    enough, if_false]
  by_cases fits : offset + 2 + length.toNat ≤ data.length
  · rw [getRange, if_pos ⟨Nat.le_add_right _ _, fits⟩, if_pos fits]
    dsimp only
    generalize (data.take (offset + 2 + length.toNat)).drop (offset + 2) = payload
    rw [readRecord]
    by_cases other : kind ≠ nearbyInfoType
    · rw [if_pos other, if_pos other]
      rfl
    · rw [if_neg other, if_neg other]
      by_cases short : payload.length < 3
      · rw [if_pos short, if_pos short]
        rfl
      · rw [if_neg short, if_neg short]
        cases result with
        | some known => rfl
        | none =>
            obtain ⟨flags, found⟩ : ∃ flags, payload[1]? = some flags :=
              ⟨_, List.getElem?_eq_getElem (by omega)⟩
            rw [indexed_of_getElem? found, found]
            rfl
  · rw [getRange, if_neg fun both => fits both.2, if_neg fits]

/-- A turn returns what the loop returns, or it moves on within the bytes. -/
theorem turn_spec (result : Option NearbyInfo) (bounded : data.length < 2 ^ 63)
    (within : offset ≤ data.length) :
    turn data offset result = .ok (.returns (parseRecords data offset result)) ∨
      ∃ offset' result', turn data offset result = .ok (.continues offset' result') ∧
        offset < offset' ∧ offset' ≤ data.length ∧
        parseRecords data offset result = parseRecords data offset' result' := by
  rcases Nat.lt_or_eq_of_le within with inside | rfl
  · obtain ⟨kind, kind_at⟩ : ∃ kind, data[offset]? = some kind :=
      ⟨_, List.getElem?_eq_getElem inside⟩
    by_cases inside' : offset + 1 < data.length
    · obtain ⟨length, length_at⟩ : ∃ length, data[offset + 1]? = some length :=
        ⟨_, List.getElem?_eq_getElem inside'⟩
      rw [turn_header bounded kind_at length_at, parseRecords_header kind_at length_at]
      by_cases fits : offset + 2 + length.toNat ≤ data.length
      · rw [if_pos fits, if_pos fits]
        cases readRecord kind
            ((data.take (offset + 2 + length.toNat)).drop (offset + 2)) result with
        | error error => exact .inl rfl
        | ok next => exact .inr ⟨_, next, rfl, by omega, fits, rfl⟩
      · rw [if_neg fits, if_neg fits]
        exact .inl rfl
    · left
      have left : subUsize data.length offset = .ok (data.length - offset) := subUsize_of_le within
      have few : data.length - offset < 2 := by omega
      have absent : data[offset + 1]? = none := List.getElem?_eq_none (by omega)
      rw [turn.eq_def, if_pos inside, left, parseRecords.eq_def, if_pos inside, kind_at, absent]
      simp only [bind, Except.bind, few, if_true]
      rfl
  · left
    rw [turn.eq_def, if_neg (Nat.lt_irrefl _)]
    cases result with
    | none =>
        rw [parseRecords_end_none]
        exact rfl
    | some info =>
        rw [parseRecords_end_some]
        exact rfl

/-- As many turns as there are bytes, and one more, are enough. -/
theorem turns_eq {fuel : Nat} (bounded : data.length < 2 ^ 63) (within : offset ≤ data.length)
    (enough : data.length - offset < fuel) :
    turns data fuel offset result = .ok (some (parseRecords data offset result)) := by
  induction fuel generalizing offset result with
  | zero => cases enough
  | succ fuel induction =>
      rw [turns]
      rcases turn_spec result bounded within with
        returned | ⟨offset', result', moved, further, within', same⟩
      · rw [returned]
        rfl
      · rw [moved, same]
        exact induction within' (by omega)

end Turns

section Evaluate

variable {advertisement : Advertisement} {payload : List UInt8}
  (data : advertisement.manufacturer companyId = some payload)

include data

theorem evaluate_of_ok {info : NearbyInfo} (parsed : parseNearbyInfo payload = .ok info) :
    AppleContinuity.evaluate advertisement =
      if info.watchLocked || !info.autoUnlockEnabled then .revoke else .qualify := by
  simp only [AppleContinuity.evaluate, data, parsed]

theorem evaluate_of_error {error : ParseError} (parsed : parseNearbyInfo payload = .error error) :
    AppleContinuity.evaluate advertisement =
      if error = .missingNearbyInfo then .ignore else .revoke := by
  cases error <;> simp [AppleContinuity.evaluate, data, parsed]

end Evaluate

/-- The manufacturer data of an unlocked watch with auto-unlock enabled. -/
def Unlocked (advertisement : Advertisement) : Prop :=
  ∃ payload info, advertisement.manufacturer companyId = some payload ∧ Accepts payload info ∧
    info.autoUnlockEnabled = true ∧ info.watchLocked = false

/-- An advertisement without a Nearby Info record, and without a malformed one. -/
def Silent (advertisement : Advertisement) : Prop :=
  advertisement.manufacturer companyId = none ∨
    ∃ payload, advertisement.manufacturer companyId = some payload ∧ Lacks payload

theorem evaluate_eq_qualify_iff {advertisement : Advertisement} :
    AppleContinuity.evaluate advertisement = .qualify ↔ Unlocked advertisement := by
  cases data : advertisement.manufacturer companyId with
  | none =>
      refine iff_of_false ?_ ?_
      · simp [AppleContinuity.evaluate, data]
      · rintro ⟨payload, info, present, _⟩
        rw [data] at present
        cases present
  | some payload =>
      constructor
      · intro qualifies
        cases parsed : parseNearbyInfo payload with
        | error error =>
            rw [evaluate_of_error data parsed] at qualifies
            split at qualifies <;> cases qualifies
        | ok info =>
            rw [evaluate_of_ok data parsed] at qualifies
            refine ⟨payload, info, data, parseNearbyInfo_eq_ok_iff.mp parsed, ?_⟩
            cases locked : info.watchLocked <;> cases enabled : info.autoUnlockEnabled <;>
              simp [locked, enabled] at qualifies ⊢
      · rintro ⟨payload', info, present, accepts, enabled, unlocked⟩
        rw [data] at present
        cases present
        rw [evaluate_of_ok data (parseNearbyInfo_eq_ok_iff.mpr accepts)]
        simp [enabled, unlocked]

theorem evaluate_eq_ignore_iff {advertisement : Advertisement} :
    AppleContinuity.evaluate advertisement = .ignore ↔ Silent advertisement := by
  cases data : advertisement.manufacturer companyId with
  | none =>
      refine iff_of_true ?_ (.inl data)
      rw [AppleContinuity.evaluate, data]
  | some payload =>
      have present : Silent advertisement ↔ Lacks payload := by
        rw [Silent, data]
        simp
      rw [present, ← parseNearbyInfo_eq_missing_iff]
      cases parsed : parseNearbyInfo payload with
      | ok info =>
          rw [evaluate_of_ok data parsed]
          split <;> simp
      | error error =>
          rw [evaluate_of_error data parsed]
          simp

/-- What the record loop accepts, which error it returns otherwise, and what the profile makes of
it; the loop ends within so many turns, and none of them panics. -/
theorem parseNearbyInfo_grammar :
    (∀ data : Slice UInt8, turns data.items (data.items.length + 1) 0 none =
        .ok (some (parseNearbyInfo data.items))) ∧
      (∀ data info, parseNearbyInfo data = .ok info ↔ Accepts data info) ∧
      (∀ data, parseNearbyInfo data = .error .missingNearbyInfo ↔ Lacks data) ∧
      (∀ data error, parseNearbyInfo data = .error error ↔
        error = .missingNearbyInfo ∧ Lacks data ∨ Offends data error) ∧
      ∀ advertisement,
        (AppleContinuity.evaluate advertisement = .qualify ↔ Unlocked advertisement) ∧
        (AppleContinuity.evaluate advertisement = .ignore ↔ Silent advertisement) ∧
        (AppleContinuity.evaluate advertisement = .revoke ↔
          ¬ Unlocked advertisement ∧ ¬ Silent advertisement) := by
  refine ⟨fun data => ?_, fun _ _ => parseNearbyInfo_eq_ok_iff,
    fun _ => parseNearbyInfo_eq_missing_iff, fun _ _ => parseNearbyInfo_eq_error_iff,
    fun advertisement => ⟨evaluate_eq_qualify_iff, evaluate_eq_ignore_iff, ?_⟩⟩
  · exact turns_eq data.bounded (Nat.zero_le _) (Nat.lt_succ_self _)
  · rw [← evaluate_eq_qualify_iff, ← evaluate_eq_ignore_iff]
    cases AppleContinuity.evaluate advertisement <;> simp

end PresenceUnlock.Apple
