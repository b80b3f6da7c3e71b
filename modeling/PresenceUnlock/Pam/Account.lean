import PresenceUnlock.Daemon.Control

/-!
# The local account of a PAM user

The reader of the account file that decides whose daemon may answer.  It reads every line before it
gives a uid, so one malformed or repeated record anywhere makes it give none.
-/

namespace PresenceUnlock.Pam

open RustStd

/-- What separates the fields. -/
def colon : UInt8 := 0x3A

/-- The name and the uid of one line: seven fields, a name, and a decimal third field. -/
def readRecord (line : List UInt8) : Option (List UInt8 × UInt32) :=
  match line.splitOn colon with
  | [name, _password, uid, _gid, _gecos, _home, _shell] =>
      if name = [] then none
      else ((Text.fromUtf8 uid).bind Text.parseU32).map fun uid => (name, uid)
  | _ => none

/-- The loop over the lines, carrying the uid found so far. -/
def accountUidLines (user : List UInt8) (result : Option UInt32) :
    List (List UInt8) → Option UInt32
  | [] => result
  | line :: rest =>
      if line = [] then accountUidLines user result rest
      else
        match readRecord line with
        | none => none
        | some (name, uid) =>
            if name = user then
              -- `Option::replace` gives back what was there.
              if result.isSome then none else accountUidLines user (some uid) rest
            else accountUidLines user result rest

/-- The uid of `user` in the text of the account file. -/
def accountUid (passwd user : List UInt8) : Option UInt32 :=
  accountUidLines user none (passwd.splitOn newline)

/-- A line of seven fields without colons: a name, and a number in the third place. -/
structure IsRecord (line name : List UInt8) (uid : UInt32) : Prop where
  /-- The name is not empty. -/
  named : name ≠ []
  /-- The seven fields. -/
  fields : ∃ password digits gid gecos home shell : List UInt8,
    line = [colon].intercalate [name, password, digits, gid, gecos, home, shell] ∧
    (∀ field ∈ [name, password, digits, gid, gecos, home, shell], colon ∉ field) ∧
    ∃ text, Text.fromUtf8 digits = some text ∧ Text.parseU32 text = some uid

theorem readRecord_eq_some_iff (line name : List UInt8) (uid : UInt32) :
    readRecord line = some (name, uid) ↔ IsRecord line name uid := by
  constructor
  · intro read
    rw [readRecord.eq_def] at read
    split at read
    · rename_i found password digits gid gecos home shell split
      obtain ⟨joined, apart⟩ := (Text.splitOn_eq_iff (by simp)).mp split
      split at read
      · cases read
      rename_i named
      rw [Option.map_eq_some_iff] at read
      obtain ⟨_, number, same⟩ := read
      obtain ⟨rfl, rfl⟩ := Prod.mk.inj same
      exact ⟨named, password, digits, gid, gecos, home, shell, joined, apart,
        Option.bind_eq_some_iff.mp number⟩
    · cases read
  · rintro ⟨named, password, digits, gid, gecos, home, shell, joined, apart, number⟩
    have split := (Text.splitOn_eq_iff (by simp)).mpr ⟨joined, apart⟩
    rw [readRecord, split]
    dsimp only
    rw [if_neg named, Option.bind_eq_some_iff.mpr number]
    rfl

/-- The uid a line gives to `user`. -/
def uidOf (user line : List UInt8) : Option UInt32 :=
  (readRecord line).bind fun (name, uid) => if name = user then some uid else none

theorem uidOf_eq_some_iff (user line : List UInt8) (uid : UInt32) :
    uidOf user line = some uid ↔ IsRecord line user uid := by
  rw [← readRecord_eq_some_iff, uidOf, Option.bind_eq_some_iff]
  constructor
  · rintro ⟨⟨name, found⟩, read, same⟩
    dsimp only at same
    split at same
    · rename_i isUser
      cases same
      rw [read, isUser]
    · cases same
  · intro read
    exact ⟨_, read, if_pos rfl⟩

/-- The loop gives a uid when every line is a record or empty, and the uid found before and those
of the lines that name the user are together this one. -/
theorem accountUidLines_eq_some_iff (user : List UInt8) (result : Option UInt32)
    (lines : List (List UInt8)) (uid : UInt32) :
    accountUidLines user result lines = some uid ↔
      (∀ line ∈ lines, line ≠ [] → ∃ name uid, IsRecord line name uid) ∧
      result.toList ++ lines.filterMap (uidOf user) = [uid] := by
  induction lines generalizing result with
  | nil => cases result <;> simp [accountUidLines]
  | cons line rest induction =>
      rw [accountUidLines, List.filterMap_cons, List.forall_mem_cons]
      by_cases empty : line = []
      · have unnamed : uidOf user line = none := by simp [empty, uidOf, readRecord]
        rw [if_pos empty, unnamed, induction]
        simp [empty]
      rw [if_neg empty]
      cases read : readRecord line with
      | none =>
          have unread : ¬ ∃ name uid, IsRecord line name uid := by
            simp [← readRecord_eq_some_iff, read]
          simp [empty, unread]
      | some record =>
          obtain ⟨name, found⟩ := record
          have isRecord : ∃ name uid, IsRecord line name uid :=
            ⟨name, found, (readRecord_eq_some_iff line name found).mp read⟩
          by_cases isUser : name = user
          · have named : uidOf user line = some found := by simp [uidOf, read, isUser]
            rw [named]
            cases result with
            | none => simp [isUser, induction, isRecord]
            | some earlier => simp [isUser]
          · have unnamed : uidOf user line = none := by simp [uidOf, read, isUser]
            rw [unnamed]
            simp [isUser, induction, isRecord]

/-- The uids found are one uid when exactly one line names the user. -/
theorem filterMap_uidOf_eq_singleton_iff (user : List UInt8) (lines : List (List UInt8))
    (uid : UInt32) :
    lines.filterMap (uidOf user) = [uid] ↔
      ∃ before line after, lines = before ++ line :: after ∧ IsRecord line user uid ∧
        ∀ other ∈ before ++ after, ∀ uid, ¬ IsRecord other user uid := by
  have unnamed : ∀ other, uidOf user other = none ↔ ∀ uid, ¬ IsRecord other user uid := by
    intro other
    simp only [Option.eq_none_iff_forall_ne_some, ne_eq, uidOf_eq_some_iff]
  rw [List.filterMap_eq_cons_iff]
  constructor
  · rintro ⟨before, line, after, rfl, others, named, rest⟩
    refine ⟨before, line, after, rfl, (uidOf_eq_some_iff user line uid).mp named, ?_⟩
    intro other member
    rcases List.mem_append.mp member with earlier | later
    · exact (unnamed other).mp (others other earlier)
    · exact (unnamed other).mp (List.filterMap_eq_nil_iff.mp rest other later)
  · rintro ⟨before, line, after, rfl, named, others⟩
    refine ⟨before, line, after, rfl, ?_, (uidOf_eq_some_iff user line uid).mpr named, ?_⟩
    · intro other earlier
      exact (unnamed other).mpr (others other (List.mem_append_left _ earlier))
    · refine List.filterMap_eq_nil_iff.mpr fun other later => ?_
      exact (unnamed other).mpr (others other (List.mem_append_right _ later))

/-- A uid is given exactly when every line that is not empty is a record and one of them, but no
other, has the name of the user. -/
theorem accountUid_eq_some_iff (passwd user : List UInt8) (uid : UInt32) :
    accountUid passwd user = some uid ↔
      (∀ line ∈ passwd.splitOn newline, line ≠ [] → ∃ name uid, IsRecord line name uid) ∧
      ∃ before line after, passwd.splitOn newline = before ++ line :: after ∧
        IsRecord line user uid ∧
        ∀ other ∈ before ++ after, ∀ uid, ¬ IsRecord other user uid := by
  rw [accountUid, accountUidLines_eq_some_iff, ← filterMap_uidOf_eq_singleton_iff]
  rfl

/-- The order of the lines does not matter. -/
theorem accountUid_congr_perm {passwd reordered : List UInt8} (user : List UInt8)
    (permuted : (reordered.splitOn newline).Perm (passwd.splitOn newline)) :
    accountUid reordered user = accountUid passwd user := by
  ext uid
  have found := permuted.filterMap (uidOf user)
  rw [accountUid, accountUid, accountUidLines_eq_some_iff, accountUidLines_eq_some_iff]
  simp only [permuted.mem_iff, Option.toList_none, List.nil_append]
  refine and_congr_right fun _ => ⟨fun single => ?_, fun single => ?_⟩
  · exact (List.singleton_perm.mp (single ▸ found)).symm
  · exact List.perm_singleton.mp (single ▸ found)

/-- A line that is not a record, anywhere in the file, leaves no uid. -/
theorem accountUid_eq_none_of_malformed {passwd line : List UInt8} (user : List UInt8)
    (member : line ∈ passwd.splitOn newline) (nonempty : line ≠ [])
    (malformed : ∀ name uid, ¬ IsRecord line name uid) : accountUid passwd user = none := by
  rw [Option.eq_none_iff_forall_ne_some]
  intro uid found
  obtain ⟨records, _⟩ := (accountUid_eq_some_iff passwd user uid).mp found
  obtain ⟨name, uid, record⟩ := records line member nonempty
  exact malformed name uid record

/-- A second record of the user, wherever it stands, leaves no uid. -/
theorem accountUid_eq_none_of_repeated {passwd first second : List UInt8} {user : List UInt8}
    {before middle after : List (List UInt8)} {uid other : UInt32}
    (lines : passwd.splitOn newline = before ++ first :: middle ++ second :: after)
    (named : IsRecord first user uid) (again : IsRecord second user other) :
    accountUid passwd user = none := by
  rw [Option.eq_none_iff_forall_ne_some]
  intro found given
  rw [accountUid, accountUidLines_eq_some_iff, lines] at given
  have single := congrArg List.length given.2
  rw [← uidOf_eq_some_iff] at named again
  simp [named, again] at single
  omega

/-- The account reader fails closed: it gives a uid only for a file of records with one record of
the user, whatever the order of the lines, and none when any line spoils that. -/
theorem accountUid_failsClosed (passwd user : List UInt8) :
    (∀ uid, accountUid passwd user = some uid ↔
      (∀ line ∈ passwd.splitOn newline, line ≠ [] → ∃ name uid, IsRecord line name uid) ∧
      ∃ before line after, passwd.splitOn newline = before ++ line :: after ∧
        IsRecord line user uid ∧
        ∀ other ∈ before ++ after, ∀ uid, ¬ IsRecord other user uid) ∧
    (∀ reordered : List UInt8,
      (reordered.splitOn newline).Perm (passwd.splitOn newline) →
        accountUid reordered user = accountUid passwd user) ∧
    (∀ line ∈ passwd.splitOn newline, line ≠ [] → (∀ name uid, ¬ IsRecord line name uid) →
      accountUid passwd user = none) ∧
    ∀ before first middle second after uid other,
      passwd.splitOn newline = before ++ first :: middle ++ second :: after →
        IsRecord first user uid → IsRecord second user other → accountUid passwd user = none :=
  ⟨accountUid_eq_some_iff passwd user, fun _ => accountUid_congr_perm user,
    fun _ => accountUid_eq_none_of_malformed user,
    fun _ _ _ _ _ _ _ => accountUid_eq_none_of_repeated⟩

/-- What the owner and mode checks read of the account file. -/
structure PasswdMetadata where
  /-- Whether it is a regular file. -/
  isFile : Bool
  /-- Its owner. -/
  uid : UInt32
  /-- Its mode. -/
  mode : UInt32
  deriving DecidableEq, Repr

/-- A regular file of root that neither the group nor others can write. -/
def passwdMetadataIsSafe (metadata : PasswdMetadata) : Bool :=
  metadata.isFile && metadata.uid == 0 && metadata.mode &&& 0o022 == 0

/-- The account file as it is found: opened, its metadata read, and its bytes read. -/
structure PasswdFile where
  /-- The metadata, if they can be read. -/
  metadata : Option PasswdMetadata
  /-- The bytes, if they can be read. -/
  bytes : Option (List UInt8)

/-- Whether the PAM user is the local account of the effective uid. -/
def localAccountMatchesEuid (opened : Option PasswdFile) (user : List UInt8) (euid : UInt32) :
    Bool :=
  if euid = 0 then false
  else
    match opened with
    | none => false
    | some file =>
        match file.metadata with
        | none => false
        | some metadata =>
            if !passwdMetadataIsSafe metadata then false
            else
              match file.bytes with
              | none => false
              | some passwd => accountUid passwd user == some euid

end PresenceUnlock.Pam
