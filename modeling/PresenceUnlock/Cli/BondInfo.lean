import PresenceUnlock.Protocol.BondRecord
import PresenceUnlock.Protocol.Config

/-!
# Showing a bond record

The sections of a record as they are printed, with the keys hidden, and the outcome of reading the
remote key from the same text.
-/

namespace PresenceUnlock.Cli

open RustStd

/-- One section of a record, with its keys and values in file order. -/
structure BondSection where
  /-- The name between the brackets. -/
  name : Text
  /-- The keys and their values. -/
  entries : List (Text × Text)
  deriving DecidableEq, Repr

namespace BondInfo

/-- One turn of the line loop: a header opens a section, an entry goes to the last one. -/
def pushLine (sections : List BondSection) (line : Text) : List BondSection :=
  match sectionHeader line.trim with
  | some name => sections ++ [{ name, entries := [] }]
  | none =>
      match line.trim.splitOnce '=', sections.getLast? with
      | some (key, value), some last =>
          sections.dropLast ++ [{ last with entries := last.entries ++ [(key.trim, value.trim)] }]
      | _, _ => sections

/-- The sections of a record. -/
def bondSections (info : Text) : List BondSection := info.lines.foldl pushLine []

/-- Whether an entry is key material. -/
def isSecret (name key : Text) : Bool := key == "Key".toList && "Key".toList.isSuffixOf name

/-- What is printed of an entry; a secret only if that was asked for. -/
def entryLine (showKeys : Bool) (name : Text) (entry : Text × Text) : Text :=
  if isSecret name entry.1 && !showKeys then
    "    ".toList ++ entry.1 ++ " = <redacted, ".toList ++ Text.ofNat entry.2.len ++
      " chars; --show-keys to reveal>".toList
  else
    "    ".toList ++ entry.1 ++ " = ".toList ++ entry.2

/-- What is printed of a section. -/
def sectionLines (showKeys : Bool) (shown : BondSection) : List Text :=
  ("  [".toList ++ shown.name ++ "]".toList) :: shown.entries.map (entryLine showKeys shown.name)

/-- What is said about the key of a record. -/
def outcomeLines (crates : Crates) (showKeys : Bool) : Except BluezIrkError Key → List Text
  | .ok irk =>
      ["  => IRK distributed: this device can be enrolled for presence unlock.".toList,
        if showKeys then
          "     omarchy-presence-unlock add-device watch --profile apple-continuity --irk ".toList
            ++ crates.base64Encode irk.toList
        else
          "     re-run with --show-keys to print the enrollment command.".toList]
  | .error .missing =>
      ["  => no IdentityResolvingKey: this bond cannot resolve private addresses.".toList]
  | .error .malformed => ["  => the IdentityResolvingKey in this record is malformed.".toList]

/-- What `bond_info` prints for one record, or for the error of reading it. -/
def recordLines (crates : Crates) (showKeys : Bool) (identity path : Text) :
    Except Text Text → List Text
  | .error error =>
      ['\n' :: identity, "  ".toList ++ path, "  => ".toList ++ error]
  | .ok record =>
      ['\n' :: identity, "  ".toList ++ path] ++
        (bondSections record).flatMap (sectionLines showKeys) ++
        outcomeLines crates showKeys (parseBluezInfoIrk record)

/-- The entry a line is, when it is not a header. -/
def entryOf (line : Text) : Option (Text × Text) :=
  (line.trim.splitOnce '=').map fun (key, value) => (key.trim, value.trim)

/-- The entries before the next header. -/
def entriesIn : List Text → List (Text × Text)
  | [] => []
  | line :: rest =>
      if (sectionHeader line.trim).isSome then [] else (entryOf line).toList ++ entriesIn rest

/-- The sections that the headers open. -/
def sectionsIn : List Text → List BondSection
  | [] => []
  | line :: rest =>
      ((sectionHeader line.trim).map fun name => { name, entries := entriesIn rest }).toList ++
        sectionsIn rest

theorem pushLine_of_header {line name : Text} (header : sectionHeader line.trim = some name)
    (sections : List BondSection) :
    pushLine sections line = sections ++ [{ name, entries := [] }] := by
  rw [pushLine, header]

/-- A line that is not a header adds its entry to the last section. -/
theorem pushLine_concat {line : Text} (header : sectionHeader line.trim = none)
    (before : List BondSection) (last : BondSection) :
    pushLine (before ++ [last]) line =
      before ++ [{ last with entries := last.entries ++ (entryOf line).toList }] := by
  rw [pushLine, header, List.getLast?_concat, entryOf]
  cases line.trim.splitOnce '=' with
  | none => simp
  | some parts => simp

theorem pushLine_nil {line : Text} (header : sectionHeader line.trim = none) :
    pushLine [] line = [] := by
  rw [pushLine, header]
  cases line.trim.splitOnce '=' <;> rfl

/-- The loop fills the last section up to the next header, and appends the later sections. -/
theorem foldl_pushLine_concat (lines : List Text) (before : List BondSection)
    (last : BondSection) :
    lines.foldl pushLine (before ++ [last]) =
      before ++ { last with entries := last.entries ++ entriesIn lines } :: sectionsIn lines := by
  induction lines generalizing before last with
  | nil => simp [entriesIn, sectionsIn]
  | cons line rest induction =>
      rw [List.foldl_cons, entriesIn, sectionsIn]
      cases header : sectionHeader line.trim with
      | none =>
          rw [pushLine_concat header, induction]
          simp
      | some name =>
          rw [pushLine_of_header header, induction]
          simp

theorem bondSections_eq (info : Text) : bondSections info = sectionsIn info.lines := by
  unfold bondSections
  induction info.lines with
  | nil => rfl
  | cons line rest induction =>
      rw [List.foldl_cons, sectionsIn]
      cases header : sectionHeader line.trim with
      | none =>
          rw [pushLine_nil header, induction]
          rfl
      | some name =>
          rw [pushLine_of_header header, foldl_pushLine_concat]
          simp

/-- The section of the peer's identity key. -/
def remoteKeySection : Text := "IdentityResolvingKey".toList

/-- The entry that is a key. -/
def keyName : Text := "Key".toList

/-- The value of the first `Key` entry in the first section of the remote key. -/
def FirstKey (sections : List BondSection) (value : Text) : Prop :=
  ∃ before found after earlier later, sections = before ++ found :: after ∧
    (∀ other ∈ before, other.name ≠ remoteKeySection) ∧ found.name = remoteKeySection ∧
    found.entries = earlier ++ (keyName, value) :: later ∧ ∀ entry ∈ earlier, entry.1 ≠ keyName

/-- The entry that is looked for, searched in the sections. -/
def firstKey (sections : List BondSection) : Option Text :=
  ((sections.find? fun found => found.name == remoteKeySection).bind fun found =>
    found.entries.find? fun entry => entry.1 == keyName).map Prod.snd

theorem firstKey_eq_some_iff (sections : List BondSection) (value : Text) :
    firstKey sections = some value ↔ FirstKey sections value := by
  simp only [firstKey, Option.map_eq_some_iff, Option.bind_eq_some_iff,
    List.find?_eq_some_iff_append, beq_iff_eq, Bool.not_eq_true', beq_eq_false_iff_ne]
  constructor
  · rintro ⟨⟨key, _⟩, ⟨found, ⟨named, before, after, rfl, others⟩, isKey, earlier, later, entries,
      first⟩, rfl⟩
    dsimp only at isKey
    subst isKey
    exact ⟨before, found, after, earlier, later, rfl, others, named, entries, first⟩
  · rintro ⟨before, found, after, earlier, later, rfl, others, named, entries, first⟩
    exact ⟨(keyName, value), ⟨found, ⟨named, before, after, rfl, others⟩, rfl, earlier, later,
      entries, first⟩, rfl⟩

/-- The outcome of reading a key from the value that was found, if any. -/
def readFound : Option Text → Except BluezIrkError Key
  | some value => readKeyValue value
  | none => .error .missing

theorem readKeyValue_trim (raw : Text) : readKeyValue raw.trim = readKeyValue raw := by
  rw [readKeyValue, readKeyValue, Text.trim_trim]

/-- Inside the section both readers find the same entry. -/
theorem readBondLines_true (lines : List Text) :
    readBondLines true lines =
      readFound (((entriesIn lines).find? fun entry => entry.1 == keyName).map Prod.snd) := by
  induction lines with
  | nil => rfl
  | cons line rest induction =>
      rw [readBondLines, entriesIn]
      cases header : sectionHeader line.trim with
      | some name => rfl
      | none =>
          simp only [Bool.not_true, Bool.false_eq_true, if_false, Option.isSome_none, entryOf]
          cases split : line.trim.splitOnce '=' with
          | none => simpa using induction
          | some parts =>
              obtain ⟨key, raw⟩ := parts
              rw [Option.map_some, Option.toList_some, List.singleton_append, List.find?_cons]
              dsimp only
              by_cases isKey : key.trim = "Key".toList
              · have found : (key.trim == keyName) = true := beq_iff_eq.mpr isKey
                rw [if_neg (not_not.mpr isKey), found, Option.map_some, readFound,
                  readKeyValue_trim]
              · have other : (key.trim == keyName) = false := beq_eq_false_iff_ne.mpr isKey
                rw [if_pos isKey, other, induction]

/-- Both readers look for the key in the same place of every record. -/
theorem readBondLines_false (lines : List Text) :
    readBondLines false lines = readFound (firstKey (sectionsIn lines)) := by
  induction lines with
  | nil => rfl
  | cons line rest induction =>
      rw [readBondLines, sectionsIn, firstKey]
      cases header : sectionHeader line.trim with
      | none =>
          simp only [Bool.not_false, if_true]
          exact induction
      | some name =>
          simp only [Bool.false_eq_true, if_false, Option.map_some, Option.toList_some,
            List.singleton_append]
          rw [List.find?_cons]
          change readBondLines (name == remoteKeySection) rest = _
          cases isRemote : name == remoteKeySection with
          | true => rw [readBondLines_true]; rfl
          | false => exact induction

theorem parseBluezInfoIrk_eq (info : Text) :
    parseBluezInfoIrk info = readFound (firstKey (bondSections info)) := by
  rw [bondSections_eq]
  exact readBondLines_false info.lines

/-- Two entries of a section that differ at most in a secret of one length. -/
def SameEntry (name : Text) (left right : Text × Text) : Prop :=
  left.1 = right.1 ∧ (isSecret name left.1 = true → left.2.len = right.2.len) ∧
    (isSecret name left.1 = false → left.2 = right.2)

/-- Two sections that differ at most in their secrets. -/
def SameSection (left right : BondSection) : Prop :=
  left.name = right.name ∧ List.Forall₂ (SameEntry left.name) left.entries right.entries

/-- Two outcomes of the same kind. -/
def SameKind : Except BluezIrkError Key → Except BluezIrkError Key → Prop
  | .ok _, .ok _ => True
  | .error left, .error right => left = right
  | _, _ => False

theorem entryLine_congr {name : Text} {left right : Text × Text}
    (same : SameEntry name left right) :
    entryLine false name left = entryLine false name right := by
  obtain ⟨key, lengths, values⟩ := same
  rw [entryLine, entryLine, ← key]
  cases secret : isSecret name left.1 with
  | true => rw [lengths secret]; rfl
  | false => rw [values secret]

theorem sectionLines_congr {left right : BondSection} (same : SameSection left right) :
    sectionLines false left = sectionLines false right := by
  obtain ⟨name, entries⟩ := same
  have lines : left.entries.map (entryLine false left.name) =
      right.entries.map (entryLine false left.name) := by
    generalize left.entries = shown at entries
    generalize right.entries = others at entries
    induction entries with
    | nil => rfl
    | cons first _ induction => rw [List.map_cons, List.map_cons, entryLine_congr first, induction]
  rw [sectionLines, sectionLines, lines, name]

theorem outcomeLines_congr (crates : Crates) {left right : Except BluezIrkError Key}
    (same : SameKind left right) :
    outcomeLines crates false left = outcomeLines crates false right := by
  cases left with
  | ok _ =>
      cases right with
      | ok _ => rfl
      | error _ => cases same
  | error error =>
      cases right with
      | ok _ => cases same
      | error other =>
          obtain rfl : error = other := same
          rfl

/-- Records that differ only in secrets of the same lengths are printed alike. -/
theorem recordLines_congr (crates : Crates) (identity path : Text) {left right : Text}
    (sections : List.Forall₂ SameSection (bondSections left) (bondSections right))
    (kinds : SameKind (parseBluezInfoIrk left) (parseBluezInfoIrk right)) :
    recordLines crates false identity path (.ok left) =
      recordLines crates false identity path (.ok right) := by
  have lines : (bondSections left).flatMap (sectionLines false) =
      (bondSections right).flatMap (sectionLines false) := by
    generalize bondSections left = shown at sections
    generalize bondSections right = others at sections
    induction sections with
    | nil => rfl
    | cons first _ induction =>
        rw [List.flatMap_cons, List.flatMap_cons, sectionLines_congr first, induction]
  rw [recordLines, recordLines, lines, outcomeLines_congr crates kinds]

/-- The two readers of a record find the same key entry, which is marked as a secret, and with the
keys hidden nothing that is printed depends on more of a secret than its length. -/
theorem bondReaders_agree (crates : Crates) (identity path : Text) :
    (∀ info value, FirstKey (bondSections info) value →
      parseBluezInfoIrk info = readKeyValue value) ∧
    (∀ info, parseBluezInfoIrk info = .error .missing ↔
      ∀ value, ¬ FirstKey (bondSections info) value) ∧
    isSecret remoteKeySection keyName = true ∧
    ∀ left right, List.Forall₂ SameSection (bondSections left) (bondSections right) →
      SameKind (parseBluezInfoIrk left) (parseBluezInfoIrk right) →
        recordLines crates false identity path (.ok left) =
          recordLines crates false identity path (.ok right) := by
  refine ⟨fun info value found => ?_, fun info => ?_, by decide,
    fun left right => recordLines_congr crates identity path⟩
  · rw [parseBluezInfoIrk_eq, (firstKey_eq_some_iff _ _).mpr found]
    rfl
  · simp only [parseBluezInfoIrk_eq, ← firstKey_eq_some_iff]
    cases firstKey (bondSections info) with
    | none => simp [readFound]
    | some value => simpa [readFound] using readKeyValue_ne_missing value

end BondInfo
end PresenceUnlock.Cli
