import PresenceUnlock.Cli.Capture
import PresenceUnlock.Cli.Replacement
import PresenceUnlock.RustStd.Base64

/-!
# Enrolling a captured key

The self-check of a key against the address its device was using, and what the entry written for a
checked key recognises.
-/

namespace PresenceUnlock

open RustStd RustStd.Result

/-- Decoding inverts encoding, and encoded bytes are free of blanks. -/
structure Crates.LawfulBase64 (crates : Crates) : Prop where
  /-- What was encoded is decoded. -/
  decode_encode : ∀ bytes, crates.base64Decode (crates.base64Encode bytes) = some bytes
  /-- A text that was encoded has no blanks. -/
  encode_solid : ∀ bytes, ∀ c ∈ crates.base64Encode bytes, Text.isWhitespace c = false

namespace Cli

/-- One turn of the slug loop: what is not alphanumeric collapses to a single dash. -/
def slugStep (out : Text) (character : Char) : Text :=
  if character.isAlphanum then out ++ [character.toLower]
  else if ['-'] <:+ out then out
  else out ++ ['-']

/-- The words of a name, in lower case, with hyphens between them. -/
def slug (name : Text) : Option Text :=
  let out := name.foldl slugStep []
  let trimmed := (out.dropWhile (· == '-')).rdropWhile (· == '-')
  if trimmed = [] then none else some trimmed

/-- The id of the device already enrolled with this key. -/
def idForIrk (entries : List DeviceEntry) (irkBase64 : Text) : Option Text :=
  (entries.find? fun entry => entry.irkBase64 == some irkBase64).map DeviceEntry.id

/-- The id of a device whose name has no words. -/
def fallbackId : Text := "device".toList

/-- A name, or an address, as an id with a suffix that makes it unique. -/
def deriveId (entries : List DeviceEntry) (name address : Option Text) : Text :=
  let existing := address.bind fun address =>
    entries.find? fun entry => entry.address.any fun known => known.eqIgnoreAsciiCase address
  match existing with
  | some entry => entry.id
  | none =>
      let taken := entries.map DeviceEntry.id
      let base := ((name.bind slug).or (address.bind slug)).getD fallbackId
      if base ∉ taken then base
      else
        let candidates := (List.range' 2 (taken.length + 1)).map fun suffix =>
          base ++ '-' :: Text.ofNat suffix
        (candidates.find? fun candidate => candidate ∉ taken).getD base

/-- Why an enrollment fails. -/
inductive PairingError
  | bond (error : BluezIrkError)
  | noIrk
  | unresolved
  | edit (error : EditError)
  deriving DecidableEq, Repr

/-- What a check of a key finds. -/
inductive Checked
  | resolved
  | notApplicable
  deriving DecidableEq, Repr

/-- Whether a key resolves the address its device was using; only a resolvable private address can
be checked. -/
def selfCheck (crates : Crates) (irkFileOrder : Key) (scanned : Address) :
    Except PairingError Checked :=
  if !isResolvable scanned then .ok .notApplicable
  else
    let aesKey := irkFileOrder.reverse
    if (IrkMatcher.new crates.aes aesKey).matches scanned then .ok .resolved
    else .error .unresolved

/-- Whether a capture is about the peer that bonded. -/
def belongsToPeer (observed : Address) (identity : Option Address) (capture : CapturedIrk) : Bool :=
  parseAddress capture.randomAddress == some observed ||
    identity.any fun identity => parseAddress capture.identityAddress == some identity

variable {Source : Type} [DecidableEq Source] (crates : Crates) (toml : Toml Source)

/-- The entries of the file as the CLI loads it; a missing or unreadable file has none. -/
def loadDevices (store : Option Source) : List DeviceEntry :=
  match store.bind fun source => (ConfigFile.parse toml source).toOption with
  | none => []
  | some config => config.devices

/-- Criteria of a key alone. -/
def irkCriteria (irkBase64 : Text) : Criteria := ⟨some irkBase64, none, none, none⟩

/-- The policy of a guided enrollment. -/
def noOverrides : Overrides := ⟨none, none, none⟩

/-- The one place where a captured key becomes an enrolled device, under the returned id. -/
def enrollIrk (irk : Key) (profile : Text) (id name : Option Text) (store : Option Source) :
    Except EditError Text × Option Source :=
  let irkBase64 := crates.base64Encode irk.toList
  let entries := loadDevices toml store
  let id := (id.or (idForIrk entries irkBase64)).getD (deriveId entries name none)
  let added := add crates toml id profile (irkCriteria irkBase64) noOverrides store
  (added.1.map fun _ => id, added.2)

/-- Enroll a checked key if it is to be saved; the result names the device that was enrolled. -/
def saveIrk (irk : Key) (profile : Text) (id name : Option Text) (save : Bool)
    (store : Option Source) : Except PairingError (Option Text) × Option Source :=
  if !save then (.ok none, store)
  else
    let enrolled := enrollIrk crates toml irk profile id name store
    ((enrolled.1.map some).mapError .edit, enrolled.2)

/-- From a bond record to an enrolled device. -/
def extractAndReport (record : Text) (observed : Address) (id : Text) (save : Bool)
    (store : Option Source) : Except PairingError (Option Text) × Option Source :=
  match parseBluezInfoIrk record with
  | .error error => (.error (.bond error), store)
  | .ok irk =>
      match selfCheck crates irk observed with
      | .error error => (.error error, store)
      | .ok _ => saveIrk crates toml irk AppleContinuity.id (some id) none save store

/-- From the output of the privileged helper to an enrolled device. -/
def activeCapture (output : Text) (observed : Address) (identity : Option Address) (profile : Text)
    (id peerName : Option Text) (fallback : Text) (save : Bool) (store : Option Source) :
    Except PairingError (Option Text) × Option Source :=
  let captures := ((Monitor.start output).map Monitor.captures).getD []
  match captures.find? (belongsToPeer observed identity) with
  | none => (.error .noIrk, store)
  | some captured =>
      match selfCheck crates captured.key observed with
      | .error error => (.error error, store)
      | .ok _ =>
          saveIrk crates toml captured.key profile id (peerName.or (some fallback)) save store

variable {crates : Crates} {toml : Toml Source}

/-- The key is reversed once on its way through the file, as the self-check reverses it. -/
theorem decodeIrk_base64Encode (lawful : crates.LawfulBase64) (id : Text) (irk : Key) :
    decodeIrk crates id (crates.base64Encode irk.toList) = .ok irk.reverse := by
  simp only [decodeIrk, bind_eq_ok, okOr_eq_ok, pure_eq_ok]
  refine ⟨irk.toList, ?_, irk, keyOfBytes_toList irk, rfl⟩
  rw [Text.trim_eq_self (lawful.encode_solid irk.toList), lawful.decode_encode]

/-- A key that passes on a resolvable address is one whose reversal resolves it. -/
theorem matches_of_selfCheck {irk : Key} {observed : Address} {checked : Checked}
    (resolvable : isResolvable observed = true)
    (accepted : selfCheck crates irk observed = .ok checked) :
    (IrkMatcher.new crates.aes irk.reverse).matches observed = true := by
  rw [selfCheck, resolvable, Bool.not_true, if_neg Bool.false_ne_true] at accepted
  by_contra unresolved
  rw [if_neg unresolved] at accepted
  cases accepted

/-- The stored device with this id matches whatever is advertised from an address. -/
def Recognises (crates : Crates) (toml : Toml Source) (store : Option Source) (id : Text)
    (observed : Address) : Prop :=
  ∃ spec, resolvedDevice toml crates id store = some spec ∧
    ∀ advertisement : Advertisement, advertisement.address = observed →
      spec.identity.matches advertisement = true

/-- An entry with a key alone matches every address that the reversed key resolves. -/
theorem matches_of_irkCriteria (lawful : crates.LawfulBase64) {irk : Key} {profile id : Text}
    {window : Option UInt64} {spec : DeviceSpec}
    (resolved : (replacedEntry profile (irkCriteria (crates.base64Encode irk.toList)) noOverrides id
      window).resolve crates = .ok spec) {advertisement : Advertisement}
    (resolves : (IrkMatcher.new crates.aes irk.reverse).matches advertisement.address = true) :
    spec.identity.matches advertisement = true := by
  obtain ⟨_, identity, _⟩ := (DeviceEntry.resolve_eq_ok_iff crates _ _).mp resolved
  obtain ⟨_, lowered, _⟩ := (DeviceEntry.identity_eq_ok_iff crates _ _).mp identity
  have irk_set : spec.identity.irk = some (IrkMatcher.new crates.aes irk.reverse) := by
    rw [lowered, DeviceEntry.lowered, DeviceEntry.identityKey, replacedEntry, irkCriteria]
    simp only [Option.bind_some, decodeIrk_base64Encode lawful, Except.toOption, Option.map_some]
  apply Identity.matches_of_irk_only irk_set
  · rw [lowered]
    rfl
  · rw [lowered]
    rfl
  · rw [lowered]
    rfl
  · exact resolves

/-- A successful enrollment added a device under the id it returns. -/
theorem add_of_enrollIrk {irk : Key} {profile enrolled : Text} {id name : Option Text}
    {store after : Option Source}
    (ran : enrollIrk crates toml irk profile id name store = (.ok enrolled, after)) :
    add crates toml enrolled profile (irkCriteria (crates.base64Encode irk.toList)) noOverrides
      store = (.ok (), after) := by
  obtain ⟨result, left⟩ := Prod.ext_iff.mp ran
  obtain ⟨⟨⟩, added, same_id⟩ := map_eq_ok.mp result
  rw [← same_id]
  exact Prod.ext added left

/-- An enrolled key that passed its check recognises the address it was checked against. -/
theorem recognises_of_enrollIrk (toml_lawful : toml.Lawful) (lawful : crates.LawfulBase64)
    {irk : Key} {observed : Address} {checked : Checked}
    (resolvable : isResolvable observed = true)
    (accepted : selfCheck crates irk observed = .ok checked) {profile enrolled : Text}
    {id name : Option Text} {store after : Option Source}
    (ran : enrollIrk crates toml irk profile id name store = (.ok enrolled, after)) :
    Recognises crates toml after enrolled observed := by
  obtain ⟨spec, found, resolved⟩ := resolvedDevice_add toml_lawful (add_of_enrollIrk ran)
  refine ⟨spec, found, ?_⟩
  rintro advertisement rfl
  exact matches_of_irkCriteria lawful resolved (matches_of_selfCheck resolvable accepted)

/-- A flow that saved a device enrolled its key. -/
theorem enrollIrk_of_saveIrk {irk : Key} {profile enrolled : Text} {id name : Option Text}
    {save : Bool} {store after : Option Source}
    (ran : saveIrk crates toml irk profile id name save store = (.ok (some enrolled), after)) :
    enrollIrk crates toml irk profile id name store = (.ok enrolled, after) := by
  cases save with
  | false => cases ran
  | true =>
      obtain ⟨result, left⟩ := Prod.ext_iff.mp ran
      obtain ⟨enrolled', added, same⟩ := map_eq_ok.mp (mapError_eq_ok.mp result)
      cases same
      exact Prod.ext added left

/-- The keys of the flows are checked before they are saved: what is saved recognises the address
it was checked against, and a key that fails its check leaves the file alone. -/
structure SoundEnrollment (crates : Crates) (toml : Toml Source) : Prop where
  /-- A reported key is read as it is. -/
  captured : ∀ received, parseCapture (captureLine received) = some received.captured
  /-- An enrolled key recognises the address it was checked against. -/
  enrolled : ∀ (irk : Key) (observed : Address) (checked : Checked), isResolvable observed = true →
    selfCheck crates irk observed = .ok checked → ∀ profile id name store enrolled after,
    enrollIrk crates toml irk profile id name store = (.ok enrolled, after) →
    Recognises crates toml after enrolled observed
  /-- So does a key that was extracted from a bond. -/
  extracted : ∀ record observed id save store enrolled after, isResolvable observed = true →
    extractAndReport crates toml record observed id save store = (.ok (some enrolled), after) →
    Recognises crates toml after enrolled observed
  /-- An extracted key that fails its check leaves the file alone. -/
  extract_rejected : ∀ record irk observed error id save store,
    parseBluezInfoIrk record = .ok irk → selfCheck crates irk observed = .error error →
    extractAndReport crates toml record observed id save store = (.error error, store)
  /-- A captured key recognises the address it was checked against. -/
  activated : ∀ adapterIndex events observed identity profile id peerName fallback save store
    enrolled after, isResolvable observed = true →
    activeCapture crates toml (runHelper adapterIndex events) observed identity profile id peerName
      fallback save store = (.ok (some enrolled), after) →
    Recognises crates toml after enrolled observed
  /-- A captured key that fails its check leaves the file alone. -/
  active_rejected : ∀ adapterIndex events observed identity received error profile id peerName
    fallback save store,
    (reportedKeys adapterIndex events).find? (fun received =>
      belongsToPeer observed identity received.captured) = some received →
    selfCheck crates received.key observed = .error error →
    activeCapture crates toml (runHelper adapterIndex events) observed identity profile id peerName
      fallback save store = (.error error, store)

/-- The flow works on the keys that the controller reported. -/
theorem find?_captures_runHelper (adapterIndex : UInt16) (events : List (UInt16 × MgmtEvent))
    (belongs : CapturedIrk → Bool) :
    (((Monitor.start (runHelper adapterIndex events)).map Monitor.captures).getD []).find? belongs =
      ((reportedKeys adapterIndex events).find? fun received => belongs received.captured).map
        IrkEvent.captured := by
  rw [captures_runHelper, Option.getD_some, List.find?_map]
  rfl

/-- Every key that passes enrollment's check is one the daemon resolves, and no other is enrolled,
whichever of the two sources it came from. -/
theorem enrollment_sound (toml_lawful : toml.Lawful) (lawful : crates.LawfulBase64) :
    SoundEnrollment crates toml where
  captured := parseCapture_captureLine
  enrolled := fun _ _ _ resolvable accepted _ _ _ _ _ _ ran =>
    recognises_of_enrollIrk toml_lawful lawful resolvable accepted ran
  extracted := by
    intro record observed id save store enrolled after resolvable ran
    unfold extractAndReport at ran
    split at ran
    · cases ran
    split at ran
    · cases ran
    rename_i accepted
    exact recognises_of_enrollIrk toml_lawful lawful resolvable accepted (enrollIrk_of_saveIrk ran)
  extract_rejected := by
    intro record irk observed error id save store parsed rejected
    simp only [extractAndReport, parsed, rejected]
  activated := by
    intro adapterIndex events observed identity profile id peerName fallback save store enrolled
      after resolvable ran
    unfold activeCapture at ran
    dsimp only at ran
    split at ran
    · cases ran
    split at ran
    · cases ran
    rename_i accepted
    exact recognises_of_enrollIrk toml_lawful lawful resolvable accepted (enrollIrk_of_saveIrk ran)
  active_rejected := by
    intro adapterIndex events observed identity received error profile id peerName fallback save
      store first rejected
    have captured := find?_captures_runHelper adapterIndex events (belongsToPeer observed identity)
    rw [first, Option.map_some] at captured
    simp only [activeCapture, captured, IrkEvent.captured, rejected]

/-- Third-party code with a cipher that returns its key. -/
def base64Crates : Crates := ⟨fun key _ => key, Base64.encode, Base64.decode, fun _ => none⟩

theorem base64Crates_lawful : base64Crates.LawfulBase64 :=
  ⟨Base64.decode_encode, Base64.encode_solid⟩

/-- Sixteen bytes in file order. -/
def watchKey : Key := #v[0, 1, 2, 3, 4, 5, 6, 7, 8, 9, 10, 11, 12, 13, 14, 15]

/-- An address that the reversed key resolves under that cipher. -/
def watchAddress : Address := #v[0x40, 0, 0, 2, 1, 0]

/-- The name of a watch. -/
def watchName : Text := "watch".toList

/-- The report of a watch that connected from `watchAddress`. -/
def watchEvent : IrkEvent where
  randomAddress := ⟨"40:00:00:02:01:00".toList, by decide⟩
  identityAddress := ⟨"A0:B1:C2:D3:E4:F5".toList, by decide⟩
  key := watchKey

/-- A capture that hears the watch in a file without devices. -/
def captureWatch : Except PairingError (Option Text) × Option Document :=
  activeCapture base64Crates Toml.ofDocuments
    (runHelper 0 [(0, .newIdentityResolvingKey watchEvent)]) watchAddress none AppleContinuity.id
    none (some watchName) watchName true none

theorem captureWatch_saved : ∃ after, captureWatch = (.ok (some watchName), after) := by
  have reversed : watchKey.reverse =
      #v[15, 14, 13, 12, 11, 10, 9, 8, 7, 6, 5, 4, 3, 2, 1, 0] := by simp [watchKey]
  have checked : selfCheck base64Crates watchEvent.captured.key watchAddress = .ok .resolved := by
    change selfCheck base64Crates watchKey watchAddress = _
    rw [selfCheck, reversed]
    rfl
  have first : (reportedKeys 0 [(0, .newIdentityResolvingKey watchEvent)]).find? (fun received =>
      belongsToPeer watchAddress none received.captured) = some watchEvent := rfl
  have captured := find?_captures_runHelper 0 [(0, .newIdentityResolvingKey watchEvent)]
    (belongsToPeer watchAddress none)
  rw [first] at captured
  simp only [captureWatch, activeCapture, captured, Option.map_some, checked]
  exact ⟨_, rfl⟩

/-- The captured watch is recognised at the address it connected from. -/
theorem enrollment_sound_watch :
    SoundEnrollment base64Crates Toml.ofDocuments ∧
      ∃ after, captureWatch = (.ok (some watchName), after) ∧
        Recognises base64Crates Toml.ofDocuments after watchName watchAddress := by
  have sound : SoundEnrollment base64Crates Toml.ofDocuments :=
    enrollment_sound Toml.ofDocuments_lawful base64Crates_lawful
  obtain ⟨after, ran⟩ := captureWatch_saved
  exact ⟨sound, after, ran, sound.activated _ _ _ _ _ _ _ _ _ _ _ _ (by decide) ran⟩

end Cli
end PresenceUnlock
