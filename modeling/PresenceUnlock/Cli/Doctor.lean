import PresenceUnlock.Cli.Devices
import PresenceUnlock.Cli.Setup
import PresenceUnlock.Cli.Status
import PresenceUnlock.Pam.Unlock

/-!
# Preflight checks

`doctor` runs its checks in order and ends at the first that fails.  What it finds on the machine is
a value; what it reports are the checks that passed, and the problem.
-/

namespace PresenceUnlock.Cli.Doctor

open RustStd RustStd.Result Effects

/-- One plugin of `omarchy plugin list --json`, as far as it is read. -/
structure Plugin where
  /-- The id of the plugin. -/
  id : Option Text
  /-- Whether the shell has it enabled. -/
  enabled : Option Bool
  deriving DecidableEq, Repr

/-- The machine as the checks find it.  What can be missing or unreadable is optional. -/
structure Found (Source : Type) where
  /-- `HOME`. -/
  home : Option Text
  /-- `USER`. -/
  user : Option Text
  /-- `LOGNAME`, which is used without `USER`. -/
  logname : Option Text
  /-- The files, by their paths. -/
  readToString : Text → Option Text
  /-- What the shell lists. -/
  plugins : Option (List Plugin)
  /-- What `presence-unlock ping` prints, if it succeeds. -/
  ping : Option (List UInt8)
  /-- Whether the PAM policy is a file. -/
  policyInstalled : Bool
  /-- Whether the path unit is enabled, or why that cannot be told. -/
  pathEnabled : Except Text Bool
  /-- What the service manager says of the service. -/
  serviceState : Text
  /-- Where the configuration should be. -/
  configPath : Option Text
  /-- The file, if there is one, or why it cannot be read. -/
  config : Option (Except Text Source)
  /-- The mode of the configuration, or why it cannot be told. -/
  mode : Except Text UInt32
  /-- The adapter that is used for a configured name, or why there is none. -/
  adapter : Option Text → Except Text Text
  /-- The user of the process. -/
  uid : UInt32
  /-- What is at the path of the socket. -/
  socket : Option Unlock.SocketMetadata
  /-- What the daemon answers to `STATUS`, or why it cannot be asked. -/
  reply : Except Text Text

/-- The lock that the clone replaces. -/
def stockPluginId : Text := "omarchy.lock".toList

/-- The policy of the presence lock. -/
def pamPolicy : Text := "/etc/pam.d/omarchy-lock-presence".toList

/-- What to do about an integration that is missing. -/
def runSetup : Text := "; run `omarchy-presence-unlock setup`".toList

/-- What to do about an integration that is damaged. -/
def rerunSetup : Text := "; rerun `omarchy-presence-unlock setup`".toList

/-- `{:?}` of a text without quotes and escapes. -/
def quoted (text : Text) : Text := '"' :: text ++ ['"']

/-- `PathBuf::join`. -/
def join (base path : Text) : Text :=
  if ['/'] <+: path ∨ base = [] then path
  else if ['/'] <:+ base then base ++ path
  else base ++ '/' :: path

/-- Where the daemon of a user has its socket. -/
def socketPath (uid : UInt32) : Text :=
  "/run/user/".toList ++ Text.ofNat uid.toNat ++ "/omarchy-presence-unlock/control.sock".toList

/-- What a configuration error says; `toml` is what the parser says. -/
def configErrorText (toml : Text) : ConfigError → Text
  | .toml => "invalid config: ".toList ++ toml
  | .schema version => "unsupported schema version ".toList ++ Text.ofNat version.toNat ++
      "; this build requires version ".toList ++ Text.ofNat currentSchema.toNat
  | .irkLength id => "device ".toList ++ id ++ ": IRK must decode to exactly 16 bytes".toList
  | .irkBase64 id => "device ".toList ++ id ++ ": IRK is invalid base64".toList
  | .device id message => "device ".toList ++ id ++ ": ".toList ++ message
  | .unsupportedProfile id profile =>
      "device ".toList ++ id ++ ": unsupported profile ".toList ++ profile
  | .duplicateDevice id => "duplicate device id ".toList ++ id
  | .duplicateIdentity other id criterion =>
      "devices ".toList ++ other ++ " and ".toList ++ id ++
        " identify the same device by ".toList ++ criterion ++ "; one device would count twice".toList
  | .noDevices => "no devices are configured; run `omarchy-presence-unlock enroll`".toList
  | .multiDeviceAuth rule => "unsupported multi-device authentication rule ".toList ++ rule ++
      "; use any, all, or at-least:<n>".toList
  | .multiDeviceAuthExceedsDeviceCount required configured =>
      "at-least:".toList ++ Text.ofNat required.toNat ++ " needs ".toList ++
        Text.ofNat required.toNat ++ " enrolled devices but ".toList ++ Text.ofNat configured ++
        " are configured; run `omarchy-presence-unlock multi-device-auth any`".toList
  | .policy device field value allowed => "device ".toList ++ device ++ ": ".toList ++ field ++
      " = ".toList ++ value ++ " is outside allowed range ".toList ++ allowed

/-- `{:?}` of a rule. -/
def ruleText : MultiDeviceAuth → Text
  | .any => "Any".toList
  | .all => "All".toList
  | .atLeast required => "AtLeast(".toList ++ Text.ofNat required.toNat ++ ")".toList

/-- Where the parts of the generated lock are. -/
structure LockIntegration where
  /-- The id of the clone. -/
  pluginId : Text
  /-- Its service. -/
  service : Text
  /-- Its view. -/
  view : Text
  /-- The file of the user's bindings. -/
  bindings : Text
  deriving DecidableEq, Repr

variable {Source : Type}

/-- Where the generated lock should be. -/
def lockIntegration (found : Found Source) : Option LockIntegration := do
  let home ← found.home
  let user ← found.user.or found.logname
  let pluginId := user.trim ++ ".lock".toList
  let directory := join (join home ".config/omarchy/plugins".toList) pluginId
  return {
    pluginId
    service := join directory Setup.serviceFile
    view := join directory Setup.viewFile
    bindings := join home ".config/hypr/bindings.lua".toList }

/-- What the bindings must contain. -/
def requiredBindings : List Text :=
  [Binding.blockStart, "ALT_L".toList, "ALT_R".toList, "presence-unlock hold".toList,
    "presence-unlock release".toList, "ignore_mods = true".toList, "release = true".toList,
    "locked = true".toList, "non_consuming = true".toList]

/-- Whether the shell lists a plugin as enabled. -/
def pluginIsEnabled (found : Found Source) (pluginId : Text) : Bool :=
  found.plugins.any fun plugins =>
    plugins.any fun plugin => plugin.id == some pluginId && plugin.enabled == some true

/-- Space, tab, line feed, form feed and carriage return. -/
def isAsciiSpace (byte : UInt8) : Bool := [0x20, 0x09, 0x0A, 0x0C, 0x0D].contains byte

/-- `trim_ascii`. -/
def trimAscii (bytes : List UInt8) : List UInt8 :=
  (bytes.dropWhile isAsciiSpace).rdropWhile isAsciiSpace

/-- Whether the running lock answers. -/
def presenceResponds (found : Found Source) : Bool :=
  found.ping.any fun output => trimAscii output == Text.asBytes "ok".toList

/-- A file of the clone is there and carries presence code. -/
def checkAsset (found : Found Source) (asset : Text) : Except Text Unit := do
  let contents ← okOr (found.readToString asset)
    ("the presence lock is missing ".toList ++ asset ++ runSetup)
  if !Text.contains Setup.presenceMarker contents then
    .error (asset ++ " carries no presence code".toList ++ rerunSetup)
  else .ok ()

/-- One part of the bindings is there. -/
def checkBinding (bindings required : Text) : Except Text Unit :=
  if !Text.contains required bindings then
    .error ("the Alt presence binding is incomplete (missing ".toList ++ quoted required ++
      ")".toList ++ rerunSetup)
  else .ok ()

/-- The clone is whole, bound, enabled alone, and answers. -/
def validateLock (found : Found Source) (integration : Option LockIntegration) :
    Except Text Unit := do
  let integration ← okOr integration
    ("the lock integration path cannot be resolved".toList ++ runSetup)
  forM [integration.service, integration.view] (checkAsset found)
  let bindings ← okOr (found.readToString integration.bindings)
    ("Hyprland bindings file ".toList ++ integration.bindings ++ " is missing".toList ++ runSetup)
  forM requiredBindings (checkBinding bindings)
  if !pluginIsEnabled found integration.pluginId then
    .error ("the presence lock ".toList ++ integration.pluginId ++
      " is not enabled; run `omarchy plugin enable ".toList ++ integration.pluginId ++ ['`'])
  else if pluginIsEnabled found stockPluginId then
    .error ("both ".toList ++ integration.pluginId ++ " and ".toList ++ stockPluginId ++
      " are enabled".toList ++ rerunSetup)
  else if !presenceResponds found then
    .error ("the presence unlock IPC target is unavailable; ".toList ++
      "run `omarchy restart shell` and retry".toList)
  else .ok ()

/-- One finished check. -/
structure Check where
  /-- Whether it passed. -/
  ok : Bool
  /-- What was found, or what is wrong. -/
  label : Text
  deriving DecidableEq, Repr

/-- A program that adds to the checks that have passed. -/
abbrev Checking : Type := Program (List Check) Text Unit

/-- Add a check that has passed. -/
def pass (label : Text) : Checking := Program.change fun checks => checks ++ [⟨true, label⟩]

/-- A test between two checks. -/
def test {Result : Type} (outcome : Except Text Result) : Program (List Check) Text Result :=
  fun checks => (outcome, checks)

/-- The PAM policy is there. -/
def policyInstalled (found : Found Source) : Except Text Unit :=
  if found.policyInstalled then .ok ()
  else .error ("the presence PAM policy is missing at ".toList ++ pamPolicy ++
    "; reinstall the package, or rerun install.sh".toList)

/-- The path unit is enabled. -/
def validateServiceUnit (found : Found Source) : Except Text Unit :=
  match found.pathEnabled with
  | .error error =>
      .error ("cannot query the presence service path: ".toList ++ error ++ runSetup)
  | .ok true => .ok ()
  | .ok false => .error ("the presence service path is not enabled".toList ++ runSetup)

/-- Everything that can be healthy before a device is enrolled. -/
def collectIntegration (found : Found Source) : Checking := do
  let integration := lockIntegration found
  test (validateLock found integration)
  let pluginId := (integration.map LockIntegration.pluginId).getD stockPluginId
  pass ("presence lock ".toList ++ pluginId ++ ", cloned from ".toList ++ stockPluginId)
  pass "Alt hold/release binding".toList
  test (policyInstalled found)
  pass ("presence PAM policy ".toList ++ pamPolicy)
  test (validateServiceUnit found)
  pass ("presence service path enabled (service ".toList ++ found.serviceState ++ ")".toList)

variable (crates : Crates) (toml : Toml Source) (tomlText : Source → Text)

/-- The file and what it resolves to. -/
def readConfig (found : Found Source) : Except Text (ConfigFile × Settings) := do
  match found.config with
  | none =>
      .error ("no devices enrolled yet; run `omarchy-presence-unlock` and choose ".toList ++
        "Enroll a device".toList)
  | some (.error error) => .error ("cannot read config: ".toList ++ error)
  | some (.ok source) =>
      (do
        let config ← ConfigFile.parse toml source
        let settings ← config.resolve crates
        return (config, settings)).mapError (configErrorText (tomlText source))

/-- The configuration is private. -/
def checkMode (found : Found Source) (path : Text) : Except Text Unit := do
  let mode := (← found.mode) &&& 0o777
  if mode ≠ 0o600 then
    .error (path ++ " must be mode 0600 (is ".toList ++ Nat.toDigits 8 mode.toNat ++ ")".toList)
  else .ok ()

/-- The socket is a private one of the user. -/
def checkSocket (found : Found Source) : Except Text Unit := do
  let metadata ← okOr found.socket
    ("presenced socket is absent at ".toList ++ socketPath found.uid ++
      "; run `systemctl --user restart presenced` (service is ".toList ++ found.serviceState ++
      ")".toList)
  if !metadata.isSocket || metadata.uid != found.uid || metadata.mode &&& 0o077 != 0 then
    .error ("presenced socket at ".toList ++ socketPath found.uid ++
      " is not a private socket owned by uid ".toList ++ Text.ofNat found.uid.toNat)
  else .ok ()

/-- The client's lines, of which those of devices are counted. -/
def checkReported (found : Found Source) (settings : Settings) : Except Text Unit := do
  let reported ← okOr (requestLines (← found.reply))
    "daemon closed the connection before the response ended".toList
  let devices := reported.countP fun line => "DEVICE ".toList.isPrefixOf line
  if devices ≠ settings.devices.length then
    .error ("config lists ".toList ++ Text.ofNat settings.devices.length ++
      " device(s) but presenced is running ".toList ++ Text.ofNat devices ++
      "; restart presenced".toList)
  else .ok ()

/-- The configuration and the daemon serving it. -/
def collectEnrollment (found : Found Source) : Checking := do
  let path ← test (okOr found.configPath "XDG_CONFIG_HOME or HOME is required".toList)
  let (config, settings) ← test (readConfig crates toml tomlText found)
  test (checkMode found path)
  pass ("schema ".toList ++ Text.ofNat config.schemaVersion.toNat ++ ", ".toList ++
    Text.ofNat settings.devices.length ++ " device(s), multi-device authentication ".toList ++
    ruleText settings.multiDeviceAuth)
  let adapterName ← test (found.adapter config.adapter)
  pass ("Bluetooth adapter ".toList ++ adapterName ++ " powered".toList)
  test (checkSocket found)
  pass ("presenced ".toList ++ found.serviceState ++ ", private socket ".toList ++
    socketPath found.uid)
  test (checkReported found settings)
  Program.each (fun device : DeviceSpec =>
    pass ("device ".toList ++ device.id ++ " (".toList ++ device.profile.val.id ++ ")".toList))
    settings.devices

/-- Every check, in order. -/
def collect (found : Found Source) : Checking := do
  collectIntegration found
  collectEnrollment crates toml tomlText found

/-- A failure ends the report. -/
def finishReport (checks : List Check) : Except Text Unit → List Check
  | .ok () => checks
  | .error problem => checks ++ [⟨false, problem⟩]

/-- Every check that ran, ending at the first failure. -/
def report (found : Found Source) : List Check :=
  let collected := collect crates toml tomlText found []
  finishReport collected.2 collected.1

/-- The lines that the command prints, and how it ends. -/
def doctor (found : Found Source) : List Text × Except Text Unit :=
  let checks := report crates toml tomlText found
  ((checks.filter Check.ok).map fun check => "ok: ".toList ++ check.label,
    match checks.find? fun check => !check.ok with
    | some failure => .error failure.label
    | none => .ok ())

/-- Every check so far has passed. -/
def AllPassed (checks : List Check) : Prop := ∀ check ∈ checks, check.ok = true

theorem keeps_pass (label : Text) : Keeps AllPassed (pass label) := by
  refine leaves_change fun checks passed check member => ?_
  rcases List.mem_append.mp member with before | last
  · exact passed check before
  · rw [List.mem_singleton.mp last]

theorem keeps_test {Result : Type} (outcome : Except Text Result) :
    Keeps AllPassed (test outcome) := by
  intro checks passed
  rw [test]
  cases outcome <;> exact passed

theorem keeps_collectIntegration (found : Found Source) :
    Keeps AllPassed (collectIntegration found) := by
  apply (keeps_test _).bind
  intro _
  apply (keeps_pass _).bind
  intro _
  apply (keeps_pass _).bind
  intro _
  apply (keeps_test _).bind
  intro _
  apply (keeps_pass _).bind
  intro _
  apply (keeps_test _).bind
  intro _
  exact keeps_pass _

theorem keeps_collectEnrollment (found : Found Source) :
    Keeps AllPassed (collectEnrollment crates toml tomlText found) := by
  apply (keeps_test _).bind
  intro _
  apply (keeps_test _).bind
  intro _
  apply (keeps_test _).bind
  intro _
  apply (keeps_pass _).bind
  intro _
  apply (keeps_test _).bind
  intro _
  apply (keeps_pass _).bind
  intro _
  apply (keeps_test _).bind
  intro _
  apply (keeps_pass _).bind
  intro _
  apply (keeps_test _).bind
  intro _
  exact leaves_each fun _ _ => keeps_pass _

theorem keeps_collect (found : Found Source) :
    Keeps AllPassed (collect crates toml tomlText found) :=
  (keeps_collectIntegration found).bind fun _ =>
    keeps_collectEnrollment crates toml tomlText found

/-- Of a finished report only the last check can have failed; the command prints the others, and
fails as the collection did. -/
theorem doctor_eq (found : Found Source) :
    doctor crates toml tomlText found =
      ((collect crates toml tomlText found []).2.map fun check => "ok: ".toList ++ check.label,
        (collect crates toml tomlText found []).1) := by
  have passed : AllPassed (collect crates toml tomlText found []).2 := by
    have none_yet : AllPassed [] := nofun
    have kept := (keeps_collect crates toml tomlText found).ends none_yet
    cases outcome : (collect crates toml tomlText found []).1 <;> rw [outcome] at kept <;>
      exact kept
  rw [doctor, report]
  generalize collect crates toml tomlText found [] = collected at passed
  obtain ⟨outcome, checks⟩ := collected
  have all : checks.filter Check.ok = checks := List.filter_eq_self.mpr passed
  have none_failed : checks.find? (fun check => !check.ok) = none :=
    List.find?_eq_none.mpr fun check member => by simp [passed check member]
  cases outcome with
  | ok => simp only [finishReport, all, none_failed]
  | error problem =>
      have failed : [(⟨false, problem⟩ : Check)].filter Check.ok = [] := rfl
      simp only [finishReport, List.filter_append, all, List.find?_append, none_failed, failed,
        List.append_nil]
      rfl

/-- The lock is where it should be, the bindings report the gesture to it, and it alone is enabled
and answers. -/
structure LockHealthy (found : Found Source) (integration : LockIntegration) : Prop where
  /-- The service and the view carry presence code. -/
  assets : ∀ asset ∈ [integration.service, integration.view],
    ∃ contents ∈ found.readToString asset, Setup.presenceMarker <:+: contents
  /-- Every part of the bindings is there. -/
  bindings : ∃ contents ∈ found.readToString integration.bindings,
    ∀ required ∈ requiredBindings, required <:+: contents
  /-- The clone is enabled. -/
  enabled : pluginIsEnabled found integration.pluginId = true
  /-- The stock lock is not. -/
  alone : pluginIsEnabled found stockPluginId = false
  /-- The clone answers. -/
  responds : presenceResponds found = true

/-- The file can be used and is private, and so can the adapter that it names. -/
structure Configured (found : Found Source) (source : Source) (config : ConfigFile)
    (settings : Settings) : Prop where
  /-- It is known where the file should be. -/
  path : found.configPath ≠ none
  /-- The file can be read. -/
  readable : found.config = some (.ok source)
  /-- It parses. -/
  parsed : ConfigFile.parse toml source = .ok config
  /-- It resolves. -/
  resolved : config.resolve crates = .ok settings
  /-- It is private. -/
  mode : ∃ mode, found.mode = .ok mode ∧ mode &&& 0o777 = 0o600
  /-- The adapter can be used. -/
  adapter : ∃ name, found.adapter config.adapter = .ok name

/-- A daemon serves as many devices as the file lists, over a private socket. -/
structure EnrollmentHealthy (found : Found Source) (source : Source) (config : ConfigFile)
    (settings : Settings) : Prop extends Configured crates toml found source config settings where
  /-- The socket is a private one of the user. -/
  socket : ∃ metadata ∈ found.socket, metadata.isSocket = true ∧ metadata.uid = found.uid ∧
    metadata.mode &&& 0o077 = 0
  /-- The daemon tells of as many devices as are configured. -/
  reported : ∃ response lines, found.reply = .ok response ∧ requestLines response = some lines ∧
    (lines.countP fun line => "DEVICE ".toList.isPrefixOf line) = settings.devices.length

/-- All checks pass. -/
structure Healthy (found : Found Source) : Prop where
  /-- The lock is integrated. -/
  lock : ∃ integration ∈ lockIntegration found, LockHealthy found integration
  /-- The PAM policy is there. -/
  policy : found.policyInstalled = true
  /-- The path unit is enabled. -/
  path : found.pathEnabled = .ok true
  /-- The enrollment is healthy. -/
  enrollment : ∃ source config settings,
    EnrollmentHealthy crates toml found source config settings

theorem ok_bind_iff {World Failure Result Next : Type} {program : Program World Failure Result}
    {next : Result → Program World Failure Next} {world : World} {result : Next} :
    ((program >>= next) world).1 = .ok result ↔
      ∃ value, (program world).1 = .ok value ∧ (next value (program world).2).1 = .ok result := by
  change (program.andThen next world).1 = _ ↔ _
  rw [Program.andThen]
  rcases program world with ⟨failure | value, world'⟩
  · simp
  · simp

theorem test_bind_ok_iff {Result Next : Type} {outcome : Except Text Result}
    {next : Result → Program (List Check) Text Next} {checks : List Check} {result : Next} :
    ((test outcome >>= next) checks).1 = .ok result ↔
      ∃ value, outcome = .ok value ∧ (next value checks).1 = .ok result :=
  ok_bind_iff

theorem pass_bind_ok_iff {Next : Type} {label : Text} {next : Unit → Program (List Check) Text Next}
    {checks : List Check} {result : Next} :
    ((pass label >>= next) checks).1 = .ok result ↔
      (next () (checks ++ [⟨true, label⟩])).1 = .ok result :=
  Iff.rfl

theorem forM_eq_ok_iff {ε α : Type} {turn : α → Except ε Unit} {items : List α} {done : Unit} :
    forM items turn = .ok done ↔ ∀ item ∈ items, turn item = .ok () := by
  induction items with
  | nil => simp
  | cons item items induction =>
      rw [List.forM_cons, bind_eq_ok, List.forall_mem_cons, induction]
      exact ⟨fun ⟨_, first, rest⟩ => ⟨first, rest⟩, fun ⟨first, rest⟩ => ⟨(), first, rest⟩⟩

theorem checkAsset_eq_ok_iff {found : Found Source} {asset : Text} :
    checkAsset found asset = .ok () ↔
      ∃ contents ∈ found.readToString asset, Setup.presenceMarker <:+: contents := by
  simp only [checkAsset, bind_eq_ok, okOr_eq_ok, Option.mem_def, ← Text.contains_eq_true_iff]
  constructor
  · rintro ⟨contents, read, marked⟩
    refine ⟨contents, read, ?_⟩
    by_contra unmarked
    simp [unmarked] at marked
  · rintro ⟨contents, read, marked⟩
    exact ⟨contents, read, by simp [marked]⟩

theorem checkBinding_eq_ok_iff {bindings required : Text} :
    checkBinding bindings required = .ok () ↔ required <:+: bindings := by
  rw [checkBinding, ← Text.contains_eq_true_iff]
  cases Text.contains required bindings <;> simp

theorem validateLock_eq_ok_iff {found : Found Source} {integration : Option LockIntegration} :
    validateLock found integration = .ok () ↔
      ∃ known ∈ integration, LockHealthy found known := by
  simp only [validateLock, bind_eq_ok, okOr_eq_ok, forM_eq_ok_iff, checkAsset_eq_ok_iff,
    checkBinding_eq_ok_iff]
  constructor
  · rintro ⟨known, resolved, _, assets, bindings, read, _, complete, rest⟩
    split at rest
    · cases rest
    rename_i enabled
    split at rest
    · cases rest
    rename_i alone
    split at rest
    · cases rest
    rename_i responds
    exact ⟨known, resolved, assets, ⟨bindings, read, complete⟩, by simpa using enabled,
      by simpa using alone, by simpa using responds⟩
  · rintro ⟨known, resolved, assets, ⟨bindings, read, complete⟩, enabled, alone, responds⟩
    refine ⟨known, resolved, (), assets, bindings, read, (), complete, ?_⟩
    simp [enabled, alone, responds]

theorem checkSocket_eq_ok_iff {found : Found Source} :
    checkSocket found = .ok () ↔ ∃ metadata ∈ found.socket, metadata.isSocket = true ∧
      metadata.uid = found.uid ∧ metadata.mode &&& 0o077 = 0 := by
  simp only [checkSocket, bind_eq_ok, okOr_eq_ok, Option.mem_def]
  refine exists_congr fun metadata => and_congr_right fun _ => ?_
  split
  · rename_i unsafe_socket
    simp only [reduceCtorEq, false_iff]
    rintro ⟨is_socket, owned, closed⟩
    simp [is_socket, owned, closed] at unsafe_socket
  · rename_i safe_socket
    simpa [and_assoc] using safe_socket

theorem checkReported_eq_ok_iff {found : Found Source} {settings : Settings} :
    checkReported found settings = .ok () ↔ ∃ response lines, found.reply = .ok response ∧
      requestLines response = some lines ∧
      (lines.countP fun line => "DEVICE ".toList.isPrefixOf line) = settings.devices.length := by
  simp only [checkReported, bind_eq_ok, okOr_eq_ok, ite_not, ite_eq_left_iff, reduceCtorEq,
    imp_false, not_not]
  constructor
  · rintro ⟨response, answered, lines, complete, counted⟩
    exact ⟨response, lines, answered, complete, counted⟩
  · rintro ⟨response, lines, answered, complete, counted⟩
    exact ⟨response, answered, lines, complete, counted⟩

theorem policyInstalled_eq_ok_iff {found : Found Source} :
    policyInstalled found = .ok () ↔ found.policyInstalled = true := by
  rw [policyInstalled]
  cases found.policyInstalled <;> simp

theorem validateServiceUnit_eq_ok_iff {found : Found Source} :
    validateServiceUnit found = .ok () ↔ found.pathEnabled = .ok true := by
  rw [validateServiceUnit]
  split <;> simp_all

theorem checkMode_eq_ok_iff {found : Found Source} {path : Text} :
    checkMode found path = .ok () ↔ ∃ mode, found.mode = .ok mode ∧ mode &&& 0o777 = 0o600 := by
  simp only [checkMode, bind_eq_ok, ite_not, ite_eq_left_iff, reduceCtorEq, imp_false, not_not]

theorem readConfig_eq_ok_iff {found : Found Source} {config : ConfigFile} {settings : Settings} :
    readConfig crates toml tomlText found = .ok (config, settings) ↔
      ∃ source, found.config = some (.ok source) ∧ ConfigFile.parse toml source = .ok config ∧
        config.resolve crates = .ok settings := by
  rw [readConfig]
  cases read : found.config with
  | none => simp
  | some contents =>
      cases contents with
      | error error => simp
      | ok source =>
          simp only [mapError_eq_ok, bind_eq_ok, Option.some.injEq, Except.ok.injEq,
            exists_eq_left']
          constructor
          · rintro ⟨parsed, parses, resolved, resolves, same⟩
            cases same
            exact ⟨parses, resolves⟩
          · rintro ⟨parses, resolves⟩
            exact ⟨config, parses, settings, resolves, rfl⟩

theorem each_pass_ok {Item : Type} {label : Item → Text} {items : List Item}
    {checks : List Check} : (Program.each (fun item => pass (label item)) items checks).1 =
      .ok () := by
  induction items generalizing checks with
  | nil => rfl
  | cons item items induction => exact induction

theorem collectIntegration_ok_iff {found : Found Source} {checks : List Check} :
    (collectIntegration found checks).1 = .ok () ↔
      (∃ integration ∈ lockIntegration found, LockHealthy found integration) ∧
        found.policyInstalled = true ∧ found.pathEnabled = .ok true := by
  simp only [collectIntegration, test_bind_ok_iff, pass_bind_ok_iff]
  constructor
  · rintro ⟨_, lock, _, policy, _, path, _⟩
    exact ⟨validateLock_eq_ok_iff.mp lock, policyInstalled_eq_ok_iff.mp policy,
      validateServiceUnit_eq_ok_iff.mp path⟩
  · rintro ⟨lock, policy, path⟩
    exact ⟨(), validateLock_eq_ok_iff.mpr lock, (), policyInstalled_eq_ok_iff.mpr policy, (),
      validateServiceUnit_eq_ok_iff.mpr path, rfl⟩

theorem collectEnrollment_ok_iff {found : Found Source} {checks : List Check} :
    (collectEnrollment crates toml tomlText found checks).1 = .ok () ↔
      ∃ source config settings, EnrollmentHealthy crates toml found source config settings := by
  simp only [collectEnrollment, test_bind_ok_iff, pass_bind_ok_iff, okOr_eq_ok]
  constructor
  · rintro ⟨path, located, ⟨config, settings⟩, read, _, mode, name, adapter, _, socket, _, reported,
      _⟩
    obtain ⟨source, readable, parsed, resolved⟩ :=
      (readConfig_eq_ok_iff crates toml tomlText).mp read
    exact ⟨source, config, settings, ⟨by simp [located], readable, parsed, resolved,
      checkMode_eq_ok_iff.mp mode, name, adapter⟩, checkSocket_eq_ok_iff.mp socket,
      checkReported_eq_ok_iff.mp reported⟩
  · rintro ⟨source, config, settings, healthy⟩
    obtain ⟨path, located⟩ := Option.ne_none_iff_exists'.mp healthy.path
    obtain ⟨name, adapter⟩ := healthy.adapter
    exact ⟨path, located, (config, settings), (readConfig_eq_ok_iff crates toml tomlText).mpr
      ⟨source, healthy.readable, healthy.parsed, healthy.resolved⟩, (),
      checkMode_eq_ok_iff.mpr healthy.mode, name, adapter, (),
      checkSocket_eq_ok_iff.mpr healthy.socket, (), checkReported_eq_ok_iff.mpr healthy.reported,
      each_pass_ok⟩

/-- The command succeeds on healthy machines, and on no others. -/
theorem doctor_ok_iff_healthy {found : Found Source} :
    (doctor crates toml tomlText found).2 = .ok () ↔ Healthy crates toml found := by
  rw [doctor_eq, collect, ok_bind_iff]
  constructor
  · rintro ⟨_, integration, enrollment⟩
    obtain ⟨lock, policy, path⟩ := collectIntegration_ok_iff.mp integration
    exact ⟨lock, policy, path, (collectEnrollment_ok_iff crates toml tomlText).mp enrollment⟩
  · intro healthy
    exact ⟨(), collectIntegration_ok_iff.mpr ⟨healthy.lock, healthy.policy, healthy.path⟩,
      (collectEnrollment_ok_iff crates toml tomlText).mpr healthy.enrollment⟩

/-- The report asks for a mode as private as the module asks for. -/
theorem closed_iff_six_le_ctz (mode : UInt32) :
    mode &&& 0o077 = 0 ↔ 6 ≤ mode.toBitVec.ctz.toNat := by
  have low : ∀ i, (0o077 : UInt32).toBitVec.getLsbD i = decide (i < 6) := by
    intro i
    by_cases small : i < 6
    · interval_cases i <;> rfl
    · rw [decide_eq_false small]
      by_cases wide : i < 32
      · interval_cases i <;> rfl
      · exact BitVec.getLsbD_of_ge _ _ (by omega)
  rw [← UInt32.toBitVec_inj, UInt32.toBitVec_and]
  constructor
  · intro closed
    by_contra shallow
    have shallow : mode.toBitVec.ctz.toNat < 6 := by omega
    have nonzero : mode.toBitVec ≠ 0#32 :=
      BitVec.ctz_lt_iff_ne_zero.mp (BitVec.lt_def.mpr (shallow.trans (by decide)))
    have set := BitVec.getLsbD_true_ctz_of_ne_zero nonzero
    have cleared := congrArg (·.getLsbD mode.toBitVec.ctz.toNat) closed
    simp only [BitVec.getLsbD_and, set, low, shallow, decide_true] at cleared
    simp at cleared
  · intro deep
    refine BitVec.eq_of_getLsbD_eq fun i _ => ?_
    rw [BitVec.getLsbD_and, low]
    by_cases small : i < 6
    · rw [BitVec.getLsbD_false_of_lt_ctz (by omega)]
      simp
    · simp [small]

theorem checkSocket_ok_iff_safe {found : Found Source} :
    checkSocket found = .ok () ↔
      ∃ metadata ∈ found.socket, Unlock.socketMetadataIsSafe metadata found.uid = true := by
  rw [checkSocket_eq_ok_iff]
  refine exists_congr fun metadata => and_congr_right fun _ => ?_
  simp only [Unlock.socketMetadataIsSafe, Bool.and_eq_true, beq_iff_eq, decide_eq_true_eq,
    closed_iff_six_le_ctz, and_assoc]

theorem isPrefixOf_row (status : DeviceStatus) :
    "DEVICE ".toList.isPrefixOf (Text.spaced (rowFields status)) = true := by
  rw [rowFields, Text.spaced]
  rfl

theorem isPrefixOf_verdict (decision : Decision) :
    "DEVICE ".toList.isPrefixOf (Text.spaced (verdictFields decision)) = false := by
  cases decision <;> rfl

theorem countP_statusLines (fleet : Fleet) (nowMs : UInt64) :
    ((statusLines fleet nowMs).countP fun line => "DEVICE ".toList.isPrefixOf line) =
      fleet.devices.length := by
  rw [statusLines, List.countP_append, List.countP_map, List.countP_singleton, isPrefixOf_verdict]
  have rows : (fleet.report nowMs).countP
      ((fun line => "DEVICE ".toList.isPrefixOf line) ∘ fun status =>
        Text.spaced (rowFields status)) = (fleet.report nowMs).length :=
    List.countP_eq_length.mpr fun status _ => isPrefixOf_row status
  rw [rows, Fleet.report, List.length_map]
  rfl

theorem readable_report {fleet : Fleet} (nowMs : UInt64)
    (readable : ∀ device ∈ fleet.devices, Field device.spec.id) :
    ∀ status ∈ fleet.report nowMs, Readable status := by
  intro status reported
  refine ⟨?_, reason_of_report reported⟩
  obtain ⟨device, member, rfl⟩ := List.mem_map.mp reported
  exact readable device member

/-- Where the daemon answers for its fleet, its report is right if and only if it serves as many
devices as the file lists. -/
theorem checkReported_ok_iff_length {found : Found Source} {settings : Settings} {fleet : Fleet}
    {nowMs : UInt64} (answers : found.reply = .ok (Control.status fleet nowMs))
    (readable : ∀ device ∈ fleet.devices, Field device.spec.id) :
    checkReported found settings = .ok () ↔ fleet.devices.length = settings.devices.length := by
  have lines := requestLines_status (readable_report nowMs readable)
  rw [checkReported_eq_ok_iff, answers]
  constructor
  · rintro ⟨response, read, same, complete, counted⟩
    cases same
    rw [lines, Option.some.injEq] at complete
    rwa [← complete, countP_statusLines] at counted
  · intro same
    exact ⟨_, _, rfl, lines, by rwa [countP_statusLines]⟩

/-- Where the daemon answers for its fleet, the command succeeds if and only if the lock and the
units are in place, the fleet is as large as the file lists, and the module, called for the user's
own account, may ask the daemon. -/
theorem doctor_ok_iff_admits {found : Found Source} {fleet : Fleet} {nowMs : UInt64}
    {user : List UInt8} {passwd : Option Pam.PasswdFile}
    (answers : found.reply = .ok (Control.status fleet nowMs))
    (readable : ∀ device ∈ fleet.devices, Field device.spec.id)
    (account : Pam.localAccountMatchesEuid passwd user found.uid = true) :
    (doctor crates toml tomlText found).2 = .ok () ↔
      (∃ integration ∈ lockIntegration found, LockHealthy found integration) ∧
        found.policyInstalled = true ∧ found.pathEnabled = .ok true ∧
        (∃ source config settings, Configured crates toml found source config settings ∧
          fleet.devices.length = settings.devices.length) ∧
        Unlock.Found.Admits ⟨some user, found.uid, passwd, found.socket⟩ := by
  rw [doctor_ok_iff_healthy]
  constructor
  · intro healthy
    obtain ⟨source, config, settings, enrolled⟩ := healthy.enrollment
    have served := checkReported_eq_ok_iff.mpr enrolled.reported
    have private_socket := checkSocket_eq_ok_iff.mpr enrolled.socket
    exact ⟨healthy.lock, healthy.policy, healthy.path,
      ⟨source, config, settings, enrolled.toConfigured,
        (checkReported_ok_iff_length answers readable).mp served⟩,
      ⟨user, rfl, account⟩, checkSocket_ok_iff_safe.mp private_socket⟩
  · rintro ⟨lock, policy, path, ⟨source, config, settings, configured, served⟩, admits⟩
    have reported := (checkReported_ok_iff_length answers readable).mpr served
    have private_socket := checkSocket_ok_iff_safe.mpr admits.socket
    exact ⟨lock, policy, path, source, config, settings, configured,
      checkSocket_eq_ok_iff.mp private_socket, checkReported_eq_ok_iff.mp reported⟩

/-- A phone. -/
def phoneSpec : DeviceSpec := { FleetLock.knownDevice with id := "phone".toList }

/-- A daemon that has the phone. -/
def fleetOfPhone : Fleet := Fleet.new [phoneSpec] .any

/-- A file that lists the phone. -/
def documentOfPhone : Document :=
  withDevices emptyDocument [rewriteTable ProximityOnly.id ⟨none, none, none, some "phone".toList⟩
    ⟨none, none, none⟩ (newTable "phone".toList)]

/-- Every file holds the marker and the bindings. -/
def healthyFound : Found Document where
  home := some "/home/ann".toList
  user := some "ann".toList
  logname := none
  readToString _ := some (Setup.presenceMarker ++ Binding.block)
  plugins := some [⟨some "ann.lock".toList, some true⟩, ⟨some stockPluginId, some false⟩]
  ping := some (Text.asBytes "ok\n".toList)
  policyInstalled := true
  pathEnabled := .ok true
  serviceState := "active".toList
  configPath := some "/home/ann/.config/omarchy-presence-unlock/config.toml".toList
  config := some (.ok documentOfPhone)
  mode := .ok 0o100600
  adapter _ := .ok "hci0".toList
  uid := 1000
  socket := some ⟨true, 1000, 0o140600⟩
  reply := .ok (Control.status fleetOfPhone 1000)

theorem doctor_healthyFound :
    (doctor ConfigFile.plainCrates Toml.ofDocuments (fun _ => []) healthyFound).2 = .ok () := by
  have ends : (doctor ConfigFile.plainCrates Toml.ofDocuments (fun _ => [])
      healthyFound).2.isOk = true := by decide +kernel
  cases ended : (doctor ConfigFile.plainCrates Toml.ofDocuments (fun _ => []) healthyFound).2 with
  | ok => rfl
  | error problem =>
      rw [ended] at ends
      cases ends

theorem doctor_ok_iff_admits_ann :
    Unlock.Found.Admits ⟨some (Text.asBytes "ann".toList), 1000, Unlock.foundByAnn.passwd,
      healthyFound.socket⟩ := by
  have readable : ∀ device ∈ fleetOfPhone.devices, Field device.spec.id := by decide
  exact ((doctor_ok_iff_admits _ _ _ rfl readable (by decide +kernel)).mp
    doctor_healthyFound).2.2.2.2

end PresenceUnlock.Cli.Doctor
