import PresenceUnlock.Execution
import PresenceUnlock.Thinning
import PresenceUnlock.Effects
import PresenceUnlock.RustStd.Text
import PresenceUnlock.RustStd.Number
import PresenceUnlock.RustStd.Search
import PresenceUnlock.RustStd.Result
import PresenceUnlock.RustStd.Base64
import PresenceUnlock.RustStd.Machine
import PresenceUnlock.RustStd.Hex
import PresenceUnlock.RustStd.Hasher
import PresenceUnlock.RustStd.Occurrences
import PresenceUnlock.RustStd.Anchored
import PresenceUnlock.Jsonc.Lexer
import PresenceUnlock.Jsonc.Parser
import PresenceUnlock.Protocol.Ble
import PresenceUnlock.Protocol.Irk
import PresenceUnlock.Protocol.Identity
import PresenceUnlock.Protocol.Apple
import PresenceUnlock.Protocol.NearbyInfo
import PresenceUnlock.Protocol.Profile
import PresenceUnlock.Protocol.Wire
import PresenceUnlock.Protocol.Presence
import PresenceUnlock.Protocol.Obstacle
import PresenceUnlock.Protocol.Evidence
import PresenceUnlock.Protocol.Config
import PresenceUnlock.Protocol.Acceptance
import PresenceUnlock.Protocol.Feasibility
import PresenceUnlock.Protocol.Transmitter
import PresenceUnlock.Protocol.BondRecord
import PresenceUnlock.Daemon.Scan
import PresenceUnlock.Daemon.Control
import PresenceUnlock.Daemon.Serve
import PresenceUnlock.Daemon.FleetLock
import PresenceUnlock.Pam.Exchange
import PresenceUnlock.Pam.Conversation
import PresenceUnlock.Pam.Account
import PresenceUnlock.Cli.Status
import PresenceUnlock.Cli.Document
import PresenceUnlock.Cli.Devices
import PresenceUnlock.Cli.Replacement
import PresenceUnlock.Cli.Edits
import PresenceUnlock.Cli.Capture
import PresenceUnlock.Cli.Pairing
import PresenceUnlock.Cli.BondInfo
import PresenceUnlock.Cli.LockService
import PresenceUnlock.Cli.Binding
import PresenceUnlock.Cli.BindingEdit
import PresenceUnlock.Cli.Menu
import PresenceUnlock.Cli.Removal
import PresenceUnlock.Cli.DaemonPause
import PresenceUnlock.Cli.Atomic
import PresenceUnlock.Cli.SingleUpdate
import PresenceUnlock.Cli.Linearization
import PresenceUnlock.Cli.Enrollments
import PresenceUnlock.Cli.DerivedId
import PresenceUnlock.Cli.Reenrollment
import PresenceUnlock.Cli.Advertise
import PresenceUnlock.Cli.AddressText
import PresenceUnlock.Cli.GuidedEnrollment
import PresenceUnlock.Cli.Keys
import PresenceUnlock.Cli.Setup
import PresenceUnlock.Cli.LockPatches
import PresenceUnlock.Cli.Rendered
import PresenceUnlock.Cli.AllOrNothing
import PresenceUnlock.Cli.CloneSwap
import PresenceUnlock.Cli.ReloadCode
import PresenceUnlock.Cli.BackupRemoval
import PresenceUnlock.Cli.LastCharacter
import PresenceUnlock.Cli.Meaningful
import PresenceUnlock.Cli.LastToken
import PresenceUnlock.Cli.MenuRows
import PresenceUnlock.Cli.MenuLayout
import PresenceUnlock.Cli.MenuEntry
import PresenceUnlock.Cli.MenuRoundTrip
import PresenceUnlock.KeyedList
import PresenceUnlock.Terminal
import PresenceUnlock.Pam.Unlock
import PresenceUnlock.Cli.Owned
import PresenceUnlock.Cli.Teardown
import PresenceUnlock.Cli.Remains
import PresenceUnlock.Cli.History
import PresenceUnlock.Cli.Registry
import PresenceUnlock.Cli.InForce
import PresenceUnlock.Cli.Doctor
import PresenceUnlock.Cli.Integrated
import PresenceUnlock.Cli.Cancellation
import PresenceUnlock.Cli.Paint
import PresenceUnlock.Cli.Picker
import PresenceUnlock.Cli.Milestones
import PresenceUnlock.Cli.Checklist
import PresenceUnlock.Cli.PairingOutcome
