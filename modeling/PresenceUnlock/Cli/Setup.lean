import PresenceUnlock.Cli.Binding
import PresenceUnlock.Cli.Menu
import PresenceUnlock.Effects

/-!
# Setup

Setup writes a generated clone of the stock lock into place, has the shell enable it, and edits the
user's bindings and menu.  Every step may fail; a machine keeps a trace of the steps that were
taken, each with whether it succeeded.
-/

namespace PresenceUnlock.Cli.Setup

open RustStd Effects

/-- What the generated service and view carry. -/
def presenceMarker : Text := "// omarchy-presence-unlock:presence".toList
def serviceFile : Text := "Service.qml".toList
def viewFile : Text := "LockView.qml".toList
def manifestFile : Text := "manifest.json".toList

/-- The files of a directory. -/
abbrev Directory := Text → Option Text

/-- The rendered clone; its service carries the marker, and what is copied is none of the rendered
files. -/
structure Clone where
  /-- The manifest. -/
  manifest : Text
  /-- The patched service. -/
  service : Text
  /-- The patched view. -/
  view : Text
  /-- The other files of the stock lock. -/
  copied : List (Text × Text)
  /-- The service carries the marker. -/
  marked : presenceMarker <:+: service
  /-- No copied file takes the place of a rendered one. -/
  others : ∀ file ∈ copied, file.1 ∉ [manifestFile, serviceFile, viewFile]

/-- The rendered files, in the order in which they are written. -/
def Clone.files (clone : Clone) : List (Text × Text) :=
  [(manifestFile, clone.manifest), (serviceFile, clone.service), (viewFile, clone.view)]

/-- The plugin directory, and the ones that it is built and set aside in. -/
inductive Place
  | target
  | stage
  | rollback
  deriving DecidableEq, Repr

/-- The files of the user that setup edits. -/
inductive File
  | bindings
  | menu
  deriving DecidableEq, Repr

/-- Which lock the shell has enabled. -/
inductive Lock
  | builtIn
  | clone
  | other
  deriving DecidableEq, Repr

/-- Where in the code a step is taken that is taken in several places. -/
inductive Site
  | installed
  | baseline
  | claim
  | temporaries
  | unbuilt
  | previous
  | unstaged
  | unswapped
  | leftover
  | applying
  | undoing
  deriving DecidableEq, Repr

/-- The steps that may fail. -/
inductive Op
  | pluginId
  | home
  | policy
  | renderClone
  | configErrors (site : Site)
  | look (site : Site) (place : Place)
  | readService (site : Site)
  | createPlugins
  | remove (site : Site) (place : Place)
  | createStage
  | write (name : Text)
  | copy (name : Text)
  | setAside
  | swap
  | putBack
  | validate
  | rescan
  | discover
  | enable
  | update (site : Site) (file : File)
  | reload (site : Site)
  | removePlugin
  | removeBackup (name : Text)
  deriving DecidableEq, Repr

/-- Why setup fails. -/
inductive SetupError
  | step (op : Op)
  | foreign
  | render (message : Text)
  | newErrors (introduced : List Text)
  | undone (error : SetupError)
  | undoFailed (error undo : SetupError)

/-- What setup and removal work on. -/
structure Machine where
  /-- The plugin directory, the stage and the rollback. -/
  plugins : Place → Option Directory
  /-- The backups of the plugin that are there. -/
  backups : List Text
  /-- The files of the user. -/
  files : File → Option Text
  /-- The lock that is enabled. -/
  lock : Lock
  /-- The steps that were taken, and whether they succeeded. -/
  trace : List (Op × Bool)

namespace Machine

/-- A step that was taken. -/
def note (machine : Machine) (op : Op) (succeeded : Bool) : Machine :=
  { machine with trace := machine.trace ++ [(op, succeeded)] }

/-- A directory that is put somewhere, or removed. -/
def place (machine : Machine) (place : Place) (directory : Option Directory) : Machine :=
  { machine with plugins := Function.update machine.plugins place directory }

/-- A file that is written. -/
def store (machine : Machine) (file : File) (text : Text) : Machine :=
  { machine with files := Function.update machine.files file (some text) }

@[simp]
theorem store_files (machine : Machine) (file : File) (text : Text) :
    (machine.store file text).files = Function.update machine.files file (some text) := rfl

end Machine

/-- What `omarchy plugin enable` is documented to do: the clone is the lock of the shell from then
on, and nothing else on the machine changes. -/
structure HandedOver (machine after : Machine) : Prop where
  /-- The clone is enabled. -/
  lock : after.lock = .clone
  /-- The plugin directories stay. -/
  plugins : after.plugins = machine.plugins
  /-- The backups stay. -/
  backups : after.backups = machine.backups
  /-- The user's files stay. -/
  files : after.files = machine.files
  /-- It takes no step of setup. -/
  trace : after.trace = machine.trace

/-- What `omarchy plugin remove` is documented to do: the clone is disabled, moved to a backup, and
replaced by the built-in lock, and nothing else on the machine changes. -/
structure HandedBack (backup : Text) (machine after : Machine) : Prop where
  /-- The built-in lock is enabled. -/
  lock : after.lock = .builtIn
  /-- The plugin is gone; the directories beside it stay. -/
  plugins : after.plugins = Function.update machine.plugins .target none
  /-- The plugin became a backup. -/
  backups : after.backups = backup :: machine.backups
  /-- The user's files stay. -/
  files : after.files = machine.files
  /-- It takes no step of setup. -/
  trace : after.trace = machine.trace

/-- The plugin commands of the shell, where they succeed. -/
structure Shell where
  /-- `omarchy plugin enable`. -/
  enable : Machine → Machine
  /-- `omarchy plugin remove`, with the backup that it leaves. -/
  remove : Text → Machine → Machine
  /-- The clone is enabled. -/
  enables : ∀ machine, HandedOver machine (enable machine)
  /-- The clone is handed back. -/
  removes : ∀ backup machine, HandedBack backup machine (remove backup machine)

namespace Shell

theorem enable_eq (shell : Shell) :
    shell.enable = fun machine => { machine with lock := .clone } := by
  funext machine
  obtain ⟨lock, plugins, backups, files, trace⟩ := shell.enables machine
  generalize shell.enable machine = after at *
  cases after
  subst lock plugins backups files trace
  rfl

theorem remove_eq (shell : Shell) (backup : Text) :
    shell.remove backup = fun machine =>
      { machine.place .target none with
        backups := backup :: machine.backups, lock := .builtIn } := by
  funext machine
  obtain ⟨lock, plugins, backups, files, trace⟩ := shell.removes backup machine
  generalize shell.remove backup machine = after at *
  cases after
  subst lock plugins backups files trace
  rfl

/-- The commands, if that is all they do. -/
def documented : Shell where
  enable machine := { machine with lock := .clone }
  remove backup machine :=
    { machine.place .target none with backups := backup :: machine.backups, lock := .builtIn }
  enables _ := ⟨rfl, rfl, rfl, rfl, rfl⟩
  removes _ _ := ⟨rfl, rfl, rfl, rfl, rfl⟩

end Shell

/-- What is outside of the program: which steps fail, and what the others answer. -/
structure Oracle where
  /-- The plugin commands. -/
  shell : Shell
  /-- The steps that fail. -/
  fails : Op → Bool
  /-- What the clone is rendered to. -/
  clone : Clone
  /-- `hyprctl configerrors`. -/
  errors : Site → Text
  /-- `omarchy plugin list`: whether it runs, and whether the clone is in it. -/
  listing : Nat → Option Bool
  /-- `read_dir` on the plugin directories, before and after the removal. -/
  listed : Bool → Bool
  /-- The directory of a replaced file cannot be synced. -/
  unsynced : Site → File → Bool
  /-- The backup that a removal leaves. -/
  backup : Text

/-- A program on the machine. -/
abbrev Step (Result : Type) : Type := Program Machine SetupError Result

section Steps

variable (oracle : Oracle)

/-- A step that has an effect if it succeeds. -/
def attemptIf (op : Op) (succeeds : Bool) (effect : Machine → Machine) : Step Unit :=
  if succeeds then Program.change fun machine => (effect machine).note op true
  else do
    Program.change fun machine => machine.note op false
    Program.fail (.step op)

/-- A step that has its effect unless it fails. -/
def attempt (op : Op) (effect : Machine → Machine) : Step Unit :=
  attemptIf op (!oracle.fails op) effect

/-- A step without an effect. -/
def check (op : Op) : Step Unit := attempt oracle op id

/-- `paths::exists`; a failed look finds nothing. -/
def look (site : Site) (place : Place) : Step Bool := do
  let machine ← Program.read
  let succeeds := !oracle.fails (.look site place)
  Program.change fun machine => machine.note (.look site place) succeeds
  return (machine.plugins place).isSome && succeeds

/-- Whether the plugin directory holds the generated clone; a failed read does not tell. -/
def isGenerated (site : Site) : Step Bool := do
  let machine ← Program.read
  let succeeds := !oracle.fails (.readService site)
  Program.change fun machine => machine.note (.readService site) succeeds
  return succeeds &&
    ((machine.plugins .target).bind fun files => files serviceFile).any
      fun text => Text.contains presenceMarker text

/-- Whether the plugin directory is a generated clone. -/
def isInstalled : Step Bool := do
  check oracle .home
  if ← look oracle .installed .target then isGenerated oracle .installed else return false

/-- Remove a directory that is found to be there. -/
def removeIfPresent (site : Site) (place : Place) : Step Unit := do
  if ← look oracle site place then
    attempt oracle (.remove site place) fun machine => machine.place place none

/-- The errors of the compositor. -/
def configErrors (site : Site) : Step Text := do
  check oracle (.configErrors site)
  return oracle.errors site

/-- Refuse to overwrite a lock plugin that is not generated. -/
def claimTarget : Step Unit := do
  if ← look oracle .claim .target then
    if !(← isGenerated oracle .claim) then Program.fail .foreign

/-- Write a file into the directory that the clone is built in. -/
def writeStaged (op : Op) (name contents : Text) : Step Unit :=
  attempt oracle op fun machine =>
    machine.place .stage
      ((machine.plugins .stage).map fun files => Function.update files name (some contents))

/-- Build the clone beside the plugin directory. -/
def build : Step Unit := do
  let machine ← Program.read
  attemptIf .createStage (!oracle.fails .createStage && (machine.plugins .stage).isNone)
    fun machine => machine.place .stage (some fun _ => none)
  Program.each (fun (name, contents) => writeStaged oracle (.write name) name contents)
    oracle.clone.files
  Program.each (fun (name, contents) => writeStaged oracle (.copy name) name contents)
    oracle.clone.copied

/-- Move a directory.  It may replace another one only if that is empty, which is left to the
oracle. -/
def rename (op : Op) (source destination : Place) : Step Unit :=
  attempt oracle op fun machine =>
    (machine.place destination (machine.plugins source)).place source none

/-- Run a program, and a clean-up if it fails. -/
def orElse (program cleanup : Step Unit) : Step Unit := do
  match ← program.catching with
  | .ok _ => return ()
  | .error error =>
      let _ ← cleanup.catching
      Program.fail error

/-- Swap the new clone in, keeping the old one until that is done. -/
def writeClone : Step Unit := do
  claimTarget oracle
  check oracle .createPlugins
  removeIfPresent oracle .temporaries .stage
  removeIfPresent oracle .temporaries .rollback
  orElse (build oracle) (removeIfPresent oracle .unbuilt .stage)
  if ← look oracle .previous .target then
    orElse (rename oracle .setAside .target .rollback)
      (removeIfPresent oracle .unstaged .stage)
    orElse (rename oracle .swap .stage .target) do
      let _ ← (removeIfPresent oracle .unswapped .stage).catching
      rename oracle .putBack .rollback .target
    removeIfPresent oracle .leftover .rollback
  else
    orElse (rename oracle .swap .stage .target) (removeIfPresent oracle .unswapped .stage)

/-- Whether the clone is discovered within so many tries, from one on. -/
def discovered (listing : Nat → Option Bool) (attempts : Nat) : Nat → Bool
  | 0 => false
  | tries + 1 =>
      match listing attempts with
      | none => false
      | some true => true
      | some false => discovered listing (attempts + 1) tries

/-- Wait until the shell lists the clone. -/
def waitForDiscovery : Step Unit :=
  attemptIf .discover (discovered oracle.listing 0 40) id

/-- Swap the clone in and have the shell enable it. -/
def install : Step Unit := do
  writeClone oracle
  check oracle .validate
  check oracle .rescan
  waitForDiscovery oracle
  attempt oracle .enable oracle.shell.enable

/-- The backups of the plugin; none if they cannot be listed. -/
def backups (removed : Bool) : Step (List Text) := do
  let machine ← Program.read
  return if oracle.listed removed then machine.backups else []

/-- Hand the clone back, and delete the backup of it. -/
def removeLock : Step Unit := do
  if ← look oracle .undoing .target then
    if ← isGenerated oracle .undoing then
      let before ← backups oracle false
      attempt oracle .removePlugin (oracle.shell.remove oracle.backup)
      let after ← backups oracle true
      Program.each (fun name => attempt oracle (.removeBackup name) fun machine =>
        { machine with backups := machine.backups.erase name })
        (after.filter fun name => !before.contains name)

/-- `update_atomic`, which may also fail after it has replaced the file. -/
def update (site : Site) (file : File) (missing : Text) (render : Text → Except Text Text) :
    Step Unit := do
  let machine ← Program.read
  let source := (machine.files file).getD missing
  if oracle.fails (.update site file) then
    attemptIf (.update site file) false id
  else
    match render source with
    | .error message => Program.fail (.render message)
    | .ok rendered =>
        if rendered = source then attemptIf (.update site file) true id
        else
          Program.change fun machine => machine.store file rendered
          attemptIf (.update site file) (!oracle.unsynced site file) id

/-- The path of the bindings, as errors name it. -/
def bindingsPath : Text := ".config/hypr/bindings.lua".toList

/-- Write the block of bindings. -/
def installBinding : Step Unit :=
  update oracle .applying .bindings [] (Binding.render bindingsPath)

/-- Take the block out of the bindings. -/
def removeBinding : Step Unit :=
  update oracle .undoing .bindings [] (Binding.removal bindingsPath)

/-- Write the menu entry. -/
def installMenu : Step Unit := update oracle .applying .menu Menu.emptyExtensions Menu.renderEntry

/-- Take the entry out of the menu. -/
def removeMenu : Step Unit := update oracle .undoing .menu Menu.emptyExtensions Menu.renderRemoval

/-- The errors that were not there before. -/
def newErrors (before after : Text) : List Text :=
  (after.lines.map Text.trim).filter fun line =>
    line ≠ [] && !(before.lines.any fun old => old.trim == line)

/-- Reload the compositor, which must not find more errors than before. -/
def reloadHyprland (site : Site) (baseline : Text) : Step Unit := do
  check oracle (.reload site)
  let after ← configErrors oracle site
  let introduced := newErrors baseline after
  if introduced = [] then return () else Program.fail (.newErrors introduced)

/-- What follows the lock. -/
def integrate (baseline : Text) : Step Unit := do
  installBinding oracle
  installMenu oracle
  reloadHyprland oracle .applying baseline

/-- Take back what was integrated. -/
def undo (baseline : Text) : Step Unit := do
  removeLock oracle
  removeBinding oracle
  removeMenu oracle
  reloadHyprland oracle .undoing baseline

/-- `setup::apply`.  The environment does not change, so it is only consulted once; what follows
the integration only warns. -/
def apply : Step Unit := do
  check oracle .pluginId
  check oracle .policy
  check oracle .renderClone
  let firstInstall := !(← isInstalled oracle)
  let baseline ← configErrors oracle .baseline
  install oracle
  match ← (integrate oracle baseline).catching with
  | .ok _ => return ()
  | .error error =>
      if !firstInstall then Program.fail error
      else
        match ← (undo oracle baseline).catching with
        | .ok _ => Program.fail (.undone error)
        | .error undo => Program.fail (.undoFailed error undo)

end Steps

end PresenceUnlock.Cli.Setup
