import PresenceUnlock.Cli.Setup

/-!
# Removing the lock and its backup

The plugin command keeps a backup of what it removes.  The backups are listed before and after it
runs, and those that only the second listing shows are deleted as its own.
-/

namespace PresenceUnlock.Cli.BackupRemoval

open RustStd Setup Effects

/-- The plugins directory: the lock plugin, and the names of all entries. -/
structure Plugins (Name : Type*) where
  /-- The lock plugin. -/
  target : Option Directory
  /-- The names of all entries. -/
  entries : List Name

/-- Which entries a listing shows; a directory that cannot be opened has no listing. -/
abbrev Listing (Name : Type*) := Option (Name → Bool)

/-- How the deletion of one entry ends; it may fail after some of the entry is gone. -/
inductive Deletion
  | removed
  | partly
  | untouched
  deriving DecidableEq, Repr

/-- What the removal finds around it. -/
structure Surroundings (Name : Type*) where
  /-- `USER`. -/
  user : Option Text
  /-- `LOGNAME`, which is used without `USER`. -/
  logname : Option Text
  /-- Whether the home directory is known. -/
  home : Bool
  /-- Whether the target can be looked at, and its service file read. -/
  looks : Bool
  /-- Whether the service of the plugin can be read. -/
  reads : Bool
  /-- What the listing before the removal gives. -/
  first : Listing Name
  /-- What the listing after it gives. -/
  second : Listing Name
  /-- `omarchy plugin remove`: what it leaves, and whether it succeeds. -/
  command : Plugins Name → Plugins Name × Bool
  /-- The text that a name is compared as. -/
  lossy : Name → Text

/-- The order in which a set is gone through, and how each deletion ends. -/
structure Deleting (Name : Type*) where
  /-- The order. -/
  order : List Name → List Name
  /-- It leaves nothing out, and adds nothing. -/
  mem_order : ∀ names name, name ∈ order names ↔ name ∈ names
  /-- How each deletion ends. -/
  ends : Name → Deletion

/-- What the removal does to the machine. -/
inductive Action (Name : Type*)
  | command
  | delete (name : Name)
  deriving DecidableEq, Repr

/-- Why the removal fails. -/
inductive RemoveError (Name : Type*)
  | noPluginId
  | noHome
  | command
  | delete (name : Name)

/-- What a plugin id may consist of. -/
def isPlain (c : Char) : Bool := c.isAlphanum || c == '-' || c == '_'

/-- The id of the user's clone. -/
def pluginId (user logname : Option Text) : Option Text :=
  (user.or logname).bind fun user =>
    if user.trim = [] ∨ user.trim.all isPlain = false then none
    else some (user.trim ++ ".lock".toList)

/-- How the names of its backups begin. -/
def backupPrefix (id : Text) : Text := '.' :: id ++ ".bak.".toList

/-- The target's service file carries the marker. -/
def Generated {Name : Type*} (plugins : Plugins Name) : Prop :=
  ((plugins.target.bind fun files => files serviceFile).any
    fun text => Text.contains presenceMarker text) = true

instance {Name : Type*} (plugins : Plugins Name) : Decidable (Generated plugins) :=
  inferInstanceAs (Decidable (_ = true))

variable {Name : Type*}

/-- The entries with the prefix that a listing shows; none if there is no listing. -/
def backups (lossy : Name → Text) (front : Text) (listing : Listing Name) (entries : List Name) :
    List Name :=
  match listing with
  | none => []
  | some shown => entries.filter fun name => shown name && front.isPrefixOf (lossy name)

/-- Delete one entry after the other, up to the first failure. -/
def deleteEach (ends : Name → Deletion) :
    List Name → Except (RemoveError Name) Unit × List (Action Name)
  | [] => (.ok (), [])
  | name :: names =>
      match ends name with
      | .removed => ((deleteEach ends names).1, .delete name :: (deleteEach ends names).2)
      | .partly => (.error (.delete name), [.delete name])
      | .untouched => (.error (.delete name), [])

/-- The removal finds the clone it has generated. -/
def Surroundings.Finds (around : Surroundings Name) (plugins : Plugins Name) : Prop :=
  (plugins.target.isSome ∧ around.looks) ∧ around.reads ∧ Generated plugins

instance (around : Surroundings Name) (plugins : Plugins Name) :
    Decidable (around.Finds plugins) :=
  inferInstanceAs (Decidable ((_ ∧ _) ∧ _ ∧ _))

variable [DecidableEq Name]

/-- Remove the plugin, if it is the generated clone, and the backup that this leaves. -/
def remove (around : Surroundings Name) (deleting : Deleting Name) (plugins : Plugins Name) :
    Except (RemoveError Name) Unit × List (Action Name) :=
  match pluginId around.user around.logname with
  | none => (.error .noPluginId, [])
  | some id =>
      if !around.home then (.error .noHome, [])
      else if ¬ around.Finds plugins then (.ok (), [])
      else
        let before := backups around.lossy (backupPrefix id) around.first plugins.entries
        let left := around.command plugins
        if !left.2 then (.error .command, [.command])
        else
          let after := backups around.lossy (backupPrefix id) around.second left.1.entries
          let deleted := deleteEach deleting.ends
            (deleting.order (after.filter fun name => name ∉ before))
          (deleted.1, .command :: deleted.2)

omit [DecidableEq Name] in
theorem mem_backups {lossy : Name → Text} {front : Text} {listing : Listing Name}
    {entries : List Name} {name : Name} :
    name ∈ backups lossy front listing entries ↔
      name ∈ entries ∧ front <+: lossy name ∧ listing.any (fun shown => shown name) = true := by
  cases listing with
  | none => simp [backups]
  | some shown =>
      simp only [backups, List.mem_filter, Bool.and_eq_true, List.isPrefixOf_iff_prefix,
        Option.any_some]
      tauto

omit [DecidableEq Name] in
theorem mem_of_delete_mem {ends : Name → Deletion} {names : List Name} {name : Name}
    (deleted : .delete name ∈ (deleteEach ends names).2) : name ∈ names := by
  induction names with
  | nil => cases deleted
  | cons first names induction =>
      rw [deleteEach] at deleted
      cases ending : ends first with
      | removed =>
          rw [ending] at deleted
          rcases List.mem_cons.mp deleted with new | later
          · exact (Action.delete.inj new) ▸ List.mem_cons_self
          · exact List.mem_cons_of_mem first (induction later)
      | partly =>
          rw [ending] at deleted
          exact (Action.delete.inj (List.mem_singleton.mp deleted)) ▸ List.mem_cons_self
      | untouched =>
          rw [ending] at deleted
          cases deleted

omit [DecidableEq Name] in
theorem delete_mem_of_removed {names : List Name} {name : Name} (member : name ∈ names) :
    .delete name ∈ (deleteEach (fun _ => .removed) names).2 := by
  induction names with
  | nil => cases member
  | cons first names induction =>
      rw [deleteEach]
      rcases List.mem_cons.mp member with same | later
      · exact same ▸ List.mem_cons_self
      · exact List.mem_cons_of_mem _ (induction later)

/-- The removal deletes only new backups, and leaves a foreign plugin alone. -/
structure Careful (around : Surroundings Name) (deleting : Deleting Name)
    (plugins : Plugins Name) : Prop where
  /-- It deletes only backups that were not there before. -/
  only_new : ∀ name, .delete name ∈ (remove around deleting plugins).2 →
    ∃ id ∈ pluginId around.user around.logname,
      backupPrefix id <+: around.lossy name ∧ name ∉ plugins.entries
  /-- It leaves a foreign plugin alone. -/
  foreign : ¬ Generated plugins → (remove around deleting plugins).2 = []

/-- An old backup that the second listing shows is in the first one as well. -/
def Distinguishes (around : Surroundings Name) (plugins : Plugins Name) (id : Text) : Prop :=
  ∀ name ∈ plugins.entries,
    name ∈ backups around.lossy (backupPrefix id) around.second
      (around.command plugins).1.entries →
    name ∈ backups around.lossy (backupPrefix id) around.first plugins.entries

/-- The removal gets as far as the second listing. -/
structure Reaches (around : Surroundings Name) (plugins : Plugins Name) (id : Text) : Prop where
  /-- The id of the clone is known. -/
  named : id ∈ pluginId around.user around.logname
  /-- So is the home directory. -/
  home : around.home = true
  /-- The generated clone is found. -/
  finds : around.Finds plugins
  /-- The command of the shell succeeds. -/
  succeeds : (around.command plugins).2 = true

theorem remove_of_reaches {around : Surroundings Name} {plugins : Plugins Name} {id : Text}
    (reaches : Reaches around plugins id) (deleting : Deleting Name) :
    (remove around deleting plugins).2 =
      .command :: (deleteEach deleting.ends (deleting.order
        ((backups around.lossy (backupPrefix id) around.second
          (around.command plugins).1.entries).filter fun name =>
            name ∉ backups around.lossy (backupPrefix id) around.first plugins.entries))).2 := by
  rw [remove]
  have named := Option.mem_def.mp reaches.named
  simp only [named, reaches.home, reaches.finds, reaches.succeeds, Bool.not_true,
    Bool.false_eq_true, not_true, if_false]

theorem remove_of_not_finds {around : Surroundings Name} {plugins : Plugins Name}
    (unfound : ¬ around.Finds plugins) (deleting : Deleting Name) :
    (remove around deleting plugins).2 = [] := by
  cases named : pluginId around.user around.logname with
  | none => simp [remove, named]
  | some id => by_cases home : around.home = true <;> simp [remove, named, home, unfound]

/-- Whatever the removal deletes, it has got as far as the second listing, and only that one shows
the entry. -/
theorem reaches_of_delete {around : Surroundings Name} {deleting : Deleting Name}
    {plugins : Plugins Name} {name : Name}
    (deleted : .delete name ∈ (remove around deleting plugins).2) :
    ∃ id, Reaches around plugins id ∧
      name ∈ backups around.lossy (backupPrefix id) around.second
        (around.command plugins).1.entries ∧
      name ∉ backups around.lossy (backupPrefix id) around.first plugins.entries := by
  cases named : pluginId around.user around.logname with
  | none => simp [remove, named] at deleted
  | some id =>
      by_cases home : around.home = true
      · by_cases finds : around.Finds plugins
        · by_cases succeeds : (around.command plugins).2 = true
          · have reaches : Reaches around plugins id := ⟨named, home, finds, succeeds⟩
            rw [remove_of_reaches reaches deleting] at deleted
            rcases List.mem_cons.mp deleted with command | listed
            · cases command
            · have member := (deleting.mem_order _ _).mp (mem_of_delete_mem listed)
              obtain ⟨shown, new⟩ := List.mem_filter.mp member
              exact ⟨id, reaches, shown, of_decide_eq_true new⟩
          · simp [remove, named, home, finds, succeeds] at deleted
        · simp [remove, named, home, finds] at deleted
      · simp [remove, named, home] at deleted

/-- In whatever order the new backups are gone through and however their deletions end, the removal
is careful exactly when, if it gets that far, the first listing shows every old backup that the
second one shows. -/
theorem remove_careful_iff (around : Surroundings Name) (plugins : Plugins Name) :
    (∀ deleting, Careful around deleting plugins) ↔
      ∀ id, Reaches around plugins id → Distinguishes around plugins id := by
  constructor
  · intro careful id reaches name old shown
    by_contra hidden
    -- Every deletion succeeds, so nothing stops the loop before the old backup.
    have deletes :=
      (careful ⟨fun names => names, fun _ _ => Iff.rfl, fun _ => .removed⟩).only_new name
    rw [remove_of_reaches reaches] at deletes
    obtain ⟨_, _, _, new⟩ := deletes (List.mem_cons_of_mem _ (delete_mem_of_removed
      (List.mem_filter.mpr ⟨shown, decide_eq_true hidden⟩)))
    exact new old
  · intro distinguishes deleting
    refine ⟨fun name deleted => ?_, fun foreign => ?_⟩
    · obtain ⟨id, reaches, shown, new⟩ := reaches_of_delete deleted
      exact ⟨id, reaches.named, (mem_backups.mp shown).2.1,
        fun old => new (distinguishes id reaches name old shown)⟩
    · exact remove_of_not_finds (fun finds => foreign finds.2.2) deleting

/-- A user's earlier clone, kept beside the generated lock. -/
def earlierBackup : Text := backupPrefix ['u', '.', 'l', 'o', 'c', 'k'] ++ ['1']

/-- The generated clone, and a backup of an earlier one. -/
def withEarlierBackup : Plugins Text :=
  ⟨some (Function.update (fun _ => none) serviceFile (some presenceMarker)), [earlierBackup]⟩

/-- The plugins directory cannot be opened the first time, but the second time it can. -/
def firstListingFails : Surroundings Text where
  user := some ['u']
  logname := none
  home := true
  looks := true
  reads := true
  first := none
  second := some fun _ => true
  command plugins := (⟨none, plugins.entries⟩, true)
  lossy name := name

theorem deletes_earlier_backup :
    ¬ ∀ (around : Surroundings Text) deleting (plugins : Plugins Text),
      Careful around deleting plugins := by
  intro careful
  let deleting : Deleting Text := ⟨fun names => names, fun _ _ => Iff.rfl, fun _ => .removed⟩
  have deleted : .delete earlierBackup ∈
      (remove firstListingFails deleting withEarlierBackup).2 := by decide +kernel
  obtain ⟨_, _, _, new⟩ :=
    (careful firstListingFails deleting withEarlierBackup).only_new _ deleted
  exact new List.mem_cons_self

end PresenceUnlock.Cli.BackupRemoval
