import PresenceUnlock.Cli.BindingEdit
import PresenceUnlock.Cli.CloneSwap
import PresenceUnlock.Cli.Doctor
import PresenceUnlock.Cli.LockPatches

/-!
# After a setup

A setup that succeeds has put the whole clone in place, had it enabled and written the block of
bindings, whatever was there before.  Of what the preflight checks ask of the lock, only whether it
answers is then left open.
-/

namespace PresenceUnlock.Cli.Setup

open RustStd Effects

/-- The plugin directory has not been touched. -/
def Untouched (machine : Machine) : Prop := touched machine.trace = false

/-- The whole clone has been built beside the plugin directory. -/
def Built (oracle : Oracle) (machine : Machine) : Prop :=
  machine.plugins .stage = some oracle.clone.installed

/-- The plugin directory is the whole clone. -/
def InPlace (oracle : Oracle) (machine : Machine) : Prop :=
  machine.plugins .target = some oracle.clone.installed

/-- The whole clone is enabled. -/
structure Activated (oracle : Oracle) (machine : Machine) : Prop where
  /-- The plugin directory is the whole clone. -/
  inPlace : InPlace oracle machine
  /-- The shell has it enabled. -/
  enabled : machine.lock = .clone

/-- The whole clone is enabled, and the bindings report the gesture to it. -/
structure Integrated (oracle : Oracle) (machine : Machine) : Prop
    extends Activated oracle machine where
  /-- The block is in the bindings. -/
  bound : ∃ text ∈ machine.files .bindings, Binding.block <:+: text

section Rules

variable {oracle : Oracle} {before after : Machine → Prop} {shape : Machine → Prop}
  {machine : Machine} {op : Op}

/-- Shapes that notes do not change. -/
def Lasting (shape : Machine → Prop) : Prop :=
  ∀ machine op succeeded, shape machine → shape (machine.note op succeeded)

theorem lasting_built : Lasting (Built oracle) := fun _ _ _ built => built

theorem lasting_inPlace : Lasting (InPlace oracle) := fun _ _ _ inPlace => inPlace

theorem lasting_activated : Lasting (Activated oracle) :=
  fun _ _ _ activated => ⟨activated.inPlace, activated.enabled⟩

theorem lasting_integrated : Lasting (Integrated oracle) :=
  fun _ _ _ integrated => ⟨⟨integrated.inPlace, integrated.enabled⟩, integrated.bound⟩

theorem leaves_anything {Result : Type} {program : Step Result} :
    Leaves program before (fun _ _ => True) fun _ _ => True := by
  intro machine _
  split <;> trivial

/-- An invariant as far as only success matters. -/
theorem Keeps.succeeds {Result : Type} {program : Step Result} (keeps : Keeps shape program) :
    Leaves program shape (fun _ => shape) fun _ _ => True :=
  Leaves.weaken keeps (fun _ holds => holds) (fun _ _ holds => holds) fun _ _ _ => trivial

theorem succeeds_attempt {effect : Machine → Machine} (lasting : Lasting after)
    (effects : ∀ machine, before machine → after (effect machine)) :
    Leaves (attempt oracle op effect) before (fun _ => after) fun _ _ => True :=
  leaves_attempt (fun _ machine holds => lasting _ op true (effects machine holds))
    fun _ _ _ => trivial

theorem succeeds_attemptIf {succeeds : Bool} (lasting : Lasting shape) :
    Leaves (attemptIf op succeeds id) shape (fun _ => shape) fun _ _ => True :=
  leaves_attemptIf (fun _ machine holds => lasting machine op true holds) fun _ _ _ => trivial

theorem succeeds_check (lasting : Lasting shape) :
    Leaves (check oracle op) shape (fun _ => shape) fun _ _ => True :=
  succeeds_attempt lasting fun _ holds => holds

theorem succeeds_look {site : Site} {place : Place} (lasting : Lasting shape) :
    Leaves (look oracle site place) shape (fun _ => shape) fun _ _ => True :=
  leaves_look (fun _ machine holds => lasting machine _ true holds)
    fun _ machine holds => lasting machine _ false holds

theorem succeeds_removeIfPresent {site : Site} {place : Place} (lasting : Lasting shape)
    (removes : ∀ machine, shape machine → shape (machine.place place none)) :
    Leaves (removeIfPresent oracle site place) shape (fun _ => shape) fun _ _ => True := by
  apply (succeeds_look lasting).bind
  intro found
  cases found with
  | true => exact succeeds_attempt lasting removes
  | false => exact leaves_pure fun _ holds => holds

theorem succeeds_orElse {program cleanup : Step Unit}
    (runs : Leaves program before (fun _ => after) fun _ _ => True) :
    Leaves (orElse program cleanup) before (fun _ => after) fun _ _ => True :=
  leaves_orElse runs fun _ => leaves_anything

theorem Untouched.note (untouched : Untouched machine) (harmless : op.touches = false)
    (succeeded : Bool) : Untouched (machine.note op succeeded) := by
  rw [Untouched, Machine.note, touched_concat, untouched, harmless]
  rfl

theorem untouched_check (harmless : op.touches = false) :
    Leaves (check oracle op) Untouched (fun _ => Untouched) fun _ _ => True :=
  leaves_attempt (fun _ _ untouched => untouched.note harmless true) fun _ _ _ => trivial

theorem untouched_look {site : Site} {place : Place} :
    Leaves (look oracle site place) Untouched (fun _ => Untouched) fun _ _ => True :=
  leaves_look (fun _ _ untouched => untouched.note rfl true)
    fun _ _ untouched => untouched.note rfl false

theorem untouched_isGenerated {site : Site} :
    Leaves (isGenerated oracle site) Untouched (fun _ => Untouched) fun _ _ => True :=
  leaves_isGenerated (fun _ _ untouched _ => untouched.note rfl true)
    (fun _ _ untouched _ => untouched.note rfl true) fun _ _ untouched => untouched.note rfl false

theorem untouched_isInstalled :
    Leaves (isInstalled oracle) Untouched (fun _ => Untouched) fun _ _ => True := by
  apply (untouched_check rfl).bind
  intro _
  apply untouched_look.bind
  intro found
  cases found with
  | true => exact untouched_isGenerated
  | false => exact leaves_pure fun _ untouched => untouched

theorem untouched_claimTarget :
    Leaves (claimTarget oracle) Untouched (fun _ => Untouched) fun _ _ => True := by
  apply untouched_look.bind
  intro found
  cases found with
  | false => exact leaves_pure fun _ untouched => untouched
  | true =>
      apply untouched_isGenerated.bind
      intro generated
      cases generated with
      | true => exact leaves_pure fun _ untouched => untouched
      | false => exact leaves_fail fun _ _ => trivial

theorem untouched_removeIfPresent {site : Site} {place : Place}
    (beside : (Op.remove site place).touches = false) :
    Leaves (removeIfPresent oracle site place) Untouched (fun _ => Untouched) fun _ _ => True := by
  apply untouched_look.bind
  intro found
  cases found with
  | false => exact leaves_pure fun _ untouched => untouched
  | true =>
      refine leaves_attempt (fun _ machine untouched => ?_) fun _ _ _ => trivial
      have cleared : Untouched (machine.place place none) := untouched
      exact cleared.note beside true

theorem succeeds_build :
    Leaves (build oracle) Untouched (fun _ => Built oracle) fun _ _ => True := by
  intro machine untouched
  have builds : Leaves (build oracle) (Laid machine.plugins false) (fun _ => Built oracle)
      fun _ _ => True := by
    refine laid_build.weaken (fun _ laid => laid) (fun _ world left => ?_) fun _ _ _ => trivial
    rw [Built, left.2.plugins_eq, Function.update_self]
  exact builds machine ⟨rfl, untouched⟩

theorem succeeds_setAside :
    Leaves (rename oracle .setAside .target .rollback) (Built oracle) (fun _ => Built oracle)
      fun _ _ => True :=
  succeeds_attempt lasting_built fun _ built => built

theorem succeeds_swap :
    Leaves (rename oracle .swap .stage .target) (Built oracle) (fun _ => InPlace oracle)
      fun _ _ => True :=
  succeeds_attempt lasting_inPlace fun _ built => built

theorem succeeds_writeClone :
    Leaves (writeClone oracle) Untouched (fun _ => InPlace oracle) fun _ _ => True := by
  apply untouched_claimTarget.bind
  intro _
  apply (untouched_check rfl).bind
  intro _
  apply (untouched_removeIfPresent rfl).bind
  intro _
  apply (untouched_removeIfPresent rfl).bind
  intro _
  apply (succeeds_orElse succeeds_build).bind
  intro _
  apply (succeeds_look lasting_built).bind
  intro found
  cases found with
  | false => exact succeeds_orElse succeeds_swap
  | true =>
      apply (succeeds_orElse succeeds_setAside).bind
      intro _
      apply (succeeds_orElse succeeds_swap).bind
      intro _
      exact succeeds_removeIfPresent lasting_inPlace fun _ inPlace => inPlace

theorem succeeds_install :
    Leaves (install oracle) Untouched (fun _ => Activated oracle) fun _ _ => True := by
  apply succeeds_writeClone.bind
  intro _
  apply (succeeds_check lasting_inPlace).bind
  intro _
  apply (succeeds_check lasting_inPlace).bind
  intro _
  apply (succeeds_attemptIf lasting_inPlace).bind
  intro _
  refine succeeds_attempt lasting_activated fun machine inPlace => ?_
  have handed := oracle.shell.enables machine
  exact ⟨(congrFun handed.plugins .target).trans inPlace, handed.lock⟩

theorem block_infix_render {path source rendered : Text}
    (written : Binding.render path source = .ok rendered) : Binding.block <:+: rendered := by
  rw [Binding.render] at written
  split at written
  · cases written
    exact (List.suffix_append _ _).isInfix.trans (List.prefix_append _ _).isInfix
  · split at written
    · cases written
      rw [Text.replaceRange]
      exact List.infix_append' _ _ _
    · cases written
  · cases written

/-- An edit leaves a file as it was rendered, whether it had to be replaced or not. -/
theorem succeeds_update {site : Site} {file : File} {missing : Text}
    {render : Text → Except Text Text} (lasting : Lasting after)
    (unchanged : ∀ machine, before machine →
      render ((machine.files file).getD missing) = .ok ((machine.files file).getD missing) →
        after machine)
    (stored : ∀ machine rendered, before machine →
      render ((machine.files file).getD missing) = .ok rendered →
        after (machine.store file rendered)) :
    Leaves (update oracle site file missing render) before (fun _ => after) fun _ _ => True := by
  apply leaves_read.bind
  intro machine
  dsimp only
  split
  · exact leaves_attemptIf nofun fun _ _ _ => trivial
  split
  · exact leaves_fail fun _ _ => trivial
  rename_i rendered written
  split
  · rename_i same
    refine leaves_attemptIf (fun _ => ?_) fun _ _ _ => trivial
    rintro _ ⟨rfl, holds⟩
    exact lasting machine _ true (unchanged machine holds (by rw [written, same]))
  · have store : Leaves (Program.change fun machine => machine.store file rendered)
        (fun world => machine = world ∧ before world) (fun _ => after)
        fun (_ : SetupError) _ => True := by
      refine leaves_change ?_
      rintro _ ⟨rfl, holds⟩
      exact stored _ _ holds written
    apply store.bind
    intro _
    exact succeeds_attemptIf lasting

theorem succeeds_installBinding :
    Leaves (installBinding oracle) (Activated oracle) (fun _ => Integrated oracle)
      fun _ _ => True := by
  refine succeeds_update lasting_integrated (fun machine activated written => ?_)
    fun machine rendered activated written => ?_
  · have bound := block_infix_render written
    cases here : machine.files .bindings with
    | none =>
        rw [here] at bound
        exact absurd (List.infix_nil.mp bound) (by decide)
    | some text =>
        rw [here] at bound
        exact ⟨activated, text, here, bound⟩
  · exact ⟨⟨activated.inPlace, activated.enabled⟩, rendered, rfl, block_infix_render written⟩

theorem succeeds_installMenu :
    Leaves (installMenu oracle) (Integrated oracle) (fun _ => Integrated oracle)
      fun _ _ => True := by
  refine succeeds_update lasting_integrated (fun _ integrated _ => integrated)
    fun machine rendered integrated _ => ?_
  exact ⟨⟨integrated.inPlace, integrated.enabled⟩, integrated.bound⟩

theorem succeeds_reloadHyprland {site : Site} {baseline : Text} :
    Leaves (reloadHyprland oracle site baseline) (Integrated oracle) (fun _ => Integrated oracle)
      fun _ _ => True := by
  apply (succeeds_check lasting_integrated).bind
  intro _
  have errors : Leaves (configErrors oracle site) (Integrated oracle)
      (fun _ => Integrated oracle) fun _ _ => True :=
    (succeeds_check lasting_integrated).bind fun _ => leaves_pure fun _ holds => holds
  apply errors.bind
  intro errors
  dsimp only
  split
  · exact leaves_pure fun _ holds => holds
  · exact leaves_fail fun _ _ => trivial

theorem succeeds_integrate {baseline : Text} :
    Leaves (integrate oracle baseline) (Activated oracle) (fun _ => Integrated oracle)
      fun _ _ => True := by
  apply succeeds_installBinding.bind
  intro _
  apply succeeds_installMenu.bind
  intro _
  exact succeeds_reloadHyprland

/-- Whatever was there before, a setup that succeeds leaves the whole integration. -/
theorem succeeds_apply :
    Leaves (apply oracle) Untouched (fun _ => Integrated oracle) fun _ _ => True := by
  apply (untouched_check rfl).bind
  intro _
  apply (untouched_check rfl).bind
  intro _
  apply (untouched_check rfl).bind
  intro _
  apply untouched_isInstalled.bind
  intro installed
  have errors : Leaves (configErrors oracle .baseline) Untouched (fun _ => Untouched)
      fun _ _ => True :=
    (untouched_check rfl).bind fun _ => leaves_pure fun _ untouched => untouched
  apply errors.bind
  intro baseline
  apply succeeds_install.bind
  intro _
  apply succeeds_integrate.caught.bind
  intro outcome
  cases outcome with
  | ok => exact leaves_pure fun _ integrated => integrated
  | error error =>
      dsimp only
      split
      · exact leaves_fail fun _ _ => trivial
      apply leaves_anything.caught.bind
      intro undone
      cases undone with
      | ok => exact leaves_fail fun _ _ => trivial
      | error => exact leaves_fail fun _ _ => trivial

end Rules

theorem Integrated.of_apply {oracle : Oracle} {start final : Machine} (untraced : start.trace = [])
    (ran : apply oracle start = (.ok (), final)) : Integrated oracle final := by
  have untouched : Untouched start := by rw [Untouched, untraced]; rfl
  have applies : Leaves (apply oracle) Untouched (fun _ => Integrated oracle) fun _ _ => True :=
    succeeds_apply
  have left := applies start untouched
  rwa [ran] at left

theorem writeAll_of_notMem {files : List (Text × Text)} {directory : Directory} {name : Text}
    (absent : ∀ file ∈ files, file.1 ≠ name) : writeAll files directory name = directory name := by
  induction files generalizing directory with
  | nil => rfl
  | cons file files induction =>
      have different : name ≠ file.1 := (absent file List.mem_cons_self).symm
      exact (induction fun other member => absent other (List.mem_cons_of_mem file member)).trans
        (Function.update_of_ne different _ _)

theorem Clone.installed_of_rendered (clone : Clone) {name : Text}
    (rendered : name ∈ [manifestFile, serviceFile, viewFile]) :
    clone.installed name = writeAll clone.files (fun _ => none) name :=
  writeAll_of_notMem fun file member same => clone.others file member (same ▸ rendered)

theorem Clone.installed_service (clone : Clone) :
    clone.installed serviceFile = some clone.service :=
  clone.installed_of_rendered (by decide)

theorem Clone.installed_view (clone : Clone) : clone.installed viewFile = some clone.view :=
  clone.installed_of_rendered (by decide)

theorem required_infix_block :
    ∀ required ∈ Doctor.requiredBindings, required <:+: Binding.block := by
  decide +kernel

variable {Source : Type}

/-- The checks look at this machine: at its files and at the lock that its shell has enabled. -/
structure Sees (found : Doctor.Found Source) (integration : Doctor.LockIntegration)
    (machine : Machine) : Prop where
  /-- It is known where the parts of the lock are. -/
  resolved : Doctor.lockIntegration found = some integration
  /-- The service is that of the plugin directory. -/
  service : found.readToString integration.service =
    (machine.plugins .target).bind fun files => files serviceFile
  /-- The view is that of the plugin directory. -/
  view : found.readToString integration.view =
    (machine.plugins .target).bind fun files => files viewFile
  /-- The bindings are those of the user. -/
  bindings : found.readToString integration.bindings = machine.files .bindings
  /-- The clone is listed as enabled if it is. -/
  clone : Doctor.pluginIsEnabled found integration.pluginId = true ↔ machine.lock = .clone
  /-- So is the stock lock. -/
  builtIn : Doctor.pluginIsEnabled found Doctor.stockPluginId = true ↔ machine.lock = .builtIn

theorem Integrated.lock_healthy_iff {oracle : Oracle} {machine : Machine}
    {found : Doctor.Found Source} {integration : Doctor.LockIntegration}
    (integrated : Integrated oracle machine) (sees : Sees found integration machine)
    (service_marked : presenceMarker <:+: oracle.clone.service)
    (view_marked : presenceMarker <:+: oracle.clone.view) :
    Doctor.LockHealthy found integration ↔ Doctor.presenceResponds found = true := by
  refine ⟨Doctor.LockHealthy.responds, fun responds => ⟨?_, ?_, ?_, ?_, responds⟩⟩
  · have service := sees.service
    rw [integrated.inPlace, Option.bind_some, Clone.installed_service] at service
    have view := sees.view
    rw [integrated.inPlace, Option.bind_some, Clone.installed_view] at view
    simp only [List.forall_mem_cons, List.not_mem_nil, IsEmpty.forall_iff, implies_true, and_true]
    exact ⟨⟨_, service, service_marked⟩, _, view, view_marked⟩
  · obtain ⟨text, here, bound⟩ := integrated.bound
    exact ⟨text, sees.bindings.trans here, fun required member =>
      (required_infix_block required member).trans bound⟩
  · exact sees.clone.mpr integrated.enabled
  · rw [← Bool.not_eq_true, sees.builtIn, integrated.enabled]
    exact nofun

variable (crates : Crates) (toml : Toml Source) (tomlText : Source → Text) in
/-- After a setup that succeeded, whatever was there before, nothing but the answer of the lock
remains of what the checks ask of it: the command succeeds if and only if the lock answers, the
policy and the path unit are there, and the enrollment is healthy. -/
theorem doctor_after_setup {oracle : Oracle} {start final : Machine} {found : Doctor.Found Source}
    {integration : Doctor.LockIntegration} {stockService stockView : Text}
    (untraced : start.trace = []) (ran : apply oracle start = (.ok (), final))
    (service : LockPatches.renderService stockService = .ok oracle.clone.service)
    (view : LockPatches.renderView stockView = .ok oracle.clone.view)
    (sees : Sees found integration final) :
    (Doctor.doctor crates toml tomlText found).2 = .ok () ↔
      Doctor.presenceResponds found = true ∧ found.policyInstalled = true ∧
        found.pathEnabled = .ok true ∧ ∃ source config settings,
          Doctor.EnrollmentHealthy crates toml found source config settings := by
  have integrated := Integrated.of_apply untraced ran
  have healthy_iff := integrated.lock_healthy_iff sees
    (LockPatches.presenceMarker_infix_renderService service)
    (LockPatches.presenceMarker_infix_renderView view)
  rw [Doctor.doctor_ok_iff_healthy]
  constructor
  · intro healthy
    obtain ⟨found_at, resolved, lock⟩ := healthy.lock
    rw [sees.resolved] at resolved
    cases resolved
    exact ⟨healthy_iff.mp lock, healthy.policy, healthy.path, healthy.enrollment⟩
  · rintro ⟨responds, policy, path, enrollment⟩
    exact ⟨⟨integration, sees.resolved, healthy_iff.mpr responds⟩, policy, path, enrollment⟩

/-- The lines of a stock file that are patched. -/
def stockOf (patches : List Text.LineEdit) : Text := patches.flatMap fun patch => patch.edit.anchor

/-- That service, patched. -/
def renderedService : Text :=
  (LockPatches.renderService (stockOf LockPatches.servicePatches)).toOption.getD []

/-- That view, patched. -/
def renderedView : Text :=
  (LockPatches.renderView (stockOf LockPatches.viewPatches)).toOption.getD []

/-- A text that holds every anchor once, and no marker, is patched. -/
theorem render_eq_getD {patches : List Text.Edit} {source file : Text}
    (independent : Text.Edit.Independent patches) (unmarked : ¬ presenceMarker <:+: source)
    (once : ∀ edit ∈ patches, Text.count edit.anchor source = 1) :
    LockPatches.render source patches file =
      .ok ((LockPatches.render source patches file).toOption.getD []) := by
  obtain ⟨rendered, applied⟩ := (Text.Edit.exists_applyAll_iff independent source).mpr once
  rw [(LockPatches.render_eq_ok_iff source patches file rendered).mpr ⟨unmarked, applied⟩]
  rfl

theorem renderService_stockOf :
    LockPatches.renderService (stockOf LockPatches.servicePatches) = .ok renderedService :=
  render_eq_getD LockPatches.independent_servicePatches (by decide +kernel) (by decide +kernel)

theorem renderView_stockOf :
    LockPatches.renderView (stockOf LockPatches.viewPatches) = .ok renderedView :=
  render_eq_getD LockPatches.independent_viewPatches (by decide +kernel) (by decide +kernel)

/-- No step fails. -/
def succeeding : Oracle :=
  { failing .policy with
    fails := fun _ => false
    clone := { plainClone with
      service := renderedService
      view := renderedView
      marked := LockPatches.presenceMarker_infix_renderService renderService_stockOf } }

theorem renderService_succeeding :
    LockPatches.renderService (stockOf LockPatches.servicePatches) =
      .ok succeeding.clone.service := by
  simp only [succeeding]
  exact renderService_stockOf

theorem renderView_succeeding :
    LockPatches.renderView (stockOf LockPatches.viewPatches) = .ok succeeding.clone.view := by
  simp only [succeeding]
  exact renderView_stockOf

/-- The machine after that setup. -/
def afterSetup : Machine := (apply succeeding bareMachine).2

theorem apply_succeeding : apply succeeding bareMachine = (.ok (), afterSetup) := by
  apply Prod.ext
  · rfl
  · rfl

/-- Where the lock of a user is. -/
def lockOfAnn : Doctor.LockIntegration where
  pluginId := "ann.lock".toList
  service := "/home/ann/.config/omarchy/plugins/ann.lock/Service.qml".toList
  view := "/home/ann/.config/omarchy/plugins/ann.lock/LockView.qml".toList
  bindings := "/home/ann/.config/hypr/bindings.lua".toList

/-- The files and the lock are those of a machine; the rest is healthy. -/
def foundOn (machine : Machine) : Doctor.Found Document :=
  { Doctor.healthyFound with
    readToString := fun path =>
      if path = lockOfAnn.service then (machine.plugins .target).bind fun files => files serviceFile
      else if path = lockOfAnn.view then (machine.plugins .target).bind fun files => files viewFile
      else if path = lockOfAnn.bindings then machine.files .bindings
      else none
    plugins := some [⟨some lockOfAnn.pluginId, some (machine.lock == .clone)⟩,
      ⟨some Doctor.stockPluginId, some (machine.lock == .builtIn)⟩] }

theorem resolved_foundOn (machine : Machine) :
    Doctor.lockIntegration (foundOn machine) = some lockOfAnn :=
  show Doctor.lockIntegration Doctor.healthyFound = some lockOfAnn by decide +kernel

theorem sees_foundOn (machine : Machine) : Sees (foundOn machine) lockOfAnn machine where
  resolved := resolved_foundOn machine
  service := rfl
  view := rfl
  bindings := rfl
  clone := by
    have other : ¬ Doctor.stockPluginId = lockOfAnn.pluginId := by decide
    cases lock : machine.lock <;> simp [Doctor.pluginIsEnabled, foundOn, lock, other]
  builtIn := by
    have other : ¬ lockOfAnn.pluginId = Doctor.stockPluginId := by decide
    cases lock : machine.lock <;> simp [Doctor.pluginIsEnabled, foundOn, lock, other]

theorem rest_foundOn (machine : Machine) :
    Doctor.presenceResponds (foundOn machine) = true ∧ (foundOn machine).policyInstalled = true ∧
      (foundOn machine).pathEnabled = .ok true ∧ ∃ source config settings,
        Doctor.EnrollmentHealthy ConfigFile.plainCrates Toml.ofDocuments (foundOn machine) source
          config settings := by
  have healthy := (Doctor.doctor_ok_iff_healthy _ _ _).mp Doctor.doctor_healthyFound
  obtain ⟨_, _, lock⟩ := healthy.lock
  obtain ⟨source, config, settings, enrolled⟩ := healthy.enrollment
  exact ⟨lock.responds, rfl, rfl, source, config, settings, ⟨enrolled.path, enrolled.readable,
    enrolled.parsed, enrolled.resolved, enrolled.mode, enrolled.adapter⟩, enrolled.socket,
    enrolled.reported⟩

theorem doctor_after_setup_of_ann :
    (Doctor.doctor ConfigFile.plainCrates Toml.ofDocuments (fun _ => [])
      (foundOn afterSetup)).2 = .ok () :=
  (doctor_after_setup _ _ _ rfl apply_succeeding renderService_succeeding
    renderView_succeeding (sees_foundOn afterSetup)).mpr (rest_foundOn afterSetup)

end PresenceUnlock.Cli.Setup
