import PresenceUnlock.Cli.Setup
import PresenceUnlock.RustStd.Anchored
import PresenceUnlock.RustStd.Number

/-!
# Patching the stock lock

Setup makes the service and the view of its clone from those of the stock lock, by edits that are
each anchored on an exact run of stock lines.  The edits of a file are independent, so that a file
has all of them or is refused.
-/

namespace PresenceUnlock.Cli.LockPatches

open RustStd Setup
open RustStd.Text (spelled)

/-- Where the state of a presence check goes. -/
def serviceStateAnchor : List Text := [spelled "  property bool strandedLockResolved: false" rfl]

/-- The presence state, the hold timer, its PAM context and the IPC surface. -/
def serviceStatePatch : List Text :=
  [spelled "  property bool strandedLockResolved: false" rfl,
   spelled "" rfl,
   spelled "  // omarchy-presence-unlock:presence" rfl,
   spelled "  //" rfl,
   spelled "  // Wording for the presence hint under the password field. Edit freely: no" rfl,
   spelled "  // authentication decision reads these strings." rfl,
   spelled "  readonly property string presenceIdleText: \"Hold Alt to unlock with your trusted device\"" rfl,
   spelled "  readonly property string presenceHoldingText: \"Keep holding Alt to confirm unlock…\"" rfl,
   spelled "  readonly property string presenceCheckingText: \"Checking presence, authenticating…\"" rfl,
   spelled "  readonly property string presenceRetryText: \"Could not confirm presence. Hold Alt to retry.\"" rfl,
   spelled "  readonly property string presenceCancelledText: \"Hold Alt a little longer to unlock.\"" rfl,
   spelled "  // The gesture, not Hyprland's long_press: the binding reports the press and" rfl,
   spelled "  // release edges and this timer decides when a hold counts as deliberate." rfl,
   spelled "  readonly property int presenceHoldMs: 400" rfl,
   spelled "  property string presenceMessage: presenceIdleText" rfl,
   spelled "  property bool presenceAuthenticating: false" rfl,
   spelled "  property bool presenceConfigured: false" rfl,
   spelled "" rfl,
   spelled "  function cancelPresence() \x7b" rfl,
   spelled "    presenceHoldTimer.stop()" rfl,
   spelled "    presenceAuthenticating = false" rfl,
   spelled "    if (presencePam.active) presencePam.abort()" rfl,
   spelled "    presenceMessage = presenceIdleText" rfl,
   spelled "  \x7d" rfl,
   spelled "" rfl,
   spelled "  // Admission is checked here, before any PAM work: an IPC target every" rfl,
   spelled "  // session process can reach must not be able to start an authentication" rfl,
   spelled "  // attempt against an unlocked session or alongside a password in flight." rfl,
   spelled "  function holdPresence() \x7b" rfl,
   spelled "    if (!lockRequested || !sessionLock.secure) return \"not-locked\"" rfl,
   spelled "    if (authenticatingPassword || presenceAuthenticating || presencePam.active || presenceHoldTimer.running) return \"busy\"" rfl,
   spelled "    if (!presenceConfigured) \x7b" rfl,
   spelled "      presenceMessage = presenceRetryText" rfl,
   spelled "      return \"missing-pam\"" rfl,
   spelled "    \x7d" rfl,
   spelled "    presenceMessage = presenceHoldingText" rfl,
   spelled "    presenceHoldTimer.restart()" rfl,
   spelled "    runWake()" rfl,
   spelled "    return \"holding\"" rfl,
   spelled "  \x7d" rfl,
   spelled "" rfl,
   spelled "  function releasePresence() \x7b" rfl,
   spelled "    if (presenceHoldTimer.running) \x7b" rfl,
   spelled "      presenceHoldTimer.stop()" rfl,
   spelled "      presenceMessage = presenceCancelledText" rfl,
   spelled "    \x7d" rfl,
   spelled "    return \"ok\"" rfl,
   spelled "  \x7d" rfl,
   spelled "" rfl,
   spelled "  Timer \x7b" rfl,
   spelled "    id: presenceHoldTimer" rfl,
   spelled "    interval: root.presenceHoldMs" rfl,
   spelled "" rfl,
   spelled "    onTriggered: \x7b" rfl,
   spelled "      // The lock may have ended, or a password may have been submitted," rfl,
   spelled "      // during the hold. Re-check rather than trusting the earlier decision." rfl,
   spelled "      if (!root.lockRequested || !sessionLock.secure || root.authenticatingPassword) \x7b" rfl,
   spelled "        root.cancelPresence()" rfl,
   spelled "        return" rfl,
   spelled "      \x7d" rfl,
   spelled "" rfl,
   spelled "      root.presenceMessage = root.presenceCheckingText" rfl,
   spelled "      root.presenceAuthenticating = true" rfl,
   spelled "      if (!presencePam.start()) \x7b" rfl,
   spelled "        root.presenceAuthenticating = false" rfl,
   spelled "        root.presenceMessage = root.presenceRetryText" rfl,
   spelled "      \x7d" rfl,
   spelled "    \x7d" rfl,
   spelled "  \x7d" rfl,
   spelled "" rfl,
   spelled "  PamContext \x7b" rfl,
   spelled "    id: presencePam" rfl,
   spelled "    config: \"omarchy-lock-presence\"" rfl,
   spelled "    user: root.userName" rfl,
   spelled "" rfl,
   spelled "    onCompleted: function(result) \x7b" rfl,
   spelled "      // An aborted attempt still completes. Only a result this lock is still" rfl,
   spelled "      // waiting for may unlock it." rfl,
   spelled "      if (!root.presenceAuthenticating) return" rfl,
   spelled "      root.presenceAuthenticating = false" rfl,
   spelled "      if (!root.lockRequested || !sessionLock.secure || root.authenticatingPassword) return" rfl,
   spelled "      if (result === PamResult.Success) root.finishUnlock()" rfl,
   spelled "      else root.presenceMessage = root.presenceRetryText" rfl,
   spelled "    \x7d" rfl,
   spelled "" rfl,
   spelled "    onError: function(error) \x7b" rfl,
   spelled "      root.presenceAuthenticating = false" rfl,
   spelled "      if (root.lockRequested) root.presenceMessage = root.presenceRetryText" rfl,
   spelled "    \x7d" rfl,
   spelled "  \x7d" rfl,
   spelled "" rfl,
   spelled "  // Presence is offered only while its policy exists, the way the stock lock" rfl,
   spelled "  // gates password and fingerprint on theirs. Watched, so removing the" rfl,
   spelled "  // package mid-session takes the hint away instead of leaving a gesture that" rfl,
   spelled "  // can only fail." rfl,
   spelled "  FileView \x7b" rfl,
   spelled "    path: \"/etc/pam.d/omarchy-lock-presence\"" rfl,
   spelled "    watchChanges: true" rfl,
   spelled "    printErrors: false" rfl,
   spelled "    onLoaded: root.presenceConfigured = true" rfl,
   spelled "    onLoadFailed: \x7b" rfl,
   spelled "      root.presenceConfigured = false" rfl,
   spelled "      root.cancelPresence()" rfl,
   spelled "    \x7d" rfl,
   spelled "    onFileChanged: reload()" rfl,
   spelled "  \x7d" rfl,
   spelled "" rfl,
   spelled "  // The Alt hold is a user-intent gesture, not a boundary against same-session" rfl,
   spelled "  // processes: anything running as this user can call hold()." rfl,
   spelled "  IpcHandler \x7b" rfl,
   spelled "    target: \"presence-unlock\"" rfl,
   spelled "" rfl,
   spelled "    function hold(): string \x7b return root.holdPresence() \x7d" rfl,
   spelled "    function release(): string \x7b return root.releasePresence() \x7d" rfl,
   spelled "    function ping(): string \x7b return \"ok\" \x7d" rfl,
   spelled "  \x7d" rfl]

/-- What the lock takes for an authentication. -/
def serviceAuthenticatingAnchor : List Text :=
  [spelled "  readonly property bool authenticating: authenticatingPassword || fingerprintAuthenticating" rfl]

/-- A presence check is one, too. -/
def serviceAuthenticatingPatch : List Text :=
  [spelled "  readonly property bool authenticating: authenticatingPassword || fingerprintAuthenticating || presenceAuthenticating" rfl]

/-- Where the lock forgets its authentications. -/
def serviceResetAnchor : List Text := [spelled "  function resetAuthenticationState() \x7b" rfl]

/-- It forgets a presence check, too. -/
def serviceResetPatch : List Text :=
  [spelled "  function resetAuthenticationState() \x7b" rfl,
   spelled "    cancelPresence()" rfl]

/-- Where a password is submitted. -/
def serviceSubmitAnchor : List Text :=
  [spelled "    if (!lockRequested || authenticatingPassword || password.length === 0) return" rfl]

/-- A password ends a presence check. -/
def serviceSubmitPatch : List Text :=
  [spelled "    if (!lockRequested || authenticatingPassword || password.length === 0) return" rfl,
   spelled "    cancelPresence()" rfl]

/-- What the service hands to the view of a lock. -/
def serviceLockViewAnchor : List Text := [spelled "        passwordText: root.enteredPassword" rfl]

/-- It hands over what there is to say of presence. -/
def serviceLockViewPatch : List Text :=
  [spelled "        passwordText: root.enteredPassword" rfl,
   spelled "        presenceMessage: root.presenceMessage" rfl,
   spelled "        presenceConfigured: root.presenceConfigured" rfl]

/-- What the service hands to the preview. -/
def servicePreviewAnchor : List Text := [spelled "      passwordText: \"\"" rfl]

/-- The preview shows the idle text. -/
def servicePreviewPatch : List Text :=
  [spelled "      passwordText: \"\"" rfl,
   spelled "      presenceMessage: root.presenceIdleText" rfl,
   spelled "      presenceConfigured: root.presenceConfigured" rfl]

/-- Where the view declares its properties. -/
def viewPropertyAnchor : List Text := [spelled "  property bool syncingPasswordText: false" rfl]

/-- The properties that the service hands over. -/
def viewPropertyPatch : List Text :=
  [spelled "  property bool syncingPasswordText: false" rfl,
   spelled "  property string presenceMessage: \"\"" rfl,
   spelled "  property bool presenceConfigured: false" rfl]

/-- The end of the password field. -/
def viewHintAnchor : List Text :=
  [spelled "        horizontalAlignment: Text.AlignHCenter" rfl,
   spelled "        verticalAlignment: Text.AlignVCenter" rfl,
   spelled "      \x7d" rfl,
   spelled "    \x7d" rfl]

/-- The hint below the password field. -/
def viewHintPatch : List Text :=
  [spelled "        horizontalAlignment: Text.AlignHCenter" rfl,
   spelled "        verticalAlignment: Text.AlignVCenter" rfl,
   spelled "      \x7d" rfl,
   spelled "    \x7d" rfl,
   spelled "" rfl,
   spelled "    // omarchy-presence-unlock:presence" rfl,
   spelled "    //" rfl,
   spelled "    // Sits under the field rather than inside it: the field's centered dots" rfl,
   spelled "    // are the stock layout, and a second line of text in there would push" rfl,
   spelled "    // them off centre the way the fingerprint icon is reserved against." rfl,
   spelled "    Text \x7b" rfl,
   spelled "      objectName: \"presenceStatus\"" rfl,
   spelled "      anchors.top: inputField.bottom" rfl,
   spelled "      anchors.topMargin: 14" rfl,
   spelled "      anchors.horizontalCenter: inputField.horizontalCenter" rfl,
   spelled "      width: Math.min(root.fieldWidth, parent.width - 24)" rfl,
   spelled "      text: root.presenceMessage" rfl,
   spelled "      visible: root.presenceConfigured && text.length > 0" rfl,
   spelled "      textFormat: Text.PlainText" rfl,
   spelled "      color: Color.lock.placeholder" rfl,
   spelled "      font.family: Style.font.family" rfl,
   spelled "      font.pixelSize: Style.font.caption" rfl,
   spelled "      horizontalAlignment: Text.AlignHCenter" rfl,
   spelled "      wrapMode: Text.WordWrap" rfl,
   spelled "    \x7d" rfl]

/-- The edits of the service. -/
def servicePatches : List Text.LineEdit :=
  [⟨serviceStateAnchor, serviceStatePatch⟩,
   ⟨serviceAuthenticatingAnchor, serviceAuthenticatingPatch⟩,
   ⟨serviceResetAnchor, serviceResetPatch⟩,
   ⟨serviceSubmitAnchor, serviceSubmitPatch⟩,
   ⟨serviceLockViewAnchor, serviceLockViewPatch⟩,
   ⟨servicePreviewAnchor, servicePreviewPatch⟩]

/-- The edits of the view. -/
def viewPatches : List Text.LineEdit :=
  [⟨viewPropertyAnchor, viewPropertyPatch⟩,
   ⟨viewHintAnchor, viewHintPatch⟩]

/-- How every refusal begins. -/
def changed (file : Text) : Text := "this Omarchy release changed ".toList ++ file

/-- The refusal of a file that lacks an anchor. -/
def missingAnchor (file anchor : Text) : Text :=
  changed file ++ (": the presence integration cannot find\n  ".toList ++ (Text.trimEnd anchor ++
    "\nRun `omarchy-presence-unlock doctor` after updating this package.".toList))

/-- The refusal of a file that has an anchor more than once. -/
def ambiguousAnchor (file anchor : Text) (found : Nat) : Text :=
  changed file ++ (": the presence anchor\n  ".toList ++ (Text.trimEnd anchor ++
    ("\nmatches ".toList ++ (Text.ofNat found ++
      " places, so the edit is ambiguous.".toList))))

/-- The refusal of a file that is no stock one. -/
def alreadyPatched (file : Text) : Text :=
  file ++ (" already contains presence code; setup builds the clone from the stock lock, ".toList ++
    "not from another clone".toList)

/-- One anchored edit, refused where its place is not the only one. -/
def apply (source : Text) (edit : Text.Edit) (file : Text) : Except Text Text :=
  match Text.count edit.anchor source with
  | 1 => .ok (Text.replaceFirst edit.anchor edit.patch source)
  | 0 => .error (missingAnchor file edit.anchor)
  | found => .error (ambiguousAnchor file edit.anchor found)

/-- All edits in turn, on a file without the marker. -/
def render (source : Text) (patches : List Text.Edit) (file : Text) : Except Text Text :=
  if Text.contains presenceMarker source then .error (alreadyPatched file)
  else patches.foldlM (fun rendered edit => apply rendered edit file) source

/-- The service of the clone. -/
def renderService (stock : Text) : Except Text Text :=
  render stock (servicePatches.map Text.LineEdit.edit) serviceFile

/-- The view of the clone. -/
def renderView (stock : Text) : Except Text Text :=
  render stock (viewPatches.map Text.LineEdit.edit) viewFile

theorem toOption_apply (source : Text) (edit : Text.Edit) (file : Text) :
    (apply source edit file).toOption = edit.apply source := by
  rw [apply.eq_def, Text.Edit.apply]
  split
  · rename_i single
    rw [if_pos single]
    rfl
  · rename_i none
    rw [if_neg (by omega)]
    rfl
  · rename_i several _
    rw [if_neg several]
    rfl

theorem toOption_foldlM (patches : List Text.Edit) (file source : Text) :
    (patches.foldlM (fun rendered edit => apply rendered edit file) source).toOption =
      Text.Edit.applyAll patches source := by
  induction patches generalizing source with
  | nil => rfl
  | cons edit rest induction =>
      rw [List.foldlM_cons, Text.Edit.applyAll, ← toOption_apply source edit file]
      cases apply source edit file with
      | error error => rfl
      | ok next => exact induction next

theorem toOption_render (source : Text) (patches : List Text.Edit) (file : Text) :
    (render source patches file).toOption =
      if presenceMarker <:+: source then none else Text.Edit.applyAll patches source := by
  rw [render]
  by_cases marked : presenceMarker <:+: source
  · rw [if_pos (Text.contains_eq_true_iff.mpr marked), if_pos marked]
    rfl
  · rw [if_neg (mt Text.contains_eq_true_iff.mp marked), if_neg marked, toOption_foldlM]

theorem render_eq_ok_iff (source : Text) (patches : List Text.Edit) (file rendered : Text) :
    render source patches file = .ok rendered ↔
      ¬ presenceMarker <:+: source ∧ Text.Edit.applyAll patches source = some rendered := by
  have outcome := toOption_render source patches file
  split_ifs at outcome with marked
  · cases result : render source patches file with
    | error error => simp [marked]
    | ok other => simp [result, Except.toOption] at outcome
  · rw [← outcome]
    cases render source patches file <;> simp [marked, Except.toOption]

theorem independent_servicePatches :
    Text.Edit.Independent (servicePatches.map Text.LineEdit.edit) :=
  Text.LineEdit.independent (by decide +kernel) (by decide +kernel)

theorem independent_viewPatches : Text.Edit.Independent (viewPatches.map Text.LineEdit.edit) :=
  Text.LineEdit.independent (by decide +kernel) (by decide +kernel)

theorem marker_serviceStatePatch : presenceMarker <:+: Text.unlines serviceStatePatch := by
  decide +kernel

theorem marker_viewHintPatch : presenceMarker <:+: Text.unlines viewHintPatch := by
  decide +kernel

/-- What a rendering makes of a stock text, with its edits in any order. -/
structure AllOrNothing (patches : List Text.Edit) (file : Text)
    (rendering : Text → Except Text Text) (stock : Text) : Prop where
  /-- It accepts exactly the texts that have every anchor once, and no marker. -/
  accepted : (∃ rendered, rendering stock = .ok rendered) ↔
    ¬ presenceMarker <:+: stock ∧ ∀ edit ∈ patches, Text.Once edit.anchor stock
  /-- The anchors are replaced where they are, and nothing else is. -/
  replaced : ∀ rendered, rendering stock = .ok rendered →
    ∃ head places, (places.map Prod.fst).Perm patches ∧
      stock = head ++ Text.Edit.anchored places ∧ rendered = head ++ Text.Edit.patched places
  /-- The order of the edits does not matter. -/
  reordered : ∀ order, order.Perm patches →
    (render stock order file).toOption = (rendering stock).toOption
  /-- What it makes carries the marker. -/
  marked : ∀ rendered, rendering stock = .ok rendered → presenceMarker <:+: rendered
  /-- It refuses what it has made. -/
  refused : ∀ rendered, rendering stock = .ok rendered →
    ∃ error, rendering rendered = .error error

theorem infix_patched {places : List Text.Edit.Place} {edit : Text.Edit}
    (member : edit ∈ places.map Prod.fst) : edit.patch <:+: Text.Edit.patched places := by
  obtain ⟨place, inside, rfl⟩ := List.mem_map.mp member
  exact (List.prefix_append _ _).isInfix.trans
    (List.infix_of_mem_flatten (List.mem_map_of_mem inside))

theorem allOrNothing {patches : List Text.Edit} (independent : Text.Edit.Independent patches)
    {marking : Text.Edit} (member : marking ∈ patches)
    (marker : presenceMarker <:+: marking.patch) (file stock : Text) :
    AllOrNothing patches file (fun source => render source patches file) stock := by
  have marked : ∀ rendered, render stock patches file = .ok rendered →
      presenceMarker <:+: rendered := by
    intro rendered written
    obtain ⟨head, places, perm, _, rfl⟩ := Text.Edit.exists_places_of_applyAll independent
      ((render_eq_ok_iff _ _ _ _).mp written).2
    have inside : marking.patch <:+: Text.Edit.patched places :=
      infix_patched (perm.mem_iff.mpr member)
    exact marker.trans (inside.trans (List.suffix_append _ _).isInfix)
  refine ⟨?_, ?_, ?_, marked, ?_⟩
  · have counts : (∀ edit ∈ patches, Text.Once edit.anchor stock) ↔
        ∀ edit ∈ patches, Text.count edit.anchor stock = 1 :=
      forall₂_congr fun edit inside =>
        ((independent.unbordered edit inside).count_eq_one_iff stock).symm
    rw [counts, ← Text.Edit.exists_applyAll_iff independent]
    simp only [render_eq_ok_iff, exists_and_left]
  · intro rendered written
    exact Text.Edit.exists_places_of_applyAll independent
      ((render_eq_ok_iff _ _ _ _).mp written).2
  · intro order perm
    rw [toOption_render, toOption_render, Text.Edit.applyAll_perm perm independent]
  · intro rendered written
    refine ⟨alreadyPatched file, ?_⟩
    rw [render, if_pos (Text.contains_eq_true_iff.mpr (marked rendered written))]

theorem allOrNothing_renderService (stock : Text) :
    AllOrNothing (servicePatches.map Text.LineEdit.edit) serviceFile renderService stock :=
  allOrNothing independent_servicePatches (List.mem_map_of_mem List.mem_cons_self)
    marker_serviceStatePatch serviceFile stock

theorem allOrNothing_renderView (stock : Text) :
    AllOrNothing (viewPatches.map Text.LineEdit.edit) viewFile renderView stock :=
  allOrNothing independent_viewPatches
    (List.mem_map_of_mem (List.mem_cons_of_mem _ List.mem_cons_self)) marker_viewHintPatch
    viewFile stock

theorem presenceMarker_infix_renderService {stock rendered : Text}
    (written : renderService stock = .ok rendered) : presenceMarker <:+: rendered :=
  (allOrNothing_renderService stock).marked _ written

theorem presenceMarker_infix_renderView {stock rendered : Text}
    (written : renderView stock = .ok rendered) : presenceMarker <:+: rendered :=
  (allOrNothing_renderView stock).marked _ written

/-- A stock service or view is patched at every anchor or refused, whatever the order of the
edits, and a patched one is refused. -/
theorem renderings_allOrNothing (stock : Text) :
    AllOrNothing (servicePatches.map Text.LineEdit.edit) serviceFile renderService stock ∧
      AllOrNothing (viewPatches.map Text.LineEdit.edit) viewFile renderView stock :=
  ⟨allOrNothing_renderService stock, allOrNothing_renderView stock⟩

end PresenceUnlock.Cli.LockPatches
