import ContainerManager.Devices.EventInfo

/-!
# Events without a device type

The judgment compares the device type of the event with the listed ones without looking whether
there is one. So a missing type is read as soon as the scan comes to an item that lists types and
applies to the event, before it comes to one that matches.
-/

namespace ContainerManager

variable {n : ℕ}

/-- No missing string is read, and when the device type is missing the target is the one the rules
specify: an item that lists types does not match, one that lists none matches by its other
conditions. -/
def SafelyJudged (guests : Fin n → DeviceGuest) (e : Uevent) : Prop :=
  (∃ target, deviceControlDynamicUdevGetTargetContainer guests e.info e.pdev = .ok target) ∧
    (e.devtype = none → TargetAgrees guests e)

/-- The item lists device types, and its subsystem and action are those of the event. -/
def DeviceItem.ReadsDevtype (ddei : DeviceItem) (e : Uevent) : Prop :=
  ddei.Applies e.info ∧ ddei.rule.devtypeList ≠ []

instance (ddei : DeviceItem) (e : Uevent) : Decidable (ddei.ReadsDevtype e) :=
  inferInstanceAs (Decidable (_ ∧ _))

lemma DeviceItem.ReadsDevtype.verdict {ddei : DeviceItem} {e : Uevent} (hd : e.devtype = none)
    (h : ddei.ReadsDevtype e) :
    ddei.verdict e.info e.pdev = .error .nullRead ∧ ¬ ddei.Matches e := by
  obtain ⟨happ, hlist⟩ := h
  refine ⟨by simp [DeviceItem.verdict, happ, hd, hlist], ?_⟩
  rintro ⟨-, hl | ⟨ssli, -, heq⟩⟩
  · exact hlist hl
  · simp [hd] at heq

lemma DeviceItem.verdict_of_not_readsDevtype {ddei : DeviceItem} {e : Uevent}
    (hd : e.devtype = none) (h : ¬ ddei.ReadsDevtype e) :
    ddei.verdict e.info e.pdev = .ok (decide (ddei.Matches e)) := by
  by_cases happ : ddei.Applies e.info
  · have hl : ddei.rule.devtypeList = [] := by
      by_contra hne
      exact h ⟨happ, hne⟩
    simp [DeviceItem.verdict, DeviceItem.Matches, DeviceItem.matchesButDevtype_iff, happ, hd, hl]
  · simp [DeviceItem.verdict, DeviceItem.Matches, DeviceItem.matchesButDevtype_iff, happ]

/-- With a device type no missing string is read. -/
lemma verdict_ok_of_devtype (ddei : DeviceItem) {e : Uevent} {devtype : CString}
    (h : e.devtype = some devtype) :
    ddei.verdict e.info e.pdev = .ok (decide (ddei.Applies e.info ∧
      ddei.HasDevtypePrefix devtype ∧ ddei.ExtraAccepts e.info e.pdev)) := by
  by_cases happ : ddei.Applies e.info <;> simp [DeviceItem.verdict, happ, h]

/-- An event is judged safely exactly when it has a device type, or no item that would read it is
scanned before the first item that matches. -/
theorem safelyJudged_iff (guests : Fin n → DeviceGuest) (e : Uevent) :
    SafelyJudged guests e ↔ e.devtype.isSome ∨
      Search.Clear (fun d => d.2.ddei.ReadsDevtype e) (fun d => d.2.ddei.Matches e)
        (scannedDevices guests e.devpath) := by
  cases hd : e.devtype with
  | some devtype =>
    have hok := Search.findM?_ok (l := scannedDevices guests e.devpath) fun d _ =>
      verdict_ok_of_devtype d.2.ddei hd
    have hsafe : SafelyJudged guests e := by
      refine ⟨?_, by simp [hd]⟩
      rw [getTargetContainer_eq e.pdev guests (by simp) e.info_devpath, hok]
      exact ⟨_, rfl⟩
    simp [hsafe]
  | none =>
    have hiff := Search.findM?_ok_iff (l := scannedDevices guests e.devpath)
      (p := fun d : Fin n × ItemRef => d.2.ddei.Matches e)
      (fun d h => ⟨(h.verdict hd).1, by simpa using (h.verdict hd).2⟩)
      (fun d h => DeviceItem.verdict_of_not_readsDevtype hd h)
    simp only [decide_eq_true_eq, ← targetAgrees_iff_findM?] at hiff
    rw [← hiff]
    constructor
    · intro h
      exact Or.inr (h.2 hd)
    · rintro (h | h)
      · simp at h
      · exact ⟨⟨_, h⟩, fun _ => h⟩

/-! ### An input event -/

/-- A started guest with one rule, for the USB devices of the subsystem `input`. -/
def inputGuest : DeviceGuest where
  name := "guest0"
  role := "ivi"
  runtimeStat := { status := .started }
  dynamicDevlist := [{
    devpath := some (.ofString "/devices")
    items := [{
      subsystem := some (.ofString "input")
      rule := {
        action := { add := true }
        devtypeList := [⟨.ofString "usb_device", by decide⟩] } }] }]

/-- The event of a new input device, which has no device type. -/
def inputEvent : Uevent where
  pdev := {
    properties := [(.ofString "ACTION", .ofString "add"),
      (.ofString "DEVPATH", .ofString "/devices/usb1/input/input7"),
      (.ofString "SUBSYSTEM", .ofString "input")]
    blockUtilGetfs := fun _ => none }
  action := .ofString "add"
  devpath := .ofString "/devices/usb1/input/input7"
  subsystem := .ofString "input"
  hasAction := by decide
  hasDevpath := by decide
  hasSubsystem := by decide

theorem inputEvent_reads_null :
    deviceControlDynamicUdevGetTargetContainer (fun _ : Fin 1 => inputGuest) inputEvent.info
      inputEvent.pdev = .error .nullRead ∧
    ¬ SafelyJudged (fun _ : Fin 1 => inputGuest) inputEvent := by
  have h : deviceControlDynamicUdevGetTargetContainer (fun _ : Fin 1 => inputGuest)
      inputEvent.info inputEvent.pdev = .error .nullRead := by decide
  refine ⟨h, ?_⟩
  rintro ⟨⟨target, ht⟩, -⟩
  rw [h] at ht
  cases ht

end ContainerManager
