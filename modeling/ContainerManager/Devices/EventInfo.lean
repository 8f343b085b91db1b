import ContainerManager.Devices.Matching

/-!
# What a uevent says

The structure a uevent fills holds, for each property it reads, the last value of that name.
`Uevent` is a uevent with the properties all events of the kernel have; its device type may be
missing. `Matches` says when an item of a rule is meant for it.
-/

namespace ContainerManager

/-- The last value of a property. -/
def UdevProperties.value (le : UdevProperties) (name : CString) : Option CString :=
  le.foldl (fun value elem => if elem.1 = name then some elem.2 else value) none

/-- A field that every pass of a loop sets from the property of one name ends with its last
value. -/
lemma foldl_field {σ : Type} (field : σ → Option CString) (step : σ → CString × CString → σ)
    (name : CString)
    (h : ∀ s elem, field (step s elem) = if elem.1 = name then some elem.2 else field s) (s : σ)
    (le : UdevProperties) : field (le.foldl step s) =
      le.foldl (fun value elem => if elem.1 = name then some elem.2 else value) (field s) := by
  induction le generalizing s with
  | nil => rfl
  | cons elem le ih => rw [List.foldl_cons, List.foldl_cons, ih, h]

section Fields

variable (info : UeventDeviceInfo × DynamicDeviceRequest) (elem : CString × CString)

lemma createInfoElem_action : (createInfoElem info elem).1.action =
    if elem.1 = .ofString "ACTION" then some elem.2 else info.1.action := by
  simp only [createInfoElem]
  split_ifs <;> rfl

lemma createInfoElem_devpath : (createInfoElem info elem).1.devpath =
    if elem.1 = .ofString "DEVPATH" then some elem.2 else info.1.devpath := by
  simp only [createInfoElem]
  by_cases h : elem.1 = .ofString "DEVPATH"
  · have hne : (CString.ofString "DEVPATH") ≠ .ofString "ACTION" := by decide
    simp [h, hne]
  · split_ifs <;> rfl

lemma createInfoElem_subsystem : (createInfoElem info elem).1.subsystem =
    if elem.1 = .ofString "SUBSYSTEM" then some elem.2 else info.1.subsystem := by
  simp only [createInfoElem]
  by_cases h : elem.1 = .ofString "SUBSYSTEM"
  · have hne : (CString.ofString "SUBSYSTEM") ≠ .ofString "ACTION" := by decide
    have hne' : (CString.ofString "SUBSYSTEM") ≠ .ofString "DEVPATH" := by decide
    simp only [h, hne, hne', if_false, if_true]
    split_ifs <;> rfl
  · split_ifs <;> rfl

lemma createInfoElem_devtype : (createInfoElem info elem).1.devtype =
    if elem.1 = .ofString "DEVTYPE" then some elem.2 else info.1.devtype := by
  simp only [createInfoElem]
  by_cases h : elem.1 = .ofString "DEVTYPE"
  · have hne : (CString.ofString "DEVTYPE") ≠ .ofString "ACTION" := by decide
    have hne' : (CString.ofString "DEVTYPE") ≠ .ofString "DEVPATH" := by decide
    have hne'' : (CString.ofString "DEVTYPE") ≠ .ofString "SUBSYSTEM" := by decide
    simp [h, hne, hne', hne'']
  · split_ifs <;> rfl

lemma createInfoElem_checkerFunc : (createInfoElem info elem).1.checkerFunc =
    if elem = (.ofString "SUBSYSTEM", .ofString "block") then some .extraCheckerBlockDevice
    else info.1.checkerFunc := by
  obtain ⟨name, value⟩ := elem
  simp only [createInfoElem, Prod.mk.injEq]
  by_cases h : name = .ofString "SUBSYSTEM"
  · have hne : (CString.ofString "SUBSYSTEM") ≠ .ofString "ACTION" := by decide
    have hne' : (CString.ofString "SUBSYSTEM") ≠ .ofString "DEVPATH" := by decide
    simp only [h, hne, hne', if_false, if_true, true_and]
    split_ifs <;> rfl
  · simp only [h, if_false, false_and]
    split_ifs <;> rfl

end Fields

section Info

variable (le : UdevProperties)

lemma createInfo_action : (deviceControlDynamicUdevCreateInfo le).1.action =
    le.value (.ofString "ACTION") :=
  foldl_field (fun info => info.1.action) createInfoElem _ createInfoElem_action _ le

lemma createInfo_devpath : (deviceControlDynamicUdevCreateInfo le).1.devpath =
    le.value (.ofString "DEVPATH") :=
  foldl_field (fun info => info.1.devpath) createInfoElem _ createInfoElem_devpath _ le

lemma createInfo_subsystem : (deviceControlDynamicUdevCreateInfo le).1.subsystem =
    le.value (.ofString "SUBSYSTEM") :=
  foldl_field (fun info => info.1.subsystem) createInfoElem _ createInfoElem_subsystem _ le

lemma createInfo_devtype : (deviceControlDynamicUdevCreateInfo le).1.devtype =
    le.value (.ofString "DEVTYPE") :=
  foldl_field (fun info => info.1.devtype) createInfoElem _ createInfoElem_devtype _ le

lemma foldl_checkerFunc (info : UeventDeviceInfo × DynamicDeviceRequest) :
    (le.foldl createInfoElem info).1.checkerFunc =
      if (.ofString "SUBSYSTEM", .ofString "block") ∈ le then some .extraCheckerBlockDevice
      else info.1.checkerFunc := by
  induction le generalizing info with
  | nil => simp
  | cons elem le ih =>
    rw [List.foldl_cons, ih, createInfoElem_checkerFunc]
    by_cases h : elem = (.ofString "SUBSYSTEM", .ofString "block")
    · simp [h]
    · simp [h, Ne.symm h]

/-- The extra check is that of block devices. -/
lemma createInfo_checkerFunc : (deviceControlDynamicUdevCreateInfo le).1.checkerFunc =
    if (.ofString "SUBSYSTEM", .ofString "block") ∈ le then some .extraCheckerBlockDevice
    else none :=
  foldl_checkerFunc le _

end Info

/-! ### Uevents -/

/-- A device whose uevent has an action, a device path and a subsystem. -/
structure Uevent where
  pdev : UdevDevice
  action : CString
  devpath : CString
  subsystem : CString
  hasAction : pdev.properties.value (.ofString "ACTION") = some action
  hasDevpath : pdev.properties.value (.ofString "DEVPATH") = some devpath
  hasSubsystem : pdev.properties.value (.ofString "SUBSYSTEM") = some subsystem

namespace Uevent

variable (e : Uevent)

/-- The device type, which hid, tty, input and net events do not have. -/
def devtype : Option CString := e.pdev.properties.value (.ofString "DEVTYPE")

/-- The information the code takes from the event. -/
def info : UeventDeviceInfo := (deviceControlDynamicUdevCreateInfo e.pdev.properties).1

/-- The code of the action. -/
def actionCode : UeventActionCode := deviceControlDynamicUdevGetUeventActionCode (some e.action)

/-- The event of a block device. -/
def Block : Prop := (.ofString "SUBSYSTEM", .ofString "block") ∈ e.pdev.properties

instance : Decidable e.Block := inferInstanceAs (Decidable (_ ∈ _))

@[simp] lemma info_action : e.info.action = some e.action :=
  (createInfo_action _).trans e.hasAction

@[simp] lemma info_devpath : e.info.devpath = some e.devpath :=
  (createInfo_devpath _).trans e.hasDevpath

@[simp] lemma info_subsystem : e.info.subsystem = some e.subsystem :=
  (createInfo_subsystem _).trans e.hasSubsystem

@[simp] lemma info_devtype : e.info.devtype = e.devtype := createInfo_devtype _

lemma info_checkerFunc :
    e.info.checkerFunc = if e.Block then some .extraCheckerBlockDevice else none :=
  createInfo_checkerFunc _

end Uevent

/-! ### Rules that match -/

namespace DeviceItem

variable (ddei : DeviceItem) (e : Uevent)

/-- The item matches the event in everything but the device type: the subsystem is the same, the
rule enables the action, and for a block device the extra rules, if there are any, accept it. -/
structure MatchesButDevtype : Prop where
  subsystem : ddei.subsystem = some e.subsystem
  action : ddei.rule.action.Enables e.action
  extra : e.Block → ddei.rule.extraList ≠ [] →
    extraCheckerBlockDevice ddei.rule.extraList e.pdev e.actionCode = 1

/-- The item matches the event: no device type is listed, or that of the event is. -/
def Matches : Prop :=
  ddei.MatchesButDevtype e ∧
    (ddei.rule.devtypeList = [] ∨ ∃ ssli ∈ ddei.rule.devtypeList, some ssli.string = e.devtype)

variable {ddei e}

lemma matchesButDevtype_iff :
    ddei.MatchesButDevtype e ↔ ddei.Applies e.info ∧ ddei.ExtraAccepts e.info e.pdev := by
  have haction : ddei.rule.action.flag e.actionCode = true ↔ ddei.rule.action.Enables e.action := by
    rw [Uevent.actionCode, UeventAction.flag_actionCode_iff]
    simp
  simp only [Applies, ExtraAccepts, e.info_subsystem, e.info_action, e.info_checkerFunc]
  constructor
  · rintro ⟨hsub, hact, hextra⟩
    refine ⟨⟨by simp [hsub], hsub, haction.mpr hact⟩, ?_⟩
    intro f hf
    by_cases hb : e.Block
    · cases f
      exact hextra hb
    · simp [hb] at hf
  · rintro ⟨⟨-, hsub, hact⟩, hextra⟩
    exact ⟨hsub, haction.mp hact, fun hb => hextra .extraCheckerBlockDevice (by simp [hb])⟩

instance : Decidable (ddei.MatchesButDevtype e) := decidable_of_iff' _ matchesButDevtype_iff

instance : Decidable (ddei.Matches e) := inferInstanceAs (Decidable (_ ∧ _))

end DeviceItem

/-- The first guest, in array order, that is started and has an entry for the device path with an
item that matches; the item is the first of that guest, in entry and item order. -/
def specifiedTarget {n : ℕ} (guests : Fin n → DeviceGuest) (e : Uevent) :
    Option (Fin n × ItemRef) :=
  (List.finRange n).findSome? fun i =>
    if (guests i).runtimeStat.status = .started then
      ((scannedItems e.devpath 0 (guests i).dynamicDevlist).find? fun ref =>
        ref.ddei.Matches e).map fun ref => (i, ref)
    else none

lemma specifiedTarget_eq {n : ℕ} (guests : Fin n → DeviceGuest) (e : Uevent) :
    specifiedTarget guests e =
      (scannedDevices guests e.devpath).find? fun d => d.2.ddei.Matches e := by
  rw [specifiedTarget, scannedDevices, List.find?_flatMap]
  congr 1
  funext i
  by_cases h : (guests i).runtimeStat.status = .started
  · simp only [h, if_true, List.find?_map]
    rfl
  · simp only [h, if_false, List.find?_nil]

/-- The target the code finds for the event is the one the rules specify. -/
def TargetAgrees {n : ℕ} (guests : Fin n → DeviceGuest) (e : Uevent) : Prop :=
  deviceControlDynamicUdevGetTargetContainer guests e.info e.pdev =
    .ok ((specifiedTarget guests e).map fun d => (d.1, some d.2))

/-- The search of the code must end as the search for an item that matches. -/
lemma targetAgrees_iff_findM? {n : ℕ} (guests : Fin n → DeviceGuest) (e : Uevent) :
    TargetAgrees guests e ↔
      (scannedDevices guests e.devpath).findM? (fun d : Fin n × ItemRef =>
        d.2.ddei.verdict e.info e.pdev) =
      .ok ((scannedDevices guests e.devpath).find? fun d => d.2.ddei.Matches e) := by
  have hinj : Function.Injective fun d : Fin n × ItemRef => (d.1, some d.2) := by
    rintro ⟨i, ref⟩ ⟨j, ref'⟩ heq
    simpa using heq
  rw [TargetAgrees, getTargetContainer_eq e.pdev guests (by simp) e.info_devpath,
    specifiedTarget_eq]
  cases (scannedDevices guests e.devpath).findM? fun d : Fin n × ItemRef =>
      d.2.ddei.verdict e.info e.pdev with
  | error err => simp [Except.map]
  | ok found =>
    simp only [Except.map, Except.ok.injEq]
    exact (Option.map_injective hinj).eq_iff

end ContainerManager
