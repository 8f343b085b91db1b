import ContainerManager.Data
import ContainerManager.Lib.CString

/-!
# Uevents and dynamic device rules

The dynamic part of a guest's `deviceconfig`, and the functions of `device-control-dynamic-udev.c`
that find the guest a uevent is for. The file system of a block device is an answer of the
environment. The properties of a uevent are read through pointers that are null for a missing
property: a function that takes a comparison or a length of such a string gives no result but
`NullRead`.
-/

namespace ContainerManager

/-! ### Device rules -/

/-- `short_string_list_item_t`: a string that fits `char string[256]`. -/
structure ShortString where
  string : CString
  fits : string.length ≤ 255
deriving DecidableEq

/-- `uevent_action_t`. -/
structure UeventAction where
  add : Bool := false
  remove : Bool := false
  change : Bool := false
  move : Bool := false
  online : Bool := false
  offline : Bool := false
  bind : Bool := false
  unbind : Bool := false
deriving DecidableEq

/-- `dynamic_device_entry_items_rule_extra_t`. -/
structure DeviceRuleExtra where
  checker : Option CString
  value : Option CString
deriving DecidableEq

/-- `dynamic_device_entry_items_rule_t`. -/
structure DeviceRule where
  action : UeventAction := {}
  devtypeList : List ShortString := []
  extraList : List DeviceRuleExtra := []
deriving DecidableEq

/-- `dynamic_device_entry_items_behavior_t`. -/
structure DeviceBehavior where
  injection : Bool := false
  devnode : Bool := false
  allow : Bool := false
  permission : Option CString := none
deriving DecidableEq

/-- `dynamic_device_entry_items_t`. -/
structure DeviceItem where
  subsystem : Option CString
  rule : DeviceRule := {}
  behavior : DeviceBehavior := {}
deriving DecidableEq

/-- `container_dynamic_device_entry_t`. -/
structure DeviceEntry where
  devpath : Option CString
  items : List DeviceItem := []
deriving DecidableEq

/-- A guest with its `deviceconfig.dynamic_device`. -/
structure DeviceGuest extends ContainerConfig where
  dynamicDevlist : List DeviceEntry := []

/-! ### The event -/

/-- The properties list of a uevent, as names and values. -/
abbrev UdevProperties := List (CString × CString)

/-- `DCD_UEVENT_ACTION_*`. -/
inductive UeventActionCode where
  | non
  | add
  | remove
  | change
  | move
  | online
  | offline
  | bind
  | unbind
deriving DecidableEq, Repr

/-- `DEVNODE_TYPE_*`. -/
inductive DevnodeType where
  | chr
  | blk
  | net
deriving DecidableEq, Repr

/-- The functions an `extra_checker_func_t` can point to. -/
inductive ExtraCheckerFunc where
  | extraCheckerBlockDevice
deriving DecidableEq, Repr

/-- `uevent_device_info_t`. -/
structure UeventDeviceInfo where
  devpath : Option CString := none
  subsystem : Option CString := none
  action : Option CString := none
  devtype : Option CString := none
  checkerFunc : Option ExtraCheckerFunc := none
deriving DecidableEq

/-- `lxcutil_dynamic_device_request_t`. -/
structure DynamicDeviceRequest where
  operation : UeventActionCode := .non
  devtype : Option DevnodeType := none
  devMajor : ℤ := -1
  devMinor : ℤ := -1
  isCreateNode : Bool := false
  isAllowDevice : Bool := false
  devnode : Option CString := none
  permission : Option CString := none
deriving DecidableEq

/-- `device_control_dynamic_udev_get_uevent_action_code`. -/
def deviceControlDynamicUdevGetUeventActionCode (actionstr : Option CString) : UeventActionCode :=
  match actionstr with
  | none => .non
  | some actionstr =>
    if .ofString "add" = actionstr then .add
    else if .ofString "remove" = actionstr then .remove
    else if .ofString "change" = actionstr then .change
    else if .ofString "move" = actionstr then .move
    else if .ofString "online" = actionstr then .online
    else if .ofString "offline" = actionstr then .offline
    else if .ofString "bind" = actionstr then .bind
    else if .ofString "unbind" = actionstr then .unbind
    else .non

/-- The flag of an action code. -/
def UeventAction.flag (action : UeventAction) : UeventActionCode → Bool
  | .non => false
  | .add => action.add
  | .remove => action.remove
  | .change => action.change
  | .move => action.move
  | .online => action.online
  | .offline => action.offline
  | .bind => action.bind
  | .unbind => action.unbind

/-- The names of the actions. -/
def actionNames : List (String × UeventActionCode) :=
  [("add", .add), ("remove", .remove), ("change", .change), ("move", .move), ("online", .online),
    ("offline", .offline), ("bind", .bind), ("unbind", .unbind)]

lemma actionCode_name {a : String × UeventActionCode} (ha : a ∈ actionNames) :
    deviceControlDynamicUdevGetUeventActionCode (some (CString.ofString a.1)) = a.2 :=
  (by decide : ∀ a ∈ actionNames, deviceControlDynamicUdevGetUeventActionCode
    (some (CString.ofString a.1)) = a.2) a ha

/-- Only a name has a code. -/
lemma actionCode_cases (s : CString) :
    deviceControlDynamicUdevGetUeventActionCode (some s) = .non ∨
      ∃ a ∈ actionNames, CString.ofString a.1 = s := by
  by_cases hnamed : ∃ a ∈ actionNames, CString.ofString a.1 = s
  · exact .inr hnamed
  · left
    simp only [actionNames, List.exists_mem_cons_iff, not_or] at hnamed
    simp only [deviceControlDynamicUdevGetUeventActionCode, hnamed, if_false]

/-- An action name has its own code. -/
lemma actionCode_eq_iff (s : CString) {a : String × UeventActionCode} (ha : a ∈ actionNames) :
    deviceControlDynamicUdevGetUeventActionCode (some s) = a.2 ↔ CString.ofString a.1 = s := by
  constructor
  · intro h
    rcases actionCode_cases s with hnon | ⟨b, hb, rfl⟩
    · exact absurd (hnon.symm.trans h).symm ((by decide : ∀ a ∈ actionNames, a.2 ≠ .non) a ha)
    · rw [actionCode_name hb] at h
      have hinj : ∀ b ∈ actionNames, ∀ a ∈ actionNames, b.2 = a.2 → a = b := by decide
      rw [hinj b hb a ha h]
  · rintro rfl
    exact actionCode_name ha

@[simp] lemma UeventAction.flag_non (action : UeventAction) : action.flag .non = false := rfl

/-- The rule enables the action of this name. -/
def UeventAction.Enables (action : UeventAction) (actionstr : CString) : Prop :=
  ∃ a ∈ actionNames, CString.ofString a.1 = actionstr ∧ action.flag a.2 = true

instance (action : UeventAction) (actionstr : CString) : Decidable (action.Enables actionstr) :=
  inferInstanceAs (Decidable (∃ a ∈ actionNames, _))

/-- The flag of the code of an action is set exactly when the rule enables the action. -/
lemma UeventAction.flag_actionCode_iff (action : UeventAction) (actionstr : Option CString) :
    action.flag (deviceControlDynamicUdevGetUeventActionCode actionstr) = true ↔
      ∃ s ∈ actionstr, action.Enables s := by
  cases actionstr with
  | none => simp [deviceControlDynamicUdevGetUeventActionCode]
  | some s =>
    simp only [Option.mem_some_iff, exists_eq_left']
    constructor
    · intro h
      rcases actionCode_cases s with hnon | ⟨a, ha, rfl⟩
      · simp [hnon] at h
      · exact ⟨a, ha, rfl, by rwa [actionCode_name ha] at h⟩
    · rintro ⟨a, ha, rfl, h⟩
      rwa [actionCode_name ha]

/-- `device_control_dynamic_udev_test_action`. -/
def deviceControlDynamicUdevTestAction (actionstr : Option CString) (action : UeventAction) :
    UeventActionCode :=
  let actionCode := deviceControlDynamicUdevGetUeventActionCode actionstr
  if action.flag actionCode then actionCode else .non

/-- A `long` stored to an `int`. -/
def toInt (k : ℤ) : ℤ := (k + 2 ^ 31) % 2 ^ 32 - 2 ^ 31

/-- The number of a device: -1 when the text has none. -/
def deviceNumber (value : CString) : ℤ := (value.strtol.map toInt).getD (-1)

/-- One pass of the loop of `device_control_dynamic_udev_create_info`. -/
def createInfoElem (info : UeventDeviceInfo × DynamicDeviceRequest) (elem : CString × CString) :
    UeventDeviceInfo × DynamicDeviceRequest :=
  let udi := info.1
  let lddr := info.2
  let value := elem.2
  if elem.1 = .ofString "ACTION" then
    ({ udi with action := some value },
      { lddr with operation := deviceControlDynamicUdevGetUeventActionCode (some value) })
  else if elem.1 = .ofString "DEVPATH" then ({ udi with devpath := some value }, lddr)
  else if elem.1 = .ofString "SUBSYSTEM" then
    if value = .ofString "block" then
      ({ udi with subsystem := some value, checkerFunc := some .extraCheckerBlockDevice },
        { lddr with devtype := some .blk })
    else if value = .ofString "net" then
      ({ udi with subsystem := some value }, { lddr with devtype := some .net })
    else ({ udi with subsystem := some value }, { lddr with devtype := some .chr })
  else if elem.1 = .ofString "DEVTYPE" then ({ udi with devtype := some value }, lddr)
  else if elem.1 = .ofString "DEVNAME" then (udi, { lddr with devnode := some value })
  else if elem.1 = .ofString "MAJOR" then (udi, { lddr with devMajor := deviceNumber value })
  else if elem.1 = .ofString "MINOR" then (udi, { lddr with devMinor := deviceNumber value })
  else (udi, lddr)

/-- `device_control_dynamic_udev_create_info`, on the zeroed structures it is given. -/
def deviceControlDynamicUdevCreateInfo (le : UdevProperties) :
    UeventDeviceInfo × DynamicDeviceRequest :=
  le.foldl createInfoElem ({}, {})

/-! ### The extra check -/

/-- `struct udev_device`: the properties, and what `block_util_getfs` finds on a device node. -/
structure UdevDevice where
  properties : UdevProperties
  blockUtilGetfs : CString → Option CString

/-- `force_exclude_fs`. -/
def forceExcludeFs : List CString := [.ofString "ext4"]

/-- The scan for the device node of `extra_checker_block_device`. -/
def extraCheckerDevnode (le : UdevProperties) : Option CString :=
  le.foldl (fun devnode elem =>
    if elem.1 = .ofString "DEVNAME" then some elem.2 else devnode) none

/-- The loop over the extra rules: the first rule of a known checker decides. -/
def extraCheckerRules (fs : CString) : List DeviceRuleExtra → Bool
  | [] => false
  | pre :: rest =>
    match pre.checker, pre.value with
    | some checker, some value =>
      if checker = .ofString "exclude-fs" then fs ≠ value
      else if checker = .ofString "include-fs" then fs = value
      else extraCheckerRules fs rest
    | _, _ => extraCheckerRules fs rest

/-- `extra_checker_block_device`. -/
def extraCheckerBlockDevice (extraList : List DeviceRuleExtra) (pdev : UdevDevice)
    (action : UeventActionCode) : ℤ :=
  if action ≠ .add then 1
  else
    match (extraCheckerDevnode pdev.properties).bind pdev.blockUtilGetfs with
    | none => 0
    | some fs =>
      if fs ∈ forceExcludeFs then 0
      else if extraCheckerRules fs extraList then 1 else 0

/-- A call through the function pointer. -/
def ExtraCheckerFunc.call (f : ExtraCheckerFunc) (extraList : List DeviceRuleExtra)
    (pdev : UdevDevice) (action : UeventActionCode) : ℤ :=
  match f with
  | .extraCheckerBlockDevice => ContainerManager.extraCheckerBlockDevice extraList pdev action

/-! ### The judgment -/

/-- A missing string was read. -/
inductive NullRead where
  | nullRead
deriving DecidableEq, Repr

/-- Reading a string that may be missing. -/
def readString (s : Option CString) : Except NullRead CString :=
  match s with
  | none => .error .nullRead
  | some s => .ok s

/-- A pointer to an item of a guest, with what it points to. -/
structure ItemRef where
  entry : ℕ
  item : ℕ
  ddei : DeviceItem
deriving DecidableEq

/-- The variables of `device_control_dynamic_udev_rule_judgment`. -/
structure JudgmentVars where
  actionCode : UeventActionCode := .non
  result : Bool := false
deriving DecidableEq

/-- The loop over the device types of an item. -/
def judgeDevtypes (devtype : Option CString) (result : Bool) :
    List ShortString → Except NullRead Bool
  | [] => .ok result
  | ssli :: rest => do
    let udiDevtype ← readString devtype
    if ssli.string.StrncmpEq udiDevtype udiDevtype.length then judgeDevtypes devtype true rest
    else judgeDevtypes devtype result rest

/-- The extra rules of an item that matched so far. -/
def judgeExtra (udi : UeventDeviceInfo) (pdev : UdevDevice) (ddei : DeviceItem)
    (vars : JudgmentVars) : JudgmentVars :=
  match udi.checkerFunc with
  | none => vars
  | some checkerFunc =>
    if vars.result = true ∧ ddei.rule.extraList ≠ []
        ∧ checkerFunc.call ddei.rule.extraList pdev vars.actionCode ≠ 1 then
      { vars with result := false }
    else vars

/-- One pass of the loop over the items: the variables after it, and whether the function returns
with this item. After a `continue` it does not. -/
def judgeItem (udi : UeventDeviceInfo) (pdev : UdevDevice) (ddei : DeviceItem)
    (vars : JudgmentVars) : Except NullRead (JudgmentVars × Bool) :=
  match ddei.subsystem with
  | none => .ok (vars, false)
  | some subsystem => do
    let udiSubsystem ← readString udi.subsystem
    if subsystem = udiSubsystem then
      let actionCode := deviceControlDynamicUdevTestAction udi.action ddei.rule.action
      if actionCode = .non then .ok ({ vars with actionCode := actionCode }, false)
      else do
        let result ←
          if ddei.rule.devtypeList ≠ [] then
            judgeDevtypes udi.devtype vars.result ddei.rule.devtypeList
          else .ok true
        let vars := judgeExtra udi pdev ddei ⟨actionCode, result⟩
        .ok (vars, vars.result)
    else
      let vars := judgeExtra udi pdev ddei vars
      .ok (vars, vars.result)

/-- The loop over the items of the entry `k`, from its item `l` on. -/
def judgeItems (udi : UeventDeviceInfo) (pdev : UdevDevice) (k : ℕ) :
    ℕ → List DeviceItem → JudgmentVars → Except NullRead (JudgmentVars × Option ItemRef)
  | _, [], vars => .ok (vars, none)
  | l, ddei :: rest, vars => do
    let r ← judgeItem udi pdev ddei vars
    if r.2 then .ok (r.1, some ⟨k, l, ddei⟩)
    else judgeItems udi pdev k (l + 1) rest r.1

/-- The loop over the entries, from the entry `k` on. -/
def judgeEntries (udi : UeventDeviceInfo) (pdev : UdevDevice) :
    ℕ → List DeviceEntry → JudgmentVars → Except NullRead (JudgmentVars × Option ItemRef)
  | _, [], vars => .ok (vars, none)
  | k, cdde :: rest, vars =>
    match cdde.devpath with
    | none => judgeEntries udi pdev (k + 1) rest vars
    | some devpath => do
      let udiDevpath ← readString udi.devpath
      let vars := { vars with result := false }
      if devpath.StrncmpEq udiDevpath devpath.length then
        let r ← judgeItems udi pdev k 0 cdde.items vars
        match r.2 with
        | some ref => .ok (r.1, some ref)
        | none => judgeEntries udi pdev (k + 1) rest r.1
      else judgeEntries udi pdev (k + 1) rest vars

/-- `device_control_dynamic_udev_rule_judgment`: the result, and the item whose behavior is given
out. -/
def deviceControlDynamicUdevRuleJudgment (cc : DeviceGuest) (udi : UeventDeviceInfo)
    (pdev : UdevDevice) : Except NullRead (Bool × Option ItemRef) :=
  if cc.runtimeStat.status ≠ .started then .ok (false, none)
  else do
    let r ← judgeEntries udi pdev 0 cc.dynamicDevlist {}
    .ok (r.1.result, r.2)

/-- The loop over the guests. -/
def judgeGuests {n : ℕ} (guests : Fin n → DeviceGuest) (udi : UeventDeviceInfo)
    (pdev : UdevDevice) : List (Fin n) → Except NullRead (Option (Fin n × Option ItemRef))
  | [] => .ok none
  | i :: rest => do
    let r ← deviceControlDynamicUdevRuleJudgment (guests i) udi pdev
    if r.1 then .ok (some (i, r.2)) else judgeGuests guests udi pdev rest

/-- `device_control_dynamic_udev_get_target_container`: the guest, and the item whose behavior is
given out. -/
def deviceControlDynamicUdevGetTargetContainer {n : ℕ} (guests : Fin n → DeviceGuest)
    (udi : UeventDeviceInfo) (pdev : UdevDevice) :
    Except NullRead (Option (Fin n × Option ItemRef)) :=
  judgeGuests guests udi pdev (List.finRange n)

end ContainerManager
