import ContainerManager.Devices.Uevent
import ContainerManager.Parser.CJson

/-!
# Dynamic device parser

The parts of `parser-container.c` that fill the dynamic part of a guest's `deviceconfig`.
Allocations succeed. After an item without a rule the source reads the record it has just freed;
what it does with it leaves no trace, and only the return value is modelled.
-/

namespace ContainerManager

/-- `strncpy` of a text into a zeroed `char string[256]`, leaving room for the NUL. -/
def ShortString.ofString (s : String) : ShortString where
  string := (CString.ofString s).take 255
  fits := by simp [CString.take, CString.length]

/-- The flag an action name sets; another name sets none. -/
def UeventAction.enable (action : UeventAction) (actionstr : CString) : UeventAction :=
  if .ofString "add" = actionstr then { action with add := true }
  else if .ofString "remove" = actionstr then { action with remove := true }
  else if .ofString "change" = actionstr then { action with change := true }
  else if .ofString "move" = actionstr then { action with move := true }
  else if .ofString "online" = actionstr then { action with online := true }
  else if .ofString "offline" = actionstr then { action with offline := true }
  else if .ofString "bind" = actionstr then { action with bind := true }
  else if .ofString "unbind" = actionstr then { action with unbind := true }
  else action

/-- One pass of the loop over `rule.devtype`. -/
def parseDevtypeElem (devtypeList : List ShortString) (devtypestr : CJson) : List ShortString :=
  match CJson.string? (some devtypestr) with
  | some s => devtypeList ++ [ShortString.ofString s]
  | none => devtypeList

/-- One pass of the loop over `rule.action`. -/
def parseActionElem (action : UeventAction) (actionstr : CJson) : UeventAction :=
  match CJson.string? (some actionstr) with
  | some s => action.enable (.ofString s)
  | none => action

/-- One pass of the loop over `rule.extra`. -/
def parseExtraElem (extraList : List DeviceRuleExtra) (extraElem : CJson) :
    List DeviceRuleExtra :=
  match CJson.object? (some extraElem) with
  | none => extraList
  | some extraElem =>
    match extraElem.getString "checker" with
    | none => extraList
    | some checker =>
      match extraElem.getString "value" with
      | none => extraList
      | some value =>
        extraList ++ [⟨some (CString.ofString checker), some (CString.ofString value)⟩]

/-- The rule section of an item. -/
def parseDeviceRule (rule : CJson) : DeviceRule where
  devtypeList := ((rule.getArray "devtype").getD []).foldl parseDevtypeElem []
  action := ((rule.getArray "action").getD []).foldl parseActionElem {}
  extraList := ((rule.getArray "extra").getD []).foldl parseExtraElem []

/-- The behavior section of an item. The test for `allow` looks at the number of `devnode`. -/
def parseDeviceBehavior (behavior : CJson) : DeviceBehavior where
  injection := behavior.getNumber "injection" = some 1
  devnode := behavior.getNumber "devnode" = some 1
  allow := behavior.getNumber "devnode" = some 1
  permission := (behavior.getString "permission").map CString.ofString

/-- `cmparser_parse_dynamic_dev_item`. -/
def cmparserParseDynamicDevItem (dde : DeviceEntry) (item : CJson) : DeviceEntry × ℤ :=
  match item.getString "subsystem" with
  | none => (dde, -2)
  | some subsystem =>
    match item.getObject "rule" with
    | none => (dde, -3)
    | some rule =>
      let p : DeviceItem := {
        subsystem := some (.ofString subsystem)
        rule := parseDeviceRule rule
        behavior := ((item.getObject "behavior").map parseDeviceBehavior).getD {} }
      ({ dde with items := dde.items ++ [p] }, 0)

/-- One pass of the loop over the items of an entry. -/
def parseDynamicDevItems (dde : DeviceEntry) (item : CJson) : DeviceEntry :=
  match CJson.object? (some item) with
  | some item => (cmparserParseDynamicDevItem dde item).1
  | none => dde

/-- One pass of the loop of `cmparser_parse_dynamic_dev`. -/
def parseDynamicDevElem (dynamicDevlist : List DeviceEntry) (elem : CJson) : List DeviceEntry :=
  match CJson.object? (some elem) with
  | none => dynamicDevlist
  | some elem =>
    match elem.getString "devpath" with
    | none => dynamicDevlist
    | some devpath =>
      let p : DeviceEntry := { devpath := some (.ofString devpath) }
      dynamicDevlist ++ [((elem.getArray "items").getD []).foldl parseDynamicDevItems p]

/-- `cmparser_parse_dynamic_dev`. -/
def cmparserParseDynamicDev (dynamicDevlist : List DeviceEntry) (dd : Option CJson) :
    List DeviceEntry × ℤ :=
  (((CJson.array? dd).getD []).foldl parseDynamicDevElem dynamicDevlist, 0)

end ContainerManager
