import ContainerManager.Parser.DynamicDevice

/-!
# What a parsed device item says

An item says what its JSON object says, but for the flag `allow`, which is set from the number of
`devnode`, and for numbers between 1 and 2, which cJSON reads as 1.
-/

namespace ContainerManager

/-! ### What the JSON says -/

/-- The strings of the array of this name, as C reads them. -/
def CJson.strings (json : CJson) (name : String) : List CString :=
  ((json.getArray name).getD []).filterMap fun x => (CJson.string? (some x)).map CString.ofString

/-- The rule an element of `extra` gives: it is an object with a string `checker` and a string
`value`. -/
def CJson.extraRule? (json : CJson) : Option DeviceRuleExtra :=
  (CJson.object? (some json)).bind fun json =>
    (json.getString "checker").bind fun checker =>
      (json.getString "value").map fun value =>
        ⟨some (CString.ofString checker), some (CString.ofString value)⟩

/-- The number of a behavior key of an item. -/
def CJson.behaviorValue (item : CJson) (key : String) : Option ℚ :=
  (item.getObject "behavior").bind fun behavior => behavior.getValue key

/-- The behavior key of an item is the number 1. -/
def CJson.BehaviorIsOne (item : CJson) (key : String) : Prop := item.behaviorValue key = some 1

/-- The behavior key of an item is not a number between 1 and 2. -/
def CJson.BehaviorWhole (item : CJson) (key : String) : Prop :=
  ∀ q ∈ item.behaviorValue key, ¬ (1 < q ∧ q < 2)

/-- The parsed item says what the JSON object and its rule say. -/
structure DeviceItem.Says (p : DeviceItem) (item rule : CJson) : Prop where
  subsystem : p.subsystem = (item.getString "subsystem").map CString.ofString
  action : ∀ a ∈ actionNames,
    (p.rule.action.flag a.2 = true ↔ CString.ofString a.1 ∈ rule.strings "action")
  devtype : p.rule.devtypeList.map ShortString.string =
    (rule.strings "devtype").map (CString.take 255)
  extra : p.rule.extraList = ((rule.getArray "extra").getD []).filterMap CJson.extraRule?
  injection : p.behavior.injection = true ↔ item.BehaviorIsOne "injection"
  devnode : p.behavior.devnode = true ↔ item.BehaviorIsOne "devnode"
  allow : p.behavior.allow = true ↔ item.BehaviorIsOne "allow"
  permission : p.behavior.permission = (item.getObject "behavior").bind fun behavior =>
    (behavior.getString "permission").map CString.ofString

/-- The object has a string `subsystem` and this object as `rule`. -/
def CJson.CompleteItem (item rule : CJson) : Prop :=
  (item.getString "subsystem").isSome ∧ item.getObject "rule" = some rule

/-- A complete item is appended and says what its JSON says; another one leaves the entry as it
is. -/
structure ParsedAsSaid (dde : DeviceEntry) (item : CJson) : Prop where
  appended : ∀ rule, item.CompleteItem rule → ∃ p : DeviceItem, p.Says item rule ∧
    (cmparserParseDynamicDevItem dde item).1 = { dde with items := dde.items ++ [p] }
  rejected : (∀ rule, ¬ item.CompleteItem rule) → (cmparserParseDynamicDevItem dde item).1 = dde

/-! ### The sections -/

/-- A loop that appends what each element gives. -/
lemma foldl_append_filterMap {α β : Type} {step : List β → α → List β} {f : α → Option β}
    (h : ∀ l x, step l x = l ++ (f x).toList) (init : List β) (l : List α) :
    l.foldl step init = init ++ l.filterMap f := by
  induction l generalizing init with
  | nil => simp
  | cons x l ih =>
    rw [List.foldl_cons, ih, h]
    cases hx : f x <;> simp [hx]

lemma parseDevtypeElem_eq (l : List ShortString) (x : CJson) :
    parseDevtypeElem l x = l ++ ((CJson.string? (some x)).map ShortString.ofString).toList := by
  simp only [parseDevtypeElem]
  cases CJson.string? (some x) <;> simp

lemma parseExtraElem_eq (l : List DeviceRuleExtra) (x : CJson) :
    parseExtraElem l x = l ++ x.extraRule?.toList := by
  simp only [parseExtraElem, CJson.extraRule?]
  cases CJson.object? (some x) with
  | none => simp
  | some x =>
    cases hc : x.getString "checker" with
    | none => simp [hc]
    | some checker =>
      cases hv : x.getString "value" <;> simp [hc, hv]

/-- The flag of a code is set. -/
def UeventAction.mark (action : UeventAction) : UeventActionCode → UeventAction
  | .non => action
  | .add => { action with add := true }
  | .remove => { action with remove := true }
  | .change => { action with change := true }
  | .move => { action with move := true }
  | .online => { action with online := true }
  | .offline => { action with offline := true }
  | .bind => { action with bind := true }
  | .unbind => { action with unbind := true }

lemma UeventAction.enable_eq (action : UeventAction) (s : CString) :
    action.enable s = action.mark (deviceControlDynamicUdevGetUeventActionCode (some s)) := by
  simp only [deviceControlDynamicUdevGetUeventActionCode, apply_ite action.mark]
  rfl

lemma UeventAction.flag_mark (action : UeventAction) (set : UeventActionCode)
    {code : UeventActionCode} (hc : code ≠ .non) :
    (action.mark set).flag code = (action.flag code || decide (set = code)) := by
  -- the flag of this code is set, the others are as they were
  cases set <;> cases code <;> first
    | exact absurd rfl hc
    | exact (Bool.or_false _).symm
    | exact (Bool.or_true _).symm

/-- A name sets the flag of its code and no other. -/
lemma UeventAction.flag_enable (action : UeventAction) (s : CString) {code : UeventActionCode}
    (hc : code ≠ .non) : (action.enable s).flag code =
      (action.flag code ||
        decide (deviceControlDynamicUdevGetUeventActionCode (some s) = code)) := by
  rw [enable_eq, flag_mark action _ hc]

lemma flag_foldl_parseActionElem {a : String × UeventActionCode} (ha : a ∈ actionNames)
    (action : UeventAction) (l : List CJson) :
    (l.foldl parseActionElem action).flag a.2 = true ↔ action.flag a.2 = true ∨
      CString.ofString a.1 ∈
        l.filterMap fun x => (CJson.string? (some x)).map CString.ofString := by
  have hnon : a.2 ≠ .non := (by decide : ∀ a ∈ actionNames, a.2 ≠ .non) a ha
  induction l generalizing action with
  | nil => simp
  | cons x l ih =>
    rw [List.foldl_cons]
    apply (ih _).trans
    cases hx : CJson.string? (some x) with
    | none => simp [parseActionElem, hx]
    | some s =>
      simp only [parseActionElem, hx, UeventAction.flag_enable _ _ hnon, Bool.or_eq_true,
        decide_eq_true_eq, actionCode_eq_iff _ ha, List.filterMap_cons, Option.map_some,
        List.mem_cons, or_assoc]

/-! ### The item -/

/-- The parser reads the behavior key of an item as 1. -/
def CJson.BehaviorReadAsOne (item : CJson) (key : String) : Prop :=
  (item.behaviorValue key).map valueint = some 1

/-- A key is read as it is exactly when no fraction is cut off to make it 1. -/
lemma CJson.behaviorReadAsOne_iff (item : CJson) (key : String) :
    (item.BehaviorReadAsOne key ↔ item.BehaviorIsOne key) ↔ item.BehaviorWhole key := by
  simp only [BehaviorReadAsOne, BehaviorIsOne, BehaviorWhole]
  cases item.behaviorValue key with
  | none => simp
  | some q =>
    simp only [Option.map_some, Option.some.injEq, valueint_eq_one_iff, Option.mem_some_iff,
      forall_eq']
    constructor
    · rintro h ⟨h1, h2⟩
      exact h1.ne' (h.mp ⟨h1.le, h2⟩)
    · intro h
      constructor
      · rintro ⟨h1, h2⟩
        exact (h1.eq_or_lt.resolve_right fun hlt => h ⟨hlt, h2⟩).symm
      · rintro rfl
        norm_num

/-- A flag of the parsed behavior, set from the number of a key. -/
lemma behavior_flag_iff (item : CJson) (key : String) {flag : DeviceBehavior → Bool}
    (hflag : ∀ behavior : CJson,
      flag (parseDeviceBehavior behavior) = decide (behavior.getNumber key = some 1))
    (hnone : flag {} = false) :
    flag (((item.getObject "behavior").map parseDeviceBehavior).getD {}) = true ↔
      item.BehaviorReadAsOne key := by
  simp only [CJson.BehaviorReadAsOne, CJson.behaviorValue]
  cases item.getObject "behavior" with
  | none => simp [hnone]
  | some behavior => simp [hflag, CJson.getNumber]

/-- The item that is appended for a complete object. -/
def parsedItem (item rule : CJson) : DeviceItem where
  subsystem := (item.getString "subsystem").map CString.ofString
  rule := parseDeviceRule rule
  behavior := ((item.getObject "behavior").map parseDeviceBehavior).getD {}

lemma cmparserParseDynamicDevItem_complete (dde : DeviceEntry) {item rule : CJson}
    (h : item.CompleteItem rule) :
    (cmparserParseDynamicDevItem dde item).1 =
      { dde with items := dde.items ++ [parsedItem item rule] } := by
  obtain ⟨hs, hr⟩ := h
  obtain ⟨subsystem, hs⟩ := Option.isSome_iff_exists.mp hs
  simp [cmparserParseDynamicDevItem, parsedItem, hs, hr]

lemma cmparserParseDynamicDevItem_rejected (dde : DeviceEntry) {item : CJson}
    (h : ∀ rule, ¬ item.CompleteItem rule) : (cmparserParseDynamicDevItem dde item).1 = dde := by
  simp only [cmparserParseDynamicDevItem]
  cases hs : item.getString "subsystem" with
  | none => rfl
  | some subsystem =>
    cases hr : item.getObject "rule" with
    | none => rfl
    | some rule => exact absurd ⟨by simp [hs], hr⟩ (h rule)

/-- The flags of an item are what its behavior says: no number is read as 1 that is not 1, and the
keys `allow` and `devnode` agree. -/
structure CJson.FlagsReadable (item : CJson) : Prop where
  injection : item.BehaviorWhole "injection"
  devnode : item.BehaviorWhole "devnode"
  allow : item.BehaviorIsOne "allow" ↔ item.BehaviorIsOne "devnode"

/-- The parsed item says what the JSON says exactly when its flags can be read. -/
lemma parsedItem_says_iff (item rule : CJson) :
    (parsedItem item rule).Says item rule ↔ item.FlagsReadable := by
  have hinjection : (parsedItem item rule).behavior.injection = true ↔
      item.BehaviorReadAsOne "injection" := behavior_flag_iff item "injection" (fun _ => rfl) rfl
  have hdevnode : (parsedItem item rule).behavior.devnode = true ↔
      item.BehaviorReadAsOne "devnode" := behavior_flag_iff item "devnode" (fun _ => rfl) rfl
  have hallow : (parsedItem item rule).behavior.allow = true ↔ item.BehaviorReadAsOne "devnode" :=
    behavior_flag_iff item "devnode" (fun _ => rfl) rfl
  constructor
  · intro h
    have hread : item.BehaviorReadAsOne "devnode" ↔ item.BehaviorIsOne "devnode" :=
      hdevnode.symm.trans h.devnode
    constructor
    · exact (item.behaviorReadAsOne_iff _).mp (hinjection.symm.trans h.injection)
    · exact (item.behaviorReadAsOne_iff _).mp hread
    · exact h.allow.symm.trans (hallow.trans hread)
  · intro h
    have hread := (item.behaviorReadAsOne_iff "devnode").mpr h.devnode
    constructor
    case subsystem => rfl
    case action =>
      intro a ha
      have hclear : (({} : UeventAction).flag a.2) = false := by cases a.2 <;> rfl
      simp [parsedItem, parseDeviceRule, CJson.strings, flag_foldl_parseActionElem ha, hclear]
    case devtype =>
      simp only [parsedItem, parseDeviceRule, CJson.strings,
        foldl_append_filterMap parseDevtypeElem_eq, List.nil_append, List.map_filterMap,
        Option.map_map]
      rfl
    case extra =>
      simp [parsedItem, parseDeviceRule, foldl_append_filterMap parseExtraElem_eq]
    case injection =>
      exact hinjection.trans ((item.behaviorReadAsOne_iff "injection").mpr h.injection)
    case devnode => exact hdevnode.trans hread
    case allow => exact hallow.trans (hread.trans h.allow.symm)
    case permission =>
      simp only [parsedItem]
      cases item.getObject "behavior" <;> rfl

/-- An item that gives access to a device without creating its node. -/
def allowOnlyItem : CJson :=
  .object [("subsystem", .string "block"), ("rule", .object [("action", .array [.string "add"])]),
    ("behavior", .object [("devnode", .number 0), ("allow", .number 1)])]

end ContainerManager
