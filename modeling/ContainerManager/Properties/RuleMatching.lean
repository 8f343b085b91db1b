import ContainerManager.Devices.EventInfo

/-!
# Which guest a uevent is for

The code takes a device type for listed when it is a prefix of a listed one. So the target of an
event is the one the rules specify, unless an item that lists the type only as a prefix of a longer
one is scanned before the first item that matches.
-/

namespace ContainerManager

variable {n : ℕ}

/-- The device type is a prefix of a listed one, but is not listed. -/
def DeviceItem.ListsOnlyLonger (ddei : DeviceItem) (devtype : CString) : Prop :=
  (∃ ssli ∈ ddei.rule.devtypeList, devtype.IsPrefix ssli.string) ∧
    ∀ ssli ∈ ddei.rule.devtypeList, ssli.string ≠ devtype

instance (ddei : DeviceItem) (devtype : CString) : Decidable (ddei.ListsOnlyLonger devtype) :=
  inferInstanceAs (Decidable (_ ∧ _))

/-- What the code takes for a match, as a test. -/
def DeviceItem.matchesByPrefix (ddei : DeviceItem) (e : Uevent) (devtype : CString) : Bool :=
  ddei.MatchesButDevtype e ∧ ddei.HasDevtypePrefix devtype

lemma DeviceItem.verdict_some {ddei : DeviceItem} {e : Uevent} {devtype : CString}
    (h : e.devtype = some devtype) :
    ddei.verdict e.info e.pdev = .ok (ddei.matchesByPrefix e devtype) := by
  by_cases happ : ddei.Applies e.info
  · simp [verdict, happ, h, matchesByPrefix, matchesButDevtype_iff, and_comm]
  · simp [verdict, happ, matchesByPrefix, matchesButDevtype_iff]

lemma DeviceItem.Matches.byPrefix {ddei : DeviceItem} {e : Uevent} {devtype : CString}
    (h : e.devtype = some devtype) (hm : ddei.Matches e) :
    ddei.matchesByPrefix e devtype = true := by
  obtain ⟨hm, hl⟩ := hm
  have hprefix : ddei.HasDevtypePrefix devtype := by
    rcases hl with hl | ⟨ssli, hs, heq⟩
    · exact Or.inl hl
    · refine Or.inr ⟨ssli, hs, ?_⟩
      obtain rfl : ssli.string = devtype := Option.some.inj (heq.trans h)
      exact CString.IsPrefix.refl _
  simp [matchesByPrefix, hm, hprefix]

/-- The items the code takes for a match but that do not match. -/
lemma DeviceItem.byPrefix_only_iff {ddei : DeviceItem} {e : Uevent} {devtype : CString}
    (h : e.devtype = some devtype) :
    ddei.matchesByPrefix e devtype = true ∧ ¬ ddei.Matches e ↔
      ddei.MatchesButDevtype e ∧ ddei.ListsOnlyLonger devtype := by
  simp only [matchesByPrefix, decide_eq_true_eq, Matches, h, Option.some.injEq]
  constructor
  · rintro ⟨⟨hm, hprefix⟩, hno⟩
    have hlist : ddei.rule.devtypeList ≠ [] := by
      intro hl
      exact hno ⟨hm, Or.inl hl⟩
    refine ⟨hm, hprefix.resolve_left hlist, ?_⟩
    intro ssli hs heq
    exact hno ⟨hm, Or.inr ⟨ssli, hs, heq⟩⟩
  · rintro ⟨hm, ⟨ssli, hs, hprefix⟩, hno⟩
    refine ⟨⟨hm, Or.inr ⟨ssli, hs, hprefix⟩⟩, ?_⟩
    rintro ⟨-, hl | ⟨ssli', hs', heq⟩⟩
    · simp [hl] at hs
    · exact hno ssli' hs' heq

/-- The target agrees exactly when no item that only lists longer device types is scanned first. -/
theorem targetAgrees_iff (guests : Fin n → DeviceGuest) (e : Uevent) {devtype : CString}
    (h : e.devtype = some devtype) :
    TargetAgrees guests e ↔
      Search.Clear (fun d => d.2.ddei.MatchesButDevtype e ∧ d.2.ddei.ListsOnlyLonger devtype)
        (fun d => d.2.ddei.Matches e) (scannedDevices guests e.devpath) := by
  have hfind : ∀ d ∈ scannedDevices guests e.devpath, d.2.ddei.verdict e.info e.pdev =
      .ok (d.2.ddei.matchesByPrefix e devtype) := fun d _ => DeviceItem.verdict_some h
  have hiff := Search.find?_eq_find?_iff
    (p := fun d : Fin n × ItemRef => d.2.ddei.Matches e)
    (q := fun d : Fin n × ItemRef => d.2.ddei.matchesByPrefix e devtype)
    (fun d hd => (of_decide_eq_true hd).byPrefix h) (scannedDevices guests e.devpath)
  simp only [decide_eq_true_eq, DeviceItem.byPrefix_only_iff h] at hiff
  rw [← hiff, targetAgrees_iff_findM?, Search.findM?_ok hfind, Except.ok.injEq]

/-! ### A type that only starts like a listed one -/

/-- A started guest with one rule: the `wwan_port` devices of the subsystem `net`. -/
def portGuest : DeviceGuest where
  name := "guest0"
  role := "ivi"
  runtimeStat := { status := .started }
  dynamicDevlist := [{
    devpath := some (.ofString "/devices")
    items := [{
      subsystem := some (.ofString "net")
      rule := {
        action := { add := true }
        devtypeList := [⟨.ofString "wwan_port", by decide⟩] } }] }]

/-- The event of a new network interface of the type `wwan`. -/
def wwanEvent : Uevent where
  pdev := {
    properties := [(.ofString "ACTION", .ofString "add"),
      (.ofString "DEVPATH", .ofString "/devices/usb1/net/wwan0"),
      (.ofString "SUBSYSTEM", .ofString "net"), (.ofString "DEVTYPE", .ofString "wwan")]
    blockUtilGetfs := fun _ => none }
  action := .ofString "add"
  devpath := .ofString "/devices/usb1/net/wwan0"
  subsystem := .ofString "net"
  hasAction := by decide
  hasDevpath := by decide
  hasSubsystem := by decide

/-- The guest with the type of the event listed as well. -/
def wwanGuest : DeviceGuest := { portGuest with
  dynamicDevlist := [{
    devpath := some (.ofString "/devices")
    items := [{
      subsystem := some (.ofString "net")
      rule := {
        action := { add := true }
        devtypeList := [⟨.ofString "wwan_port", by decide⟩, ⟨.ofString "wwan", by decide⟩] } }] }] }

theorem wwanEvent_judged : TargetAgrees (fun _ : Fin 1 => wwanGuest) wwanEvent := by
  have h : wwanEvent.devtype = some (.ofString "wwan") := by decide
  exact (targetAgrees_iff _ wwanEvent h).mpr (Search.clear_of_forall (by decide))

theorem wwanEvent_misjudged :
    wwanEvent.devtype = some (.ofString "wwan") ∧
    specifiedTarget (fun _ : Fin 1 => portGuest) wwanEvent = none ∧
    ¬ TargetAgrees (fun _ : Fin 1 => portGuest) wwanEvent := by
  refine ⟨by decide, by decide, ?_⟩
  simp only [TargetAgrees]
  decide

end ContainerManager
