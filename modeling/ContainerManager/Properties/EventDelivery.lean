import ContainerManager.Devices.Dynamic
import ContainerManager.Devices.EventInfo
import ContainerManager.Lib.Loop
import ContainerManager.Lib.Plan
import ContainerManager.Lib.Transition
import ContainerManager.Properties.InjectedUevent

/-!
# What a uevent does to a guest

The item that a uevent matches gives the plan: the access in the control groups, then the device
node, then the injection. The code works through the plan of this one guest and stops at the first
failure.
-/

namespace ContainerManager

variable {n : ℕ}

/-! ### The plan -/

/-- The writes to the control groups. A block device that is removed stays allowed. -/
def writePlan (cgroup : CgroupRuntime) (lddr : DynamicDeviceRequest) : List DeviceEffect :=
  if lddr.isAllowDevice ∧ lddr.operation.IsAddRemove ∧
      ¬ (lddr.operation = .remove ∧ lddr.devtype = some .blk) then
    (cgroupDirs cgroup).map fun dirs =>
      .write (cgroupFilePath dirs (operationNode (lddr.operation = .add)))
        (deviceRuleText lddr.devtype lddr.devMajor lddr.devMinor lddr.permission)
  else []

/-- The change of the device node. -/
def nodePlan (sys : NodeSys) (pid : ℤ) (lddr : DynamicDeviceRequest) : List DeviceEffect :=
  if lddr.isCreateNode ∧ lddr.operation.IsAddRemove then
    [.node pid lddr.devnode (lddr.operation = .add)
      ⟨if lddr.operation = .add then sys.lstat.getD 0 else 0, (lddr.devMajor, lddr.devMinor)⟩]
  else []

/-- The operation on the device: none for a device without numbers. -/
def operationPlan (sys : OperationSys) (i : Fin n) (lddr : DynamicDeviceRequest)
    (w : DeviceWorld n) : List DeviceEffect :=
  if lddr.devtype = some .net ∨ lddr.devMajor < 0 ∨ lddr.devMinor < 0 then []
  else writePlan (w.guests i).cgroup lddr ++ nodePlan sys.node (w.getInitPid sys.initPid i).2 lddr

/-- Effects for a guest. -/
def forGuest (i : Fin n) (plan : List DeviceEffect) : List (Fin n × DeviceEffect) :=
  plan.map fun effect => (i, effect)

@[simp] lemma forGuest_append (i : Fin n) (plan plan' : List DeviceEffect) :
    forGuest i (plan ++ plan') = forGuest i plan ++ forGuest i plan' := List.map_append

@[simp] lemma forGuest_nil (i : Fin n) : forGuest i [] = [] := rfl

/-! ### The control groups -/

/-- Only the record of effects may differ. -/
structure SameState (w w' : DeviceWorld n) : Prop where
  guests : w'.guests = w.guests
  roots : w'.roots = w.roots

lemma SameState.refl (w : DeviceWorld n) : SameState w w := ⟨rfl, rfl⟩

lemma writePaths_follows (i : Fin n) (value : CString) (paths : List CString)
    (w : DeviceWorld n) :
    let r := writePaths i value paths w
    FollowsPlan (forGuest i (paths.map fun path => .write path value)) w.effects r.1.effects r.2 ∧
      SameState w r.1 := by
  induction paths generalizing w with
  | nil => exact ⟨.nothing _ _, .refl w⟩
  | cons path paths ih =>
    simp only [writePaths]
    split_ifs with hlong
    · exact ⟨.stopped _ _ (by simp), .refl w⟩
    · obtain ⟨hfollows, hsame⟩ := ih (w.record i (.write path value))
      refine ⟨?_, hsame.guests, hsame.roots⟩
      exact FollowsPlan.append (FollowsPlan.done [(i, .write path value)] w.effects 0) le_rfl
        hfollows

lemma cgroupDeviceOperation_follows (i : Fin n) (isAdd : Bool) (value : CString)
    (w : DeviceWorld n) :
    let r := lxcutilCgroupDeviceOperation i isAdd value w
    FollowsPlan (forGuest i ((cgroupDirs (w.guests i).cgroup).map fun dirs =>
      .write (cgroupFilePath dirs (operationNode isAdd)) value)) w.effects r.1.effects r.2 ∧
      SameState w r.1 := by
  simp only [lxcutilCgroupDeviceOperation]
  split_ifs with hempty
  · exact ⟨.stopped _ _ (by simp), .refl w⟩
  · have h := writePaths_follows i value
      ((cgroupDirs (w.guests i).cgroup).map fun dirs => cgroupFilePath dirs (operationNode isAdd)) w
    rwa [List.map_map] at h

lemma allowDevice_follows (i : Fin n) (lddr : DynamicDeviceRequest) (w : DeviceWorld n) :
    let r := allowDevice i lddr w
    FollowsPlan (forGuest i (writePlan (w.guests i).cgroup lddr)) w.effects r.1.effects r.2 ∧
      SameState w r.1 := by
  simp only [allowDevice]
  by_cases hdo : lddr.isAllowDevice ∧ lddr.operation.IsAddRemove
  · rw [if_pos hdo]
    by_cases hlong : 1023 ≤ (deviceRuleText lddr.devtype lddr.devMajor lddr.devMinor
        lddr.permission).length
    · rw [if_pos hlong]
      exact ⟨.stopped _ _ (by simp), .refl w⟩
    · rw [if_neg hlong]
      set r := if lddr.operation = .add then
          lxcutilCgroupDeviceOperation i true (deviceRuleText lddr.devtype lddr.devMajor
            lddr.devMinor lddr.permission) w
        else if lddr.devtype ≠ some .blk then
          lxcutilCgroupDeviceOperation i false (deviceRuleText lddr.devtype lddr.devMajor
            lddr.devMinor lddr.permission) w
        else (w, 0) with hr
      have hplan : FollowsPlan (forGuest i (writePlan (w.guests i).cgroup lddr)) w.effects
          r.1.effects r.2 ∧ SameState w r.1 := by
        by_cases hadd : lddr.operation = .add
        · rw [hr, if_pos hadd, writePlan, if_pos ⟨hdo.1, hdo.2, by simp [hadd]⟩]
          simpa only [hadd, decide_true] using cgroupDeviceOperation_follows i true _ w
        · have hremove : lddr.operation = .remove := hdo.2.resolve_left hadd
          rw [hr, if_neg hadd]
          by_cases hblk : lddr.devtype = some .blk
          · rw [if_neg (by simp [hblk]), writePlan, if_neg (by simp [hremove, hblk])]
            exact ⟨.nothing _ _, .refl w⟩
          · rw [if_pos hblk, writePlan, if_pos ⟨hdo.1, hdo.2, by simp [hblk]⟩]
            simpa only [hadd, decide_false] using cgroupDeviceOperation_follows i false _ w
      refine ⟨hplan.1.recode DeviceWorld.effects (by decide), ?_⟩
      split_ifs <;> exact hplan.2
  · rw [if_neg hdo, writePlan, if_neg (fun h => hdo ⟨h.1, h.2.1⟩)]
    exact ⟨.nothing _ _, .refl w⟩

/-! ### The guest it is for -/

/-- A guest whose pid was looked up. -/
def DynamicGuest.withPid (cc : DynamicGuest) (pid : ℤ) : DynamicGuest :=
  { cc with runtimeStat := { cc.runtimeStat with pid := pid } }

/-- The other guests and the roots of other processes stay as they are; of this guest only the pid
may be found out. -/
structure OnlyFor (i : Fin n) (pid : ℤ) (w w' : DeviceWorld n) : Prop where
  others : ∀ j, j ≠ i → w'.guests j = w.guests j
  own : ∃ p, w'.guests i = (w.guests i).withPid p
  roots : ∀ q, q ≠ pid → w'.roots q = w.roots q

lemma SameState.onlyFor {w w' : DeviceWorld n} (h : SameState w w') (i : Fin n) (pid : ℤ) :
    OnlyFor i pid w w' where
  others j _ := by rw [h.guests]
  own := ⟨(w.guests i).runtimeStat.pid, by rw [h.guests]; rfl⟩
  roots q _ := by rw [h.roots]

lemma OnlyFor.trans {i : Fin n} {pid : ℤ} {w w' w'' : DeviceWorld n} (h : OnlyFor i pid w w')
    (h' : OnlyFor i pid w' w'') : OnlyFor i pid w w'' where
  others j hj := (h'.others j hj).trans (h.others j hj)
  own := by
    obtain ⟨p, hp⟩ := h.own
    obtain ⟨p', hp'⟩ := h'.own
    exact ⟨p', by rw [hp', hp]; rfl⟩
  roots q hq := (h'.roots q hq).trans (h.roots q hq)

lemma getInitPid_onlyFor (w : DeviceWorld n) (initPid : ℤ) (i : Fin n) (pid : ℤ) :
    OnlyFor i pid w (w.getInitPid initPid i).1 := by
  refine ⟨?_, ?_, fun q _ => rfl⟩
  · intro j hj
    simp [DeviceWorld.getInitPid, hj]
  · simp only [DeviceWorld.getInitPid, lxcutilGetInitPid, Function.update_self]
    cases hlxc : (w.guests i).runtimeStat.lxc with
    | none => exact ⟨_, rfl⟩
    | some lxc =>
      dsimp only
      split_ifs
      · exact ⟨initPid, by simp [DynamicGuest.withPid, hlxc]⟩
      · exact ⟨_, rfl⟩
      · exact ⟨_, rfl⟩

@[simp] lemma getInitPid_effects (w : DeviceWorld n) (initPid : ℤ) (i : Fin n) :
    (w.getInitPid initPid i).1.effects = w.effects := rfl

/-! ### The device node -/

lemma addRemoveGuestNode_follows (sys : NodeSys) (i : Fin n) (pid : ℤ) (path : Option CString)
    (isAdd : Bool) (devnum : ℤ × ℤ) (w : DeviceWorld n) :
    let r := lxcutilAddRemoveGuestNode sys i pid path isAdd devnum w
    FollowsPlan (forGuest i [.node pid path isAdd ⟨if isAdd then sys.lstat.getD 0 else 0, devnum⟩])
      w.effects r.1.effects r.2 ∧ OnlyFor i pid w r.1 := by
  simp only [lxcutilAddRemoveGuestNode]
  by_cases hstat : isAdd = true ∧ (path.bind fun _ => sys.lstat) = none
  · rw [if_pos hstat]
    exact ⟨.stopped _ _ (by simp), (SameState.refl w).onlyFor i pid⟩
  · rw [if_neg hstat]
    by_cases hfork : sys.fork = true
    · have hforked : ¬ ¬ sys.fork = true := by simp [hfork]
      rw [if_neg hforked]
      have hmode : (if isAdd = true then (path.bind fun _ => sys.lstat).getD 0 else 0) =
          if isAdd = true then sys.lstat.getD 0 else 0 := by
        cases path with
        | none =>
          have hremove : isAdd = false := by simpa using hstat
          simp [hremove]
        | some path => rfl
      rw [hmode]
      generalize (if isAdd = true then sys.lstat.getD 0 else 0) = mode
      have hroots (files : Files) (effects : List (Fin n × DeviceEffect)) : OnlyFor i pid w
          ⟨w.guests, Function.update w.roots pid files, effects⟩ :=
        ⟨fun j _ => rfl, ⟨_, rfl⟩, fun q hq => Function.update_of_ne hq _ _⟩
      split_ifs
      all_goals exact ⟨.done _ _ _, hroots _ _⟩
    · rw [if_pos hfork]
      exact ⟨.stopped _ _ (by simp), (SameState.refl w).onlyFor i pid⟩

lemma createDeviceNode_follows (sys : OperationSys) (i : Fin n) (lddr : DynamicDeviceRequest)
    (w : DeviceWorld n) :
    let r := createDeviceNode sys i lddr w
    let pid := (w.getInitPid sys.initPid i).2
    FollowsPlan (forGuest i (nodePlan sys.node pid lddr)) w.effects r.1.effects r.2 ∧
      OnlyFor i pid w r.1 := by
  simp only [createDeviceNode, nodePlan]
  by_cases hdo : lddr.isCreateNode ∧ lddr.operation.IsAddRemove
  · rw [if_pos hdo, if_pos hdo]
    obtain ⟨hfollows, honly⟩ := addRemoveGuestNode_follows sys.node i
      (w.getInitPid sys.initPid i).2 lddr.devnode (lddr.operation = .add)
      (lddr.devMajor, lddr.devMinor) (w.getInitPid sys.initPid i).1
    simp only [decide_eq_true_eq] at hfollows
    refine ⟨hfollows.recode DeviceWorld.effects (by decide), ?_⟩
    have hboth := (getInitPid_onlyFor w sys.initPid i _).trans honly
    split_ifs <;> exact hboth
  · rw [if_neg hdo, if_neg hdo]
    exact ⟨.nothing _ _, (SameState.refl w).onlyFor i _⟩

lemma dynamicDeviceOperation_follows (sys : OperationSys) (i : Fin n)
    (lddr : DynamicDeviceRequest) (w : DeviceWorld n) :
    let r := lxcutilDynamicDeviceOperation sys i lddr w
    FollowsPlan (forGuest i (operationPlan sys i lddr w)) w.effects r.1.effects r.2 ∧
      OnlyFor i (w.getInitPid sys.initPid i).2 w r.1 := by
  have hsame := (SameState.refl w).onlyFor i (w.getInitPid sys.initPid i).2
  simp only [lxcutilDynamicDeviceOperation, operationPlan]
  by_cases hlxc : (w.guests i).runtimeStat.lxc = none
  · rw [if_pos hlxc]
    exact ⟨.stopped _ _ (by simp), hsame⟩
  rw [if_neg hlxc]
  by_cases hnet : lddr.devtype = some .net
  · rw [if_pos hnet]
    exact ⟨.stopped _ _ (by simp), hsame⟩
  rw [if_neg hnet]
  by_cases hnum : lddr.devMajor < 0 ∨ lddr.devMinor < 0
  · rw [if_pos hnum, if_pos (Or.inr hnum)]
    exact ⟨.nothing _ _, hsame⟩
  rw [if_neg hnum, if_neg (by simp [hnet, hnum]), forGuest_append]
  obtain ⟨hallow, hstate⟩ := allowDevice_follows i lddr w
  by_cases hret : (allowDevice i lddr w).2 < 0
  · rw [if_pos hret]
    exact ⟨hallow.cut _ hret, hstate.onlyFor i _⟩
  · rw [if_neg hret]
    have hpid : ((allowDevice i lddr w).1.getInitPid sys.initPid i).2 =
        (w.getInitPid sys.initPid i).2 := by
      simp only [DeviceWorld.getInitPid, hstate.guests]
    obtain ⟨hnode, honly⟩ := createDeviceNode_follows sys i lddr (allowDevice i lddr w).1
    rw [hpid] at hnode honly
    exact ⟨hallow.append (Int.not_lt.mp hret) hnode, (hstate.onlyFor i _).trans honly⟩

/-! ### The injection -/

/-- The strings of an injected uevent. -/
def injectedTexts (udi : UeventDeviceInfo) (le : UdevProperties) : List CString :=
  (printedString udi.action ++ .ofString "@" ++ printedString udi.devpath) :: propertyTexts le

/-- The injection, unless there is no process to inject it for. -/
def injectPlan (behavior : DeviceBehavior) (udi : UeventDeviceInfo) (le : UdevProperties)
    (pid : ℤ) : List DeviceEffect :=
  if behavior.injection ∧ 0 ≤ pid then
    [.inject pid (injectionPacket (CString.block (injectedTexts udi le)))]
  else []

lemma injectionMessage_eq {udi : UeventDeviceInfo} {le : UdevProperties} {used : ℕ}
    (h : (deviceControlDynamicUdevCreateInjectionMessage (fun _ => 0) udi le).2 = some used) :
    CString.load (deviceControlDynamicUdevCreateInjectionMessage (fun _ => 0) udi le).1.mem used =
      CString.block (injectedTexts udi le) := by
  obtain ⟨-, -, hused⟩ := createInjectionBody_holds (fun _ => 0)
    (printedString udi.action ++ .ofString "@" ++ printedString udi.devpath) le
  obtain ⟨rfl, hholds⟩ := hused used h
  exact hholds.content

lemma injectionToPid_follows (sys : InjectSys) (i : Fin n) (pid : ℤ) (message : List UInt8)
    (w : DeviceWorld n) :
    let r := ueventInjectionToPid sys i pid message w
    FollowsPlan (forGuest i [.inject pid (injectionPacket message)]) w.effects r.1.effects r.2 ∧
      SameState w r.1 := by
  simp only [ueventInjectionToPid]
  by_cases hpid : pid < 1
  · rw [if_pos hpid]
    exact ⟨.stopped _ _ (by simp), .refl w⟩
  rw [if_neg hpid]
  by_cases hns : sys.openNamespace = true
  · by_cases hfork : sys.fork = true
    · rw [if_neg (by simp [hns]), if_neg (by simp [hfork])]
      by_cases hsent : sys.setns ∧ sys.openSocket ∧ sys.bind ∧ sys.send
      · obtain ⟨hsetns, hsock, hbind, hsend⟩ := hsent
        simp only [ueventInjectionChild, hsetns, hsock, hbind, hsend, not_true, if_false]
        split_ifs
        all_goals exact ⟨.done _ _ _, ⟨rfl, rfl⟩⟩
      · have hchild : ueventInjectionChild sys message = (none, -1) := by
          simp only [ueventInjectionChild]
          split_ifs <;> simp_all
        rw [hchild]
        simp only [waitChildPid_ofResult_neg sys.killed (show (-1 : ℤ) < 0 by decide), if_true]
        exact ⟨.stopped _ _ (by decide), ⟨rfl, rfl⟩⟩
    · rw [if_neg (by simp [hns]), if_pos (by simpa using hfork)]
      exact ⟨.stopped _ _ (by simp), .refl w⟩
  · rw [if_pos (by simpa using hns)]
    exact ⟨.stopped _ _ (by simp), .refl w⟩

lemma behaviorInjection_follows (sys : InjectSys) (i : Fin n) (behavior : DeviceBehavior)
    (udi : UeventDeviceInfo) (le : UdevProperties) (w : DeviceWorld n) (pid : ℤ) :
    let r := behaviorInjection sys i behavior udi le w
    FollowsPlan (forGuest i (injectPlan behavior udi le (w.getInitPid sys.initPid i).2))
      w.effects r.1.effects r.2 ∧ OnlyFor i pid w r.1 := by
  have hsame := (SameState.refl w).onlyFor i pid
  simp only [behaviorInjection, injectPlan]
  by_cases hinject : behavior.injection = true
  · rw [if_pos hinject]
    cases hmsg : (deviceControlDynamicUdevCreateInjectionMessage (fun _ => 0) udi le).2 with
    | none => exact ⟨.stopped _ _ (by simp), hsame⟩
    | some used =>
      dsimp only
      rw [injectionMessage_eq hmsg]
      have hpid := getInitPid_onlyFor w sys.initPid i pid
      by_cases hknown : 0 ≤ (w.getInitPid sys.initPid i).2
      · rw [if_pos hknown, if_pos ⟨hinject, hknown⟩]
        obtain ⟨hfollows, hstate⟩ := injectionToPid_follows sys i (w.getInitPid sys.initPid i).2
          (CString.block (injectedTexts udi le)) (w.getInitPid sys.initPid i).1
        refine ⟨hfollows.recode DeviceWorld.effects (by decide), ?_⟩
        have hboth := hpid.trans (hstate.onlyFor i pid)
        split_ifs <;> exact hboth
      · rw [if_neg hknown, if_neg (fun h => hknown h.2)]
        exact ⟨.nothing _ _, hpid⟩
  · rw [if_neg hinject, if_neg (fun h => hinject h.1)]
    exact ⟨.nothing _ _, hsame⟩

/-! ### The whole event -/

/-- The request the operation is given. -/
def requestOf (behavior : DeviceBehavior) (lddr : DynamicDeviceRequest) : DynamicDeviceRequest :=
  { lddr with
    isCreateNode := behavior.devnode
    isAllowDevice := behavior.allow
    permission := behavior.permission }

/-- The operation changes the device node. -/
def DynamicDeviceRequest.TouchesNode (lddr : DynamicDeviceRequest) : Prop :=
  ¬ (lddr.devMajor < 0 ∨ lddr.devMinor < 0) ∧ lddr.isCreateNode ∧ lddr.operation.IsAddRemove

instance (lddr : DynamicDeviceRequest) : Decidable lddr.TouchesNode :=
  inferInstanceAs (Decidable (_ ∧ _))

/-- The world after the pid was looked up for a device node. -/
def DeviceWorld.afterNode (w : DeviceWorld n) (initPid : ℤ) (i : Fin n)
    (lddr : DynamicDeviceRequest) : DeviceWorld n :=
  if lddr.TouchesNode then (w.getInitPid initPid i).1 else w

lemma getInitPid_congr {w w' : DeviceWorld n} (h : w'.guests = w.guests) (initPid : ℤ)
    (i : Fin n) : (w'.getInitPid initPid i).2 = (w.getInitPid initPid i).2 := by
  simp only [DeviceWorld.getInitPid, h]

lemma addRemoveGuestNode_guests (sys : NodeSys) (i : Fin n) (pid : ℤ) (path : Option CString)
    (isAdd : Bool) (devnum : ℤ × ℤ) (w : DeviceWorld n) :
    (lxcutilAddRemoveGuestNode sys i pid path isAdd devnum w).1.guests = w.guests := by
  simp only [lxcutilAddRemoveGuestNode, DeviceWorld.record]
  split_ifs <;> rfl

/-- The pid is found out where the node is touched, and nowhere else. -/
lemma dynamicDeviceOperation_guests (sys : OperationSys) (i : Fin n) (lddr : DynamicDeviceRequest)
    (w : DeviceWorld n) (h : 0 ≤ (lxcutilDynamicDeviceOperation sys i lddr w).2) :
    (lxcutilDynamicDeviceOperation sys i lddr w).1.guests =
      (w.afterNode sys.initPid i lddr).guests := by
  simp only [lxcutilDynamicDeviceOperation] at h ⊢
  split_ifs at h ⊢ with hlxc hnet hnum hret
  · simp at h
  · simp at h
  · rw [DeviceWorld.afterNode, if_neg (fun ht => ht.1 hnum)]
  · exact absurd h (Int.not_le.mpr hret)
  · obtain ⟨-, hstate⟩ := allowDevice_follows i lddr w
    by_cases hdo : lddr.isCreateNode ∧ lddr.operation.IsAddRemove
    · have hguests : ((allowDevice i lddr w).1.getInitPid sys.initPid i).1.guests =
          (w.getInitPid sys.initPid i).1.guests := by
        simp only [DeviceWorld.getInitPid, hstate.guests]
      have htouch : lddr.TouchesNode := ⟨hnum, hdo⟩
      rw [DeviceWorld.afterNode, if_pos htouch]
      simp only [createDeviceNode, if_pos hdo]
      split_ifs <;> rw [addRemoveGuestNode_guests, hguests]
    · have hno : ¬ lddr.TouchesNode := fun htouch => hdo htouch.2
      rw [DeviceWorld.afterNode, if_neg hno]
      simp only [createDeviceNode, if_neg hdo, hstate.guests]

/-- All that a uevent does to the guest that it is for. -/
def eventPlan (sys : DeveventSys) (le : UdevProperties) (behavior : DeviceBehavior) (i : Fin n)
    (w : DeviceWorld n) : List DeviceEffect :=
  let info := deviceControlDynamicUdevCreateInfo le
  let lddr := requestOf behavior info.2
  (if behavior.devnode ∨ behavior.allow then operationPlan sys.operation i lddr w else []) ++
    injectPlan behavior info.1 le
      ((w.afterNode sys.operation.initPid i lddr).getInitPid sys.inject.initPid i).2

lemma behaviorOperation_follows (sys : OperationSys) (i : Fin n) (behavior : DeviceBehavior)
    (lddr : DynamicDeviceRequest) (w : DeviceWorld n) :
    let r := behaviorOperation sys i behavior lddr w
    FollowsPlan (forGuest i (if behavior.devnode ∨ behavior.allow then
        operationPlan sys i (requestOf behavior lddr) w else [])) w.effects r.1.effects r.2 ∧
      OnlyFor i (w.getInitPid sys.initPid i).2 w r.1 ∧
      (0 ≤ r.2 → r.1.guests = (w.afterNode sys.initPid i (requestOf behavior lddr)).guests) := by
  simp only [behaviorOperation]
  by_cases hdo : behavior.devnode ∨ behavior.allow
  · rw [if_pos hdo, if_pos hdo]
    obtain ⟨hfollows, honly⟩ := dynamicDeviceOperation_follows sys i (requestOf behavior lddr) w
    exact ⟨hfollows, honly, dynamicDeviceOperation_guests sys i _ w⟩
  · rw [if_neg hdo, if_neg hdo]
    have hno : ¬ (requestOf behavior lddr).TouchesNode := by
      intro htouch
      exact hdo (Or.inl htouch.2.1)
    rw [DeviceWorld.afterNode, if_neg hno]
    exact ⟨.nothing _ _, (SameState.refl w).onlyFor i _, fun _ => rfl⟩

lemma applyBehavior_follows (sys : DeveventSys) (i : Fin n) (behavior : DeviceBehavior)
    (le : UdevProperties) (w : DeviceWorld n) :
    let r := applyBehavior sys i behavior (deviceControlDynamicUdevCreateInfo le) le w
    FollowsPlan (forGuest i (eventPlan sys le behavior i w)) w.effects r.1.effects r.2 ∧
      OnlyFor i (w.getInitPid sys.operation.initPid i).2 w r.1 := by
  simp only [applyBehavior, eventPlan, forGuest_append]
  obtain ⟨hop, honly, hguests⟩ := behaviorOperation_follows sys.operation i behavior
    (deviceControlDynamicUdevCreateInfo le).2 w
  set r := behaviorOperation sys.operation i behavior (deviceControlDynamicUdevCreateInfo le).2 w
  by_cases hret : r.2 < 0
  · rw [if_pos hret]
    exact ⟨hop.cut _ (by simp), honly⟩
  · rw [if_neg hret]
    have hzero := Int.not_lt.mp hret
    obtain ⟨hinject, honly'⟩ := behaviorInjection_follows sys.inject i behavior
      (deviceControlDynamicUdevCreateInfo le).1 le r.1 (w.getInitPid sys.operation.initPid i).2
    rw [getInitPid_congr (hguests hzero)] at hinject
    exact ⟨hop.append hzero hinject, honly.trans honly'⟩

/-! ### What a uevent says of the device -/

/-- The kind of device of a subsystem. -/
def devnodeType (subsystem : CString) : DevnodeType :=
  if subsystem = .ofString "block" then .blk
  else if subsystem = .ofString "net" then .net else .chr

/-- The request, read off the last property of each name. -/
def UdevProperties.request (le : UdevProperties) : DynamicDeviceRequest where
  operation := ((le.value (.ofString "ACTION")).map fun value =>
    deviceControlDynamicUdevGetUeventActionCode (some value)).getD .non
  devtype :=
    ((le.value (.ofString "SUBSYSTEM")).map fun value => some (devnodeType value)).getD none
  devMajor := ((le.value (.ofString "MAJOR")).map deviceNumber).getD (-1)
  devMinor := ((le.value (.ofString "MINOR")).map deviceNumber).getD (-1)
  devnode := ((le.value (.ofString "DEVNAME")).map some).getD none

/-- A field that every pass of a loop sets from the property of one name ends with what its last
value gives. -/
lemma foldl_field_map {σ β : Type} (field : σ → β) (step : σ → CString × CString → σ)
    (name : CString) (g : CString → β)
    (h : ∀ s elem, field (step s elem) = if elem.1 = name then g elem.2 else field s) (s : σ)
    (le : UdevProperties) :
    field (le.foldl step s) = ((le.value name).map g).getD (field s) := by
  have hgen : ∀ (v : Option CString) (t : σ), field t = (v.map g).getD (field s) →
      field (le.foldl step t) = ((le.foldl (fun value elem =>
        if elem.1 = name then some elem.2 else value) v).map g).getD (field s) := by
    induction le with
    | nil => exact fun v t ht => ht
    | cons elem le ih =>
      intro v t ht
      rw [List.foldl_cons, List.foldl_cons]
      apply ih
      rw [h]
      split_ifs
      · rfl
      · exact ht
  exact hgen none s rfl

section Request

variable (info : UeventDeviceInfo × DynamicDeviceRequest) (elem : CString × CString)

lemma createInfoElem_operation : (createInfoElem info elem).2.operation =
    if elem.1 = .ofString "ACTION" then
      deviceControlDynamicUdevGetUeventActionCode (some elem.2) else info.2.operation := by
  simp only [createInfoElem]
  split_ifs <;> rfl

lemma createInfoElem_devnodeType : (createInfoElem info elem).2.devtype =
    if elem.1 = .ofString "SUBSYSTEM" then some (devnodeType elem.2) else info.2.devtype := by
  simp only [createInfoElem, devnodeType]
  by_cases h : elem.1 = .ofString "SUBSYSTEM"
  · have hne : (CString.ofString "SUBSYSTEM") ≠ .ofString "ACTION" := by decide
    have hne' : (CString.ofString "SUBSYSTEM") ≠ .ofString "DEVPATH" := by decide
    simp only [h, hne, hne', if_false, if_true]
    split_ifs <;> rfl
  · split_ifs <;> rfl

lemma createInfoElem_devnode : (createInfoElem info elem).2.devnode =
    if elem.1 = .ofString "DEVNAME" then some elem.2 else info.2.devnode := by
  simp only [createInfoElem]
  by_cases h : elem.1 = .ofString "DEVNAME"
  · have hne : ∀ s ∈ ["ACTION", "DEVPATH", "SUBSYSTEM", "DEVTYPE"],
        CString.ofString "DEVNAME" ≠ .ofString s := by decide
    simp only [List.forall_mem_cons] at hne
    simp [h, hne]
  · split_ifs <;> rfl

lemma createInfoElem_devMajor : (createInfoElem info elem).2.devMajor =
    if elem.1 = .ofString "MAJOR" then deviceNumber elem.2 else info.2.devMajor := by
  simp only [createInfoElem]
  by_cases h : elem.1 = .ofString "MAJOR"
  · have hne : ∀ s ∈ ["ACTION", "DEVPATH", "SUBSYSTEM", "DEVTYPE", "DEVNAME"],
        CString.ofString "MAJOR" ≠ .ofString s := by decide
    simp only [List.forall_mem_cons] at hne
    simp [h, hne]
  · split_ifs <;> rfl

lemma createInfoElem_devMinor : (createInfoElem info elem).2.devMinor =
    if elem.1 = .ofString "MINOR" then deviceNumber elem.2 else info.2.devMinor := by
  simp only [createInfoElem]
  by_cases h : elem.1 = .ofString "MINOR"
  · have hne : ∀ s ∈ ["ACTION", "DEVPATH", "SUBSYSTEM", "DEVTYPE", "DEVNAME", "MAJOR"],
        CString.ofString "MINOR" ≠ .ofString s := by decide
    simp only [List.forall_mem_cons] at hne
    simp [h, hne]
  · split_ifs <;> rfl

lemma createInfoElem_rest : (createInfoElem info elem).2.isCreateNode = info.2.isCreateNode ∧
    (createInfoElem info elem).2.isAllowDevice = info.2.isAllowDevice ∧
    (createInfoElem info elem).2.permission = info.2.permission := by
  simp only [createInfoElem]
  split_ifs <;> exact ⟨rfl, rfl, rfl⟩

end Request

attribute [ext] DynamicDeviceRequest

/-- The request the code takes from the properties. -/
lemma createInfo_request (le : UdevProperties) :
    (deviceControlDynamicUdevCreateInfo le).2 = le.request := by
  have hrest : (deviceControlDynamicUdevCreateInfo le).2.isCreateNode = false ∧
      (deviceControlDynamicUdevCreateInfo le).2.isAllowDevice = false ∧
      (deviceControlDynamicUdevCreateInfo le).2.permission = none := by
    apply Loop.foldl_invariant (I := fun info : UeventDeviceInfo × DynamicDeviceRequest =>
      info.2.isCreateNode = false ∧ info.2.isAllowDevice = false ∧ info.2.permission = none)
    · intro info elem h
      obtain ⟨hnode, hallow, hperm⟩ := createInfoElem_rest info elem
      exact ⟨hnode.trans h.1, hallow.trans h.2.1, hperm.trans h.2.2⟩
    · exact ⟨rfl, rfl, rfl⟩
  apply DynamicDeviceRequest.ext
  · exact foldl_field_map (fun info => info.2.operation) createInfoElem _
      (fun value => deviceControlDynamicUdevGetUeventActionCode (some value))
      createInfoElem_operation _ le
  · exact foldl_field_map (fun info => info.2.devtype) createInfoElem _
      (fun value => some (devnodeType value)) createInfoElem_devnodeType _ le
  · exact foldl_field_map (fun info => info.2.devMajor) createInfoElem _ _
      createInfoElem_devMajor _ le
  · exact foldl_field_map (fun info => info.2.devMinor) createInfoElem _ _
      createInfoElem_devMinor _ le
  · exact hrest.1
  · exact hrest.2.1
  · exact foldl_field_map (fun info => info.2.devnode) createInfoElem _ _
      createInfoElem_devnode _ le
  · exact hrest.2.2

/-! ### What a rule asks for -/

/-- The event is about this device: the action, the kind and the numbers. -/
structure Concerns (le : UdevProperties) (actionstr : String) (major minor : ℤ) : Prop where
  action_eq : le.value (.ofString "ACTION") = some (.ofString actionstr)
  devMajor_eq : le.request.devMajor = major
  devMinor_eq : le.request.devMinor = minor
  numbered : 0 ≤ major ∧ 0 ≤ minor
  notNet : le.request.devtype ≠ some .net

/-- The text of the injected uevent: the head, and the properties. -/
def injectedUevent (le : UdevProperties) : List CString :=
  (printedString (le.value (.ofString "ACTION")) ++ .ofString "@" ++
    printedString (le.value (.ofString "DEVPATH"))) :: propertyTexts le

/-- A rule of this behavior asks for the effect when it meets these properties. -/
def DeviceEffect.Asked (cgroup : CgroupRuntime) (behavior : DeviceBehavior) (le : UdevProperties) :
    DeviceEffect → Prop
  | .write path value => behavior.allow ∧ ∃ major minor, ∃ dirs ∈ cgroupDirs cgroup,
      value = deviceRuleText le.request.devtype major minor behavior.permission ∧
      (Concerns le "add" major minor ∧
          path = cgroupFilePath dirs (.ofString "devices.allow") ∨
        Concerns le "remove" major minor ∧ le.request.devtype ≠ some .blk ∧
          path = cgroupFilePath dirs (.ofString "devices.deny"))
  | .node _ path isAdd made => behavior.devnode ∧ path = le.value (.ofString "DEVNAME") ∧
      Concerns le (if isAdd then "add" else "remove") made.devnum.1 made.devnum.2
  | .inject _ packet => behavior.injection ∧
      packet = injectionPacket (CString.block (injectedUevent le))

lemma mem_forGuest {i j : Fin n} {effect : DeviceEffect} {plan : List DeviceEffect} :
    (j, effect) ∈ forGuest i plan ↔ j = i ∧ effect ∈ plan := by
  simp only [forGuest, List.mem_map, Prod.mk.injEq]
  constructor
  · rintro ⟨e, he, rfl, rfl⟩
    exact ⟨rfl, he⟩
  · rintro ⟨rfl, he⟩
    exact ⟨effect, he, rfl, rfl⟩

section Asked

variable {le : UdevProperties} {behavior : DeviceBehavior} {effect : DeviceEffect}

/-- The operation of a request is that of the action with its name. -/
lemma request_operation {a : String × UeventActionCode} (ha : a ∈ actionNames)
    (h : le.request.operation = a.2) : le.value (.ofString "ACTION") = some (.ofString a.1) := by
  have hnon : a.2 ≠ .non := (by decide : ∀ a ∈ actionNames, a.2 ≠ .non) a ha
  cases hvalue : le.value (.ofString "ACTION") with
  | none =>
    simp only [UdevProperties.request, hvalue, Option.map_none, Option.getD_none] at h
    exact absurd h.symm hnon
  | some s =>
    simp only [UdevProperties.request, hvalue, Option.map_some, Option.getD_some] at h
    rw [(actionCode_eq_iff s ha).mp h]

/-- A device with numbers that is no network interface. -/
lemma concerns_of_not {a : String × UeventActionCode} (ha : a ∈ actionNames)
    (hop : le.request.operation = a.2)
    (h : ¬ (le.request.devtype = some .net ∨ le.request.devMajor < 0 ∨ le.request.devMinor < 0)) :
    Concerns le a.1 le.request.devMajor le.request.devMinor where
  action_eq := request_operation ha hop
  devMajor_eq := rfl
  devMinor_eq := rfl
  numbered := by omega
  notNet := fun hnet => h (Or.inl hnet)

lemma writePlan_asked {cgroup : CgroupRuntime}
    (hdev : ¬ (le.request.devtype = some .net ∨ le.request.devMajor < 0 ∨ le.request.devMinor < 0))
    (h : effect ∈ writePlan cgroup (requestOf behavior le.request)) :
    effect.Asked cgroup behavior le := by
  rw [writePlan] at h
  split_ifs at h with hdo
  · obtain ⟨hallow, hop, hblk⟩ := hdo
    obtain ⟨dirs, hdirs, rfl⟩ := List.mem_map.mp h
    refine ⟨hallow, le.request.devMajor, le.request.devMinor, dirs, hdirs, rfl, ?_⟩
    rcases hop with hadd | hremove
    · refine Or.inl ⟨concerns_of_not (a := ("add", .add)) (by decide) hadd hdev, ?_⟩
      simp [operationNode, hadd]
    · refine Or.inr ⟨concerns_of_not (a := ("remove", .remove)) (by decide) hremove hdev,
        fun h => hblk ⟨hremove, h⟩, ?_⟩
      simp [operationNode, hremove]
  · simp at h

lemma request_devnode (le : UdevProperties) :
    le.request.devnode = le.value (.ofString "DEVNAME") := by
  cases h : le.value (.ofString "DEVNAME") <;> simp [UdevProperties.request, h]

lemma nodePlan_asked {cgroup : CgroupRuntime} {sys : NodeSys} {pid : ℤ}
    (hdev : ¬ (le.request.devtype = some .net ∨ le.request.devMajor < 0 ∨ le.request.devMinor < 0))
    (h : effect ∈ nodePlan sys pid (requestOf behavior le.request)) :
    effect.Asked cgroup behavior le := by
  rw [nodePlan] at h
  by_cases hdo : (requestOf behavior le.request).isCreateNode ∧
      (requestOf behavior le.request).operation.IsAddRemove
  · rw [if_pos hdo] at h
    obtain rfl := List.mem_singleton.mp h
    refine ⟨hdo.1, request_devnode le, ?_⟩
    rcases hdo.2 with hadd | hremove
    · rw [hadd]
      exact concerns_of_not (a := ("add", .add)) (by decide) hadd hdev
    · rw [hremove]
      exact concerns_of_not (a := ("remove", .remove)) (by decide) hremove hdev
  · rw [if_neg hdo] at h
    simp at h

lemma eventPlan_asked {sys : DeveventSys} {i : Fin n} {w : DeviceWorld n}
    (h : effect ∈ eventPlan sys le behavior i w) :
    effect.Asked (w.guests i).cgroup behavior le := by
  simp only [eventPlan, createInfo_request, List.mem_append] at h
  rcases h with hop | hinject
  · split_ifs at hop with hdo
    · rw [operationPlan] at hop
      split_ifs at hop with hdev
      · simp at hop
      · rcases List.mem_append.mp hop with hwrite | hnode
        · exact writePlan_asked hdev hwrite
        · exact nodePlan_asked hdev hnode
    · simp at hop
  · rw [injectPlan] at hinject
    split_ifs at hinject with hdo
    · obtain rfl := List.mem_singleton.mp hinject
      refine ⟨hdo.1, ?_⟩
      rw [injectedTexts, injectedUevent, createInfo_action, createInfo_devpath]
    · simp at hinject

end Asked

/-! ### The item that is found -/

/-- The item is one of a started guest, in an entry for the device path of the event, for the
subsystem of the event and with the action enabled. -/
structure GivenTo (cc : DeviceGuest) (ddei : DeviceItem) (le : UdevProperties) : Prop where
  started : cc.runtimeStat.status = .started
  entry : ∃ cdde ∈ cc.dynamicDevlist, ddei ∈ cdde.items ∧ ∃ prefixPath ∈ cdde.devpath,
    ∃ devpath ∈ le.value (.ofString "DEVPATH"), prefixPath.IsPrefix devpath
  subsystem : ddei.subsystem.isSome ∧ ddei.subsystem = le.value (.ofString "SUBSYSTEM")
  action : ∃ actionstr ∈ le.value (.ofString "ACTION"), ddei.rule.action.Enables actionstr

section Found

variable {udi : UeventDeviceInfo} {pdev : UdevDevice} {a : UeventActionCode}

lemma verdict_applies {ddei : DeviceItem} (h : ddei.verdict udi pdev = .ok true) :
    ddei.Applies udi := by
  by_contra hno
  simp [DeviceItem.verdict, hno] at h

/-- The flag says whether the item is given out, and only an item that applies is. -/
lemma judgeItem_found {ddei : DeviceItem} {vars : JudgmentVars} {found : Bool}
    (h : judgeItem udi pdev ddei ⟨a, false⟩ = .ok (vars, found)) :
    vars.result = found ∧ (found = true → ddei.Applies udi) := by
  cases hsub : udi.subsystem with
  | none =>
    cases hd : ddei.subsystem with
    | none =>
      simp only [judgeItem, hd, Except.ok.injEq, Prod.mk.injEq] at h
      obtain ⟨rfl, rfl⟩ := h
      simp
    | some subsystem => simp [judgeItem, hd, hsub, readString, bind, Except.bind] at h
  | some subsystem =>
    have hsome : udi.subsystem.isSome := by rw [hsub]; rfl
    obtain ⟨a', ha'⟩ := judgeItem_clear pdev ddei hsome a
    rw [ha'] at h
    cases hv : ddei.verdict udi pdev with
    | error e => simp [hv, Except.map] at h
    | ok b =>
      simp only [hv, Except.map, Except.ok.injEq, Prod.mk.injEq] at h
      obtain ⟨rfl, rfl⟩ := h
      refine ⟨rfl, ?_⟩
      rintro rfl
      exact verdict_applies hv

lemma judgeItems_found {k l : ℕ} {items : List DeviceItem} {vars : JudgmentVars}
    {found : Option ItemRef}
    (h : judgeItems udi pdev k l items ⟨a, false⟩ = .ok (vars, found)) :
    vars.result = found.isSome ∧ ∀ ref ∈ found, ref.ddei ∈ items ∧ ref.ddei.Applies udi := by
  induction items generalizing l a with
  | nil =>
    simp only [judgeItems, Except.ok.injEq, Prod.mk.injEq] at h
    obtain ⟨rfl, rfl⟩ := h
    simp
  | cons ddei items ih =>
    cases hr : judgeItem udi pdev ddei ⟨a, false⟩ with
    | error e => simp [judgeItems, hr, bind, Except.bind] at h
    | ok r =>
      obtain ⟨⟨a', result⟩, b⟩ := r
      obtain ⟨hflag, happ⟩ := judgeItem_found hr
      simp only at hflag
      subst hflag
      cases result with
      | true =>
        simp only [judgeItems, hr, bind, Except.bind, if_true, Except.ok.injEq,
          Prod.mk.injEq] at h
        obtain ⟨rfl, rfl⟩ := h
        simpa using happ
      | false =>
        simp only [judgeItems, hr, bind, Except.bind, Bool.false_eq_true, if_false] at h
        obtain ⟨hres, hfound⟩ := ih h
        exact ⟨hres, fun ref href => ⟨List.mem_cons_of_mem _ (hfound ref href).1,
          (hfound ref href).2⟩⟩

lemma judgeEntries_found {k : ℕ} {entries : List DeviceEntry} {vars : JudgmentVars}
    {found : Option ItemRef}
    (h : judgeEntries udi pdev k entries ⟨a, false⟩ = .ok (vars, found)) :
    vars.result = found.isSome ∧ ∀ ref ∈ found, ref.ddei.Applies udi ∧
      ∃ cdde ∈ entries, ref.ddei ∈ cdde.items ∧ ∃ prefixPath ∈ cdde.devpath,
        ∃ devpath ∈ udi.devpath, prefixPath.IsPrefix devpath := by
  induction entries generalizing k a with
  | nil =>
    simp only [judgeEntries, Except.ok.injEq, Prod.mk.injEq] at h
    obtain ⟨rfl, rfl⟩ := h
    simp
  | cons cdde entries ih =>
    have hrest (k' : ℕ) (a' : UeventActionCode)
        (h' : judgeEntries udi pdev k' entries ⟨a', false⟩ = .ok (vars, found)) :
        vars.result = found.isSome ∧ ∀ ref ∈ found, ref.ddei.Applies udi ∧
          ∃ cdde' ∈ cdde :: entries, ref.ddei ∈ cdde'.items ∧ ∃ prefixPath ∈ cdde'.devpath,
            ∃ devpath ∈ udi.devpath, prefixPath.IsPrefix devpath := by
      obtain ⟨hres, hfound⟩ := ih h'
      refine ⟨hres, fun ref href => ?_⟩
      obtain ⟨happ, cdde', hmem, hitem⟩ := hfound ref href
      exact ⟨happ, cdde', List.mem_cons_of_mem _ hmem, hitem⟩
    cases hd : cdde.devpath with
    | none =>
      simp only [judgeEntries, hd] at h
      exact hrest _ _ h
    | some prefixPath =>
      cases hpath : udi.devpath with
      | none => simp [judgeEntries, hd, hpath, readString, bind, Except.bind] at h
      | some devpath =>
        simp only [judgeEntries, hd, hpath, readString, bind, Except.bind,
          CString.strncmpEq_length_left] at h
        split_ifs at h with hp
        · cases hr : judgeItems udi pdev k 0 cdde.items ⟨a, false⟩ with
          | error e => simp [hr] at h
          | ok r =>
            obtain ⟨⟨a', result⟩, ref?⟩ := r
            obtain ⟨hflag, hitems⟩ := judgeItems_found hr
            simp only at hflag
            subst hflag
            rw [hr] at h
            cases ref? with
            | none =>
              rw [← hpath]
              exact hrest _ _ h
            | some ref =>
              simp only [Except.ok.injEq, Prod.mk.injEq] at h
              obtain ⟨rfl, rfl⟩ := h
              refine ⟨rfl, fun ref' href => ?_⟩
              obtain rfl := Option.some.inj href
              obtain ⟨hmem, happ⟩ := hitems ref rfl
              exact ⟨happ, cdde, List.mem_cons_self, hmem, prefixPath, by simp [hd], devpath,
                rfl, hp⟩
        · rw [← hpath]
          exact hrest _ _ h

end Found

/-- The guest that a uevent goes to gets it by one of its items. -/
lemma targetContainer_given {guests : Fin n → DeviceGuest} {pdev : UdevDevice} {i : Fin n}
    {found : Option ItemRef}
    (h : deviceControlDynamicUdevGetTargetContainer guests
      (deviceControlDynamicUdevCreateInfo pdev.properties).1 pdev = .ok (some (i, found))) :
    ∃ ref, found = some ref ∧ GivenTo (guests i) ref.ddei pdev.properties := by
  rw [deviceControlDynamicUdevGetTargetContainer] at h
  generalize List.finRange n = l at h
  induction l with
  | nil => simp [judgeGuests] at h
  | cons j l ih =>
    cases hj : deviceControlDynamicUdevRuleJudgment (guests j)
        (deviceControlDynamicUdevCreateInfo pdev.properties).1 pdev with
    | error e => simp [judgeGuests, hj, bind, Except.bind] at h
    | ok r =>
      simp only [judgeGuests, hj, bind, Except.bind] at h
      split_ifs at h with hyes
      · simp only [Except.ok.injEq, Option.some.injEq, Prod.mk.injEq] at h
        obtain ⟨rfl, rfl⟩ := h
        simp only [deviceControlDynamicUdevRuleJudgment] at hj
        split_ifs at hj with hstat
        · simp only [Except.ok.injEq] at hj
          simp [← hj] at hyes
        · cases hr : judgeEntries (deviceControlDynamicUdevCreateInfo pdev.properties).1 pdev 0
              (guests j).dynamicDevlist {} with
          | error e => simp [hr, bind, Except.bind] at hj
          | ok v =>
            obtain ⟨vars, ref?⟩ := v
            simp only [hr, bind, Except.bind, Except.ok.injEq] at hj
            obtain ⟨hflag, hfound⟩ := judgeEntries_found hr
            obtain rfl := hj
            obtain ⟨ref, rfl⟩ := Option.isSome_iff_exists.mp (hflag.symm.trans hyes)
            obtain ⟨⟨hsome, heq, hact⟩, hentry⟩ := hfound ref rfl
            rw [createInfo_subsystem] at heq
            rw [createInfo_action, UeventAction.flag_actionCode_iff] at hact
            rw [createInfo_devpath] at hentry
            exact ⟨ref, rfl, not_not.mp hstat, hentry, ⟨hsome, heq⟩, hact⟩
      · exact ih h

/-- A uevent that goes to a guest is worked through by the plan of one of its items: what is done is
a prefix of the plan, and all of it unless the handling fails. Only the pid of this guest may be
found out, and only the root file system of its init process may change. -/
theorem devevent_follows {sys : DeveventSys} {pdev : UdevDevice} {w : DeviceWorld n} {i : Fin n}
    {found : Option ItemRef}
    (htarget : deviceControlDynamicUdevGetTargetContainer (fun i => (w.guests i).toDeviceGuest)
      (deviceControlDynamicUdevCreateInfo pdev.properties).1 pdev = .ok (some (i, found))) :
    ∃ ddei w' ret, GivenTo (w.guests i).toDeviceGuest ddei pdev.properties ∧
      deviceControlDynamicUdevDevevent sys (some pdev) w = .ok (w', ret) ∧
      FollowsPlan (forGuest i (eventPlan sys pdev.properties ddei.behavior i w))
        w.effects w'.effects ret ∧
      OnlyFor i (w.getInitPid sys.operation.initPid i).2 w w' := by
  obtain ⟨ref, rfl, hgiven⟩ := targetContainer_given htarget
  have hne : pdev.properties ≠ [] := by
    intro hnil
    have hsub := hgiven.subsystem
    simp [hnil, UdevProperties.value] at hsub
    exact absurd hsub.1 (by simp [hsub.2])
  obtain ⟨hfollows, honly⟩ :=
    applyBehavior_follows sys i ref.ddei.behavior pdev.properties w
  refine ⟨ref.ddei, _, _, hgiven, ?_, hfollows, honly⟩
  simp only [deviceControlDynamicUdevDevevent, if_neg hne, htarget, bind, Except.bind]

/-- The serial devices that are added: the access, the node and the uevent. -/
def serialItem : DeviceItem where
  subsystem := some (.ofString "tty")
  rule := { action := { add := true } }
  behavior := { devnode := true, allow := true, injection := true }

/-- A started guest that gets the serial devices. -/
def serialGuest : DynamicGuest where
  name := "guest0"
  role := "ivi"
  runtimeStat := { status := .started, lxc := some ⟨0⟩ }
  dynamicDevlist := [{ devpath := some (.ofString "/devices"), items := [serialItem] }]
  cgroup := { pathContainer := some (.ofString "lxc/guest0") }

/-- A new serial device. -/
def serialDevice : UdevDevice where
  properties := [(.ofString "ACTION", .ofString "add"),
    (.ofString "DEVPATH", .ofString "/devices/usb1/tty/ttyUSB0"),
    (.ofString "SUBSYSTEM", .ofString "tty"), (.ofString "DEVNAME", .ofString "/dev/ttyUSB0"),
    (.ofString "MAJOR", .ofString "188"), (.ofString "MINOR", .ofString "0")]
  blockUtilGetfs := fun _ => none

/-- Every call succeeds. -/
def serialSys : DeveventSys where
  operation := ⟨1234, ⟨some 8624, true, false, true, true, false, fun _ => false, false⟩⟩
  inject := ⟨1234, true, true, false, true, true, true, true⟩

/-- The guest, before anything was done. -/
def serialWorld : DeviceWorld 1 := ⟨fun _ => serialGuest, fun _ => .empty, []⟩

theorem serialDevice_follows : ∃ ddei w' ret,
    GivenTo serialGuest.toDeviceGuest ddei serialDevice.properties ∧
    deviceControlDynamicUdevDevevent serialSys (some serialDevice) serialWorld = .ok (w', ret) ∧
    FollowsPlan (forGuest 0 (eventPlan serialSys serialDevice.properties ddei.behavior 0
      serialWorld)) [] w'.effects ret ∧
    OnlyFor 0 (serialWorld.getInitPid serialSys.operation.initPid 0).2 serialWorld w' := by
  have htarget : deviceControlDynamicUdevGetTargetContainer
      (fun i => (serialWorld.guests i).toDeviceGuest)
      (deviceControlDynamicUdevCreateInfo serialDevice.properties).1 serialDevice =
      .ok (some (0, some ⟨0, 0, serialItem⟩)) := by decide
  exact devevent_follows htarget

/-! ### Causes -/

/-- The uevent of this action went to the guest by one of its items, whose rule asks for the
effect. -/
def Causes (w : DeviceWorld n) (a : DeviceAction n) (i : Fin n) (effect : DeviceEffect) : Prop :=
  ∃ pdev sys ddei, a = .uevent (some pdev) sys ∧
    GivenTo (w.guests i).toDeviceGuest ddei pdev.properties ∧
    effect.Asked (w.guests i).cgroup ddei.behavior pdev.properties

/-- What a step adds to the record, its uevent causes. -/
lemma step_causes (w : DeviceWorld n) (a : DeviceAction n) (e : Fin n × DeviceEffect)
    (he : e ∈ (w.step a).effects) : e ∈ w.effects ∨ Causes w a e.1 e.2 := by
  cases a with
  | guests guests => exact Or.inl he
  | uevent pdev sys =>
    cases pdev with
    | none => exact Or.inl he
    | some pdev =>
      by_cases hne : pdev.properties = []
      · simp only [DeviceWorld.step, deviceControlDynamicUdevDevevent, if_pos hne] at he
        exact Or.inl he
      cases htarget : deviceControlDynamicUdevGetTargetContainer
          (fun i => (w.guests i).toDeviceGuest)
          (deviceControlDynamicUdevCreateInfo pdev.properties).1 pdev with
      | error err =>
        simp only [DeviceWorld.step, deviceControlDynamicUdevDevevent, if_neg hne, htarget, bind,
          Except.bind] at he
        exact Or.inl he
      | ok target =>
        cases target with
        | none =>
          simp only [DeviceWorld.step, deviceControlDynamicUdevDevevent, if_neg hne, htarget, bind,
            Except.bind] at he
          exact Or.inl he
        | some target =>
          obtain ⟨i, found⟩ := target
          obtain ⟨ref, rfl, hgiven⟩ := targetContainer_given htarget
          have hfollows := (applyBehavior_follows sys i ref.ddei.behavior pdev.properties w).1
          simp only [DeviceWorld.step, deviceControlDynamicUdevDevevent, if_neg hne, htarget, bind,
            Except.bind] at he
          refine (hfollows.mem_plan he).imp_right fun hplan => ?_
          obtain ⟨rfl, hmem⟩ := mem_forGuest.mp (show (e.1, e.2) ∈ _ from hplan)
          exact ⟨pdev, sys, ref.ddei, rfl, hgiven, eventPlan_asked hmem⟩

/-- In every run, whatever was done to a guest has a cause: at the time, a uevent came in, the guest
was started and had an item for its device path, subsystem and action, and the rule of that item
asks for what was done. -/
theorem effect_caused {w : DeviceWorld n} {as : List (DeviceAction n)} {i : Fin n}
    {effect : DeviceEffect} (he : (i, effect) ∈ (Transition.run DeviceWorld.step w as).effects) :
    (i, effect) ∈ w.effects ∨ ∃ pre a post, as = pre ++ a :: post ∧
      Causes (Transition.run DeviceWorld.step w pre) a i effect :=
  Transition.run_log_cause DeviceWorld.effects (J := fun w a e => Causes w a e.1 e.2) step_causes he

theorem serialNode_caused : ∃ pre a post,
    [.uevent (some serialDevice) serialSys] = pre ++ a :: post ∧
    Causes (Transition.run DeviceWorld.step serialWorld pre) a 0
      (.node 1234 (some (.ofString "/dev/ttyUSB0")) true ⟨8624, (188, 0)⟩) :=
  (effect_caused (w := serialWorld) (by decide +kernel)).resolve_left (by simp [serialWorld])

end ContainerManager
