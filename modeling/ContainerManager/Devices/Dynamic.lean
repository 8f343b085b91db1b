import ContainerManager.CmUtils
import ContainerManager.Control.Start
import ContainerManager.Devices.Injection
import ContainerManager.Lxc.Instance

/-!
# Dynamic devices

What a uevent does: the rest of `device-control-dynamic-udev.c`, with the operations on a guest from
`lxc-util.c` and the injection of `uevent_injection.c`. The root file system of a guest is that of
its init process. The results of the system calls are inputs, and what was done for which guest is
recorded.
-/

namespace ContainerManager

variable {n : ℕ}

/-! ### The world a uevent meets -/

/-- A guest with its dynamic devices and its control groups. -/
structure DynamicGuest extends DeviceGuest where
  cgroup : CgroupRuntime := {}

/-- A netlink message: the fields of its header that are set, and what follows the header. -/
structure NetlinkPacket where
  nlmsgLen : ℕ
  nlmsgType : ℕ
  nlmsgFlags : ℕ
  payload : List UInt8
deriving DecidableEq

/-- Something done to a guest. -/
inductive DeviceEffect where
  /-- `once_write` was called -/
  | write (path value : CString)
  /-- a child process worked on the node in the root of this process -/
  | node (pid : ℤ) (path : Option CString) (isAdd : Bool) (node : DeviceNode)
  /-- a message was sent in the network namespace of this process -/
  | inject (pid : ℤ) (packet : NetlinkPacket)
deriving DecidableEq

/-- The guests, the root file systems by process, and the effects so far, oldest first. -/
structure DeviceWorld (n : ℕ) where
  guests : Fin n → DynamicGuest
  roots : ℤ → Files
  /-- history: what was done, and for which guest. -/
  effects : List (Fin n × DeviceEffect) := []

namespace DeviceWorld

/-- Record an effect. -/
def record (w : DeviceWorld n) (i : Fin n) (effect : DeviceEffect) : DeviceWorld n :=
  { w with effects := w.effects ++ [(i, effect)] }

/-- `lxcutil_get_init_pid` of a guest. -/
def getInitPid (w : DeviceWorld n) (initPid : ℤ) (i : Fin n) : DeviceWorld n × ℤ :=
  let cc := w.guests i
  let r := lxcutilGetInitPid initPid cc.toContainerConfig
  ({ w with guests := Function.update w.guests i { cc with toContainerConfig := r.1 } }, r.2)

end DeviceWorld

/-! ### Device nodes in a guest -/

/-- What a change of a device node meets: `lstat` of the host's node, and the system calls that may
fail in the child. A signal may kill the child at any place: the calls it does not come to then
count as failed. -/
structure NodeSys where
  lstat : Option ℤ
  fork : Bool
  killed : Bool
  chroot : Bool
  chdir : Bool
  unlinkFails : Bool
  mkdirFails : ℕ → Bool
  mknodFails : Bool

/-- `lxcutil_add_remove_guest_node_child`, on the root file system of the guest. -/
def lxcutilAddRemoveGuestNodeChild (sys : NodeSys) (path : Option CString) (isAdd : Bool)
    (node : DeviceNode) (files : Files) : Files × ℤ :=
  if ¬ sys.chroot then (files, -1)
  else if ¬ sys.chdir then (files, -1)
  else
    match path with
    -- `unlink` of a null pointer fails; a node without a name is not added
    | none => (files, 0)
    | some path =>
      let files := if sys.unlinkFails then files else files.unlink (pathNames path)
      if ¬ isAdd then (files, 0)
      else
        let r := mkdirP sys.mkdirFails (path.take (pathMax - 1)) files
        if r.2 < 0 then (r.1, -1)
        else
          let made := r.1.create sys.mknodFails (pathNames path) (.leaf node)
          if made.2 = some .other then (made.1, -1) else (made.1, 0)

/-- `lxcutil_add_remove_guest_node`. -/
def lxcutilAddRemoveGuestNode (sys : NodeSys) (i : Fin n) (targetPid : ℤ) (path : Option CString)
    (isAdd : Bool) (devnum : ℤ × ℤ) (w : DeviceWorld n) : DeviceWorld n × ℤ :=
  let stat := path.bind fun _ => sys.lstat
  if isAdd ∧ stat = none then (w, -1)
  else
    let node := ⟨if isAdd then stat.getD 0 else 0, devnum⟩
    if ¬ sys.fork then (w, -3)
    else
      let r := lxcutilAddRemoveGuestNodeChild sys path isAdd node (w.roots targetPid)
      let w := { w with roots := Function.update w.roots targetPid r.1 }
      let w := w.record i (.node targetPid path isAdd node)
      if waitChildPid (.ofResult sys.killed r.2) < 0 then (w, -2) else (w, 0)

/-! ### Control groups -/

/-- `cgroup_fs_devices_base_path`. -/
def cgroupFsDevicesBasePath : CString := .ofString "/sys/fs/cgroup/devices"

/-- A path of a file in a control group, from the parts of its directory. -/
def cgroupFilePath (dirs : List CString) (file : CString) : CString :=
  (dirs ++ [file]).foldl (fun path part => path ++ .ofString "/" ++ part) cgroupFsDevicesBasePath

/-- The three directories that `lxcutil_cgroup_device_operation` writes in. -/
def cgroupDirs (cgroup : CgroupRuntime) : List (List CString) :=
  let container := printedString cgroup.pathContainer
  let inner := printedString cgroup.subpathContainerInner
  [[container], [container, inner], [container, inner, .ofString "system.slice"]]

/-- The writes to these paths, up to one that is too long. -/
def writePaths (i : Fin n) (value : CString) : List CString → DeviceWorld n → DeviceWorld n × ℤ
  | [], w => (w, 0)
  | path :: rest, w =>
    if pathMax ≤ path.length then (w, -1)
    else writePaths i value rest (w.record i (.write path value))

/-- The file that is written to. -/
def operationNode (isAdd : Bool) : CString :=
  if isAdd then .ofString "devices.allow" else .ofString "devices.deny"

/-- `lxcutil_cgroup_device_operation`. -/
def lxcutilCgroupDeviceOperation (i : Fin n) (isAdd : Bool) (value : CString) (w : DeviceWorld n) :
    DeviceWorld n × ℤ :=
  if value.length = 0 then (w, -1)
  else
    writePaths i value
      ((cgroupDirs (w.guests i).cgroup).map fun dirs => cgroupFilePath dirs (operationNode isAdd)) w

/-! ### The operation on a device -/

/-- What an operation meets: the pid that liblxc gives, and the change of the node. -/
structure OperationSys where
  initPid : ℤ
  node : NodeSys

/-- The text that allows or denies a device. -/
def deviceRuleText (devtype : Option DevnodeType) (major minor : ℤ) (permission : Option CString) :
    CString :=
  (if devtype = some .blk then .ofString "b " else .ofString "c ") ++ .ofInt major ++
    .ofString ":" ++ .ofInt minor ++ .ofString " " ++ permission.getD (.ofString "rw")

/-- The action adds or removes the device. -/
def UeventActionCode.IsAddRemove (operation : UeventActionCode) : Prop :=
  operation = .add ∨ operation = .remove

instance (operation : UeventActionCode) : Decidable operation.IsAddRemove :=
  inferInstanceAs (Decidable (_ ∨ _))

/-- The part of `lxcutil_dynamic_device_operation` about the control groups. -/
def allowDevice (i : Fin n) (lddr : DynamicDeviceRequest) (w : DeviceWorld n) :
    DeviceWorld n × ℤ :=
  if lddr.isAllowDevice ∧ lddr.operation.IsAddRemove then
    let buf := deviceRuleText lddr.devtype lddr.devMajor lddr.devMinor lddr.permission
    if 1023 ≤ buf.length then (w, -1)
    else
      let r :=
        if lddr.operation = .add then lxcutilCgroupDeviceOperation i true buf w
        -- a guest that still has a block device mounted needs the access to it
        else if lddr.devtype ≠ some .blk then lxcutilCgroupDeviceOperation i false buf w
        else (w, 0)
      if r.2 < 0 then (r.1, -2) else (r.1, 0)
  else (w, 0)

/-- The part of `lxcutil_dynamic_device_operation` about the device node. -/
def createDeviceNode (sys : OperationSys) (i : Fin n) (lddr : DynamicDeviceRequest)
    (w : DeviceWorld n) : DeviceWorld n × ℤ :=
  if lddr.isCreateNode ∧ lddr.operation.IsAddRemove then
    let target := w.getInitPid sys.initPid i
    let r := lxcutilAddRemoveGuestNode sys.node i target.2 lddr.devnode (lddr.operation = .add)
      (lddr.devMajor, lddr.devMinor) target.1
    if r.2 < 0 then (r.1, -1) else (r.1, 0)
  else (w, 0)

/-- `lxcutil_dynamic_device_operation`. -/
def lxcutilDynamicDeviceOperation (sys : OperationSys) (i : Fin n) (lddr : DynamicDeviceRequest)
    (w : DeviceWorld n) : DeviceWorld n × ℤ :=
  if (w.guests i).runtimeStat.lxc = none then (w, -1)
  else if lddr.devtype = some .net then (w, -1)
  else if lddr.devMajor < 0 ∨ lddr.devMinor < 0 then (w, 0)
  else
    let r := allowDevice i lddr w
    if r.2 < 0 then r else createDeviceNode sys i lddr r.1

/-! ### Injection -/

/-- What an injection meets. A signal may kill the child at any place: the calls it does not come to
then count as failed. -/
structure InjectSys where
  initPid : ℤ
  openNamespace : Bool
  fork : Bool
  killed : Bool
  setns : Bool
  openSocket : Bool
  bind : Bool
  send : Bool

/-- `NLMSG_ALIGN`. -/
def nlmsgAlign (len : ℕ) : ℕ := (len + 3) / 4 * 4

/-- The size of `struct nlmsghdr`. -/
def nlmsgHdrlen : ℕ := 16

/-- The message `uevent_injection_child` puts together. -/
def injectionPacket (message : List UInt8) : NetlinkPacket where
  nlmsgLen := nlmsgHdrlen + nlmsgAlign message.length
  nlmsgType := 16
  nlmsgFlags := 5
  payload := message ++ List.replicate (nlmsgAlign message.length - message.length) 0

/-- `uevent_injection_child`. -/
def ueventInjectionChild (sys : InjectSys) (message : List UInt8) : Option NetlinkPacket × ℤ :=
  if ¬ sys.setns then (none, -1)
  else if ¬ sys.openSocket then (none, -1)
  else if ¬ sys.bind then (none, -1)
  else if ¬ sys.send then (none, -1)
  else (some (injectionPacket message), 0)

/-- `uevent_injection_to_pid`. -/
def ueventInjectionToPid (sys : InjectSys) (i : Fin n) (targetPid : ℤ) (message : List UInt8)
    (w : DeviceWorld n) : DeviceWorld n × ℤ :=
  if targetPid < 1 then (w, -1)
  else if ¬ sys.openNamespace then (w, -2)
  else if ¬ sys.fork then (w, -3)
  else
    let r := ueventInjectionChild sys message
    let w := match r.1 with
      | none => w
      | some packet => w.record i (.inject targetPid packet)
    if waitChildPid (.ofResult sys.killed r.2) < 0 then (w, -4) else (w, 0)

/-! ### The event -/

/-- What the handling of a uevent meets. -/
structure DeveventSys where
  operation : OperationSys
  inject : InjectSys

/-- The operation on the device, when the rule asks for one. -/
def behaviorOperation (sys : OperationSys) (i : Fin n) (behavior : DeviceBehavior)
    (lddr : DynamicDeviceRequest) (w : DeviceWorld n) : DeviceWorld n × ℤ :=
  if behavior.devnode ∨ behavior.allow then
    lxcutilDynamicDeviceOperation sys i { lddr with
      isCreateNode := behavior.devnode
      isAllowDevice := behavior.allow
      permission := behavior.permission } w
  else (w, 0)

/-- The injection, when the rule asks for one. -/
def behaviorInjection (sys : InjectSys) (i : Fin n) (behavior : DeviceBehavior)
    (udi : UeventDeviceInfo) (le : UdevProperties) (w : DeviceWorld n) : DeviceWorld n × ℤ :=
  if behavior.injection then
    let uim := deviceControlDynamicUdevCreateInjectionMessage (fun _ => 0) udi le
    match uim.2 with
    | none => (w, -1)
    | some used =>
      let target := w.getInitPid sys.initPid i
      if 0 ≤ target.2 then
        let r := ueventInjectionToPid sys i target.2 (CString.load uim.1.mem used) target.1
        if r.2 < 0 then (r.1, -1) else (r.1, 0)
      else (target.1, 0)
  else (w, 0)

/-- What a rule asks for: the operation on the device, and then the injection. -/
def applyBehavior (sys : DeveventSys) (i : Fin n) (behavior : DeviceBehavior)
    (info : UeventDeviceInfo × DynamicDeviceRequest) (le : UdevProperties) (w : DeviceWorld n) :
    DeviceWorld n × ℤ :=
  let r := behaviorOperation sys.operation i behavior info.2 w
  if r.2 < 0 then (r.1, -1) else behaviorInjection sys.inject i behavior info.1 le r.1

/-- `device_control_dynamic_udev_devevent`; there is no device when the monitor gives none. -/
def deviceControlDynamicUdevDevevent (sys : DeveventSys) (pdev : Option UdevDevice)
    (w : DeviceWorld n) : Except NullRead (DeviceWorld n × ℤ) :=
  match pdev with
  | none => .ok (w, -1)
  | some pdev =>
    if pdev.properties = [] then .ok (w, 0)
    else do
      let info := deviceControlDynamicUdevCreateInfo pdev.properties
      let target ← deviceControlDynamicUdevGetTargetContainer
        (fun i => (w.guests i).toDeviceGuest) info.1 pdev
      match target with
      | none => .ok (w, 0)
      | some (_, none) => .error .nullRead
      | some (i, some ref) =>
        .ok (applyBehavior sys i ref.ddei.behavior info pdev.properties w)

/-! ### Runs -/

/-- What happens to the devices of the guests. -/
inductive DeviceAction (n : ℕ) where
  /-- the monitor is readable -/
  | uevent (pdev : Option UdevDevice) (sys : DeveventSys)
  /-- anything else changes the guests -/
  | guests (guests : Fin n → DynamicGuest)

/-- The world after one action; it stays as it is when a missing string is read. -/
def DeviceWorld.step (w : DeviceWorld n) : DeviceAction n → DeviceWorld n
  | .uevent pdev sys =>
    match deviceControlDynamicUdevDevevent sys pdev w with
    | .ok r => r.1
    | .error _ => w
  | .guests guests => { w with guests := guests }

end ContainerManager
