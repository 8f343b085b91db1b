import ContainerManager.Data
import ContainerManager.Devices.Static
import ContainerManager.Lxc.Calls

/-!
# Configuring an lxc instance

The functions of `lxc-util-config.c` as scripts of calls, and `lxcutil_create_instance`, which runs
them. The functions of the source are the definitions with a doc comment that names one; the others
are their parts.
-/

namespace ContainerManager

open Script

/-! ### Base config -/

/-- One extra disk of `lxcutil_set_config_base`. -/
def setExtradisk (exdisk : ExtraDisk) : ConfigScript :=
  let option := match exdisk.mode with
    | .rw => " none bind,rw,create=dir"
    | .ro => " none bind,ro,create=dir"
  setPrinted (.ofString "lxc.mount.entry") 1023
    (.ofString exdisk.mountFrom ++ .ofString " " ++ .ofString exdisk.mountTo ++ .ofString option) []

/-- A capability list is set unless it is empty. -/
def setCap (key : String) (cap : Option String) : ConfigScript :=
  match cap with
  | none => []
  | some cap =>
    if 0 < (CString.ofString cap).length then setConfigItem (.ofString key) (some (.ofString cap))
    else []

/-- One line of the id mapping. -/
def idmapText (kind : String) (map : IdMap) : CString :=
  .ofString kind ++ .ofString " " ++ .ofInt map.guestRootId ++ .ofString " " ++
    .ofInt map.hostStartId ++ .ofString " " ++ .ofInt map.numOfId

/-- The id mapping. -/
def setIdmaps (idmaps : IdMaps) : ConfigScript :=
  if idmaps.enabled then
    setPrinted (.ofString "lxc.idmap") 1024 (idmapText "u" idmaps.uid) [.leave (-2)] ++
      setPrinted (.ofString "lxc.idmap") 1024 (idmapText "g" idmaps.gid) [.leave (-2)]
  else []

/-- The text of `lxc.mount.auto`. -/
def mountAutoText (shmounts : Option String) : CString :=
  match shmounts with
  | some shmounts =>
    .ofString "cgroup:mixed proc:mixed sys:mixed shmounts:" ++ .ofString shmounts
  | none => .ofString "cgroup:mixed proc:mixed sys:mixed"

/-- The automatic mounts. The length of the text is not looked at. -/
def setMountAuto (shmounts : Option String) : ConfigScript :=
  let p := printLine 1024 (mountAutoText shmounts)
  prints p ++ setLine (.ofString "lxc.mount.auto") p

/-- The text of `lxc.rootfs.path`. -/
def rootfsPathText (rootfs : RootFs) : CString :=
  .ofString "dir:" ++ printedString (rootfs.path.map .ofString)

/-- `lxcutil_set_config_base`. -/
def lxcutilSetConfigBase (bc : BaseConfig) : ConfigScript :=
  setPrinted (.ofString "lxc.rootfs.path") 1023 (rootfsPathText bc.rootfs) [.leave (-1)] ++
    (bc.extradiskList.flatMap setExtradisk ++
      setConfigItem (.ofString "lxc.signal.halt") (bc.lifecycle.halt.map .ofString) ++
      setConfigItem (.ofString "lxc.signal.reboot") (bc.lifecycle.reboot.map .ofString) ++
      setCap "lxc.cap.drop" bc.cap.drop ++
      setCap "lxc.cap.keep" bc.cap.keep ++
      setIdmaps bc.idmaps ++
      setMountAuto bc.shmounts ++
      setPrinted (.ofString "lxc.tty.max") 1024 (.ofInt bc.tty.ttyMax) [.leave (-2)] ++
      setPrinted (.ofString "lxc.pty.max") 1024 (.ofInt bc.tty.ptyMax) [.leave (-2)])

/-! ### Resources -/

/-- `RESOURCE_TYPE_*`. -/
inductive ResourceType where
  | cgroupV1
  | cgroupV2
  | prlimit
  | sysctl
deriving DecidableEq, Repr

/-- `container_resource_elem_t`. -/
structure ResourceElem where
  type : ResourceType
  object : CString
  value : CString
deriving DecidableEq

/-- A number in hexadecimal. -/
def CString.ofHex (v : ℕ) : CString where
  bytes := if v = 0 then [48] else (Nat.digits 16 v).reverse.map hexDigit
  noNul h := by
    split_ifs at h
    · simp at h
    · obtain ⟨d, hd, e⟩ := List.mem_map.mp h
      exact hexDigit_ne_zero d (Nat.digits_lt_base (by omega) (List.mem_reverse.mp hd)) e

/-- `lxcutil_create_per_guest_cgroup_v1`. -/
def lxcutilCreatePerGuestCgroupV1 (msTime : ℤ) (name : CString) : ConfigScript :=
  let time := CString.ofHex (msTime % 2 ^ 64).toNat
  let directory (key : String) (text : CString) : ConfigScript :=
    setPrinted (.ofString key) 1023 text [.leave (-2)] ++ otherCall .strdup (-2)
  directory "lxc.cgroup.dir.container" (name ++ .ofString "-container-" ++ time) ++
    directory "lxc.cgroup.dir.monitor" (name ++ .ofString "-monitor-" ++ time) ++
    directory "lxc.cgroup.dir.container.inner" (name ++ .ofString "-ns") ++
    setConfigItem (.ofString "lxc.cgroup.relative") (some (.ofString "0"))

/-- `lxcutil_create_per_guest_cgroup`; version 2 sets no item. -/
def lxcutilCreatePerGuestCgroup (version msTime : ℤ) (name : CString) : ConfigScript :=
  if version = 2 then []
  else if version = 1 then lxcutilCreatePerGuestCgroupV1 msTime name
  else [.leave (-1)]

/-- The key of a resource. -/
def resourceKey (node : String) (object : CString) : CString :=
  .ofString "lxc." ++ .ofString node ++ .ofString "." ++ object

/-- `lxcutil_set_config_resource_node`. -/
def lxcutilSetConfigResourceNode (node : String) (object value : CString) : ConfigScript :=
  withLine 1023 (resourceKey node object) [.leave (-2)] fun p =>
    prints p ++ setConfigItem p.buf.text (some value)

/-- One resource. The entries of another cgroup version are dropped. -/
def setResource (cgroupVer : ℤ) (melem : ResourceElem) : ConfigScript :=
  let node (name : String) : ConfigScript :=
    onError (-1) (lxcutilSetConfigResourceNode name melem.object melem.value)
  match melem.type with
  | .cgroupV1 => if cgroupVer ≠ 1 then [] else node "cgroup"
  | .cgroupV2 => if cgroupVer ≠ 2 then [] else node "cgroup2"
  | .prlimit => node "prlimit"
  | .sysctl => node "sysctl"

/-- `lxcutil_set_config_resource`, with what its two version probes give. -/
def lxcutilSetConfigResource (perGuestVersion cgroupVer msTime : ℤ) (name : CString)
    (resourcelist : List ResourceElem) : ConfigScript :=
  lxcutilCreatePerGuestCgroup perGuestVersion msTime name ++
    resourcelist.flatMap (setResource cgroupVer)

/-! ### File system mounts -/

/-- The text of a mount entry. -/
def fsMountText (melem : FsMountElem) : CString :=
  .ofString melem.mountFrom ++ .ofString " " ++ .ofString melem.mountTo ++ .ofString " " ++
    .ofString melem.fstype ++ .ofString " " ++ .ofString melem.option

/-- `lxcutil_set_config_fs`. -/
def lxcutilSetConfigFs (fsc : FsConfig) : ConfigScript :=
  fsc.mountlist.flatMap fun melem =>
    match melem.type with
    | .filesystem | .directory =>
      setPrinted (.ofString "lxc.mount.entry") 1023 (fsMountText melem) []
    | .delayed => []

/-! ### Static devices -/

/-- `g_default_allow_devices`. -/
def gDefaultAllowDevices : List String :=
  ["c 1:3 rwm", "c 1:5 rwm", "c 1:7 rwm", "c 5:0 rwm", "c 5:2 rwm", "c 1:8 rwm", "c 1:9 rwm",
    "c 136:* rwm"]

/-- `lxcutil_set_config_static_device_default`. -/
def lxcutilSetConfigStaticDeviceDefault : ConfigScript :=
  setCgroupDevice false "a" ++ gDefaultAllowDevices.flatMap (setCgroupDevice true)

/-- The start of a mount entry, before the suffixes. -/
def bindText (mountFrom mountTo : CString) (option : String) : CString :=
  mountFrom ++ .ofString " " ++ mountTo ++ .ofString option

/-- The suffixes of the entry of a device. -/
def devnodeSuffixes (develem : StaticDeviceElem) : List CString :=
  (if develem.optional = 1 then [.ofString ",optional"] else []) ++
    match develem.type with
    | .devnode => [.ofString ",create=file"]
    | .devdir => [.ofString ",create=dir"]

/-- The device that is allowed. -/
def devnodeAllowText (develem : StaticDeviceElem) : CString :=
  .ofString (if develem.devtype = .blk then "b" else "c") ++ .ofString " " ++
    .ofInt develem.major ++ .ofString ":" ++
    (if develem.wideallow = 1 then .ofString "*" else .ofInt develem.minor) ++ .ofString " rw"

/-- One device node or directory. The result of allowing the device is not looked at. -/
def setDevnode (develem : StaticDeviceElem) : ConfigScript :=
  if develem.optional = 0 ∧ ¬ develem.isValid then [.leave (-2)]
  else if ¬ develem.isValid then []
  else
    withLine 1023 (bindText develem.mountFrom develem.mountTo " none bind,rw") [] fun p =>
      let p := p.appendAll (devnodeSuffixes develem)
      prints p ++ setLine (.ofString "lxc.mount.entry") p ++
        withLine 1023 (devnodeAllowText develem) [] fun p =>
          prints p ++ [.call (.device true p.buf.text p.buf.rendered) none]

/-- `devgpio_direction_isvalid`. -/
def devgpioDirectionIsvalid (x : ℤ) : ℤ := if 0 ≤ x ∧ x ≤ 4 then 1 else -1

/-- One gpio. The validity that is tested is what `develem->is_valid` reads after the loop over the
devices, where `develem` is the entry of the list head. -/
def setGpio (staleIsValid : ℤ) (gpioelem : StaticGpioElem) : ConfigScript :=
  if staleIsValid = 0 then [.leave (-2)]
  else
    withLine 1023 (bindText gpioelem.mountFrom gpioelem.mountTo " none bind") [] fun p =>
      if devgpioDirectionIsvalid gpioelem.portdirection = 1 then
        if gpioelem.portdirection ≠ 1 then
          let p := p.append (.ofString ",rw")
          prints p ++ setLine (.ofString "lxc.mount.entry") p
        else prints p
      else prints p

/-- The suffixes of the entry of an iio device node. -/
def iioSuffixes (iioelem : StaticIioElem) : List CString :=
  (if iioelem.optional = 1 then [.ofString ",optional"] else []) ++ [.ofString ",create=file"]

/-- The device that is allowed. -/
def iioAllowText (iioelem : StaticIioElem) : CString :=
  .ofString "c " ++ .ofInt iioelem.major ++ .ofString ":" ++ .ofInt iioelem.minor ++ .ofString " rw"

/-- The device node of an iio. -/
def setIioDev (iioelem : StaticIioElem) : ConfigScript :=
  match iioelem.devfrom, iioelem.devto, iioelem.devnode with
  | some devfrom, some devto, some _ =>
    if iioelem.isDevValid then
      withLine 1023 (bindText devfrom devto " none bind,rw") [] fun p =>
        let p := p.appendAll (iioSuffixes iioelem)
        prints p ++ setLine (.ofString "lxc.mount.entry") p ++
          withLine 1023 (iioAllowText iioelem) [] fun p =>
            prints p ++ [.call (.device true p.buf.text p.buf.rendered) (some (-1))]
    else if iioelem.optional = 0 then [.leave (-2)]
    else []
  | _, _, _ => []

/-- One iio. -/
def setIio (iioelem : StaticIioElem) : ConfigScript :=
  if ¬ iioelem.isSysValid then if iioelem.optional = 1 then [] else [.leave (-2)]
  else
    withLine 1023 (bindText iioelem.sysfrom iioelem.systo " none bind,rw") [] fun p =>
      prints p ++ setLine (.ofString "lxc.mount.entry") p ++ setIioDev iioelem

/-- `lxcutil_set_config_static_device`. -/
def lxcutilSetConfigStaticDevice (staleIsValid : ℤ) (devc : StaticDevices) : ConfigScript :=
  (if devc.enableProtection = 1 then onError (-1) lxcutilSetConfigStaticDeviceDefault else []) ++
    (devc.staticDevlist.flatMap setDevnode ++ (devc.staticGpiolist.flatMap (setGpio staleIsValid) ++
      devc.staticIiolist.flatMap setIio))

/-! ### Network interfaces -/

/-- `netif_elem_veth_t`. -/
structure NetifElemVeth where
  name : Option CString := none
  link : Option CString := none
  flags : Option CString := none
  hwaddr : Option CString := none
  mode : Option CString := none
  address : Option CString := none
  gateway : Option CString := none
deriving DecidableEq

/-- `container_static_netif_elem_t`. A vxcan has its name. -/
inductive StaticNetifElem where
  | veth (veth : NetifElemVeth)
  | vxcan (name : CString)
deriving DecidableEq

/-- The key of an interface. -/
def netKey (num : ℕ) (suffix : String) : CString :=
  .ofString "lxc.net." ++ .ofInt num ++ .ofString suffix

/-- `lxcutil_set_config_static_netif_veth`. -/
def lxcutilSetConfigStaticNetifVeth (veth : NetifElemVeth) (num : ℕ) : ConfigScript :=
  setConfigItem (netKey num ".type") (some (.ofString "veth")) ++
    setOptionalItem (netKey num ".name") veth.name ++
    setOptionalItem (netKey num ".link") veth.link ++
    setOptionalItem (netKey num ".flags") veth.flags ++
    setOptionalItem (netKey num ".hwaddr") veth.hwaddr ++
    setOptionalItem (netKey num ".veth.mode") veth.mode ++
    setOptionalItem (netKey num ".ipv4.address") veth.address ++
    setOptionalItem (netKey num ".ipv4.gateway") veth.gateway

/-- The calls of `lxcutil_set_config_static_netif_vxcan` for a name made at this time. -/
def setVxcan (msTime : ℤ) (name : CString) (num : ℕ) : ConfigScript :=
  otherCall .malloc (-3) ++
    setConfigItem (netKey num ".type") (some (.ofString "phys")) ++
    setConfigItem (netKey num ".name") (some name) ++
    otherCall .createVxcanPeer (-3) ++
    [.call (.item (netKey num ".link") (some (peerGuestName msTime))
      (some (.ofString "vxcang" ++ hex8 (msTime % 2 ^ 32).toNat))) (some (-1))] ++
    setConfigItem (netKey num ".flags") (some (.ofString "up"))

/-- `lxcutil_set_config_static_netif`, with the times at which the names are made. -/
def lxcutilSetConfigStaticNetif (msTime : ℕ → ℤ) (netifs : List StaticNetifElem) : ConfigScript :=
  netifs.zipIdx.flatMap fun netelem =>
    match netelem.1 with
    | .veth veth => onError (-1) (lxcutilSetConfigStaticNetifVeth veth netelem.2)
    | .vxcan name => onError (-1) (setVxcan (msTime netelem.2) name netelem.2)

/-! ### The instance -/

/-- The part of `container_config_t` that an instance is configured from. -/
structure InstanceConfig where
  name : CString
  baseconfig : BaseConfig := {}
  resourcelist : List ResourceElem := []
  fsconfig : FsConfig := {}
  devices : StaticDevices := {}
  netifs : List StaticNetifElem := []

/-- The runtime part of `container_resourceconfig_t`. -/
structure CgroupRuntime where
  enableInnerOuterMode : Bool := false
  pathContainer : Option CString := none
  pathMonitor : Option CString := none
  subpathContainerInner : Option CString := none
deriving DecidableEq

/-- What creating an instance changes: the runtime status and the runtime part of the resources. -/
structure InstanceState where
  runtimeStat : RuntimeStatus := {}
  cgroup : CgroupRuntime := {}

/-- What one creation meets: `lxc_container_new`, the first two version probes, the clock, the
validity of the list head, and the answers to the calls. -/
structure InstanceSys where
  created : Option LxcContainer
  perGuestVersion : ℤ
  cgroupVer : ℤ
  msTime : ℤ
  vxcanTime : ℕ → ℤ
  staleIsValid : ℤ
  answer : ℕ → LxcAnswer

/-- The calls of `lxcutil_create_instance`. -/
def createInstanceScript (sys : InstanceSys) (cc : InstanceConfig) : ConfigScript :=
  setConfigItem (.ofString "lxc.uts.name") (some cc.name) ++
    (onError (-1) (lxcutilSetConfigBase cc.baseconfig) ++
    (onError (-1) (lxcutilSetConfigResource sys.perGuestVersion sys.cgroupVer sys.msTime cc.name
      cc.resourcelist) ++
    (onError (-1) (lxcutilSetConfigFs cc.fsconfig) ++
    (onError (-1) (lxcutilSetConfigStaticDevice sys.staleIsValid cc.devices) ++
    (onError (-1) (lxcutilSetConfigStaticNetif sys.vxcanTime cc.netifs) ++
    otherCall .wantDaemonize (-1))))))

/-- What `lxcutil_create_per_guest_cgroup` leaves when it succeeds. -/
def perGuestCgroup (sys : InstanceSys) (name : CString) : CgroupRuntime :=
  if sys.perGuestVersion = 1 then
    let time := CString.ofHex (sys.msTime % 2 ^ 64).toNat
    { enableInnerOuterMode := true
      pathContainer := some (printLine 1023 (name ++ .ofString "-container-" ++ time)).buf.text
      pathMonitor := some (printLine 1023 (name ++ .ofString "-monitor-" ++ time)).buf.text
      subpathContainerInner := some (printLine 1023 (name ++ .ofString "-ns")).buf.text }
  else {}

/-- `lxcutil_release_instance`. -/
def InstanceState.release (st : InstanceState) : InstanceState where
  runtimeStat := { st.runtimeStat with lxc := none, pid := -1 }
  cgroup := {}

/-- `lxcutil_create_instance`: the state, the return value and the calls with their answers. -/
def InstanceConfig.lxcutilCreateInstance (sys : InstanceSys) (cc : InstanceConfig)
    (st : InstanceState) : InstanceState × ℤ × List (LxcCall × LxcAnswer) :=
  match sys.created with
  | none => (st.release, -2, [])
  | some plxc =>
    let r := Script.run LxcCall.ok sys.answer (createInstanceScript sys cc)
    if r.ret < 0 then (st.release, -1, r.calls)
    else
      ({ runtimeStat := { st.runtimeStat with lxc := some plxc, pid := -1 }
         cgroup := perGuestCgroup sys cc.name }, 0, r.calls)

end ContainerManager
