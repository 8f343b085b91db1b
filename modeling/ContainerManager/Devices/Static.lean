import ContainerManager.Lib.Buffer

/-!
# Static devices

The static part of `deviceconfig`, and its scan at the start of the manager in
`device-control-static.c`. An element has the values that the parser treats as mandatory; the checks
for `NULL` in them are left out. `mountFrom` and `mountTo` are the fields `from` and `to`.
-/

namespace ContainerManager

/-! ### Elements -/

/-- The types of `static_devlist`. -/
inductive StaticDeviceType where
  | devnode
  | devdir
deriving DecidableEq, Repr

/-- `DEVNODE_TYPE_CHR` and `DEVNODE_TYPE_BLK`; `unknown` is 0. -/
inductive StaticDevtype where
  | unknown
  | chr
  | blk
deriving DecidableEq, Repr

/-- `container_static_device_elem_t`. -/
structure StaticDeviceElem where
  type : StaticDeviceType := .devnode
  mountFrom : CString
  mountTo : CString
  devnode : CString
  optional : ℤ := 0
  wideallow : ℤ := 0
  isValid : Bool := false
  devtype : StaticDevtype := .unknown
  major : ℤ := 0
  minor : ℤ := 0
deriving DecidableEq

/-- `container_static_gpio_elem_t`. -/
structure StaticGpioElem where
  port : ℤ
  portdirection : ℤ := 0
  mountFrom : CString
  mountTo : CString
  isValid : Bool := false
deriving DecidableEq

/-- `container_static_iio_elem_t`. -/
structure StaticIioElem where
  sysfrom : CString
  systo : CString
  devfrom : Option CString := none
  devto : Option CString := none
  devnode : Option CString := none
  optional : ℤ := 0
  isSysValid : Bool := false
  isDevValid : Bool := false
  major : ℤ := 0
  minor : ℤ := 0
deriving DecidableEq

/-- `devfrom`, `devto` and `devnode` are all given. -/
def StaticIioElem.DevGiven (iioelem : StaticIioElem) : Prop :=
  iioelem.devfrom ≠ none ∧ iioelem.devto ≠ none ∧ iioelem.devnode ≠ none

instance (iioelem : StaticIioElem) : Decidable iioelem.DevGiven :=
  inferInstanceAs (Decidable (_ ∧ _))

/-- `container_static_device_t`, with `enable_protection` of its `container_deviceconfig_t`. -/
structure StaticDevices where
  enableProtection : ℤ := 0
  staticDevlist : List StaticDeviceElem := []
  staticGpiolist : List StaticGpioElem := []
  staticIiolist : List StaticIioElem := []
deriving DecidableEq

/-! ### The scan -/

/-- What `stat` finds. -/
structure StatResult where
  devtype : StaticDevtype
  major : ℤ
  minor : ℤ
deriving DecidableEq

/-- One pass of `devc_static_devnode_scan`; `stat` is none when the call fails. -/
def scanDevnode (stat : Option StatResult) (develem : StaticDeviceElem) : StaticDeviceElem :=
  match stat with
  | none => { develem with isValid := false }
  | some sb =>
    let develem := { develem with devtype := sb.devtype }
    if develem.devtype ≠ .unknown then
      { develem with major := sb.major, minor := sb.minor, isValid := true }
    else { develem with isValid := false }

/-- What the scan of a gpio meets: the check of its node, the export, the check after it, and the
setting of the direction. -/
structure GpioSys where
  nodeCheck : ℤ
  exportWrite : ℤ
  nodeRecheck : ℤ
  directionWrite : ℤ
deriving DecidableEq

/-- The path of the direction does not fit its buffer. -/
def directionPathCut (gpioelem : StaticGpioElem) : Bool :=
  1023 ≤ ((Buffer.zero : Buffer 1024).snprintf 1023
    (gpioelem.mountFrom ++ .ofString "/direction")).2

/-- One pass of `devc_gpionode_scan`. -/
def scanGpio (sys : GpioSys) (gpioelem : StaticGpioElem) : StaticGpioElem :=
  if sys.nodeCheck = -1 ∧ sys.exportWrite = 0 ∧ sys.nodeRecheck = -1 then gpioelem
  else if directionPathCut gpioelem then gpioelem
  else if sys.directionWrite ≠ 0 then gpioelem
  else { gpioelem with isValid := true }

/-- What the scan of an iio meets: the check of its sysfs node, and `stat` of its device node. -/
structure IioSys where
  nodeCheck : ℤ
  stat : Option StatResult
deriving DecidableEq

/-- One pass of `devc_iionode_scan`. -/
def scanIio (sys : IioSys) (iioelem : StaticIioElem) : StaticIioElem :=
  if sys.nodeCheck ≠ 0 then { iioelem with isSysValid := false }
  else
    let iioelem := { iioelem with isSysValid := true }
    if iioelem.DevGiven then
      match sys.stat with
      | none => { iioelem with isDevValid := false }
      | some sb =>
        if sb.devtype ≠ .chr then { iioelem with isDevValid := false }
        else { iioelem with major := sb.major, minor := sb.minor, isDevValid := true }
    else { iioelem with isDevValid := false }

/-- What the scan of the devices of a guest meets, by element. -/
structure ScanSys where
  devnode : ℕ → Option StatResult
  gpio : ℕ → GpioSys
  iio : ℕ → IioSys

/-- `devc_early_device_setup`, for one guest. -/
def devcEarlyDeviceSetup (sys : ScanSys) (sdevc : StaticDevices) : StaticDevices :=
  { sdevc with
    staticDevlist := sdevc.staticDevlist.mapIdx fun k => scanDevnode (sys.devnode k)
    staticGpiolist := sdevc.staticGpiolist.mapIdx fun k => scanGpio (sys.gpio k)
    staticIiolist := sdevc.staticIiolist.mapIdx fun k => scanIio (sys.iio k) }

end ContainerManager
