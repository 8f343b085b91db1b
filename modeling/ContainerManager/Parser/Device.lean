import ContainerManager.Lxc.Instance
import ContainerManager.Parser.Container
import ContainerManager.Parser.DynamicDevice

/-!
# Resource, device and network parsers

The sections of `parser-container.c` for resources, static devices and static network interfaces,
and the config with all its sections. Allocations succeed.
-/

namespace ContainerManager

/-- The C string of the item of this name. -/
def CJson.getCString (json : CJson) (name : String) : Option CString :=
  (json.getString name).map .ofString

/-- The elements that a list is made of, when the item of this name is an array. -/
def CJson.elements (json : CJson) (name : String) : List CJson := (json.getArray name).getD []

/-! ### Resources -/

/-- `cmparser_parser_get_resourcetype`; `none` is `RESOURCE_TYPE_UNKNOWN`. -/
def cmparserParserGetResourcetype (str : CString) : Option ResourceType :=
  if .ofString "cgroup" = str then some .cgroupV1
  else if .ofString "cgroupv1" = str then some .cgroupV1
  else if .ofString "cgroupv2" = str then some .cgroupV2
  else if .ofString "prlimit" = str then some .prlimit
  else if .ofString "sysctl" = str then some .sysctl
  else none

/-- One entry of `resource`; an incomplete entry is dropped. -/
def parseResourceElem (elem : CJson) : Option ResourceElem := do
  let elem ← CJson.object? (some elem)
  let type ← (← elem.getCString "type") |> cmparserParserGetResourcetype
  let object ← elem.getCString "object"
  let value ← elem.getCString "value"
  some { type, object, value }

/-- `cmparser_parse_resource`. -/
def cmparserParseResource (resourcelist : List ResourceElem) (res : List CJson) :
    List ResourceElem × ℤ :=
  (resourcelist ++ res.filterMap parseResourceElem, 0)

/-! ### Static devices -/

/-- The values of `cmparser_parser_get_devtype`. -/
inductive StaticType where
  | device (type : StaticDeviceType)
  | gpio
  | iio
deriving DecidableEq, Repr

/-- `cmparser_parser_get_devtype`; `none` is `DEVICE_TYPE_UNKNOWN`. -/
def cmparserParserGetDevtype (str : CString) : Option StaticType :=
  if .ofString "devnode" = str then some (.device .devnode)
  else if .ofString "devdir" = str then some (.device .devdir)
  else if .ofString "gpio" = str then some .gpio
  else if .ofString "iio" = str then some .iio
  else none

/-- `cmparser_parser_get_gpiodirection`: `DEVGPIO_DIRECTION_*`. -/
def cmparserParserGetGpiodirection (str : CString) : ℤ :=
  if .ofString "in" = str then 1
  else if .ofString "out" = str then 2
  else if .ofString "low" = str then 3
  else if .ofString "high" = str then 4
  else 0

/-- An element of one of the lists of `container_static_device_t`. -/
inductive StaticElem where
  | device (develem : StaticDeviceElem)
  | gpio (gpioelem : StaticGpioElem)
  | iio (iioelem : StaticIioElem)
deriving DecidableEq

/-- A device node or directory. -/
def parseStaticDevice (type : StaticDeviceType) (elem : CJson) : Option StaticDeviceElem := do
  let mountFrom ← elem.getCString "from"
  let mountTo ← elem.getCString "to"
  let devnode ← elem.getCString "devnode"
  some {
    type, mountFrom, mountTo, devnode
    optional := (elem.getNumber "optional").getD 0
    wideallow := (elem.getNumber "wideallow").getD 0 }

/-- A gpio. The direction is optional. -/
def parseStaticGpio (elem : CJson) : Option StaticGpioElem := do
  let port ← (elem.getNumber "port").filter fun port => 0 ≤ port
  let mountFrom ← elem.getCString "from"
  let mountTo ← elem.getCString "to"
  some {
    port, mountFrom, mountTo
    portdirection := ((elem.getCString "direction").map cmparserParserGetGpiodirection).getD 0 }

/-- An iio. The values of its device node are optional. -/
def parseStaticIio (elem : CJson) : Option StaticIioElem := do
  let sysfrom ← elem.getCString "sysfrom"
  let systo ← elem.getCString "systo"
  some {
    sysfrom, systo
    devfrom := elem.getCString "devfrom"
    devto := elem.getCString "devto"
    devnode := elem.getCString "devnode"
    optional := (elem.getNumber "optional").getD 0 }

/-- One entry of the `static` array; an incomplete entry is dropped. -/
def parseStaticElem (elem : CJson) : Option StaticElem := do
  let elem ← CJson.object? (some elem)
  let type ← (← elem.getCString "type") |> cmparserParserGetDevtype
  match type with
  | .device type => (parseStaticDevice type elem).map .device
  | .gpio => (parseStaticGpio elem).map .gpio
  | .iio => (parseStaticIio elem).map .iio

/-- The element goes to the tail of its list. -/
def StaticDevices.add (sdc : StaticDevices) : StaticElem → StaticDevices
  | .device develem => { sdc with staticDevlist := sdc.staticDevlist ++ [develem] }
  | .gpio gpioelem => { sdc with staticGpiolist := sdc.staticGpiolist ++ [gpioelem] }
  | .iio iioelem => { sdc with staticIiolist := sdc.staticIiolist ++ [iioelem] }

/-- `cmparser_parse_static_dev`. -/
def cmparserParseStaticDev (sdc : StaticDevices) (sd : List CJson) : StaticDevices × ℤ :=
  ((sd.filterMap parseStaticElem).foldl .add sdc, 0)

/-- `container_deviceconfig_t`; `enable_protection` is a field of the static part. -/
structure DeviceConfig where
  staticDevice : StaticDevices := {}
  dynamicDevlist : List DeviceEntry := []
deriving DecidableEq

/-- `cmparser_parse_device`. -/
def cmparserParseDevice (dc : DeviceConfig) (dev : CJson) : DeviceConfig × ℤ :=
  let protection := dev.getCString "protection"
  let sdc := { dc.staticDevice with
    enableProtection := if protection = some (.ofString "disable") then 0 else 1 }
  ({ staticDevice := (cmparserParseStaticDev sdc (dev.elements "static")).1
     dynamicDevlist :=
      (cmparserParseDynamicDev dc.dynamicDevlist (dev.getObjectItemCaseSensitive "dynamic")).1 }, 0)

/-! ### Static network interfaces -/

/-- The values of `cmparser_parser_get_netiftype`: `STATICNETIF_*`. -/
inductive NetifType where
  | veth
  | vxcan
deriving DecidableEq, Repr

/-- `cmparser_parser_get_netiftype`; `none` is 0. -/
def cmparserParserGetNetiftype (str : CString) : Option NetifType :=
  if .ofString "veth" = str then some .veth
  else if .ofString "vxcan" = str then some .vxcan
  else none

/-- `cmparser_parse_static_netif_veth_create`. -/
def cmparserParseStaticNetifVethCreate (param : CJson) : Option NetifElemVeth := do
  let link ← param.getCString "link"
  some {
    link := some link
    name := param.getCString "name"
    flags := param.getCString "flags"
    hwaddr := param.getCString "hwaddr"
    mode := param.getCString "mode"
    address := param.getCString "address"
    gateway := param.getCString "gateway" }

/-- `cmparser_parse_static_netif_vxcan_create`: the name, which is given with its upstream. -/
def cmparserParseStaticNetifVxcanCreate (param : CJson) : Option CString := do
  let name ← param.getCString "name"
  let _upstream ← param.getCString "upstream"
  some name

/-- The known type of an entry of the `static` array, and its parameters. -/
def netifParam (elem : CJson) : Option (NetifType × CJson) := do
  let elem ← CJson.object? (some elem)
  let type ← (← elem.getCString "type") |> cmparserParserGetNetiftype
  let param ← elem.getObject "param"
  some (type, param)

/-- The interface of this type. -/
def createNetif (type : NetifType) (param : CJson) : Option StaticNetifElem :=
  match type with
  | .veth => (cmparserParseStaticNetifVethCreate param).map .veth
  | .vxcan => (cmparserParseStaticNetifVxcanCreate param).map .vxcan

/-- One entry of the `static` array of the network section; an incomplete entry is dropped. -/
def parseStaticNetifElem (elem : CJson) : Option StaticNetifElem :=
  (netifParam elem).bind fun netif => createNetif netif.1 netif.2

/-- `cmparser_parse_static_netif`. -/
def cmparserParseStaticNetif (staticNetiflist : List StaticNetifElem) (sni : List CJson) :
    List StaticNetifElem × ℤ :=
  (staticNetiflist ++ sni.filterMap parseStaticNetifElem, 0)

/-! ### The whole config -/

/-- `container_config_t` with the sections that only the creation of an instance and the device
control read. -/
structure ParsedConfig extends ContainerConfig where
  resourcelist : List ResourceElem := []
  deviceconfig : DeviceConfig := {}
  staticNetiflist : List StaticNetifElem := []

/-- The sections that `cmparserCreateFromFile` leaves out. -/
def ContainerConfig.withSections (cc : ContainerConfig) (json : CJson) : ParsedConfig where
  toContainerConfig := cc
  resourcelist := (cmparserParseResource [] (json.elements "resource")).1
  deviceconfig := ((json.getObject "device").map fun device =>
    (cmparserParseDevice {} device).1).getD {}
  staticNetiflist := ((json.getObject "network").map fun network =>
    (cmparserParseStaticNetif [] (network.elements "static")).1).getD []

/-- `cmparser_create_from_file`, with all sections. -/
def cmparserCreateConfig (json : CJson) : Option ParsedConfig × ℤ :=
  let r := cmparserCreateFromFile json
  (r.1.map fun cc => cc.withSections json, r.2)

end ContainerManager
