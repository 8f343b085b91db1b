import ContainerManager.Devices.Injection
import ContainerManager.Devices.Vxcan
import ContainerManager.Lib.Buffer
import ContainerManager.Lib.Script

/-!
# Calls that configure an lxc instance

The calls that `lxc-util-config.c` makes while it configures an instance, and the ways it puts them
together: an item with a given text, and an item whose text is printed into a `char buf[1024]`. Each
function is the script of its calls. A buffer that is printed into is taken as zeroed: `snprintf`
terminates what it prints, and the last byte of `buf` stays a NUL.
-/

namespace ContainerManager

/-! ### Calls and answers -/

/-- The calls besides those that set an item. -/
inductive OtherCall where
  | strdup
  | malloc
  | createVxcanPeer
  | wantDaemonize
deriving DecidableEq, Repr

/-- A call of a function that configures an instance. What the value of an item was to say is
history. -/
inductive LxcCall where
  /-- a printing function writes into `buf` -/
  | print (access : Access)
  /-- `set_config_item` -/
  | item (key : CString) (value rendered : Option CString)
  /-- `lxcutil_set_cgroup_device` -/
  | device (isAllow : Bool) (value rendered : CString)
  | other (call : OtherCall)
deriving DecidableEq

/-- The answer to a call: what the cgroup version probe gives, where the call makes one, and whether
the call itself succeeds. -/
structure LxcAnswer where
  version : ℤ
  result : Bool
deriving DecidableEq

/-- The key that `lxcutil_set_cgroup_device` sets. -/
def cgroupDeviceKey (version : ℤ) (isAllow : Bool) : Option CString :=
  if version = 1 then
    some (.ofString (if isAllow then "lxc.cgroup.devices.allow" else "lxc.cgroup.devices.deny"))
  else if version = 2 then
    some (.ofString (if isAllow then "lxc.cgroup2.devices.allow" else "lxc.cgroup2.devices.deny"))
  else none

/-- The call returns true, or what stands for success. -/
def LxcCall.ok : LxcCall → LxcAnswer → Bool
  | .print _, _ => true
  | .item .., answer => answer.result
  | .device isAllow .., answer =>
    (cgroupDeviceKey answer.version isAllow).isSome ∧ answer.result
  | .other _, answer => answer.result

abbrev ConfigScript := List (Script.Op LxcCall)

/-! ### Items -/

/-- Set an item to a text; -1 when that fails. -/
def setConfigItem (key : CString) (value : Option CString) : ConfigScript :=
  [.call (.item key value value) (some (-1))]

/-- Set an item to a text when there is one. -/
def setOptionalItem (key : CString) : Option CString → ConfigScript
  | none => []
  | some value => setConfigItem key (some value)

/-- Set an item to what is in the buffer. -/
def setLine (key : CString) (p : Line 1024) : ConfigScript :=
  [.call (.item key (some p.buf.text) (some p.buf.rendered)) (some (-1))]

/-- The calls that printed a line. -/
def prints (p : Line 1024) : ConfigScript :=
  p.buf.accesses.map fun access => .call (.print access) none

/-- Print a text into a buffer of zeros. -/
def printLine (size : ℤ) (text : CString) : Line 1024 := .print .zero size text

/-- Print a text and, unless its length reaches the size, go on with the line. -/
def withLine (size : ℤ) (text : CString) (onCut : ConfigScript) (next : Line 1024 → ConfigScript) :
    ConfigScript :=
  let p := printLine size text
  if size ≤ p.slen then prints p ++ onCut else next p

/-- Set an item to a text that is printed first. -/
def setPrinted (key : CString) (size : ℤ) (text : CString) (onCut : ConfigScript) : ConfigScript :=
  withLine size text onCut fun p => prints p ++ setLine key p

/-- `lxcutil_set_cgroup_device` with a text; -1 when that fails. -/
def setCgroupDevice (isAllow : Bool) (value : String) : ConfigScript :=
  [.call (.device isAllow (.ofString value) (.ofString value)) (some (-1))]

/-- A call of another kind that returns this value when it fails. -/
def otherCall (call : OtherCall) (onFail : ℤ) : ConfigScript := [.call (.other call) (some onFail)]

end ContainerManager
