import ContainerManager.Devices.Uevent

/-!
# The injected uevent

The message that is injected into a guest: the header and the properties of the uevent, printed one
after the other into a buffer. The memory is addressed from the start of the buffer, and every
printing may write anywhere behind it; the sizes given to `snprintf` are recorded.
-/

namespace ContainerManager

/-- `UEVENT_INJECTION_BUFFER_SIZE`. -/
def ueventInjectionBufferSize : ℤ := 2048

/-- The local variables of `device_control_dynamic_udev_create_injection_message`, and the memory
from `message` on. -/
structure InjectionBuffer where
  mem : ℕ → UInt8
  usage : ℕ := 0
  remain : ℤ := ueventInjectionBufferSize - 1
  /-- history: the sizes given to `snprintf`, oldest first. -/
  sizes : List ℤ := []

/-- Print one string behind the strings already there, and whether it fits. -/
def InjectionBuffer.print (b : InjectionBuffer) (text : CString) : InjectionBuffer × Bool :=
  let r := CString.snprintf b.mem b.usage b.remain text
  let printed := { b with mem := r.1, sizes := b.sizes ++ [b.remain] }
  if b.remain ≤ r.2 ∨ r.2 < 0 then (printed, false)
  else
    let usage := b.usage + r.2.toNat + 1
    let remain := ueventInjectionBufferSize - 1 - usage
    ({ printed with usage := usage, remain := remain }, 0 ≤ remain)

/-- `trimmed_devname`. -/
def trimmedDevname (devnode : CString) : Option CString :=
  let cmpstr := CString.ofString "/dev/"
  if devnode.StrncmpEq cmpstr cmpstr.length then some (devnode.drop cmpstr.length) else none

/-- The loop over the properties; whether all of them fit. -/
def InjectionBuffer.printProperties (b : InjectionBuffer) : UdevProperties → InjectionBuffer × Bool
  | [] => (b, true)
  | (name, value) :: le =>
    if name = .ofString "SEQNUM" then b.printProperties le
    else
      match if name = .ofString "DEVNAME" then trimmedDevname value else some value with
      -- not a device name
      | none => (b, false)
      | some value =>
        let r := b.print (name ++ .ofString "=" ++ value)
        if r.2 then r.1.printProperties le else (r.1, false)

/-- What `%s` prints for a string that may be missing. -/
def printedString (s : Option CString) : CString := s.getD (.ofString "(null)")

/-- What follows the header: the buffer, and the value of `used` when everything fits. -/
def createInjectionBody (head : InjectionBuffer × Bool) (le : UdevProperties) :
    InjectionBuffer × Option ℕ :=
  if head.2 then
    let body := head.1.printProperties le
    (body.1, if body.2 then some body.1.usage else none)
  else (head.1, none)

/-- `device_control_dynamic_udev_create_injection_message`: the buffer, and what is stored to `used`
on success. -/
def deviceControlDynamicUdevCreateInjectionMessage (mem : ℕ → UInt8) (udi : UeventDeviceInfo)
    (le : UdevProperties) : InjectionBuffer × Option ℕ :=
  createInjectionBody (InjectionBuffer.print { mem := mem }
    (printedString udi.action ++ .ofString "@" ++ printedString udi.devpath)) le

end ContainerManager
