import ContainerManager.Control.Exec
import ContainerManager.Lib.CString

/-!
# External interface

The command handlers of `container-external-interface.c`, and the update of the interface list of
`net-util.c`. A handler returns the responses it writes to the session.
-/

namespace ContainerManager

variable {n : ℕ}

/-! ### Commands -/

/-- A received packet: its size, and the fields the command structures give it. The name is the text
before the first NUL. -/
structure ExtifPacket where
  size : ℕ
  command : ℕ
  subcommand : ℕ := 0
  guestName : String := ""
  code : ℤ := 0
deriving DecidableEq, Repr

/-- `container_extif_guests_info_t`. -/
structure ExtifGuestInfo where
  guestName : String
  roleName : String
  status : ℤ
deriving DecidableEq, Repr

/-- What follows the header of a response. -/
inductive ExtifPayload where
  | guests (guests : List ExtifGuestInfo) (numOfGuests : ℤ)
  | response (response : ℤ)
deriving DecidableEq, Repr

/-- A response packet. -/
structure ExtifResponse where
  command : ℕ
  payload : ExtifPayload
deriving DecidableEq, Repr

/-- What handling one command meets: by guest the requests and plugins, the dynamic mount of the
test command, and whether the response is written in full. -/
structure CommandSys (n : ℕ) where
  request : Fin n → RequestSys
  plugin : PluginSys
  mount : Bool
  write : Bool

/-- The result of a command: the state, the return value and the responses written. -/
abbrev CommandResult (n : ℕ) := Containers n × ℤ × List ExtifResponse

/-- `container_external_interface_convert_status`. -/
def containerExternalInterfaceConvertStatus : ContainerStatus → ℤ
  | .disable => 0
  | .notStarted => 1
  | .started => 2
  | .reboot => 3
  | .shutdown => 4
  | .dead => 5
  | .exit => 6
  | .runWorker => -2

/-- `strncpy` into the 128 bytes of a name field. -/
def nameField (s : String) : String := CString.clip 128 s

/-- `CONTAINER_EXTIF_GUESTS_MAX`. -/
def extifGuestsMax : ℕ := 8 * 2

/-- `container_extif_command_get_response_t`. -/
structure ExtifGetResponse where
  command : ℕ
  guests : List ExtifGuestInfo
  numOfGuests : ℤ
deriving DecidableEq, Repr

/-- The response after `memset`, with its command. -/
def ExtifGetResponse.blank : ExtifGetResponse :=
  ⟨0xa1000, List.replicate extifGuestsMax ⟨"", "", 0⟩, 0⟩

/-- What is reported of a guest. -/
def extifGuestInfo (cc : ContainerConfig) : ExtifGuestInfo :=
  ⟨nameField cc.name, nameField cc.role,
    containerExternalInterfaceConvertStatus cc.runtimeStat.status⟩

/-- Report a guest, and count it. -/
def reportGuest (cs : Containers n) (s : List ExtifGuestInfo × ℤ) (i : Fin n) :
    List ExtifGuestInfo × ℤ :=
  (s.1.set i (extifGuestInfo (cs.containers i)), s.2 + 1)

/-- `container_external_interface_get_guest_info`. -/
def containerExternalInterfaceGetGuestInfo (cs : Containers n) (guestsInfo : ExtifGetResponse) :
    ExtifGetResponse :=
  let r := Loop.forEach (reportGuest cs) (guestsInfo.guests, 0)
  { guestsInfo with guests := r.1, numOfGuests := r.2 }

/-- `container_external_interface_command_get`. -/
def containerExternalInterfaceCommandGet (sys : CommandSys n) (cs : Containers n)
    (p : ExtifPacket) : CommandResult n :=
  if 4 ≤ p.size then
    let guestsInfo := containerExternalInterfaceGetGuestInfo cs .blank
    (cs, if sys.write then 0 else -1,
      [⟨guestsInfo.command, .guests guestsInfo.guests guestsInfo.numOfGuests⟩])
  else (cs, -1, [])

/-- `strncmp(own, name, strlen(own)) == 0`. -/
def nameMatches (own name : String) : Bool := own.toList.isPrefixOf name.toList

/-- The guest is addressed by its name (`role` 0), or is started and addressed by its role. -/
def lifecycleSelects (role : Bool) (name : String) (cc : ContainerConfig) : Bool :=
  if role then cc.runtimeStat.status = .started ∧ nameMatches cc.role name
  else nameMatches cc.name name

/-- The loop of the lifecycle commands: `act` is applied to every guest that is addressed, and the
command is accepted when `act` returned 0 for one of them. -/
def lifecycleGuests (act : Fin n → ContainerConfig → ContainerConfig × ℤ) (name : String)
    (role : Bool) (cs : Containers n) : Containers n × ℤ :=
  Loop.forEach (fun s i =>
    let cc := s.1.containers i
    if lifecycleSelects role name cc then
      let r := act i cc
      (s.1.setGuest i r.1, if r.2 = 0 then 0 else s.2)
    else s) (cs, -1)

/-- `container_external_interface_force_reboot_guest`. -/
def containerExternalInterfaceForceRebootGuest (sys : CommandSys n) (name : String) (role : Bool)
    (cs : Containers n) : Containers n × ℤ :=
  lifecycleGuests (fun i cc => (lxcutilContainerForcekill (sys.request i).initPid cc, 0))
    name role cs

/-- `container_external_interface_reboot_guest`. -/
def containerExternalInterfaceRebootGuest (sys : CommandSys n) (name : String) (role : Bool)
    (cs : Containers n) : Containers n × ℤ :=
  lifecycleGuests (fun i cc => containerRequestReboot (sys.request i) cc cs.sysState) name role cs

/-- `container_external_interface_shutdown_guest`. -/
def containerExternalInterfaceShutdownGuest (sys : CommandSys n) (name : String) (role : Bool)
    (cs : Containers n) : Containers n × ℤ :=
  lifecycleGuests (fun i cc => containerRequestShutdown (sys.request i) cc cs.sysState) name role cs

/-- The operation of a lifecycle command: what it leaves, and 0 when it was accepted. -/
def lifecycleCommand (sys : CommandSys n) (cs : Containers n) (p : ExtifPacket) (role : Bool) :
    Containers n × ℤ :=
  if p.subcommand = 3 then containerExternalInterfaceForceRebootGuest sys p.guestName role cs
  else if p.subcommand = 2 then containerExternalInterfaceRebootGuest sys p.guestName role cs
  else if p.subcommand = 1 then containerExternalInterfaceShutdownGuest sys p.guestName role cs
  else (cs, -1)

/-- The field `response` that a lifecycle command computes: accept, no name, or error for an unknown
subcommand. -/
def lifecycleResponse (subcommand : ℕ) (ret : ℤ) : ℤ :=
  if subcommand = 3 ∨ subcommand = 2 ∨ subcommand = 1 then if ret ≠ 0 then -1 else 0 else -100

/-- `container_external_interface_command_lifecycle`. Only an accepted command is answered. -/
def containerExternalInterfaceCommandLifecycle (sys : CommandSys n) (cs : Containers n)
    (p : ExtifPacket) (role : Bool) : CommandResult n :=
  if 136 ≤ p.size then
    let r := lifecycleCommand sys cs p role
    if r.2 = 0 then (r.1, if sys.write then 0 else -1, [⟨0xa2000, .response 0⟩])
    else (r.1, -1, [])
  else (cs, -1, [])

/-- `container_external_interface_command_change`. It returns -1 in every case. -/
def containerExternalInterfaceCommandChange (cs : Containers n) (p : ExtifPacket) :
    CommandResult n :=
  if 132 ≤ p.size then
    match (List.finRange n).find? fun i => (cs.containers i).name = p.guestName with
    | some i =>
      let r := changeRoleList cs.containers p.guestName (cs.containers i).role cs.roleList
      ({ cs with roleList := r.1 }, -1, [⟨0xa3000, .response (if r.2 then 0 else -100)⟩])
    | none => (cs, -1, [⟨0xa3000, .response (-1)⟩])
  else (cs, -1, [])

/-- The device option of the test command. -/
def cstrOptionDevice : String := "device=/dev/mmcblk1p7"

/-- The guest the test command works on, unless it is the first one. -/
def testTarget (cs : Containers n) : Option (Fin n) :=
  ((List.finRange n).find? fun i => (cs.containers i).name = "agl-momi-ivi-demo").filter
    fun i => 0 < i.val

/-- The test command queues a worker on a guest. -/
def testScheduleGuest (sys : PluginSys) (key : String) (cc : ContainerConfig) :
    ContainerConfig × ℤ :=
  let r := containerWorkqueueSchedule sys cc.workqueue key cstrOptionDevice 1
  let cc' := { cc with workqueue := r.1 }
  (if r.2 = 0 then cc'.record .scheduled else cc', r.2)

/-- The test command queues a worker on its target: the state, the return value and the response. -/
def testSchedule (sys : CommandSys n) (cs : Containers n) (key : String) : Containers n × ℤ × ℤ :=
  match testTarget cs with
  | none => (cs, -1, 0)
  | some i =>
    let r := testScheduleGuest sys.plugin key (cs.containers i)
    (cs.setGuest i r.1, r.2, if r.2 = 0 then 0 else -1)

/-- `container_external_interface_command_test`. The header of its response is zero. -/
def containerExternalInterfaceCommandTest (sys : CommandSys n) (cs : Containers n)
    (p : ExtifPacket) : CommandResult n :=
  if 8 ≤ p.size then
    let r : Containers n × ℤ × ℤ :=
      if p.code = 0 then testSchedule sys cs "fsck"
      else if p.code = 1 then testSchedule sys cs "erase"
      else if p.code = 2 then
        match testTarget cs with
        | none => (cs, -1, -1)
        | some i =>
          let stat := (cs.containers i).runtimeStat
          if stat.status = .started ∧ stat.lxc.isSome ∧ sys.mount then (cs, 0, 0) else (cs, -1, -1)
      else (cs, -1, -1)
    if r.2.1 = 0 then (r.1, if sys.write then 0 else -1, [⟨0, .response r.2.2⟩])
    else (r.1, -1, [])
  else (cs, -1, [])

/-- `container_external_interface_exec`. -/
def containerExternalInterfaceExec (sys : CommandSys n) (cs : Containers n) (p : ExtifPacket) :
    CommandResult n :=
  if p.size < 4 then (cs, -1, [])
  else if p.command = 0x1000 then containerExternalInterfaceCommandGet sys cs p
  else if p.command = 0x2000 then containerExternalInterfaceCommandLifecycle sys cs p false
  else if p.command = 0x2001 then containerExternalInterfaceCommandLifecycle sys cs p true
  else if p.command = 0x3000 then containerExternalInterfaceCommandChange cs p
  else if p.command = 0xf000 then containerExternalInterfaceCommandTest sys cs p
  else (cs, -1, [])

/-! ### Network interface messages -/

inductive LinkMessageType where
  | newlink
  | dellink
  | other
deriving DecidableEq, Repr

/-- A message of the RTNL netlink socket: its type, the interface index, and the name it carries. -/
structure LinkMessage where
  type : LinkMessageType
  ifindex : ℤ
  ifname : Option String
deriving DecidableEq, Repr

/-- An attribute of a link message: its type, whether it is valid as a string, and its text. -/
structure LinkAttr where
  type : ℕ
  valid : Bool
  str : String
deriving DecidableEq, Repr

/-- A link message as it is received. -/
structure RtnlMessage where
  type : LinkMessageType
  ifindex : ℤ
  attrs : List LinkAttr
deriving DecidableEq, Repr

/-- `IFLA_IFNAME`. -/
def iflaIfname : ℕ := 3

/-- `sdutil_get_ifname`, into a buffer of this size. It looks at the first `IFLA_IFNAME` only. -/
def sdutilGetIfname (attrs : List LinkAttr) (size : ℕ) : Option String :=
  match attrs.find? fun attr => attr.type = iflaIfname with
  | none => none
  | some attr => if attr.valid then some (CString.clip (size - 1) attr.str) else none

/-- What `data_cb` reads of a message, into a buffer of `IFNAMSIZ + 1` bytes. -/
def RtnlMessage.read (m : RtnlMessage) : LinkMessage :=
  ⟨m.type, m.ifindex, sdutilGetIfname m.attrs (16 + 1)⟩

/-- `net_if_blacklist`. -/
def netIfBlacklist : List String := ["veth", "lxcbr"]

/-- `data_cb`: the interface list after a message, and whether an update is notified. -/
def dataCb (m : LinkMessage) (nllist : List NetworkInterfaceInfo) :
    List NetworkInterfaceInfo × Bool :=
  match m.ifname with
  | none => (nllist, false)
  | some ifname =>
    if netIfBlacklist.any fun b => nameMatches b ifname then (nllist, false)
    else
      let others := nllist.filter fun nfi => nfi.ifindex ≠ m.ifindex
      match m.type with
      | .newlink => (⟨m.ifindex, ifname⟩ :: others, true)
      | .dellink => (others, true)
      | .other => (nllist, false)

end ContainerManager
