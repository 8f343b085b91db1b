import Mathlib.Logic.Function.Basic
import ContainerManager.Lib.CString

/-!
# Virtual CAN pairs

The setup of a static vxcan interface in `lxc-util-config.c`, with the creation and the removal of
pairs in `socketcan-util.c`. The elements of all guests are the values of a type `ι`. A pair is
known by the name of its host side; the name of the other side differs only in a letter, and both
come from one reading of the clock.
-/

namespace ContainerManager

/-! ### Names -/

/-- A hexadecimal digit. -/
def hexDigit (d : ℕ) : UInt8 := (48 + d + if d < 10 then 0 else 39).toUInt8

lemma hexDigit_ne_zero : ∀ d < 16, hexDigit d ≠ 0 := by decide

/-- `%08x` of a `uint32_t`. -/
def hex8 (v : ℕ) : CString where
  bytes := [7, 6, 5, 4, 3, 2, 1, 0].map fun k => hexDigit (v / 16 ^ k % 16)
  noNul h := by
    obtain ⟨k, -, hk⟩ := List.mem_map.mp h
    exact hexDigit_ne_zero _ (Nat.mod_lt _ (by decide)) hk

/-- The name made from a reading of the clock: the low 32 bits, in `char[IFNAMSIZ]`. -/
def vxcanName (text : String) (msTime : ℤ) : CString :=
  (CString.ofString text ++ hex8 (msTime % 2 ^ 32).toNat).take 15

/-- `peer_host`. -/
def peerHostName (msTime : ℤ) : CString := vxcanName "vxcanh" msTime

/-- `peer_guest`. -/
def peerGuestName (msTime : ℤ) : CString := vxcanName "vxcang" msTime

/-! ### Pairs -/

variable {ι : Type} [DecidableEq ι]

/-- The part of `netif_elem_vxcan_t` that is set at runtime. -/
structure VxcanElem where
  peerHost : Option CString := none
  peerGuest : Option CString := none
deriving DecidableEq

/-- An existing pair. The element it was created for is history. -/
structure VxcanLink (ι : Type) where
  name : CString
  owner : ι
deriving DecidableEq

/-- The elements of all guests, and the existing pairs. -/
structure VxcanState (ι : Type) where
  elems : ι → VxcanElem
  links : List (VxcanLink ι) := []

/-- `socketcanutil_remove_vxcan_peer`; `removed` is how the netlink request goes. -/
def socketcanutilRemoveVxcanPeer (removed : Bool) (ifname : Option CString)
    (links : List (VxcanLink ι)) : List (VxcanLink ι) × ℤ :=
  match ifname with
  | none => (links, -2)
  | some ifname =>
    if links.all fun link => link.name ≠ ifname then (links, -3)
    else if removed then (links.eraseP fun link => link.name = ifname, 0)
    else (links, -1)

/-- `socketcanutil_create_vxcan_peer`. It fails when the name exists; `created` is how the netlink
request goes otherwise. -/
def socketcanutilCreateVxcanPeer (created : Bool) (ifname : CString) (owner : ι)
    (links : List (VxcanLink ι)) : List (VxcanLink ι) × ℤ :=
  if created ∧ links.all fun link => link.name ≠ ifname then (links ++ [⟨ifname, owner⟩], 0)
  else (links, -1)

/-- What one call meets: the removal of the previous pair, the clock, the allocations, the four
`set_config_item`, the creation of the pair, and its removal after an error. -/
structure VxcanSys where
  removed : Bool
  now : ℤ
  malloc : Bool
  configType : Bool
  configName : Bool
  created : Bool
  configLink : Bool
  configFlags : Bool
  errRemoved : Bool
deriving DecidableEq

/-- The error exit: the interface of the recorded name is removed, and the names are forgotten. -/
def vxcanErrRet (sys : VxcanSys) (s : VxcanState ι) (i : ι) (result : ℤ) : VxcanState ι × ℤ :=
  ({ elems := Function.update s.elems i {}
     links :=
       (socketcanutilRemoveVxcanPeer sys.errRemoved (s.elems i).peerHost s.links).1 }, result)

/-- `lxcutil_set_config_static_netif_vxcan`. Bringing the interface up and the gateway rules, whose
results are not looked at, are left out. -/
def lxcutilSetConfigStaticNetifVxcan (sys : VxcanSys) (s : VxcanState ι) (i : ι) :
    VxcanState ι × ℤ :=
  let s : VxcanState ι :=
    { elems := Function.update s.elems i {}
      links := (socketcanutilRemoveVxcanPeer sys.removed (s.elems i).peerHost s.links).1 }
  if ¬ sys.malloc then vxcanErrRet sys s i (-3)
  else
    let vxcan : VxcanElem :=
      { peerHost := some (peerHostName sys.now), peerGuest := some (peerGuestName sys.now) }
    let s := { s with elems := Function.update s.elems i vxcan }
    if ¬ (sys.configType ∧ sys.configName) then vxcanErrRet sys s i (-1)
    else
      let c := socketcanutilCreateVxcanPeer sys.created (peerHostName sys.now) i s.links
      let s := { s with links := c.1 }
      if c.2 < 0 then vxcanErrRet sys s i (-3)
      else if ¬ (sys.configLink ∧ sys.configFlags) then vxcanErrRet sys s i (-1)
      else (s, 0)

/-- What happens to the pairs: a call for an element, or the kernel removes a pair together with the
network namespace its guest side was in. -/
inductive VxcanAction (ι : Type) where
  | call (i : ι) (sys : VxcanSys)
  | vanish (name : CString)

def vxcanStep (s : VxcanState ι) : VxcanAction ι → VxcanState ι
  | .call i sys => (lxcutilSetConfigStaticNetifVxcan sys s i).1
  | .vanish name => { s with links := s.links.filter fun link => link.name ≠ name }

/-- No element has been set up. -/
def VxcanState.initial : VxcanState ι := { elems := fun _ => {} }

end ContainerManager
