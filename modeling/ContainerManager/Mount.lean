import Mathlib.Algebra.Order.Ring.Int
import Mathlib.Tactic.Common

/-!
# Disk mount utilities

The mount procedures of `cm-utils.c`. The results of the system calls are inputs. Each procedure
returns its C return value together with the system calls it made, oldest first.
-/

namespace ContainerManager

/-- How a mount or unmount system call ends: without error, with `errno == EBUSY`, or with any other
`errno`. -/
inductive SysResult where
  | ok
  | ebusy
  | error
deriving DecidableEq, Repr

/-- The `MS_*` mount flags the manager uses. -/
inductive MountFlag where
  | dirsync
  | noatime
  | nodev
  | noexec
  | synchronous
  | rdonly
  | bind
  | remount
deriving DecidableEq, Repr

/-- A system call on a mount point, with its result. `umount2` is always called with
`MNT_DETACH`. -/
inductive MountCall where
  | mount (source target fstype : Option String) (mountflags : List MountFlag)
      (data : Option String) (result : SysResult)
  | umount (target : Option String) (result : SysResult)
  | umount2 (target : Option String) (result : SysResult)
deriving DecidableEq, Repr

/-- The results of the calls made for one device: the first `mount`, and after `EBUSY` the `umount2`
and the second `mount`. -/
structure MountSys where
  mount : SysResult
  umount2 : SysResult
  remount : SysResult
deriving DecidableEq, Repr

/-- The two block devices of a disk: `char *blockdev[2]`. -/
abbrev BlockDev := Option String × Option String

/-- What a disk is mounted with: the arguments the three mount procedures share. -/
structure MountArgs where
  path : Option String
  fstype : Option String
  mntflag : List MountFlag
  option : Option String
deriving DecidableEq, Repr

/-- One attempt at one device. When the path is busy, it is detached and mounted again. -/
def mountDevice (sys : MountSys) (dev : Option String) (a : MountArgs) : Bool × List MountCall :=
  let mnt := MountCall.mount dev a.path a.fstype a.mntflag a.option
  match sys.mount with
  | .ok => (true, [mnt .ok])
  | .error => (false, [mnt .error])
  | .ebusy =>
    match sys.umount2 with
    | .ok => (sys.remount = .ok, [mnt .ebusy, .umount2 a.path .ok, mnt sys.remount])
    | r => (false, [mnt .ebusy, .umount2 a.path r])

/-- `mount_disk_failover`: the primary device, then the secondary one. -/
def mountDiskFailover (sys : ℕ → MountSys) (devs : BlockDev) (a : MountArgs) :
    ℤ × List MountCall :=
  let first := mountDevice (sys 0) devs.1 a
  if first.1 then (0, first.2)
  else
    let second := mountDevice (sys 1) devs.2 a
    (if second.1 then 1 else -1, first.2 ++ second.2)

/-- `mount_disk_ab`: only the device of the given side. -/
def mountDiskAb (sys : ℕ → MountSys) (devs : BlockDev) (a : MountArgs) (side : ℤ) :
    ℤ × List MountCall :=
  if side < 0 ∨ 2 ≤ side then (-3, [])
  else
    let r := mountDevice (sys 0) (if side = 0 then devs.1 else devs.2) a
    (if r.1 then 0 else -1, r.2)

/-- `mount_disk_once`: only the primary device. -/
def mountDiskOnce (sys : ℕ → MountSys) (devs : BlockDev) (a : MountArgs) : ℤ × List MountCall :=
  let r := mountDevice (sys 0) devs.1 a
  (if r.1 then 0 else -1, r.2)

/-- `mount_disk_bind`: a bind mount, remounted read only on request. `sys.remount` is the result of
the remount and `sys.umount2` that of the `umount` after it failed. -/
def mountDiskBind (sys : MountSys) (srcPath destPath : Option String) (isReadOnly : Bool) :
    ℤ × List MountCall :=
  let mnt := MountCall.mount srcPath destPath none [.bind] none
  if sys.mount ≠ .ok then (-1, [mnt sys.mount])
  else if isReadOnly then
    let again := MountCall.mount destPath destPath none [.remount, .bind, .rdonly] none
    if sys.remount ≠ .ok then (-1, [mnt .ok, again sys.remount, .umount destPath sys.umount2])
    else (0, [mnt .ok, again .ok])
  else (0, [mnt .ok])

/-- The results of the calls `unmount_disk` makes, by retry: `umount`, the clock read after `EBUSY`,
and the final `umount2`. -/
structure UnmountSys where
  umount : ℕ → SysResult
  now : ℕ → ℤ
  umount2 : SysResult

/-- The retry loop of `unmount_disk` from the retry `count`, with `left` retries left: whether the
unmount was completed. -/
def unmountRetry (sys : UnmountSys) (path : Option String) (timeoutAt : ℤ) (count : ℕ) :
    ℕ → Bool × List MountCall
  | 0 => (false, [])
  | left + 1 =>
    let call := MountCall.umount path (sys.umount count)
    match sys.umount count with
    | .ok => (true, [call])
    -- not mounted at the mount point
    | .error => (true, [call])
    | .ebusy =>
      if timeoutAt < sys.now count then (false, [call])
      else
        let r := unmountRetry sys path timeoutAt (count + 1) left
        (r.1, call :: r.2)

/-- `unmount_disk`: retries while busy, then a lazy unmount. -/
def unmountDisk (sys : UnmountSys) (path : Option String) (timeoutAt : ℤ) (retryMax : ℕ) :
    ℤ × List MountCall :=
  let r := unmountRetry sys path timeoutAt 0 retryMax
  (0, if r.1 then r.2 else r.2 ++ [.umount2 path sys.umount2])

end ContainerManager
