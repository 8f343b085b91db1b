import ContainerManager.Devices.Injection
import ContainerManager.Lib.BlockDevice

/-!
# The erase and mkfs plugin

`cm_worker_exec` of `erase-mkfs-plugin.c`: it waits until the device is unmounted, writes zeros to
it and makes a file system on it. A cancel request can be seen at every look at the flag.
-/

namespace ContainerManager

namespace Plugin.EraseMkfs

/-! ### Waiting for the unmount -/

/-- What the wait meets at each pass: whether the node of the mounted device is there, and whether
a cancel was requested. -/
structure WaitSys where
  nodeCheck : ℕ → Bool
  cancel : ℕ → Bool

/-- `cstr_block_device_test_base`. -/
def cstrBlockDeviceTestBase : CString := .ofString "/sys/fs/ext4/"

/-- The loop of `cm_worker_wait_unmount`, with the retries that are left. -/
def waitUnmountLoop (sys : WaitSys) : ℕ → ℕ → ℤ
  | 0, _ => -1
  | retryCount + 1, pass =>
    if ¬ sys.nodeCheck pass then 0
    else if sys.cancel pass then -1
    else waitUnmountLoop sys retryCount (pass + 1)

/-- `cm_worker_wait_unmount`. The path has to fit into `PATH_MAX - 1` bytes. -/
def cmWorkerWaitUnmount (sys : WaitSys) (blkdevPath : CString) : ℤ :=
  match trimmedDevname blkdevPath with
  | none => -1
  | some devname =>
    if 4096 - 1 ≤ (cstrBlockDeviceTestBase ++ devname).length then -1
    else waitUnmountLoop sys (5000 / 100) 0

/-! ### The erase -/

/-- What the erase meets: its buffer, the open of the device, the value of `errno` before the loop,
and at each pass the cancel request and how the write goes. -/
structure EraseSys where
  malloc : Bool
  canOpen : Bool
  errno : ℕ
  cancel : ℕ → Bool
  write : ℕ → BlockDevice.Attempt

/-- `EINTR`. -/
def eintr : ℕ := 4

/-- `ERASE_BUFFER_SIZE`. -/
def eraseBufferSize : ℕ := 8 * 1024 * 1024

/-- Write the buffer of zeros. -/
def eraseWrite (d : BlockDevice) : BlockDevice.Attempt → BlockDevice × BlockDevice.Answer :=
  d.write (fun _ => 0) eraseBufferSize

/-- How the loop was left: by a cancel request, or after a write. -/
inductive EraseExit where
  | canceled
  | stopped (answer : BlockDevice.Answer)

/-- The loop of `cm_worker_exec_erase`. A successful write leaves `errno` as it was, and after one
that failed or stored nothing the loop ends anyway. -/
def eraseLoop (sys : EraseSys) (pass : ℕ) (d : BlockDevice) : BlockDevice × EraseExit :=
  if sys.cancel pass then (d, .canceled)
  else
    let r := eraseWrite d (sys.write pass)
    if h : BlockDevice.Wrote r.2 ∧ sys.errno ≠ eintr then eraseLoop sys (pass + 1) r.1
    else (r.1, .stopped r.2)
termination_by d.size - d.offset
decreasing_by exact d.write_offset_lt _ _ _ h.1

/-- A run of `cm_worker_exec_erase`: the return value, the device, and how the loop was left, if it
was reached. -/
structure EraseRun where
  ret : ℤ
  device : BlockDevice
  exit : Option EraseExit

/-- `cm_worker_exec_erase`, on a device with these contents. -/
def cmWorkerExecErase (sys : EraseSys) (data : List UInt8) : EraseRun :=
  let d := BlockDevice.opened data
  if ¬ sys.malloc then ⟨-1, d, none⟩
  else if ¬ sys.canOpen then ⟨-1, d, none⟩
  else
    match eraseLoop sys 0 d with
    | (d, .canceled) => ⟨1, d, some .canceled⟩
    | (d, .stopped answer) => ⟨0, d, some (.stopped answer)⟩

/-! ### The file system -/

/-- How the wait for `mkfs.ext4` ends: it exited or was asked to by a cancel, or `poll` failed. -/
inductive MkfsWait where
  | ended
  | failed
deriving DecidableEq

/-- What `cm_worker_exec_mkfs` meets. -/
structure MkfsSys where
  fork : Bool
  pidfdOpen : Bool
  wait : MkfsWait
  waitid : Bool
  cancel : Bool

/-- `cm_worker_exec_mkfs`. The child process exists as soon as the fork succeeds. -/
def cmWorkerExecMkfs (sys : MkfsSys) : ℤ :=
  if ¬ sys.fork then -1
  else if ¬ sys.pidfdOpen then -1
  else match sys.wait with
    | .failed => -1
    | .ended => if ¬ sys.waitid then -1 else if sys.cancel then 1 else 0

/-- A run of `cm_worker_exec`: the return value, and the device when `mkfs.ext4` was started. -/
structure ExecRun where
  ret : ℤ
  mkfs : Option BlockDevice

/-- `cm_worker_exec`. -/
def cmWorkerExec (wait : WaitSys) (erase : EraseSys) (mkfs : MkfsSys) (blkdevPath : CString)
    (data : List UInt8) : ExecRun :=
  let ret := cmWorkerWaitUnmount wait blkdevPath
  if ret < 0 then ⟨-1, none⟩
  else if ret = 1 then ⟨1, none⟩
  else
    let r := cmWorkerExecErase erase data
    if r.ret < 0 then ⟨-1, none⟩
    else if r.ret = 1 then ⟨1, none⟩
    else
      let started := if mkfs.fork then some r.device else none
      let ret := cmWorkerExecMkfs mkfs
      ⟨if ret < 0 then -1 else if ret = 1 then 1 else 0, started⟩

end Plugin.EraseMkfs

end ContainerManager
