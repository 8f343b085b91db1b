import ContainerManager.Lib.CString
import ContainerManager.Lib.FileTree

/-!
# Utility functions

Functions of `cm-utils.c` that work on files and processes: the creation of the directories of a
path, and the wait for a child process.
-/

namespace ContainerManager

/-! ### Directories -/

/-- `PATH_MAX`. -/
def pathMax : ℕ := 4096

/-- `'/'`. -/
def pathSeparator : UInt8 := 47

/-- A leaf as it is asked for: `st_mode`, and the device number. -/
structure DeviceNode where
  mode : ℤ
  devnum : ℤ × ℤ
deriving DecidableEq, Repr

abbrev Files := FileTree (List UInt8) DeviceNode

/-- The names of a path. `.` and `..` are names like any other: no path is taken to have them. -/
def pathNames (path : CString) : List (List UInt8) := Path.components pathSeparator path.bytes

/-- The loop of `mkdir_p` over these indexes: the files, and the return value. `fails` is why
`mkdir` may fail apart from the files themselves. -/
def mkdirPLoop (fails : ℕ → Bool) (dir : CString) (files : Files) : List ℕ → Files × ℤ
  | [] => (files, 0)
  | i :: rest =>
    if dir.bytes[i]? = some pathSeparator then
      let r := files.create (fails i) (pathNames (dir.take i)) .directory
      if r.2 = some .other then (r.1, -1) else mkdirPLoop fails dir r.1 rest
    else mkdirPLoop fails dir files rest

/-- `mkdir_p`. -/
def mkdirP (fails : ℕ → Bool) (dir : CString) (files : Files) : Files × ℤ :=
  let len := min dir.length (pathMax - 1)
  mkdirPLoop fails dir files (List.range' 1 (len - 1))

/-! ### Child processes -/

/-- How a child process ended, as `waitpid` tells. -/
inductive ChildEnd where
  | exited (status : ℤ)
  | signaled
deriving DecidableEq, Repr

/-- The end of a child that exits with `EXIT_FAILURE` when its result is negative. -/
def ChildEnd.ofResult (killed : Bool) (ret : ℤ) : ChildEnd :=
  if killed then .signaled else .exited (if ret < 0 then 1 else 0)

/-- `wait_child_pid`, of a child of this process that was not waited for before. -/
def waitChildPid : ChildEnd → ℤ
  | .signaled => -1
  | .exited status => if status = 0 then 0 else -2

/-- A child whose result is negative is not taken for a success. -/
lemma waitChildPid_ofResult_neg (killed : Bool) {ret : ℤ} (h : ret < 0) :
    waitChildPid (.ofResult killed ret) < 0 := by
  cases killed <;> simp [ChildEnd.ofResult, waitChildPid, h]

end ContainerManager
