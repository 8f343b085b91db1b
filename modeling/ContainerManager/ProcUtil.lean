import ContainerManager.Data
import ContainerManager.Lib.CString
import ContainerManager.Lib.OpenFile

/-!
# The kernel command line

The functions of `proc-util.c`, and the side of the A/B boot that is taken from the command line. It
is read from `/proc/cmdline` into a buffer that is doubled when it was filled. The buffer is then
cut in place: every token is ended with a NUL, and so is the part before a `=`. The elements of the
argument list point into the buffer.
-/

namespace ContainerManager

/-! ### Reading -/

/-- `COMMAND_LINE_SIZE`, which `asm/setup.h` may define: some positive number, and what is allocated
fits an `int`. -/
structure CommandLineSize where
  value : ℕ
  pos : 0 < value
  fits : value * 8 < 2 ^ 31

/-- The size where `asm/setup.h` has none. -/
def CommandLineSize.workaround : CommandLineSize := ⟨2048, by decide, by decide⟩

/-- What the reading meets: the open, the allocation of each round, and the number of times that the
read of a round is interrupted. -/
structure CmdlineSys where
  canOpen : Bool
  malloc : ℕ → Bool
  interrupts : ℕ → ℕ

/-- The return value, and the buffer with its size when they are set. -/
structure CmdlineRead where
  ret : ℤ
  buf : Option (List UInt8 × ℤ)

/-- The `do` loop around `read`: an interrupted read is called again. -/
def readRetrying (file : OpenFile) (size : ℕ) : ℕ → List UInt8 × OpenFile
  | 0 => file.read size
  | interrupts + 1 => readRetrying file size interrupts

section Reading

variable (sys : CmdlineSys) (bufferSizeMax : ℕ)

/-- The loop of `procutil_get_cmdline`, from this round on. -/
def getCmdlineLoop (round bufferSize : ℕ) (hpos : 0 < bufferSize) (file : OpenFile) :
    CmdlineRead :=
  if bufferSize ≤ bufferSizeMax then
    if sys.malloc round then
      let r := readRetrying file bufferSize (sys.interrupts round)
      if r.1.length < bufferSize then
        { ret := 0
          buf := some (r.1 ++ List.replicate (bufferSize - r.1.length) 0,
            (bufferSize : ℤ).bmod (2 ^ 32)) }
      else getCmdlineLoop (round + 1) (bufferSize * 2) (by omega) r.2
    else ⟨-1, none⟩
  else ⟨0, none⟩
termination_by bufferSizeMax + 1 - bufferSize

end Reading

namespace CommandLineSize

/-- The first `buffer_size`. -/
def bufferSize (size : CommandLineSize) : ℕ := size.value * 2

/-- `buffer_size_max`. -/
def bufferSizeMax (size : CommandLineSize) : ℕ := max (64 * 1024) (size.value * 8)

lemma bufferSize_pos (size : CommandLineSize) : 0 < size.bufferSize :=
  Nat.mul_pos size.pos (by omega)

end CommandLineSize

/-- `procutil_get_cmdline`, with the content of `/proc/cmdline`. -/
def procutilGetCmdline (size : CommandLineSize) (sys : CmdlineSys) (content : List UInt8) :
    CmdlineRead :=
  if sys.canOpen then
    getCmdlineLoop sys size.bufferSizeMax 0 size.bufferSize size.bufferSize_pos ⟨content, 0⟩
  else ⟨-1, none⟩

/-! ### Cutting -/

/-- `procutl_cmdline_elem_t`. The strings are offsets into the buffer. -/
structure CmdlineElem where
  var : ℕ
  value : Option ℕ
deriving DecidableEq

/-- `procutil_t`. A buffer that is `NULL` has no bytes. -/
structure Procutil where
  orgBuf : List UInt8
  argumentList : List CmdlineElem := []

/-- The string at an offset of the buffer. -/
def Procutil.string (pu : Procutil) (offset : ℕ) : CString := .ofBytes (pu.orgBuf.drop offset)

/-- One pass of the loop over a token that begins at `last`: a `=` is overwritten, and the value
begins behind it. -/
def cutPass (last len : ℕ) (s : List UInt8 × Option ℕ) (i : ℕ) : List UInt8 × Option ℕ :=
  if s.1[last + i]? = some 61 then
    (s.1.set (last + i) 0, if i + 1 < len then some (last + i + 1) else s.2)
  else s

/-- The loop over a token. -/
def cutToken (last len : ℕ) (buf : List UInt8) : List UInt8 × Option ℕ :=
  (List.range len).foldl (cutPass last len) (buf, none)

/-- The variables of the loop of `procutil_create_argument_list`. -/
structure ArgumentScan where
  pu : Procutil
  pbufLast : ℕ := 0

/-- The token that begins at `pbuf_last` becomes an element. -/
def ArgumentScan.addToken (s : ArgumentScan) (len : ℕ) : ArgumentScan :=
  let r := cutToken s.pbufLast len s.pu.orgBuf
  { s with pu := ⟨r.1, s.pu.argumentList ++ [⟨s.pbufLast, r.2⟩]⟩ }

/-- The loop of `procutil_create_argument_list`, with the bytes that remain. -/
def argumentLoop (malloc : ℕ → Bool) : ℕ → ℕ → ArgumentScan → ArgumentScan × ℤ
  | 0, _, s => (s, 0)
  | remaining + 1, counter, s =>
    let c := s.pu.orgBuf.getD counter 0
    if c = 32 ∨ c = 10 ∨ c = 0 then
      let s := { s with pu := { s.pu with orgBuf := s.pu.orgBuf.set counter 0 } }
      let len := (s.pu.string s.pbufLast).length
      if 0 < len ∧ ¬ malloc s.pu.argumentList.length then (s, -1)
      else
        let s := if 0 < len then s.addToken len else s
        if c = 10 ∨ c = 0 then (s, 0)
        else argumentLoop malloc remaining (counter + 1) { s with pbufLast := counter + 1 }
    else argumentLoop malloc remaining (counter + 1) s

/-- `procutil_create_argument_list`. -/
def procutilCreateArgumentList (malloc : ℕ → Bool) (pu : Procutil) (bufSize : ℕ) : Procutil × ℤ :=
  let r := argumentLoop malloc bufSize 0 { pu := pu }
  (r.1.pu, r.2)

/-- What the creation meets: the allocation of the object, the reading and the allocations of the
elements. -/
structure ProcutilSys where
  malloc : Bool
  cmdline : CmdlineSys
  mallocElem : ℕ → Bool

/-- `procutil_create`: the object, and the return value. -/
def procutilCreate (size : CommandLineSize) (sys : ProcutilSys) (content : List UInt8) :
    Option Procutil × ℤ :=
  if sys.malloc then
    let r := procutilGetCmdline size sys.cmdline content
    if r.ret < 0 then (none, -1)
    else
      let buf := r.buf.getD ([], 0)
      let r := procutilCreateArgumentList sys.mallocElem ⟨buf.1, []⟩ buf.2.toNat
      if r.2 < 0 then (none, -1) else (some r.1, 0)
  else (none, -1)

/-! ### Values -/

/-- `ERANGE`. -/
def erange : ℕ := 34

/-- `errno` after `strtol`. -/
def strtolErrno (errno : ℕ) (s : CString) : ℕ :=
  match s.number with
  | none => errno
  | some k => if k < -2 ^ 63 ∨ 2 ^ 63 - 1 < k then erange else errno

/-- The conversion of a value: the result, and what is stored. `errno` is not set before `strtol` is
called. -/
def convertInt64 (errno : ℕ) (value : CString) : ℤ × Option ℤ :=
  match value.strtol with
  | none => (-1, none)
  | some v =>
    if (2 ^ 63 - 1 ≤ v ∨ v ≤ -2 ^ 63) ∧ strtolErrno errno value = erange then (-1, none)
    else (0, some v)

/-- The loop of `procutil_get_cmdline_value_int64`. -/
def valueInt64Loop (errno : ℕ) (pu : Procutil) (key : CString) : List CmdlineElem → ℤ × Option ℤ
  | [] => (-3, none)
  | elem :: l =>
    if pu.string elem.var = key then
      match elem.value with
      | some value => convertInt64 errno (pu.string value)
      | none => valueInt64Loop errno pu key l
    else valueInt64Loop errno pu key l

/-- `procutil_get_cmdline_value_int64`. -/
def procutilGetCmdlineValueInt64 (errno : ℕ) (pu : Procutil) (key : CString) : ℤ × Option ℤ :=
  valueInt64Loop errno pu key pu.argumentList

/-- `procutil_test_key_in_cmdline`. -/
def procutilTestKeyInCmdline (pu : Procutil) (key : CString) : ℤ :=
  if pu.argumentList.any fun elem => pu.string elem.var = key then 0 else -1

/-! ### The side of the boot -/

/-- `abboot_cmdline_key`. -/
def abbootCmdlineKey : CString := .ofString "aglabboot"

/-- `container_mngsm_ab_boot_setup`: the guests, and the return value. -/
def containerMngsmAbBootSetup (size : CommandLineSize) (sys : ProcutilSys) (errno : ℕ)
    (content : List UInt8) (containers : List ContainerConfig) : List ContainerConfig × ℤ :=
  match (procutilCreate size sys content).1 with
  | none => (containers, -1)
  | some pu =>
    let r := procutilGetCmdlineValueInt64 errno pu abbootCmdlineKey
    let value := if r.1 < 0 then 0 else r.2.getD 0
    let value := if value ≠ 1 then 0 else value
    (containers.map fun cc =>
      { cc with baseconfig := { cc.baseconfig with abboot := if value ≠ 1 then 0 else 1 } }, 0)

end ContainerManager
