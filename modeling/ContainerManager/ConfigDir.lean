import ContainerManager.Lib.Buffer
import ContainerManager.Parser.Container
import ContainerManager.Parser.Manager
import ContainerManager.Workqueue

/-!
# The directory of the guest configs

The part of `container-config.c` that makes the guests from their config files. The path of a file
is put together in a buffer: the directory stands at its start with a slash behind it, and the name
of each entry is copied behind them.
-/

namespace ContainerManager

/-- `GUEST_CONTAINER_LIMIT`. -/
def guestContainerLimit : ℕ := 8

/-- What the creation of the guests meets: the document of the manager's config, the entries of the
directory when it can be opened, the document that is read from a path, the set-up of the mutexes,
the order the guests are sorted into, and the allocation of the result. -/
structure ConfigSys where
  manager : Option CJson
  entries : Option (List CString)
  files : CString → Option CJson
  mutexInit : ℕ → ℤ
  qsort : List ContainerConfig → List ContainerConfig
  malloc : Bool

/-- The buffer with the directory, the length of the directory and its slash, and the size that
remains. Where the size wraps in the source it is negative. -/
structure PathPrefix where
  buf : Buffer 1024
  slen : ℕ
  buflen : ℤ

/-- The path of the directory is copied, and a slash is added if it has none at its end. -/
def pathPrefix (confdir : CString) : Option PathPrefix :=
  let buflen : ℤ := 1024 - 1
  let buf := (Buffer.zero : Buffer 1024).strncpy 0 confdir buflen
  let slen := buf.text.length
  if slen = 0 then none
  else if buf.mem (slen - 1) = 47 then some ⟨buf, slen, buflen - slen⟩
  else some ⟨buf.put slen 47, slen + 1, buflen - (slen + 1 : ℕ)⟩

/-- The name of an entry is copied behind the directory. -/
def PathPrefix.entryBuf (p : PathPrefix) (buf : Buffer 1024) (name : CString) : Buffer 1024 :=
  ((buf.put p.slen 0).put (1024 - 1) 0).strncpy p.slen name p.buflen

/-- A path that was given to `cmparser_create_from_file`, with the name of its entry. -/
structure OpenedPath where
  entry : CString
  path : CString
deriving DecidableEq

/-- The variables of the loop over the directory. -/
structure ConfigScan where
  buf : Buffer 1024
  ca : List ContainerConfig := []
  /-- history: the paths so far, oldest first. -/
  opened : List OpenedPath := []

/-- `strstr(d_name, ".json") != NULL`. -/
def IsJsonName (name : CString) : Prop := name.Contains (.ofString ".json")

instance (name : CString) : Decidable (IsJsonName name) := inferInstanceAs (Decidable (_ <:+: _))

section Scan

variable (sys : ConfigSys) (p : PathPrefix)

/-- One entry of the directory. -/
def scanEntry (s : ConfigScan) (name : CString) : ConfigScan :=
  if IsJsonName name then
    let buf := p.entryBuf s.buf name
    let s := { s with buf := buf, opened := s.opened ++ [⟨name, buf.text⟩] }
    match (sys.files buf.text).bind fun json => (cmparserCreateFromFile json).1 with
    | none => s
    | some cc =>
      let cc := { cc with workqueue :=
        (containerWorkqueueInitialize (sys.mutexInit s.ca.length)).1 }
      { s with ca := s.ca ++ [cc.setStatus .disable] }
  else s

/-- The loop over the entries, which is left when an entry is met after the last guest that there is
room for. -/
def scanEntries : List CString → ConfigScan → ConfigScan
  | [], s => s
  | name :: names, s =>
    if s.ca.length < guestContainerLimit then scanEntries names (scanEntry sys p s name) else s

end Scan

/-- The scan of the directory. -/
def scanConfigDir (sys : ConfigSys) (confdir : CString) : Option (PathPrefix × ConfigScan) :=
  (pathPrefix confdir).map fun p => (p, scanEntries sys p (sys.entries.getD []) ⟨p.buf, [], []⟩)

/-- `create_container_configs`: the manager's config, and the guests in the order of their boot
priority. -/
def createContainerConfigs (sys : ConfigSys) :
    Option (ContainerManagerConfig × List ContainerConfig) :=
  match sys.manager.bind fun json => (cmparserManagerCreateFromFile json).1 with
  | none => none
  | some cm =>
    match scanConfigDir sys (.ofString cm.configdir) with
    | none => none
    | some (_, s) => if s.ca.length = 0 ∨ ¬ sys.malloc then none else some (cm, sys.qsort s.ca)

end ContainerManager
