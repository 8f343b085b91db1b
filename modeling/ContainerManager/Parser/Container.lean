import ContainerManager.Data
import ContainerManager.Parser.CJson

/-!
# Container config parser

The parts of `parser-container.c` that fill the modelled fields of a guest. Allocations succeed. The
config starts as zeroed memory, and a parser that gives up leaves in it what it has set so far.
-/

namespace ContainerManager

/-! ### The base section -/

/-- `cmparser_parser_get_diskmountmode`. -/
def cmparserParserGetDiskmountmode (str : String) : DiskMountType :=
  if str = "ro" then .ro else if str = "rw" then .rw else .ro

/-- `cmparser_parser_get_diskmountfailop`. -/
def cmparserParserGetDiskmountfailop (str : String) : DiskRedundancyType :=
  if str = "failover" then .failover
  else if str = "ab" then .ab
  else if str = "fsck" then .fsck
  else if str = "mkfs" then .mkfs
  else .failover

/-- The error exit of `cmparser_parse_base_rootfs`. -/
def rootfsErrRet (r : RootFs) : RootFs :=
  { r with path := none, filesystem := none, option := none, rootfsDev := (none, none) }

/-- `cmparser_parse_base_rootfs`. -/
def cmparserParseBaseRootfs (r : RootFs) (rootfs : CJson) : RootFs × ℤ :=
  match rootfs.getString "path" with
  | none => (rootfsErrRet r, -2)
  | some path =>
    let r := { r with
      path := some path
      filesystem := rootfs.getString "filesystem"
      mode := ((rootfs.getString "mode").map cmparserParserGetDiskmountmode).getD .ro
      option := rootfs.getString "option" }
    match rootfs.getArray "blockdev" with
    | some blockdev =>
      if r.filesystem.isNone then (rootfsErrRet r, -2)
      else
        let r := { r with deviceType := .block, rootfsDev := CJson.firstTwo blockdev }
        if r.rootfsDev.1.isNone then (rootfsErrRet r, -2) else (r, 0)
    | none =>
      match rootfs.getArray "hostpath" with
      | some hostpath =>
        let r := { r with
          deviceType := .hostRootfilesystem
          rootfsDev := CJson.firstTwo hostpath }
        if r.rootfsDev.1.isNone then (rootfsErrRet r, -2) else (r, 0)
      | none => (rootfsErrRet r, -2)

/-- One entry of `extradisk`; an entry without a mandatory value is dropped. -/
def parseExtradiskEntry (disk : CJson) : Option ExtraDisk :=
  match disk.getString "from", disk.getString "to",
      (disk.getArray "blockdev").bind fun blockdev => CJson.string? blockdev[0]? with
  | some mountFrom, some mountTo, some bdev => some {
      mountFrom := mountFrom
      mountTo := mountTo
      filesystem := disk.getString "filesystem"
      mode := ((disk.getString "mode").map cmparserParserGetDiskmountmode).getD .ro
      option := disk.getString "option"
      redundancy :=
        ((disk.getString "redundancy").map cmparserParserGetDiskmountfailop).getD .failover
      blockdev :=
        (bdev, (disk.getArray "blockdev").bind fun blockdev => CJson.string? blockdev[1]?) }
  | _, _, _ => none

/-- `cmparser_parse_base_extradisk`. Its result is only set to 0 when an entry is added. -/
def cmparserParseBaseExtradisk (bc : BaseConfig) (extradisk : List CJson) : BaseConfig × ℤ :=
  let disks := extradisk.filterMap parseExtradiskEntry
  ({ bc with extradiskList := bc.extradiskList ++ disks }, if disks = [] then -1 else 0)

/-- `cmparser_parse_base_extended`. -/
def cmparserParseBaseExtended (bc : BaseConfig) (extended : Option CJson) : BaseConfig × ℤ :=
  ({ bc with shmounts := extended.bind fun e => e.getString "shmounts" }, 0)

/-- The lifecycle part of `cmparser_parse_base`, for an object. -/
def parseLifecycle (l : Lifecycle) (lifecycle : CJson) : Lifecycle where
  halt := (lifecycle.getString "halt").or l.halt
  reboot := (lifecycle.getString "reboot").or l.reboot
  timeout := ((lifecycle.getNumber "timeout").filter fun timeout => 0 < timeout).getD 10000

/-- `cmparser_parse_basesub_idmap`. -/
def cmparserParseBasesubIdmap (map : IdMap) (idmap : Option CJson) : IdMap × Bool :=
  match CJson.object? idmap with
  | none => (map, true)
  | some idmap =>
    ({ guestRootId := (idmap.getNumber "guestroot").getD map.guestRootId
       hostStartId := (idmap.getNumber "hostidstart").getD map.hostStartId
       numOfId := (idmap.getNumber "num").getD map.numOfId },
      (idmap.getNumber "guestroot").isSome ∧ (idmap.getNumber "hostidstart").isSome ∧
        (idmap.getNumber "num").isSome)

/-- The idmap part of `cmparser_parse_base`. Both maps are parsed when `uid` is an object. -/
def parseIdmaps (maps : IdMaps) (idmap : Option CJson) : IdMaps :=
  match CJson.object? idmap with
  | none => { maps with enabled := false }
  | some idmap =>
    match idmap.getObject "uid" with
    | none => { maps with enabled := false }
    | some uid =>
      let u := cmparserParseBasesubIdmap maps.uid (some uid)
      let g := cmparserParseBasesubIdmap maps.gid (idmap.getObjectItemCaseSensitive "gid")
      { enabled := u.2 ∧ g.2, uid := u.1, gid := g.1 }

/-- The part of `cmparser_parse_base` behind the sections that can fail. -/
def parseBaseRest (bc : BaseConfig) (base : CJson) : BaseConfig :=
  let lifecycle :=
    match base.getObject "lifecycle" with
    | some lifecycle => parseLifecycle bc.lifecycle lifecycle
    | none => bc.lifecycle
  let cap := base.getObject "cap"
  let tty := base.getObject "tty"
  let positive (name : String) : Option ℤ :=
    (tty.bind fun t => t.getNumber name).filter fun k => 0 < k
  { bc with
    lifecycle := { lifecycle with
      halt := lifecycle.halt.or (some "SIGTERM")
      reboot := lifecycle.reboot.or (some "SIGTERM") }
    cap := { drop := (cap.bind fun c => c.getString "drop").or bc.cap.drop
             keep := (cap.bind fun c => c.getString "keep").or bc.cap.keep }
    tty := { ttyMax := (positive "tty").getD 1, ptyMax := (positive "pty").getD 1 }
    idmaps := parseIdmaps bc.idmaps (base.getObjectItemCaseSensitive "idmap")
    envlist := bc.envlist ++ ((base.getArray "environment").getD []).filterMap fun env =>
      CJson.string? (some env) }

/-- The rootfs part of `cmparser_parse_base`. -/
def parseBaseRootfs (bc : BaseConfig) (base : CJson) : BaseConfig × ℤ :=
  match base.getObject "rootfs" with
  | none => (bc, -2)
  | some rootfs =>
    let r := cmparserParseBaseRootfs bc.rootfs rootfs
    ({ bc with rootfs := r.1 }, r.2)

/-- The extradisk part of `cmparser_parse_base`. -/
def parseBaseExtradisk (bc : BaseConfig) (base : CJson) : BaseConfig × ℤ :=
  match base.getArray "extradisk" with
  | some extradisk => cmparserParseBaseExtradisk bc extradisk
  | none => (bc, 0)

/-- A section that fails ends the parser. -/
def parseThen (r : BaseConfig × ℤ) (next : BaseConfig → BaseConfig × ℤ) : BaseConfig × ℤ :=
  if r.2 ≠ 0 then r else next r.1

/-- `cmparser_parse_base`. -/
def cmparserParseBase (bc : BaseConfig) (base : CJson) : BaseConfig × ℤ :=
  let bc := { bc with
    autoboot := CJson.isTrue (base.getObjectItemCaseSensitive "autoboot")
    bootpriority := (base.getNumber "bootpriority").getD 1000 }
  parseThen (parseBaseRootfs bc base) fun bc =>
    parseThen (parseBaseExtradisk bc base) fun bc =>
      parseThen (cmparserParseBaseExtended bc (base.getObject "extended")) fun bc =>
        (parseBaseRest bc base, 0)

/-! ### The other sections -/

/-- `cmparser_parser_get_fstype`; `none` is an unknown type. -/
def cmparserParserGetFstype (str : String) : Option FsMountType :=
  if str = "filesystem" then some .filesystem
  else if str = "directory" then some .directory
  else if str = "delayed" then some .delayed
  else none

/-- One entry of the `mount` array of `cmparser_parse_fs`; an incomplete entry is dropped. -/
def parseFsMount (fc : FsConfig) (elem : CJson) : FsConfig :=
  match (elem.getString "type").bind cmparserParserGetFstype, elem.getString "from",
      elem.getString "to" with
  | some .delayed, some mountFrom, some mountTo =>
    { fc with delayed := { fc.delayed with
        initialList := fc.delayed.initialList ++
          [⟨.delayed, mountFrom, mountTo, fc.delayed.initialList.length⟩] } }
  | some type, some mountFrom, some mountTo =>
    match elem.getString "fstype", elem.getString "option" with
    | some fstype, some option =>
      { fc with mountlist := fc.mountlist ++ [⟨type, mountFrom, mountTo, fstype, option⟩] }
    | _, _ => fc
  | _, _, _ => fc

/-- `cmparser_parse_fs`. -/
def cmparserParseFs (fc : FsConfig) (fs : CJson) : FsConfig × ℤ :=
  (((fs.getArray "mount").getD []).foldl parseFsMount fc, 0)

/-- `cmparser_parse_dynamic_netif`. -/
def cmparserParseDynamicNetif (l : List DynamicNetifElem) (dni : List CJson) :
    List DynamicNetifElem × ℤ :=
  (l ++ dni.filterMap fun elem => (elem.getString "ifname").map fun ifname => { ifname := ifname },
    0)

/-- The dynamic part of `cmparser_parse_netif`. -/
def cmparserParseNetif (l : List DynamicNetifElem) (nif : CJson) : List DynamicNetifElem × ℤ :=
  match nif.getArray "dynamic" with
  | some dni => ((cmparserParseDynamicNetif l dni).1, 0)
  | none => (l, 0)

/-! ### The config -/

/-- `cmparser_create_from_file`, on the document in the file: the config, when the file is accepted,
and the return value. Whether the sections could be parsed is not looked at. -/
def cmparserCreateFromFile (json : CJson) : Option ContainerConfig × ℤ :=
  match json.getString "name" with
  | none => (none, -2)
  | some name =>
    let role := (json.getString "role").getD name
    match json.getObject "base" with
    | none => (none, -2)
    | some base =>
      let bc := (cmparserParseBase {} base).1
      match json.getObject "fs" with
      | none => (none, -2)
      | some fs =>
        let fc := (cmparserParseFs {} fs).1
        if (json.getObject "device").isNone then (none, -2)
        else
          let netifs := match json.getObject "network" with
            | some network => (cmparserParseNetif [] network).1
            | none => []
          (some {
            name := name
            role := role
            baseconfig := bc
            fsconfig := fc
            dynamicNetiflist := netifs }, 0)

end ContainerManager
