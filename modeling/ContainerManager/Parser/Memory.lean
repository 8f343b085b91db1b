import ContainerManager.Lib.Ownership
import ContainerManager.Parser.Device

/-!
# Memory of the container config parser

The functions of `parser-container.c` and `parser-common.c` as programs over a ledger of what they
hold, with the names of the source. Any allocation can fail. What is allocated depends on the values
that the parsers read; the values themselves are in the other modules of the parser.
-/

namespace ContainerManager.Memory

open Ownership

/-- What the parsers hold, by what the pointer points to. -/
inductive Block where
  | fd | jsonstring | json
  | config | string
  | extradisk | env | resource | fsMount | delayedMount
  | staticDevice | staticGpio | staticIio
  | dynamicEntry | dynamicItem | devtype | ruleExtra
  | veth | vxcan | staticNetif | dynamicNetif
deriving DecidableEq, Repr

abbrev Blocks := Multiset (Resource Block)

/-! ### Records -/

/-- A record with the strings that it points to. -/
structure Node where
  self : ℕ
  strings : List (Option ℕ)

/-- A pointer that may be null, as the outcome of a step: without it the loop gives up. -/
def orAbort {β : Type} : Option β → Made β
  | some b => .made b
  | none => .aborted

/-- Without the pointer the entry is passed over. -/
def orSkip {β : Type} : Option β → Made β
  | some b => .made b
  | none => .skipped

/-- Free the strings of a record, and the record. -/
def freeNode (k : Block) (node : Node) : Owning Block Unit := do
  node.strings.forM (releaseOpt .string)
  release k node.self

/-- Free a list of records, from the last one. -/
def freeNodes (k : Block) (nodes : List Node) : Owning Block Unit :=
  nodes.reverse.forM (freeNode k)

section Allocation

-- `mem` tells which of the allocations succeed, in the order in which they are made
variable (mem : ℕ → Bool)

/-- `malloc`. -/
def malloc (k : Block) : Owning Block (Option ℕ) := tryAcquire mem k

/-- `strdup` of a string, if there is one. -/
def strdup (given : Bool) : Owning Block (Option ℕ) :=
  if given then malloc mem .string else pure none

/-- A record with copies of its strings, as far as they are given. -/
def newNode (k : Block) (strings : List Bool) : Owning Block (Option Node) := do
  match ← malloc mem k with
  | none => pure none
  | some self =>
    let strings ← strings.mapM (strdup mem)
    pure (some { self, strings })

/-- The record of an entry that was not dropped. -/
def makeNode (k : Block) (strings : Option (List Bool)) (made : Option Node → Made Node) :
    Owning Block (Made Node) :=
  match strings with
  | none => pure .skipped
  | some strings => made <$> newNode mem k strings

/-- The lists of a section are built from nothing, and freed when an allocation fails. -/
def parseOrFree {β σ : Type} (new : CJson → Owning Block (Made β)) (add : σ → β → σ)
    (free : σ → Owning Block Unit) (empty : σ) (items : List CJson) : Owning Block (σ × ℤ) := do
  let r ← collect new add items empty
  if r.2 then pure (r.1, 0)
  else do
    free r.1
    pure (empty, -3)

end Allocation

/-- To the tail of a list. -/
def addTail {β : Type} (l : List β) (b : β) : List β := l ++ [b]

/-! ### Base section -/

/-- The pointers of `container_baseconfig_rootfs_t`. -/
structure RootfsMem where
  path : Option ℕ := none
  filesystem : Option ℕ := none
  option : Option ℕ := none
  rootfsDev : Option ℕ × Option ℕ := (none, none)

/-- The pointers of `container_baseconfig_t`. -/
structure BaseMem where
  rootfs : RootfsMem := {}
  extradiskList : List Node := []
  shmounts : Option ℕ := none
  halt : Option ℕ := none
  reboot : Option ℕ := none
  drop : Option ℕ := none
  keep : Option ℕ := none
  envlist : List Node := []

/-- The strings of `container_baseconfig_extradisk_t` that are given. -/
def extradiskStrings (exdisk : ExtraDisk) : List Bool :=
  [true, true, exdisk.filesystem.isSome, exdisk.option.isSome, true, exdisk.blockdev.2.isSome]

/-- Free the strings of the root file system. -/
def RootfsMem.free (rootfs : RootfsMem) : Owning Block Unit := do
  releaseOpt .string rootfs.rootfsDev.2
  releaseOpt .string rootfs.rootfsDev.1
  releaseOpt .string rootfs.option
  releaseOpt .string rootfs.filesystem
  releaseOpt .string rootfs.path

/-- The error exit of `cmparser_parse_base_rootfs`. -/
def rootfsErrRet (rootfs : RootfsMem) : Owning Block (RootfsMem × ℤ) := do
  rootfs.free
  pure ({}, -2)

section Base

variable (mem : ℕ → Bool)

/-- The two devices, of which the first one is mandatory. -/
def rootfsDevs (r : RootfsMem) (items : List CJson) : Owning Block (RootfsMem × ℤ) := do
  let dev0 ← strdup mem (CJson.firstTwo items).1.isSome
  let dev1 ← strdup mem (CJson.firstTwo items).2.isSome
  let r := { r with rootfsDev := (dev0, dev1) }
  if dev0 = none then rootfsErrRet r else pure (r, 0)

/-- `cmparser_parse_base_rootfs`, for a config that is zeroed. -/
def cmparserParseBaseRootfs (rootfs : CJson) : Owning Block (RootfsMem × ℤ) :=
  match rootfs.getString "path" with
  | none => rootfsErrRet {}
  | some _ => do
    let path ← strdup mem true
    let filesystem ← strdup mem (rootfs.getString "filesystem").isSome
    let option ← strdup mem (rootfs.getString "option").isSome
    let r : RootfsMem := { path, filesystem, option }
    match rootfs.getArray "blockdev" with
    | some blockdev => if filesystem = none then rootfsErrRet r else rootfsDevs mem r blockdev
    | none =>
      match rootfs.getArray "hostpath" with
      | some hostpath => rootfsDevs mem r hostpath
      | none => rootfsErrRet r

/-- `cmparser_parse_base_extradisk`. -/
def cmparserParseBaseExtradisk (extradisk : List CJson) : Owning Block (List Node × ℤ) := do
  let r ← collect
    (fun disk => makeNode mem .extradisk ((parseExtradiskEntry disk).map extradiskStrings) orAbort)
    addTail extradisk []
  pure (r.1, if ¬ r.2 then -3 else if r.1.isEmpty then -1 else 0)

/-- The default is taken in place of a null pointer. -/
def strdupDefault (p : Option ℕ) : Owning Block (Option ℕ) :=
  if p = none then strdup mem true else pure p

/-- The part of `cmparser_parse_base` behind the sections that can fail. -/
def parseBaseRest (rootfs : RootfsMem) (extradiskList : List Node) (base : CJson) :
    Owning Block BaseMem := do
  let given (part name : String) : Bool :=
    ((base.getObject part).bind fun e => e.getString name).isSome
  let shmounts ← strdup mem (given "extended" "shmounts")
  let halt ← strdup mem (given "lifecycle" "halt")
  let reboot ← strdup mem (given "lifecycle" "reboot")
  let halt ← strdupDefault mem halt
  let reboot ← strdupDefault mem reboot
  let drop ← strdup mem (given "cap" "drop")
  let keep ← strdup mem (given "cap" "keep")
  let env ← collect
    (fun env => makeNode mem .env ((CJson.string? (some env)).map fun _ => [true]) orSkip)
    addTail (base.elements "environment") []
  pure { rootfs, extradiskList, shmounts, halt, reboot, drop, keep, envlist := env.1 }

/-- The extradisk part of `cmparser_parse_base`. -/
def parseBaseExtradisk (base : CJson) : Owning Block (List Node × ℤ) :=
  match base.getArray "extradisk" with
  | some extradisk => cmparserParseBaseExtradisk mem extradisk
  | none => pure ([], 0)

/-- `cmparser_parse_base`. -/
def cmparserParseBase (base : CJson) : Owning Block (BaseMem × ℤ) :=
  match base.getObject "rootfs" with
  | none => pure ({}, -2)
  | some rootfs => do
    let r ← cmparserParseBaseRootfs mem rootfs
    if r.2 ≠ 0 then pure ({ rootfs := r.1 }, r.2)
    else
      let e ← parseBaseExtradisk mem base
      if e.2 ≠ 0 then pure ({ rootfs := r.1, extradiskList := e.1 }, e.2)
      else
        let bc ← parseBaseRest mem r.1 e.1 base
        pure (bc, 0)

end Base

/-! ### Resources, mounts and static devices -/

/-- The strings of `container_resource_elem_t`. -/
def resourceStrings : List Bool := [true, true]

/-- The lists of `container_fsconfig_t`. -/
structure FsMem where
  mountlist : List Node := []
  initialList : List Node := []

/-- The record of an element of the `mount` array. -/
def fsBlock : FsMountType → Block
  | .filesystem | .directory => .fsMount
  | .delayed => .delayedMount

/-- The record goes to the tail of its list. -/
def FsMem.add (fc : FsMem) (elem : FsMountType × Node) : FsMem :=
  match elem.1 with
  | .filesystem | .directory => { fc with mountlist := addTail fc.mountlist elem.2 }
  | .delayed => { fc with initialList := addTail fc.initialList elem.2 }

def FsMem.free (fc : FsMem) : Owning Block Unit := do
  freeNodes .fsMount fc.mountlist
  freeNodes .delayedMount fc.initialList

/-- The type of an element of the `mount` array, and its strings. -/
def fsMountRecord (elem : CJson) : Option (FsMountType × List Bool) :=
  match (elem.getString "type").bind cmparserParserGetFstype, elem.getString "from",
      elem.getString "to" with
  | some .delayed, some _, some _ => some (.delayed, [true, true])
  | some type, some _, some _ =>
    match elem.getString "fstype", elem.getString "option" with
    | some _, some _ => some (type, [true, true, true, true])
    | _, _ => none
  | _, _, _ => none

/-- The lists of `container_static_device_t`. -/
structure StaticMem where
  staticDevlist : List Node := []
  staticGpiolist : List Node := []
  staticIiolist : List Node := []

/-- The record of an element of the `static` array. -/
def staticBlock : StaticType → Block
  | .device _ => .staticDevice
  | .gpio => .staticGpio
  | .iio => .staticIio

/-- The record goes to the tail of its list. -/
def StaticMem.add (sdc : StaticMem) (elem : StaticType × Node) : StaticMem :=
  match elem.1 with
  | .device _ => { sdc with staticDevlist := addTail sdc.staticDevlist elem.2 }
  | .gpio => { sdc with staticGpiolist := addTail sdc.staticGpiolist elem.2 }
  | .iio => { sdc with staticIiolist := addTail sdc.staticIiolist elem.2 }

def StaticMem.free (sdc : StaticMem) : Owning Block Unit := do
  freeNodes .staticDevice sdc.staticDevlist
  freeNodes .staticGpio sdc.staticGpiolist
  freeNodes .staticIio sdc.staticIiolist

/-- The type of an element of the `static` array, and its strings. -/
def staticRecord : StaticElem → StaticType × List Bool
  | .device develem => (.device develem.type, [true, true, true])
  | .gpio _ => (.gpio, [true, true])
  | .iio iioelem => (.iio, [true, true, iioelem.devfrom.isSome, iioelem.devto.isSome,
      iioelem.devnode.isSome])

section Sections

variable (mem : ℕ → Bool)

/-- A record of one of several types. -/
def makeRecord {τ : Type} (block : τ → Block) (record : Option (τ × List Bool)) :
    Owning Block (Made (τ × Node)) :=
  match record with
  | none => pure .skipped
  | some record => do
    let node ← newNode mem (block record.1) record.2
    pure (orAbort (node.map fun node => (record.1, node)))

/-- `cmparser_parse_resource`. -/
def cmparserParseResource (res : List CJson) : Owning Block (List Node × ℤ) :=
  parseOrFree
    (fun elem => makeNode mem .resource ((parseResourceElem elem).map fun _ => resourceStrings)
      orAbort)
    addTail (freeNodes .resource) [] res

/-- `cmparser_parse_fs`. -/
def cmparserParseFs (fs : CJson) : Owning Block (FsMem × ℤ) :=
  parseOrFree (fun elem => makeRecord mem fsBlock (fsMountRecord elem)) FsMem.add FsMem.free {}
    (fs.elements "mount")

/-- `cmparser_parse_static_dev`. -/
def cmparserParseStaticDev (sd : List CJson) : Owning Block (StaticMem × ℤ) :=
  parseOrFree (fun elem => makeRecord mem staticBlock ((parseStaticElem elem).map staticRecord))
    StaticMem.add StaticMem.free {} sd

/-- `cmparser_parse_dynamic_netif`. -/
def cmparserParseDynamicNetif (dni : List CJson) : Owning Block (List Node × ℤ) :=
  parseOrFree
    (fun elem => makeNode mem .dynamicNetif ((elem.getString "ifname").map fun _ => [true]) orAbort)
    addTail (freeNodes .dynamicNetif) [] dni

end Sections

/-! ### Dynamic devices -/

/-- `dynamic_device_entry_items_t`. -/
structure ItemMem where
  self : ℕ
  subsystem : Option ℕ
  devtypeList : List ℕ := []
  extraList : List Node := []
  permission : Option ℕ := none

/-- `container_dynamic_device_entry_t`. -/
structure EntryMem where
  self : ℕ
  devpath : Option ℕ
  items : List ItemMem := []

/-- Free a list of `short_string_list_item_t`, from the last one. -/
def freeDevtypes (devtypeList : List ℕ) : Owning Block Unit :=
  devtypeList.reverse.forM (release .devtype)

/-- The error exit of `cmparser_parse_dynamic_dev_item`, which reads the item. -/
def itemErrRet (p : ItemMem) : Owning Block (Made ItemMem) := do
  access .dynamicItem p.self
  freeDevtypes p.devtypeList
  releaseOpt .string p.permission
  pure .skipped

/-- An entry of `rule.extra` has both its strings. -/
def extraRecord (extraElem : CJson) : Option (List Bool) := do
  let _checker ← extraElem.getString "checker"
  let _value ← extraElem.getString "value"
  some [true, true]

section Dynamic

variable (mem : ℕ → Bool)

/-- One pass of the loop over `rule.devtype`. -/
def newDevtype (devtype : CJson) : Owning Block (Made ℕ) :=
  match CJson.string? (some devtype) with
  | none => pure .skipped
  | some _ => orAbort <$> malloc mem .devtype

/-- The part of `cmparser_parse_dynamic_dev_item` behind the check of the rule. -/
def parseRule (p : ItemMem) (rule : CJson) (behavior : Option CJson) :
    Owning Block (Made ItemMem) := do
  let devtypes ← collect (newDevtype mem) addTail (rule.elements "devtype") []
  let p := { p with devtypeList := devtypes.1 }
  if ¬ devtypes.2 then itemErrRet p
  else
    let extras ← collect (fun extraElem => makeNode mem .ruleExtra (extraRecord extraElem) orAbort)
      addTail (rule.elements "extra") []
    let p := { p with extraList := extras.1 }
    if ¬ extras.2 then itemErrRet p
    else
      let permission ← strdup mem (behavior.bind fun b => b.getString "permission").isSome
      pure (.made { p with permission })

/-- `cmparser_parse_dynamic_dev_item`. Its result is not looked at. -/
def cmparserParseDynamicDevItem (item : CJson) : Owning Block (Made ItemMem) :=
  match item.getString "subsystem" with
  | none => pure .skipped
  | some _ => do
    match ← malloc mem .dynamicItem with
    | none => pure .skipped
    | some self =>
      let subsystem ← strdup mem true
      let p : ItemMem := { self, subsystem }
      match item.getObject "rule" with
      | none => do
        releaseOpt .string p.subsystem
        release .dynamicItem p.self
        itemErrRet p
      | some rule => parseRule mem p rule (item.getObject "behavior")

/-- One pass of the loop of `cmparser_parse_dynamic_dev`. -/
def newEntry (elem : CJson) : Owning Block (Made EntryMem) :=
  match elem.getString "devpath" with
  | none => pure .skipped
  | some _ => do
    match ← malloc mem .dynamicEntry with
    | none => pure .aborted
    | some self =>
      let devpath ← strdup mem true
      let items ← collect (cmparserParseDynamicDevItem mem) addTail (elem.elements "items") []
      pure (.made { self, devpath, items := items.1 })

/-- `cmparser_parse_dynamic_dev`. -/
def cmparserParseDynamicDev (dd : List CJson) : Owning Block (List EntryMem × ℤ) := do
  let r ← collect (newEntry mem) addTail dd []
  pure (r.1, if r.2 then 0 else -3)

end Dynamic

/-! ### Static network interfaces -/

/-- The record of `setting`. -/
def netifBlock : NetifType → Block
  | .veth => .veth
  | .vxcan => .vxcan

/-- `container_static_netif_elem_t`. -/
structure NetifMem where
  self : ℕ
  type : NetifType
  setting : Node

def NetifMem.free (p : NetifMem) : Owning Block Unit := do
  freeNode (netifBlock p.type) p.setting
  release .staticNetif p.self

def freeNetifs (l : List NetifMem) : Owning Block Unit := l.reverse.forM NetifMem.free

section Netif

variable (mem : ℕ → Bool)

/-- `cmparser_parse_static_netif_veth_create`. -/
def cmparserParseStaticNetifVethCreate (param : CJson) : Owning Block (Option Node) := do
  match ← malloc mem .veth with
  | none => pure none
  | some self =>
    match param.getString "link" with
    | none => do
      release .veth self
      pure none
    | some _ => do
      let given (name : String) : Bool := (param.getString name).isSome
      let strings ← [true, given "name", given "flags", given "hwaddr", given "mode",
        given "address", given "gateway"].mapM (strdup mem)
      pure (some { self, strings })

/-- `cmparser_parse_static_netif_vxcan_create`. -/
def cmparserParseStaticNetifVxcanCreate (param : CJson) : Owning Block (Option Node) := do
  match ← malloc mem .vxcan with
  | none => pure none
  | some self =>
    match param.getString "name" with
    | none => do
      release .vxcan self
      pure none
    | some _ => do
      let name ← strdup mem true
      match param.getString "upstream" with
      | none => do
        releaseOpt .string name
        release .vxcan self
        pure none
      | some _ => do
        let upstream ← strdup mem true
        pure (some { self, strings := [name, upstream] })

/-- The record of `setting`. -/
def createSetting (type : NetifType) (param : CJson) : Owning Block (Option Node) :=
  match type with
  | .veth => cmparserParseStaticNetifVethCreate mem param
  | .vxcan => cmparserParseStaticNetifVxcanCreate mem param

/-- One pass of the loop of `cmparser_parse_static_netif`. -/
def newNetif (elem : CJson) : Owning Block (Made NetifMem) :=
  match netifParam elem with
  | none => pure .skipped
  | some (type, param) => do
    match ← createSetting mem type param with
    | none => pure .skipped
    | some setting => do
      match ← malloc mem .staticNetif with
      | none => do
        freeNode (netifBlock type) setting
        pure .aborted
      | some self => pure (.made { self, type, setting })

/-- `cmparser_parse_static_netif`. -/
def cmparserParseStaticNetif (sni : List CJson) : Owning Block (List NetifMem × ℤ) :=
  parseOrFree (newNetif mem) addTail freeNetifs [] sni

end Netif

/-! ### The config -/

/-- `container_config_t`. -/
structure ConfigMem where
  self : ℕ
  name : Option ℕ := none
  role : Option ℕ := none
  baseconfig : BaseMem := {}
  resourcelist : List Node := []
  fsconfig : FsMem := {}
  staticDevice : StaticMem := {}
  dynamicDevlist : List EntryMem := []
  staticNetiflist : List NetifMem := []
  dynamicNetiflist : List Node := []

/-- Free an item of a dynamic device. -/
def ItemMem.free (ddei : ItemMem) : Owning Block Unit := do
  freeDevtypes ddei.devtypeList
  freeNodes .ruleExtra ddei.extraList
  releaseOpt .string ddei.permission
  releaseOpt .string ddei.subsystem
  release .dynamicItem ddei.self

/-- Free a dynamic device. -/
def EntryMem.free (dde : EntryMem) : Owning Block Unit := do
  dde.items.reverse.forM ItemMem.free
  releaseOpt .string dde.devpath
  release .dynamicEntry dde.self

/-- Free the base section. -/
def BaseMem.free (bc : BaseMem) : Owning Block Unit := do
  freeNodes .env bc.envlist
  releaseOpt .string bc.drop
  releaseOpt .string bc.keep
  releaseOpt .string bc.halt
  releaseOpt .string bc.reboot
  releaseOpt .string bc.shmounts
  freeNodes .extradisk bc.extradiskList
  releaseOpt .string bc.rootfs.rootfsDev.1
  releaseOpt .string bc.rootfs.rootfsDev.2
  releaseOpt .string bc.rootfs.option
  releaseOpt .string bc.rootfs.filesystem
  releaseOpt .string bc.rootfs.path

/-- `cmparser_release_config`. -/
def cmparserReleaseConfig (cc : ConfigMem) : Owning Block Unit := do
  cc.staticDevice.free
  cc.dynamicDevlist.reverse.forM EntryMem.free
  freeNetifs cc.staticNetiflist
  freeNodes .dynamicNetif cc.dynamicNetiflist
  cc.fsconfig.free
  freeNodes .resource cc.resourcelist
  cc.baseconfig.free
  releaseOpt .string cc.name
  releaseOpt .string cc.role
  release .config cc.self

/-- What `cmparser_read_jsonstring` meets: `open`, `fstat`, the kind of the file, and `read`. -/
structure ReadSys where
  opened : Bool
  fstat : Bool
  regular : Bool
  read : Bool

section Create

variable (mem : ℕ → Bool)

/-- `cmparser_read_jsonstring`. -/
def cmparserReadJsonstring (sys : ReadSys) : Owning Block (Option ℕ) := do
  match ← acquireIf sys.opened .fd with
  | none => pure none
  | some fd =>
    if ¬ (sys.fstat ∧ sys.regular) then do
      release .fd fd
      pure none
    else
      match ← malloc mem .jsonstring with
      | none => do
        release .fd fd
        pure none
      | some strbuf =>
        if ¬ sys.read then do
          release .jsonstring strbuf
          release .fd fd
          pure none
        else do
          release .fd fd
          pure (some strbuf)

/-- The role, which is a copy of the name by default. -/
def parseRole (name : Option ℕ) (json : CJson) : Owning Block (Option ℕ) :=
  match json.getString "role" with
  | some _ => strdup mem true
  | none => do
    let _ ← deref name
    strdup mem true

/-- The network section. -/
def parseNetwork (ccfg : ConfigMem) (json : CJson) : Owning Block ConfigMem :=
  match json.getObject "network" with
  | none => pure ccfg
  | some network => do
    let staticNetifs ← cmparserParseStaticNetif mem (network.elements "static")
    let dynamicNetifs ← cmparserParseDynamicNetif mem (network.elements "dynamic")
    pure { ccfg with staticNetiflist := staticNetifs.1, dynamicNetiflist := dynamicNetifs.1 }

/-- The sections behind the file system. -/
def parseDevices (ccfg : ConfigMem) (json : CJson) : Owning Block (ConfigMem × ℤ) :=
  match json.getObject "device" with
  | none => pure (ccfg, -2)
  | some device => do
    let staticDevice ← cmparserParseStaticDev mem (device.elements "static")
    let dynamicDevice ← cmparserParseDynamicDev mem (device.elements "dynamic")
    let ccfg ← parseNetwork mem { ccfg with
      staticDevice := staticDevice.1
      dynamicDevlist := dynamicDevice.1 } json
    pure (ccfg, 0)

/-- The sections of a document, until a mandatory one is missing. -/
def parseSections (self : ℕ) (json : CJson) : Owning Block (ConfigMem × ℤ) :=
  match json.getString "name" with
  | none => pure ({ self }, -2)
  | some _ => do
    let name ← strdup mem true
    let role ← parseRole mem name json
    match json.getObject "base" with
    | none => pure ({ self, name, role }, -2)
    | some base => do
      let base ← cmparserParseBase mem base
      let resource ← cmparserParseResource mem (json.elements "resource")
      let ccfg : ConfigMem :=
        { self, name, role, baseconfig := base.1, resourcelist := resource.1 }
      match json.getObject "fs" with
      | none => pure (ccfg, -2)
      | some fs => do
        let fs ← cmparserParseFs mem fs
        parseDevices mem { ccfg with fsconfig := fs.1 } json

/-- `cmparser_create_from_file`, with the document in the text, if there is one. -/
def cmparserCreateFromFile (sys : ReadSys) (json : Option CJson) :
    Owning Block (Option ConfigMem × ℤ) := do
  match ← cmparserReadJsonstring mem sys with
  | none => pure (none, -1)
  | some jsonstring =>
    match json with
    | none => do
      release .jsonstring jsonstring
      pure (none, -2)
    | some json => do
      let tree ← acquire .json
      match ← malloc mem .config with
      | none => do
        release .json tree
        release .jsonstring jsonstring
        pure (none, -3)
      | some self => do
        let r ← parseSections mem self json
        release .json tree
        release .jsonstring jsonstring
        if r.2 = 0 then pure (some r.1, 0)
        else do
          cmparserReleaseConfig r.1
          pure (none, r.2)

end Create

end ContainerManager.Memory
