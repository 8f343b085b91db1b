import ContainerManager.Parser.Container

/-!
# Manager config parser

The functions of `parser-manager.c`, on the document in the file. Allocations succeed.
-/

namespace ContainerManager

/-- `cmparser_manager_parser_get_fstype`. -/
def cmparserManagerParserGetFstype (str : String) : ManagerMountType :=
  if str = "pre" then .pre
  else if str = "post" then .post
  else if str = "delayed" then .delayed
  else .unknown

/-- `cmparser_manager_parser_get_diskmountmode`, which is the function of the guest parser. -/
def cmparserManagerParserGetDiskmountmode (str : String) : DiskMountType :=
  cmparserParserGetDiskmountmode str

/-- `cmparser_manager_parser_get_diskmountfailop`, which is the function of the guest parser. -/
def cmparserManagerParserGetDiskmountfailop (str : String) : DiskRedundancyType :=
  cmparserParserGetDiskmountfailop str

/-- One entry of `mount`, with the number it gets; an entry without a mandatory value is dropped. -/
def parseMountEntry (index : ℕ) (elem : CJson) : Option MountElem :=
  match elem.getString "type", elem.getString "to", elem.getString "filesystem",
      (elem.getArray "blockdev").bind fun blockdev => CJson.string? blockdev[0]? with
  | some type, some mountTo, some filesystem, some bdev => some {
      type := cmparserManagerParserGetFstype type
      mountTo := mountTo
      filesystem := filesystem
      mode := ((elem.getString "mode").map cmparserManagerParserGetDiskmountmode).getD .ro
      option := elem.getString "option"
      redundancy :=
        ((elem.getString "redundancy").map cmparserManagerParserGetDiskmountfailop).getD .failover
      blockdev :=
        (bdev, (elem.getArray "blockdev").bind fun blockdev => CJson.string? blockdev[1]?)
      index := index }
  | _, _, _, _ => none

/-- The variables of the loop over `mount`. -/
structure MountLoop where
  mountList : List MountElem
  index : ℕ := 0
  result : ℤ := -1

/-- One pass of the loop. -/
def MountLoop.pass (s : MountLoop) (elem : CJson) : MountLoop :=
  match parseMountEntry s.index elem with
  | some e => { mountList := s.mountList ++ [e], index := s.index + 1, result := 0 }
  | none => s

/-- `cmparser_manager_parse_operation_mount`. -/
def cmparserManagerParseOperationMount (cmom : ManagerOperation) (mount : List CJson) :
    ManagerOperation × ℤ :=
  let s := mount.foldl MountLoop.pass { mountList := cmom.mountList }
  ({ cmom with mountList := s.mountList }, s.result)

/-- `container_manager_config_t`, as far as the parser fills it; `bridgelist` has the names. -/
structure ContainerManagerConfig where
  configdir : String
  bridgelist : List String := []
  operation : ManagerOperation := {}

/-- `cmparser_manager_create_from_file`: the config, when the file is accepted, and the return
value. -/
def cmparserManagerCreateFromFile (json : CJson) : Option ContainerManagerConfig × ℤ :=
  match json.getString "configdir" with
  | none => (none, -2)
  | some configdir =>
    let cmcfg : ContainerManagerConfig := {
      configdir := configdir
      bridgelist := ((json.getArray "etherbridge").getD []).filterMap fun elem =>
        elem.getString "name" }
    match (json.getObject "operation").bind fun operation => operation.getArray "mount" with
    | none => (some cmcfg, 0)
    | some mount =>
      let r := cmparserManagerParseOperationMount cmcfg.operation mount
      if r.2 < 0 then (none, -2) else (some { cmcfg with operation := r.1 }, 0)

end ContainerManager
