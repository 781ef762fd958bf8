import NdbOperator.IniText

set_option autoImplicit false

/-!
# The config generator

`GetConfigString` renders the NDB `config.ini` from the NdbCluster with `mgmtConfigTmpl`, and
`GetMySQLConfigString` renders `my.cnf` with `myCnfTemplate`. The templates are written here as
the lines they print: the trim markers `{{-` and `-}}` remove the newlines next to their
actions, and a map is ranged over in key order. Node ids come from `GetNodeIds`, which advances
one counter shared by the management and data nodes and another shared by the MySQL Servers and
the free API slots, in the order the template calls it.
-/

namespace NdbOperator

inductive NodeType
  | mgmd
  | ndbmtd
  | mysqld
  | api
deriving DecidableEq, Repr

/-- What `GetConfigString` reads besides its arguments; none of it is under src/. -/
structure ConfigEnv where
  kubernetesCname : Option String
  dataDir : String
  typeName : NodeType → String
  serviceName : String → String → String

structure ConfigSummary where
  mySQLClusterConfigVersion : Int32
  mySQLServerConfigVersion : Int32
deriving DecidableEq

def getConfigVersion : Option ConfigSummary → Int32
  | none => 1
  | some s => s.mySQLClusterConfigVersion + 1

/-- `GetHostnameSuffix`; Go panics on a CNAME too short to slice. -/
def getHostnameSuffix (ns : String) : Option String → Except String String
  | none => .ok ns
  | some cname =>
    if cname.length < 19 then .error "slice bounds out of range"
    else .ok (ns ++ ⟨(cname.toList.drop 18).take (cname.length - 19)⟩)

def idRange (start : Int) (k : Nat) : List Int := (List.range k).map fun i : Nat => start + i

/-- `GetNodeIds`; `make([]int, count)` panics on a negative count, an error of the template. -/
def getNodeIds (start : Int) (count : Int32) : Except String (List Int × Int) :=
  if count.val < 0 then .error "error calling GetNodeIds: makeslice: len out of range"
  else .ok (idRange start count.val.toNat, start + count.val)

/-- Modelled from the spec: "[mysqld] × mysqlServerCount". -/
def getNumOfSectionsRequiredForMySQLServers (nc : NdbCluster) : Int32 :=
  nc.getMySQLServerNodeCount

/-- Modelled from the spec: "[api] × freeAPISlots". -/
def getNumOfFreeAPISections (nc : NdbCluster) : Int32 := nc.spec.freeAPISlots

structure NodeIds where
  mgmd : List Int
  ndbmtd : List Int
  mysqld : List Int
  api : List Int
deriving DecidableEq, Repr

def nodeIds (nc : NdbCluster) : Except String NodeIds := do
  let (mgmd, next) ← getNodeIds 1 nc.getManagementNodeCount
  let (ndbmtd, _) ← getNodeIds next nc.spec.nodeCount
  let (mysqld, nextApi) ←
    getNodeIds ndbNodeTypeAPIStartNodeId (getNumOfSectionsRequiredForMySQLServers nc)
  let (api, _) ← getNodeIds nextApi (getNumOfFreeAPISections nc)
  pure ⟨mgmd, ndbmtd, mysqld, api⟩

def hostname (env : ConfigEnv) (nc : NdbCluster) (t : NodeType) (idx : Nat)
    (suffix : String) : String :=
  nc.name ++ "-" ++ env.typeName t ++ "-" ++ toString idx ++ "." ++
    env.serviceName nc.name (env.typeName t) ++ "." ++ suffix

def entryLines (m : StringMap) : List String := m.entries.map fun e => e.1 ++ "=" ++ e.2

/-- One `[ndb_mgmd]` or `[ndbd]` section and the blank line after it. -/
def nodeSectionLines (env : ConfigEnv) (nc : NdbCluster) (header : String) (t : NodeType)
    (suffix : String) (idx : Nat) (nodeId : Int) : List String :=
  [header, "NodeId" ++ "=" ++ toString nodeId, "Hostname" ++ "=" ++ hostname env nc t idx suffix,
    "DataDir" ++ "=" ++ (env.dataDir ++ "/data"), ""]

def mysqldSectionLines (env : ConfigEnv) (nc : NdbCluster) (suffix : String) (idx : Nat)
    (nodeId : Int) : List String :=
  ["[mysqld]", "NodeId" ++ "=" ++ toString nodeId,
    "Hostname" ++ "=" ++ hostname env nc .mysqld idx suffix, ""]

def apiSectionLines (nodeId : Int) : List String := ["[api]", "NodeId" ++ "=" ++ toString nodeId, ""]

def systemLines (nc : NdbCluster) (version : Int32) : List String :=
  ["# Auto generated config.ini - DO NOT EDIT", "", "[system]",
    "ConfigGenerationNumber" ++ "=" ++ toString version.val, "Name" ++ "=" ++ nc.name, ""]

def mgmdDefaultLines (nc : NdbCluster) : List String :=
  (if nc.spec.managementNodeConfig.entries.isEmpty then [""] else ["[ndb_mgmd default]"]) ++
    entryLines nc.spec.managementNodeConfig ++ [""]

def ndbdDefaultLines (nc : NdbCluster) : List String :=
  ["[ndbd default]", "NoOfReplicas" ++ "=" ++ toString nc.spec.redundancyLevel.val,
    "# Use a fixed ServerPort for all data nodes", "ServerPort" ++ "=" ++ "1186"] ++
    entryLines nc.spec.dataNodeConfig ++ [""]

def tcpDefaultLines : List String :=
  ["[tcp default]", "AllowUnresolvedHostnames" ++ "=" ++ "1", ""]

def nodeLines (env : ConfigEnv) (nc : NdbCluster) (suffix : String) (ids : NodeIds) :
    List String :=
  (ids.mgmd.enum.flatMap fun p => nodeSectionLines env nc "[ndb_mgmd]" .mgmd suffix p.1 p.2) ++
  (ids.ndbmtd.enum.flatMap fun p => nodeSectionLines env nc "[ndbd]" .ndbmtd suffix p.1 p.2) ++
  ["# MySQLD sections to be used exclusively by MySQL Servers"] ++
  (ids.mysqld.enum.flatMap fun p => mysqldSectionLines env nc suffix p.1 p.2) ++
  ["# API sections to be used by generic NDBAPI applications"] ++
  ids.api.flatMap apiSectionLines

def configLines (env : ConfigEnv) (nc : NdbCluster) (version : Int32) (suffix : String)
    (ids : NodeIds) : List String :=
  systemLines nc version ++ mgmdDefaultLines nc ++ ndbdDefaultLines nc ++ tcpDefaultLines ++
    nodeLines env nc suffix ids

def getConfigString (env : ConfigEnv) (nc : NdbCluster) (old : Option ConfigSummary) :
    Except String String := do
  let suffix ← getHostnameSuffix nc.«namespace» env.kubernetesCname
  let ids ← nodeIds nc
  pure (render (configLines env nc (getConfigVersion old) suffix ids))

def getMySQLConfigVersion : Option ConfigSummary → Int32
  | none => 1
  | some s => s.mySQLServerConfigVersion + 1

def getMySQLConfigString (nc : NdbCluster) (old : Option ConfigSummary) : String :=
  if nc.getMySQLCnf = "" then ""
  else render ["# Auto generated config.ini - DO NOT EDIT",
    "# ConfigVersion=" ++ toString (getMySQLConfigVersion old).val, "", nc.getMySQLCnf]

theorem getNodeIds_ok {start : Int} {count : Int32} (h : 0 ≤ count.val) :
    getNodeIds start count = .ok (idRange start count.val.toNat, start + count.val) := by
  unfold getNodeIds
  rw [if_neg (by omega)]

theorem getNodeIds_bind_ok {β : Type} {start : Int} {count : Int32}
    {f : List Int × Int → Except String β} {r : β} (h : getNodeIds start count >>= f = .ok r) :
    0 ≤ count.val ∧ f (idRange start count.val.toNat, start + count.val) = .ok r := by
  unfold getNodeIds at h
  split_ifs at h with hc
  · cases h
  · exact ⟨by omega, h⟩

theorem mem_idRange {start x : Int} {k : Nat} : x ∈ idRange start k ↔ start ≤ x ∧ x < start + k := by
  simp only [idRange, List.mem_map, List.mem_range]
  constructor
  · rintro ⟨i, hi, rfl⟩
    omega
  · intro h
    exact ⟨(x - start).toNat, by omega, by omega⟩

@[simp] theorem length_idRange (start : Int) (k : Nat) : (idRange start k).length = k := by
  simp [idRange]

theorem enum_idRange (start : Int) (k : Nat) :
    (idRange start k).enum = (List.range k).map fun i : Nat => (i, start + i) := by
  apply List.ext_getElem <;> simp [idRange, List.getElem_enum]

theorem getManagementNodeCount_nonneg (nc : NdbCluster) : 0 ≤ nc.getManagementNodeCount.val := by
  rw [nc.getManagementNodeCount_val]
  split <;> omega

theorem nodeIds_ok {nc : NdbCluster} (hn : 0 ≤ nc.spec.nodeCount.val)
    (hs : 0 ≤ nc.getMySQLServerNodeCount.val) (ha : 0 ≤ nc.spec.freeAPISlots.val) :
    nodeIds nc = .ok ⟨idRange 1 nc.getManagementNodeCount.val.toNat,
      idRange (1 + nc.getManagementNodeCount.val) nc.spec.nodeCount.val.toNat,
      idRange ndbNodeTypeAPIStartNodeId nc.getMySQLServerNodeCount.val.toNat,
      idRange (ndbNodeTypeAPIStartNodeId + nc.getMySQLServerNodeCount.val)
        nc.spec.freeAPISlots.val.toNat⟩ := by
  simp only [nodeIds, getNumOfSectionsRequiredForMySQLServers, getNumOfFreeAPISections,
    getNodeIds_ok (getManagementNodeCount_nonneg nc), getNodeIds_ok hn, getNodeIds_ok hs,
    getNodeIds_ok ha]
  rfl

theorem nodeIds_ok_iff (nc : NdbCluster) :
    (∃ ids, nodeIds nc = .ok ids) ↔
      0 ≤ nc.spec.nodeCount.val ∧ 0 ≤ nc.getMySQLServerNodeCount.val ∧
        0 ≤ nc.spec.freeAPISlots.val := by
  constructor
  · rintro ⟨ids, h⟩
    obtain ⟨-, h⟩ := getNodeIds_bind_ok h
    obtain ⟨hn, h⟩ := getNodeIds_bind_ok h
    obtain ⟨hs, h⟩ := getNodeIds_bind_ok h
    exact ⟨hn, hs, (getNodeIds_bind_ok h).1⟩
  · rintro ⟨hn, hs, ha⟩
    exact ⟨_, nodeIds_ok hn hs ha⟩

end NdbOperator
