import NdbOperator.ConfigReading
import NdbOperator.Validation

set_option autoImplicit false

/-!
# The generated config files, read back

What the NDB `config.ini` of `GetConfigString` and the `my.cnf` of `GetMySQLConfigString` say
when an ini reader reads them: the section sequence and the operator's `[ndbd default]` keys
when every user entry reads as itself, the node ids of the sections, and how the generated
`my.cnf` relates to the cnf that `HasValidSpec` parsed.
-/

namespace NdbOperator

section Sections

variable (env : ConfigEnv) (nc : NdbCluster) (suffix : String)

theorem map_fst_nodeSections (ids : NodeIds) :
    (nodeSections env nc suffix ids).map Prod.fst =
      List.replicate ids.mgmd.length "ndb_mgmd" ++ List.replicate ids.ndbmtd.length "ndbd" ++
        List.replicate ids.mysqld.length "mysqld" ++ List.replicate ids.api.length "api" := by
  simp [nodeSections, Function.comp_def, List.map_const']

theorem map_fst_configSections (version : Int32) (ids : NodeIds) :
    (configSections env nc version suffix ids).map Prod.fst =
      ["system"] ++
        (if nc.spec.managementNodeConfig.entries.isEmpty then [] else ["ndb_mgmd default"]) ++
        ["ndbd default", "tcp default"] ++ (nodeSections env nc suffix ids).map Prod.fst := by
  simp only [configSections, List.map_append]
  split <;> rfl

theorem lookup_ndbdDefault_configSections (version : Int32) (ids : NodeIds) :
    (configSections env nc version suffix ids).lookup "ndbd default" =
      some ([("NoOfReplicas", toString nc.spec.redundancyLevel.val), ("ServerPort", "1186")] ++
        nc.spec.dataNodeConfig.entries) := by
  simp only [configSections]
  split <;> rfl

theorem nodeSections_idRange (a b c d : Int) (m n s k : Nat) :
    nodeSections env nc suffix ⟨idRange a m, idRange b n, idRange c s, idRange d k⟩ =
      (List.range m).map (fun i : Nat =>
        ("ndb_mgmd", nodeSectionEntries env nc .mgmd suffix i (a + i))) ++
      (List.range n).map (fun i : Nat =>
        ("ndbd", nodeSectionEntries env nc .ndbmtd suffix i (b + i))) ++
      (List.range s).map (fun i : Nat =>
        ("mysqld", [("NodeId", toString (c + i)), ("Hostname", hostname env nc .mysqld i suffix)])) ++
      (List.range k).map (fun i : Nat => ("api", [("NodeId", toString (d + i))])) := by
  simp only [nodeSections, enum_idRange]
  simp only [idRange, List.map_map, Function.comp_def]

end Sections

/-- Read as an ini file, the text of `GetConfigString` has the template's sections in order. -/
theorem getConfigString_sections {env : ConfigEnv} {nc : NdbCluster}
    {old : Option ConfigSummary} {text : String} (hn : SingleLineNames env nc)
    (hm : ∀ e ∈ nc.spec.managementNodeConfig.entries, ReadsAsEntry e)
    (hd : ∀ e ∈ nc.spec.dataNodeConfig.entries, ReadsAsEntry e)
    (h : getConfigString env nc old = .ok text) :
    ∃ ini, parseString text = .ok ini ∧
      ini.map Prod.fst = ["system"] ++
        (if nc.spec.managementNodeConfig.entries.isEmpty then [] else ["ndb_mgmd default"]) ++
        ["ndbd default", "tcp default"] ++
        List.replicate nc.getManagementNodeCount.val.toNat "ndb_mgmd" ++
        List.replicate nc.spec.nodeCount.val.toNat "ndbd" ++
        List.replicate nc.getMySQLServerNodeCount.val.toNat "mysqld" ++
        List.replicate nc.spec.freeAPISlots.val.toNat "api" ∧
      ini.lookup "ndbd default" =
        some ([("NoOfReplicas", toString nc.spec.redundancyLevel.val), ("ServerPort", "1186")] ++
          nc.spec.dataNodeConfig.entries) := by
  obtain ⟨suffix, ids, hs, hi, rfl⟩ := getConfigString_ok h
  obtain ⟨hn₀, hs₀, ha₀⟩ := (nodeIds_ok_iff nc).mp ⟨ids, hi⟩
  rw [nodeIds_ok hn₀ hs₀ ha₀] at hi
  cases hi
  refine ⟨_, parseString_render_configLines hn (getHostnameSuffix_noNewline hs hn.namespace hn.cname)
    hm hd _ _, ?_, lookup_ndbdDefault_configSections ..⟩
  simp only [map_fst_configSections, map_fst_nodeSections, length_idRange, List.append_assoc]

/-! ### Samples -/

def exampleEnv : ConfigEnv where
  kubernetesCname := some "kubernetes.default.svc.cluster.local."
  dataDir := "/var/lib/ndb"
  typeName
    | .mgmd => "mgmd"
    | .ndbmtd => "ndbmtd"
    | .mysqld => "mysqld"
    | .api => "api"
  serviceName name t := name ++ "-" ++ t

theorem exampleEnv_singleLineNames {nc : NdbCluster} (hname : nc.name = "example")
    (hns : nc.«namespace» = "default") : SingleLineNames exampleEnv nc where
  name := hname ▸ by decide
  «namespace» := hns ▸ by decide
  cname c h := by
    cases h
    decide
  dataDir := by decide
  typeName t := by cases t <;> decide
  serviceName t := hname ▸ by cases t <;> decide

def sampleCluster : NdbCluster where
  name := "example"
  «namespace» := "default"
  generation := 1
  spec := ⟨2, 2, 1, none, ⟨[("DataMemory", "2G")], by decide⟩, .empty⟩
  status := ⟨0, 0⟩

theorem sampleCluster_sections :
    ∃ text ini, getConfigString exampleEnv sampleCluster none = .ok text ∧
      parseString text = .ok ini ∧
      ini.map Prod.fst = ["system", "ndbd default", "tcp default", "ndb_mgmd", "ndb_mgmd", "ndbd",
        "ndbd", "api"] ∧
      ini.lookup "ndbd default" =
        some [("NoOfReplicas", "2"), ("ServerPort", "1186"), ("DataMemory", "2G")] := by
  obtain ⟨ini, hp, hs, hl⟩ := getConfigString_sections (exampleEnv_singleLineNames rfl rfl)
    (by decide) (by decide) (rfl : getConfigString exampleEnv sampleCluster none = _)
  exact ⟨_, ini, rfl, hp, hs.trans (by decide), hl⟩

def injectedCluster : NdbCluster where
  name := "example"
  «namespace» := "default"
  generation := 1
  spec := ⟨2, 2, 0, none, ⟨[("NoOfReplicas", "1\n[mysqld]")], by decide⟩, .empty⟩
  status := ⟨0, 0⟩

theorem getConfigString_injected_entry :
    injectedCluster.hasValidSpec = (true, []) ∧
      ((getConfigString exampleEnv injectedCluster none).toOption.bind
          fun text => (parseString text).toOption).map
        (fun ini => (ini.map Prod.fst, ini.lookup "ndbd default")) =
      some (["system", "ndbd default", "mysqld", "tcp default", "ndb_mgmd", "ndb_mgmd", "ndbd",
        "ndbd"], some [("NoOfReplicas", "2"), ("ServerPort", "1186"), ("NoOfReplicas", "1")]) := by
  decide

def collidingCluster : NdbCluster where
  name := "example"
  «namespace» := "default"
  generation := 1
  spec := ⟨128, 2, 1, none, .empty, .empty⟩
  status := ⟨0, 0⟩

theorem getConfigString_reuses_nodeId :
    collidingCluster.hasValidSpec = (true, []) ∧
      ∃ text ini, getConfigString exampleEnv collidingCluster none = .ok text ∧
        parseString text = .ok ini ∧
        (∃ sec ∈ ini, sec.1 = "ndbd" ∧ sec.2.lookup "NodeId" = some "129") ∧
        (∃ sec ∈ ini, sec.1 = "api" ∧ sec.2.lookup "NodeId" = some "129") := by
  have ht : getConfigString exampleEnv collidingCluster none = .ok (render (configLines exampleEnv
      collidingCluster 1 "default.svc.cluster.local" ⟨idRange 1 2, idRange 3 128, idRange 129 0,
        idRange 129 1⟩)) := rfl
  refine ⟨by decide, _, _, ht, parseString_render_configLines (exampleEnv_singleLineNames rfl rfl)
    (by decide) (by decide) (by decide) _ _,
    ⟨("ndbd", nodeSectionEntries exampleEnv collidingCluster .ndbmtd "default.svc.cluster.local" 126
      (3 + 126)), ?_, rfl, by decide⟩, ⟨("api", [("NodeId", toString (129 + 0 : Int))]), ?_, rfl, by decide⟩⟩
  · simp only [configSections, nodeSections_idRange, List.mem_append, List.mem_map, List.mem_range]
    exact .inr (.inl (.inl (.inr ⟨126, by omega, rfl⟩)))
  · simp only [configSections, nodeSections_idRange, List.mem_append, List.mem_map, List.mem_range]
    exact .inr (.inr ⟨0, by omega, rfl⟩)

def headerlessCnfCluster : NdbCluster where
  name := "example"
  «namespace» := "default"
  generation := 1
  spec := ⟨2, 2, 0, some ⟨1, "", "%", "max-connections=200"⟩, .empty, .empty⟩
  status := ⟨0, 0⟩

theorem getMySQLConfigString_headerless_cnf :
    headerlessCnfCluster.hasValidSpec = (true, []) ∧
      (NdbCluster.parsedMyCnf headerlessCnfCluster.getMySQLCnf).2 =
        .ok [("mysqld", [("max-connections", "200")])] ∧
      parseString (getMySQLConfigString headerlessCnfCluster none) =
        .error .nonEmptyLineWithoutSection := by
  decide

end NdbOperator
