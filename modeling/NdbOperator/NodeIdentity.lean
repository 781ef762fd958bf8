import NdbOperator.ConfigReading
import NdbOperator.Sync

set_option autoImplicit false

/-!
# Node identities

The template numbers the node sections with the counters of `GetNodeIds`, and the rollout
addresses the management nodes by the ids `1..m` and looks their pods up by the ordinal
`nodeId - 1`. The two agree: the `i`-th `[ndb_mgmd]` section has NodeId `i + 1` and the hostname
ordinal `i`, so the rollout visits exactly the management nodes of the config, each in the pod
that the config names for it.
-/

namespace NdbOperator

section Template

variable (env : ConfigEnv) (nc : NdbCluster) (suffix : String)

theorem nodeLines_idRange (a b c d : Int) (m n s k : Nat) :
    nodeLines env nc suffix ⟨idRange a m, idRange b n, idRange c s, idRange d k⟩ =
      (List.range m).flatMap (fun i => nodeSectionLines env nc "[ndb_mgmd]" .mgmd suffix i (a + i)) ++
      (List.range n).flatMap (fun i => nodeSectionLines env nc "[ndbd]" .ndbmtd suffix i (b + i)) ++
      ["# MySQLD sections to be used exclusively by MySQL Servers"] ++
      (List.range s).flatMap (fun i => mysqldSectionLines env nc suffix i (c + i)) ++
      ["# API sections to be used by generic NDBAPI applications"] ++
      (List.range k).flatMap (fun i => apiSectionLines (d + i)) := by
  simp only [nodeLines, enum_idRange]
  simp [idRange, List.flatMap_map]

end Template

theorem managementNodeIds_eq_idRange (nc : NdbCluster) :
    managementNodeIds nc = idRange 1 nc.getManagementNodeCount.val.toNat := by
  simp only [managementNodeIds, idRange, Int.add_comm]

/-- The config numbers the nodes by the counters of `GetNodeIds`, and the rollout dials the matching pods. -/
theorem getConfigString_nodeIdentities {env : SyncEnv} {a : Answers} {nc : NdbCluster}
    {old : Option ConfigSummary} {text : String}
    (h : getConfigString env.toConfigEnv nc old = .ok text) :
    (∃ suffix, text = render (systemLines nc (getConfigVersion old) ++ mgmdDefaultLines nc ++
      ndbdDefaultLines nc ++ tcpDefaultLines ++
      (List.range nc.getManagementNodeCount.val.toNat).flatMap (fun i =>
        nodeSectionLines env.toConfigEnv nc "[ndb_mgmd]" .mgmd suffix i (i + 1)) ++
      (List.range nc.spec.nodeCount.val.toNat).flatMap (fun i =>
        nodeSectionLines env.toConfigEnv nc "[ndbd]" .ndbmtd suffix i
          (nc.getManagementNodeCount.val + 1 + i)) ++
      ["# MySQLD sections to be used exclusively by MySQL Servers"] ++
      (List.range nc.getMySQLServerNodeCount.val.toNat).flatMap (fun i =>
        mysqldSectionLines env.toConfigEnv nc suffix i (ndbNodeTypeAPIStartNodeId + i)) ++
      ["# API sections to be used by generic NDBAPI applications"] ++
      (List.range nc.spec.freeAPISlots.val.toNat).flatMap (fun i =>
        apiSectionLines (ndbNodeTypeAPIStartNodeId + nc.getMySQLServerNodeCount.val + i)))) ∧
    (∃ ids, nodeIds nc = .ok ids ∧ ids.mgmd = managementNodeIds nc) ∧
    ∀ k ∈ managementNodeIds nc, ∃ i : Nat, i < nc.getManagementNodeCount.val.toNat ∧ k = i + 1 ∧
      (connectToManagementServer env a nc (.managementServer k) k).run.calls.head? =
        some (if env.runningInsideK8s then
          .getPod (env.serviceName nc.name "mgmd" ++ "-" ++ toString i) else .connect k) := by
  obtain ⟨suffix, ids, -, hi, rfl⟩ := getConfigString_ok h
  obtain ⟨hn, hs, ha⟩ := (nodeIds_ok_iff nc).mp ⟨ids, hi⟩
  rw [nodeIds_ok hn hs ha] at hi
  cases hi
  refine ⟨⟨suffix, ?_⟩, ⟨_, nodeIds_ok hn hs ha, (managementNodeIds_eq_idRange nc).symm⟩,
    fun k hk => ?_⟩
  · simp only [configLines, nodeLines_idRange, List.append_assoc, Int.add_comm _ (1 : Int)]
  · obtain ⟨i, hi, rfl⟩ := List.mem_map.mp hk
    refine ⟨i, List.mem_range.mp hi, rfl, ?_⟩
    rw [connectToManagementServer_run]
    split
    · rcases a.getPod (.managementServer (i + 1)) with _ | ⟨⟩ <;> simp <;> rfl
    · rfl

theorem getConfigString_nodeIdentities_sample :
    ∃ text, getConfigString sampleSyncEnv.toConfigEnv sampleSyncCluster none = .ok text ∧
      ∃ ids, nodeIds sampleSyncCluster = .ok ids ∧ ids.mgmd = managementNodeIds sampleSyncCluster :=
  ⟨_, rfl, (@getConfigString_nodeIdentities sampleSyncEnv convergedAnswers sampleSyncCluster none _
    rfl).2.1⟩

end NdbOperator
