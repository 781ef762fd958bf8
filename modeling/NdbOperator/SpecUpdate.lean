import NdbOperator.ConfigReading
import NdbOperator.Sync
import NdbOperator.Validation

set_option autoImplicit false

/-!
# Accepted spec updates keep the node identities

`IsValidSpecUpdate` freezes `NodeCount` and `RedundancyLevel`. The `[ndb_mgmd]` and `[ndbd]`
sections that `GetConfigString` writes depend on nothing else of the spec: their ids come from the
first two `GetNodeIds` calls, and their hostnames from the cluster's name, the namespace and the
environment. So an accepted update of a cluster leaves them as they were, whatever else it
changes.
-/

namespace NdbOperator

namespace NdbCluster

theorem isValidSpecUpdate_keeps_counts {nc newNc : NdbCluster}
    (h : (nc.isValidSpecUpdate newNc).1 = true) :
    newNc.spec.nodeCount = nc.spec.nodeCount ∧
      newNc.spec.redundancyLevel = nc.spec.redundancyLevel := by
  unfold isValidSpecUpdate at h
  split at h
  · cases h
  · simp only [List.isEmpty_iff, List.append_eq_nil, ite_eq_right_iff, reduceCtorEq, imp_false,
      not_not] at h
    exact ⟨h.1.1.1.symm, h.1.1.2.symm⟩

end NdbCluster

theorem nodeIds_storage {nc : NdbCluster} {ids : NodeIds} (h : nodeIds nc = .ok ids) :
    ids.mgmd = idRange 1 nc.getManagementNodeCount.val.toNat ∧
      ids.ndbmtd = idRange (1 + nc.getManagementNodeCount.val) nc.spec.nodeCount.val.toNat := by
  obtain ⟨hn, hs, ha⟩ := (nodeIds_ok_iff nc).mp ⟨ids, h⟩
  rw [nodeIds_ok hn hs ha] at h
  cases h
  exact ⟨rfl, rfl⟩

/-- An accepted spec update leaves the `[ndb_mgmd]` and `[ndbd]` sections of the config as they were. -/
theorem getConfigString_storageSections_of_isValidSpecUpdate {env : ConfigEnv}
    {nc newNc : NdbCluster} {old old' : Option ConfigSummary} {text text' : String}
    (hv : (nc.isValidSpecUpdate newNc).1 = true) (hname : newNc.name = nc.name)
    (hns : newNc.«namespace» = nc.«namespace»)
    (h : getConfigString env nc old = .ok text) (h' : getConfigString env newNc old' = .ok text') :
    ∃ suffix ids ids', text = render (configLines env nc (getConfigVersion old) suffix ids) ∧
      text' = render (configLines env newNc (getConfigVersion old') suffix ids') ∧
      ids'.mgmd.enum.flatMap (fun p => nodeSectionLines env newNc "[ndb_mgmd]" .mgmd suffix p.1 p.2) =
        ids.mgmd.enum.flatMap (fun p => nodeSectionLines env nc "[ndb_mgmd]" .mgmd suffix p.1 p.2) ∧
      ids'.ndbmtd.enum.flatMap (fun p => nodeSectionLines env newNc "[ndbd]" .ndbmtd suffix p.1 p.2) =
        ids.ndbmtd.enum.flatMap (fun p => nodeSectionLines env nc "[ndbd]" .ndbmtd suffix p.1 p.2) := by
  obtain ⟨hn, hr⟩ := NdbCluster.isValidSpecUpdate_keeps_counts hv
  have hm : newNc.getManagementNodeCount = nc.getManagementNodeCount := by
    simp only [NdbCluster.getManagementNodeCount, hr]
  have hsec : ∀ header t, nodeSectionLines env newNc header t = nodeSectionLines env nc header t := by
    intro header t
    funext suffix idx nodeId
    simp only [nodeSectionLines, hostname, hname]
  obtain ⟨suffix, ids, hs, hi, rfl⟩ := getConfigString_ok h
  obtain ⟨suffix', ids', hs', hi', rfl⟩ := getConfigString_ok h'
  rw [hns, hs, Except.ok.injEq] at hs'
  subst hs'
  obtain ⟨hmg, hnd⟩ := nodeIds_storage hi
  obtain ⟨hmg', hnd'⟩ := nodeIds_storage hi'
  refine ⟨suffix, ids, ids', rfl, rfl, ?_, ?_⟩
  · rw [hmg, hmg', hm, hsec]
  · rw [hnd, hnd', hm, hn, hsec]

def updatedSampleCluster : NdbCluster :=
  { sampleSyncCluster with generation := 2, spec := { dataMemorySpec "2G" with freeAPISlots := 2 } }

theorem getConfigString_storageSections_sample :
    ∃ suffix, ∃ ids ids' : NodeIds,
      ids'.mgmd.enum.flatMap (fun p => nodeSectionLines sampleSyncEnv.toConfigEnv
          updatedSampleCluster "[ndb_mgmd]" .mgmd suffix p.1 p.2) =
        ids.mgmd.enum.flatMap (fun p => nodeSectionLines sampleSyncEnv.toConfigEnv
          sampleSyncCluster "[ndb_mgmd]" .mgmd suffix p.1 p.2) := by
  obtain ⟨suffix, ids, ids', -, -, h, -⟩ :=
    @getConfigString_storageSections_of_isValidSpecUpdate sampleSyncEnv.toConfigEnv sampleSyncCluster
      updatedSampleCluster none (some ⟨1, 1⟩) _ _ (by decide) rfl rfl rfl rfl
  exact ⟨suffix, ids, ids', h⟩

end NdbOperator
