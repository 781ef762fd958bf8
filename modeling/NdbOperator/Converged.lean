import NdbOperator.SyncGates

set_option autoImplicit false

/-!
# A converged cluster

When every object that `sync` ensures exists and is owned by the NdbCluster, the pods are ready,
the cluster is healthy, every node runs the config map's generation, the data node StatefulSet
has its replicas, and the config map and the status are up to date with the spec, a tick only
reads: it makes no create, patch, `StopNodes`, `PatchConfigMap` or `UpdateStatus` call, and
finishes. The MySQL Server controller, which is not under src/, has to let the tick go on in that
state, and a MySQL Server deployment has to be owned by the NdbCluster like every other object.
-/

namespace NdbOperator

open SyncResult Tick

structure Converged (env : SyncEnv) (a : Answers) (nc : NdbCluster) (rc : ResourceContext)
    (cs : ClusterStatus) : Prop where
  services : ∀ name, a.getService name = .ok ()
  podDisruptionBudget : a.getPodDisruptionBudget = .ok ()
  configMap : a.ensureConfigMap = .ok true
  resourceContext : a.resourceContext = .ok rc
  managementStatefulSet : ∃ s, a.ensureStatefulSet (env.typeName .mgmd) = .ok (some s, true) ∧
    s.controlledByNdb = true
  dataNodeStatefulSet : ∃ s r, a.ensureStatefulSet (env.typeName .ndbmtd) = .ok (some s, true) ∧
    s.controlledByNdb = true ∧ s.replicas = some r ∧ r.val = rc.numOfDataNodes
  mysqldDeployment : ∃ d?, a.getDeployment = .ok d? ∧ ∀ d, d? = some d → d.controlledByNdb = true
  podsReady : podPagesReady a.listPods = true
  reachable : ∀ site, a.getPod site = .ok () ∧ a.connect site = .ok ()
  clusterStatus : a.getStatus = .ok cs
  healthy : cs.isHealthy = true
  managementNodes : ∀ k ∈ managementNodeIds nc, a.getConfigVersion k = .ok rc.configGeneration
  dataNodes : ∃ groups, cs.nodesGroupedByNodegroup = some groups ∧
    (∀ g ∈ groups, rc.redundancyLevel ≤ g.length) ∧
    ∀ i < rc.redundancyLevel, ∀ j < groups.length,
      a.getDataNodeConfigVersion i j = .ok rc.configGeneration
  configHash : env.calculateNewConfigHash nc.spec = .ok rc.configHash
  processedGeneration : nc.status.processedGeneration = nc.generation
  scaleDown : a.handleScaleDown = continueProcessing
  reconcile : a.reconcileDeployment = continueProcessing

section Converged

variable {env : SyncEnv} {a : Answers} {nc : NdbCluster} {rc : ResourceContext} {cs : ClusterStatus}

theorem Converged.connect (h : Converged env a nc rc cs) (site : ConnectSite) (nodeId : Int) :
    (connectToManagementServer env a nc site nodeId).run.result = .ok (.ok ()) :=
  connectToManagementServer_ok (h.reachable site).1 (h.reachable site).2

theorem Converged.retrieveClusterStatus (h : Converged env a nc rc cs) :
    (retrieveClusterStatus env a nc).run.result = .ok (.ok cs) := by
  rw [retrieveClusterStatus_run]
  simp [h.connect, h.clusterStatus]

theorem Converged.rollout (h : Converged env a nc rc cs) :
    (ensureManagementServerConfigVersion env a nc rc).result = .ok continueProcessing ∧
      (ensureDataNodeConfigVersion env a nc rc cs).result = .ok continueProcessing := by
  obtain ⟨groups, hgr, hlen, hv⟩ := h.dataNodes
  exact ⟨ensureManagementServerConfigVersionFrom_wanted (fun k _ => h.connect _ k) h.managementNodes,
    ensureDataNodeConfigVersion_wanted (h.connect _ 1) hgr hlen hv⟩

/-- A tick in a converged cluster mutates nothing and finishes. -/
theorem sync_converged_noop (h : Converged env a nc rc cs) :
    (sync env a nc).result = .ok finishProcessing ∧
      ∀ c ∈ (sync env a nc).calls, c.mutates = false := by
  obtain ⟨mgmdSet, hm, hmo⟩ := h.managementStatefulSet
  obtain ⟨dataSet, r, hd, hdo, hr, hrv⟩ := h.dataNodeStatefulSet
  obtain ⟨dep, hdep, hdepo⟩ := h.mysqldDeployment
  obtain ⟨hE, hEc⟩ := @ensureAllResources_existing env a nc rc mgmdSet dataSet dep h.services
    h.podDisruptionBudget h.configMap h.resourceContext hm hmo hd hdo hdep hdepo
  have hP : (checkPodsReadiness a).result = .ok continueProcessing :=
    checkPodsReadinessFrom_ready h.podsReady
  have hPc : AllCalls (fun c => c.mutates = false) (checkPodsReadiness a) :=
    (checkPodsReadinessFrom_spec "" a.listPods).1.mono fun c ⟨_, hc⟩ => hc ▸ rfl
  obtain ⟨hM, hD⟩ := h.rollout
  have hMc : AllCalls (fun c => c.mutates = false) (ensureManagementServerConfigVersion env a nc rc) :=
    ensureManagementServerConfigVersionFrom_readOnly hM
  have hrep := @ensureDataNodeReplicas_equal a rc dataSet dep r hr hrv
  have hpersist := @persistNewConfig_inSync env a nc rc h.configHash h.processedGeneration
  have hH : Call.handleScaleDown.mutates = false := rfl
  have hRD : Call.reconcileDeployment.mutates = false := rfl
  have hIn : (Call.event .inSync).mutates = false := rfl
  have hbody : (syncBody env a nc).run.result = .ok (.ok finishProcessing) ∧
      AllCalls (fun c => c.mutates = false) (syncBody env a nc).run := by
    simp [syncBody, syncRollout, hE, hEc, hP, hPc, h.retrieveClusterStatus,
      retrieveClusterStatus_calls, h.healthy, h.scaleDown, hM, hMc, hD,
      ensureDataNodeConfigVersion_readOnly hD, hrep, hpersist, h.reconcile, hH, hRD, hIn]
  simp only [result_sync, hbody.1, calls_sync, true_and]
  exact hbody.2

theorem converged_sample :
    Converged sampleSyncEnv convergedAnswers sampleSyncCluster ⟨1, 2, 2, "h1"⟩ ⟨true, some [[3, 4]]⟩ :=
  ⟨fun _ => rfl, rfl, rfl, rfl, ⟨_, rfl, rfl⟩, ⟨_, _, rfl, rfl, rfl, rfl⟩, ⟨none, rfl, nofun⟩, rfl,
    fun _ => ⟨rfl, rfl⟩, rfl, rfl, fun _ _ => rfl, ⟨[[3, 4]], rfl, by decide, fun _ _ _ _ => rfl⟩,
    rfl, rfl, rfl, rfl⟩

theorem sync_converged_noop_sample :
    Converged sampleSyncEnv convergedAnswers sampleSyncCluster ⟨1, 2, 2, "h1"⟩ ⟨true, some [[3, 4]]⟩ ∧
      (sync sampleSyncEnv convergedAnswers sampleSyncCluster).result = .ok finishProcessing ∧
      ∀ c ∈ (sync sampleSyncEnv convergedAnswers sampleSyncCluster).calls, c.mutates = false :=
  ⟨converged_sample, sync_converged_noop converged_sample⟩

/-- Two ticks of the sample cluster that mutate nothing and do not finish. -/
theorem sync_converged_not_finished :
    (sync sampleSyncEnv { convergedAnswers with getDeployment := .ok (some ⟨"example-mysqld", false⟩) }
        sampleSyncCluster).result = .ok (errorWhileProcessing (.resourceExists "example-mysqld")) ∧
      (sync sampleSyncEnv { convergedAnswers with getDeployment := .ok (some ⟨"example-mysqld", false⟩) }
        sampleSyncCluster).calls.all (fun c => !c.mutates) ∧
      (sync sampleSyncEnv { convergedAnswers with handleScaleDown := requeueInSeconds 5 }
        sampleSyncCluster).result = .ok (requeueInSeconds 5) ∧
      (sync sampleSyncEnv { convergedAnswers with handleScaleDown := requeueInSeconds 5 }
        sampleSyncCluster).calls.all (fun c => !c.mutates) := by
  decide

end Converged

end NdbOperator
