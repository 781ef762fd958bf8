import NdbOperator.Sync

set_option autoImplicit false

/-!
# What a tick of `sync` may change

A tick changes the config that the cluster runs in two ways only: `StopNodes` in the rollout,
and `PatchConfigMap` at its end. Both sit behind the gates of `sync`: the resources existed,
the pods are ready, the cluster is healthy and `HandleScaleDown` let the tick go on. A tick stops
nodes at most once, and persists a new config only after every management node and every data
node below the redundancy level reported the config map's generation.
-/

namespace NdbOperator

open SyncResult Tick

structure RolloutGates (env : SyncEnv) (a : Answers) (nc : NdbCluster) (ensured : Ensured)
    (cs : ClusterStatus) : Prop where
  resources : (ensureAllResources env a nc).run.result = .ok (.ok ensured)
  podsReady : (checkPodsReadiness a).result = .ok continueProcessing
  clusterStatus : (retrieveClusterStatus env a nc).run.result = .ok (.ok cs)
  healthy : cs.isHealthy = true
  scaleDown : a.handleScaleDown = continueProcessing

/-- The stop of the management node rollout: the first node not at `wanted`. -/
def ManagementNodeStop (a : Answers) (nc : NdbCluster) (wanted : Nat) (ids : List Int) : Prop :=
  ∃ pre k post, managementNodeIds nc = pre ++ k :: post ∧
    (∀ k' ∈ pre, a.getConfigVersion k' = .ok wanted) ∧
    (∃ v, a.getConfigVersion k = .ok v ∧ v ≠ wanted) ∧ ids = [k]

/-- The stop of the data node rollout: the old nodes of one position below the redundancy level. -/
def DataNodeStop (a : Answers) (nc : NdbCluster) (rc : ResourceContext) (cs : ClusterStatus)
    (ids : List Int) : Prop :=
  (∀ k ∈ managementNodeIds nc, a.getConfigVersion k = .ok rc.configGeneration) ∧
  ∃ groups i, cs.nodesGroupedByNodegroup = some groups ∧ i < rc.redundancyLevel ∧
    (∀ i' < i, PositionReported a rc.configGeneration groups i') ∧
    OutdatedAt a rc.configGeneration groups i ids

/-- Every management node and data node below the redundancy level reported the config map's generation. -/
def RolloutReported (a : Answers) (nc : NdbCluster) (rc : ResourceContext) (cs : ClusterStatus)
    (calls : List Call) : Prop :=
  (∀ k ∈ managementNodeIds nc, a.getConfigVersion k = .ok rc.configGeneration ∧
    Call.getConfigVersion k ∈ calls) ∧
  ∃ groups, cs.nodesGroupedByNodegroup = some groups ∧ ∀ i < rc.redundancyLevel,
    PositionReported a rc.configGeneration groups i ∧
    ∀ (j : Nat) (g : List Int) (n : Int), groups[j]? = some g → g[i]? = some n →
      Call.getConfigVersion n ∈ calls

section Gates

variable {env : SyncEnv} {a : Answers} {nc : NdbCluster}

@[simp] theorem calls_sync : (sync env a nc).calls = (syncBody env a nc).run.calls := by
  simp only [sync, calls_bind]
  rcases (syncBody env a nc).run.result with h | sr | sr <;> simp

@[simp] theorem result_sync :
    (sync env a nc).result = match (syncBody env a nc).run.result with
      | .ok (.ok sr) => .ok sr
      | .ok (.error sr) => .ok sr
      | .error h => .error h := by
  simp only [sync, result_bind]
  rcases (syncBody env a nc).run.result with h | sr | sr <;> rfl

theorem rolloutGates_resourceContext {ensured : Ensured} {cs : ClusterStatus}
    (h : RolloutGates env a nc ensured cs) : a.resourceContext = .ok ensured.resourceContext :=
  ensureAllResources_resourceContext h.resources

theorem rolloutGates_getStatus {ensured : Ensured} {cs : ClusterStatus}
    (h : RolloutGates env a nc ensured cs) : a.getStatus = .ok cs := by
  have hs := h.clusterStatus
  rw [retrieveClusterStatus_run] at hs
  simp only at hs
  split at hs
  · exact Except.ok.inj hs
  all_goals cases hs

@[simp] theorem calls_handleScaleDown : (handleScaleDown a).calls = [.handleScaleDown] := rfl

@[simp] theorem result_handleScaleDown : (handleScaleDown a).result = .ok a.handleScaleDown := rfl

@[simp] theorem allCalls_handleScaleDown {p : Call → Prop} :
    AllCalls p (handleScaleDown a) ↔ p .handleScaleDown := by
  simp [AllCalls]

@[simp] theorem calls_reconcileDeployment : (reconcileDeployment a).calls = [.reconcileDeployment] :=
  rfl

@[simp] theorem result_reconcileDeployment :
    (reconcileDeployment a).result = .ok a.reconcileDeployment := rfl

@[simp] theorem allCalls_reconcileDeployment {p : Call → Prop} :
    AllCalls p (reconcileDeployment a) ↔ p .reconcileDeployment := by
  simp [AllCalls]

theorem syncRollout_stopsOnce (ensured : Ensured) (cs : ClusterStatus) :
    StopsOnce (fun ids => a.handleScaleDown = continueProcessing ∧
        (ManagementNodeStop a nc ensured.resourceContext.configGeneration ids ∨
          DataNodeStop a nc ensured.resourceContext cs ids))
      (syncRollout env a nc ensured cs) := by
  unfold syncRollout
  refine (stopsOnce_stopIf (.inl (show (handleScaleDown a).calls.filter Call.isStopNodes = [] from
    rfl))).bind fun _ hH => ?_
  have hscale : a.handleScaleDown = continueProcessing := by
    simpa using stopIf_ok hH
  refine (stopsOnce_stopIf ?_).bind fun _ hM => ?_
  · rcases @ensureManagementServerConfigVersionFrom_stops env a nc
      ensured.resourceContext.configGeneration (managementNodeIds nc) with
      h | ⟨pre, k, post, hids, hpre, hk, hf, hres⟩
    · exact .inl h
    · exact .inr ⟨[k], ⟨hscale, .inl ⟨pre, k, post, hids, hpre, hk, rfl⟩⟩, hf, _, hres, rfl⟩
  have hmgmd := ensureManagementServerConfigVersionFrom_continue (stopIf_ok hM)
  refine (stopsOnce_stopIf ?_).bind fun _ _ => ?_
  · rcases @ensureDataNodeConfigVersion_stops env a nc ensured.resourceContext cs with
      h | ⟨groups, i, ids, hg, hi, hpre, hout, hf, sr, hr, hs⟩
    · exact .inl h
    · exact .inr ⟨ids, ⟨hscale, .inr ⟨fun k hk => (hmgmd k hk).1, groups, i, hg, hi, hpre, hout⟩⟩,
        hf, sr, hr, hs⟩
  have hrep := (@ensureDataNodeReplicas_calls a ensured).1
  have hp := @persistNewConfig_calls env a nc ensured.resourceContext
  refine .of_allCalls ?_
  simp only [allCalls_run_bind, allCalls_stopIf, hp]
  exact ⟨hrep.mono fun c h => h ▸ rfl, fun _ _ => ⟨by simp [AllCalls, Call.isStopNodes], by simp⟩⟩

theorem syncBody_stopsOnce :
    StopsOnce (fun ids => ∃ ensured cs, RolloutGates env a nc ensured cs ∧
        (ManagementNodeStop a nc ensured.resourceContext.configGeneration ids ∨
          DataNodeStop a nc ensured.resourceContext cs ids))
      (syncBody env a nc) := by
  unfold syncBody
  refine (StopsOnce.of_allCalls (ensureAllResources_changesConfig.mono
    fun _ h => Call.isStopNodes_of_changesConfig h)).bind fun ensured hE => ?_
  refine (stopsOnce_stopIf (.inl (List.filter_eq_nil_iff.mpr fun c hc => ?_))).bind fun _ hP => ?_
  · obtain ⟨token, rfl⟩ := (checkPodsReadinessFrom_spec "" a.listPods).1 c hc
    simp [Call.isStopNodes]
  refine (StopsOnce.of_allCalls ?_).bind fun cs hcs => ?_
  · simpa using retrieveClusterStatus_calls.mono fun _ h => Call.isStopNodes_of_mutates h
  dsimp only
  split
  · exact .of_allCalls (by simp)
  · rename_i hh
    refine (StopsOnce.of_allCalls (by simp)).bind fun _ _ => ?_
    refine (syncRollout_stopsOnce ensured cs).mono fun ids ⟨hs, h⟩ => ⟨ensured, cs, ?_, h⟩
    exact ⟨hE, stopIf_ok hP, result_adapt_ok hcs, by simpa using hh, hs⟩

theorem syncBody_reaches_persist {c : Call} {b : SyncResult} (hp : c.persists)
    (h : c ∈ (syncBody env a nc).run.calls ∨ (syncBody env a nc).run.result = .ok (.ok b)) :
    ∃ ensured cs, RolloutGates env a nc ensured cs ∧
      (ensureManagementServerConfigVersion env a nc ensured.resourceContext).result =
        .ok continueProcessing ∧
      (ensureDataNodeConfigVersion env a nc ensured.resourceContext cs).result =
        .ok continueProcessing ∧
      a.reconcileDeployment = continueProcessing ∧
      (ensureDataNodeReplicas a ensured).run.result = .ok (.ok ()) ∧
      (c ∈ (persistNewConfig env a nc ensured.resourceContext).run.calls ∨
        (persistNewConfig env a nc ensured.resourceContext).run.result = .ok (.ok b)) ∧
      (ensureManagementServerConfigVersion env a nc ensured.resourceContext).calls ⊆
        (syncBody env a nc).run.calls ∧
      (ensureDataNodeConfigVersion env a nc ensured.resourceContext cs).calls ⊆
        (syncBody env a nc).run.calls := by
  -- no step before persisting makes a call that only persisting makes
  have hne {c' : Call} (he : c = c') (h' : c'.persists = false) : False := by
    subst he
    simp [hp] at h'
  have hrollout (hc : RolloutCall c) : False := by
    rcases hc with hc | hc <;> cases c <;> simp_all [Call.persists, Call.isStopNodes, Call.mutates]
  unfold syncBody at h ⊢
  obtain ⟨ensured, hE, h⟩ := reaches_bind (fun hc => hne rfl (ensureAllResources_calls _ hc).2) h
  obtain ⟨_, hP, h⟩ := reaches_bind (fun hc => by
    obtain ⟨_, h⟩ := (checkPodsReadinessFrom_spec "" a.listPods).1 _ (by simpa using hc)
    exact hne h rfl) h
  obtain ⟨cs, hcs, h⟩ := reaches_bind (fun hc => absurd (retrieveClusterStatus_calls _
    (by simpa using hc)) (by simp [Call.mutates_of_persists hp])) h
  dsimp only at h
  split at h
  · simp at h
  · rename_i hh
    replace hh : cs.isHealthy = true := by simpa using hh
    obtain ⟨_, -, h⟩ := reaches_bind (by simp) h
    unfold syncRollout at h
    obtain ⟨_, hH, h⟩ := reaches_bind (fun hc => @hne .handleScaleDown (by simpa using hc) rfl) h
    obtain ⟨_, hM, h⟩ := reaches_bind (fun hc => hrollout
      ((ensureManagementServerConfigVersionFrom_calls _ _).1 _ (by simpa using hc))) h
    obtain ⟨_, hD, h⟩ := reaches_bind (fun hc => hrollout
      ((ensureDataNodeConfigVersion_calls _ _).1 _ (by simpa using hc))) h
    obtain ⟨_, hR, h⟩ := reaches_bind (fun hc =>
      hne ((@ensureDataNodeReplicas_calls a ensured).1 c hc) rfl) h
    obtain ⟨_, hRD, h⟩ := reaches_bind (fun hc =>
      @hne .reconcileDeployment (by simpa using hc) rfl) h
    refine ⟨ensured, cs, ⟨hE, stopIf_ok hP, result_adapt_ok hcs, hh,
      by simpa using stopIf_ok hH⟩, stopIf_ok hM, stopIf_ok hD, by simpa using stopIf_ok hRD, hR,
      h, fun c hc => ?_, fun c hc => ?_⟩
    all_goals simp only [syncRollout, ExceptT.run_bind, calls_bind_runBind, run_calls_stopIf,
      run_result_stopIf, run_calls_adapt, hE, hP, hcs, hh, hH, stopIf_ok hM, stopIf_ok hD, hR,
      callsAfter_ok, Bool.not_true, Bool.true_eq_false, Bool.false_eq_true, ↓reduceIte,
      ExceptT.run_pure, calls_pure, result_pure, calls_handleScaleDown, calls_reconcileDeployment,
      result_reconcileDeployment, stopSync_continueProcessing, List.singleton_append,
      List.nil_append, List.mem_append, List.mem_cons, hc, true_or, or_true]

theorem syncBody_throws (hs : a.handleScaleDown ≠ finishProcessing)
    (hr : a.reconcileDeployment ≠ finishProcessing) :
    ThrowsOnly (fun sr => sr ≠ finishProcessing) (syncBody env a nc) := by
  have hpods : ∀ sr, (checkPodsReadiness a).result = .ok sr → sr ≠ finishProcessing :=
    fun sr h hf => (checkPodsReadinessFrom_spec "" a.listPods).2 (hf ▸ h)
  unfold syncBody
  refine throwsOnly_bind.mpr ⟨ensureAllResources_throws, fun ensured _ => ?_⟩
  refine throwsOnly_bind.mpr ⟨throwsOnly_stopIf.mpr fun sr h _ => hpods sr h, fun _ _ => ?_⟩
  refine throwsOnly_bind.mpr ⟨by simp, fun cs _ => ?_⟩
  dsimp only
  split
  · simp
  · refine throwsOnly_bind.mpr ⟨by simp, fun _ _ => ?_⟩
    unfold syncRollout
    refine throwsOnly_bind.mpr ⟨throwsOnly_stopIf.mpr fun sr h _ => ?_, fun _ _ => ?_⟩
    · simp only [result_handleScaleDown, Except.ok.injEq] at h
      exact h ▸ hs
    refine throwsOnly_bind.mpr ⟨throwsOnly_stopIf.mpr fun sr h _ hf =>
      (ensureManagementServerConfigVersionFrom_calls _ _).2 (hf ▸ h), fun _ _ => ?_⟩
    refine throwsOnly_bind.mpr ⟨throwsOnly_stopIf.mpr fun sr h _ hf =>
      (ensureDataNodeConfigVersion_calls _ _).2 (hf ▸ h), fun _ _ => ?_⟩
    refine throwsOnly_bind.mpr ⟨(ensureDataNodeReplicas_calls ensured).2, fun _ _ => ?_⟩
    refine throwsOnly_bind.mpr ⟨throwsOnly_stopIf.mpr fun sr h _ => ?_, fun _ _ => ?_⟩
    · simp only [result_reconcileDeployment, Except.ok.injEq] at h
      exact h ▸ hr
    exact persistNewConfig_throws _

theorem RolloutGates.unique {ensured ensured' : Ensured} {cs cs' : ClusterStatus}
    (h : RolloutGates env a nc ensured cs) (h' : RolloutGates env a nc ensured' cs') :
    ensured' = ensured ∧ cs' = cs := by
  have he := h'.resources.symm.trans h.resources
  have hc := h'.clusterStatus.symm.trans h.clusterStatus
  simp only [Except.ok.injEq] at he hc
  exact ⟨he, hc⟩

theorem sync_stopNodes :
    (sync env a nc).calls.filter Call.isStopNodes = [] ∨
      ∃ ensured cs ids, RolloutGates env a nc ensured cs ∧
        (sync env a nc).calls.filter Call.isStopNodes = [.stopNodes ids] ∧
        (ManagementNodeStop a nc ensured.resourceContext.configGeneration ids ∨
          DataNodeStop a nc ensured.resourceContext cs ids) := by
  rw [calls_sync]
  rcases @syncBody_stopsOnce env a nc with h | ⟨ids, ⟨ensured, cs, hg, hstop⟩, hf, -⟩
  · exact .inl h
  · exact .inr ⟨ensured, cs, ids, hg, hf, hstop⟩

theorem sync_noStop_of_rollout {ensured : Ensured} {cs : ClusterStatus}
    (hg : RolloutGates env a nc ensured cs)
    (hM : (ensureManagementServerConfigVersion env a nc ensured.resourceContext).result =
      .ok continueProcessing)
    (hD : (ensureDataNodeConfigVersion env a nc ensured.resourceContext cs).result =
      .ok continueProcessing) :
    (sync env a nc).calls.filter Call.isStopNodes = [] := by
  rcases @sync_stopNodes env a nc with h | ⟨ensured', cs', ids, hg', -, hstop⟩
  · exact h
  · exfalso
    obtain ⟨rfl, rfl⟩ := hg.unique hg'
    rcases hstop with ⟨pre, k, post, hids, -, ⟨v, hv, hne⟩, -⟩ | ⟨-, groups, i, hgr, hi, -, hne, hout⟩
    · have hk := (ensureManagementServerConfigVersionFrom_continue hM k (by simp [hids])).1
      exact hne (Except.ok.inj (hv.symm.trans hk))
    · obtain ⟨n, hn⟩ := List.exists_mem_of_ne_nil _ hne
      obtain ⟨j, g, v, hj, -, hv, hvw⟩ := hout n hn
      obtain ⟨groups', hgr', hrep⟩ := ensureDataNodeConfigVersion_continue hD
      rw [hgr] at hgr'
      cases hgr'
      obtain ⟨_, -, hv'⟩ := (hrep i hi).1 j g hj
      exact hvw (Except.ok.inj (hv.symm.trans hv'))

theorem mem_sync_of_rollout {ensured : Ensured} {cs : ClusterStatus}
    (hg : RolloutGates env a nc ensured cs) {c : Call}
    (h : c ∈ (ensureManagementServerConfigVersion env a nc ensured.resourceContext).calls ∨
      (ensureManagementServerConfigVersion env a nc ensured.resourceContext).result =
          .ok continueProcessing ∧
        c ∈ (ensureDataNodeConfigVersion env a nc ensured.resourceContext cs).calls) :
    c ∈ (sync env a nc).calls := by
  have hP := hg.podsReady
  have hR := hg.clusterStatus
  rw [calls_sync]
  simp only [syncBody, syncRollout, ExceptT.run_bind, calls_bind_runBind, run_calls_stopIf,
    run_result_stopIf, run_calls_adapt, run_result_adapt, hg.resources, hP, hR, hg.healthy,
    hg.scaleDown, callsAfter_ok, result_handleScaleDown, stopSync_continueProcessing,
    Bool.not_true, Bool.false_eq_true, ↓reduceIte, List.mem_append]
  rcases h with h | ⟨hM, h⟩
  · simp [h]
  · simp [hM, h]

theorem result_syncBody_of_rollout {ensured : Ensured} {cs : ClusterStatus}
    (hg : RolloutGates env a nc ensured cs)
    (hM : (ensureManagementServerConfigVersion env a nc ensured.resourceContext).result =
      .ok continueProcessing)
    (hD : (ensureDataNodeConfigVersion env a nc ensured.resourceContext cs).result =
      .ok continueProcessing)
    (hR : (ensureDataNodeReplicas a ensured).run.result = .ok (.ok ()))
    (hRD : a.reconcileDeployment = continueProcessing) :
    (syncBody env a nc).run.result =
      (persistNewConfig env a nc ensured.resourceContext).run.result := by
  have hP := hg.podsReady
  have hC := hg.clusterStatus
  simp only [syncBody, syncRollout, ExceptT.run_bind, result_bind_runBind, run_result_stopIf,
    run_result_adapt, hg.resources, hP, hC, hg.healthy, hg.scaleDown, result_handleScaleDown,
    result_reconcileDeployment, stopSync_continueProcessing, Bool.not_true, Bool.false_eq_true,
    Bool.true_eq_false, ↓reduceIte, ExceptT.run_pure, hM, hD, hR, hRD]

theorem syncBody_finishes (hs : a.handleScaleDown ≠ finishProcessing)
    (hr : a.reconcileDeployment ≠ finishProcessing)
    (hf : (sync env a nc).result = .ok finishProcessing) :
    (syncBody env a nc).run.result = .ok (.ok finishProcessing) := by
  rw [result_sync] at hf
  split at hf
  · rwa [← Except.ok.inj hf]
  · cases hf
    exact absurd rfl (syncBody_throws hs hr _ ‹_›)
  · cases hf

theorem syncBody_reaches_persist_reported {b : SyncResult}
    (h : Call.patchConfigMap ∈ (syncBody env a nc).run.calls ∨
      (syncBody env a nc).run.result = .ok (.ok b)) :
    ∃ ensured cs, RolloutGates env a nc ensured cs ∧ a.reconcileDeployment = continueProcessing ∧
      (sync env a nc).calls.filter Call.isStopNodes = [] ∧
      RolloutReported a nc ensured.resourceContext cs (sync env a nc).calls := by
  obtain ⟨ensured, cs, hg, hM, hD, hRD, -, -, hMsub, hDsub⟩ :=
    @syncBody_reaches_persist env a nc .patchConfigMap b rfl h
  refine ⟨ensured, cs, hg, hRD, sync_noStop_of_rollout hg hM hD, fun k hk => ?_, ?_⟩
  · obtain ⟨hv, hc⟩ := ensureManagementServerConfigVersionFrom_continue hM k hk
    exact ⟨hv, by simpa using hMsub hc⟩
  · obtain ⟨groups, hgr, hrep⟩ := ensureDataNodeConfigVersion_continue hD
    exact ⟨groups, hgr, fun i hi => ⟨(hrep i hi).1, fun j g n hj hn => by
      simpa using hDsub ((hrep i hi).2 j g n hj hn)⟩⟩

/-- A tick persists, or finishes of its own, only after a rollout that reported the config map's generation. -/
theorem sync_persists_only_after_rollout (env : SyncEnv) (a : Answers) (nc : NdbCluster)
    (hs : a.handleScaleDown ≠ finishProcessing) (hr : a.reconcileDeployment ≠ finishProcessing)
    (h : Call.patchConfigMap ∈ (sync env a nc).calls ∨
      (sync env a nc).result = .ok finishProcessing) :
    ∃ ensured cs, RolloutGates env a nc ensured cs ∧ a.reconcileDeployment = continueProcessing ∧
      (sync env a nc).calls.filter Call.isStopNodes = [] ∧
      RolloutReported a nc ensured.resourceContext cs (sync env a nc).calls := by
  have h' : Call.patchConfigMap ∈ (syncBody env a nc).run.calls ∨
      (syncBody env a nc).run.result = .ok (.ok finishProcessing) := by
    rw [calls_sync] at h
    refine h.imp_right fun hf => ?_
    rw [result_sync] at hf
    split at hf
    · rename_i sr hsr
      rwa [← Except.ok.inj hf]
    · cases hf
      exact absurd rfl (syncBody_throws hs hr _ ‹_›)
    · cases hf
  exact syncBody_reaches_persist_reported h'

theorem sync_persists_only_after_rollout_converged :
    convergedAnswers.handleScaleDown ≠ finishProcessing ∧
      convergedAnswers.reconcileDeployment ≠ finishProcessing ∧
      (sync sampleSyncEnv convergedAnswers sampleSyncCluster).result = .ok finishProcessing ∧
      ∃ ensured cs, RolloutGates sampleSyncEnv convergedAnswers sampleSyncCluster ensured cs ∧
        convergedAnswers.reconcileDeployment = continueProcessing ∧
        (sync sampleSyncEnv convergedAnswers sampleSyncCluster).calls.filter Call.isStopNodes = [] ∧
        RolloutReported convergedAnswers sampleSyncCluster ensured.resourceContext cs
          (sync sampleSyncEnv convergedAnswers sampleSyncCluster).calls :=
  ⟨by decide, by decide, rfl,
    sync_persists_only_after_rollout _ _ _ (by decide) (by decide) (.inr rfl)⟩

/-- `HandleScaleDown` answering `finishProcessing` ends the tick before any config version is asked. -/
theorem sync_finishes_at_handleScaleDown :
    (sync sampleSyncEnv { convergedAnswers with
        handleScaleDown := finishProcessing, getConfigVersion := fun _ => .ok 0 }
      sampleSyncCluster).result = .ok finishProcessing ∧
    Call.getConfigVersion 1 ∉ (sync sampleSyncEnv { convergedAnswers with
        handleScaleDown := finishProcessing, getConfigVersion := fun _ => .ok 0 }
      sampleSyncCluster).calls := by
  decide

end Gates

end NdbOperator
