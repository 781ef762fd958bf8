import NdbOperator.Rollout

set_option autoImplicit false

/-!
# `sync` and the status update

`SyncContext.sync`: ensure the resources, wait for the pods and a healthy cluster, scale the
MySQL Servers down, roll the config out to the management and then the data nodes, patch the
data node StatefulSet's replicas, reconcile the MySQL Servers, and only then persist a new
config when the spec's hash has changed, and update the status. The status update retries a
conflict through the client-gen clientset, whose failed `UpdateStatus` leaves an empty object:
the retry's `Get` of its empty name fails, so every status written is the one this tick computed.
-/

namespace NdbOperator

open SyncResult Tick

section Sync

variable (env : SyncEnv) (a : Answers) (nc : NdbCluster)

/-- Modelled from client-gen (not under src/): a failed `UpdateStatus` returns an empty object. -/
def emptyNdbCluster : NdbCluster := ⟨"", "", 0, ⟨0, 0, 0, none, .empty, .empty⟩, ⟨0, 0⟩⟩

/-- Modelled from the client-gen clientset: `Get` refuses an empty name before any request. -/
def getNdbCluster (name : String) (attempt : Nat) : ExceptT ApiError Tick NdbCluster :=
  if name = "" then throw (.other "resource name may not be empty") else do
    Tick.call (.getNdbCluster name)
    Tick.answer (a.getNdbCluster attempt)

/-- `wait.ExponentialBackoff(retry.DefaultBackoff, ...)` around `UpdateStatus`, at most `steps` attempts. -/
def updateStatusWithBackoff : Nat → Nat → NdbCluster → ExceptT ApiError Tick NdbCluster
  | 0, _, _ => throw .waitTimeout
  | steps + 1, attempt, ndb => do
    Tick.call (.updateStatus ndb.status)
    match a.updateStatus attempt with
    | .ok returned => return returned
    | .error err =>
      let ndb := emptyNdbCluster
      if err ≠ .conflict then throw err
      let updated ← getNdbCluster a ndb.name attempt
      updateStatusWithBackoff steps (attempt + 1) updated

/-- The processed generation that `updateNdbClusterStatus` writes, if it writes one. -/
def newProcessedGeneration (hasPendingConfigChanges : Bool) : Option Int :=
  if hasPendingConfigChanges then
    if nc.status.processedGeneration + 1 = nc.generation then none else some (nc.generation - 1)
  else if nc.status.processedGeneration = nc.generation then none else some nc.generation

def updateNdbClusterStatus (hasPendingConfigChanges : Bool) : ExceptT ApiError Tick Unit := do
  match newProcessedGeneration nc hasPendingConfigChanges with
  | none => if !hasPendingConfigChanges then Tick.call (.event .inSync)
  | some processedGeneration =>
    let ndb := { nc with status := ⟨processedGeneration, a.now⟩ }
    let _ ← updateStatusWithBackoff a env.backoffSteps 0 ndb
    Tick.call (.event .syncSuccess)

/-- `HandleScaleDown` of the MySQL Server controller, whose verdict is an answer here. -/
def handleScaleDown : Tick SyncResult := do
  Tick.call .handleScaleDown
  pure a.handleScaleDown

def reconcileDeployment : Tick SyncResult := do
  Tick.call .reconcileDeployment
  pure a.reconcileDeployment

/-- The replica check of `sync`; a nil StatefulSet or replica count panics. -/
def ensureDataNodeReplicas (ensured : Ensured) : ExceptT SyncResult Tick Unit := do
  let some dataNodeSfSet := ensured.dataNodeSfSet
    | Tick.halt (.panic "invalid memory address or nil pointer dereference")
  let some replicas := dataNodeSfSet.replicas
    | Tick.halt (.panic "invalid memory address or nil pointer dereference")
  if ensured.resourceContext.numOfDataNodes ≠ (replicas.val % 2 ^ 32).toNat then
    Tick.call .patchStatefulSet
    let _ ← (Tick.answer a.patchStatefulSet).adapt errorWhileProcessing

/-- The end of `sync`: persist a new config when the spec's hash changed, then update the status. -/
def persistNewConfig (rc : ResourceContext) : ExceptT SyncResult Tick SyncResult := do
  let newConfigHash ←
    (ExceptT.mk (pure (env.calculateNewConfigHash nc.spec)) : ExceptT ApiError Tick String).adapt
      errorWhileProcessing
  let hasPendingConfigChanges := rc.configHash ≠ newConfigHash
  if hasPendingConfigChanges then
    Tick.call .patchConfigMap
    (Tick.answer a.patchConfigMap).adapt errorWhileProcessing
  (updateNdbClusterStatus env a nc hasPendingConfigChanges).adapt errorWhileProcessing
  if hasPendingConfigChanges then return requeueInSeconds 0
  return finishProcessing

def syncRollout (ensured : Ensured) (clusterState : ClusterStatus) :
    ExceptT SyncResult Tick SyncResult := do
  Tick.stopIf (handleScaleDown a)
  Tick.stopIf (ensureManagementServerConfigVersion env a nc ensured.resourceContext)
  Tick.stopIf (ensureDataNodeConfigVersion env a nc ensured.resourceContext clusterState)
  ensureDataNodeReplicas a ensured
  Tick.stopIf (reconcileDeployment a)
  persistNewConfig env a nc ensured.resourceContext

/-- The body of `sync`: a thrown verdict is returned at once. -/
def syncBody : ExceptT SyncResult Tick SyncResult := do
  let ensured ← ensureAllResources env a nc
  Tick.stopIf (checkPodsReadiness a)
  let clusterState ← (retrieveClusterStatus env a nc).adapt errorWhileProcessing
  if !clusterState.isHealthy then throw (requeueInSeconds 5)
  syncRollout env a nc ensured clusterState

def sync : Tick SyncResult := do
  match ← (syncBody env a nc).run with
  | .ok sr => pure sr
  | .error sr => pure sr

end Sync

/-! ## A sample cluster -/

def sampleSyncEnv : SyncEnv where
  kubernetesCname := none
  dataDir := "/var/lib/ndb"
  typeName
    | .mgmd => "mgmd"
    | .ndbmtd => "ndbmtd"
    | .mysqld => "mysqld"
    | .api => "api"
  serviceName name t := name ++ "-" ++ t
  podDisruptionBudgetName name t := name ++ "-pdb-" ++ t
  runningInsideK8s := true
  calculateNewConfigHash _ := .ok "h1"
  backoffSteps := 4

def sampleSyncCluster : NdbCluster :=
  ⟨"example", "default", 1, ⟨2, 2, 0, none, .empty, .empty⟩, ⟨1, 0⟩⟩

/-- A tick of the sample cluster when everything exists and every node runs generation 1. -/
def convergedAnswers : Answers where
  getService _ := .ok ()
  createService _ := .ok ()
  getPodDisruptionBudget := .ok ()
  createPodDisruptionBudget := .ok ()
  ensureConfigMap := .ok true
  resourceContext := .ok ⟨1, 2, 2, "h1"⟩
  ensureStatefulSet t := .ok (some ⟨"example-" ++ t, true, some 2⟩, true)
  getDeployment := .ok none
  listPods := [.ok ⟨[⟨[⟨"Ready", "True"⟩]⟩], ""⟩]
  getPod _ := .ok ()
  connect _ := .ok ()
  getStatus := .ok ⟨true, some [[3, 4]]⟩
  getConfigVersion _ := .ok 1
  getDataNodeConfigVersion _ _ := .ok 1
  stopDataNodes := .ok ()
  handleScaleDown := continueProcessing
  patchStatefulSet := .error (.other "unexpected patch")
  reconcileDeployment := continueProcessing
  patchConfigMap := .ok ()
  updateStatus _ := .ok sampleSyncCluster
  getNdbCluster _ := .ok sampleSyncCluster
  now := 100

def dataMemorySpec (memory : String) : NdbClusterSpec :=
  ⟨2, 2, 0, none, ⟨[("DataMemory", memory)], List.pairwise_singleton _ _⟩, .empty⟩

def hashSyncEnv : SyncEnv :=
  { sampleSyncEnv with
    calculateNewConfigHash := fun spec => .ok (String.join (spec.dataNodeConfig.entries.map Prod.snd)) }

/-! ## What the steps after the rollout do -/

section Specs

variable {env : SyncEnv} {a : Answers} {nc : NdbCluster}

theorem updateStatusWithBackoff_succ (steps attempt : Nat) (ndb : NdbCluster) :
    (updateStatusWithBackoff a (steps + 1) attempt ndb).run =
      ⟨[.updateStatus ndb.status], .ok (match a.updateStatus attempt with
        | .ok returned => .ok returned
        | .error err =>
          .error (if err = .conflict then .other "resource name may not be empty" else err))⟩ := by
  simp only [updateStatusWithBackoff]
  rcases a.updateStatus attempt with err | returned
  · by_cases hc : err = .conflict
    · subst hc
      rfl
    · simp only [ne_eq, hc, not_false_eq_true, if_true, if_false]
      rfl
  · rfl

theorem updateNdbClusterStatus_run (hasPendingConfigChanges : Bool) :
    (updateNdbClusterStatus env a nc hasPendingConfigChanges).run =
      match newProcessedGeneration nc hasPendingConfigChanges, env.backoffSteps with
      | none, _ => ⟨if hasPendingConfigChanges then [] else [.event .inSync], .ok (.ok ())⟩
      | some _, 0 => ⟨[], .ok (.error .waitTimeout)⟩
      | some pg, _ + 1 =>
        match a.updateStatus 0 with
        | .ok _ => ⟨[.updateStatus ⟨pg, a.now⟩, .event .syncSuccess], .ok (.ok ())⟩
        | .error err => ⟨[.updateStatus ⟨pg, a.now⟩],
            .ok (.error (if err = .conflict then .other "resource name may not be empty" else err))⟩ := by
  unfold updateNdbClusterStatus
  rcases newProcessedGeneration nc hasPendingConfigChanges with _ | pg
  · cases hasPendingConfigChanges <;> rfl
  rcases env.backoffSteps with _ | steps
  · rfl
  simp only [ExceptT.run_bind, updateStatusWithBackoff_succ]
  rcases a.updateStatus 0 with err | returned <;> rfl

theorem updateNdbClusterStatus_calls (hasPendingConfigChanges : Bool) :
    AllCalls (fun c => (∃ st, c = .updateStatus st) ∨ ∃ reason, c = .event reason)
        (updateNdbClusterStatus env a nc hasPendingConfigChanges).run ∧
      ∃ r, (updateNdbClusterStatus env a nc hasPendingConfigChanges).run.result = .ok r := by
  rw [updateNdbClusterStatus_run]
  split
  · split
    · exact ⟨nofun, _, rfl⟩
    · exact ⟨fun c hc => .inr ⟨_, List.mem_singleton.mp hc⟩, _, rfl⟩
  · exact ⟨nofun, _, rfl⟩
  · split
    · refine ⟨fun c hc => ?_, _, rfl⟩
      rcases List.mem_pair.mp hc with rfl | rfl
      exacts [.inl ⟨_, rfl⟩, .inr ⟨_, rfl⟩]
    · exact ⟨fun c hc => .inl ⟨_, List.mem_singleton.mp hc⟩, _, rfl⟩

theorem updateNdbClusterStatus_writes {hasPendingConfigChanges : Bool} {st : NdbClusterStatus}
    (h : Call.updateStatus st ∈ (updateNdbClusterStatus env a nc hasPendingConfigChanges).run.calls) :
    ∃ pg, newProcessedGeneration nc hasPendingConfigChanges = some pg ∧ st = ⟨pg, a.now⟩ := by
  rw [updateNdbClusterStatus_run] at h
  split at h
  · split at h <;> simp at h
  · simp at h
  · rename_i pg _ _ _
    split at h <;> simp only [List.mem_cons, List.mem_singleton, Call.updateStatus.injEq,
      reduceCtorEq, List.not_mem_nil, or_false] at h <;> exact ⟨pg, ‹_›, h⟩

/-- Every status write carries this tick's processed generation and time; `SyncSuccess` follows one. -/
theorem updateNdbClusterStatus_persists_tick_status (hasPendingConfigChanges : Bool) :
    (∀ st, Call.updateStatus st ∈ (updateNdbClusterStatus env a nc hasPendingConfigChanges).run.calls →
      ∃ pg, newProcessedGeneration nc hasPendingConfigChanges = some pg ∧ st = ⟨pg, a.now⟩) ∧
    (Call.event .syncSuccess ∈ (updateNdbClusterStatus env a nc hasPendingConfigChanges).run.calls →
      ∃ pg returned, newProcessedGeneration nc hasPendingConfigChanges = some pg ∧
        a.updateStatus 0 = .ok returned ∧
        (updateNdbClusterStatus env a nc hasPendingConfigChanges).run =
          ⟨[.updateStatus ⟨pg, a.now⟩, .event .syncSuccess], .ok (.ok ())⟩) := by
  refine ⟨fun st h => updateNdbClusterStatus_writes h, fun h => ?_⟩
  rw [updateNdbClusterStatus_run] at h ⊢
  split at h
  · split at h <;> simp at h
  · simp at h
  · rename_i pg _ _ _
    split at h
    · exact ⟨pg, _, ‹_›, ‹_›, by simp only [*]⟩
    · simp at h

theorem mem_persistNewConfig {rc : ResourceContext} {c : Call}
    (h : c ∈ (persistNewConfig env a nc rc).run.calls) :
    ∃ hash, env.calculateNewConfigHash nc.spec = .ok hash ∧
      (c = .patchConfigMap ∧ rc.configHash ≠ hash ∨
        c ∈ (updateNdbClusterStatus env a nc (rc.configHash ≠ hash)).run.calls) := by
  unfold persistNewConfig at h
  rcases mem_calls_exceptBind h with h | ⟨hash, hh, h⟩
  · simp at h
  refine ⟨hash, by simpa using result_adapt_ok hh, ?_⟩
  dsimp only at h
  split at h <;> rename_i hpend
  · -- a change pending: the patch, the status update, then the requeue
    rcases mem_calls_exceptBind h with h | ⟨_, -, h⟩
    · exact .inl ⟨by simpa using h, hpend⟩
    rcases mem_calls_exceptBind h with h | ⟨_, -, h⟩
    · simp at h
    rcases mem_calls_exceptBind h with h | ⟨_, -, h⟩
    · exact .inr (by simpa using h)
    · simp at h
  · -- nothing pending: the status update, then the finish
    rcases mem_calls_exceptBind h with h | ⟨_, -, h⟩
    · simp at h
    rcases mem_calls_exceptBind h with h | ⟨_, -, h⟩
    · exact .inr (by simpa using h)
    · simp at h

theorem persistNewConfig_allCalls {p : Call → Prop} (rc : ResourceContext) (hp : p .patchConfigMap)
    (hst : ∀ st, p (.updateStatus st)) (hev : ∀ reason, p (.event reason)) :
    AllCalls p (persistNewConfig env a nc rc).run := by
  have hU (b : Bool) : AllCalls p (updateNdbClusterStatus env a nc b).run :=
    (@updateNdbClusterStatus_calls env a nc b).1.mono fun c h => by
      rcases h with ⟨st, rfl⟩ | ⟨reason, rfl⟩
      exacts [hst st, hev reason]
  intro c hc
  obtain ⟨_, -, ⟨rfl, -⟩ | hc⟩ := mem_persistNewConfig hc
  · exact hp
  · exact hU _ c hc

theorem persistNewConfig_calls (rc : ResourceContext) :
    AllCalls (fun c => c.isStopNodes = false) (persistNewConfig env a nc rc).run :=
  persistNewConfig_allCalls rc rfl (fun _ => rfl) (fun _ => rfl)

theorem persistNewConfig_result_ok {rc : ResourceContext} {sr : SyncResult}
    (h : (persistNewConfig env a nc rc).run.result = .ok (.ok sr)) :
    ∃ hash, env.calculateNewConfigHash nc.spec = .ok hash ∧
      sr = if rc.configHash = hash then finishProcessing else requeueInSeconds 0 := by
  unfold persistNewConfig at h
  obtain ⟨hash, hh, h⟩ := result_exceptBind_ok h
  refine ⟨hash, by simpa using result_adapt_ok hh, ?_⟩
  dsimp only at h
  split at h <;> rename_i hpend
  · -- a change pending: the patch, the status update, then the requeue
    obtain ⟨_, -, h⟩ := result_exceptBind_ok h
    obtain ⟨_, -, h⟩ := result_exceptBind_ok h
    obtain ⟨_, -, h⟩ := result_exceptBind_ok h
    rw [if_neg hpend]
    exact (Except.ok.inj (Except.ok.inj h)).symm
  · -- nothing pending: the status update, then the finish
    obtain ⟨_, -, h⟩ := result_exceptBind_ok h
    obtain ⟨_, -, h⟩ := result_exceptBind_ok h
    obtain ⟨_, -, h⟩ := result_exceptBind_ok h
    rw [if_pos (not_not.mp hpend)]
    exact (Except.ok.inj (Except.ok.inj h)).symm

theorem persistNewConfig_noPatch {rc : ResourceContext}
    (hh : env.calculateNewConfigHash nc.spec = .ok rc.configHash) :
    Call.patchConfigMap ∉ (persistNewConfig env a nc rc).run.calls := by
  intro hp
  obtain ⟨hash, hh', ⟨-, hne⟩ | hc⟩ := mem_persistNewConfig hp
  · exact hne (Except.ok.inj (hh.symm.trans hh'))
  · rcases (updateNdbClusterStatus_calls _).1 _ hc with ⟨_, h⟩ | ⟨_, h⟩ <;> cases h

theorem persistNewConfig_finish {rc : ResourceContext}
    (h : (persistNewConfig env a nc rc).run.result = .ok (.ok finishProcessing)) :
    env.calculateNewConfigHash nc.spec = .ok rc.configHash ∧
      Call.patchConfigMap ∉ (persistNewConfig env a nc rc).run.calls := by
  obtain ⟨hash, hh, hsr⟩ := persistNewConfig_result_ok h
  split at hsr
  · subst hash
    exact ⟨hh, persistNewConfig_noPatch hh⟩
  · cases hsr

theorem ensureDataNodeReplicas_calls (ensured : Ensured) :
    AllCalls (fun c => c = .patchStatefulSet) (ensureDataNodeReplicas a ensured).run ∧
      ThrowsOnly (fun sr => sr ≠ finishProcessing) (ensureDataNodeReplicas a ensured) := by
  obtain ⟨rc, _ | ⟨name, owned, _ | replicas⟩, dep⟩ := ensured
  · simp [ensureDataNodeReplicas, ThrowsOnly]
  · simp [ensureDataNodeReplicas, ThrowsOnly]
  · simp only [ensureDataNodeReplicas]
    split <;> simp [ThrowsOnly]
    rcases a.patchStatefulSet <;> simp

theorem persistNewConfig_throws (rc : ResourceContext) :
    ThrowsOnly (fun sr => sr ≠ finishProcessing) (persistNewConfig env a nc rc) := by
  unfold persistNewConfig
  simp only [throwsOnly_bind, throwsOnly_adapt, run_mk]
  refine ⟨fun _ _ => nofun, fun hash _ => ?_⟩
  split <;> simp

theorem persistNewConfig_inSync {rc : ResourceContext}
    (hhash : env.calculateNewConfigHash nc.spec = .ok rc.configHash)
    (hpg : nc.status.processedGeneration = nc.generation) :
    (persistNewConfig env a nc rc).run = ⟨[.event .inSync], .ok (.ok finishProcessing)⟩ := by
  have hu : (updateNdbClusterStatus env a nc false).run = ⟨[.event .inSync], .ok (.ok ())⟩ := by
    simp [updateNdbClusterStatus_run, newProcessedGeneration, hpg]
  apply Tick.ext <;> simp only [persistNewConfig, hhash, ne_eq, decide_not, ite_not, ExceptT.run_bind,
    calls_bind_runBind, result_bind_runBind, run_calls_adapt, run_result_adapt, ExceptT.run_mk,
    calls_pure, result_pure, callsAfter_ok, ↓reduceIte, decide_True, Bool.not_true, ExceptT.run_pure, hu,
    callsAfter_nil, List.append_nil, List.singleton_append, List.nil_append]

/-- Two edits between ticks: the tick writes processed generation 2, whose config never existed. -/
theorem persistNewConfig_skipped_generation :
    hashSyncEnv.calculateNewConfigHash (dataMemorySpec "1G") = .ok "1G" ∧
      hashSyncEnv.calculateNewConfigHash (dataMemorySpec "2G") ≠ .ok "1G" ∧
      (persistNewConfig hashSyncEnv convergedAnswers
          { sampleSyncCluster with generation := 3, spec := dataMemorySpec "3G" } ⟨1, 2, 2, "1G"⟩).run =
        ⟨[.patchConfigMap, .updateStatus ⟨2, 100⟩, .event .syncSuccess],
          .ok (.ok (requeueInSeconds 0))⟩ :=
  ⟨rfl, by decide, rfl⟩

theorem ensureDataNodeReplicas_equal {rc : ResourceContext} {sfset : StatefulSet}
    {deployment : Option Deployment} {r : Int32} (hr : sfset.replicas = some r)
    (heq : r.val = rc.numOfDataNodes) :
    (ensureDataNodeReplicas a ⟨rc, some sfset, deployment⟩).run = ⟨[], .ok (.ok ())⟩ := by
  have hmod : (r.val % 4294967296).toNat = rc.numOfDataNodes := by
    have := r.lt_max
    omega
  simp [ensureDataNodeReplicas, hr, hmod]
  rfl

end Specs

end NdbOperator
