import NdbOperator.Tick

set_option autoImplicit false

/-!
# Ensuring the Kubernetes resources

`ensureAllResources` and the readiness check of `sync_context.go`. The services and the pod
disruption budget are got, and created when the API server says they are not found; the
StatefulSets and the config map are ensured by controllers that are not under src/, which
report whether the object existed; an object not controlled by the NdbCluster is an error.
-/

namespace NdbOperator

open SyncResult Tick

section Ensure

variable (env : SyncEnv) (a : Answers) (nc : NdbCluster)

/-- The common body of `ensureService` and `ensurePodDisruptionBudget`: whether the object existed. -/
def ensureObject (get create : Call) (getAnswer createAnswer : Except ApiError Unit) :
    ExceptT ApiError Tick Bool := do
  Tick.call get
  match getAnswer with
  | .ok () => return true
  | .error err =>
    if err ≠ .notFound then throw err
    Tick.call create
    Tick.answer createAnswer
    return false

def ensureService (selector : String) (createLoadBalancer : Bool) : ExceptT ApiError Tick Bool :=
  let serviceName :=
    env.serviceName nc.name selector ++ if createLoadBalancer then "-ext" else ""
  ensureObject (.getService serviceName) (.createService serviceName)
    (a.getService serviceName) (a.createService serviceName)

def ensureServices : ExceptT ApiError Tick Bool := do
  let existed₁ ← ensureService env a nc (env.typeName .mgmd) false
  let existed₂ ← ensureService env a nc (env.typeName .mgmd) true
  let existed₃ ← ensureService env a nc (env.typeName .ndbmtd) false
  let existed₄ ← ensureService env a nc (env.typeName .mysqld) true
  return existed₁ && existed₂ && existed₃ && existed₄

def ensurePodDisruptionBudget : ExceptT ApiError Tick Bool :=
  let name := env.podDisruptionBudgetName nc.name (env.typeName .ndbmtd)
  ensureObject (.getPodDisruptionBudget name) (.createPodDisruptionBudget name)
    a.getPodDisruptionBudget a.createPodDisruptionBudget

/-- The common body of `ensureManagementServerStatefulSet` and `ensureDataNodeStatefulSet`. -/
def ensureNodeStatefulSet (nodeType : String) : ExceptT ApiError Tick (Option StatefulSet × Bool) := do
  Tick.call (.ensureStatefulSet nodeType)
  let (sfset?, existed) ← Tick.answer (a.ensureStatefulSet nodeType)
  match sfset? with
  | none => return (none, existed)
  | some sfset =>
    if !sfset.controlledByNdb then
      Tick.call (.event .resourceExists)
      throw (.resourceExists sfset.name)
    return (some sfset, existed)

def ensureManagementServerStatefulSet : ExceptT ApiError Tick (Option StatefulSet × Bool) :=
  ensureNodeStatefulSet a (env.typeName .mgmd)

def ensureDataNodeStatefulSet : ExceptT ApiError Tick (Option StatefulSet × Bool) :=
  ensureNodeStatefulSet a (env.typeName .ndbmtd)

def validateMySQLServerDeployment : ExceptT ApiError Tick (Option Deployment) := do
  Tick.call .getDeployment
  match ← Tick.answer a.getDeployment with
  | none => return none
  | some deployment =>
    if !deployment.controlledByNdb then
      Tick.call (.event .resourceExists)
      throw (.resourceExists deployment.name)
    return some deployment

/-- What `ensureAllResources` stores in the `SyncContext` for the rest of the tick. -/
structure Ensured where
  resourceContext : ResourceContext
  dataNodeSfSet : Option StatefulSet
  mysqldDeployment : Option Deployment

def ensureAllResources : ExceptT SyncResult Tick Ensured := do
  let servicesExist ← (ensureServices env a nc).adapt errorWhileProcessing
  let pdbExists ← (ensurePodDisruptionBudget env a nc).adapt errorWhileProcessing
  Tick.call .ensureConfigMap
  let configMapExists ← (Tick.answer a.ensureConfigMap).adapt errorWhileProcessing
  let resourceContext ← (Tick.answer a.resourceContext).adapt errorWhileProcessing
  let (_, mgmdExists) ←
    (ensureManagementServerStatefulSet env a).adapt errorWhileProcessing
  let (dataNodeSfSet, dataNodesExist) ←
    (ensureDataNodeStatefulSet env a).adapt errorWhileProcessing
  let mysqldDeployment ← (validateMySQLServerDeployment a).adapt errorWhileProcessing
  let allResourcesExist :=
    servicesExist && pdbExists && configMapExists && mgmdExists && dataNodesExist
  if !allResourcesExist then throw (requeueInSeconds 5)
  return ⟨resourceContext, dataNodeSfSet, mysqldDeployment⟩

end Ensure

/-- A pod that `checkPodsReadiness` lets pass: none of its `Ready` conditions is other than `True`. -/
def podReady (pod : Pod) : Bool :=
  pod.conditions.all fun condition => condition.type != "Ready" || condition.status == "True"

/-- The loop of `checkPodsReadiness` over the answers to its `List` calls. -/
def checkPodsReadinessFrom (continueToken : String) : List (Except ApiError PodList) → Tick SyncResult
  | [] => Tick.halt .podPagesNotEnded
  | answer :: rest => do
    Tick.call (.listPods continueToken)
    match answer with
    | .error err => return errorWhileProcessing err
    | .ok pods =>
      if !pods.items.all podReady then return requeueInSeconds 5
      if pods.«continue» = "" then return continueProcessing
      checkPodsReadinessFrom pods.«continue» rest

def checkPodsReadiness (a : Answers) : Tick SyncResult := checkPodsReadinessFrom "" a.listPods

def podPagesReady : List (Except ApiError PodList) → Bool
  | [] => false
  | .error _ :: _ => false
  | .ok pods :: rest => pods.items.all podReady && (pods.«continue» == "" || podPagesReady rest)

/-! ## What the resource steps do -/

section Specs

variable {env : SyncEnv} {a : Answers} {nc : NdbCluster}

theorem ensureObject_run (get create : Call) (getAnswer createAnswer : Except ApiError Unit) :
    (ensureObject get create getAnswer createAnswer).run =
      match getAnswer with
      | .ok () => ⟨[get], .ok (.ok true)⟩
      | .error err =>
        if err = .notFound then ⟨[get, create], .ok (createAnswer.map fun _ => false)⟩
        else ⟨[get], .ok (.error err)⟩ := by
  unfold ensureObject
  rcases getAnswer with err | ⟨⟩
  · by_cases h : err = .notFound
    · rcases createAnswer with e | ⟨⟩ <;> simp [h] <;> rfl
    · simp [h]
      rfl
  · rfl

theorem allCalls_ensureObject {p : Call → Prop} {get create : Call} (hg : p get) (hc : p create)
    (getAnswer createAnswer : Except ApiError Unit) :
    AllCalls p (ensureObject get create getAnswer createAnswer).run := by
  rw [ensureObject_run]
  split
  · simp [AllCalls, hg]
  · split <;> simp [AllCalls, hg, hc]

theorem allCalls_ensureNodeStatefulSet {p : Call → Prop} {nodeType : String}
    (hs : p (.ensureStatefulSet nodeType)) (he : p (.event .resourceExists)) :
    AllCalls p (ensureNodeStatefulSet a nodeType).run := by
  unfold ensureNodeStatefulSet
  simp only [allCalls_run_bind, allCalls_liftM, allCalls_call, run_answer, allCalls_mk,
    List.not_mem_nil, false_implies, implies_true, true_and]
  refine ⟨hs, fun _ _ => ?_⟩
  rintro ⟨_ | sfset, existed⟩ -
  · simp
  · by_cases h : sfset.controlledByNdb <;> simp [h, he]

theorem allCalls_validateMySQLServerDeployment {p : Call → Prop} (hg : p .getDeployment)
    (he : p (.event .resourceExists)) : AllCalls p (validateMySQLServerDeployment a).run := by
  unfold validateMySQLServerDeployment
  simp only [allCalls_run_bind, allCalls_liftM, allCalls_call, run_answer, allCalls_mk,
    List.not_mem_nil, false_implies, implies_true, true_and]
  refine ⟨hg, fun _ _ => ?_⟩
  rintro (_ | d) -
  · simp
  · by_cases h : d.controlledByNdb <;> simp [h, he]

theorem ensureObject_existed {get create : Call} {getAnswer createAnswer : Except ApiError Unit}
    (h : (ensureObject get create getAnswer createAnswer).run.result = .ok (.ok true)) :
    getAnswer = .ok () := by
  rw [ensureObject_run] at h
  split at h
  · rfl
  · split at h
    · rcases createAnswer with e | ⟨⟩ <;> cases h
    · cases h

theorem ensureAllResources_calls :
    AllCalls (fun c => c.changesConfig = false ∧ c.persists = false)
      (ensureAllResources env a nc).run := by
  have hsvc : AllCalls (fun c => c.changesConfig = false ∧ c.persists = false)
      (ensureServices env a nc).run := by
    have h (name : String) (lb : Bool) : AllCalls (fun c => c.changesConfig = false ∧ c.persists = false)
        (ensureService env a nc name lb).run :=
      allCalls_ensureObject ⟨rfl, rfl⟩ ⟨rfl, rfl⟩ _ _
    unfold ensureServices
    simp only [allCalls_run_bind, h, ExceptT.run_pure, allCalls_pure, implies_true, and_self]
  have hpdb : AllCalls (fun c => c.changesConfig = false ∧ c.persists = false)
      (ensurePodDisruptionBudget env a nc).run :=
    allCalls_ensureObject ⟨rfl, rfl⟩ ⟨rfl, rfl⟩ _ _
  have hsfset (nodeType : String) :
      AllCalls (fun c => c.changesConfig = false ∧ c.persists = false)
        (ensureNodeStatefulSet a nodeType).run :=
    allCalls_ensureNodeStatefulSet ⟨rfl, rfl⟩ ⟨rfl, rfl⟩
  have hdep : AllCalls (fun c => c.changesConfig = false ∧ c.persists = false)
      (validateMySQLServerDeployment a).run :=
    allCalls_validateMySQLServerDeployment ⟨rfl, rfl⟩ ⟨rfl, rfl⟩
  have hcm : Call.ensureConfigMap.changesConfig = false ∧ Call.ensureConfigMap.persists = false :=
    ⟨rfl, rfl⟩
  unfold ensureAllResources ensureManagementServerStatefulSet ensureDataNodeStatefulSet
  simp only [allCalls_run_bind, allCalls_adapt, allCalls_liftM, allCalls_call, hsvc, hpdb, hsfset,
    hdep, hcm, run_answer, allCalls_mk, List.not_mem_nil, false_implies, implies_true, true_and]
  intros
  split <;> simp

theorem ensureAllResources_changesConfig :
    AllCalls (fun c => c.changesConfig = false) (ensureAllResources env a nc).run :=
  ensureAllResources_calls.mono fun _ h => h.1

theorem ensureAllResources_throws :
    ThrowsOnly (fun sr => sr ≠ finishProcessing) (ensureAllResources env a nc) := by
  unfold ensureAllResources
  -- a Go error is wrapped as `errorWhileProcessing`, and the one verdict thrown is the requeue
  simp only [throwsOnly_bind, throwsOnly_adapt, throwsOnly_liftM, ne_eq, reduceCtorEq,
    not_false_eq_true, implies_true, true_and]
  intros
  split <;> simp

theorem ensureAllResources_resourceContext {ensured : Ensured}
    (h : (ensureAllResources env a nc).run.result = .ok (.ok ensured)) :
    a.resourceContext = .ok ensured.resourceContext := by
  unfold ensureAllResources at h
  obtain ⟨_, -, h⟩ := result_exceptBind_ok h
  obtain ⟨_, -, h⟩ := result_exceptBind_ok h
  obtain ⟨_, -, h⟩ := result_exceptBind_ok h
  obtain ⟨_, -, h⟩ := result_exceptBind_ok h
  obtain ⟨rc, hrc, h⟩ := result_exceptBind_ok h
  obtain ⟨⟨_, _⟩, -, h⟩ := result_exceptBind_ok h
  obtain ⟨⟨_, _⟩, -, h⟩ := result_exceptBind_ok h
  obtain ⟨_, -, h⟩ := result_exceptBind_ok h
  dsimp only at h
  split at h
  · simp at h
  · simp at h
    subst h
    rcases hr : a.resourceContext with e | r <;> simp [hr] at hrc
    exact congrArg _ hrc

theorem checkPodsReadinessFrom_spec (continueToken : String) (pages : List (Except ApiError PodList)) :
    AllCalls (fun c => ∃ token, c = .listPods token) (checkPodsReadinessFrom continueToken pages) ∧
      (checkPodsReadinessFrom continueToken pages).result ≠ .ok finishProcessing := by
  induction pages generalizing continueToken with
  | nil => exact ⟨allCalls_halt _, by simp [checkPodsReadinessFrom]⟩
  | cons page rest ih =>
    rcases page with err | pods
    · simp [checkPodsReadinessFrom]
    · by_cases hr : pods.items.all podReady <;> by_cases hc : pods.«continue» = "" <;>
        simp [checkPodsReadinessFrom, hr, hc, ih]

theorem checkPodsReadinessFrom_ready {continueToken : String} {pages : List (Except ApiError PodList)}
    (h : podPagesReady pages) :
    (checkPodsReadinessFrom continueToken pages).result = .ok continueProcessing := by
  induction pages generalizing continueToken with
  | nil => cases h
  | cons page rest ih =>
    rcases page with err | pods
    · cases h
    · simp only [podPagesReady, Bool.and_eq_true, Bool.or_eq_true, beq_iff_eq] at h
      obtain ⟨hr, hc | hc⟩ := h
      · simp [checkPodsReadinessFrom, hr, hc]
      · by_cases he : pods.«continue» = ""
        · simp [checkPodsReadinessFrom, hr, he]
        · simp [checkPodsReadinessFrom, hr, he, ih hc]

/-- A pod not yet scheduled, with no `Ready` condition, is let pass. -/
theorem checkPodsReadiness_passes_pod_without_ready :
    (checkPodsReadinessFrom "" [.ok ⟨[⟨[⟨"PodScheduled", "False"⟩]⟩], ""⟩]).result =
      .ok continueProcessing :=
  rfl

theorem ensureAllResources_existing {rc : ResourceContext} {mgmdSet dataSet : StatefulSet}
    {deployment : Option Deployment}
    (hsvc : ∀ name, a.getService name = .ok ()) (hpdb : a.getPodDisruptionBudget = .ok ())
    (hcm : a.ensureConfigMap = .ok true) (hrc : a.resourceContext = .ok rc)
    (hm : a.ensureStatefulSet (env.typeName .mgmd) = .ok (some mgmdSet, true))
    (hmo : mgmdSet.controlledByNdb = true)
    (hd : a.ensureStatefulSet (env.typeName .ndbmtd) = .ok (some dataSet, true))
    (hdo : dataSet.controlledByNdb = true)
    (hdep : a.getDeployment = .ok deployment)
    (hdepo : ∀ d, deployment = some d → d.controlledByNdb = true) :
    (ensureAllResources env a nc).run.result = .ok (.ok ⟨rc, some dataSet, deployment⟩) ∧
      AllCalls (fun c => c.mutates = false) (ensureAllResources env a nc).run := by
  have hdeploy : (validateMySQLServerDeployment a).run = ⟨[.getDeployment], .ok (.ok deployment)⟩ := by
    unfold validateMySQLServerDeployment
    rcases deployment with _ | d
    · apply Tick.ext <;> simp [hdep]
    · apply Tick.ext <;> simp [hdep, hdepo d rfl]
  simp only [ensureAllResources, ensureServices, ensureService, Bool.false_eq_true, ↓reduceIte,
    String.append_empty, hsvc, ensurePodDisruptionBudget, hpdb, hcm, hrc, ensureManagementServerStatefulSet,
    ensureNodeStatefulSet, hm, Bool.not_eq_eq_eq_not, Bool.not_true, ensureDataNodeStatefulSet, hd,
    Bool.not_and, Bool.or_eq_true, ExceptT.run_bind, ExceptT.run_monadLift, monadLift_self,
    result_bind_runBind, run_result_adapt, ensureObject_run, ExceptT.run_pure, Bool.true_and, result_pure,
    Bool.true_eq_false, false_or, result_map, result_call, run_answer, hmo, hdo, hdeploy, AllCalls,
    calls_bind_runBind, run_calls_adapt, calls_pure, callsAfter_nil, List.singleton_append, callsAfter_ok,
    calls_map, calls_call, List.append_nil, or_false, List.nil_append, List.cons_append, List.mem_cons,
    List.mem_singleton, forall_eq_or_imp, forall_eq, true_and]
  exact ⟨rfl, rfl, rfl, rfl, rfl, rfl, rfl, rfl, rfl, nofun⟩

end Specs

end NdbOperator
