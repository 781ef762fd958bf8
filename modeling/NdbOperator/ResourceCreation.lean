import NdbOperator.SyncGates

set_option autoImplicit false

/-!
# A tick that creates a resource requeues

`ensureAllResources` creates the services and the pod disruption budget that its `Get` calls do
not find, and then, unless every object already existed, ends the tick with
`requeueInSeconds 5`. So the rest of `sync` (the readiness check, the rolling restart, the config
map patch and the status update) only ever runs in a tick that created nothing: a tick that
creates an object makes no call but those of `ensureAllResources`, and ends in a requeue or an
error.
-/

namespace NdbOperator

open SyncResult Tick

section Creation

variable {env : SyncEnv} {a : Answers} {nc : NdbCluster}

/-! ## What ensuring the resources returns -/

theorem ensureObject_calls_of_existed {get create : Call}
    {getAnswer createAnswer : Except ApiError Unit}
    (h : (ensureObject get create getAnswer createAnswer).run.result = .ok (.ok true)) :
    (ensureObject get create getAnswer createAnswer).run.calls = [get] := by
  rw [ensureObject_run, ensureObject_existed h]

theorem ensureObject_noHalt (get create : Call) (getAnswer createAnswer : Except ApiError Unit) :
    NoHalt (ensureObject get create getAnswer createAnswer) := by
  intro h
  rw [ensureObject_run]
  split
  · nofun
  · split <;> nofun

theorem ensureNodeStatefulSet_noHalt (nodeType : String) :
    NoHalt (ensureNodeStatefulSet a nodeType) := by
  unfold ensureNodeStatefulSet
  simp only [noHalt_bind, noHalt_call, noHalt_answer, true_and]
  rintro - - ⟨_ | sfset, existed⟩ -
  · exact noHalt_pure _
  · dsimp only
    split <;> simp

theorem validateMySQLServerDeployment_noHalt : NoHalt (validateMySQLServerDeployment a) := by
  unfold validateMySQLServerDeployment
  simp only [noHalt_bind, noHalt_call, noHalt_answer, true_and]
  rintro - - (_ | d) -
  · exact noHalt_pure _
  · dsimp only
    split <;> simp

theorem ensureAllResources_noHalt : NoHalt (ensureAllResources env a nc) := by
  have hsvc : NoHalt (ensureServices env a nc) := by
    unfold ensureServices ensureService
    simp only [noHalt_bind, ensureObject_noHalt, noHalt_pure, implies_true, and_self]
  have hpdb : NoHalt (ensurePodDisruptionBudget env a nc) := ensureObject_noHalt _ _ _ _
  unfold ensureAllResources ensureManagementServerStatefulSet ensureDataNodeStatefulSet
  simp only [noHalt_bind, noHalt_adapt, noHalt_call, noHalt_answer, hsvc, hpdb,
    ensureNodeStatefulSet_noHalt, validateMySQLServerDeployment_noHalt, true_and]
  intros
  split <;> simp

theorem ensureAllResources_verdicts :
    ThrowsOnly (fun sr => sr = requeueInSeconds 5 ∨ ∃ err, sr = errorWhileProcessing err)
      (ensureAllResources env a nc) := by
  unfold ensureAllResources
  -- every Go error is wrapped as `errorWhileProcessing`; the one verdict thrown is the requeue
  simp only [throwsOnly_bind, throwsOnly_adapt, throwsOnly_liftM, errorWhileProcessing.injEq,
    exists_eq', or_true, implies_true, true_and]
  intros
  split <;> simp

/-! ## Creating only in a tick that requeues -/

theorem ensureServices_calls_of_existed
    (h : (ensureServices env a nc).run.result = .ok (.ok true)) :
    AllCalls (fun c => c.creates = false) (ensureServices env a nc).run := by
  have hsvc {selector : String} {lb : Bool}
      (h : (ensureService env a nc selector lb).run.result = .ok (.ok true)) :
      AllCalls (fun c => c.creates = false) (ensureService env a nc selector lb).run := by
    unfold ensureService at h ⊢
    simp only [AllCalls, ensureObject_calls_of_existed h, List.mem_singleton, Call.creates, forall_eq]
  unfold ensureServices at h ⊢
  obtain ⟨e₁, h₁, h⟩ := result_exceptBind_ok h
  obtain ⟨e₂, h₂, h⟩ := result_exceptBind_ok h
  obtain ⟨e₃, h₃, h⟩ := result_exceptBind_ok h
  obtain ⟨e₄, h₄, h⟩ := result_exceptBind_ok h
  simp only [ExceptT.run_pure, result_pure, Except.ok.injEq, Bool.and_eq_true] at h
  obtain ⟨⟨⟨rfl, rfl⟩, rfl⟩, rfl⟩ := h
  exact allCalls_run_bind_of_ok h₁ (hsvc h₁) <| allCalls_run_bind_of_ok h₂ (hsvc h₂) <|
    allCalls_run_bind_of_ok h₃ (hsvc h₃) <| allCalls_run_bind_of_ok h₄ (hsvc h₄)
      (by simp only [ExceptT.run_pure, allCalls_pure])

theorem ensureAllResources_calls_of_ok {ensured : Ensured}
    (h : (ensureAllResources env a nc).run.result = .ok (.ok ensured)) :
    AllCalls (fun c => c.creates = false) (ensureAllResources env a nc).run := by
  have hsfset (nodeType : String) :
      AllCalls (fun c => c.creates = false) (ensureNodeStatefulSet a nodeType).run :=
    allCalls_ensureNodeStatefulSet rfl rfl
  have hdep : AllCalls (fun c => c.creates = false) (validateMySQLServerDeployment a).run :=
    allCalls_validateMySQLServerDeployment rfl rfl
  unfold ensureAllResources at h ⊢
  obtain ⟨e₁, h₁, h⟩ := result_exceptBind_ok h
  obtain ⟨e₂, h₂, h⟩ := result_exceptBind_ok h
  obtain ⟨e₃, h₃, h⟩ := result_exceptBind_ok h
  obtain ⟨e₄, h₄, h⟩ := result_exceptBind_ok h
  obtain ⟨e₅, h₅, h⟩ := result_exceptBind_ok h
  obtain ⟨⟨m₁, m₂⟩, h₆, h⟩ := result_exceptBind_ok h
  obtain ⟨⟨d₁, d₂⟩, h₇, h⟩ := result_exceptBind_ok h
  obtain ⟨e₈, h₈, h⟩ := result_exceptBind_ok h
  -- the tick went on, so every object existed
  have hall : (e₁ && e₂ && e₄ && m₂ && d₂) = true := by
    by_contra hn
    simp only [hn, Bool.not_false, ↓reduceIte, ExceptT.run_bind, ExceptT.run_throw,
      ExceptT.run_pure, result_bind_runBind, Except.ok.injEq, reduceCtorEq] at h
  simp only [Bool.and_eq_true] at hall
  obtain ⟨⟨⟨⟨rfl, rfl⟩, rfl⟩, rfl⟩, rfl⟩ := hall
  refine allCalls_run_bind_of_ok h₁
    (allCalls_adapt.mpr (ensureServices_calls_of_existed (result_adapt_ok h₁))) ?_
  refine allCalls_run_bind_of_ok h₂ (allCalls_adapt.mpr ?_) ?_
  · have h₂ := result_adapt_ok h₂
    unfold ensurePodDisruptionBudget at h₂ ⊢
    simp only [AllCalls, ensureObject_calls_of_existed h₂, List.mem_singleton, Call.creates,
      forall_eq]
  refine allCalls_run_bind_of_ok h₃ (by
    simp only [Call.creates, ExceptT.run_monadLift, monadLift_self, allCalls_map, allCalls_call]) ?_
  refine allCalls_run_bind_of_ok h₄ (allCalls_adapt.mpr nofun) ?_
  refine allCalls_run_bind_of_ok h₅ (allCalls_adapt.mpr nofun) ?_
  refine allCalls_run_bind_of_ok h₆ (allCalls_adapt.mpr (hsfset _)) ?_
  refine allCalls_run_bind_of_ok h₇ (allCalls_adapt.mpr (hsfset _)) ?_
  refine allCalls_run_bind_of_ok h₈ (allCalls_adapt.mpr hdep) ?_
  simp only [Bool.and_self, Bool.not_true, Bool.false_eq_true, ↓reduceIte, ExceptT.run_bind,
    ExceptT.run_pure, allCalls_bind_runBind, allCalls_pure, result_pure, imp_self, implies_true,
    and_self]

theorem syncRollout_creates (ensured : Ensured) (cs : ClusterStatus) :
    AllCalls (fun c => c.creates = false) (syncRollout env a nc ensured cs).run := by
  have hroll {c : Call} (h : RolloutCall c) : c.creates = false := Call.creates_eq_false h
  have hM : AllCalls (fun c => c.creates = false)
      (ensureManagementServerConfigVersion env a nc ensured.resourceContext) :=
    (ensureManagementServerConfigVersionFrom_calls _ _).1.mono fun _ => hroll
  have hD : AllCalls (fun c => c.creates = false)
      (ensureDataNodeConfigVersion env a nc ensured.resourceContext cs) :=
    (ensureDataNodeConfigVersion_calls _ _).1.mono fun _ => hroll
  have hR : AllCalls (fun c => c.creates = false) (ensureDataNodeReplicas a ensured).run :=
    (ensureDataNodeReplicas_calls ensured).1.mono fun c h => h ▸ rfl
  have hP : AllCalls (fun c => c.creates = false) (persistNewConfig env a nc ensured.resourceContext).run :=
    persistNewConfig_allCalls _ rfl (fun _ => rfl) (fun _ => rfl)
  have hs : Call.handleScaleDown.creates = false := rfl
  have hr : Call.reconcileDeployment.creates = false := rfl
  unfold syncRollout
  simp only [allCalls_run_bind, allCalls_stopIf, allCalls_handleScaleDown, hs, hM, hD, hR,
    allCalls_reconcileDeployment, hr, hP, and_true, implies_true, and_self]

theorem syncBody_creates :
    AllCalls (fun c => c.creates → c ∈ (ensureAllResources env a nc).run.calls)
      (syncBody env a nc).run := by
  have hlist : AllCalls (fun c => c.creates = false) (checkPodsReadiness a) :=
    (checkPodsReadinessFrom_spec "" a.listPods).1.mono fun _ ⟨_, h⟩ => h ▸ rfl
  have hstatus : AllCalls (fun c => c.creates = false) (retrieveClusterStatus env a nc).run :=
    retrieveClusterStatus_calls.mono fun _ h => Call.creates_eq_false (.inr h)
  unfold syncBody
  refine allCalls_run_bind.mpr ⟨fun c hc _ => hc, fun ensured _ => ?_⟩
  -- after `ensureAllResources` no step creates
  refine AllCalls.mono ?_ fun c (h : c.creates = false) hc => absurd hc (by simp [h])
  simp only [allCalls_run_bind, allCalls_stopIf, hlist, allCalls_adapt, hstatus, true_and]
  intro _ _ cs _
  split <;> simp [syncRollout_creates]

/-- A tick that creates an object makes only the calls of `ensureAllResources`, and requeues or fails. -/
theorem sync_creates_then_requeues {c : Call} (hcr : c.creates) (hc : c ∈ (sync env a nc).calls) :
    (sync env a nc).calls = (ensureAllResources env a nc).run.calls ∧
      ((sync env a nc).result = .ok (requeueInSeconds 5) ∨
        ∃ err, (sync env a nc).result = .ok (errorWhileProcessing err)) := by
  rw [calls_sync] at hc
  have hE := syncBody_creates c hc hcr
  rcases hres : (ensureAllResources env a nc).run.result with hl | sr | ensured
  · exact absurd hres (ensureAllResources_noHalt hl)
  · have hbody : (syncBody env a nc).run =
        ⟨(ensureAllResources env a nc).run.calls, .ok (.error sr)⟩ := by
      apply Tick.ext <;> simp only [syncBody, run_calls_bind, run_result_bind, hres, callsAfter_ok,
        callsAfter_error, List.append_nil]
    refine ⟨by rw [calls_sync, hbody], ?_⟩
    rw [result_sync, hbody]
    rcases ensureAllResources_verdicts sr hres with rfl | ⟨err, rfl⟩
    · exact .inl rfl
    · exact .inr ⟨err, rfl⟩
  · exact absurd hcr (by simp only [ensureAllResources_calls_of_ok hres c hE, Bool.false_eq_true,
      not_false_eq_true])

end Creation

def missingServicesAnswers : Answers :=
  { convergedAnswers with getService := fun _ => .error .notFound }

theorem sync_creates_then_requeues_sample :
    (sync sampleSyncEnv missingServicesAnswers sampleSyncCluster).calls =
        (ensureAllResources sampleSyncEnv missingServicesAnswers sampleSyncCluster).run.calls ∧
      ((sync sampleSyncEnv missingServicesAnswers sampleSyncCluster).result =
          .ok (requeueInSeconds 5) ∨
        ∃ err, (sync sampleSyncEnv missingServicesAnswers sampleSyncCluster).result =
          .ok (errorWhileProcessing err)) :=
  @sync_creates_then_requeues sampleSyncEnv missingServicesAnswers sampleSyncCluster
    (.createService "example-mgmd") rfl (by decide)

end NdbOperator
