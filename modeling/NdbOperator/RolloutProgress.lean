import NdbOperator.RollingRestart
import NdbOperator.DataNodeRollout

set_option autoImplicit false

/-!
# The rolling restart makes progress and ends

The rollout visits the management nodes and the data nodes below the redundancy level. A tick
whose answers agree with the world stops only such nodes that run another generation than the
config map's. When every node it visits answers, it stops some exactly when one of them is
outdated; otherwise both rollout loops go on to the rest of the tick. A cooperative round is a tick
that stops nodes, after which every node it stopped goes down and comes back with the config map's
generation: every round lowers the number of outdated rollout nodes, so no run of rounds is longer
than that number. Rounds are runs of the model of the rolling restart, so its safety holds along
them. The config map, finally, is patched only when no node the operator stopped is still away
and every rollout node runs the config map's generation.
-/

namespace NdbOperator

open SyncResult

/-- The nodes that the rollout visits: the management nodes and the data nodes below the redundancy level. -/
def Layout.rolloutNodes (L : Layout) : List Int :=
  L.mgmds ++ L.groups.flatMap (List.take L.redundancyLevel)

def World.outdatedCount (w : World) (L : Layout) : Nat :=
  L.rolloutNodes.countP fun n => w.running n != some w.cfg

structure Responsive (L : Layout) (a : Answers) : Prop where
  getPod : ∀ site, a.getPod site = .ok ()
  connect : ∀ site, a.connect site = .ok ()
  configVersion : ∀ k ∈ L.mgmds, ∃ v, a.getConfigVersion k = .ok v
  nodeGroups : ∀ cs, a.getStatus = .ok cs → cs.nodesGroupedByNodegroup = some L.groups
  positions : ∀ g ∈ L.groups, L.redundancyLevel ≤ g.length
  dataNodeConfigVersion : ∀ i < L.redundancyLevel, PositionAnswered a L.groups i

def World.bringBack (w : World) : List Int → World
  | [] => w
  | n :: ns => ((w.down n).restart n w.cfg).bringBack ns

namespace Layout

variable {L : Layout} {n : Int}

theorem mem_rolloutNodes_of_dataAt {p : Nat} (h : L.DataAt n p) (hp : p < L.redundancyLevel) :
    n ∈ L.rolloutNodes := by
  obtain ⟨j, g, hg, hn⟩ := h
  refine List.mem_append_right _ (List.mem_flatMap.mpr ⟨g, List.getElem?_mem hg, ?_⟩)
  exact List.getElem?_mem ((List.getElem?_take_of_lt hp).trans hn)

theorem mem_rolloutNodes (h : n ∈ L.rolloutNodes) :
    n ∈ L.mgmds ∨ ∃ p < L.redundancyLevel, L.DataAt n p := by
  rcases List.mem_append.mp h with h | h
  · exact .inl h
  · obtain ⟨g, hg, hn⟩ := List.mem_flatMap.mp h
    obtain ⟨j, hj⟩ := List.mem_iff_getElem?.mp hg
    obtain ⟨p, hp⟩ := List.mem_iff_getElem?.mp hn
    have hlt : p < L.redundancyLevel :=
      Nat.lt_of_lt_of_le (List.getElem?_eq_some_iff.mp hp).1 (List.length_take_le _ _)
    rw [List.getElem?_take_of_lt hlt] at hp
    exact .inr ⟨p, hlt, j, g, hj, hp⟩

end Layout

namespace World

variable {w : World}

@[simp] theorem bringBack_cfg (ids : List Int) : (w.bringBack ids).cfg = w.cfg := by
  induction ids generalizing w with
  | nil => rfl
  | cons n ns ih => exact ih

theorem bringBack_running (ids : List Int) (m : Int) :
    (w.bringBack ids).running m = if m ∈ ids then some w.cfg else w.running m := by
  induction ids generalizing w with
  | nil => simp [bringBack]
  | cons n ns ih =>
    simp only [bringBack, ih, List.mem_cons]
    by_cases hm : m = n <;> by_cases hns : m ∈ ns <;> simp [hm, hns, restart, down]

end World

theorem countP_lt_countP {α : Type} {p q : α → Bool} :
    ∀ {l : List α}, (∀ x ∈ l, p x → q x) → (∃ x ∈ l, q x ∧ ¬ p x) → l.countP p < l.countP q
  | [], _, ⟨_, hx, _⟩ => absurd hx (List.not_mem_nil _)
  | y :: l, hpq, ⟨x, hx, hqx, hpx⟩ => by
    have hle := List.countP_mono_left fun z hz => hpq z (List.mem_cons_of_mem y hz)
    have hy := hpq y (List.mem_cons_self y l)
    rw [List.countP_cons, List.countP_cons]
    rcases List.mem_cons.mp hx with rfl | hx
    · simp [hqx, hpx]
      omega
    · have hlt := countP_lt_countP (fun z hz => hpq z (List.mem_cons_of_mem y hz)) ⟨x, hx, hqx, hpx⟩
      by_cases hpy : p y <;> by_cases hqy : q y <;> simp [hpy, hqy] at hy ⊢ <;> omega

section Tick

variable {L : Layout} {w : World} {env : SyncEnv} {a : Answers} {nc : NdbCluster}

theorem sync_stopNodes_outdated (hc : Consistent L w a) (hm : managementNodeIds nc = L.mgmds)
    {ids : List Int} (hf : (sync env a nc).calls.filter Call.isStopNodes = [.stopNodes ids]) :
    ids ≠ [] ∧ ∀ n ∈ ids, n ∈ L.rolloutNodes ∧ ∃ v, w.running n = some v ∧ v ≠ w.cfg := by
  rcases @sync_stopNodes env a nc with hf' | ⟨ensured, cs, ids', hg, hf', hstop⟩ <;> rw [hf] at hf'
  · cases hf'
  obtain rfl : ids = ids' := by simpa using hf'
  obtain ⟨hcfg, hrl⟩ := hc.resourceContext _ (rolloutGates_resourceContext hg)
  rcases hstop with ⟨pre, k, post, hids, -, ⟨v, hv, hne⟩, rfl⟩ | ⟨-, groups, i, hgr, hi, -, hne, hout⟩
  · refine ⟨List.cons_ne_nil _ _, fun n hn => ?_⟩
    rw [List.mem_singleton.mp hn]
    exact ⟨List.mem_append_left _ (hm ▸ hids ▸ by simp), v, hc.configVersion _ _ hv, hcfg ▸ hne⟩
  · obtain rfl := hc.nodeGroups _ _ (rolloutGates_getStatus hg) hgr
    refine ⟨hne, fun n hn => ?_⟩
    obtain ⟨j, g, v, hj, hn', hv, hvne⟩ := hout n hn
    exact ⟨Layout.mem_rolloutNodes_of_dataAt ⟨j, g, hj, hn'⟩ (hrl ▸ hi), v, hc.dataRunning hj hn' hv,
      hcfg ▸ hvne⟩

theorem afterTick_sync_of_stop {ids : List Int}
    (hf : (sync env a nc).calls.filter Call.isStopNodes = [.stopNodes ids]) (newCfg : Nat) :
    w.afterTick (sync env a nc).calls newCfg = w.stop ids := by
  refine World.afterTick_of_stop hf (fun hp => ?_) newCfg
  obtain ⟨-, -, -, -, hnone, -⟩ := @syncBody_reaches_persist_reported env a nc continueProcessing
    (.inl (by simpa using hp))
  rw [hf] at hnone
  cases hnone

/-- A gated, consistent, responsive tick stops nodes exactly when some are outdated, and only those. -/
theorem sync_stops_iff_outdated {ensured : Ensured} {cs : ClusterStatus}
    (hg : RolloutGates env a nc ensured cs) (hc : Consistent L w a) (hr : Responsive L a)
    (hm : managementNodeIds nc = L.mgmds) :
    ((sync env a nc).calls.filter Call.isStopNodes = [] ∧
        (ensureManagementServerConfigVersion env a nc ensured.resourceContext).result =
          .ok continueProcessing ∧
        (ensureDataNodeConfigVersion env a nc ensured.resourceContext cs).result =
          .ok continueProcessing ∧
        ∀ n ∈ L.rolloutNodes, w.running n = some w.cfg) ∨
      ∃ ids, (sync env a nc).calls.filter Call.isStopNodes = [.stopNodes ids] ∧ ids ≠ [] ∧
        ∀ n ∈ ids, n ∈ L.rolloutNodes ∧ ∃ v, w.running n = some v ∧ v ≠ w.cfg := by
  rcases @sync_stopNodes env a nc with hf | ⟨-, -, ids, -, hf, -⟩
  swap
  · exact .inr ⟨ids, hf, sync_stopNodes_outdated hc hm hf⟩
  obtain ⟨hcfg, hrl⟩ := hc.resourceContext _ (rolloutGates_resourceContext hg)
  have hgr := hr.nodeGroups _ (rolloutGates_getStatus hg)
  have hconn (site : ConnectSite) (k : Int) :
      (connectToManagementServer env a nc site k).run.result = .ok (.ok ()) :=
    connectToManagementServer_ok (hr.getPod site) (hr.connect site)
  -- a `StopNodes` of either loop would be one of the tick
  have hnone {x : Tick SyncResult} (hx : ∀ c ∈ x.calls, c ∈ (sync env a nc).calls) :
      x.calls.filter Call.isStopNodes = [] :=
    List.filter_eq_nil_iff.mpr fun c hc' hs => by
      have hmem := List.mem_filter.mpr ⟨hx c hc', hs⟩
      rw [hf] at hmem
      cases hmem
  have hM : (ensureManagementServerConfigVersion env a nc ensured.resourceContext).result =
      .ok continueProcessing :=
    (ensureManagementServerConfigVersionFrom_answered (fun k _ => hconn _ k)
      fun k hk => hr.configVersion k (hm ▸ hk)).resolve_right
      fun h => h (hnone fun c hc' => mem_sync_of_rollout hg (.inl hc'))
  have hD : (ensureDataNodeConfigVersion env a nc ensured.resourceContext cs).result =
      .ok continueProcessing :=
    (ensureDataNodeConfigVersion_answered (hconn _ 1) hgr (hrl ▸ hr.positions)
      (hrl ▸ hr.dataNodeConfigVersion)).resolve_right
      fun h => h (hnone fun c hc' => mem_sync_of_rollout hg (.inr ⟨hM, hc'⟩))
  refine .inl ⟨hf, hM, hD, fun n hn => ?_⟩
  rcases Layout.mem_rolloutNodes hn with hk | ⟨p, hp, hdata⟩
  · exact hcfg ▸ hc.configVersion _ _ (ensureManagementServerConfigVersionFrom_continue hM n (hm ▸ hk)).1
  · obtain ⟨groups, hgr', hrep⟩ := ensureDataNodeConfigVersion_continue hD
    rw [hgr, Option.some.injEq] at hgr'
    subst hgr'
    exact hcfg ▸ hc.running_of_reported (hrep p (hrl ▸ hp)).1 hdata

end Tick

theorem settled_of_reported {L : Layout} {w : World} {env : SyncEnv} {a : Answers}
    {nc : NdbCluster} {ensured : Ensured} {cs : ClusterStatus} {calls : List Call}
    (hw : Reachable L (ComesBack L) w) (hc : Consistent L w a)
    (hm : managementNodeIds nc = L.mgmds) (hg : RolloutGates env a nc ensured cs)
    (hrep : RolloutReported a nc ensured.resourceContext cs calls) :
    (∀ n, ¬ w.Outstanding n) ∧ ∀ n ∈ L.rolloutNodes, w.running n = some w.cfg := by
  obtain ⟨hmr, groups, hgr, hdr⟩ := hrep
  obtain ⟨hcfg, hrl⟩ := hc.resourceContext _ (rolloutGates_resourceContext hg)
  obtain rfl := hc.nodeGroups _ _ (rolloutGates_getStatus hg) hgr
  have hrun : ∀ n ∈ L.rolloutNodes, w.running n = some w.cfg := fun n hn => by
    rcases Layout.mem_rolloutNodes hn with hk | ⟨p, hp, hdata⟩
    · exact hcfg ▸ hc.configVersion _ _ (hmr n (hm ▸ hk)).1
    · exact hcfg ▸ hc.running_of_reported (hdr p (hrl ▸ hp)).1 hdata
  refine ⟨fun n ho => ?_, hrun⟩
  have hi := hw.inv
  rcases hi.inLayout n ho with hk | ⟨p, hp, hdata⟩
  · exact hi.outdated n _ ho (hrun n (List.mem_append_left _ hk)) rfl
  · exact hi.outdated n _ ho (hrun n (Layout.mem_rolloutNodes_of_dataAt hdata hp)) rfl

/-- Along every run, a tick patches the config map only when the rollout has settled. -/
theorem patchConfigMap_only_when_settled {L : Layout} {w : World} {env : SyncEnv} {a : Answers}
    {nc : NdbCluster} (hw : Reachable L (ComesBack L) w) (hc : Consistent L w a)
    (hm : managementNodeIds nc = L.mgmds) (hp : Call.patchConfigMap ∈ (sync env a nc).calls) :
    (∀ n, ¬ w.Outstanding n) ∧ ∀ n ∈ L.rolloutNodes, w.running n = some w.cfg := by
  obtain ⟨ensured, cs, hg, -, -, hrep⟩ :=
    @syncBody_reaches_persist_reported env a nc continueProcessing (.inl (by simpa using hp))
  exact settled_of_reported hw hc hm hg hrep

/-- Along every run, a tick finishes only when the cluster runs the config of the current spec. -/
theorem sync_finishes_only_when_settled {L : Layout} {w : World} {env : SyncEnv} {a : Answers}
    {nc : NdbCluster} (hw : Reachable L (ComesBack L) w) (hc : Consistent L w a)
    (hm : managementNodeIds nc = L.mgmds) (hs : a.handleScaleDown ≠ finishProcessing)
    (hr : a.reconcileDeployment ≠ finishProcessing)
    (hf : (sync env a nc).result = .ok finishProcessing) :
    (∀ n, ¬ w.Outstanding n) ∧ (∀ n ∈ L.rolloutNodes, w.running n = some w.cfg) ∧
      ∃ rc, a.resourceContext = .ok rc ∧ rc.configGeneration = w.cfg ∧
        env.calculateNewConfigHash nc.spec = .ok rc.configHash := by
  have hbody := syncBody_finishes hs hr hf
  obtain ⟨ensured, cs, hg, -, -, hrep⟩ := syncBody_reaches_persist_reported (.inr hbody)
  obtain ⟨ensured', cs', hg', hM, hD, hRD, hR, -⟩ :=
    @syncBody_reaches_persist env a nc .patchConfigMap _ rfl (.inr hbody)
  obtain ⟨rfl, rfl⟩ := hg.unique hg'
  have hrc := rolloutGates_resourceContext hg
  have hpersist := (result_syncBody_of_rollout hg hM hD hR hRD) ▸ hbody
  obtain ⟨hout, hrun⟩ := settled_of_reported hw hc hm hg hrep
  exact ⟨hout, hrun, _, hrc, (hc.resourceContext _ hrc).1, (persistNewConfig_finish hpersist).1⟩

/-! ### Cooperative rounds -/

/-- A tick that stops nodes, after which each comes back running the config map's generation. -/
inductive CooperativeRound (L : Layout) : World → World → Prop
  | round {w : World} (env : SyncEnv) (a : Answers) (nc : NdbCluster) (newCfg : Nat)
      (ids : List Int) : Consistent L w a → managementNodeIds nc = L.mgmds →
      (sync env a nc).calls.filter Call.isStopNodes = [.stopNodes ids] →
      CooperativeRound L w ((w.afterTick (sync env a nc).calls newCfg).bringBack ids)

section Rounds

variable {L : Layout} {w w' : World}

theorem World.bringBack_steps (w : World) (ids : List Int) :
    Relation.ReflTransGen (Step L (ComesBack L)) w (w.bringBack ids) := by
  induction ids generalizing w with
  | nil => exact .refl
  | cons n ns ih =>
    refine .head (.down n) (.head (.restart n w.cfg (by simp [World.down]) (.inr (.inl rfl))) ?_)
    exact ih _

theorem CooperativeRound.steps (h : CooperativeRound L w w') :
    Relation.ReflTransGen (Step L (ComesBack L)) w w' := by
  cases h with
  | round env a nc newCfg ids hc hm _ => exact .head (.tick env a nc newCfg hc hm) (World.bringBack_steps _ ids)

theorem CooperativeRound.outdatedCount_lt (h : CooperativeRound L w w') :
    w'.outdatedCount L < w.outdatedCount L := by
  cases h with
  | round env a nc newCfg ids hc hm hf =>
    obtain ⟨hne, hout⟩ := sync_stopNodes_outdated hc hm hf
    obtain ⟨n, hn⟩ := List.exists_mem_of_ne_nil ids hne
    obtain ⟨hnr, v, hv, hvne⟩ := hout n hn
    rw [afterTick_sync_of_stop hf]
    refine countP_lt_countP (fun m _ hm' => ?_) ⟨n, hnr, ?_⟩
    · by_cases hmi : m ∈ ids <;> simp_all [World.bringBack_running, World.stop]
    · simp [World.bringBack_running, World.stop, hn, hv, hvne]

end Rounds

/-- No run of cooperative rounds is longer than the number of outdated rollout nodes. -/
theorem cooperativeRounds_length_le {L : Layout} {w : World} {ws : List World}
    (h : List.Chain (CooperativeRound L) w ws) :
    ws.length ≤ w.outdatedCount L ∧
      Relation.ReflTransGen (Step L (ComesBack L)) w (ws.getLast?.getD w) := by
  induction h with
  | nil => exact ⟨Nat.zero_le _, .refl⟩
  | cons hr _ ih =>
    refine ⟨Nat.succ_le_of_lt (Nat.lt_of_le_of_lt ih.1 hr.outdatedCount_lt), ?_⟩
    rename_i w₁ w₂ ws
    cases ws with
    | nil => exact hr.steps
    | cons w₃ ws => exact hr.steps.trans (by simpa using ih.2)

/-! ### A sample rollout -/

def sampleAnswersOf (w : World) : Answers :=
  { convergedAnswers with
    getConfigVersion := fun k =>
      if k ∈ sampleLayout.mgmds then (w.running k).elim (.error .notFound) .ok else .error .notFound
    getDataNodeConfigVersion := fun i j =>
      match (sampleLayout.groups[j]?).bind (·[i]?) with
      | some n => (w.running n).elim (.error .notFound) .ok
      | none => .error .notFound }

theorem consistent_sampleAnswersOf {w : World} (hcfg : w.cfg = 1) :
    Consistent sampleLayout w (sampleAnswersOf w) where
  configVersion k v h := by
    simp only [sampleAnswersOf] at h
    split_ifs at h
    cases hk : w.running k <;> simp_all
  dataNodeConfigVersion i j v h := by
    simp only [sampleAnswersOf] at h
    split at h
    · rename_i n hn
      obtain ⟨g, hg, hgn⟩ := Option.bind_eq_some.mp hn
      refine ⟨g, n, hg, hgn, ?_⟩
      cases hr : w.running n <;> simp_all
    · cases h
  nodeGroups _ _ h h' := by
    cases h
    cases h'
    rfl
  resourceContext _ h := by
    cases h
    exact ⟨hcfg.symm, rfl⟩

theorem responsive_sampleAnswersOf {w : World}
    (hup : ∀ n ∈ sampleLayout.rolloutNodes, w.running n ≠ none) :
    Responsive sampleLayout (sampleAnswersOf w) where
  getPod _ := rfl
  connect _ := rfl
  configVersion k hk := by
    obtain ⟨v, hv⟩ := Option.ne_none_iff_exists'.mp (hup k (List.mem_append_left _ hk))
    exact ⟨v, by simp [sampleAnswersOf, hk, hv]⟩
  nodeGroups _ h := by
    cases h
    rfl
  positions := by decide
  dataNodeConfigVersion i hi j hj := by
    obtain rfl : j = 0 := by simpa [sampleLayout] using hj
    obtain ⟨v₃, h₃⟩ := Option.ne_none_iff_exists'.mp (hup 3 (by decide))
    obtain ⟨v₄, h₄⟩ := Option.ne_none_iff_exists'.mp (hup 4 (by decide))
    change i < 2 at hi
    interval_cases i
    · exact ⟨v₃, by simp [sampleAnswersOf, sampleLayout, h₃]⟩
    · exact ⟨v₄, by simp [sampleAnswersOf, sampleLayout, h₄]⟩

def rollingWorld : World :=
  ⟨1, fun n => if n = 4 then some 0 else if n = 1 ∨ n = 2 ∨ n = 3 then some 1 else none, fun _ => none⟩

theorem rollingWorld_gates :
    RolloutGates sampleSyncEnv (sampleAnswersOf rollingWorld) sampleSyncCluster
      ⟨⟨1, 2, 2, "h1"⟩, some ⟨"example-ndbmtd", true, some 2⟩, none⟩ ⟨true, some [[3, 4]]⟩ :=
  ⟨rfl, rfl, rfl, rfl, rfl⟩

theorem rollingWorld_up : ∀ n ∈ sampleLayout.rolloutNodes, rollingWorld.running n ≠ none := by
  decide

theorem rollingWorld_stops_outdated :
    ∃ ids, (sync sampleSyncEnv (sampleAnswersOf rollingWorld) sampleSyncCluster).calls.filter
        Call.isStopNodes = [.stopNodes ids] ∧ ids ≠ [] ∧
      ∀ n ∈ ids, n ∈ sampleLayout.rolloutNodes ∧ ∃ v, rollingWorld.running n = some v ∧ v ≠ rollingWorld.cfg :=
  (sync_stops_iff_outdated rollingWorld_gates (consistent_sampleAnswersOf rfl)
    (responsive_sampleAnswersOf rollingWorld_up) rfl).resolve_left
    fun h => absurd (h.2.2.2 4 (by decide)) (by decide)

def rolledWorld : World :=
  (rollingWorld.afterTick (sync sampleSyncEnv (sampleAnswersOf rollingWorld) sampleSyncCluster).calls
    1).bringBack [4]

theorem rollingWorld_rounds :
    [rolledWorld].length ≤ rollingWorld.outdatedCount sampleLayout ∧
      Relation.ReflTransGen (Step sampleLayout (ComesBack sampleLayout)) rollingWorld rolledWorld :=
  cooperativeRounds_length_le (.cons (.round sampleSyncEnv _ sampleSyncCluster 1 [4]
    (consistent_sampleAnswersOf rfl) rfl (by decide)) .nil)

def settledWorld : World := ⟨1, fun _ => some 1, fun _ => none⟩

theorem settledWorld_patch :
    (∀ n, ¬ settledWorld.Outstanding n) ∧
      ∀ n ∈ sampleLayout.rolloutNodes, settledWorld.running n = some settledWorld.cfg :=
  @patchConfigMap_only_when_settled sampleLayout settledWorld hashSyncEnv
    (sampleAnswersOf settledWorld) sampleSyncCluster (.init fun _ => rfl)
    (consistent_sampleAnswersOf rfl) rfl (by decide)

theorem settledWorld_finishes :
    (∀ n, ¬ settledWorld.Outstanding n) ∧
      (∀ n ∈ sampleLayout.rolloutNodes, settledWorld.running n = some settledWorld.cfg) ∧
      ∃ rc, (sampleAnswersOf settledWorld).resourceContext = .ok rc ∧
        rc.configGeneration = settledWorld.cfg ∧
        sampleSyncEnv.calculateNewConfigHash sampleSyncCluster.spec = .ok rc.configHash :=
  @sync_finishes_only_when_settled sampleLayout settledWorld sampleSyncEnv
    (sampleAnswersOf settledWorld) sampleSyncCluster (.init fun _ => rfl)
    (consistent_sampleAnswersOf rfl) rfl (by decide) (by decide) (by decide)

end NdbOperator
