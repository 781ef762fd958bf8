import NdbOperator.Resources

set_option autoImplicit false

/-!
# The config-version rollout

The steps of `sync` that talk to the management server: `retrieveClusterStatus`, and the two
rollout steps. `ensureManagementServerConfigVersion` visits the management nodes `1..m` and
stops the first one whose config version is not the wanted one; `ensureDataNodeConfigVersion`
visits the positions `0..RedundancyLevel-1` of the node groups and stops, in one `StopNodes`,
the outdated nodes at the first position that has any.
-/

namespace NdbOperator

open SyncResult Tick

section Rollout

variable (env : SyncEnv) (a : Answers) (nc : NdbCluster)

/-- Inside Kubernetes, the pod of management node `nodeId` is looked up by its ordinal `nodeId - 1`. -/
def connectToManagementServer (site : ConnectSite) (nodeId : Int) : ExceptT ApiError Tick Unit := do
  if env.runningInsideK8s then
    Tick.call (.getPod (env.serviceName nc.name "mgmd" ++ "-" ++ toString (nodeId - 1)))
    Tick.answer (a.getPod site)
  Tick.call (.connect nodeId)
  Tick.answer (a.connect site)

def retrieveClusterStatus : ExceptT ApiError Tick ClusterStatus := do
  connectToManagementServer env a nc .clusterStatus 1
  ExceptT.mk (Tick.deferCall (do
    Tick.call .getStatus
    pure a.getStatus) .disconnect)

/-- The ids of `for nodeID := 1; nodeID <= GetManagementNodeCount(); nodeID++`. -/
def managementNodeIds : List Int :=
  (List.range nc.getManagementNodeCount.val.toNat).map fun i : Nat => (i : Int) + 1

/-- The loop of `ensureManagementServerConfigVersion`; a failed `GetConfigVersion` skips `Disconnect`. -/
def ensureManagementServerConfigVersionFrom (wanted : Nat) : List Int → Tick SyncResult
  | [] => return continueProcessing
  | nodeID :: rest => do
    match ← (connectToManagementServer env a nc (.managementServer nodeID) nodeID).run with
    | .error err => return errorWhileProcessing err
    | .ok () =>
      Tick.call (.getConfigVersion nodeID)
      match a.getConfigVersion nodeID with
      | .error err => return errorWhileProcessing err
      | .ok version =>
        if version = wanted then
          Tick.call .disconnect
          ensureManagementServerConfigVersionFrom wanted rest
        else
          Tick.call (.stopNodes [nodeID])
          Tick.call .disconnect
          return requeueInSeconds 5

def ensureManagementServerConfigVersion (rc : ResourceContext) : Tick SyncResult :=
  ensureManagementServerConfigVersionFrom env a nc rc.configGeneration (managementNodeIds nc)

/-- The nodes at position `i` whose config version is not the wanted one, in group order. -/
def nodesWithOldConfig (wanted i : Nat) : List (Nat × Int) → ExceptT ApiError Tick (List Int)
  | [] => return []
  | (j, nodeID) :: rest => do
    Tick.call (.getConfigVersion nodeID)
    let nodeConfigGeneration ← Tick.answer (a.getDataNodeConfigVersion i j)
    let old ← nodesWithOldConfig wanted i rest
    return if wanted ≠ nodeConfigGeneration then nodeID :: old else old

/-- The loop of `ensureDataNodeConfigVersion` over the positions; a group without position `i` panics. -/
def ensureDataNodePositions (wanted : Nat) (groups : List (List Int)) :
    List Nat → ExceptT ApiError Tick SyncResult
  | [] => return continueProcessing
  | i :: rest => do
    let some candidateNodeIds := groups.mapM (·[i]?)
      | Tick.halt (.panic "runtime error: index out of range")
    let old ← nodesWithOldConfig a wanted i candidateNodeIds.enum
    if old ≠ [] then
      Tick.call (.stopNodes old)
      Tick.answer a.stopDataNodes
      return requeueInSeconds 5
    ensureDataNodePositions wanted groups rest

/-- The body of `ensureDataNodeConfigVersion` between its connection and its deferred `Disconnect`. -/
def ensureDataNodeGroups (rc : ResourceContext) (cs : ClusterStatus) :
    ExceptT ApiError Tick SyncResult :=
  match cs.nodesGroupedByNodegroup with
  | none => throw (.other
      "internal error: could not extract nodes and node groups from cluster status")
  | some groups => ensureDataNodePositions a rc.configGeneration groups (List.range rc.redundancyLevel)

def ensureDataNodeConfigVersion (rc : ResourceContext) (cs : ClusterStatus) : Tick SyncResult := do
  match ← (connectToManagementServer env a nc .dataNodes 1).run with
  | .error err => return errorWhileProcessing err
  | .ok () =>
    let r ← Tick.deferCall (ensureDataNodeGroups a rc cs).run .disconnect
    return match r with
      | .ok sr => sr
      | .error err => errorWhileProcessing err

end Rollout

/-! ## What the rollout steps do -/

theorem getElem?_of_mapM_getElem? {i : Nat} : ∀ {groups : List (List Int)} {cands : List Int},
    groups.mapM (·[i]?) = some cands →
      cands.length = groups.length ∧ ∀ j : Nat, cands[j]? = groups[j]?.bind fun g : List Int => g[i]?
  | [], cands, h => by
    cases h
    simp
  | g :: gs, cands, h => by
    simp only [List.mapM_cons, Option.bind_eq_bind, Option.bind_eq_some, Option.pure_def,
      Option.some.injEq] at h
    obtain ⟨n, hn, ns, hns, rfl⟩ := h
    obtain ⟨hlen, hget⟩ := getElem?_of_mapM_getElem? hns
    refine ⟨by simp [hlen], fun j => ?_⟩
    cases j with
    | zero => simpa using hn.symm
    | succ j => simpa using hget j

theorem mapM_getElem?_of_lt {i : Nat} : ∀ {groups : List (List Int)},
    (∀ g ∈ groups, i < g.length) → ∃ cands, groups.mapM (·[i]?) = some cands
  | [], _ => ⟨[], rfl⟩
  | g :: gs, h => by
    obtain ⟨ns, hns⟩ := mapM_getElem?_of_lt fun g' hg' => h g' (List.mem_cons_of_mem g hg')
    obtain ⟨n, hn⟩ : ∃ n, g[i]? = some n :=
      ⟨_, List.getElem?_eq_getElem (h g (List.mem_cons_self g gs))⟩
    refine ⟨n :: ns, ?_⟩
    rw [List.mapM_cons, hn, hns]
    rfl

theorem mem_enum_of_mapM_getElem? {i : Nat} {groups : List (List Int)} {cands : List Int}
    (h : groups.mapM (·[i]?) = some cands) (j : Nat) (n : Int) :
    (j, n) ∈ cands.enum ↔ ∃ g, groups[j]? = some g ∧ g[i]? = some n := by
  rw [List.mk_mem_enum_iff_getElem?, (getElem?_of_mapM_getElem? h).2 j, Option.bind_eq_some]

/-- Every node group has a node at position `i`, and each of them reported `wanted`. -/
def PositionReported (a : Answers) (wanted : Nat) (groups : List (List Int)) (i : Nat) : Prop :=
  ∀ (j : Nat) (g : List Int), groups[j]? = some g → ∃ n, g[i]? = some n ∧ a.getDataNodeConfigVersion i j = .ok wanted

def OutdatedAt (a : Answers) (wanted : Nat) (groups : List (List Int)) (i : Nat) (ids : List Int) :
    Prop :=
  ids ≠ [] ∧ ∀ n ∈ ids, ∃ j g v, groups[j]? = some g ∧ g[i]? = some n ∧
    a.getDataNodeConfigVersion i j = .ok v ∧ v ≠ wanted

section Specs

variable {env : SyncEnv} {a : Answers} {nc : NdbCluster}

theorem connectToManagementServer_run (site : ConnectSite) (nodeId : Int) :
    (connectToManagementServer env a nc site nodeId).run =
      if env.runningInsideK8s then
        match a.getPod site with
        | .ok () => ⟨[.getPod (env.serviceName nc.name "mgmd" ++ "-" ++ toString (nodeId - 1)),
            .connect nodeId], .ok (a.connect site)⟩
        | .error err =>
          ⟨[.getPod (env.serviceName nc.name "mgmd" ++ "-" ++ toString (nodeId - 1))], .ok (.error err)⟩
      else ⟨[.connect nodeId], .ok (a.connect site)⟩ := by
  unfold connectToManagementServer
  split
  · rcases a.getPod site with err | ⟨⟩ <;> rfl
  · rfl

theorem connectToManagementServer_spec (site : ConnectSite) (nodeId : Int) :
    AllCalls (fun c => (∃ name, c = .getPod name) ∨ c = .connect nodeId)
        (connectToManagementServer env a nc site nodeId).run ∧
      ∃ r, (connectToManagementServer env a nc site nodeId).run.result = .ok r := by
  rw [connectToManagementServer_run]
  split
  · rcases a.getPod site with err | ⟨⟩
    · exact ⟨by simp [AllCalls], _, rfl⟩
    · exact ⟨by simp [AllCalls], _, rfl⟩
  · exact ⟨by simp [AllCalls], _, rfl⟩

theorem retrieveClusterStatus_run :
    (retrieveClusterStatus env a nc).run =
      let conn := (connectToManagementServer env a nc .clusterStatus 1).run
      match conn.result with
      | .ok (.ok ()) => ⟨conn.calls ++ [.getStatus, .disconnect], .ok a.getStatus⟩
      | .ok (.error err) => ⟨conn.calls, .ok (.error err)⟩
      | .error h => ⟨conn.calls, .error h⟩ := by
  simp only [retrieveClusterStatus]
  rcases hr : (connectToManagementServer env a nc .clusterStatus 1).run.result with h | err | ⟨⟩ <;>
    apply Tick.ext <;> simp [hr]

theorem ensureManagementServerConfigVersionFrom_cons (wanted : Nat) (k : Int) (rest : List Int) :
    ensureManagementServerConfigVersionFrom env a nc wanted (k :: rest) =
      let conn := (connectToManagementServer env a nc (.managementServer k) k).run
      match conn.result with
      | .ok (.ok ()) =>
        match a.getConfigVersion k with
        | .error err => ⟨conn.calls ++ [.getConfigVersion k], .ok (errorWhileProcessing err)⟩
        | .ok v =>
          if v = wanted then
            ⟨conn.calls ++ [.getConfigVersion k, .disconnect] ++
              (ensureManagementServerConfigVersionFrom env a nc wanted rest).calls,
              (ensureManagementServerConfigVersionFrom env a nc wanted rest).result⟩
          else ⟨conn.calls ++ [.getConfigVersion k, .stopNodes [k], .disconnect],
            .ok (requeueInSeconds 5)⟩
      | .ok (.error err) => ⟨conn.calls, .ok (errorWhileProcessing err)⟩
      | .error h => ⟨conn.calls, .error h⟩ := by
  simp only [ensureManagementServerConfigVersionFrom]
  rcases hr : (connectToManagementServer env a nc (.managementServer k) k).run.result with
    h | err | ⟨⟩ <;> rcases hv : a.getConfigVersion k with err' | v <;> apply Tick.ext <;> simp [hr, hv]
  all_goals by_cases hw : v = wanted <;> simp [hw]

theorem ensureManagementServerConfigVersionFrom_stops (wanted : Nat) (ids : List Int) :
    (ensureManagementServerConfigVersionFrom env a nc wanted ids).calls.filter Call.isStopNodes = [] ∨
      ∃ pre k post, ids = pre ++ k :: post ∧ (∀ k' ∈ pre, a.getConfigVersion k' = .ok wanted) ∧
        (∃ v, a.getConfigVersion k = .ok v ∧ v ≠ wanted) ∧
        (ensureManagementServerConfigVersionFrom env a nc wanted ids).calls.filter
          Call.isStopNodes = [.stopNodes [k]] ∧
        (ensureManagementServerConfigVersionFrom env a nc wanted ids).result =
          .ok (requeueInSeconds 5) := by
  induction ids with
  | nil => exact .inl rfl
  | cons k rest ih =>
    obtain ⟨hc, r, hr⟩ := @connectToManagementServer_spec env a nc (.managementServer k) k
    have hcf : (connectToManagementServer env a nc (.managementServer k) k).run.calls.filter
        Call.isStopNodes = [] :=
      List.filter_eq_nil_iff.mpr fun c hc' => by
        rcases hc c hc' with ⟨name, rfl⟩ | rfl <;> simp [Call.isStopNodes]
    rw [ensureManagementServerConfigVersionFrom_cons]
    simp only [hr]
    rcases r with err | ⟨⟩
    · exact .inl hcf
    · rcases hv : a.getConfigVersion k with err | v
      · left
        simp [hcf, Call.isStopNodes]
      · by_cases hvw : v = wanted
        · simp only [hvw, if_true, List.filter_append, hcf, List.nil_append]
          rcases ih with h | ⟨pre, k', post, rfl, hpre, hk', hf, hres⟩
          · left
            simp [h, Call.isStopNodes]
          · right
            refine ⟨k :: pre, k', post, rfl, ?_, hk', by simp [hf, Call.isStopNodes], hres⟩
            simpa [hv, hvw] using hpre
        · right
          exact ⟨[], k, rest, rfl, by simp, ⟨v, hv, hvw⟩, by simp [hvw, hcf, Call.isStopNodes],
            by simp [hvw]⟩

theorem ensureManagementServerConfigVersionFrom_continue {wanted : Nat} {ids : List Int}
    (h : (ensureManagementServerConfigVersionFrom env a nc wanted ids).result = .ok continueProcessing) :
    ∀ k ∈ ids, a.getConfigVersion k = .ok wanted ∧
      Call.getConfigVersion k ∈ (ensureManagementServerConfigVersionFrom env a nc wanted ids).calls := by
  induction ids with
  | nil => simp
  | cons k rest ih =>
    obtain ⟨-, r, hr⟩ := @connectToManagementServer_spec env a nc (.managementServer k) k
    rw [ensureManagementServerConfigVersionFrom_cons] at h ⊢
    simp only [hr] at h ⊢
    rcases r with err | ⟨⟩
    · cases h
    · rcases hv : a.getConfigVersion k with err | v
      · rw [hv] at h; cases h
      · rw [hv] at h
        by_cases hvw : v = wanted
        · simp only [hvw, if_true] at h ⊢
          intro k' hk'
          rcases List.mem_cons.mp hk' with rfl | hk'
          · simp [hv, hvw]
          · obtain ⟨h1, h2⟩ := ih h k' hk'
            simp [h1, h2]
        · simp [hvw] at h

theorem nodesWithOldConfig_cons (wanted i j : Nat) (nodeID : Int) (rest : List (Nat × Int)) :
    (nodesWithOldConfig a wanted i ((j, nodeID) :: rest)).run =
      match a.getDataNodeConfigVersion i j with
      | .error err => ⟨[.getConfigVersion nodeID], .ok (.error err)⟩
      | .ok v => ⟨.getConfigVersion nodeID :: (nodesWithOldConfig a wanted i rest).run.calls,
          match (nodesWithOldConfig a wanted i rest).run.result with
          | .ok (.ok old) => .ok (.ok (if wanted ≠ v then nodeID :: old else old))
          | .ok (.error err) => .ok (.error err)
          | .error h => .error h⟩ := by
  simp only [nodesWithOldConfig]
  rcases a.getDataNodeConfigVersion i j with err | v
  · rfl
  · apply Tick.ext <;> simp
    split <;> simp_all

theorem nodesWithOldConfig_calls (wanted i : Nat) (cands : List (Nat × Int)) :
    AllCalls (fun c => ∃ n, c = .getConfigVersion n) (nodesWithOldConfig a wanted i cands).run ∧
      ∃ r, (nodesWithOldConfig a wanted i cands).run.result = .ok r := by
  induction cands with
  | nil => exact ⟨allCalls_pure _, _, rfl⟩
  | cons jn rest ih =>
    obtain ⟨hcalls, r, hr⟩ := ih
    rw [nodesWithOldConfig_cons]
    split
    · exact ⟨by simp [AllCalls], _, rfl⟩
    · refine ⟨fun c hc => ?_, ?_⟩
      · rcases List.mem_cons.mp hc with rfl | hc
        · exact ⟨_, rfl⟩
        · exact hcalls c hc
      · simp only [hr]
        rcases r with err | old <;> exact ⟨_, rfl⟩

theorem nodesWithOldConfig_ok {wanted i : Nat} {cands : List (Nat × Int)} {old : List Int}
    (h : (nodesWithOldConfig a wanted i cands).run.result = .ok (.ok old)) :
    (∀ j n, (j, n) ∈ cands → ∃ v, a.getDataNodeConfigVersion i j = .ok v ∧
      Call.getConfigVersion n ∈ (nodesWithOldConfig a wanted i cands).run.calls ∧
      (v ≠ wanted → n ∈ old)) ∧
    ∀ n ∈ old, ∃ j v, (j, n) ∈ cands ∧ a.getDataNodeConfigVersion i j = .ok v ∧ v ≠ wanted := by
  induction cands generalizing old with
  | nil =>
    cases h
    simp
  | cons jn rest ih =>
    obtain ⟨j, n⟩ := jn
    rw [nodesWithOldConfig_cons] at h ⊢
    rcases hv : a.getDataNodeConfigVersion i j with err | v
    · simp [hv] at h
    · simp only [hv] at h ⊢
      split at h
      · rename_i old' hr
        obtain ⟨hall, hin⟩ := ih hr
        cases h
        refine ⟨fun j' n' hjn => ?_, fun m hm => ?_⟩
        · rcases List.mem_cons.mp hjn with hjn | hjn
          · cases hjn
            exact ⟨v, hv, List.mem_cons_self _ _, fun hvw => by simp [Ne.symm hvw]⟩
          · obtain ⟨v', hv', hc', hold'⟩ := hall j' n' hjn
            exact ⟨v', hv', List.mem_cons_of_mem _ hc', fun hvw => by split <;> simp [hold' hvw]⟩
        · have hm' : (m = n ∧ wanted ≠ v) ∨ m ∈ old' := by
            split at hm
            · rcases List.mem_cons.mp hm with rfl | hm
              · exact .inl ⟨rfl, ‹_›⟩
              · exact .inr hm
            · exact .inr hm
          rcases hm' with ⟨rfl, hvw⟩ | hm
          · exact ⟨j, v, List.mem_cons_self _ _, hv, Ne.symm hvw⟩
          · obtain ⟨j', v', hm', hv', hne⟩ := hin m hm
            exact ⟨j', v', List.mem_cons_of_mem _ hm', hv', hne⟩
      all_goals cases h

theorem positionReported_of_nodesWithOldConfig {wanted i : Nat} {groups : List (List Int)}
    {cands : List Int} (hm : groups.mapM (·[i]?) = some cands)
    (h : (nodesWithOldConfig a wanted i cands.enum).run.result = .ok (.ok [])) :
    PositionReported a wanted groups i ∧ ∀ (j : Nat) (g : List Int) (n : Int), groups[j]? = some g →
      g[i]? = some n →
      Call.getConfigVersion n ∈ (nodesWithOldConfig a wanted i cands.enum).run.calls := by
  have hall := (nodesWithOldConfig_ok h).1
  obtain ⟨hlen, hget⟩ := getElem?_of_mapM_getElem? hm
  refine ⟨fun j g hg => ?_, fun j g n hg hn => ?_⟩
  · have hj : j < cands.length := hlen ▸ (List.getElem?_eq_some_iff.mp hg).1
    obtain ⟨n, hn⟩ : ∃ n, g[i]? = some n := by
      rw [← Option.ne_none_iff_exists', ← Option.some_bind g (fun g : List Int => g[i]?), ← hg,
        ← hget j]
      simp [hj]
    obtain ⟨v, hv, -, hvw⟩ := hall j n ((mem_enum_of_mapM_getElem? hm j n).mpr ⟨g, hg, hn⟩)
    exact ⟨n, hn, by rw [hv, not_imp_comm.mp hvw (List.not_mem_nil n)]⟩
  · obtain ⟨v, -, hc, -⟩ := hall j n ((mem_enum_of_mapM_getElem? hm j n).mpr ⟨g, hg, hn⟩)
    exact hc

theorem outdatedAt_of_nodesWithOldConfig {wanted i : Nat} {groups : List (List Int)}
    {cands : List Int} {old : List Int} (hm : groups.mapM (·[i]?) = some cands)
    (h : (nodesWithOldConfig a wanted i cands.enum).run.result = .ok (.ok old)) (hne : old ≠ []) :
    OutdatedAt a wanted groups i old := by
  refine ⟨hne, fun n hn => ?_⟩
  obtain ⟨j, v, hjn, hv, hvw⟩ := (nodesWithOldConfig_ok h).2 n hn
  obtain ⟨g, hg, hgn⟩ := (mem_enum_of_mapM_getElem? hm j n).mp hjn
  exact ⟨j, g, v, hg, hgn, hv, hvw⟩

theorem ensureDataNodePositions_cons (wanted : Nat) (groups : List (List Int)) (i : Nat)
    (rest : List Nat) :
    (ensureDataNodePositions a wanted groups (i :: rest)).run =
      match groups.mapM (·[i]?) with
      | none => ⟨[], .error (.panic "runtime error: index out of range")⟩
      | some cands =>
        let check := (nodesWithOldConfig a wanted i cands.enum).run
        match check.result with
        | .ok (.ok []) => ⟨check.calls ++ (ensureDataNodePositions a wanted groups rest).run.calls,
            (ensureDataNodePositions a wanted groups rest).run.result⟩
        | .ok (.ok (n :: ns)) => ⟨check.calls ++ [.stopNodes (n :: ns)],
            .ok (a.stopDataNodes.map fun _ => requeueInSeconds 5)⟩
        | .ok (.error err) => ⟨check.calls, .ok (.error err)⟩
        | .error h => ⟨check.calls, .error h⟩ := by
  simp only [ensureDataNodePositions]
  rcases groups.mapM (·[i]?) with _ | cands
  · rfl
  · rcases hr : (nodesWithOldConfig a wanted i cands.enum).run.result with h | err | _ | ⟨n, ns⟩ <;>
      apply Tick.ext <;> simp [hr]
    rcases a.stopDataNodes with _ | ⟨⟩ <;> rfl

theorem ensureDataNodePositions_stops (wanted : Nat) (groups : List (List Int)) (positions : List Nat) :
    (ensureDataNodePositions a wanted groups positions).run.calls.filter Call.isStopNodes = [] ∨
      ∃ pre i post ids, positions = pre ++ i :: post ∧
        (∀ i' ∈ pre, PositionReported a wanted groups i') ∧ OutdatedAt a wanted groups i ids ∧
        (ensureDataNodePositions a wanted groups positions).run.calls.filter Call.isStopNodes =
          [.stopNodes ids] ∧
        (ensureDataNodePositions a wanted groups positions).run.result =
          .ok (a.stopDataNodes.map fun _ => requeueInSeconds 5) := by
  induction positions with
  | nil => exact .inl rfl
  | cons i rest ih =>
    rw [ensureDataNodePositions_cons]
    rcases hm : groups.mapM (·[i]?) with _ | cands
    · exact .inl rfl
    · obtain ⟨hcalls, r, hr⟩ := @nodesWithOldConfig_calls a wanted i cands.enum
      have hcf : (nodesWithOldConfig a wanted i cands.enum).run.calls.filter Call.isStopNodes = [] :=
        List.filter_eq_nil_iff.mpr fun c hc => by
          obtain ⟨n, rfl⟩ := hcalls c hc
          simp [Call.isStopNodes]
      simp only [hr]
      rcases r with err | _ | ⟨n, ns⟩
      · exact .inl hcf
      · simp only [List.filter_append, hcf, List.nil_append]
        rcases ih with h | ⟨pre, i', post, ids, rfl, hpre, hout, hf, hres⟩
        · exact .inl h
        · refine .inr ⟨i :: pre, i', post, ids, rfl, ?_, hout, hf, hres⟩
          intro i'' hi''
          rcases List.mem_cons.mp hi'' with rfl | hi''
          · exact (positionReported_of_nodesWithOldConfig hm hr).1
          · exact hpre i'' hi''
      · exact .inr ⟨[], i, rest, n :: ns, rfl, by simp,
          outdatedAt_of_nodesWithOldConfig hm hr (List.cons_ne_nil n ns),
          by simp [hcf, Call.isStopNodes], rfl⟩

theorem ensureDataNodePositions_continue {wanted : Nat} {groups : List (List Int)}
    {positions : List Nat}
    (h : (ensureDataNodePositions a wanted groups positions).run.result = .ok (.ok continueProcessing)) :
    ∀ i ∈ positions, PositionReported a wanted groups i ∧
      ∀ (j : Nat) (g : List Int) (n : Int), groups[j]? = some g → g[i]? = some n →
        Call.getConfigVersion n ∈ (ensureDataNodePositions a wanted groups positions).run.calls := by
  induction positions with
  | nil => simp
  | cons i rest ih =>
    rw [ensureDataNodePositions_cons] at h ⊢
    rcases hm : groups.mapM (·[i]?) with _ | cands
    · rw [hm] at h; cases h
    · rw [hm] at h
      simp only at h ⊢
      obtain ⟨-, r, hr⟩ := @nodesWithOldConfig_calls a wanted i cands.enum
      rw [hr] at h ⊢
      rcases r with err | _ | ⟨n, ns⟩
      · cases h
      · intro i' hi'
        rcases List.mem_cons.mp hi' with rfl | hi'
        · obtain ⟨hrep, hc⟩ := positionReported_of_nodesWithOldConfig hm hr
          exact ⟨hrep, fun j g n hg hn => List.mem_append_left _ (hc j g n hg hn)⟩
        · obtain ⟨hrep, hc⟩ := ih h i' hi'
          exact ⟨hrep, fun j g n hg hn => List.mem_append_right _ (hc j g n hg hn)⟩
      · simp [Except.map] at h
        split at h <;> simp at h

theorem ensureDataNodeConfigVersion_eq (rc : ResourceContext) (cs : ClusterStatus) :
    ensureDataNodeConfigVersion env a nc rc cs =
      let conn := (connectToManagementServer env a nc .dataNodes 1).run
      match conn.result with
      | .ok (.ok ()) =>
        ⟨conn.calls ++ (ensureDataNodeGroups a rc cs).run.calls ++ [.disconnect],
          match (ensureDataNodeGroups a rc cs).run.result with
          | .ok (.ok sr) => .ok sr
          | .ok (.error err) => .ok (errorWhileProcessing err)
          | .error h => .error h⟩
      | .ok (.error err) => ⟨conn.calls, .ok (errorWhileProcessing err)⟩
      | .error h => ⟨conn.calls, .error h⟩ := by
  simp only [ensureDataNodeConfigVersion]
  rcases hr : (connectToManagementServer env a nc .dataNodes 1).run.result with h | err | ⟨⟩ <;>
    apply Tick.ext <;> simp [hr]
  all_goals rcases (ensureDataNodeGroups a rc cs).run.result with h | err | sr <;> rfl

theorem lt_of_range_eq_append_cons {n i : Nat} {pre post : List Nat}
    (h : List.range n = pre ++ i :: post) : i < n ∧ ∀ i' < i, i' ∈ pre := by
  have hlen : pre.length < n := by
    have := congrArg List.length h
    simp only [List.length_range, List.length_append, List.length_cons] at this
    omega
  have hi : i = pre.length := by
    have := List.getElem?_range hlen
    rw [h, List.getElem?_append_right (Nat.le_refl _), Nat.sub_self] at this
    simpa using this
  subst hi
  refine ⟨hlen, fun i' hi' => @List.getElem?_mem _ pre i' i' ?_⟩
  rw [← List.getElem?_append_left hi', ← h, List.getElem?_range (by omega)]

theorem ensureDataNodeConfigVersion_stops (rc : ResourceContext) (cs : ClusterStatus) :
    (ensureDataNodeConfigVersion env a nc rc cs).calls.filter Call.isStopNodes = [] ∨
      ∃ groups i ids, cs.nodesGroupedByNodegroup = some groups ∧ i < rc.redundancyLevel ∧
        (∀ i' < i, PositionReported a rc.configGeneration groups i') ∧
        OutdatedAt a rc.configGeneration groups i ids ∧
        (ensureDataNodeConfigVersion env a nc rc cs).calls.filter Call.isStopNodes =
          [.stopNodes ids] ∧
        ∃ sr, (ensureDataNodeConfigVersion env a nc rc cs).result = .ok sr ∧ sr.stopSync := by
  obtain ⟨hc, r, hr⟩ := @connectToManagementServer_spec env a nc .dataNodes 1
  have hcf : (connectToManagementServer env a nc .dataNodes 1).run.calls.filter
      Call.isStopNodes = [] :=
    List.filter_eq_nil_iff.mpr fun c hc' => by
      rcases hc c hc' with ⟨name, rfl⟩ | rfl <;> simp [Call.isStopNodes]
  rw [ensureDataNodeConfigVersion_eq]
  simp only [hr]
  rcases r with err | ⟨⟩
  · exact .inl hcf
  · simp only [List.filter_append, hcf, List.nil_append]
    unfold ensureDataNodeGroups
    rcases hg : cs.nodesGroupedByNodegroup with _ | groups
    · left
      simp [Call.isStopNodes]
    · rcases @ensureDataNodePositions_stops a rc.configGeneration groups
        (List.range rc.redundancyLevel) with h | ⟨pre, i, post, ids, hpos, hpre, hout, hf, hres⟩
      · left
        simp [h, Call.isStopNodes]
      · obtain ⟨hi, hlt⟩ := lt_of_range_eq_append_cons hpos
        refine .inr ⟨groups, i, ids, rfl, hi, fun i' hi' => hpre i' (hlt i' hi'), hout,
          by simp [hf, Call.isStopNodes], ?_⟩
        simp only [hres]
        rcases a.stopDataNodes with err | ⟨⟩ <;> exact ⟨_, rfl, rfl⟩

theorem ensureDataNodeConfigVersion_continue {rc : ResourceContext} {cs : ClusterStatus}
    (h : (ensureDataNodeConfigVersion env a nc rc cs).result = .ok continueProcessing) :
    ∃ groups, cs.nodesGroupedByNodegroup = some groups ∧ ∀ i < rc.redundancyLevel,
      PositionReported a rc.configGeneration groups i ∧
      ∀ (j : Nat) (g : List Int) (n : Int), groups[j]? = some g → g[i]? = some n →
        Call.getConfigVersion n ∈ (ensureDataNodeConfigVersion env a nc rc cs).calls := by
  obtain ⟨-, r, hr⟩ := @connectToManagementServer_spec env a nc .dataNodes 1
  rw [ensureDataNodeConfigVersion_eq] at h ⊢
  simp only [hr] at h ⊢
  rcases r with err | ⟨⟩
  · cases h
  · unfold ensureDataNodeGroups at h ⊢
    rcases hg : cs.nodesGroupedByNodegroup with _ | groups
    · simp [hg] at h
    · simp only [hg] at h ⊢
      split at h
      · rename_i sr hsr
        cases h
        refine ⟨groups, rfl, fun i hi => ?_⟩
        obtain ⟨hrep, hcalls⟩ := ensureDataNodePositions_continue hsr i (List.mem_range.mpr hi)
        exact ⟨hrep, fun j g n hj hn =>
          List.mem_append_left _ (List.mem_append_right _ (hcalls j g n hj hn))⟩
      all_goals cases h

/-- The calls that the rollout steps make besides `StopNodes`; they change nothing. -/
def RolloutCall (c : Call) : Prop := c.isStopNodes ∨ c.mutates = false

theorem rolloutCall_of_connect {site : ConnectSite} {nodeId : Int} :
    AllCalls RolloutCall (connectToManagementServer env a nc site nodeId).run :=
  (connectToManagementServer_spec site nodeId).1.mono fun c hc => by
    rcases hc with ⟨name, rfl⟩ | rfl <;> exact .inr rfl

theorem ensureManagementServerConfigVersionFrom_calls (wanted : Nat) (ids : List Int) :
    AllCalls RolloutCall (ensureManagementServerConfigVersionFrom env a nc wanted ids) ∧
      (ensureManagementServerConfigVersionFrom env a nc wanted ids).result ≠ .ok finishProcessing := by
  induction ids with
  | nil => exact ⟨allCalls_pure _, by simp [ensureManagementServerConfigVersionFrom]⟩
  | cons k rest ih =>
    have hc := @rolloutCall_of_connect env a nc (.managementServer k) k
    rw [ensureManagementServerConfigVersionFrom_cons]
    obtain ⟨-, r, hr⟩ := @connectToManagementServer_spec env a nc (.managementServer k) k
    simp only [hr]
    rcases r with err | ⟨⟩
    · exact ⟨hc, by simp⟩
    · have hv : RolloutCall (.getConfigVersion k) := .inr rfl
      have hd : RolloutCall .disconnect := .inr rfl
      have hs : RolloutCall (.stopNodes [k]) := .inl rfl
      simp only [AllCalls] at hc ih
      rcases a.getConfigVersion k with err | v
      · exact ⟨by simpa [AllCalls, or_imp, forall_and, hv] using hc, by simp⟩
      · by_cases hvw : v = wanted
        · exact ⟨by simpa [AllCalls, or_imp, forall_and, hvw, hv, hd] using And.intro hc ih.1,
            by simpa [hvw] using ih.2⟩
        · exact ⟨by simpa [AllCalls, or_imp, forall_and, hvw, hv, hd, hs] using hc, by simp [hvw]⟩

theorem ensureDataNodePositions_calls (wanted : Nat) (groups : List (List Int)) (positions : List Nat) :
    AllCalls RolloutCall (ensureDataNodePositions a wanted groups positions).run ∧
      (ensureDataNodePositions a wanted groups positions).run.result ≠ .ok (.ok finishProcessing) := by
  induction positions with
  | nil => simp [ensureDataNodePositions]
  | cons i rest ih =>
    rw [ensureDataNodePositions_cons]
    rcases groups.mapM (·[i]?) with _ | cands
    · simp
    · obtain ⟨hcalls, r, hr⟩ := @nodesWithOldConfig_calls a wanted i cands.enum
      have hc : AllCalls RolloutCall (nodesWithOldConfig a wanted i cands.enum).run :=
        hcalls.mono fun c ⟨n, hn⟩ => hn ▸ .inr rfl
      simp only [AllCalls] at hc ih
      simp only [hr]
      rcases r with err | _ | ⟨n, ns⟩
      · exact ⟨hc, by simp⟩
      · exact ⟨by simpa [AllCalls, or_imp, forall_and] using And.intro hc ih.1, ih.2⟩
      · refine ⟨?_, ?_⟩
        · simp only [AllCalls, List.mem_append, List.mem_singleton, or_imp, forall_and, forall_eq]
          exact ⟨hc, .inl rfl⟩
        rcases a.stopDataNodes <;> simp [Except.map]

theorem ensureDataNodeConfigVersion_calls (rc : ResourceContext) (cs : ClusterStatus) :
    AllCalls RolloutCall (ensureDataNodeConfigVersion env a nc rc cs) ∧
      (ensureDataNodeConfigVersion env a nc rc cs).result ≠ .ok finishProcessing := by
  have hc := @rolloutCall_of_connect env a nc .dataNodes 1
  obtain ⟨-, r, hr⟩ := @connectToManagementServer_spec env a nc .dataNodes 1
  have hbody : AllCalls RolloutCall (ensureDataNodeGroups a rc cs).run ∧
      (ensureDataNodeGroups a rc cs).run.result ≠ .ok (.ok finishProcessing) := by
    unfold ensureDataNodeGroups
    split
    · simp
    · exact ensureDataNodePositions_calls _ _ _
  simp only [AllCalls] at hc hbody
  rw [ensureDataNodeConfigVersion_eq]
  simp only [hr]
  rcases r with err | ⟨⟩
  · exact ⟨hc, by simp⟩
  · refine ⟨?_, ?_⟩
    · simp only [AllCalls, List.mem_append, List.mem_singleton, or_imp, forall_and, forall_eq]
      exact ⟨⟨hc, hbody.1⟩, .inr rfl⟩
    rcases hb : (ensureDataNodeGroups a rc cs).run.result with h | err | sr
    · simp
    · simp
    · simp only [ne_eq, Except.ok.injEq]
      rintro rfl
      exact hbody.2 hb

theorem retrieveClusterStatus_calls :
    AllCalls (fun c => c.mutates = false) (retrieveClusterStatus env a nc).run := by
  have hc := (@connectToManagementServer_spec env a nc .clusterStatus 1).1.mono
    fun c (h : (∃ name, c = .getPod name) ∨ c = .connect 1) => show c.mutates = false by
      rcases h with ⟨_, rfl⟩ | rfl <;> rfl
  simp only [AllCalls] at hc
  rw [retrieveClusterStatus_run]
  simp only
  split
  · simp only [AllCalls, List.mem_append, List.mem_cons, List.mem_singleton, or_imp, forall_and,
      forall_eq]
    exact ⟨hc, rfl, rfl, fun _ h => nomatch h⟩
  all_goals exact hc

/-! ### A rollout with nothing to do -/

theorem connectToManagementServer_ok {site : ConnectSite} {nodeId : Int}
    (hpod : a.getPod site = .ok ()) (hconn : a.connect site = .ok ()) :
    (connectToManagementServer env a nc site nodeId).run.result = .ok (.ok ()) := by
  rw [connectToManagementServer_run]
  split
  · simp [hpod, hconn]
  · simp [hconn]

theorem ensureManagementServerConfigVersionFrom_wanted {wanted : Nat} {ids : List Int}
    (hconn : ∀ k ∈ ids, (connectToManagementServer env a nc (.managementServer k) k).run.result =
      .ok (.ok ()))
    (hv : ∀ k ∈ ids, a.getConfigVersion k = .ok wanted) :
    (ensureManagementServerConfigVersionFrom env a nc wanted ids).result = .ok continueProcessing := by
  induction ids with
  | nil => rfl
  | cons k rest ih =>
    rw [ensureManagementServerConfigVersionFrom_cons]
    simp only [hconn k (List.mem_cons_self k rest), hv k (List.mem_cons_self k rest), if_true]
    exact ih (fun k' hk' => hconn k' (List.mem_cons_of_mem k hk'))
      (fun k' hk' => hv k' (List.mem_cons_of_mem k hk'))

theorem ensureManagementServerConfigVersionFrom_answered {wanted : Nat} {ids : List Int}
    (hconn : ∀ k ∈ ids, (connectToManagementServer env a nc (.managementServer k) k).run.result =
      .ok (.ok ()))
    (hv : ∀ k ∈ ids, ∃ v, a.getConfigVersion k = .ok v) :
    (ensureManagementServerConfigVersionFrom env a nc wanted ids).result = .ok continueProcessing ∨
      (ensureManagementServerConfigVersionFrom env a nc wanted ids).calls.filter
        Call.isStopNodes ≠ [] := by
  induction ids with
  | nil => exact .inl rfl
  | cons k rest ih =>
    obtain ⟨v, hk⟩ := hv k (List.mem_cons_self k rest)
    rw [ensureManagementServerConfigVersionFrom_cons]
    simp only [hconn k (List.mem_cons_self k rest), hk]
    by_cases hw : v = wanted
    · simp only [hw, if_true, List.filter_append, ne_eq, List.append_eq_nil]
      exact (ih (fun k' hk' => hconn k' (List.mem_cons_of_mem k hk'))
        (fun k' hk' => hv k' (List.mem_cons_of_mem k hk'))).imp_right fun h h' => h h'.2
    · right
      simp [hw, Call.isStopNodes]

theorem nodesWithOldConfig_wanted {wanted i : Nat} {cands : List (Nat × Int)}
    (hv : ∀ jn ∈ cands, a.getDataNodeConfigVersion i jn.1 = .ok wanted) :
    (nodesWithOldConfig a wanted i cands).run.result = .ok (.ok []) := by
  induction cands with
  | nil => rfl
  | cons jn rest ih =>
    obtain ⟨j, n⟩ := jn
    rw [nodesWithOldConfig_cons]
    simp only [hv (j, n) (List.mem_cons_self _ _), ih (fun jn h => hv jn (List.mem_cons_of_mem _ h)),
      ne_eq, not_true_eq_false, if_false]

theorem ensureDataNodePositions_wanted {wanted : Nat} {groups : List (List Int)}
    {positions : List Nat} (hlen : ∀ i ∈ positions, ∀ g ∈ groups, i < g.length)
    (hv : ∀ i ∈ positions, ∀ j < groups.length, a.getDataNodeConfigVersion i j = .ok wanted) :
    (ensureDataNodePositions a wanted groups positions).run.result = .ok (.ok continueProcessing) := by
  induction positions with
  | nil => rfl
  | cons i rest ih =>
    rw [ensureDataNodePositions_cons]
    obtain ⟨cands, hm⟩ := mapM_getElem?_of_lt (hlen i (List.mem_cons_self i rest))
    simp only [hm]
    rw [nodesWithOldConfig_wanted]
    · exact ih (fun i' h => hlen i' (List.mem_cons_of_mem _ h)) (fun i' h => hv i' (List.mem_cons_of_mem _ h))
    · intro ⟨j, n⟩ hjn
      obtain ⟨g, hg, -⟩ := (mem_enum_of_mapM_getElem? hm j n).mp hjn
      exact hv i (List.mem_cons_self _ _) j (List.getElem?_eq_some_iff.mp hg).1

theorem ensureDataNodeConfigVersion_wanted {rc : ResourceContext} {cs : ClusterStatus}
    {groups : List (List Int)}
    (hconn : (connectToManagementServer env a nc .dataNodes 1).run.result = .ok (.ok ()))
    (hgr : cs.nodesGroupedByNodegroup = some groups)
    (hlen : ∀ g ∈ groups, rc.redundancyLevel ≤ g.length)
    (hv : ∀ i < rc.redundancyLevel, ∀ j < groups.length,
      a.getDataNodeConfigVersion i j = .ok rc.configGeneration) :
    (ensureDataNodeConfigVersion env a nc rc cs).result = .ok continueProcessing := by
  have hpos := @ensureDataNodePositions_wanted a rc.configGeneration groups
    (List.range rc.redundancyLevel)
    (fun i hi g hg => Nat.lt_of_lt_of_le (List.mem_range.mp hi) (hlen g hg))
    (fun i hi => hv i (List.mem_range.mp hi))
  rw [ensureDataNodeConfigVersion_eq]
  simp [hconn, ensureDataNodeGroups, hgr, hpos]

theorem Tick.AllCalls.readOnly_of_noStop {α : Type} {x : Tick α} (h : AllCalls RolloutCall x)
    (hs : x.calls.filter Call.isStopNodes = []) : AllCalls (fun c => c.mutates = false) x :=
  fun c hc => (h c hc).resolve_left (List.filter_eq_nil_iff.mp hs c hc)

theorem ensureManagementServerConfigVersionFrom_readOnly {wanted : Nat} {ids : List Int}
    (h : (ensureManagementServerConfigVersionFrom env a nc wanted ids).result = .ok continueProcessing) :
    AllCalls (fun c => c.mutates = false) (ensureManagementServerConfigVersionFrom env a nc wanted ids) := by
  refine (ensureManagementServerConfigVersionFrom_calls wanted ids).1.readOnly_of_noStop ?_
  rcases ensureManagementServerConfigVersionFrom_stops wanted ids with hs | ⟨-, -, -, -, -, -, -, hres⟩
  · exact hs
  · cases h.symm.trans hres

theorem ensureDataNodeConfigVersion_readOnly {rc : ResourceContext} {cs : ClusterStatus}
    (h : (ensureDataNodeConfigVersion env a nc rc cs).result = .ok continueProcessing) :
    AllCalls (fun c => c.mutates = false) (ensureDataNodeConfigVersion env a nc rc cs) := by
  refine (ensureDataNodeConfigVersion_calls rc cs).1.readOnly_of_noStop ?_
  rcases ensureDataNodeConfigVersion_stops rc cs with hs | ⟨-, -, -, -, -, -, -, -, sr, hres, hstop⟩
  · exact hs
  · cases h.symm.trans hres
    cases hstop

end Specs

end NdbOperator
