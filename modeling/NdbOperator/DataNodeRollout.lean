import NdbOperator.Sync

set_option autoImplicit false

/-!
# The data node rollout, position by position

What `ensureDataNodeConfigVersion` does for every pattern of answers, when the node groups of the
cluster status have the positions `0..RedundancyLevel-1` that it reads: it visits the positions in
order, asks every group's node at a position for its config version, and at the first position with
an outdated node stops exactly the outdated nodes there, one call for all of them. A failed
`GetConfigVersion` ends it before any `StopNodes`.
-/

namespace NdbOperator

open SyncResult Tick

def oldCandidate (a : Answers) (wanted i : Nat) (p : Nat × Int) : Option Int :=
  match a.getDataNodeConfigVersion i p.1 with
  | .ok v => if wanted ≠ v then some p.2 else none
  | .error _ => none

/-- The outdated nodes at position `i`: at most one node of each group, in group order. -/
def outdatedNodes (a : Answers) (wanted : Nat) (groups : List (List Int)) (i : Nat) : List Int :=
  groups.enum.filterMap fun p => p.2[i]?.bind fun n => oldCandidate a wanted i (p.1, n)

def PositionAnswered (a : Answers) (groups : List (List Int)) (i : Nat) : Prop :=
  ∀ j < groups.length, ∃ v, a.getDataNodeConfigVersion i j = .ok v

def PositionUpToDate (a : Answers) (wanted : Nat) (groups : List (List Int)) (i : Nat) : Prop :=
  ∀ j < groups.length, a.getDataNodeConfigVersion i j = .ok wanted

section Specs

variable {a : Answers}

theorem filterMap_enumFrom_of_mapM {i : Nat} (f : Nat × Int → Option Int) :
    ∀ {groups : List (List Int)} {cands : List Int} (k : Nat), groups.mapM (·[i]?) = some cands →
      (cands.enumFrom k).filterMap f =
        (groups.enumFrom k).filterMap fun p => p.2[i]?.bind fun n => f (p.1, n)
  | [], cands, k, h => by
    cases h
    rfl
  | g :: gs, cands, k, h => by
    simp only [List.mapM_cons, Option.bind_eq_bind, Option.bind_eq_some, Option.pure_def,
      Option.some.injEq] at h
    obtain ⟨n, hn, ns, hns, rfl⟩ := h
    simp only [List.enumFrom_cons, List.filterMap_cons, hn, Option.some_bind,
      filterMap_enumFrom_of_mapM f (k + 1) hns]

theorem outdatedNodes_eq {wanted i : Nat} {groups : List (List Int)} {cands : List Int}
    (h : groups.mapM (·[i]?) = some cands) :
    cands.enum.filterMap (oldCandidate a wanted i) = outdatedNodes a wanted groups i :=
  filterMap_enumFrom_of_mapM _ 0 h

theorem oldCandidate_eq_none_or (a : Answers) (wanted i : Nat) (p : Nat × Int) :
    oldCandidate a wanted i p = none ∨ oldCandidate a wanted i p = some p.2 := by
  unfold oldCandidate
  split
  · split_ifs <;> simp
  · exact .inl rfl

theorem outdatedNodes_sublist (a : Answers) (wanted i : Nat) :
    ∀ (groups : List (List Int)) (k : Nat),
      ((groups.enumFrom k).filterMap fun p =>
        p.2[i]?.bind fun n => oldCandidate a wanted i (p.1, n)).Sublist (groups.filterMap (·[i]?))
  | [], _ => List.Sublist.slnil
  | g :: gs, k => by
    simp only [List.enumFrom_cons, List.filterMap_cons]
    rcases g[i]? with _ | n
    · exact outdatedNodes_sublist a wanted i gs (k + 1)
    · rcases oldCandidate_eq_none_or a wanted i (k, n) with h | h <;> simp only [Option.some_bind, h]
      · exact (outdatedNodes_sublist a wanted i gs (k + 1)).cons n
      · exact (outdatedNodes_sublist a wanted i gs (k + 1)).cons₂ n

theorem nodesWithOldConfig_answered {wanted i : Nat} :
    ∀ {cands : List (Nat × Int)}, (∀ p ∈ cands, ∃ v, a.getDataNodeConfigVersion i p.1 = .ok v) →
      (nodesWithOldConfig a wanted i cands).run =
        ⟨cands.map fun p => .getConfigVersion p.2,
          .ok (.ok (cands.filterMap (oldCandidate a wanted i)))⟩
  | [], _ => rfl
  | (j, n) :: rest, h => by
    obtain ⟨v, hv⟩ := h (j, n) (List.mem_cons_self _ _)
    rw [nodesWithOldConfig_cons, hv]
    simp only [nodesWithOldConfig_answered fun p hp => h p (List.mem_cons_of_mem _ hp),
      List.map_cons, List.filterMap_cons, oldCandidate, hv]
    split_ifs <;> rfl

theorem nodesWithOldConfig_error {wanted i j : Nat} {err : ApiError}
    (hpre : ∀ j' < j, ∃ v, a.getDataNodeConfigVersion i j' = .ok v)
    (he : a.getDataNodeConfigVersion i j = .error err) :
    ∀ (cands : List Int) (k : Nat), k ≤ j → j < k + cands.length →
      (nodesWithOldConfig a wanted i (cands.enumFrom k)).run.result = .ok (.error err)
  | [], k, hk, hj => by simp at hj; omega
  | n :: cands, k, hk, hj => by
    rw [List.enumFrom_cons, nodesWithOldConfig_cons]
    rcases Nat.eq_or_lt_of_le hk with rfl | hk
    · rw [he]
    · obtain ⟨v, hv⟩ := hpre k hk
      rw [hv]
      simp only [nodesWithOldConfig_error hpre he cands (k + 1) hk (by simp at hj; omega)]

theorem filter_isStopNodes_nodesWithOldConfig (wanted i : Nat) (cands : List (Nat × Int)) :
    (nodesWithOldConfig a wanted i cands).run.calls.filter Call.isStopNodes = [] :=
  List.filter_eq_nil_iff.mpr fun c hc => by
    obtain ⟨n, rfl⟩ := (@nodesWithOldConfig_calls a wanted i cands).1 c hc
    simp [Call.isStopNodes]

theorem ensureDataNodePositions_returns {wanted : Nat} {groups : List (List Int)} :
    ∀ {positions : List Nat}, (∀ i ∈ positions, ∀ g ∈ groups, i < g.length) →
      ∃ r, (ensureDataNodePositions a wanted groups positions).run.result = .ok r
  | [], _ => ⟨_, rfl⟩
  | i :: rest, h => by
    obtain ⟨cands, hm⟩ := mapM_getElem?_of_lt (h i (List.mem_cons_self _ _))
    obtain ⟨-, r, hr⟩ := @nodesWithOldConfig_calls a wanted i cands.enum
    rw [ensureDataNodePositions_cons, hm]
    simp only [hr]
    rcases r with err | _ | ⟨n, ns⟩
    · exact ⟨_, rfl⟩
    · exact ensureDataNodePositions_returns fun i' hi' => h i' (List.mem_cons_of_mem _ hi')
    · exact ⟨_, rfl⟩

theorem ensureDataNodePositions_append_upToDate {wanted : Nat} {groups : List (List Int)}
    (rest : List Nat) : ∀ {pre : List Nat}, (∀ i ∈ pre, ∀ g ∈ groups, i < g.length) →
      (∀ i ∈ pre, PositionUpToDate a wanted groups i) →
      (ensureDataNodePositions a wanted groups (pre ++ rest)).run.calls.filter Call.isStopNodes =
          (ensureDataNodePositions a wanted groups rest).run.calls.filter Call.isStopNodes ∧
        (ensureDataNodePositions a wanted groups (pre ++ rest)).run.result =
          (ensureDataNodePositions a wanted groups rest).run.result
  | [], _, _ => ⟨rfl, rfl⟩
  | i :: pre, hin, hup => by
    obtain ⟨cands, hm⟩ := mapM_getElem?_of_lt (hin i (List.mem_cons_self _ _))
    have hlen := (getElem?_of_mapM_getElem? hm).1
    have hans : ∀ p ∈ cands.enum, a.getDataNodeConfigVersion i p.1 = .ok wanted := fun p hp =>
      hup i (List.mem_cons_self _ _) p.1 (hlen ▸ List.fst_lt_of_mem_enum hp)
    have hold : cands.enum.filterMap (oldCandidate a wanted i) = [] :=
      List.filterMap_eq_nil_iff.mpr fun p hp => by simp [oldCandidate, hans p hp]
    obtain ⟨hf, hr⟩ := ensureDataNodePositions_append_upToDate rest
      (fun i' hi' => hin i' (List.mem_cons_of_mem _ hi'))
      (fun i' hi' => hup i' (List.mem_cons_of_mem _ hi'))
    have hres : (nodesWithOldConfig a wanted i cands.enum).run.result = .ok (.ok []) := by
      rw [nodesWithOldConfig_answered fun p hp => ⟨_, hans p hp⟩, hold]
    rw [List.cons_append, ensureDataNodePositions_cons, hm]
    simp only [hres, List.filter_append, filter_isStopNodes_nodesWithOldConfig, List.nil_append, hf,
      hr, and_self]

theorem ensureDataNodePositions_outdated {wanted i : Nat} {groups : List (List Int)}
    (rest : List Nat) (hin : ∀ g ∈ groups, i < g.length) (hans : PositionAnswered a groups i)
    (hne : outdatedNodes a wanted groups i ≠ []) :
    (ensureDataNodePositions a wanted groups (i :: rest)).run.calls.filter Call.isStopNodes =
        [.stopNodes (outdatedNodes a wanted groups i)] ∧
      (ensureDataNodePositions a wanted groups (i :: rest)).run.result =
        .ok (a.stopDataNodes.map fun _ => requeueInSeconds 5) := by
  obtain ⟨cands, hm⟩ := mapM_getElem?_of_lt hin
  have hlen := (getElem?_of_mapM_getElem? hm).1
  rw [ensureDataNodePositions_cons, hm]
  rw [← outdatedNodes_eq hm] at hne
  simp only [nodesWithOldConfig_answered fun p hp => hans p.1 (hlen ▸ List.fst_lt_of_mem_enum hp),
    outdatedNodes_eq hm]
  obtain ⟨n, ns, hns⟩ := List.exists_cons_of_ne_nil hne
  rw [outdatedNodes_eq hm] at hns
  simp only [hns]
  exact ⟨by simp [List.filter_map, Function.comp_def, Call.isStopNodes], trivial⟩

theorem ensureDataNodePositions_error {wanted i j : Nat} {groups : List (List Int)} {err : ApiError}
    (rest : List Nat) (hin : ∀ g ∈ groups, i < g.length) (hj : j < groups.length)
    (hpre : ∀ j' < j, ∃ v, a.getDataNodeConfigVersion i j' = .ok v)
    (he : a.getDataNodeConfigVersion i j = .error err) :
    (ensureDataNodePositions a wanted groups (i :: rest)).run.calls.filter Call.isStopNodes = [] ∧
      (ensureDataNodePositions a wanted groups (i :: rest)).run.result = .ok (.error err) := by
  obtain ⟨cands, hm⟩ := mapM_getElem?_of_lt hin
  have hr := @nodesWithOldConfig_error a wanted i j err hpre he cands 0 (Nat.zero_le j)
    (by rw [(getElem?_of_mapM_getElem? hm).1]; omega)
  rw [ensureDataNodePositions_cons, hm]
  simp only [List.enum, hr]
  exact ⟨filter_isStopNodes_nodesWithOldConfig _ _ _, trivial⟩

theorem positionUpToDate_of_outdatedNodes_eq_nil {wanted i : Nat} {groups : List (List Int)}
    (hin : ∀ g ∈ groups, i < g.length) (hans : PositionAnswered a groups i)
    (h : outdatedNodes a wanted groups i = []) : PositionUpToDate a wanted groups i := by
  intro j hj
  obtain ⟨v, hv⟩ := hans j hj
  have hi : i < groups[j].length := hin _ (List.getElem_mem hj)
  have hnone := List.filterMap_eq_nil_iff.mp h (j, groups[j]) (List.mem_enum_iff_getElem?.mpr (by simp))
  simp only [List.getElem?_eq_getElem hi, Option.some_bind, oldCandidate, hv, ne_eq, ite_eq_right_iff, reduceCtorEq,
    imp_false, not_not] at hnone
  rw [hv, hnone]

theorem ensureDataNodePositions_answered {wanted : Nat} {groups : List (List Int)} :
    ∀ {positions : List Nat}, (∀ i ∈ positions, ∀ g ∈ groups, i < g.length) →
      (∀ i ∈ positions, PositionAnswered a groups i) →
      (ensureDataNodePositions a wanted groups positions).run.result = .ok (.ok continueProcessing) ∨
        (ensureDataNodePositions a wanted groups positions).run.calls.filter Call.isStopNodes ≠ []
  | [], _, _ => .inl rfl
  | i :: rest, hin, hans => by
    by_cases hne : outdatedNodes a wanted groups i = []
    · have hup := positionUpToDate_of_outdatedNodes_eq_nil (hin i (List.mem_cons_self i rest))
        (hans i (List.mem_cons_self i rest)) hne
      obtain ⟨hf, hr⟩ := @ensureDataNodePositions_append_upToDate a wanted groups rest [i]
        (fun i' hi' => hin i' (List.mem_singleton.mp hi' ▸ List.mem_cons_self i rest))
        (fun i' hi' => List.mem_singleton.mp hi' ▸ hup)
      rw [List.singleton_append] at hf hr
      rw [hf, hr]
      exact ensureDataNodePositions_answered (fun i' hi' => hin i' (List.mem_cons_of_mem i hi'))
        (fun i' hi' => hans i' (List.mem_cons_of_mem i hi'))
    · right
      rw [(ensureDataNodePositions_outdated rest (hin i (List.mem_cons_self i rest))
        (hans i (List.mem_cons_self i rest)) hne).1]
      exact List.cons_ne_nil _ _

theorem range_eq_append_cons {i n : Nat} (h : i < n) :
    ∃ rest, List.range n = List.range i ++ i :: rest := by
  refine ⟨(List.range (n - i - 1)).map fun x => i + (x + 1), ?_⟩
  conv_lhs => rw [show n = i + (n - i - 1 + 1) by omega]
  rw [List.range_add, List.range_succ_eq_map]
  simp [Function.comp_def]

theorem filter_isStopNodes_connect {env : SyncEnv} {nc : NdbCluster} (site : ConnectSite)
    (nodeId : Int) :
    (connectToManagementServer env a nc site nodeId).run.calls.filter Call.isStopNodes = [] :=
  List.filter_eq_nil_iff.mpr fun c hc => by
    rcases (connectToManagementServer_spec site nodeId).1 c hc with ⟨name, rfl⟩ | rfl <;>
      simp [Call.isStopNodes]

theorem ensureDataNodeConfigVersion_connected {env : SyncEnv} {nc : NdbCluster}
    {rc : ResourceContext} {cs : ClusterStatus} {groups : List (List Int)}
    (hc : (connectToManagementServer env a nc .dataNodes 1).run.result = .ok (.ok ()))
    (hg : cs.nodesGroupedByNodegroup = some groups) :
    (ensureDataNodeConfigVersion env a nc rc cs).calls.filter Call.isStopNodes =
        (ensureDataNodePositions a rc.configGeneration groups
          (List.range rc.redundancyLevel)).run.calls.filter Call.isStopNodes ∧
      (∀ sr, (ensureDataNodePositions a rc.configGeneration groups
          (List.range rc.redundancyLevel)).run.result = .ok (.ok sr) →
        (ensureDataNodeConfigVersion env a nc rc cs).result = .ok sr) ∧
      (∀ err, (ensureDataNodePositions a rc.configGeneration groups
          (List.range rc.redundancyLevel)).run.result = .ok (.error err) →
        (ensureDataNodeConfigVersion env a nc rc cs).result = .ok (errorWhileProcessing err)) := by
  rw [ensureDataNodeConfigVersion_eq]
  simp only [hc, ensureDataNodeGroups, hg, List.filter_append, filter_isStopNodes_connect,
    List.nil_append]
  exact ⟨by simp [Call.isStopNodes], fun sr h => by rw [h], fun err h => by rw [h]⟩

theorem ensureDataNodeConfigVersion_answered {env : SyncEnv} {nc : NdbCluster}
    {rc : ResourceContext} {cs : ClusterStatus} {groups : List (List Int)}
    (hc : (connectToManagementServer env a nc .dataNodes 1).run.result = .ok (.ok ()))
    (hg : cs.nodesGroupedByNodegroup = some groups)
    (hlen : ∀ g ∈ groups, rc.redundancyLevel ≤ g.length)
    (hans : ∀ i < rc.redundancyLevel, PositionAnswered a groups i) :
    (ensureDataNodeConfigVersion env a nc rc cs).result = .ok continueProcessing ∨
      (ensureDataNodeConfigVersion env a nc rc cs).calls.filter Call.isStopNodes ≠ [] := by
  obtain ⟨hf, hok, -⟩ := @ensureDataNodeConfigVersion_connected a env nc rc cs groups hc hg
  rw [hf]
  exact (ensureDataNodePositions_answered
    (fun i hi g hg' => Nat.lt_of_lt_of_le (List.mem_range.mp hi) (hlen g hg'))
    (fun i hi => hans i (List.mem_range.mp hi))).imp_left (hok _)

end Specs

/-- The data node rollout for every answer, when each node group holds `RedundancyLevel` nodes. -/
theorem ensureDataNodeConfigVersion_spec {env : SyncEnv} {a : Answers} {nc : NdbCluster}
    {rc : ResourceContext} {cs : ClusterStatus} {groups : List (List Int)}
    (hg : cs.nodesGroupedByNodegroup = some groups)
    (hlen : ∀ g ∈ groups, rc.redundancyLevel ≤ g.length) :
    (∃ sr, (ensureDataNodeConfigVersion env a nc rc cs).result = .ok sr) ∧
    (∀ err, (connectToManagementServer env a nc .dataNodes 1).run.result = .ok (.error err) →
      (ensureDataNodeConfigVersion env a nc rc cs).calls.filter Call.isStopNodes = [] ∧
      (ensureDataNodeConfigVersion env a nc rc cs).result = .ok (errorWhileProcessing err)) ∧
    ((connectToManagementServer env a nc .dataNodes 1).run.result = .ok (.ok ()) →
      ((∀ i < rc.redundancyLevel, PositionUpToDate a rc.configGeneration groups i) →
        (ensureDataNodeConfigVersion env a nc rc cs).calls.filter Call.isStopNodes = [] ∧
        (ensureDataNodeConfigVersion env a nc rc cs).result = .ok continueProcessing) ∧
      (∀ i < rc.redundancyLevel, (∀ i' < i, PositionUpToDate a rc.configGeneration groups i') →
        PositionAnswered a groups i → outdatedNodes a rc.configGeneration groups i ≠ [] →
        (outdatedNodes a rc.configGeneration groups i).Sublist (groups.filterMap (·[i]?)) ∧
        (ensureDataNodeConfigVersion env a nc rc cs).calls.filter Call.isStopNodes =
          [.stopNodes (outdatedNodes a rc.configGeneration groups i)] ∧
        (ensureDataNodeConfigVersion env a nc rc cs).result =
          .ok (match a.stopDataNodes with
            | .ok () => requeueInSeconds 5
            | .error err => errorWhileProcessing err)) ∧
      (∀ i < rc.redundancyLevel, ∀ j < groups.length, ∀ err,
        (∀ i' < i, PositionUpToDate a rc.configGeneration groups i') →
        (∀ j' < j, ∃ v, a.getDataNodeConfigVersion i j' = .ok v) →
        a.getDataNodeConfigVersion i j = .error err →
        (ensureDataNodeConfigVersion env a nc rc cs).calls.filter Call.isStopNodes = [] ∧
        (ensureDataNodeConfigVersion env a nc rc cs).result = .ok (errorWhileProcessing err))) := by
  have hin : ∀ {n}, n ≤ rc.redundancyLevel → ∀ i ∈ List.range n, ∀ g ∈ groups, i < g.length :=
    fun hn i hi g hg => by have := hlen g hg; have := List.mem_range.mp hi; omega
  have hpre : ∀ {i}, (∀ i' < i, PositionUpToDate a rc.configGeneration groups i') →
      ∀ i' ∈ List.range i, PositionUpToDate a rc.configGeneration groups i' :=
    fun h i' hi' => h i' (List.mem_range.mp hi')
  refine ⟨?_, fun err hc => ?_, fun hc => ⟨fun hup => ?_, fun i hi hup hans hne => ?_,
    fun i hi j hj err hup hprev he => ?_⟩⟩
  · obtain ⟨-, r, hr⟩ := @connectToManagementServer_spec env a nc .dataNodes 1
    rcases r with err | ⟨⟩
    · rw [ensureDataNodeConfigVersion_eq]
      simp only [hr]
      exact ⟨_, rfl⟩
    · obtain ⟨-, hok, herr⟩ := @ensureDataNodeConfigVersion_connected a env nc rc cs groups hr hg
      obtain ⟨r, hr⟩ := @ensureDataNodePositions_returns a rc.configGeneration groups _ (hin le_rfl)
      rcases r with err | sr
      · exact ⟨_, herr err hr⟩
      · exact ⟨_, hok sr hr⟩
  · rw [ensureDataNodeConfigVersion_eq]
    simp only [hc, filter_isStopNodes_connect, and_self]
  · obtain ⟨hcf, hok, -⟩ := ensureDataNodeConfigVersion_connected hc hg
    obtain ⟨hf, hr⟩ := ensureDataNodePositions_append_upToDate [] (hin le_rfl)
      fun i hi => hup i (List.mem_range.mp hi)
    rw [List.append_nil] at hf hr
    exact ⟨hcf.trans hf, hok _ hr⟩
  · obtain ⟨rest, hrest⟩ := range_eq_append_cons hi
    obtain ⟨hcf, hok, herr⟩ := ensureDataNodeConfigVersion_connected hc hg
    obtain ⟨hf, hr⟩ := ensureDataNodePositions_append_upToDate (i :: rest) (hin hi.le) (hpre hup)
    obtain ⟨hf', hr'⟩ := ensureDataNodePositions_outdated rest
      (fun g hg => Nat.lt_of_lt_of_le hi (hlen g hg)) hans hne
    rw [hrest] at hcf hok herr
    refine ⟨outdatedNodes_sublist a _ i groups 0, hcf.trans (hf.trans hf'), ?_⟩
    rcases hs : a.stopDataNodes with err | ⟨⟩
    · exact herr err (by rw [hr, hr', hs]; rfl)
    · exact hok _ (by rw [hr, hr', hs]; rfl)
  · obtain ⟨rest, hrest⟩ := range_eq_append_cons hi
    obtain ⟨hcf, -, herr⟩ := ensureDataNodeConfigVersion_connected hc hg
    obtain ⟨hf, hr⟩ := ensureDataNodePositions_append_upToDate (i :: rest) (hin hi.le) (hpre hup)
    obtain ⟨hf', hr'⟩ := @ensureDataNodePositions_error a rc.configGeneration i j groups err rest
      (fun g hg => Nat.lt_of_lt_of_le hi (hlen g hg)) hj hprev he
    rw [hrest] at hcf herr
    exact ⟨hcf.trans (hf.trans hf'), herr err (hr.trans hr')⟩

theorem ensureDataNodeConfigVersion_spec_sample :
    ∃ sr, (ensureDataNodeConfigVersion sampleSyncEnv convergedAnswers sampleSyncCluster
      ⟨1, 2, 2, "h1"⟩ ⟨true, some [[3, 4]]⟩).result = .ok sr :=
  (@ensureDataNodeConfigVersion_spec sampleSyncEnv convergedAnswers sampleSyncCluster
    ⟨1, 2, 2, "h1"⟩ ⟨true, some [[3, 4]]⟩ [[3, 4]] rfl (by decide)).1

/-! ## Management sessions

The loop of `ensureManagementServerConfigVersion` disconnects its client by hand, where
`retrieveClusterStatus` and `ensureDataNodeConfigVersion` defer the `Disconnect`; its return on a
failed `GetConfigVersion` leaves the session open. -/

def failingVersionAnswers : Answers :=
  { convergedAnswers with getConfigVersion := fun _ => .error (.other "timeout") }

/-- A failed `GetConfigVersion` of management node 1 returns without disconnecting its client. -/
theorem ensureManagementServerConfigVersion_leaks_session :
    (ensureManagementServerConfigVersion sampleSyncEnv failingVersionAnswers sampleSyncCluster
        ⟨1, 2, 2, "h1"⟩).calls = [.getPod "example-mgmd-0", .connect 1, .getConfigVersion 1] ∧
      failingVersionAnswers.connect (.managementServer 1) = .ok () ∧
      (ensureManagementServerConfigVersion sampleSyncEnv failingVersionAnswers sampleSyncCluster
        ⟨1, 2, 2, "h1"⟩).result = .ok (errorWhileProcessing (.other "timeout")) :=
  ⟨rfl, rfl, rfl⟩

end NdbOperator
