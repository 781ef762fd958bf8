import NdbOperator.SyncGates
import NdbOperator.NodeIdentity

set_option autoImplicit false

/-!
# The rolling restart across ticks

Ticks of `sync` interleave with nodes going down and coming back. A world holds the config map's
generation, the generation each running node runs, and, as ghost state, the generation that was
wanted when the operator stopped a node that has not yet come back running it. Along every run at
most one management node, and at most one data node of each node group, is stopped and not yet
back: the management nodes are restarted one at a time, the data nodes one position of the node
groups at a time.

The answers of a tick agree with the world: a node reports a generation only while it runs it,
the management server reports the cluster's node groups, and the config map holds the world's
generation and redundancy level. A node that went down of its own comes back with the config
map's generation, or, a data node, with the generation of a running management node; a node the
operator stopped may come back with any generation.
-/

namespace NdbOperator

/-- The nodes of the cluster: the management node ids and the data nodes by node group. -/
structure Layout where
  mgmds : List Int
  groups : List (List Int)
  redundancyLevel : Nat
  nodup : (mgmds ++ groups.flatten).Nodup

def Layout.DataAt (L : Layout) (n : Int) (p : Nat) : Prop :=
  ∃ (j : Nat) (g : List Int), L.groups[j]? = some g ∧ g[p]? = some n

namespace Layout

variable {L : Layout}

theorem mgmds_index_unique {i i' : Nat} {k : Int} (h : L.mgmds[i]? = some k)
    (h' : L.mgmds[i']? = some k) : i = i' := by
  obtain ⟨hi, rfl⟩ := List.getElem?_eq_some_iff.mp h
  obtain ⟨hi', he⟩ := List.getElem?_eq_some_iff.mp h'
  exact ((List.nodup_append.mp L.nodup).1.getElem_inj_iff.mp he).symm

theorem not_mem_mgmds_of_dataAt {n : Int} {p : Nat} (h : L.DataAt n p) : n ∉ L.mgmds := by
  obtain ⟨j, g, hg, hn⟩ := h
  exact fun hm => (List.nodup_append.mp L.nodup).2.2 hm
    (List.mem_flatten.mpr ⟨g, List.getElem?_mem hg, List.getElem?_mem hn⟩)

theorem dataAt_unique {n : Int} {p p' : Nat} (h : L.DataAt n p) (h' : L.DataAt n p') : p = p' := by
  obtain ⟨j, g, hg, hn⟩ := h
  obtain ⟨j', g', hg', hn'⟩ := h'
  have hflat := List.nodup_flatten.mp (List.nodup_append.mp L.nodup).2.1
  have hj : j = j' := by
    by_contra hne
    obtain ⟨hj, rfl⟩ := List.getElem?_eq_some_iff.mp hg
    obtain ⟨hj', rfl⟩ := List.getElem?_eq_some_iff.mp hg'
    rcases Nat.lt_or_gt_of_ne hne with hlt | hlt
    · exact List.pairwise_iff_getElem.mp hflat.2 j j' hj hj' hlt
        (List.getElem?_mem hn) (List.getElem?_mem hn')
    · exact List.pairwise_iff_getElem.mp hflat.2 j' j hj' hj hlt
        (List.getElem?_mem hn') (List.getElem?_mem hn)
  subst hj
  obtain rfl : g = g' := Option.some.inj (hg.symm.trans hg')
  obtain ⟨hp, rfl⟩ := List.getElem?_eq_some_iff.mp hn
  obtain ⟨hp', he⟩ := List.getElem?_eq_some_iff.mp hn'
  exact ((hflat.1 g (List.getElem?_mem hg)).getElem_inj_iff.mp he).symm

end Layout

def Call.stops (n : Int) : Call → Bool
  | .stopNodes ids => ids.contains n
  | _ => false

/-- The state that ticks and node events act on; `stoppedFor` is ghost state. -/
structure World where
  cfg : Nat
  running : Int → Option Nat
  stoppedFor : Int → Option Nat

namespace World

/-- Stopped by the operator and not yet back with the generation wanted then. -/
def Outstanding (w : World) (n : Int) : Prop := w.stoppedFor n ≠ none

instance (w : World) (n : Int) : Decidable (w.Outstanding n) :=
  inferInstanceAs (Decidable (w.stoppedFor n ≠ none))

def Settled (w : World) (n : Int) : Prop :=
  ¬ w.Outstanding n ∧ (w.running n = none ∨ w.running n = some w.cfg)

def afterTick (w : World) (calls : List Call) (newCfg : Nat) : World where
  cfg := if Call.patchConfigMap ∈ calls then newCfg else w.cfg
  running := w.running
  stoppedFor n := if calls.any (Call.stops n) then some w.cfg else w.stoppedFor n

def stop (w : World) (ids : List Int) : World :=
  { w with stoppedFor := fun n => if n ∈ ids then some w.cfg else w.stoppedFor n }

def down (w : World) (n : Int) : World :=
  { w with running := fun m => if m = n then none else w.running m }

def restart (w : World) (n : Int) (g : Nat) : World where
  cfg := w.cfg
  running m := if m = n then some g else w.running m
  stoppedFor m := if m = n ∧ w.stoppedFor n = some g then none else w.stoppedFor m

end World

structure Consistent (L : Layout) (w : World) (a : Answers) : Prop where
  configVersion : ∀ k v, a.getConfigVersion k = .ok v → w.running k = some v
  dataNodeConfigVersion : ∀ i j v, a.getDataNodeConfigVersion i j = .ok v →
    ∃ g n, L.groups[j]? = some g ∧ g[i]? = some n ∧ w.running n = some v
  nodeGroups : ∀ cs groups, a.getStatus = .ok cs → cs.nodesGroupedByNodegroup = some groups →
    groups = L.groups
  resourceContext : ∀ rc, a.resourceContext = .ok rc →
    rc.configGeneration = w.cfg ∧ rc.redundancyLevel = L.redundancyLevel

/-- The generations a node may come back with. -/
def ComesBack (L : Layout) (w : World) (n : Int) (g : Nat) : Prop :=
  w.Outstanding n ∨ g = w.cfg ∨ n ∉ L.mgmds ∧ ∃ k ∈ L.mgmds, w.running k = some g

/-- The events of a run: a consistent tick, a node going down, a node coming back. -/
inductive Step (L : Layout) (comesBack : World → Int → Nat → Prop) : World → World → Prop
  | tick {w : World} (env : SyncEnv) (a : Answers) (nc : NdbCluster) (newCfg : Nat) :
      Consistent L w a → managementNodeIds nc = L.mgmds →
      Step L comesBack w (w.afterTick (sync env a nc).calls newCfg)
  | down {w : World} (n : Int) : Step L comesBack w (w.down n)
  | restart {w : World} (n : Int) (g : Nat) : w.running n = none → comesBack w n g →
      Step L comesBack w (w.restart n g)

inductive Reachable (L : Layout) (comesBack : World → Int → Nat → Prop) : World → Prop
  | init {w : World} : (∀ n, w.stoppedFor n = none) → Reachable L comesBack w
  | step {w w' : World} : Reachable L comesBack w → Step L comesBack w w' →
      Reachable L comesBack w'

namespace World

variable {w : World} {n m : Int}

/-! ### What each event does to a node -/

theorem outstanding_stop {ids : List Int} : (w.stop ids).Outstanding m ↔ m ∈ ids ∨ w.Outstanding m := by
  by_cases hm : m ∈ ids <;> simp [Outstanding, stop, hm]

theorem Settled.stop {ids : List Int} (h : w.Settled m) (hm : m ∉ ids) : (w.stop ids).Settled m :=
  ⟨fun ho => h.1 ((outstanding_stop.mp ho).resolve_left hm), h.2⟩

theorem Settled.down (h : w.Settled m) (n : Int) : (w.down n).Settled m := by
  refine ⟨h.1, ?_⟩
  by_cases hm : m = n
  · simp [World.down, hm]
  · simpa [World.down, hm] using h.2

theorem Outstanding.of_restart {g : Nat} (h : (w.restart n g).Outstanding m) : w.Outstanding m := by
  intro hn
  apply h
  simp [restart, hn]

theorem Settled.restart {g : Nat} (h : w.Settled m) (hg : m = n → g = w.cfg) :
    (w.restart n g).Settled m := by
  refine ⟨fun ho => h.1 ho.of_restart, ?_⟩
  by_cases hm : m = n
  · simp [World.restart, hm, hg hm]
  · simpa [World.restart, hm] using h.2

end World

structure Inv (L : Layout) (w : World) : Prop where
  wanted : ∀ n g, w.stoppedFor n = some g → g = w.cfg
  outdated : ∀ n v, w.Outstanding n → w.running n = some v → v ≠ w.cfg
  inLayout : ∀ n, w.Outstanding n → n ∈ L.mgmds ∨ ∃ p < L.redundancyLevel, L.DataAt n p
  mgmdOrder : ∀ (i i' : Nat) (k k' : Int), L.mgmds[i]? = some k → L.mgmds[i']? = some k' → i < i' →
    w.Outstanding k' → w.Settled k
  dataOrder : ∀ n p, L.DataAt n p → w.Outstanding n →
    (∀ k ∈ L.mgmds, w.Settled k) ∧ ∀ (n' : Int) (p' : Nat), p' < p → L.DataAt n' p' → w.Settled n'

section Inv

variable {L : Layout} {w : World}

theorem Inv.of_none (h : ∀ n, ¬ w.Outstanding n) : Inv L w where
  wanted n g hg := absurd (by simp [World.Outstanding, hg]) (h n)
  outdated n _ ho := absurd ho (h n)
  inLayout n ho := absurd ho (h n)
  mgmdOrder _ _ _ k' _ _ _ ho := absurd ho (h k')
  dataOrder n _ _ ho := absurd ho (h n)

theorem Inv.settled_of_running (hi : Inv L w) {n : Int} (h : w.running n = some w.cfg) :
    w.Settled n :=
  ⟨fun ho => hi.outdated n w.cfg ho h rfl, .inr h⟩

theorem World.Settled.not_running {n : Int} {v : Nat} (h : w.Settled n) (hv : w.running n = some v)
    (hne : v ≠ w.cfg) : False := by
  rcases h.2 with h' | h' <;> rw [h'] at hv
  · cases hv
  · exact hne (Option.some.inj hv).symm

theorem Inv.down (hi : Inv L w) (n : Int) : Inv L (w.down n) where
  wanted := hi.wanted
  outdated m v ho hv := by
    by_cases hm : m = n
    · simp [World.down, hm] at hv
    · exact hi.outdated m v ho (by simpa [World.down, hm] using hv)
  inLayout := hi.inLayout
  mgmdOrder i i' k k' hk hk' hlt ho := (hi.mgmdOrder i i' k k' hk hk' hlt ho).down n
  dataOrder m p hp ho := by
    obtain ⟨hm, hlow⟩ := hi.dataOrder m p hp ho
    exact ⟨fun k hk => (hm k hk).down n, fun n' p' hlt hp' => (hlow n' p' hlt hp').down n⟩

theorem comesBack_cfg {n : Int} {g : Nat} (hc : ComesBack L w n g) (hn : ¬ w.Outstanding n)
    (hm : n ∈ L.mgmds ∨ ∀ k ∈ L.mgmds, w.Settled k) : g = w.cfg := by
  rcases hc with ho | hg | ⟨hnm, k, hk, hg⟩
  · exact absurd ho hn
  · exact hg
  · rcases hm with hm | hm
    · exact absurd hm hnm
    · by_contra hne
      exact (hm k hk).not_running hg hne

theorem Inv.restart (hi : Inv L w) {n : Int} {g : Nat} (hc : ComesBack L w n g) :
    Inv L (w.restart n g) where
  wanted m g' hg' := by
    by_cases hm : m = n ∧ w.stoppedFor n = some g
    · simp [World.restart, hm] at hg'
    · exact hi.wanted m g' (by simpa [World.restart, hm] using hg')
  outdated m v ho hv := by
    have ho' := ho.of_restart
    by_cases hm : m = n
    · subst hm
      obtain ⟨g', hg'⟩ := Option.ne_none_iff_exists'.mp ho'
      have hgg : g' ≠ g := fun h => ho (by simp [World.restart, h ▸ hg'])
      simp only [World.restart, if_true] at hv
      rw [← Option.some.inj hv]
      exact fun h => hgg (h ▸ hi.wanted m g' hg')
    · exact hi.outdated m v ho' (by simpa [World.restart, hm] using hv)
  inLayout m ho := hi.inLayout m ho.of_restart
  mgmdOrder i i' k k' hk hk' hlt ho := by
    have hs := hi.mgmdOrder i i' k k' hk hk' hlt ho.of_restart
    exact hs.restart fun h => comesBack_cfg hc (h ▸ hs.1) (.inl (h ▸ List.getElem?_mem hk))
  dataOrder m p hp ho := by
    obtain ⟨hm, hlow⟩ := hi.dataOrder m p hp ho.of_restart
    exact ⟨fun k hk => (hm k hk).restart fun h => comesBack_cfg hc (h ▸ (hm k hk).1) (.inr hm),
      fun n' p' hlt hp' => (hlow n' p' hlt hp').restart fun h =>
        comesBack_cfg hc (h ▸ (hlow n' p' hlt hp').1) (.inr hm)⟩

theorem Inv.stop_wanted (hi : Inv L w) (ids : List Int) :
    ∀ n g, (w.stop ids).stoppedFor n = some g → g = (w.stop ids).cfg := by
  intro n g hg
  simp only [World.stop] at hg ⊢
  split_ifs at hg
  · exact (Option.some.inj hg).symm
  · exact hi.wanted n g hg

theorem Inv.stopManagement (hi : Inv L w) {pre post : List Int} {k : Int} {v : Nat}
    (hids : L.mgmds = pre ++ k :: post) (hpre : ∀ k' ∈ pre, w.running k' = some w.cfg)
    (hk : w.running k = some v) (hv : v ≠ w.cfg) : Inv L (w.stop [k]) := by
  have hkidx : L.mgmds[pre.length]? = some k := by
    rw [hids, List.getElem?_append_right (Nat.le_refl _), Nat.sub_self, List.getElem?_cons_zero]
  have hkm : k ∈ L.mgmds := List.getElem?_mem hkidx
  have hks : ¬ w.Settled k := fun h => h.not_running hk hv
  refine ⟨hi.stop_wanted [k], fun m v' ho (hv' : w.running m = some v') => ?_, fun m ho => ?_,
    fun i i' k₀ k₁ hk₀ hk₁ hlt ho => ?_, fun m p hp ho => ?_⟩
  · show v' ≠ w.cfg
    rcases World.outstanding_stop.mp ho with hm | ho
    · rw [List.mem_singleton.mp hm, hk] at hv'
      exact Option.some.inj hv' ▸ hv
    · exact hi.outdated m v' ho hv'
  · rcases World.outstanding_stop.mp ho with hm | ho
    · exact .inl (List.mem_singleton.mp hm ▸ hkm)
    · exact hi.inLayout m ho
  · have hk₀k : k₀ ∉ [k] := fun h => by
      rw [List.mem_singleton.mp h] at hk₀
      rcases World.outstanding_stop.mp ho with h₁ | ho
      · rw [List.mem_singleton.mp h₁] at hk₁
        exact absurd ((L.mgmds_index_unique hk₀ hkidx).trans (L.mgmds_index_unique hk₁ hkidx).symm) hlt.ne
      · exact hks (hi.mgmdOrder i i' k k₁ hk₀ hk₁ hlt ho)
    rcases World.outstanding_stop.mp ho with h₁ | ho
    · rw [List.mem_singleton.mp h₁] at hk₁
      have hi' := L.mgmds_index_unique hk₁ hkidx
      rw [hids, List.getElem?_append_left (hi' ▸ hlt)] at hk₀
      exact (hi.settled_of_running (hpre k₀ (List.getElem?_mem hk₀))).stop hk₀k
    · exact (hi.mgmdOrder i i' k₀ k₁ hk₀ hk₁ hlt ho).stop hk₀k
  · rcases World.outstanding_stop.mp ho with hm | ho
    · exact absurd (List.mem_singleton.mp hm ▸ hkm) (L.not_mem_mgmds_of_dataAt hp)
    · exact absurd ((hi.dataOrder m p hp ho).1 k hkm) hks

theorem Inv.stopData (hi : Inv L w) {ids : List Int} {i : Nat}
    (hm : ∀ k ∈ L.mgmds, w.running k = some w.cfg)
    (hlow : ∀ n p, p < i → L.DataAt n p → w.running n = some w.cfg)
    (hrl : i < L.redundancyLevel) (hne : ids ≠ [])
    (hout : ∀ n ∈ ids, L.DataAt n i ∧ ∃ v, w.running n = some v ∧ v ≠ w.cfg) :
    Inv L (w.stop ids) := by
  refine ⟨hi.stop_wanted ids, fun m v' ho (hv' : w.running m = some v') => ?_, fun m ho => ?_,
    fun i₀ i₁ k₀ k₁ hk₀ hk₁ hlt ho => ?_, fun m p hp ho => ?_⟩
  · show v' ≠ w.cfg
    rcases World.outstanding_stop.mp ho with hm' | ho
    · obtain ⟨-, v, hv, hne⟩ := hout m hm'
      rw [hv] at hv'
      exact Option.some.inj hv' ▸ hne
    · exact hi.outdated m v' ho hv'
  · rcases World.outstanding_stop.mp ho with hm' | ho
    · exact .inr ⟨i, hrl, (hout m hm').1⟩
    · exact hi.inLayout m ho
  · rcases World.outstanding_stop.mp ho with h₁ | ho
    · exact absurd (List.getElem?_mem hk₁) (L.not_mem_mgmds_of_dataAt (hout k₁ h₁).1)
    · exact absurd ho (hi.settled_of_running (hm k₁ (List.getElem?_mem hk₁))).1
  · have hpi : p ≤ i := by
      rcases World.outstanding_stop.mp ho with hm' | ho
      · exact (L.dataAt_unique hp (hout m hm').1).le
      · by_contra hlt
        obtain ⟨x, hx⟩ := List.exists_mem_of_ne_nil ids hne
        obtain ⟨hxi, v, hv, hvne⟩ := hout x hx
        exact ((hi.dataOrder m p hp ho).2 x i (by omega) hxi).not_running hv hvne
    refine ⟨fun k hk => (hi.settled_of_running (hm k hk)).stop fun hk' =>
      L.not_mem_mgmds_of_dataAt (hout k hk').1 hk, fun n' p' hlt hp' => ?_⟩
    refine (hi.settled_of_running (hlow n' p' (by omega) hp')).stop fun hn' => ?_
    have := L.dataAt_unique hp' (hout n' hn').1
    omega

end Inv

/-! ### A tick -/

theorem Call.any_stops_eq_filter (calls : List Call) (n : Int) :
    calls.any (Call.stops n) = (calls.filter Call.isStopNodes).any (Call.stops n) := by
  rw [List.any_filter]
  congr 1
  funext c
  cases c <;> rfl

namespace World

variable {w : World} {calls : List Call}

theorem outstanding_afterTick_of_noStop (hf : calls.filter Call.isStopNodes = []) {newCfg : Nat}
    {n : Int} : (w.afterTick calls newCfg).Outstanding n ↔ w.Outstanding n := by
  simp [Outstanding, afterTick, Call.any_stops_eq_filter, hf]

theorem afterTick_of_noStop (hf : calls.filter Call.isStopNodes = [])
    (hp : Call.patchConfigMap ∉ calls) (newCfg : Nat) : w.afterTick calls newCfg = w := by
  simp [afterTick, hp, Call.any_stops_eq_filter, hf]

theorem afterTick_of_stop {ids : List Int} (hf : calls.filter Call.isStopNodes = [.stopNodes ids])
    (hp : Call.patchConfigMap ∉ calls) (newCfg : Nat) : w.afterTick calls newCfg = w.stop ids := by
  simp [afterTick, stop, hp, Call.any_stops_eq_filter, hf, Call.stops]

end World

section Tick

variable {L : Layout} {w : World} {a : Answers}

theorem Consistent.dataRunning (hc : Consistent L w a) {i j : Nat} {g : List Int} {n : Int}
    {v : Nat} (hg : L.groups[j]? = some g) (hn : g[i]? = some n)
    (hv : a.getDataNodeConfigVersion i j = .ok v) : w.running n = some v := by
  obtain ⟨g', n', hg', hn', hr⟩ := hc.dataNodeConfigVersion i j v hv
  obtain rfl : g = g' := Option.some.inj (hg.symm.trans hg')
  obtain rfl : n = n' := Option.some.inj (hn.symm.trans hn')
  exact hr

theorem Consistent.running_of_reported (hc : Consistent L w a) {wanted p : Nat} {n : Int}
    (hrep : PositionReported a wanted L.groups p) (hp : L.DataAt n p) :
    w.running n = some wanted := by
  obtain ⟨j, g, hg, hn⟩ := hp
  obtain ⟨n', hn', hv⟩ := hrep j g hg
  obtain rfl : n = n' := Option.some.inj (hn.symm.trans hn')
  exact hc.dataRunning hg hn hv

theorem Inv.tick (hi : Inv L w) {env : SyncEnv} {nc : NdbCluster} (hc : Consistent L w a)
    (hm : managementNodeIds nc = L.mgmds) (newCfg : Nat) :
    Inv L (w.afterTick (sync env a nc).calls newCfg) := by
  by_cases hp : Call.patchConfigMap ∈ (sync env a nc).calls
  · obtain ⟨ensured, cs, hg, -, hf, hmr, groups, hgr, hdr⟩ :=
      @syncBody_reaches_persist_reported env a nc .continueProcessing (.inl (by simpa using hp))
    have hrc := hc.resourceContext _ (rolloutGates_resourceContext hg)
    obtain rfl := hc.nodeGroups _ _ (rolloutGates_getStatus hg) hgr
    refine Inv.of_none fun n hn => ?_
    have ho := (World.outstanding_afterTick_of_noStop hf).mp hn
    rcases hi.inLayout n ho with hk | ⟨p, hp, hdata⟩
    · exact hi.outdated n _ ho (hc.configVersion _ _ (hmr n (hm ▸ hk)).1) hrc.1
    · exact hi.outdated n _ ho (hc.running_of_reported (hdr p (hrc.2 ▸ hp)).1 hdata) hrc.1
  · rcases @sync_stopNodes env a nc with hf | ⟨ensured, cs, ids, hg, hf, hstop⟩
    · rwa [World.afterTick_of_noStop hf hp]
    · rw [World.afterTick_of_stop hf hp]
      obtain ⟨hcfg, hrl⟩ := hc.resourceContext _ (rolloutGates_resourceContext hg)
      rcases hstop with ⟨pre, k, post, hids, hpre, ⟨v, hv, hne⟩, rfl⟩ |
        ⟨hmg, groups, i, hgr, hi', hlow, hne, hout⟩
      · rw [hcfg] at hpre hne
        exact hi.stopManagement (hm ▸ hids) (fun k' h => hc.configVersion _ _ (hpre k' h))
          (hc.configVersion _ _ hv) hne
      · obtain rfl := hc.nodeGroups _ _ (rolloutGates_getStatus hg) hgr
        rw [hcfg] at hmg hlow hout
        refine hi.stopData (fun k hk => hc.configVersion _ _ (hmg k (hm ▸ hk)))
          (fun n p hp hdata => hc.running_of_reported (hlow p hp) hdata) (hrl ▸ hi') hne
          fun n hn => ?_
        obtain ⟨j, g, v, hg', hn', hv, hvne⟩ := hout n hn
        exact ⟨⟨j, g, hg', hn'⟩, v, hc.dataRunning hg' hn' hv, hvne⟩

end Tick

theorem Reachable.inv {L : Layout} {w : World} (h : Reachable L (ComesBack L) w) : Inv L w := by
  induction h with
  | init h₀ => exact Inv.of_none fun n ho => ho (h₀ n)
  | step _ hs ih =>
    cases hs with
    | tick env a nc newCfg hc hm => exact ih.tick hc hm newCfg
    | down n => exact ih.down n
    | restart n g _ hc => exact ih.restart hc

/-! ### Safety along every run -/

section Safety

variable {L : Layout} {w : World}

theorem Inv.mgmd_unique (hi : Inv L w) {k k' : Int} (hk : k ∈ L.mgmds) (hk' : k' ∈ L.mgmds)
    (ho : w.Outstanding k) (ho' : w.Outstanding k') : k = k' := by
  obtain ⟨i, hi₁⟩ := List.mem_iff_getElem?.mp hk
  obtain ⟨i', hi₂⟩ := List.mem_iff_getElem?.mp hk'
  rcases Nat.lt_trichotomy i i' with hlt | rfl | hlt
  · exact absurd ho (hi.mgmdOrder i i' k k' hi₁ hi₂ hlt ho').1
  · exact Option.some.inj (hi₁.symm.trans hi₂)
  · exact absurd ho' (hi.mgmdOrder i' i k' k hi₂ hi₁ hlt ho).1

theorem Inv.group_unique (hi : Inv L w) {g : List Int} (hg : g ∈ L.groups) {n n' : Int}
    (hn : n ∈ g) (hn' : n' ∈ g) (ho : w.Outstanding n) (ho' : w.Outstanding n') : n = n' := by
  obtain ⟨j, hj⟩ := List.mem_iff_getElem?.mp hg
  obtain ⟨p, hp⟩ := List.mem_iff_getElem?.mp hn
  obtain ⟨p', hp'⟩ := List.mem_iff_getElem?.mp hn'
  rcases Nat.lt_trichotomy p p' with hlt | rfl | hlt
  · exact absurd ho ((hi.dataOrder n' p' ⟨j, g, hj, hp'⟩ ho').2 n p hlt ⟨j, g, hj, hp⟩).1
  · exact Option.some.inj (hp.symm.trans hp')
  · exact absurd ho' ((hi.dataOrder n p ⟨j, g, hj, hp⟩ ho).2 n' p' hlt ⟨j, g, hj, hp'⟩).1

end Safety

theorem sync_stopNodes_arguments (env : SyncEnv) (a : Answers) (nc : NdbCluster) :
    (sync env a nc).calls.filter Call.isStopNodes = [] ∨
      ∃ ensured cs ids, RolloutGates env a nc ensured cs ∧
        (sync env a nc).calls.filter Call.isStopNodes = [.stopNodes ids] ∧
        ((∃ k, ids = [k] ∧ 1 ≤ k ∧ k ≤ nc.getManagementNodeCount.val) ∨
          ∃ groups i, cs.nodesGroupedByNodegroup = some groups ∧
            i < ensured.resourceContext.redundancyLevel ∧
            ∀ n ∈ ids, ∃ (j : Nat) (g : List Int), groups[j]? = some g ∧ g[i]? = some n) := by
  rcases @sync_stopNodes env a nc with h | ⟨ensured, cs, ids, hg, hf, hstop⟩
  · exact .inl h
  · refine .inr ⟨ensured, cs, ids, hg, hf, ?_⟩
    rcases hstop with ⟨pre, k, post, hids, -, -, rfl⟩ | ⟨-, groups, i, hgr, hi, -, -, hout⟩
    · have hk := mem_idRange.mp (managementNodeIds_eq_idRange nc ▸ hids ▸ (by simp : k ∈ pre ++ k :: post))
      have := getManagementNodeCount_nonneg nc
      exact .inl ⟨k, rfl, by omega, by omega⟩
    · refine .inr ⟨groups, i, hgr, hi, fun n hn => ?_⟩
      obtain ⟨j, g, -, hg, hn, -⟩ := hout n hn
      exact ⟨j, g, hg, hn⟩

/-- Along every run at most one management and one data node per group is away; a tick stops once. -/
theorem rollingRestart_safe (L : Layout) {w : World} (hw : Reachable L (ComesBack L) w) :
    (∀ k ∈ L.mgmds, ∀ k' ∈ L.mgmds, w.Outstanding k → w.Outstanding k' → k = k') ∧
    (∀ g ∈ L.groups, ∀ n ∈ g, ∀ n' ∈ g, w.Outstanding n → w.Outstanding n' → n = n') ∧
    ∀ (env : SyncEnv) (a : Answers) (nc : NdbCluster),
      (sync env a nc).calls.filter Call.isStopNodes = [] ∨
      ∃ ensured cs ids, RolloutGates env a nc ensured cs ∧
        (sync env a nc).calls.filter Call.isStopNodes = [.stopNodes ids] ∧
        ((∃ k, ids = [k] ∧ 1 ≤ k ∧ k ≤ nc.getManagementNodeCount.val) ∨
          ∃ groups i, cs.nodesGroupedByNodegroup = some groups ∧
            i < ensured.resourceContext.redundancyLevel ∧
            ∀ n ∈ ids, ∃ (j : Nat) (g : List Int), groups[j]? = some g ∧ g[i]? = some n) :=
  ⟨fun _ hk _ hk' => hw.inv.mgmd_unique hk hk', fun _ hg _ hn _ hn' => hw.inv.group_unique hg hn hn',
    sync_stopNodes_arguments⟩

/-! ### A sample run -/

def sampleLayout : Layout := ⟨[1, 2], [[3, 4]], 2, by decide⟩

def sampleStart : World :=
  ⟨1, fun n => if n = 1 then some 1 else if n = 2 then some 0 else none, fun _ => none⟩

def mgmdVersionAnswers (version : Int → Except ApiError Nat) : Answers :=
  { convergedAnswers with
    getConfigVersion := version
    getDataNodeConfigVersion := fun _ _ => .error .notFound }

def sampleVersions (k : Int) : Except ApiError Nat :=
  if k = 1 then .ok 1 else if k = 2 then .ok 0 else .error .notFound

def sampleFirstTick : World :=
  sampleStart.afterTick (sync sampleSyncEnv (mgmdVersionAnswers sampleVersions) sampleSyncCluster).calls 1

theorem consistent_mgmdVersionAnswers {w : World} {version : Int → Except ApiError Nat}
    (hcfg : w.cfg = 1) (hv : ∀ k v, version k = .ok v → w.running k = some v) :
    Consistent sampleLayout w (mgmdVersionAnswers version) where
  configVersion := hv
  dataNodeConfigVersion _ _ _ h := nomatch h
  nodeGroups _ _ h h' := by
    cases h
    cases h'
    rfl
  resourceContext _ h := by
    cases h
    exact ⟨hcfg.symm, rfl⟩

theorem sampleVersions_running (k : Int) (v : Nat) (h : sampleVersions k = .ok v) :
    sampleStart.running k = some v := by
  by_cases h₁ : k = 1 <;> by_cases h₂ : k = 2 <;> simp_all [sampleVersions, sampleStart]

theorem rollingRestart_safe_sample :
    Reachable sampleLayout (ComesBack sampleLayout) sampleFirstTick ∧ sampleFirstTick.Outstanding 2 ∧
      ∀ k ∈ sampleLayout.mgmds, ∀ k' ∈ sampleLayout.mgmds,
        sampleFirstTick.Outstanding k → sampleFirstTick.Outstanding k' → k = k' := by
  have hw : Reachable sampleLayout (ComesBack sampleLayout) sampleFirstTick :=
    .step (@Reachable.init sampleLayout _ sampleStart fun _ => rfl)
      (.tick _ _ _ 1 (consistent_mgmdVersionAnswers rfl sampleVersions_running) rfl)
  exact ⟨hw, by decide, (rollingRestart_safe sampleLayout hw).1⟩

def sampleCrashRestart : World := (sampleFirstTick.down 1).restart 1 0

def sampleSecondTick : World :=
  sampleCrashRestart.afterTick (sync sampleSyncEnv
    (mgmdVersionAnswers fun k => if k = 1 ∨ k = 2 then .ok 0 else .error .notFound)
    sampleSyncCluster).calls 1

/-- When an unstopped node may come back with any generation, two management nodes end up stopped. -/
theorem rollingRestart_two_management_nodes_stopped :
    Reachable sampleLayout (fun _ _ _ => True) sampleSecondTick ∧
      sampleSecondTick.Outstanding 1 ∧ sampleSecondTick.Outstanding 2 := by
  have hv (k : Int) (v : Nat) (h : (if k = 1 ∨ k = 2 then .ok 0 else .error .notFound :
      Except ApiError Nat) = .ok v) : sampleCrashRestart.running k = some v := by
    split at h
    · cases h
      rename_i hk
      rcases hk with rfl | rfl <;> rfl
    · cases h
  have hw : Reachable sampleLayout (fun _ _ _ => True) sampleCrashRestart :=
    .step (.step (.step (@Reachable.init sampleLayout _ sampleStart fun _ => rfl)
      (.tick sampleSyncEnv _ sampleSyncCluster 1
        (consistent_mgmdVersionAnswers rfl sampleVersions_running) rfl)) (.down 1))
      (.restart 1 0 (by simp [World.down]) trivial)
  exact ⟨.step hw (.tick sampleSyncEnv _ sampleSyncCluster 1 (consistent_mgmdVersionAnswers rfl hv) rfl),
    by decide, by decide⟩

end NdbOperator
