import NdbOperator.SyncGates

set_option autoImplicit false

/-!
# The processed generation across ticks

The status of the NdbCluster records the last generation of the spec that the operator applied.
A tick writes it in one place only, the `UpdateStatus` of `updateNdbClusterStatus`, with the
generation that `newProcessedGeneration` computes: a retry after a conflict gets the object by
the empty name that the client-gen clientset leaves, and fails. A world holds the stored
NdbCluster and the hash of the config in the config map; a run interleaves spec edits, which bump
the generation, with ticks whose answers agree with the world, and lets any status write of a
tick land, or none.

Along every such run the processed generation never decreases and never passes the generation,
and it equals the generation only while the config map holds the config of the current spec. The
comparison `ProcessedGeneration+1 == Generation` of `updateNdbClusterStatus` relies on that: with
a change pending, the stored status is never ahead of the generation before.
-/

namespace NdbOperator

open SyncResult Tick

section Writes

variable {env : SyncEnv} {a : Answers} {nc : NdbCluster}

theorem persistNewConfig_updateStatus {rc : ResourceContext} {st : NdbClusterStatus}
    (h : Call.updateStatus st ∈ (persistNewConfig env a nc rc).run.calls) :
    ∃ hash, env.calculateNewConfigHash nc.spec = .ok hash ∧
      Call.updateStatus st ∈ (updateNdbClusterStatus env a nc (rc.configHash ≠ hash)).run.calls := by
  obtain ⟨hash, hh, ⟨h, -⟩ | h⟩ := mem_persistNewConfig h
  · cases h
  · exact ⟨hash, hh, h⟩

theorem persistNewConfig_ne_continue (rc : ResourceContext) :
    (persistNewConfig env a nc rc).run.result ≠ .ok (.ok continueProcessing) := by
  intro h
  obtain ⟨hash, -, hsr⟩ := persistNewConfig_result_ok h
  split at hsr <;> cases hsr

theorem sync_persists {c : Call} (hp : c.persists) (h : c ∈ (sync env a nc).calls) :
    ∃ rc, a.resourceContext = .ok rc ∧ c ∈ (persistNewConfig env a nc rc).run.calls := by
  obtain ⟨ensured, cs, hg, -, -, -, -, hc, -⟩ :=
    @syncBody_reaches_persist env a nc c continueProcessing hp (.inl (by simpa using h))
  exact ⟨_, rolloutGates_resourceContext hg, hc.resolve_right (persistNewConfig_ne_continue _)⟩

theorem sync_updateStatus {st : NdbClusterStatus} (h : Call.updateStatus st ∈ (sync env a nc).calls) :
    ∃ rc hash, a.resourceContext = .ok rc ∧ env.calculateNewConfigHash nc.spec = .ok hash ∧
      newProcessedGeneration nc (rc.configHash ≠ hash) = some st.processedGeneration := by
  obtain ⟨rc, hrc, hmem⟩ := @sync_persists env a nc (.updateStatus st) rfl h
  obtain ⟨hash, hh, hmem⟩ := persistNewConfig_updateStatus hmem
  obtain ⟨pg, hpg, rfl⟩ := updateNdbClusterStatus_writes hmem
  exact ⟨rc, hash, hrc, hh, hpg⟩

end Writes

/-! ## Runs of ticks and spec edits -/

/-- The stored NdbCluster, and the hash of the config that the config map holds. -/
structure StatusWorld where
  ndb : NdbCluster
  configHash : String

structure StatusConsistent (w : StatusWorld) (a : Answers) : Prop where
  configHash : ∀ rc, a.resourceContext = .ok rc → rc.configHash = w.configHash

/-- The events of a run: a spec edit, and a tick after which any status it wrote, or none, is stored. -/
inductive StatusStep (env : SyncEnv) : StatusWorld → StatusWorld → Prop
  | edit (w : StatusWorld) (spec : NdbClusterSpec) :
      StatusStep env w
        { w with ndb := { w.ndb with generation := w.ndb.generation + 1, spec := spec } }
  | tick (w : StatusWorld) (a : Answers) (status : NdbClusterStatus) (configHash : String) :
      StatusConsistent w a →
      (status = w.ndb.status ∨ Call.updateStatus status ∈ (sync env a w.ndb).calls) →
      (configHash = w.configHash ∨ Call.patchConfigMap ∈ (sync env a w.ndb).calls ∧
        env.calculateNewConfigHash w.ndb.spec = .ok configHash) →
      StatusStep env w ⟨{ w.ndb with status := status }, configHash⟩

/-- Processed generation ≤ generation, equal only while the config map holds the spec's config. -/
def StatusInv (env : SyncEnv) (w : StatusWorld) : Prop :=
  w.ndb.status.processedGeneration ≤ w.ndb.generation ∧
    (w.ndb.status.processedGeneration = w.ndb.generation →
      env.calculateNewConfigHash w.ndb.spec = .ok w.configHash)

section Run

variable {env : SyncEnv} {w w' : StatusWorld}

theorem StatusConsistent.written {a : Answers} {st : NdbClusterStatus} (hc : StatusConsistent w a)
    (h : Call.updateStatus st ∈ (sync env a w.ndb).calls) :
    ∃ hash, env.calculateNewConfigHash w.ndb.spec = .ok hash ∧
      newProcessedGeneration w.ndb (w.configHash ≠ hash) = some st.processedGeneration := by
  obtain ⟨rc, hash, hrc, hh, hpg⟩ := sync_updateStatus h
  exact ⟨hash, hh, hc.configHash rc hrc ▸ hpg⟩

theorem StatusStep.inv (h : StatusStep env w w') (hw : StatusInv env w) :
    StatusInv env w' ∧ w.ndb.status.processedGeneration ≤ w'.ndb.status.processedGeneration := by
  obtain ⟨hle, hcur⟩ := hw
  cases h with
  | edit spec => exact ⟨⟨by simp only; omega, fun h => by simp only at h; omega⟩, le_rfl⟩
  | tick a status configHash hc hst hcm =>
    -- the config map after the tick holds the spec's config if it did before
    have hcfg : env.calculateNewConfigHash w.ndb.spec = .ok w.configHash →
        env.calculateNewConfigHash w.ndb.spec = .ok configHash := by
      rcases hcm with rfl | ⟨-, h⟩
      exacts [id, fun _ => h]
    have hsame (hpg : status.processedGeneration = w.ndb.status.processedGeneration) :
        StatusInv env ⟨{ w.ndb with status := status }, configHash⟩ ∧
          w.ndb.status.processedGeneration ≤ status.processedGeneration :=
      ⟨⟨hpg ▸ hle, fun heq => hcfg (hcur (hpg ▸ heq))⟩, hpg.ge⟩
    rcases hst with rfl | hst
    · exact hsame rfl
    obtain ⟨hash, hh, hnew⟩ := hc.written hst
    unfold newProcessedGeneration at hnew
    by_cases hpend : w.configHash = hash
    · -- nothing pending: the generation itself is written
      simp only [hpend, ne_eq, not_true_eq_false, decide_False, Bool.false_eq_true, if_false]
        at hnew
      split_ifs at hnew
      have hpg := Option.some.inj hnew
      exact ⟨⟨by simp only; omega, fun _ => hcfg (hpend ▸ hh)⟩, by simp only; omega⟩
    · -- a change pending: the stored status is behind, and the generation before is written
      have hlt : w.ndb.status.processedGeneration < w.ndb.generation :=
        lt_of_le_of_ne hle fun heq => hpend (Except.ok.inj ((hcur heq).symm.trans hh))
      simp only [hpend, ne_eq, not_false_eq_true, decide_True, if_true] at hnew
      split_ifs at hnew
      have hpg := Option.some.inj hnew
      exact ⟨⟨by simp only; omega, fun h => by simp only at h; omega⟩, by simp only; omega⟩

/-- Along every run of spec edits and ticks, the processed generation never decreases and keeps `StatusInv`. -/
theorem statusRun_processedGeneration (h : Relation.ReflTransGen (StatusStep env) w w')
    (hw : StatusInv env w) :
    StatusInv env w' ∧ w.ndb.status.processedGeneration ≤ w'.ndb.status.processedGeneration := by
  induction h with
  | refl => exact ⟨hw, le_rfl⟩
  | tail _ hstep ih =>
    obtain ⟨hinv, hle⟩ := hstep.inv ih.1
    exact ⟨hinv, ih.2.trans hle⟩

theorem sampleStatusRun_processedGeneration :
    StatusInv sampleSyncEnv ⟨{ sampleSyncCluster with generation := 2, status := ⟨2, 100⟩ }, "h1"⟩ ∧
      sampleSyncCluster.status.processedGeneration ≤ 2 :=
  statusRun_processedGeneration
    (.tail (.single (.edit ⟨sampleSyncCluster, "h1"⟩ sampleSyncCluster.spec))
      (.tick _ convergedAnswers ⟨2, 100⟩ "h1" ⟨fun _ h => by cases h; rfl⟩
        (.inr (by decide)) (.inl rfl)))
    ⟨by decide, fun _ => rfl⟩

end Run

end NdbOperator
