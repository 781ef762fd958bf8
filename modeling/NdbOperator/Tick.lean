import Mathlib
import NdbOperator.ConfigGenerator

set_option autoImplicit false

/-!
# A tick of the reconciler

One call of `SyncContext.sync` talks to the Kubernetes API server, to the NDB management server
and to the MySQL Server controller. A tick is a computation that records each remote call it
makes, in order, and takes the call's answer from `Answers`. The answers are arbitrary, so a
statement about every `Answers` is a statement about every outcome of the tick's remote calls.
Go's errors are values (`ExceptT ApiError`); a Go panic, or a paged pod list that the answers
never end, stops the tick with a `Halt`.
-/

namespace NdbOperator

inductive EventReason
  | resourceExists
  | inSync
  | syncSuccess
deriving DecidableEq, Repr

/-- The remote calls of a tick; `getConfigVersion k` asks management or data node `k`. -/
inductive Call
  | getService (name : String)
  | createService (name : String)
  | getPodDisruptionBudget (name : String)
  | createPodDisruptionBudget (name : String)
  | ensureConfigMap
  | ensureStatefulSet (nodeType : String)
  | getDeployment
  | listPods (continueToken : String)
  | getPod (name : String)
  | connect (nodeId : Int)
  | disconnect
  | getStatus
  | getConfigVersion (nodeId : Int)
  | stopNodes (nodeIds : List Int)
  | handleScaleDown
  | patchStatefulSet
  | reconcileDeployment
  | patchConfigMap
  | updateStatus (status : NdbClusterStatus)
  | getNdbCluster (name : String)
  | event (reason : EventReason)
deriving DecidableEq

def Call.isStopNodes : Call → Bool
  | .stopNodes _ => true
  | _ => false

/-- The calls that change an object or the cluster. -/
def Call.mutates : Call → Bool
  | .createService _ | .createPodDisruptionBudget _ | .stopNodes _ | .patchStatefulSet
  | .patchConfigMap | .updateStatus _ => true
  | _ => false

def Call.changesConfig : Call → Bool
  | .stopNodes _ | .patchConfigMap => true
  | _ => false

theorem Call.isStopNodes_of_mutates {c : Call} (h : c.mutates = false) : c.isStopNodes = false := by
  cases c <;> trivial

theorem Call.isStopNodes_of_changesConfig {c : Call} (h : c.changesConfig = false) :
    c.isStopNodes = false := by
  cases c <;> trivial

def Call.persists : Call → Bool
  | .patchConfigMap | .updateStatus _ => true
  | _ => false

theorem Call.mutates_of_persists {c : Call} (h : c.persists) : c.mutates := by
  cases c <;> trivial

def Call.creates : Call → Bool
  | .createService _ | .createPodDisruptionBudget _ => true
  | _ => false

theorem Call.creates_eq_false {c : Call} (h : c.isStopNodes ∨ c.mutates = false) :
    c.creates = false := by
  cases c <;> first | rfl | rcases h with h | h <;> cases h

/-- What the tick reads of the `ResourceContext` built from the config map. -/
structure ResourceContext where
  configGeneration : Nat
  redundancyLevel : Nat
  numOfDataNodes : Nat
  configHash : String
deriving DecidableEq, Repr

structure StatefulSet where
  name : String
  controlledByNdb : Bool
  replicas : Option Int32
deriving DecidableEq

structure Deployment where
  name : String
  controlledByNdb : Bool
deriving DecidableEq

structure PodCondition where
  type : String
  status : String
deriving DecidableEq

structure Pod where
  conditions : List PodCondition
deriving DecidableEq

structure PodList where
  items : List Pod
  «continue» : String
deriving DecidableEq

/-- What the tick reads of the management server's `ClusterStatus`; `nil` groups are `none`. -/
structure ClusterStatus where
  isHealthy : Bool
  nodesGroupedByNodegroup : Option (List (List Int))
deriving DecidableEq

inductive ConnectSite
  | clusterStatus
  | managementServer (nodeId : Int)
  | dataNodes
deriving DecidableEq

/-- The answers to the remote calls of one tick, by call, page, attempt or node position. -/
structure Answers where
  getService : String → Except ApiError Unit
  createService : String → Except ApiError Unit
  getPodDisruptionBudget : Except ApiError Unit
  createPodDisruptionBudget : Except ApiError Unit
  ensureConfigMap : Except ApiError Bool
  resourceContext : Except ApiError ResourceContext
  ensureStatefulSet : String → Except ApiError (Option StatefulSet × Bool)
  getDeployment : Except ApiError (Option Deployment)
  listPods : List (Except ApiError PodList)
  getPod : ConnectSite → Except ApiError Unit
  connect : ConnectSite → Except ApiError Unit
  getStatus : Except ApiError ClusterStatus
  getConfigVersion : Int → Except ApiError Nat
  getDataNodeConfigVersion : Nat → Nat → Except ApiError Nat
  stopDataNodes : Except ApiError Unit
  handleScaleDown : SyncResult
  patchStatefulSet : Except ApiError StatefulSet
  reconcileDeployment : SyncResult
  patchConfigMap : Except ApiError Unit
  updateStatus : Nat → Except ApiError NdbCluster
  getNdbCluster : Nat → Except ApiError NdbCluster
  now : Nat

/-- What the tick reads besides the answers; none of it is under src/. -/
structure SyncEnv extends ConfigEnv where
  podDisruptionBudgetName : String → String → String
  runningInsideK8s : Bool
  calculateNewConfigHash : NdbClusterSpec → Except ApiError String
  backoffSteps : Nat

inductive Halt
  | panic (msg : String)
  | podPagesNotEnded
deriving DecidableEq, Repr

/-- A computation of the tick: the remote calls it made, in order, and how it ended. -/
@[ext]
structure Tick (α : Type) where
  calls : List Call
  result : Except Halt α

namespace Tick

variable {α β : Type}

def bind (x : Tick α) (f : α → Tick β) : Tick β :=
  match x.result with
  | .ok a => ⟨x.calls ++ (f a).calls, (f a).result⟩
  | .error h => ⟨x.calls, .error h⟩

instance : Monad Tick where
  pure a := ⟨[], .ok a⟩
  bind := bind

def call (c : Call) : Tick Unit := ⟨[c], .ok ()⟩

def halt (h : Halt) : Tick α := ⟨[], .error h⟩

def callsAfter {ε γ : Type} (r : Except ε γ) (k : γ → List Call) : List Call :=
  match r with
  | .ok c => k c
  | .error _ => []

section CallsAfter

variable {ε γ : Type} {k : γ → List Call}

@[simp] theorem callsAfter_ok (c : γ) : callsAfter (.ok c : Except ε γ) k = k c := rfl

@[simp] theorem callsAfter_error (e : ε) : callsAfter (.error e : Except ε γ) k = [] := rfl

@[simp] theorem callsAfter_nil (r : Except ε γ) : callsAfter r (fun _ => []) = [] := by
  cases r <;> rfl

theorem mem_callsAfter {r : Except ε γ} {c : Call} :
    c ∈ callsAfter r k ↔ ∃ x, r = .ok x ∧ c ∈ k x := by
  cases r <;> simp

end CallsAfter

/-! The calls and the result of each form of computation, as simp lemmas: a statement about a
tick is proved by pushing `calls` and `result` through its binds. -/

@[simp] theorem calls_pure (a : α) : (pure a : Tick α).calls = [] := rfl

@[simp] theorem result_pure (a : α) : (pure a : Tick α).result = .ok a := rfl

@[simp] theorem calls_call (c : Call) : (call c).calls = [c] := rfl

@[simp] theorem result_call (c : Call) : (call c).result = .ok () := rfl

@[simp] theorem calls_halt (h : Halt) : (halt h : Tick α).calls = [] := rfl

@[simp] theorem result_halt (h : Halt) : (halt h : Tick α).result = .error h := rfl

@[simp] theorem calls_bind (x : Tick α) (f : α → Tick β) :
    (x >>= f).calls = x.calls ++ callsAfter x.result fun a => (f a).calls := by
  obtain ⟨cs, r | a⟩ := x
  · exact (List.append_nil cs).symm
  · rfl

@[simp] theorem result_bind (x : Tick α) (f : α → Tick β) :
    (x >>= f).result = match x.result with
      | .ok a => (f a).result
      | .error h => .error h := by
  obtain ⟨cs, r | a⟩ := x <;> rfl

@[simp] theorem calls_map (f : α → β) (x : Tick α) : (f <$> x).calls = x.calls := by
  obtain ⟨cs, r | a⟩ := x
  · rfl
  · exact List.append_nil cs

@[simp] theorem result_map (f : α → β) (x : Tick α) :
    (f <$> x).result = match x.result with
      | .ok a => .ok (f a)
      | .error h => .error h := by
  obtain ⟨cs, r | a⟩ := x <;> rfl

section ExceptT

variable {ε ε' : Type}

/-! The same for a computation that can fail with a Go error, `ExceptT ε Tick`. -/

@[simp] theorem run_calls_bind (x : ExceptT ε Tick α) (f : α → ExceptT ε Tick β) :
    (x >>= f).run.calls = x.run.calls ++
      callsAfter x.run.result fun r => callsAfter r fun a => (f a).run.calls := by
  obtain ⟨cs, r | r | a⟩ := x
  · exact (List.append_nil cs).symm
  all_goals rfl

@[simp] theorem run_result_bind (x : ExceptT ε Tick α) (f : α → ExceptT ε Tick β) :
    (x >>= f).run.result = match x.run.result with
      | .ok (.ok a) => (f a).run.result
      | .ok (.error e) => .ok (.error e)
      | .error h => .error h := by
  obtain ⟨cs, r | r | a⟩ := x <;> rfl

/-! Mathlib's simp set unfolds the run of a bind of `ExceptT` into a bind of `Tick` on the
match of `ExceptT.run_bind`. The next two lemmas take that form apart as the two above do, and
take precedence over `calls_bind` and `result_bind` on it. -/

@[simp high] theorem calls_bind_runBind (y : Tick (Except ε α)) (k : α → Tick (Except ε β)) :
    (y >>= fun r => ExceptT.run_bind.match_1 (fun _ => Tick (Except ε β)) r k
      fun e => pure (.error e)).calls =
      y.calls ++ callsAfter y.result fun r => callsAfter r fun a => (k a).calls := by
  obtain ⟨cs, h | e | a⟩ := y
  · exact (List.append_nil cs).symm
  all_goals rfl

@[simp high] theorem result_bind_runBind (y : Tick (Except ε α)) (k : α → Tick (Except ε β)) :
    (y >>= fun r => ExceptT.run_bind.match_1 (fun _ => Tick (Except ε β)) r k
      fun e => pure (.error e)).result = match y.result with
      | .ok (.ok a) => (k a).result
      | .ok (.error e) => .ok (.error e)
      | .error h => .error h := by
  obtain ⟨cs, h | e | a⟩ := y <;> rfl

@[simp] theorem run_calls_liftM (x : Tick α) : (liftM x : ExceptT ε Tick α).run.calls = x.calls := by
  obtain ⟨cs, r | a⟩ := x
  · rfl
  · exact List.append_nil cs

@[simp] theorem run_result_liftM (x : Tick α) :
    (liftM x : ExceptT ε Tick α).run.result = match x.result with
      | .ok a => .ok (.ok a)
      | .error h => .error h := by
  obtain ⟨cs, r | a⟩ := x <;> rfl

@[simp] theorem run_calls_adapt (x : ExceptT ε Tick α) (f : ε → ε') :
    (x.adapt f).run.calls = x.run.calls := by
  obtain ⟨cs, r | r | a⟩ := x
  · rfl
  all_goals exact List.append_nil cs

@[simp] theorem run_result_adapt (x : ExceptT ε Tick α) (f : ε → ε') :
    (x.adapt f).run.result = match x.run.result with
      | .ok (.ok a) => .ok (.ok a)
      | .ok (.error e) => .ok (.error (f e))
      | .error h => .error h := by
  obtain ⟨cs, r | r | a⟩ := x <;> rfl

@[simp] theorem run_mk (x : Tick (Except ε α)) : (ExceptT.mk x).run = x := rfl

@[simp] theorem run_halt (h : Halt) : ExceptT.run (halt h : ExceptT ε Tick α) = halt h := rfl

theorem result_adapt_ok {x : ExceptT ε Tick α} {f : ε → ε'} {b : α}
    (h : (x.adapt f).run.result = .ok (.ok b)) : x.run.result = .ok (.ok b) := by
  rw [run_result_adapt] at h
  split at h <;> cases h
  assumption

theorem mem_calls_exceptBind {x : ExceptT ε Tick α} {f : α → ExceptT ε Tick β} {c : Call}
    (h : c ∈ (x >>= f).run.calls) :
    c ∈ x.run.calls ∨ ∃ a, x.run.result = .ok (.ok a) ∧ c ∈ (f a).run.calls := by
  simp only [run_calls_bind, List.mem_append, mem_callsAfter] at h
  rcases h with h | ⟨r, hr, e, rfl, h⟩
  · exact .inl h
  · exact .inr ⟨e, hr, h⟩

theorem result_exceptBind_ok {x : ExceptT ε Tick α} {f : α → ExceptT ε Tick β} {b : β}
    (h : (x >>= f).run.result = .ok (.ok b)) :
    ∃ a, x.run.result = .ok (.ok a) ∧ (f a).run.result = .ok (.ok b) := by
  rw [run_result_bind] at h
  split at h
  · exact ⟨_, ‹_›, h⟩
  all_goals cases h

end ExceptT

/-! ### Properties of every call -/

def AllCalls (p : Call → Prop) (x : Tick α) : Prop := ∀ c ∈ x.calls, p c

section AllCalls

variable {p : Call → Prop} {ε ε' : Type}

/-! Simp lemmas that take a property of every call apart along the binds of a computation. -/

@[simp] theorem allCalls_mk {cs : List Call} {r : Except Halt α} :
    AllCalls p ⟨cs, r⟩ ↔ ∀ c ∈ cs, p c := Iff.rfl

@[simp] theorem allCalls_pure (a : α) : AllCalls p (pure a) := fun _ h => nomatch h

@[simp] theorem allCalls_halt (h : Halt) : AllCalls p (halt h : Tick α) := fun _ h => nomatch h

@[simp] theorem allCalls_call {c : Call} : AllCalls p (call c) ↔ p c := by
  simp [AllCalls]

@[simp] theorem allCalls_bind {x : Tick α} {f : α → Tick β} :
    AllCalls p (x >>= f) ↔ AllCalls p x ∧ ∀ a, x.result = .ok a → AllCalls p (f a) := by
  simp only [AllCalls, calls_bind, List.mem_append, mem_callsAfter]
  constructor
  · intro h
    exact ⟨fun c hc => h c (.inl hc), fun a ha c hc => h c (.inr ⟨a, ha, hc⟩)⟩
  · rintro ⟨hx, hf⟩ c (hc | ⟨a, ha, hc⟩)
    exacts [hx c hc, hf a ha c hc]

@[simp] theorem allCalls_run_bind {x : ExceptT ε Tick α} {f : α → ExceptT ε Tick β} :
    AllCalls p (x >>= f).run ↔
      AllCalls p x.run ∧ ∀ a, x.run.result = .ok (.ok a) → AllCalls p (f a).run := by
  simp only [AllCalls, run_calls_bind, List.mem_append, mem_callsAfter]
  constructor
  · intro h
    exact ⟨fun c hc => h c (.inl hc), fun a ha c hc => h c (.inr ⟨_, ha, a, rfl, hc⟩)⟩
  · rintro ⟨hx, hf⟩ c (hc | ⟨r, hr, a, rfl, hc⟩)
    exacts [hx c hc, hf a hr c hc]

@[simp high] theorem allCalls_bind_runBind {y : Tick (Except ε α)} {k : α → Tick (Except ε β)} :
    AllCalls p (y >>= fun r => ExceptT.run_bind.match_1 (fun _ => Tick (Except ε β)) r k
      fun e => pure (.error e)) ↔
      AllCalls p y ∧ ∀ a, y.result = .ok (.ok a) → AllCalls p (k a) := by
  simp only [AllCalls, calls_bind_runBind, List.mem_append, mem_callsAfter]
  constructor
  · intro h
    exact ⟨fun c hc => h c (.inl hc), fun a ha c hc => h c (.inr ⟨_, ha, a, rfl, hc⟩)⟩
  · rintro ⟨hy, hk⟩ c (hc | ⟨r, hr, a, rfl, hc⟩)
    exacts [hy c hc, hk a hr c hc]

@[simp] theorem allCalls_map {f : α → β} {x : Tick α} : AllCalls p (f <$> x) ↔ AllCalls p x := by
  simp [AllCalls]

@[simp] theorem allCalls_liftM {x : Tick α} : AllCalls p (liftM x : ExceptT ε Tick α).run ↔ AllCalls p x := by
  simp [AllCalls]

@[simp] theorem allCalls_adapt {x : ExceptT ε Tick α} {f : ε → ε'} :
    AllCalls p (x.adapt f).run ↔ AllCalls p x.run := by
  simp [AllCalls]

theorem AllCalls.mono {q : Call → Prop} {x : Tick α} (h : AllCalls p x) (hpq : ∀ c, p c → q c) :
    AllCalls q x := fun c hc => hpq c (h c hc)

theorem allCalls_run_bind_of_ok {x : ExceptT ε Tick α} {f : α → ExceptT ε Tick β} {a : α}
    (hx : x.run.result = .ok (.ok a)) (h₁ : AllCalls p x.run) (h₂ : AllCalls p (f a).run) :
    AllCalls p (x >>= f).run :=
  allCalls_run_bind.mpr ⟨h₁, fun a' ha' => by rw [hx] at ha'; cases ha'; exact h₂⟩

end AllCalls

/-! ### The verdicts a step throws, and reaching a later step -/

def ThrowsOnly {ε : Type} (q : ε → Prop) (x : ExceptT ε Tick α) : Prop :=
  ∀ e, x.run.result = .ok (.error e) → q e

section ThrowsOnly

variable {ε ε' : Type} {q : ε → Prop}

@[simp] theorem throwsOnly_pure (a : α) : ThrowsOnly q (pure a : ExceptT ε Tick α) := by
  simp [ThrowsOnly]

@[simp] theorem throwsOnly_throw (e : ε) : ThrowsOnly q (throw e : ExceptT ε Tick α) ↔ q e := by
  simp [ThrowsOnly]

@[simp] theorem throwsOnly_liftM (x : Tick α) : ThrowsOnly q (liftM x : ExceptT ε Tick α) := by
  intro e h
  rw [run_result_liftM] at h
  split at h <;> cases h

@[simp] theorem throwsOnly_adapt {x : ExceptT ε' Tick α} {f : ε' → ε} :
    ThrowsOnly q (x.adapt f) ↔ ∀ e, x.run.result = .ok (.error e) → q (f e) := by
  simp only [ThrowsOnly, run_result_adapt]
  constructor
  · intro h e he
    exact h _ (by rw [he])
  · intro h e he
    split at he
    · cases he
    · cases he
      exact h _ ‹_›
    · cases he

@[simp] theorem throwsOnly_bind {x : ExceptT ε Tick α} {f : α → ExceptT ε Tick β} :
    ThrowsOnly q (x >>= f) ↔ ThrowsOnly q x ∧ ∀ a, x.run.result = .ok (.ok a) → ThrowsOnly q (f a) := by
  simp only [ThrowsOnly, run_result_bind]
  constructor
  · intro h
    refine ⟨fun e he => h e (by rw [he]), fun a ha e he => h e (by rw [ha]; exact he)⟩
  · rintro ⟨hx, hf⟩ e he
    split at he
    · exact hf _ ‹_› e he
    · cases he
      exact hx _ ‹_›
    · cases he

theorem reaches_bind {x : ExceptT ε Tick α} {f : α → ExceptT ε Tick β} {c : Call} {b : β}
    (hx : c ∉ x.run.calls) (h : c ∈ (x >>= f).run.calls ∨ (x >>= f).run.result = .ok (.ok b)) :
    ∃ a, x.run.result = .ok (.ok a) ∧ (c ∈ (f a).run.calls ∨ (f a).run.result = .ok (.ok b)) := by
  rcases h with h | h
  · rcases mem_calls_exceptBind h with h | ⟨a, ha, h⟩
    · exact absurd h hx
    · exact ⟨a, ha, .inl h⟩
  · obtain ⟨a, ha, h⟩ := result_exceptBind_ok h
    exact ⟨a, ha, .inr h⟩

end ThrowsOnly

/-! ### Steps that do not halt -/

def NoHalt {ε : Type} (x : ExceptT ε Tick α) : Prop := ∀ h, x.run.result ≠ .error h

section NoHalt

variable {ε ε' : Type}

@[simp] theorem noHalt_pure (a : α) : NoHalt (pure a : ExceptT ε Tick α) := nofun

@[simp] theorem noHalt_throw (e : ε) : NoHalt (throw e : ExceptT ε Tick α) := nofun

@[simp] theorem noHalt_call (c : Call) : NoHalt (liftM (call c) : ExceptT ε Tick Unit) := nofun

@[simp] theorem noHalt_adapt {x : ExceptT ε Tick α} {f : ε → ε'} :
    NoHalt (x.adapt f) ↔ NoHalt x := by
  simp only [NoHalt, run_result_adapt]
  constructor
  · intro h hl he
    exact h hl (by rw [he])
  · intro h hl he
    split at he <;> cases he
    exact h hl ‹_›

@[simp] theorem noHalt_bind {x : ExceptT ε Tick α} {f : α → ExceptT ε Tick β} :
    NoHalt (x >>= f) ↔ NoHalt x ∧ ∀ a, x.run.result = .ok (.ok a) → NoHalt (f a) := by
  simp only [NoHalt, run_result_bind]
  constructor
  · intro h
    exact ⟨fun hl he => h hl (by rw [he]), fun a ha hl he => h hl (by rw [ha]; exact he)⟩
  · rintro ⟨hx, hf⟩ hl he
    split at he
    · exact hf _ ‹_› hl he
    · cases he
    · cases he
      exact hx _ ‹_›

end NoHalt

/-! ### At most one `StopNodes` -/

theorem filter_callsAfter {ε γ : Type} (r : Except ε γ) (k : γ → List Call) (p : Call → Bool) :
    (callsAfter r k).filter p = callsAfter r fun x => (k x).filter p := by
  cases r <;> rfl

/-- `x` calls `StopNodes` at most once, with an argument `p` accepts, and returns no value after it. -/
def StopsOnce {ε : Type} (p : List Int → Prop) (x : ExceptT ε Tick α) : Prop :=
  x.run.calls.filter Call.isStopNodes = [] ∨
    ∃ ids, p ids ∧ x.run.calls.filter Call.isStopNodes = [.stopNodes ids] ∧
      ∀ b, x.run.result ≠ .ok (.ok b)

section StopsOnce

variable {ε : Type} {p q : List Int → Prop}

theorem StopsOnce.of_allCalls {x : ExceptT ε Tick α}
    (h : AllCalls (fun c => c.isStopNodes = false) x.run) : StopsOnce p x :=
  .inl (List.filter_eq_nil_iff.mpr fun c hc => by simp [h c hc])

theorem StopsOnce.mono {x : ExceptT ε Tick α} (h : StopsOnce p x) (hpq : ∀ ids, p ids → q ids) :
    StopsOnce q x :=
  h.imp_right fun ⟨ids, hp, hf, hr⟩ => ⟨ids, hpq ids hp, hf, hr⟩

theorem StopsOnce.bind {x : ExceptT ε Tick α} {f : α → ExceptT ε Tick β} (hx : StopsOnce p x)
    (hf : ∀ b, x.run.result = .ok (.ok b) → StopsOnce p (f b)) : StopsOnce p (x >>= f) := by
  unfold StopsOnce
  simp only [run_calls_bind, List.filter_append, filter_callsAfter, run_result_bind]
  rcases hx with hx | ⟨ids, hp, hx, hr⟩
  · rw [hx, List.nil_append]
    rcases hxr : x.run.result with h | e | b
    · exact .inl rfl
    · exact .inl rfl
    · simp only [callsAfter_ok]
      exact hf b hxr
  · refine .inr ⟨ids, hp, ?_, fun b => ?_⟩
    · rcases hxr : x.run.result with h | e | b
      · simpa using hx
      · simpa using hx
      · exact absurd hxr (hr b)
    · rcases hxr : x.run.result with h | e | b'
      · simp
      · simp
      · exact absurd hxr (hr b')

theorem StopsOnce.adapt {ε' : Type} {x : ExceptT ε Tick α} {f : ε → ε'} (h : StopsOnce p x) :
    StopsOnce p (x.adapt f) := by
  unfold StopsOnce at h ⊢
  rw [run_calls_adapt, run_result_adapt]
  refine h.imp_right fun ⟨ids, hp, hf, hr⟩ => ⟨ids, hp, hf, fun b => ?_⟩
  rcases hxr : x.run.result with h | e | b'
  · simp
  · simp
  · exact absurd hxr (hr b')

end StopsOnce

def answer (r : Except ApiError α) : ExceptT ApiError Tick α := ExceptT.mk (pure r)

/-- Go's `defer`: the call is made when `x` ends, also when it panics. -/
def deferCall (x : Tick α) (c : Call) : Tick α := ⟨x.calls ++ [c], x.result⟩

/-- `if sr := step; sr.stopSync() { return sr }`. -/
def stopIf (x : Tick SyncResult) : ExceptT SyncResult Tick Unit := do
  let sr ← x
  if sr.stopSync then throw sr

@[simp] theorem run_answer (r : Except ApiError α) : (answer r).run = ⟨[], .ok r⟩ := rfl

@[simp] theorem noHalt_answer (r : Except ApiError α) : NoHalt (answer r) := nofun

@[simp] theorem calls_deferCall (x : Tick α) (c : Call) : (deferCall x c).calls = x.calls ++ [c] :=
  rfl

@[simp] theorem result_deferCall (x : Tick α) (c : Call) : (deferCall x c).result = x.result := rfl

@[simp] theorem run_calls_stopIf (x : Tick SyncResult) : (stopIf x).run.calls = x.calls := by
  have h (sr : SyncResult) :
      (if sr.stopSync then throw sr else pure () : ExceptT SyncResult Tick Unit).run.calls = [] := by
    split <;> rfl
  simp only [stopIf, run_calls_bind, run_calls_liftM, h, callsAfter_nil, List.append_nil]

@[simp] theorem run_result_stopIf (x : Tick SyncResult) :
    (stopIf x).run.result = match x.result with
      | .ok sr => if sr.stopSync then .ok (.error sr) else .ok (.ok ())
      | .error h => .error h := by
  simp only [stopIf, run_result_bind, run_result_liftM]
  obtain ⟨cs, r | sr⟩ := x
  · rfl
  · by_cases h : sr.stopSync <;> simp [h]

@[simp] theorem allCalls_deferCall {p : Call → Prop} {x : Tick α} {c : Call} :
    AllCalls p (deferCall x c) ↔ AllCalls p x ∧ p c := by
  simp [AllCalls, or_imp, forall_and]

@[simp] theorem allCalls_stopIf {p : Call → Prop} {x : Tick SyncResult} :
    AllCalls p (stopIf x).run ↔ AllCalls p x := by
  simp [AllCalls]

@[simp] theorem throwsOnly_stopIf {q : SyncResult → Prop} {x : Tick SyncResult} :
    ThrowsOnly q (stopIf x) ↔ ∀ sr, x.result = .ok sr → sr.stopSync → q sr := by
  simp only [ThrowsOnly, run_result_stopIf]
  constructor
  · intro h sr hx hs
    exact h sr (by simp [hx, hs])
  · intro h e he
    split at he
    · split at he
      · cases he
        exact h _ ‹_› ‹_›
      · cases he
    · cases he

theorem stopsOnce_stopIf {p : List Int → Prop} {x : Tick SyncResult}
    (h : x.calls.filter Call.isStopNodes = [] ∨ ∃ ids, p ids ∧
      x.calls.filter Call.isStopNodes = [.stopNodes ids] ∧ ∃ sr, x.result = .ok sr ∧ sr.stopSync) :
    StopsOnce p (stopIf x) := by
  unfold StopsOnce
  rw [run_calls_stopIf, run_result_stopIf]
  refine h.imp_right fun ⟨ids, hp, hf, sr, hr, hs⟩ => ⟨ids, hp, hf, fun b => ?_⟩
  simp [hr, hs]

theorem stopIf_ok {x : Tick SyncResult} {u : Unit} (h : (stopIf x).run.result = .ok (.ok u)) :
    x.result = .ok .continueProcessing := by
  rw [run_result_stopIf] at h
  split at h
  · rename_i sr hx
    cases hst : sr.stopSync
    · rwa [(SyncResult.stopSync_eq_false_iff sr).mp hst] at hx
    · simp [hst] at h
  · cases h

end Tick

end NdbOperator
