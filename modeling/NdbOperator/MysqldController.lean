import NdbOperator.Cluster

set_option autoImplicit false

/-!
# The MySQL Server StatefulSet controller

`MySQLDStatefulSetController.HandleScaleDown` and `reconcileRootUser`, as steps of a world that
holds the MySQL Server StatefulSet with its annotations, the secrets of the namespace and the root
accounts on the MySQL Servers. Every remote call may fail; the answers of a tick say which do, and
a call that succeeds has its effect on the world.

Scaling the servers down to zero drops the root account, deletes the root password secret if the
NdbCluster controls it, and deletes the StatefulSet, in that order and each only after the one
before succeeded. Reconciling the root user creates or renames the root account, and then records
its host in the StatefulSet's annotations with one patch.
-/

namespace NdbOperator

open SyncResult

/-- Modelled from the spec: what the controller reads of the MySQL Server StatefulSet and its annotations. -/
structure MysqldStatefulSet where
  replicas : Int32
  updateComplete : Bool
  rootHost : Option String
  rootUserGeneration : Option String
  rootPasswordSecret : Option String
deriving DecidableEq

/-- The StatefulSet, the secrets, the root accounts' hosts, and a ghost record of the last host given. -/
structure MysqldWorld where
  statefulSet : Option MysqldStatefulSet
  secrets : String → Option Bool
  rootHosts : List String
  lastRootHost : Option String

/-- The answers of one tick's remote calls: an error, or success with the call's effect. -/
structure MysqldAnswers where
  deleteRootUser : Except ApiError Unit
  deleteSecret : Except ApiError Unit
  deleteStatefulSet : Except ApiError Unit
  patchStatefulSet : Except ApiError Unit
  extractPassword : Except ApiError String
  createRootUser : Except ApiError Unit
  updateRootUser : Except ApiError Unit

namespace MySQLDStatefulSetController

/-- Modelled from the spec: `secretClient.IsControlledBy`. -/
def isControlledBy (w : MysqldWorld) (secretName : String) : Bool :=
  w.secrets secretName = some true

/-- Modelled from the spec: `DeleteRootUserIfExists` drops `'root'@rootHost` if it exists. -/
def deleteRootUserIfExists (ans : MysqldAnswers) (rootHost : String) (w : MysqldWorld) :
    Except ApiError MysqldWorld :=
  ans.deleteRootUser.map fun _ => { w with rootHosts := w.rootHosts.erase rootHost }

/-- The secret deletion of `HandleScaleDown`; a `NotFound` answer counts as done. -/
def deleteRootPasswordSecret (ans : MysqldAnswers) (secretName : String) (w : MysqldWorld) :
    Except ApiError MysqldWorld :=
  if isControlledBy w secretName then
    match ans.deleteSecret with
    | .ok () => .ok { w with secrets := fun n => if n = secretName then none else w.secrets n }
    | .error .notFound => .ok w
    | .error err => .error err
  else .ok w

/-- `HandleScaleDown`; the `Spec.Replicas` that a partial scale down patches is not modelled. -/
def handleScaleDown (mysqldNodeCount : Int32) (ans : MysqldAnswers) (w : MysqldWorld) :
    SyncResult × MysqldWorld :=
  match w.statefulSet with
  | none => (continueProcessing, w)
  | some mysqldSfset =>
    if !mysqldSfset.updateComplete then (finishProcessing, w)
    else if mysqldSfset.replicas.val ≤ mysqldNodeCount.val then (continueProcessing, w)
    else if mysqldNodeCount.val = 0 then
      match deleteRootUserIfExists ans (mysqldSfset.rootHost.getD "") w with
      | .error err => (errorWhileProcessing err, w)
      | .ok w =>
        match deleteRootPasswordSecret ans (mysqldSfset.rootPasswordSecret.getD "") w with
        | .error err => (errorWhileProcessing err, w)
        | .ok w =>
          match ans.deleteStatefulSet with
          | .error err => (errorWhileProcessing err, w)
          | .ok () => (finishProcessing, { w with statefulSet := none })
    else
      match ans.patchStatefulSet with
      | .error err => (errorWhileProcessing err, w)
      | .ok () => (finishProcessing, w)

def parseDecimal (ds : List Char) : Option Nat :=
  if ds ≠ [] ∧ ds.all Char.isDigit then
    some (ds.foldl (fun n d => 10 * n + (d.toNat - '0'.toNat)) 0)
  else none

/-- `strconv.ParseInt(genString, 10, 64)` with its error dropped; the clamp beyond 64 bits is left out. -/
def parseGeneration (genString : String) : Int :=
  match genString.toList with
  | '-' :: ds => ((parseDecimal ds).map fun n => -(n : Int)).getD 0
  | '+' :: ds => ((parseDecimal ds).map Int.ofNat).getD 0
  | ds => ((parseDecimal ds).map Int.ofNat).getD 0

example : parseGeneration (toString (-12 : Int)) = -12 ∧ parseGeneration "v2" = 0 := by decide

/-- The SQL step of `reconcileRootUser`: create the root account, or rename it to the spec's host. -/
def applyRootUser (ans : MysqldAnswers) (newRootHost : String) (existing : Option String)
    (w : MysqldWorld) : Except ApiError MysqldWorld :=
  match existing with
  | none => do
    let _password ← ans.extractPassword
    ans.createRootUser.map fun _ =>
      { w with rootHosts := if newRootHost ∈ w.rootHosts then w.rootHosts else newRootHost :: w.rootHosts
               lastRootHost := some newRootHost }
  | some existingRootHost =>
    if newRootHost ≠ existingRootHost then
      ans.updateRootUser.map fun _ =>
        { w with rootHosts := w.rootHosts.map fun h => if h = existingRootHost then newRootHost else h
                 lastRootHost := some newRootHost }
    else .ok w

def reconcileRootUser (recentNdbGen : Int) (newRootHost : String) (ans : MysqldAnswers)
    (w : MysqldWorld) : SyncResult × MysqldWorld :=
  match w.statefulSet with
  | none => (continueProcessing, w)
  | some mysqldSfset =>
    if (mysqldSfset.rootUserGeneration.map parseGeneration).getD 0 = recentNdbGen then
      (continueProcessing, w)
    else
      match applyRootUser ans newRootHost mysqldSfset.rootHost w with
      | .error err => (errorWhileProcessing err, w)
      | .ok w =>
        match ans.patchStatefulSet with
        | .error err => (errorWhileProcessing err, w)
        | .ok () => (finishProcessing, { w with statefulSet := some { mysqldSfset with
            rootHost := some newRootHost, rootUserGeneration := some (toString recentNdbGen) } })

end MySQLDStatefulSetController

open MySQLDStatefulSetController

/-! ## Scaling the MySQL Servers down to zero -/

theorem deleteRootPasswordSecret_keeps_foreign {ans : MysqldAnswers} {secretName name : String}
    {w w' : MysqldWorld} (h : deleteRootPasswordSecret ans secretName w = .ok w')
    (hn : w.secrets name = some false) : w'.secrets name = some false := by
  unfold deleteRootPasswordSecret isControlledBy at h
  split_ifs at h with hc
  · split at h
    · cases h
      by_cases he : name = secretName
      · subst he
        rw [hn] at hc
        cases hc
      · simp [he, hn]
    · cases h
      exact hn
    · cases h
  · cases h
    exact hn

theorem handleScaleDown_keeps_foreign (mysqldNodeCount : Int32) (ans : MysqldAnswers)
    {w : MysqldWorld} {name : String} (hn : w.secrets name = some false) :
    (handleScaleDown mysqldNodeCount ans w).2.secrets name = some false := by
  unfold handleScaleDown
  split
  · exact hn
  · rename_i s _
    split_ifs
    · exact hn
    · exact hn
    · rcases hr : deleteRootUserIfExists ans (s.rootHost.getD "") w with err | w₁
      · exact hn
      have h₁ : w₁.secrets name = some false := by
        unfold deleteRootUserIfExists at hr
        rcases hd : ans.deleteRootUser with _ | ⟨⟩ <;> rw [hd] at hr <;> cases hr
        exact hn
      dsimp only
      rcases hs : deleteRootPasswordSecret ans (s.rootPasswordSecret.getD "") w₁ with err | w₂
      · exact h₁
      have h₂ := deleteRootPasswordSecret_keeps_foreign hs h₁
      dsimp only
      rcases ans.deleteStatefulSet with _ | ⟨⟩ <;> exact h₂
    · rcases ans.patchStatefulSet with _ | ⟨⟩ <;> exact hn

def mintedSecretName : String := "example-mysqld-root-password"

def twoServersWorld : MysqldWorld where
  statefulSet := some ⟨2, true, some "%", some "1", some mintedSecretName⟩
  secrets n := if n = mintedSecretName then some true else none
  rootHosts := ["%"]
  lastRootHost := some "%"

def stalledDeleteAnswers : MysqldAnswers where
  deleteRootUser := .ok ()
  deleteSecret := .ok ()
  deleteStatefulSet := .error (.other "the server is currently unable to handle the request")
  patchStatefulSet := .ok ()
  extractPassword := .ok "secret"
  createRootUser := .ok ()
  updateRootUser := .ok ()

/-- A scale-down to zero deletes the minted secret, then fails to delete the StatefulSet. -/
theorem handleScaleDown_deletes_secret_before_statefulSet :
    twoServersWorld.secrets mintedSecretName = some true ∧
      (handleScaleDown 0 stalledDeleteAnswers twoServersWorld).1 =
        errorWhileProcessing (.other "the server is currently unable to handle the request") ∧
      (handleScaleDown 0 stalledDeleteAnswers twoServersWorld).2.secrets mintedSecretName = none ∧
      (handleScaleDown 0 stalledDeleteAnswers twoServersWorld).2.statefulSet.isSome := by
  decide

/-! ## Reconciling the root user -/

theorem applyRootUser_cases {ans : MysqldAnswers} {newRootHost : String} {existing : Option String}
    {w w' : MysqldWorld} (h : applyRootUser ans newRootHost existing w = .ok w') :
    (existing = none ∧ w' = { w with
        rootHosts := if newRootHost ∈ w.rootHosts then w.rootHosts else newRootHost :: w.rootHosts
        lastRootHost := some newRootHost }) ∨
      (∃ e, existing = some e ∧ w' = { w with
        rootHosts := w.rootHosts.map fun h => if h = e then newRootHost else h
        lastRootHost := some newRootHost }) ∨
      (existing = some newRootHost ∧ w' = w) := by
  rcases existing with _ | e <;> dsimp only [applyRootUser] at h
  · rcases he : ans.extractPassword <;> rcases hc : ans.createRootUser <;>
      simp only [he, hc, bind, Except.bind, Except.map] at h <;> cases h
    exact .inl ⟨rfl, rfl⟩
  · split_ifs at h with hne
    · rcases hu : ans.updateRootUser <;> simp only [hu, Except.map] at h <;> cases h
      exact .inr (.inl ⟨e, rfl, rfl⟩)
    · cases h
      exact .inr (.inr ⟨by rw [not_not.mp hne], rfl⟩)

theorem applyRootUser_ok {ans : MysqldAnswers} {newRootHost : String} {existing : Option String}
    {w w' : MysqldWorld} (h : applyRootUser ans newRootHost existing w = .ok w') :
    w'.statefulSet = w.statefulSet ∧
      (w'.lastRootHost = some newRootHost ∨ existing = some newRootHost ∧ w' = w) := by
  rcases applyRootUser_cases h with ⟨-, rfl⟩ | ⟨e, -, rfl⟩ | h
  · exact ⟨rfl, .inl rfl⟩
  · exact ⟨rfl, .inl rfl⟩
  · exact ⟨h.2 ▸ rfl, .inr h⟩

def failedPatchAnswers : MysqldAnswers :=
  { stalledDeleteAnswers with patchStatefulSet := .error .conflict }

/-- A rename whose annotation patch fails leaves the annotation on a host the root account left. -/
theorem reconcileRootUser_keeps_stale_host :
    twoServersWorld.statefulSet.bind MysqldStatefulSet.rootHost = twoServersWorld.lastRootHost ∧
      (reconcileRootUser 2 "localhost" failedPatchAnswers twoServersWorld).1 =
        errorWhileProcessing .conflict ∧
      (reconcileRootUser 2 "localhost" failedPatchAnswers twoServersWorld).2.lastRootHost =
        some "localhost" ∧
      (reconcileRootUser 2 "localhost" failedPatchAnswers twoServersWorld).2.statefulSet.bind
        MysqldStatefulSet.rootHost = some "%" ∧
      "%" ∉ (reconcileRootUser 2 "localhost" failedPatchAnswers twoServersWorld).2.rootHosts := by
  decide

/-! ## Reconciling the StatefulSet -/

/-- The answers of the calls that only `ReconcileStatefulSet` makes. -/
structure ReconcileAnswers where
  ensureSecret : Except ApiError Unit
  createStatefulSet : Except ApiError Unit
  patchService : Except ApiError Unit
  newStatefulSet : Except ApiError Unit

namespace MySQLDStatefulSetController

/-- Modelled from the spec: `secretClient.Ensure` mints a secret owned by the NdbCluster when none exists. -/
def ensureSecret (ra : ReconcileAnswers) (secretName : String) (w : MysqldWorld) :
    Except ApiError MysqldWorld :=
  ra.ensureSecret.map fun _ =>
    match w.secrets secretName with
    | some _ => w
    | none => { w with secrets := fun n => if n = secretName then some true else w.secrets n }

/-- `ReconcileStatefulSet`; modelled from the spec, a new StatefulSet has no pods or root annotations. -/
def reconcileStatefulSet (numOfMySQLServers : Int32) (hasConfigGeneration : Bool)
    (secretName : String) (ans : MysqldAnswers) (ra : ReconcileAnswers) (w : MysqldWorld) :
    SyncResult × MysqldWorld :=
  match w.statefulSet with
  | none =>
    if numOfMySQLServers.val = 0 then (continueProcessing, w)
    else
      match ensureSecret ra secretName w with
      | .error err => (errorWhileProcessing err, w)
      | .ok w =>
        match ra.createStatefulSet with
        | .error err => (errorWhileProcessing err, w)
        | .ok () =>
          (finishProcessing, { w with statefulSet := some ⟨0, false, none, none, some secretName⟩ })
  | some _ =>
    if hasConfigGeneration then (continueProcessing, w)
    else
      match ra.patchService with
      | .error err => (errorWhileProcessing err, w)
      | .ok () =>
        match ra.newStatefulSet with
        | .error err => (errorWhileProcessing err, w)
        | .ok () =>
          match ans.patchStatefulSet with
          | .error err => (errorWhileProcessing err, w)
          | .ok () => (finishProcessing, w)

end MySQLDStatefulSetController

/-! ## The controller's ticks in any order -/

/-- A tick of one of the controller's three steps, for any spec and any answers `allowed` lets through. -/
inductive MysqldStep (allowed : MysqldAnswers → Prop) : MysqldWorld → MysqldWorld → Prop
  | scaleDown (mysqldNodeCount : Int32) (ans : MysqldAnswers) (w : MysqldWorld) :
      allowed ans → MysqldStep allowed w (handleScaleDown mysqldNodeCount ans w).2
  | reconcile (numOfMySQLServers : Int32) (hasConfigGeneration : Bool) (secretName : String)
      (ans : MysqldAnswers) (ra : ReconcileAnswers) (w : MysqldWorld) :
      allowed ans → MysqldStep allowed w
        (reconcileStatefulSet numOfMySQLServers hasConfigGeneration secretName ans ra w).2
  | rootUser (recentNdbGen : Int) (newRootHost : String) (ans : MysqldAnswers) (w : MysqldWorld) :
      allowed ans → MysqldStep allowed w (reconcileRootUser recentNdbGen newRootHost ans w).2

/-! ### What a tick can do -/

def KubernetesSucceeds (ans : MysqldAnswers) : Prop :=
  (ans.deleteSecret = .ok () ∨ ans.deleteSecret = .error .notFound) ∧
    ans.deleteStatefulSet = .ok () ∧ ans.patchStatefulSet = .ok ()

theorem deleteRootPasswordSecret_ne_error {ans : MysqldAnswers} {secretName : String}
    {w : MysqldWorld} (hd : ans.deleteSecret = .ok () ∨ ans.deleteSecret = .error .notFound)
    (err : ApiError) : deleteRootPasswordSecret ans secretName w ≠ .error err := by
  unfold deleteRootPasswordSecret
  split_ifs
  · rcases hd with hd | hd <;> simp [hd]
  · simp

theorem handleScaleDown_of_succeeds (mysqldNodeCount : Int32) {ans : MysqldAnswers}
    {w : MysqldWorld} (hk : KubernetesSucceeds ans) :
    (handleScaleDown mysqldNodeCount ans w).2 = w ∨
      (handleScaleDown mysqldNodeCount ans w).2.statefulSet = none := by
  unfold handleScaleDown
  split
  · exact .inl rfl
  · rename_i s _
    split_ifs
    · exact .inl rfl
    · exact .inl rfl
    · rcases deleteRootUserIfExists ans (s.rootHost.getD "") w with err | w₁
      · exact .inl rfl
      dsimp only
      rcases hs : deleteRootPasswordSecret ans (s.rootPasswordSecret.getD "") w₁ with err | w₂
      · exact absurd hs (deleteRootPasswordSecret_ne_error hk.1 err)
      dsimp only
      rw [hk.2.1]
      exact .inr rfl
    · rcases ans.patchStatefulSet with _ | ⟨⟩ <;> exact .inl rfl

theorem reconcileStatefulSet_cases (numOfMySQLServers : Int32) (hasConfigGeneration : Bool)
    (secretName : String) (ans : MysqldAnswers) (ra : ReconcileAnswers) (w : MysqldWorld) :
    (reconcileStatefulSet numOfMySQLServers hasConfigGeneration secretName ans ra w).2 = w ∨
      ∃ w₁, w.statefulSet = none ∧ ensureSecret ra secretName w = .ok w₁ ∧
        ((reconcileStatefulSet numOfMySQLServers hasConfigGeneration secretName ans ra w).2 = w₁ ∨
          (reconcileStatefulSet numOfMySQLServers hasConfigGeneration secretName ans ra w).2 =
            { w₁ with statefulSet := some ⟨0, false, none, none, some secretName⟩ }) := by
  unfold reconcileStatefulSet
  rcases hs : w.statefulSet with _ | s <;> dsimp only
  · split_ifs
    · exact .inl rfl
    · rcases he : ensureSecret ra secretName w with err | w₁
      · exact .inl rfl
      dsimp only
      rcases ra.createStatefulSet with _ | ⟨⟩
      · exact .inr ⟨w₁, rfl, rfl, .inl rfl⟩
      · exact .inr ⟨w₁, rfl, rfl, .inr rfl⟩
  · split_ifs
    · exact .inl rfl
    · rcases ra.patchService with _ | ⟨⟩
      · exact .inl rfl
      rcases ra.newStatefulSet with _ | ⟨⟩
      · exact .inl rfl
      rcases ans.patchStatefulSet with _ | ⟨⟩ <;> exact .inl rfl

theorem reconcileRootUser_cases (recentNdbGen : Int) (newRootHost : String) (ans : MysqldAnswers)
    (w : MysqldWorld) :
    (reconcileRootUser recentNdbGen newRootHost ans w).2 = w ∨
      ∃ s w', w.statefulSet = some s ∧ applyRootUser ans newRootHost s.rootHost w = .ok w' ∧
        ((∃ err, ans.patchStatefulSet = .error err) ∧
            (reconcileRootUser recentNdbGen newRootHost ans w).2 = w' ∨
          ans.patchStatefulSet = .ok () ∧ (reconcileRootUser recentNdbGen newRootHost ans w).2 =
            { w' with statefulSet := some { s with
              rootHost := some newRootHost, rootUserGeneration := some (toString recentNdbGen) } }) :=
    by
  unfold reconcileRootUser
  rcases hs : w.statefulSet with _ | s <;> dsimp only
  · exact .inl rfl
  · split_ifs
    · exact .inl rfl
    · rcases happ : applyRootUser ans newRootHost s.rootHost w with err | w'
      · exact .inl rfl
      dsimp only
      rcases hp : ans.patchStatefulSet with err | ⟨⟩
      · exact .inr ⟨s, w', rfl, happ, .inl ⟨⟨err, rfl⟩, rfl⟩⟩
      · exact .inr ⟨s, w', rfl, happ, .inr ⟨rfl, rfl⟩⟩

theorem applyRootUser_secrets {ans : MysqldAnswers} {newRootHost : String} {existing : Option String}
    {w w' : MysqldWorld} (h : applyRootUser ans newRootHost existing w = .ok w') :
    w'.secrets = w.secrets := by
  rcases applyRootUser_cases h with ⟨-, rfl⟩ | ⟨e, -, rfl⟩ | ⟨-, rfl⟩ <;> rfl

theorem applyRootUser_mem {ans : MysqldAnswers} {newRootHost : String} {existing : Option String}
    {w w' : MysqldWorld} (h : applyRootUser ans newRootHost existing w = .ok w')
    (hex : ∀ e, existing = some e → e ∈ w.rootHosts) : newRootHost ∈ w'.rootHosts := by
  rcases applyRootUser_cases h with ⟨-, rfl⟩ | ⟨e, he, rfl⟩ | ⟨he, rfl⟩
  · dsimp only
    split_ifs with hm
    · exact hm
    · exact List.mem_cons_self _ _
  · exact List.mem_map.mpr ⟨e, hex e he, if_pos rfl⟩
  · exact hex _ he

theorem ensureSecret_ok {ra : ReconcileAnswers} {secretName : String} {w w' : MysqldWorld}
    (h : ensureSecret ra secretName w = .ok w') :
    w'.statefulSet = w.statefulSet ∧ w'.rootHosts = w.rootHosts ∧
      (∀ n, w.secrets n ≠ none → w'.secrets n = w.secrets n) ∧ w'.secrets secretName ≠ none := by
  unfold ensureSecret at h
  rcases hr : ra.ensureSecret with _ | ⟨⟩ <;> simp only [hr, Except.map] at h <;> cases h
  split
  · rename_i hsome
    exact ⟨rfl, rfl, fun _ _ => rfl, by simp [hsome]⟩
  · rename_i hnone
    refine ⟨rfl, rfl, fun n hn => ?_, by simp⟩
    by_cases he : n = secretName
    · subst he
      exact absurd hnone hn
    · simp [he]

/-! ### Secrets the NdbCluster does not control -/

theorem reconcileStatefulSet_keeps_foreign (numOfMySQLServers : Int32) (hasConfigGeneration : Bool)
    (secretName : String) (ans : MysqldAnswers) (ra : ReconcileAnswers) {w : MysqldWorld}
    {name : String} (hn : w.secrets name = some false) :
    (reconcileStatefulSet numOfMySQLServers hasConfigGeneration secretName ans ra w).2.secrets name =
      some false := by
  rcases reconcileStatefulSet_cases numOfMySQLServers hasConfigGeneration secretName ans ra w with
    h | ⟨w₁, -, he, h | h⟩ <;> rw [h]
  · exact hn
  all_goals exact ((ensureSecret_ok he).2.2.1 name (by simp [hn])).trans hn

theorem reconcileRootUser_secrets (recentNdbGen : Int) (newRootHost : String) (ans : MysqldAnswers)
    (w : MysqldWorld) : (reconcileRootUser recentNdbGen newRootHost ans w).2.secrets = w.secrets := by
  rcases reconcileRootUser_cases recentNdbGen newRootHost ans w with
    h | ⟨s, w', -, happ, ⟨-, h⟩ | ⟨-, h⟩⟩ <;> rw [h]
  all_goals exact (applyRootUser_secrets happ :)

/-- Along every run, a secret the NdbCluster does not control is never deleted or taken over. -/
theorem mysqldRun_keeps_foreign {allowed : MysqldAnswers → Prop} {w w' : MysqldWorld}
    (h : Relation.ReflTransGen (MysqldStep allowed) w w') {name : String}
    (hn : w.secrets name = some false) : w'.secrets name = some false := by
  induction h with
  | refl => exact hn
  | tail _ hstep ih =>
    cases hstep with
    | scaleDown mysqldNodeCount ans w _ => exact handleScaleDown_keeps_foreign mysqldNodeCount ans ih
    | reconcile numOfMySQLServers hasConfigGeneration secretName ans ra w _ =>
      exact reconcileStatefulSet_keeps_foreign numOfMySQLServers hasConfigGeneration secretName ans ra ih
    | rootUser recentNdbGen newRootHost ans w _ =>
      rw [reconcileRootUser_secrets]
      exact ih

theorem mysqldRun_keeps_foreign_sample :
    (handleScaleDown 0 stalledDeleteAnswers
      { twoServersWorld with secrets := fun n => if n = "user-secret" then some false
          else twoServersWorld.secrets n }).2.secrets "user-secret" = some false :=
  mysqldRun_keeps_foreign (.single (@MysqldStep.scaleDown (fun _ => True) 0 stalledDeleteAnswers _ trivial))
    rfl

/-! ### The recorded root host -/

def RootAccountRecorded (w : MysqldWorld) : Prop :=
  ∀ s h, w.statefulSet = some s → s.rootHost = some h → h ∈ w.rootHosts

theorem handleScaleDown_rootAccountRecorded (mysqldNodeCount : Int32) {ans : MysqldAnswers}
    {w : MysqldWorld} (hk : KubernetesSucceeds ans) (hw : RootAccountRecorded w) :
    RootAccountRecorded (handleScaleDown mysqldNodeCount ans w).2 := by
  rcases handleScaleDown_of_succeeds mysqldNodeCount hk (w := w) with h | h
  · rw [h]
    exact hw
  · intro s _ hs
    rw [h] at hs
    cases hs

theorem reconcileStatefulSet_rootAccountRecorded (numOfMySQLServers : Int32)
    (hasConfigGeneration : Bool) (secretName : String) (ans : MysqldAnswers) (ra : ReconcileAnswers)
    {w : MysqldWorld} (hw : RootAccountRecorded w) :
    RootAccountRecorded
      (reconcileStatefulSet numOfMySQLServers hasConfigGeneration secretName ans ra w).2 := by
  rcases reconcileStatefulSet_cases numOfMySQLServers hasConfigGeneration secretName ans ra w with
    h | ⟨w₁, hnone, he, h | h⟩ <;> rw [h]
  · exact hw
  · intro s _ hs
    rw [(ensureSecret_ok he).1, hnone] at hs
    cases hs
  · rintro _ _ ⟨⟩ ⟨⟩

theorem reconcileRootUser_rootAccountRecorded (recentNdbGen : Int) (newRootHost : String)
    {ans : MysqldAnswers} {w : MysqldWorld} (hp : ans.patchStatefulSet = .ok ())
    (hw : RootAccountRecorded w) :
    RootAccountRecorded (reconcileRootUser recentNdbGen newRootHost ans w).2 := by
  rcases reconcileRootUser_cases recentNdbGen newRootHost ans w with
    h | ⟨s, w', hs, happ, ⟨⟨err, he⟩, -⟩ | ⟨-, h⟩⟩
  · rw [h]
    exact hw
  · rw [hp] at he
    cases he
  · have hmem := applyRootUser_mem happ fun e he => hw s e hs he
    rw [h]
    rintro _ _ ⟨⟩ ⟨⟩
    exact hmem

/-- Along every run whose Kubernetes calls succeed, the root-host annotation names an existing root account. -/
theorem mysqldRun_rootAccountRecorded {w w' : MysqldWorld}
    (h : Relation.ReflTransGen (MysqldStep KubernetesSucceeds) w w') (hw : RootAccountRecorded w) :
    RootAccountRecorded w' := by
  induction h with
  | refl => exact hw
  | tail _ hstep ih =>
    cases hstep with
    | scaleDown mysqldNodeCount ans w hk => exact handleScaleDown_rootAccountRecorded mysqldNodeCount hk ih
    | reconcile numOfMySQLServers hasConfigGeneration secretName ans ra w _ =>
      exact reconcileStatefulSet_rootAccountRecorded numOfMySQLServers hasConfigGeneration secretName
        ans ra ih
    | rootUser recentNdbGen newRootHost ans w hk =>
      exact reconcileRootUser_rootAccountRecorded recentNdbGen newRootHost hk.2.2 ih

def reliableAnswers : MysqldAnswers := { stalledDeleteAnswers with deleteStatefulSet := .ok () }

theorem mysqldRun_rootAccountRecorded_sample :
    RootAccountRecorded (reconcileRootUser 2 "localhost" reliableAnswers twoServersWorld).2 :=
  mysqldRun_rootAccountRecorded (.single (.rootUser 2 "localhost" reliableAnswers twoServersWorld
    ⟨.inl rfl, rfl, rfl⟩)) fun _ _ hs hh => by
      cases hs
      cases hh
      exact List.mem_singleton_self _

/-! ### The root password secret -/

def RootPasswordSecretInPlace (w : MysqldWorld) : Prop :=
  ∀ s, w.statefulSet = some s → ∃ name, s.rootPasswordSecret = some name ∧ w.secrets name ≠ none

theorem handleScaleDown_secretInPlace (mysqldNodeCount : Int32) {ans : MysqldAnswers}
    {w : MysqldWorld} (hk : KubernetesSucceeds ans) (hw : RootPasswordSecretInPlace w) :
    RootPasswordSecretInPlace (handleScaleDown mysqldNodeCount ans w).2 := by
  rcases handleScaleDown_of_succeeds mysqldNodeCount hk (w := w) with h | h
  · rw [h]
    exact hw
  · intro s hs
    rw [h] at hs
    cases hs

theorem reconcileStatefulSet_secretInPlace (numOfMySQLServers : Int32) (hasConfigGeneration : Bool)
    (secretName : String) (ans : MysqldAnswers) (ra : ReconcileAnswers) {w : MysqldWorld}
    (hw : RootPasswordSecretInPlace w) :
    RootPasswordSecretInPlace
      (reconcileStatefulSet numOfMySQLServers hasConfigGeneration secretName ans ra w).2 := by
  rcases reconcileStatefulSet_cases numOfMySQLServers hasConfigGeneration secretName ans ra w with
    h | ⟨w₁, hnone, he, h | h⟩ <;> rw [h]
  · exact hw
  · intro s hs
    rw [(ensureSecret_ok he).1, hnone] at hs
    cases hs
  · rintro _ ⟨⟩
    exact ⟨secretName, rfl, (ensureSecret_ok he).2.2.2⟩

theorem reconcileRootUser_secretInPlace (recentNdbGen : Int) (newRootHost : String)
    (ans : MysqldAnswers) {w : MysqldWorld} (hw : RootPasswordSecretInPlace w) :
    RootPasswordSecretInPlace (reconcileRootUser recentNdbGen newRootHost ans w).2 := by
  rw [RootPasswordSecretInPlace, reconcileRootUser_secrets]
  rcases reconcileRootUser_cases recentNdbGen newRootHost ans w with
    h | ⟨s, w', hs, happ, ⟨-, h⟩ | ⟨-, h⟩⟩ <;> rw [h]
  · exact hw
  · rw [(applyRootUser_ok happ).1]
    exact hw
  · rintro _ ⟨⟩
    exact hw s hs

/-- Along every run whose deletions and patches succeed, the StatefulSet's root password secret exists. -/
theorem mysqldRun_secretInPlace {w w' : MysqldWorld}
    (h : Relation.ReflTransGen (MysqldStep KubernetesSucceeds) w w')
    (hw : RootPasswordSecretInPlace w) : RootPasswordSecretInPlace w' := by
  induction h with
  | refl => exact hw
  | tail _ hstep ih =>
    cases hstep with
    | scaleDown mysqldNodeCount ans w hk => exact handleScaleDown_secretInPlace mysqldNodeCount hk ih
    | reconcile numOfMySQLServers hasConfigGeneration secretName ans ra w _ =>
      exact reconcileStatefulSet_secretInPlace numOfMySQLServers hasConfigGeneration secretName ans
        ra ih
    | rootUser recentNdbGen newRootHost ans w _ =>
      exact reconcileRootUser_secretInPlace recentNdbGen newRootHost ans ih

def emptyMysqldWorld : MysqldWorld := ⟨none, fun _ => none, [], none⟩

def reconcileSucceeds : ReconcileAnswers := ⟨.ok (), .ok (), .ok (), .ok ()⟩

theorem mysqldRun_secretInPlace_sample :
    RootPasswordSecretInPlace (reconcileStatefulSet 2 false mintedSecretName reliableAnswers
      reconcileSucceeds emptyMysqldWorld).2 :=
  mysqldRun_secretInPlace (.single (.reconcile 2 false mintedSecretName reliableAnswers
    reconcileSucceeds emptyMysqldWorld ⟨.inl rfl, rfl, rfl⟩)) fun _ hs => by cases hs

end NdbOperator
