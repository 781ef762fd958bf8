import NdbOperator.Tick

set_option autoImplicit false

/-!
# The NdbCluster status

`calculateNdbClusterStatus` projects a `SyncContext` onto the `v1alpha1` `NdbClusterStatus`: the
three readiness strings, the name of the root password secret the operator minted, the processed
generation and one `UpToDate` condition stamped with the current time. `statusEqual` compares two
statuses on all of that but the condition's `Reason`, `Message` and `LastTransitionTime`. Reason and
message follow from the processed generation and the condition's status, so on the statuses that
`calculateNdbClusterStatus` produces the cheap comparison is equality up to the transition time.
The `v1` functions close the module.
-/

namespace NdbOperator

namespace V1alpha1

/-- Modelled from the spec: the condition type, statuses and reasons (their constants are not under src/). -/
def ndbClusterUpToDate : String := "UpToDate"

def conditionTrue : String := "True"

def conditionFalse : String := "False"

def ndbClusterUptoDateReasonSyncSuccess : String := "SyncSuccess"

def ndbClusterUptoDateReasonISR : String := "ISR"

def ndbClusterUptoDateReasonSpecUpdateInProgress : String := "SpecUpdateInProgress"

/-- `v1alpha1.NdbClusterCondition`, with `metav1.Now()` as a number. -/
structure NdbClusterCondition where
  type : String
  status : String
  lastTransitionTime : Nat
  reason : String
  message : String
deriving DecidableEq

structure NdbClusterStatus where
  processedGeneration : Int
  readyManagementNodes : String
  readyDataNodes : String
  readyMySQLServers : String
  generatedRootPasswordSecretName : String
  conditions : List NdbClusterCondition
deriving DecidableEq

/-- What `calculateNdbClusterStatus` reads of the `SyncContext`. -/
structure SyncContext where
  ndb : NdbCluster
  mgmdNodeSfset : Option Int32
  dataNodeSfSet : Option Int32
  mysqldSfset : Option Int32
  syncSuccess : Bool

/-- Modelled from the spec: `resources.GetMySQLRootPasswordSecretName`, a custom secret or the minted one. -/
def getMySQLRootPasswordSecretName (generatedName : String → String) (nc : NdbCluster) :
    String × Bool :=
  match nc.spec.mysqld with
  | some m => if m.rootPasswordSecretName ≠ "" then (m.rootPasswordSecretName, true)
    else (generatedName nc.name, false)
  | none => (generatedName nc.name, false)

/-- `fmt.Sprintf("Ready:%d/%d", ready, total)`. -/
def readyString (ready total : Int32) : String :=
  "Ready:" ++ toString ready.val ++ "/" ++ toString total.val

def upToDateCondition (nc : NdbCluster) (syncSuccess : Bool) (now : Nat) : NdbClusterCondition :=
  if syncSuccess then
    ⟨ndbClusterUpToDate, conditionTrue, now, ndbClusterUptoDateReasonSyncSuccess,
      "NdbCluster Spec generation " ++ toString nc.generation ++
        " was successfully applied to the MySQL Cluster"⟩
  else if nc.generation = 1 then
    ⟨ndbClusterUpToDate, conditionFalse, now, ndbClusterUptoDateReasonISR,
      "MySQL Cluster is starting up"⟩
  else
    ⟨ndbClusterUpToDate, conditionFalse, now, ndbClusterUptoDateReasonSpecUpdateInProgress,
      "NdbCluster spec generation " ++ toString nc.generation ++
        " is being applied to the MySQL Cluster"⟩

def calculateNdbClusterStatus (generatedName : String → String) (sc : SyncContext) (now : Nat) :
    NdbClusterStatus :=
  let nc := sc.ndb
  let numOfMySQLServersRequired := nc.getMySQLServerNodeCount
  { processedGeneration := if sc.syncSuccess then nc.generation else nc.generation - 1
    readyManagementNodes := readyString (sc.mgmdNodeSfset.getD 0) nc.getManagementNodeCount
    readyDataNodes := readyString (sc.dataNodeSfSet.getD 0) nc.spec.nodeCount
    readyMySQLServers := readyString (sc.mysqldSfset.getD 0) numOfMySQLServersRequired
    generatedRootPasswordSecretName :=
      if sc.mysqldSfset.isSome ∧ 0 < numOfMySQLServersRequired.val then
        let (secretName, customSecret) := getMySQLRootPasswordSecretName generatedName nc
        if customSecret then "" else secretName
      else ""
    conditions := [upToDateCondition nc sc.syncSuccess now] }

/-- `statusEqual`; Go's `&&` reads `Conditions[0]`, which panics when empty, only if the rest agree. -/
def statusEqual (oldStatus newStatus : NdbClusterStatus) : Except Halt Bool :=
  if oldStatus.processedGeneration = newStatus.processedGeneration ∧
      oldStatus.readyManagementNodes = newStatus.readyManagementNodes ∧
      oldStatus.readyDataNodes = newStatus.readyDataNodes ∧
      oldStatus.readyMySQLServers = newStatus.readyMySQLServers ∧
      oldStatus.generatedRootPasswordSecretName = newStatus.generatedRootPasswordSecretName then
    match oldStatus.conditions[0]?, newStatus.conditions[0]? with
    | some c, some c' => .ok (c.status == c'.status)
    | _, _ => .error (.panic "runtime error: index out of range")
  else .ok false

/-- A status with the transition times of its conditions cleared. -/
def NdbClusterStatus.withoutTransitionTimes (s : NdbClusterStatus) : NdbClusterStatus :=
  { s with conditions := s.conditions.map fun c => { c with lastTransitionTime := 0 } }

def upToDateReasonAndMessage (processedGeneration : Int) (status : String) : String × String :=
  if status = conditionTrue then
    (ndbClusterUptoDateReasonSyncSuccess, "NdbCluster Spec generation " ++
      toString processedGeneration ++ " was successfully applied to the MySQL Cluster")
  else if processedGeneration = 0 then (ndbClusterUptoDateReasonISR, "MySQL Cluster is starting up")
  else (ndbClusterUptoDateReasonSpecUpdateInProgress, "NdbCluster spec generation " ++
    toString (processedGeneration + 1) ++ " is being applied to the MySQL Cluster")

theorem calculateNdbClusterStatus_conditions (generatedName : String → String) (sc : SyncContext)
    (now : Nat) :
    ∃ status, (calculateNdbClusterStatus generatedName sc now).conditions =
      [⟨ndbClusterUpToDate, status, now,
        (upToDateReasonAndMessage (calculateNdbClusterStatus generatedName sc now).processedGeneration
          status).1,
        (upToDateReasonAndMessage (calculateNdbClusterStatus generatedName sc now).processedGeneration
          status).2⟩] := by
  simp only [calculateNdbClusterStatus, upToDateCondition, upToDateReasonAndMessage]
  cases sc.syncSuccess
  · by_cases h : sc.ndb.generation = 1
    · exact ⟨conditionFalse, by simp [h, conditionFalse, conditionTrue]⟩
    · exact ⟨conditionFalse, by simp [h, conditionFalse, conditionTrue, sub_eq_zero]⟩
  · exact ⟨conditionTrue, by simp⟩

/-- On calculated statuses `statusEqual` answers, and is equality up to the transition time. -/
theorem statusEqual_calculateNdbClusterStatus (generatedName : String → String)
    (sc sc' : SyncContext) (now now' : Nat) :
    statusEqual (calculateNdbClusterStatus generatedName sc now)
        (calculateNdbClusterStatus generatedName sc' now') =
      .ok (decide ((calculateNdbClusterStatus generatedName sc now).withoutTransitionTimes =
        (calculateNdbClusterStatus generatedName sc' now').withoutTransitionTimes)) ∧
    ∃ c, (calculateNdbClusterStatus generatedName sc now).conditions = [c] ∧
      (c.reason, c.message) =
        upToDateReasonAndMessage (calculateNdbClusterStatus generatedName sc now).processedGeneration
          c.status := by
  obtain ⟨st, hc⟩ := calculateNdbClusterStatus_conditions generatedName sc now
  obtain ⟨st', hc'⟩ := calculateNdbClusterStatus_conditions generatedName sc' now'
  refine ⟨?_, _, hc, rfl⟩
  generalize calculateNdbClusterStatus generatedName sc now = s at hc
  generalize calculateNdbClusterStatus generatedName sc' now' = s' at hc'
  obtain ⟨pg, m, d, q, g, cs⟩ := s
  obtain ⟨pg', m', d', q', g', cs'⟩ := s'
  simp only at hc hc'
  subst hc hc'
  simp only [statusEqual, NdbClusterStatus.withoutTransitionTimes, List.map_cons, List.map_nil,
    NdbClusterStatus.mk.injEq, List.cons.injEq, NdbClusterCondition.mk.injEq, and_true, true_and]
  by_cases hf : pg = pg' ∧ m = m' ∧ d = d' ∧ q = q' ∧ g = g'
  · obtain ⟨rfl, rfl, rfl, rfl, rfl⟩ := hf
    by_cases hs : st = st' <;> simp [hs]
  · rw [if_neg hf]
    simp only [Except.ok.injEq, false_eq_decide_iff]
    tauto

end V1alpha1

/-! ## The v1 status

The `v1` `calculateNdbClusterStatus` differs from the `v1alpha1` one in two places: while the sync
is ongoing it carries the stored processed generation over, and when `retrievePodErrors` reports
failing pods the `UpToDate` condition is `False` with the reason `Error` and the pods' errors as its
message. Its `statusEqual` compares the condition's reason and message too. The `v1` status and
condition have the fields of the `v1alpha1` ones. -/

namespace V1

open V1alpha1

/-- Modelled from the spec: the reason `Error` of the `UpToDate` condition. -/
def ndbClusterUptoDateReasonError : String := "Error"

/-- What the `v1` `calculateNdbClusterStatus` reads; `retrievePodErrors` is not under src/. -/
structure SyncContext extends V1alpha1.SyncContext where
  podErrors : Option (List String)

def upToDateCondition (nc : NdbCluster) (syncSuccess : Bool) (podErrors : Option (List String))
    (now : Nat) : V1alpha1.NdbClusterCondition :=
  if syncSuccess then
    ⟨ndbClusterUpToDate, conditionTrue, now, ndbClusterUptoDateReasonSyncSuccess,
      "NdbCluster Spec generation " ++ toString nc.generation ++
        " was successfully applied to the MySQL Cluster"⟩
  else
    match podErrors with
    | some errMsgs =>
      ⟨ndbClusterUpToDate, conditionFalse, now, ndbClusterUptoDateReasonError,
        "\n".intercalate errMsgs⟩
    | none =>
      if nc.generation = 1 then
        ⟨ndbClusterUpToDate, conditionFalse, now, ndbClusterUptoDateReasonISR,
          "MySQL Cluster is starting up"⟩
      else
        ⟨ndbClusterUpToDate, conditionFalse, now, ndbClusterUptoDateReasonSpecUpdateInProgress,
          "NdbCluster spec generation " ++ toString nc.generation ++
            " is being applied to the MySQL Cluster"⟩

def calculateNdbClusterStatus (generatedName : String → String) (sc : SyncContext) (now : Nat) :
    V1alpha1.NdbClusterStatus :=
  let nc := sc.ndb
  let numOfMySQLServersRequired := nc.getMySQLServerNodeCount
  { processedGeneration := if sc.syncSuccess then nc.generation else nc.status.processedGeneration
    readyManagementNodes := readyString (sc.mgmdNodeSfset.getD 0) nc.getManagementNodeCount
    readyDataNodes := readyString (sc.dataNodeSfSet.getD 0) nc.spec.nodeCount
    readyMySQLServers := readyString (sc.mysqldSfset.getD 0) numOfMySQLServersRequired
    generatedRootPasswordSecretName :=
      if sc.mysqldSfset.isSome ∧ 0 < numOfMySQLServersRequired.val then
        let (secretName, customSecret) := getMySQLRootPasswordSecretName generatedName nc
        if customSecret then "" else secretName
      else ""
    conditions := [upToDateCondition nc sc.syncSuccess sc.podErrors now] }

/-- The `v1` `statusEqual`, which compares the condition's reason and message too. -/
def statusEqual (oldStatus newStatus : V1alpha1.NdbClusterStatus) : Except Halt Bool :=
  if oldStatus.processedGeneration = newStatus.processedGeneration ∧
      oldStatus.readyManagementNodes = newStatus.readyManagementNodes ∧
      oldStatus.readyDataNodes = newStatus.readyDataNodes ∧
      oldStatus.readyMySQLServers = newStatus.readyMySQLServers ∧
      oldStatus.generatedRootPasswordSecretName = newStatus.generatedRootPasswordSecretName then
    match oldStatus.conditions[0]?, newStatus.conditions[0]? with
    | some c, some c' =>
      .ok (c.status == c'.status && c.reason == c'.reason && c.message == c'.message)
    | _, _ => .error (.panic "runtime error: index out of range")
  else .ok false

end V1

end NdbOperator
