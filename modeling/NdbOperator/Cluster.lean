import Mathlib

set_option autoImplicit false

/-!
# The NdbCluster resource

The values that the reconciler reads and passes around: Go's `int32`, the errors of remote
calls, the verdict of a step of `sync`, and the parts of the `NdbCluster` object that the
modelled functions read. The `v1alpha1` types, the `constants` package and the `syncResult`
helpers are not under src/; what the modelled functions use of them follows the spec.
-/

namespace NdbOperator

/-- A Go `int32`: an integer in `[-2^31, 2^31)`. -/
structure Int32 where
  val : Int
  min_le : -2 ^ 31 ≤ val
  lt_max : val < 2 ^ 31
deriving DecidableEq

namespace Int32

def wrap (x : Int) : Int32 := ⟨(x + 2 ^ 31) % 2 ^ 32 - 2 ^ 31, by omega, by omega⟩

instance : Add Int32 := ⟨fun a b => wrap (a.val + b.val)⟩

instance (n : Nat) : OfNat Int32 n := ⟨wrap n⟩

@[simp] theorem add_val (a b : Int32) : (a + b).val = (wrap (a.val + b.val)).val := rfl

end Int32

/-- Go errors; the texts of `resourceExists` and `waitTimeout` are not under src/. -/
inductive ApiError
  | notFound
  | conflict
  | resourceExists (name : String)
  | waitTimeout
  | other (msg : String)
deriving DecidableEq, Repr

/-- Modelled from the spec: the verdict of a step of `sync` (`syncResult` is not under src/). -/
inductive SyncResult
  | continueProcessing
  | finishProcessing
  | requeueInSeconds (seconds : Nat)
  | errorWhileProcessing (err : ApiError)
deriving DecidableEq, Repr

open SyncResult

/-- Modelled from the spec: every verdict but `continue` ends the tick. -/
def SyncResult.stopSync : SyncResult → Bool
  | continueProcessing => false
  | _ => true

@[simp] theorem SyncResult.stopSync_continueProcessing : continueProcessing.stopSync = false := rfl

@[simp] theorem SyncResult.stopSync_eq_false_iff (r : SyncResult) :
    r.stopSync = false ↔ r = continueProcessing := by
  cases r <;> simp [SyncResult.stopSync]

/-- A Go map of config values, as its entries in the key order that `text/template` ranges in. -/
structure StringMap where
  entries : List (String × String)
  sorted : entries.Pairwise (fun a b => a.1 < b.1)
deriving DecidableEq

def StringMap.empty : StringMap := ⟨[], List.Pairwise.nil⟩

structure MysqldSpec where
  nodeCount : Int32
  rootPasswordSecretName : String
  rootHost : String
  myCnf : String
deriving DecidableEq

structure NdbClusterSpec where
  nodeCount : Int32
  redundancyLevel : Int32
  freeAPISlots : Int32
  mysqld : Option MysqldSpec
  dataNodeConfig : StringMap
  managementNodeConfig : StringMap
deriving DecidableEq

structure NdbClusterStatus where
  processedGeneration : Int
  lastUpdate : Nat
deriving DecidableEq

structure NdbCluster where
  name : String
  «namespace» : String
  generation : Int
  spec : NdbClusterSpec
  status : NdbClusterStatus
deriving DecidableEq

namespace NdbCluster

/-- Modelled from the spec: one management node at redundancy level 1, else two. -/
def getManagementNodeCount (nc : NdbCluster) : Int32 :=
  if nc.spec.redundancyLevel.val = 1 then 1 else 2

/-- Modelled from the spec: the MySQL Server count, 0 when `spec.mysqld` is absent. -/
def getMySQLServerNodeCount (nc : NdbCluster) : Int32 :=
  match nc.spec.mysqld with
  | some m => m.nodeCount
  | none => 0

/-- Modelled from the spec: the user's `myCnf`, empty when `spec.mysqld` is absent. -/
def getMySQLCnf (nc : NdbCluster) : String :=
  match nc.spec.mysqld with
  | some m => m.myCnf
  | none => ""

theorem getManagementNodeCount_val (nc : NdbCluster) :
    nc.getManagementNodeCount.val = if nc.spec.redundancyLevel.val = 1 then 1 else 2 := by
  unfold getManagementNodeCount
  split <;> rfl

end NdbCluster

/-- Modelled from the spec: `constants.MaxNumberOfNodes`, 145. -/
def maxNumberOfNodes : Int := 145

/-- Modelled from the spec: `constants.NdbNodeTypeAPIStartNodeId`, 129. -/
def ndbNodeTypeAPIStartNodeId : Int := 129

end NdbOperator
