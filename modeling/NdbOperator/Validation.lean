import NdbOperator.IniText

set_option autoImplicit false

/-!
# Validation of the NdbCluster spec

`HasValidSpec` and `IsValidSpecUpdate` of `validation.go`, with the field paths and messages of
the errors they report. The node total is summed in `int32`, as Go sums it.
-/

namespace NdbOperator

inductive ErrorType
  | invalid
  | internal
deriving DecidableEq, Repr

/-- A `field.Error`: its type, field path, bad value and detail. -/
structure FieldError where
  type : ErrorType
  field : String
  badValue : String
  detail : String
deriving DecidableEq, Repr

def dns1123LabelChar (c : Char) : Bool := c.isLower || c.isDigit || c = '-'

def dns1123Label (l : List Char) : Bool :=
  match l.head?, l.getLast? with
  | some a, some b => (a.isLower || a.isDigit) && (b.isLower || b.isDigit) && l.all dns1123LabelChar
  | _, _ => false

/-- `validation.IsDNS1123Subdomain` of k8s.io/apimachinery, which is not under src/. -/
def isDNS1123Subdomain (value : String) : List String :=
  (if value.length > 253 then ["must be no more than 253 characters"] else []) ++
  (if (value.splitOn ".").all (fun l => dns1123Label l.toList) then [] else
    ["a lowercase RFC 1123 subdomain must consist of lower case alphanumeric characters, '-' or " ++
      "'.', and must start and end with an alphanumeric character (e.g. 'example.com', regex " ++
      "used for validation is '[a-z0-9]([-a-z0-9]*[a-z0-9])?(\\.[a-z0-9]([-a-z0-9]*[a-z0-9])?)*')"])

/-- `math.Mod(float64(x), float64(y)) != 0` on `int32` operands. -/
def floatModNonZero (x y : Int) : Bool := y = 0 || !decide (y ∣ x)

namespace NdbCluster

/-- The node total of `HasValidSpec`, added up in `int32`. -/
def totalNodes (nc : NdbCluster) : Int32 :=
  nc.getManagementNodeCount + nc.spec.nodeCount + nc.getMySQLServerNodeCount +
    nc.spec.freeAPISlots

def nodeCountSum (nc : NdbCluster) : Int :=
  nc.getManagementNodeCount.val + nc.spec.nodeCount.val + nc.getMySQLServerNodeCount.val +
    nc.spec.freeAPISlots.val

def nodeCountErrors (nc : NdbCluster) : List FieldError :=
  if floatModNonZero nc.spec.nodeCount.val nc.spec.redundancyLevel.val then
    [⟨.invalid, "spec.nodeCount", toString nc.spec.nodeCount.val,
      "spec.nodeCount should be a multiple of the spec.redundancyLevel(=" ++
        toString nc.spec.redundancyLevel.val ++ ")"⟩]
  else []

def totalNodesErrors (nc : NdbCluster) : List FieldError :=
  let total := nc.totalNodes.val
  if total > maxNumberOfNodes then
    [⟨.invalid, "Total Nodes",
      toString total ++ " (= " ++ toString nc.getManagementNodeCount.val ++ " management, " ++
        toString nc.spec.nodeCount.val ++ " data, " ++ toString nc.getMySQLServerNodeCount.val ++
        " mysql nodes and " ++ toString nc.spec.freeAPISlots.val ++ " free API nodes)",
      "Total number of MySQL Cluster nodes should not exceed the allowed maximum of " ++
        toString maxNumberOfNodes⟩]
  else []

def rootPasswordSecretErrors (nc : NdbCluster) : List FieldError :=
  let rootPasswordSecret := match nc.spec.mysqld with
    | some m => m.rootPasswordSecretName
    | none => ""
  if rootPasswordSecret = "" then []
  else (isDNS1123Subdomain rootPasswordSecret).map fun err =>
    ⟨.invalid, "spec.mysqld.rootPasswordSecretName", rootPasswordSecret, err⟩

/-- The cnf that `HasValidSpec` parses last: a headerless one again with `[mysqld]` in front. -/
def parsedMyCnf (myCnfString : String) : String × Except ParseError ConfigIni :=
  match parseString myCnfString with
  | .error err =>
    if "Non-empty line without section".toList <:+: err.error.toList then
      ("[mysqld]\n" ++ myCnfString, parseString ("[mysqld]\n" ++ myCnfString))
    else (myCnfString, .error err)
  | .ok myCnf => (myCnfString, .ok myCnf)

def myCnfErrors (nc : NdbCluster) : List FieldError :=
  let myCnfString := nc.getMySQLCnf
  if myCnfString.length = 0 then [] else
  match parsedMyCnf myCnfString with
  | (s, .error err) => [⟨.invalid, "spec.mysqld.myCnf", s, err.error⟩]
  | (s, .ok myCnf) =>
    if myCnf.numberOfNames > 1 || myCnf.numberOfNames ≠ myCnf.getNumberOfSections "mysqld" then
      [⟨.invalid, "spec.mysqld.myCnf", s, "spec.mysqld.myCnf can have only one mysqld section"⟩]
    else []

def hasValidSpec (nc : NdbCluster) : Bool × List FieldError :=
  let errList := nc.nodeCountErrors ++ nc.totalNodesErrors ++ nc.rootPasswordSecretErrors ++
    nc.myCnfErrors
  (errList.isEmpty, errList)

def isValidSpecUpdate (nc newNc : NdbCluster) : Bool × List FieldError :=
  if nc.spec.redundancyLevel.val = 1 then
    (false, [⟨.internal, "spec", "",
      "operator cannot handle any spec update to a MySQL Cluster whose replica is 1"⟩])
  else
    let nodeCount :=
      if nc.spec.nodeCount ≠ newNc.spec.nodeCount then
        [⟨.invalid, "spec.nodeCount", toString newNc.spec.nodeCount.val,
          if nc.spec.nodeCount.val < newNc.spec.nodeCount.val then
            "Online add node is not supported by the operator yet"
          else "spec.NodeCount cannot be reduced once MySQL Cluster has been started"⟩]
      else []
    let redundancy :=
      if nc.spec.redundancyLevel ≠ newNc.spec.redundancyLevel then
        [⟨.invalid, "spec.redundancyLevel", toString newNc.spec.redundancyLevel.val,
          "spec.redundancyLevel cannot be updated once MySQL Cluster has been started"⟩]
      else []
    let rootHost := match nc.spec.mysqld, newNc.spec.mysqld with
      | some m, some m' =>
        if m.rootHost ≠ m'.rootHost then
          [⟨.invalid, "spec.mysqld.rootHost", m'.rootHost,
            "spec.mysqld.rootHost cannot be updated once MySQL Cluster has been started"⟩]
        else []
      | _, _ => []
    let errList := nodeCount ++ redundancy ++ rootHost ++ newNc.hasValidSpec.2
    (errList.isEmpty, errList)

end NdbCluster

def wrappedTotalCluster : NdbCluster where
  name := "example"
  «namespace» := "default"
  generation := 1
  spec := ⟨2, 2, 2147483647, none, .empty, .empty⟩
  status := ⟨0, 0⟩

theorem hasValidSpec_accepts_wrapped_total :
    wrappedTotalCluster.hasValidSpec = (true, []) ∧
      maxNumberOfNodes < wrappedTotalCluster.nodeCountSum := by
  decide

end NdbOperator
