import NdbOperator.ConfigReading
import NdbOperator.Tick

set_option autoImplicit false

/-!
# The StatefulSet templates of the resources package

`statefulset.go` builds, for the `Ndb` resource of its package, the StatefulSet of the management
nodes and the one of the data nodes. Each pod runs the agent container, which mounts the data
volume and, when the resource brings its own config, the config volume. The containers that would
run `ndb_mgmd` and `ndbmtd` themselves are built too, but `NewStatefulSet` leaves them out; they
pass the nodes' fully qualified hostnames as comma-separated lists, which `getMgmdHostname` and
`getNdbdHostnames` print.

A hostname list splits at its commas back into the pods' hostnames, in pod order, when the names
hold no comma.
-/

namespace NdbOperator

namespace Resources

/-- What `statefulset.go` reads of its `Ndb`; the getters it calls are not under src/. -/
structure Ndb where
  name : String
  «namespace» : String
  mgmdNodeCount : Option Int32
  ndbdNodeCount : Option Int32
  noOfReplicas : Option Int32
  hasConfig : Bool
  configMapName : String
  serviceName : String
  managementNodeLabels : List (String × String)
  dataNodeLabels : List (String × String)

/-- Go's `*p`: a nil pointer panics. -/
def deref {α : Type} : Option α → Except Halt α
  | some v => .ok v
  | none => .error (.panic "invalid memory address or nil pointer dereference")

def mgmdVolumeName : String := "mgmdvolume"

def mgmdName : String := "mgmd"

def mgmdImage : String := "mysql-cluster"

def ndbdName : String := "ndbd"

def ndbAgentName : String := "ndb-agent"

def ndbAgentImage : String := "ndb-agent"

def ndbVersion : String := "1.0.0"

structure BaseStatefulSet where
  typeName : String
  clusterName : String

def newMgmdStatefulSet (cluster : Ndb) : BaseStatefulSet := ⟨"mgmd", cluster.name⟩

def newNdbdStatefulSet (cluster : Ndb) : BaseStatefulSet := ⟨"ndbd", cluster.name⟩

/-- A `v1.Container`; mount paths, pull policy and probes are left out. -/
structure Container where
  name : String
  image : String
  ports : List Nat
  volumeMounts : List String
  command : List String
  env : List (String × String)

inductive VolumeSource
  | emptyDir
  | configMap (name : String)

structure Volume where
  name : String
  source : VolumeSource

/-- The fields of the `apps.StatefulSet` that `NewStatefulSet` fills in. -/
structure StatefulSet where
  name : String
  labels : List (String × String)
  ownerKind : String
  selector : List (String × String)
  replicas : Option Int32
  templateName : String
  templateLabels : List (String × String)
  templateAnnotations : List (String × String)
  containers : List Container
  volumes : List Volume
  serviceAccountName : String
  serviceName : String

def volumeMounts (cluster : Ndb) : List String :=
  [mgmdVolumeName] ++ if cluster.hasConfig then ["config-volume"] else []

/-- `agentContainer`; `envVersion` is the value of `NDB_AGENT_VERSION`. -/
def agentContainer (ndb : Ndb) (ndbAgentImage buildVersion envVersion : String) : Container :=
  let agentVersion := if envVersion ≠ "" then envVersion else buildVersion
  { name := ndbAgentName
    image := ndbAgentImage ++ ":" ++ agentVersion
    ports := [8080]
    volumeMounts := volumeMounts ndb
    command := []
    env := [] }

namespace BaseStatefulSet

/-- The `fmt.Sprintf("%s-%d.%s.%s", ...)` of pod `i`. -/
def podHostname (bss : BaseStatefulSet) (suffix dnsZone : String) (i : Nat) : String :=
  bss.clusterName ++ suffix ++ "-" ++ toString i ++ "." ++ bss.clusterName ++ "." ++ dnsZone

/-- The loop that `getMgmdHostname` and `getNdbdHostnames` share. -/
def hostnames (bss : BaseStatefulSet) (ndb : Ndb) (suffix : String) (nodeCount : Option Int32) :
    Except Halt String := do
  let dnsZone := ndb.«namespace» ++ ".svc.cluster.local"
  let n ← deref nodeCount
  pure <| (List.range n.val.toNat).foldl (fun hostnames i =>
    (if i > 0 then hostnames ++ "," else hostnames) ++ bss.podHostname suffix dnsZone i) ""

def getMgmdHostname (bss : BaseStatefulSet) (ndb : Ndb) : Except Halt String :=
  bss.hostnames ndb "-mgmd" ndb.mgmdNodeCount

def getNdbdHostnames (bss : BaseStatefulSet) (ndb : Ndb) : Except Halt String :=
  bss.hostnames ndb "-ndbd" ndb.ndbdNodeCount

/-- `mgmdContainer`; `runWithEntrypoint` is the constant `false` of the source. -/
def mgmdContainer (bss : BaseStatefulSet) (ndb : Ndb) : Except Halt Container := do
  let runWithEntrypoint := false
  let imageName := mgmdImage ++ ":" ++ ndbVersion
  let (cmd, environment) ← if runWithEntrypoint then do
      let cmd := "/entrypoint.sh " ++ " ".intercalate ["ndb_mgmd"]
      let mgmdHostname ← bss.getMgmdHostname ndb
      let ndbdHostnames ← bss.getNdbdHostnames ndb
      let replicas ← deref ndb.noOfReplicas
      pure (cmd, [("NDB_REPLICAS", toString replicas.val), ("NDB_MGMD_HOSTS", mgmdHostname),
        ("NDB_NDBD_HOSTS", ndbdHostnames)])
    else
      pure ("/usr/sbin/ndb_mgmd " ++ " ".intercalate
        ["-f", "/var/lib/ndb/config/config.ini", "--configdir=/var/lib/ndb", "--initial",
          "--nodaemon", "-v"], [])
  pure { name := mgmdName
         image := imageName
         ports := [1186]
         volumeMounts := volumeMounts ndb
         command := ["/bin/bash", "-ecx", cmd]
         env := environment }

def ndbmtdContainer (bss : BaseStatefulSet) (ndb : Ndb) : Except Halt Container := do
  let cmd := "/entrypoint.sh " ++ " ".intercalate ["ndbmtd"]
  let mgmdHostname ← bss.getMgmdHostname ndb
  let imageName := mgmdImage ++ ":" ++ ndbVersion
  let replicas ← deref ndb.noOfReplicas
  pure { name := ndbdName
         image := imageName
         ports := [1186]
         volumeMounts := volumeMounts ndb
         command := ["/bin/bash", "-ecx", cmd]
         env := [("NDB_REPLICAS", toString replicas.val), ("NDB_MGMD_HOSTS", mgmdHostname)] }

def getName (bss : BaseStatefulSet) : String := bss.clusterName ++ "-" ++ bss.typeName

def newStatefulSet (bss : BaseStatefulSet) (ndb : Ndb) (buildVersion envVersion : String) :
    StatefulSet :=
  let podVolumes : List Volume :=
    [⟨mgmdVolumeName, .emptyDir⟩, ⟨"config-volume", .configMap ndb.configMapName⟩]
  let serviceaccount := "ndb-agent"
  let (containers, replicas, podLabels) :=
    if bss.typeName = "mgmd" then
      ([agentContainer ndb ndbAgentImage buildVersion envVersion], ndb.mgmdNodeCount,
        ndb.managementNodeLabels)
    else
      ([agentContainer ndb ndbAgentImage buildVersion envVersion], ndb.ndbdNodeCount,
        ndb.dataNodeLabels)
  { name := bss.getName
    labels := podLabels
    ownerKind := "Ndb"
    selector := podLabels
    replicas := replicas
    templateName := bss.getName
    templateLabels := podLabels
    templateAnnotations := []
    containers := containers
    volumes := podVolumes
    serviceAccountName := if serviceaccount ≠ "" then "ndb-agent" else ""
    serviceName := ndb.serviceName }

/-! ## The hostname lists -/

theorem intercalate_singleton_cons {α : Type} (c : α) (x : List α) (xs : List (List α)) :
    [c].intercalate (x :: xs) = x ++ xs.flatMap (c :: ·) := by
  induction xs generalizing x with
  | nil => simp [List.intercalate]
  | cons y ys ih =>
    simp only [List.intercalate, List.intersperse_cons_cons, List.flatten_cons] at ih ⊢
    simp [ih]

theorem foldl_hostnames_of_pos (bss : BaseStatefulSet) (suffix dnsZone : String) :
    ∀ (acc : String) (l : List Nat), (∀ i ∈ l, 0 < i) →
      (l.foldl (fun hostnames i =>
        (if i > 0 then hostnames ++ "," else hostnames) ++ bss.podHostname suffix dnsZone i)
          acc).data = acc.data ++ l.flatMap fun i => ',' :: (bss.podHostname suffix dnsZone i).data
  | _, [], _ => by simp
  | acc, i :: l, h => by
    rw [List.foldl_cons, if_pos (h i (List.mem_cons_self _ _)),
      foldl_hostnames_of_pos bss suffix dnsZone _ l fun j hj => h j (List.mem_cons_of_mem _ hj)]
    simp

theorem hostnames_eq (bss : BaseStatefulSet) (ndb : Ndb) (suffix : String)
    (nodeCount : Option Int32) :
    bss.hostnames ndb suffix nodeCount = (deref nodeCount).map fun n =>
      ⟨[','].intercalate ((List.range n.val.toNat).map fun i =>
        (bss.podHostname suffix (ndb.«namespace» ++ ".svc.cluster.local") i).data)⟩ := by
  rcases nodeCount with _ | n
  · rfl
  simp only [hostnames, deref, bind, Except.bind, pure, Except.pure, Except.map]
  congr 1
  apply String.ext
  rcases n.val.toNat with _ | k
  · rfl
  rw [List.range_succ_eq_map, List.foldl_cons, List.map_cons, intercalate_singleton_cons,
    foldl_hostnames_of_pos _ _ _ _ _ fun i hi => by
      obtain ⟨j, -, rfl⟩ := List.mem_map.mp hi
      exact Nat.succ_pos j]
  simp [List.flatMap_map]

theorem comma_not_mem_toString (i : Nat) : ',' ∉ (toString i).data := fun hm => by
  have := digit_of_mem_toDigitsCore (i + 1) i [] (by simp) ',' hm
  revert this
  decide

/-- A hostname list splits at its commas into the pods' hostnames, in pod order. -/
theorem hostnames_splitOn {bss : BaseStatefulSet} {ndb : Ndb} {suffix : String}
    {nodeCount : Option Int32} {n : Int32} (hn : nodeCount = some n) (hpos : 0 < n.val)
    (hname : ',' ∉ bss.clusterName.data) (hsuffix : ',' ∉ suffix.data)
    (hns : ',' ∉ ndb.«namespace».data) :
    ∃ s, bss.hostnames ndb suffix nodeCount = .ok s ∧
      (s.data.splitOn ',').map String.mk = (List.range n.val.toNat).map
        (bss.podHostname suffix (ndb.«namespace» ++ ".svc.cluster.local")) := by
  refine ⟨_, by rw [hostnames_eq, hn]; rfl, ?_⟩
  rw [List.splitOn_intercalate, List.map_map]
  · rfl
  · simp only [List.mem_map, List.mem_range]
    rintro _ ⟨i, -, rfl⟩
    simp [podHostname, hname, hsuffix, hns, comma_not_mem_toString]
  · simpa using hpos

end BaseStatefulSet

def twoManagementNodes : Ndb where
  name := "example"
  «namespace» := "default"
  mgmdNodeCount := some 2
  ndbdNodeCount := some 2
  noOfReplicas := some 2
  hasConfig := false
  configMapName := "example-config"
  serviceName := "example"
  managementNodeLabels := []
  dataNodeLabels := []

theorem twoManagementNodes_hostnames :
    ∃ s, (newMgmdStatefulSet twoManagementNodes).hostnames twoManagementNodes "-mgmd"
        twoManagementNodes.mgmdNodeCount = .ok s ∧
      (s.data.splitOn ',').map String.mk =
        ["example-mgmd-0.example.default.svc.cluster.local",
          "example-mgmd-1.example.default.svc.cluster.local"] :=
  BaseStatefulSet.hostnames_splitOn rfl (by decide) (by decide) (by decide) (by decide)

end Resources

end NdbOperator
