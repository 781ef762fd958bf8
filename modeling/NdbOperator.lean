import NdbOperator.Cluster
import NdbOperator.IniText
import NdbOperator.Validation
import NdbOperator.ConfigGenerator
import NdbOperator.ConfigReading
import NdbOperator.ConfigFile
import NdbOperator.Tick
import NdbOperator.Resources
import NdbOperator.Rollout
import NdbOperator.Sync
import NdbOperator.SyncGates
import NdbOperator.Converged
import NdbOperator.NodeIdentity
import NdbOperator.RollingRestart
import NdbOperator.DataNodeRollout
import NdbOperator.RolloutProgress
import NdbOperator.SpecUpdate
import NdbOperator.StatusConditions
import NdbOperator.MysqldController
import NdbOperator.StatefulSetTemplate
import NdbOperator.StatusProtocol
import NdbOperator.RootUserGeneration
import NdbOperator.ResourceCreation
