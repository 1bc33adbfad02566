import SparkX.Cluster.Coordinator.Status
import SparkX.Cluster.Handoff
import SparkX.Cluster.LocalCluster.Loop
import SparkX.Cluster.PlanCodec.Typed
import SparkX.Cluster.PlanCodec.Panics
import SparkX.Cluster.PlanCodec.Planned
import SparkX.Cluster.Partial.Phases
import SparkX.Storage.Floats
import SparkX.Cluster.BlockStore.Durable
import SparkX.Cluster.WorkerLoop.Slots
import SparkX.Cluster.Remote.Routing
import SparkX.Runtime.Joined
import SparkX.Runtime.Reference
import SparkX.Query.Preserved
import SparkX.Storage.Scans
import SparkX.Cluster.DataPlane.Chunks
import SparkX.Runtime.Memory
import SparkX.Cluster.DataPlane.Uploads
import SparkX.Query.Joins
import SparkX.Query.Clauses
import SparkX.Query.Fixpoint
import SparkX.Runtime.Scanning
import SparkX.Cluster.Coordinator.Progress
import SparkX.Cluster.Remote.Joined
import SparkX.Runtime.Ordered
