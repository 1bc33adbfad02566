import SparkX.Cluster.Coordinator.Cancellation
import SparkX.Shared.Distinct

set_option autoImplicit false

-- `control_plane.rs`: the Flight service keeps the coordinator and the messages that wait for a
-- worker under two locks. `do_action` takes them one after the other, so an action of two critical
-- sections appears here as an action that is under way, and any other event may come between.

namespace SparkX

open Std

def PartitionRuntime.activeWorker : PartitionRuntime → Option WorkerId
  | .active _ workerId _ _ => some workerId
  | _ => none

namespace Coordinator

def activeWorkersForQuery (c : Coordinator) (queryId : QueryId) :
    Except SparkXError (List WorkerId) := do
  rejectIf (!c.hasQuery queryId) <| SparkXError.notFound
    s!"query {queryId.value} is not registered with the coordinator"
  let stages := c.stages.toList.filter (·.1.1 == queryId)
  let workers := (stages.flatMap (·.2.partitions)).filterMap PartitionRuntime.activeWorker
  return Distinct.dedup (workers.insertionSort fun left right => compare left right ≠ .gt)

-- The critical section of a cancellation: the lease holders as they are when the query is
-- cancelled.
def cancelHolders [PhysicalPlanCodec] (queryId : QueryId) (reason : String) :
    Stateful Fault Coordinator (CoordinatorMessage × List WorkerId) := do
  let workers ← (← get).activeWorkersForQuery queryId
  let message ← cancelQuery queryId reason
  return (message, workers)

end Coordinator

-- Where an action of two critical sections stands.
inductive ActionState where
  | polling (workerId : WorkerId)
  | cancelling (message : CoordinatorMessage) (workers : List WorkerId)
  | finished
deriving DecidableEq

structure ControlPlane where
  coordinator : Coordinator
  pendingMessages : TreeMap WorkerId (List CoordinatorMessage)
  actions : List ActionState

-- One critical section: an action begins, or goes on with its second lock.
inductive ControlEvent where
  | submitStage (stage : StagePlan)
  | workerMessage (message : WorkerMessage) (receivedAtMs : U64)
  | pollAssignment (workerId : WorkerId) (acceptTasks : Bool)
  | cancelQuery (queryId : QueryId) (reason : String)
  | resume (action : Nat) (nowMs : U64)
deriving DecidableEq

inductive ControlReply where
  | accepted
  | assignment (message : Option CoordinatorMessage)
  | cancellation (message : CoordinatorMessage)
  | underWay
deriving DecidableEq

def maxControlMessageBytes : Nat := 96 * 1024 * 1024

def ControlReply.toJson : ControlReply → List Char
  | .accepted => jsonObject [("accepted", "true".toList)]
  | .assignment message => jsonObject [("assignment", message.elim "null".toList CoordinatorMessage.toJson)]
  | .cancellation message => message.toJson
  | .underWay => []

def ControlReply.bytes (reply : ControlReply) : Nat := (reply.toJson.map Char.utf8Size).sum

-- The action has done its work when the size of its response is checked.
def encodeResponse (reply : ControlReply) : Except Fault ControlReply := do
  rejectIf (maxControlMessageBytes < reply.bytes) <| Fault.error <| .resourceExhausted
    s!"control response is {reply.bytes} bytes; maximum is {maxControlMessageBytes}"
  return reply

namespace ControlPlane

def new (config : CoordinatorConfig) : Except SparkXError ControlPlane := do
  return { coordinator := ← Coordinator.new config, pendingMessages := ∅, actions := [] }

def queue (plane : ControlPlane) (workerId : WorkerId) : List CoordinatorMessage :=
  (plane.pendingMessages[workerId]?).getD []

def onCoordinator {α : Type} (x : Stateful Fault Coordinator α) : Stateful Fault ControlPlane α :=
  fun plane =>
    let (result, coordinator) := x.run plane.coordinator
    (result, { plane with coordinator })

-- `get_mut(&worker_id).and_then(VecDeque::pop_front)`
def popMessage (workerId : WorkerId) : Stateful Fault ControlPlane (Option CoordinatorMessage) := do
  let plane ← get
  match plane.pendingMessages[workerId]? with
  | some (message :: rest) =>
    set { plane with pendingMessages := plane.pendingMessages.insert workerId rest }
    return some message
  | _ => return none

-- `pending.entry(worker_id).or_default().push_back(message.clone())`
def pushMessage (message : CoordinatorMessage) (plane : ControlPlane) (workerId : WorkerId) :
    ControlPlane :=
  { plane with
    pendingMessages := plane.pendingMessages.insert workerId (plane.queue workerId ++ [message]) }

def start (action : ActionState) : Stateful Fault ControlPlane Unit :=
  modify fun plane => { plane with actions := plane.actions ++ [action] }

def finish (action : Nat) : Stateful Fault ControlPlane Unit :=
  modify fun plane => { plane with actions := plane.actions.set action .finished }

variable [PhysicalPlanCodec]

def pollAssignment (workerId : WorkerId) (acceptTasks : Bool) :
    Stateful Fault ControlPlane ControlReply := do
  match ← popMessage workerId with
  | some message => return .assignment (some message)
  | none =>
    if !acceptTasks then return .assignment none
    else
      start (.polling workerId)
      return .underWay

def cancelQuery (queryId : QueryId) (reason : String) : Stateful Fault ControlPlane ControlReply := do
  let (message, workers) ← onCoordinator (Coordinator.cancelHolders queryId reason)
  if workers = [] then return .cancellation message
  else
    start (.cancelling message workers)
    return .underWay

def resume (action : Nat) (nowMs : U64) : Stateful Fault ControlPlane ControlReply := do
  match (← get).actions[action]? with
  | some (.polling workerId) =>
    finish action
    return .assignment (← onCoordinator (Coordinator.nextAssignmentFor workerId nowMs))
  | some (.cancelling message workers) =>
    modify fun plane => workers.foldl (pushMessage message) plane
    finish action
    return .cancellation message
  | _ => return .underWay

def respond : ControlEvent → Stateful Fault ControlPlane ControlReply
  | .submitStage stage => do
    onCoordinator (Coordinator.submitStage stage)
    return .accepted
  | .workerMessage message receivedAtMs => do
    onCoordinator (Coordinator.handleWorkerMessage message receivedAtMs)
    return .accepted
  | .pollAssignment workerId acceptTasks => pollAssignment workerId acceptTasks
  | .cancelQuery queryId reason => cancelQuery queryId reason
  | .resume action nowMs => resume action nowMs

-- The critical sections, with what they have to say before its size is checked.
def sections : Machine ControlPlane ControlEvent (Except Fault ControlReply) where
  step event plane := (respond event).run plane

-- A body that is too long or that does not decode is answered before any lock is taken: no event.
def doAction (event : ControlEvent) : Stateful Fault ControlPlane ControlReply := fun plane =>
  (sections.output event plane >>= encodeResponse, sections.next event plane)

def service : Machine ControlPlane ControlEvent (Except Fault ControlReply) where
  step event plane := (doAction event).run plane

end ControlPlane

end SparkX
