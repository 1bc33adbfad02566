import SparkX.Cluster.ControlPlane.Model

set_option autoImplicit false

namespace SparkX

open Std

variable {c : Coordinator} {workers : List WorkerId}

namespace Coordinator

def HoldsActive (c : Coordinator) (queryId : QueryId) (workerId : WorkerId) : Prop :=
  ∃ (stageId : StageId) (index : Nat) (task : TaskAttemptId) (lease : TaskLease) (startedAtMs : Option U64),
    c.partition? (queryId, stageId) index = some (.active task workerId lease startedAtMs)

theorem mem_stagePartitions {queryId : QueryId} {partition : PartitionRuntime} :
    partition ∈ (c.stages.toList.filter (·.1.1 == queryId)).flatMap (·.2.partitions) ↔
      ∃ (stageId : StageId) (index : Nat), c.partition? (queryId, stageId) index = some partition := by
  simp only [List.mem_flatMap, List.mem_filter, beq_iff_eq, partition?_eq_some]
  constructor
  · rintro ⟨⟨⟨_, stageId⟩, stage⟩, ⟨member, rfl⟩, there⟩
    obtain ⟨index, found⟩ := List.mem_iff_getElem?.mp there
    exact ⟨stageId, index, stage, OrderedMap.mem_toList.mp member, found⟩
  · rintro ⟨stageId, index, stage, stored, found⟩
    exact ⟨⟨(queryId, stageId), stage⟩, ⟨OrderedMap.mem_toList.mpr stored, rfl⟩,
      List.mem_of_getElem? found⟩

instance : Std.Total fun left right : WorkerId => compare left right ≠ .gt where
  total left right := by
    rw [OrientedOrd.eq_swap (a := right) (b := left)]
    cases compare left right <;> simp

instance : IsTrans WorkerId fun left right => compare left right ≠ .gt where
  trans _ _ _ first second :=
     Ordering.isLE_iff_ne_gt.mp
      (TransOrd.isLE_trans (Ordering.isLE_iff_ne_gt.mpr first) (Ordering.isLE_iff_ne_gt.mpr second))

theorem activeWorkersForQuery_ok {queryId : QueryId} (found : c.activeWorkersForQuery queryId = .ok workers) :
    workers.Nodup ∧ ∀ workerId, workerId ∈ workers ↔ c.HoldsActive queryId workerId := by
  obtain ⟨_, found⟩ := check_ok.mp found
  obtain rfl := pure_eq_ok.mp found
  constructor
  · refine Distinct.nodup_dedup ?_ (List.pairwise_insertionSort _ _)
    intro first second below above
    rw [OrientedOrd.eq_swap (a := second) (b := first)] at above
    apply LawfulEqOrd.eq_of_compare
    cases order : compare first second with
    | eq => rfl
    | lt => simp [order] at above
    | gt => exact absurd order below
  · intro workerId
    rw [Distinct.mem_dedup, (List.perm_insertionSort _ _).mem_iff, List.mem_filterMap]
    constructor
    · rintro ⟨partition, member, active⟩
      obtain ⟨stageId, index, present⟩ := mem_stagePartitions.mp member
      cases partition with
      | active task holder lease startedAtMs =>
        cases active
        exact ⟨stageId, index, task, lease, startedAtMs, present⟩
      | _ => exact nomatch active
    · rintro ⟨stageId, index, task, lease, startedAtMs, present⟩
      exact ⟨_, mem_stagePartitions.mpr ⟨stageId, index, present⟩, rfl⟩

theorem cancelHolders_yields [PhysicalPlanCodec] (c : Coordinator) (queryId : QueryId)
    (reason : String) :
    (cancelHolders queryId reason).Yields c fun result next =>
      (∃ fault, result = .error fault ∧ next = c) ∨
      ∃ workers reply, c.activeWorkersForQuery queryId = .ok workers ∧
        machine.output (.cancelQuery queryId reason) c = .ok reply ∧
        result = .ok (.cancelQuery protocolVersion queryId reason, workers) ∧
        next = machine.next (.cancelQuery queryId reason) c := by
  have effect := cancelQuery_yields (c := c) queryId reason
  have performed := Stateful.run_bind_map (cancelQuery queryId reason) Reply.cancellation c
  apply Stateful.Yields.get
  apply yields_check
  · exact fun error _ => .inl ⟨_, rfl, rfl⟩
  intro workers holders
  apply Stateful.Yields.bind
  · intro fault next ran
    rw [Stateful.Yields, ran] at effect
    cases effect with
    | rejected => exact .inl ⟨_, rfl, rfl⟩
  · intro message next ran
    rw [Stateful.Yields, ran] at effect
    rw [ran] at performed
    have named : message = .cancelQuery protocolVersion queryId reason := by
      cases effect with
      | recancelled | cancelled => rfl
    subst named
    exact .inr ⟨workers, _, holders, congrArg Prod.fst performed, rfl,
      (congrArg Prod.snd performed).symm⟩

end Coordinator

namespace ControlPlane

theorem queue_insert (plane : ControlPlane) (workerId other : WorkerId)
    (messages : List CoordinatorMessage) :
    { plane with pendingMessages := plane.pendingMessages.insert workerId messages }.queue other =
      if workerId = other then messages else plane.queue other := by
  simp only [queue, OrderedMap.getElem?_insert]
  split
  next => rfl
  next => rfl

theorem queue_push (message : CoordinatorMessage) (workers : List WorkerId) (plane : ControlPlane)
    (workerId : WorkerId) :
    (workers.foldl (pushMessage message) plane).queue workerId =
      plane.queue workerId ++ List.replicate (workers.count workerId) message := by
  induction workers generalizing plane with
  | nil => simp
  | cons first rest ih =>
    rw [List.foldl_cons, ih, pushMessage, queue_insert, List.count_cons]
    by_cases here : first = workerId
    · subst here
      rw [if_pos rfl, beq_self_eq_true, if_pos rfl, List.append_assoc, List.singleton_append,
        ← List.replicate_succ]
    · rw [if_neg here, if_neg (by simpa using here), Nat.add_zero]

theorem push_rest (message : CoordinatorMessage) (workers : List WorkerId) (plane : ControlPlane) :
    workers.foldl (pushMessage message) plane =
      { plane with pendingMessages := (workers.foldl (pushMessage message) plane).pendingMessages } := by
  induction workers generalizing plane with
  | nil => rfl
  | cons first rest ih => exact ih (pushMessage message plane first)

variable [PhysicalPlanCodec]

def relay : Except Fault Reply → Except Fault ControlReply
  | .ok .done => .ok .accepted
  | .ok (.assignment message) => .ok (.assignment message)
  | .ok (.cancellation message) => .ok (.cancellation message)
  | .error fault => .error fault

inductive Progress (plane : ControlPlane) :
    ControlEvent → Except Fault ControlReply → ControlPlane → Prop where
  | submitted (stage : StagePlan) :
    Progress plane (.submitStage stage)
      (relay (Coordinator.machine.output (.submitStage stage) plane.coordinator))
      { plane with coordinator := Coordinator.machine.next (.submitStage stage) plane.coordinator }
  | informed (message : WorkerMessage) (receivedAtMs : U64) :
    Progress plane (.workerMessage message receivedAtMs)
      (relay (Coordinator.machine.output (.workerMessage message receivedAtMs) plane.coordinator))
      { plane with
        coordinator := Coordinator.machine.next (.workerMessage message receivedAtMs) plane.coordinator }
  | taken {workerId : WorkerId} (acceptTasks : Bool) {message : CoordinatorMessage}
    {rest : List CoordinatorMessage} (queued : plane.queue workerId = message :: rest) :
    Progress plane (.pollAssignment workerId acceptTasks) (.ok (.assignment (some message)))
      { plane with pendingMessages := plane.pendingMessages.insert workerId rest }
  | declined {workerId : WorkerId} (empty : plane.queue workerId = []) :
    Progress plane (.pollAssignment workerId false) (.ok (.assignment none)) plane
  | asked {workerId : WorkerId} (empty : plane.queue workerId = []) :
    Progress plane (.pollAssignment workerId true) (.ok .underWay)
      { plane with actions := plane.actions ++ [.polling workerId] }
  | refused (queryId : QueryId) (reason : String) (fault : Fault) :
    Progress plane (.cancelQuery queryId reason) (.error fault) plane
  | cancelled {queryId : QueryId} {reason : String} {workers : List WorkerId} {reply : Reply}
    (holders : plane.coordinator.activeWorkersForQuery queryId = .ok workers)
    (accepted : Coordinator.machine.output (.cancelQuery queryId reason) plane.coordinator = .ok reply) :
    Progress plane (.cancelQuery queryId reason)
      (.ok (if workers = [] then .cancellation (.cancelQuery protocolVersion queryId reason)
        else .underWay))
      { plane with
        coordinator := Coordinator.machine.next (.cancelQuery queryId reason) plane.coordinator
        actions := if workers = [] then plane.actions
          else plane.actions ++ [.cancelling (.cancelQuery protocolVersion queryId reason) workers] }
  | polled {action : Nat} {workerId : WorkerId} (nowMs : U64)
    (waiting : plane.actions[action]? = some (.polling workerId)) :
    Progress plane (.resume action nowMs)
      (relay (Coordinator.machine.output (.nextAssignmentFor workerId nowMs) plane.coordinator))
      { plane with
        coordinator := Coordinator.machine.next (.nextAssignmentFor workerId nowMs) plane.coordinator
        actions := plane.actions.set action .finished }
  | announced {action : Nat} {message : CoordinatorMessage} {workers : List WorkerId} (nowMs : U64)
    (waiting : plane.actions[action]? = some (.cancelling message workers)) :
    Progress plane (.resume action nowMs) (.ok (.cancellation message))
      { plane with
        pendingMessages := (workers.foldl (pushMessage message) plane).pendingMessages
        actions := plane.actions.set action .finished }
  | nothing (action : Nat) (nowMs : U64) :
    Progress plane (.resume action nowMs) (.ok .underWay) plane

theorem pollAssignment_progress (plane : ControlPlane) (workerId : WorkerId) (acceptTasks : Bool) :
    (pollAssignment workerId acceptTasks).Yields plane
      (Progress plane (.pollAssignment workerId acceptTasks)) := by
  have popped : (popMessage workerId).Yields plane fun result next =>
      (∃ message rest, plane.queue workerId = message :: rest ∧ result = .ok (some message) ∧
        next = { plane with pendingMessages := plane.pendingMessages.insert workerId rest }) ∨
      (plane.queue workerId = [] ∧ result = .ok none ∧ next = plane) := by
    unfold popMessage
    apply Stateful.Yields.get
    split
    next message rest found =>
      apply Stateful.Yields.set
      exact .inl ⟨message, rest, by simp [queue, found], rfl, rfl⟩
    next other =>
      refine .inr ⟨?_, rfl, rfl⟩
      rw [queue]
      cases found : plane.pendingMessages[workerId]? with
      | none => rfl
      | some messages =>
        cases messages with
        | nil => rfl
        | cons message rest => exact absurd found (other message rest)
  unfold pollAssignment
  apply popped.seq
  · rintro fault next (⟨_, _, _, failed, _⟩ | ⟨_, failed, _⟩)
    · exact nomatch failed
    · exact nomatch failed
  · rintro result next (⟨message, rest, queued, same, rfl⟩ | ⟨empty, same, rfl⟩)
    · cases same
      exact .taken acceptTasks queued
    · cases same
      cases acceptTasks with
      | false => exact .declined empty
      | true => exact .asked empty

omit [PhysicalPlanCodec] in
theorem yields_onCoordinator {α β : Type} {x : Stateful Fault Coordinator α} {plane : ControlPlane}
    {f : α → Stateful Fault ControlPlane β} {first : Except Fault α → Coordinator → Prop}
    {post : Except Fault β → ControlPlane → Prop} (yields : x.Yields plane.coordinator first)
    (failed : ∀ fault coordinator, first (.error fault) coordinator →
      post (.error fault) { plane with coordinator })
    (passed : ∀ value coordinator, first (.ok value) coordinator →
      (f value).Yields { plane with coordinator } post) :
    (onCoordinator x >>= f).Yields plane post := by
  have lifted : (onCoordinator x).Yields plane fun result next =>
      ∃ coordinator, first result coordinator ∧ next = { plane with coordinator } :=
    ⟨_, yields, rfl⟩
  apply lifted.seq
  · rintro fault _ ⟨coordinator, known, rfl⟩
    exact failed fault coordinator known
  · rintro value _ ⟨coordinator, known, rfl⟩
    exact passed value coordinator known

theorem cancelQuery_progress (plane : ControlPlane) (queryId : QueryId) (reason : String) :
    (cancelQuery queryId reason).Yields plane (Progress plane (.cancelQuery queryId reason)) := by
  apply yields_onCoordinator (Coordinator.cancelHolders_yields plane.coordinator queryId reason)
  · rintro fault coordinator (⟨_, _, rfl⟩ | ⟨_, _, _, _, same, _⟩)
    · exact .refused queryId reason fault
    · exact nomatch same
  · rintro ⟨message, workers⟩ coordinator (⟨_, failed, _⟩ | ⟨found, reply, holders, accepted, same, rfl⟩)
    · exact nomatch failed
    · cases same
      have progress := Progress.cancelled holders accepted
      dsimp only
      split
      next none =>
        rw [if_pos none, if_pos none] at progress
        exact progress
      next some =>
        rw [if_neg some, if_neg some] at progress
        exact progress

theorem call_progress {α : Type} (operation : Operation) {x : Stateful Fault Coordinator α}
    {f : α → Reply} {g : α → ControlReply} (performs : Coordinator.perform operation = x >>= fun a => pure (f a))
    (same : ∀ a, relay (.ok (f a)) = .ok (g a)) (plane : ControlPlane) :
    (onCoordinator x >>= fun a => pure (g a)).run plane =
      (relay (Coordinator.machine.output operation plane.coordinator),
        { plane with coordinator := Coordinator.machine.next operation plane.coordinator }) := by
  have machine : (Coordinator.perform operation).run plane.coordinator =
      ((x.run plane.coordinator).1.map f, (x.run plane.coordinator).2) := by
    rw [performs, Stateful.run_bind_map]
  change _ = (relay ((Coordinator.perform operation).run plane.coordinator).1,
    { plane with coordinator := ((Coordinator.perform operation).run plane.coordinator).2 })
  rw [machine, Stateful.run_bind_map]
  change (((x.run plane.coordinator).1.map g), _) = _
  cases (x.run plane.coordinator).1 with
  | error fault => rfl
  | ok value => rw [Except.map, Except.map, same]; rfl

theorem resume_progress (plane : ControlPlane) (action : Nat) (nowMs : U64) :
    (resume action nowMs).Yields plane (Progress plane (.resume action nowMs)) := by
  unfold resume
  apply Stateful.Yields.get
  split
  next workerId waiting =>
    apply Stateful.Yields.modify
    rw [Stateful.Yields, call_progress (.nextAssignmentFor workerId nowMs) rfl fun _ => rfl]
    exact .polled nowMs waiting
  next message workers waiting =>
    apply Stateful.Yields.modify
    apply Stateful.Yields.modify
    rw [push_rest]
    exact .announced nowMs waiting
  next => exact .nothing action nowMs

theorem respond_progress (plane : ControlPlane) (event : ControlEvent) :
    (respond event).Yields plane (Progress plane event) := by
  cases event with
  | submitStage stage =>
    rw [respond, Stateful.Yields, call_progress (.submitStage stage) rfl fun _ => rfl]
    exact .submitted stage
  | workerMessage message receivedAtMs =>
    rw [respond, Stateful.Yields, call_progress (.workerMessage message receivedAtMs) rfl fun _ => rfl]
    exact .informed message receivedAtMs
  | pollAssignment workerId acceptTasks => exact pollAssignment_progress plane workerId acceptTasks
  | cancelQuery queryId reason => exact cancelQuery_progress plane queryId reason
  | resume action nowMs => exact resume_progress plane action nowMs

variable {message : CoordinatorMessage} {holders : List WorkerId}

section

abbrev History := List (ControlEvent × Except Fault ControlReply)

def takenBy (workerId : WorkerId) : ControlEvent × Except Fault ControlReply → Option CoordinatorMessage
  | (.pollAssignment polled _, .ok (.assignment (some message))) =>
    if polled = workerId then some message else none
  | _ => none

-- All messages ever queued for a worker: those its polls returned and those that wait.
def mailbox (history : History) (plane : ControlPlane) (workerId : WorkerId) :
    List CoordinatorMessage :=
  history.filterMap (takenBy workerId) ++ plane.queue workerId

variable {plane next : ControlPlane} {event : ControlEvent} {reply : Except Fault ControlReply}

-- What a critical section does to the messages: a message leaves its queue only at the head and
-- into the answer of a poll, and new ones come at the end, from a cancellation that was under way.
inductive Traffic (history : History) (plane : ControlPlane) (event : ControlEvent)
    (reply : Except Fault ControlReply) (next : ControlPlane) : Prop where
  | quiet (same : ∀ workerId,
      mailbox (history ++ [(event, reply)]) next workerId = mailbox history plane workerId)
    (cancelling : ∀ (action : Nat) message workers,
      next.actions[action]? = some (.cancelling message workers) ↔
        plane.actions[action]? = some (.cancelling message workers))
    (finished : ∀ action : Nat, plane.actions[action]? = some .finished →
      next.actions[action]? = some .finished)
  | begun (queryId : QueryId) (reason : String) (workers : List WorkerId)
    (called : event = .cancelQuery queryId reason)
    (holders : plane.coordinator.activeWorkersForQuery queryId = .ok workers) (some : workers ≠ [])
    (member : queryId ∈ next.coordinator.cancelledQueries)
    (same : ∀ workerId,
      mailbox (history ++ [(event, reply)]) next workerId = mailbox history plane workerId)
    (added : next.actions =
      plane.actions ++ [.cancelling (.cancelQuery protocolVersion queryId reason) workers])
  | announced (action : Nat) (message : CoordinatorMessage) (workers : List WorkerId)
    (waiting : plane.actions[action]? = some (.cancelling message workers))
    (pushed : ∀ workerId, mailbox (history ++ [(event, reply)]) next workerId =
      mailbox history plane workerId ++ List.replicate (workers.count workerId) message)
    (done : next.actions = plane.actions.set action .finished)

variable {history : History} {workerId : WorkerId}

omit [PhysicalPlanCodec] in
theorem mailbox_silent (silent : takenBy workerId (event, reply) = none) :
    mailbox (history ++ [(event, reply)]) next workerId =
      history.filterMap (takenBy workerId) ++ next.queue workerId := by
  simp only [mailbox, List.filterMap_append, List.filterMap_cons, silent, List.filterMap_nil,
    List.append_nil]

variable {action : Nat}

variable {actions : List ActionState}

omit [PhysicalPlanCodec] in
theorem getElem?_add_polling {state : ActionState} (other : state ≠ .polling workerId) :
    (actions ++ [.polling workerId])[action]? = some state ↔ actions[action]? = some state := by
  rw [List.getElem?_append]
  split
  next => rfl
  next outside =>
    rw [List.getElem?_eq_none (Nat.le_of_not_lt outside)]
    cases action - actions.length with
    | zero => simp [Ne.symm other]
    | succ => simp

omit [PhysicalPlanCodec] in
theorem getElem?_set_finished {place : Nat} (polling : actions[place]? = some (.polling workerId)) :
    (actions.set place .finished)[action]? = some (.cancelling message workers) ↔
      actions[action]? = some (.cancelling message workers) := by
  rw [List.getElem?_set]
  split
  next same =>
    subst same
    simp [polling]
  next => rfl

theorem Progress.traffic (progress : Progress plane event reply next) (history : History)
    (ok : plane.coordinator.WellFormed) : Traffic history plane event reply next := by
  cases progress with
  | submitted | informed | refused | declined | nothing =>
    exact .quiet (fun _ => mailbox_silent rfl) (fun _ _ _ => Iff.rfl) fun _ known => known
  | taken acceptTasks queued =>
    rename_i polled message rest
    refine .quiet (fun workerId => ?_) (fun _ _ _ => Iff.rfl) fun _ known => known
    simp only [mailbox, List.filterMap_append, List.filterMap_cons, List.filterMap_nil, takenBy,
      queue_insert]
    by_cases here : polled = workerId
    · subst here
      simp [queued]
    · simp [here]
  | asked =>
    exact .quiet (fun _ => mailbox_silent rfl) (fun _ _ _ => getElem?_add_polling nofun)
      fun _ known => (getElem?_add_polling (by simp)).mpr known
  | polled nowMs waiting =>
    refine .quiet (fun _ => mailbox_silent rfl) (fun _ _ _ => getElem?_set_finished waiting) ?_
    intro action known
    rw [List.getElem?_set]
    split
    next same =>
      subst same
      rw [waiting] at known
      exact nomatch known
    next => exact known
  | cancelled holders accepted =>
    rename_i queryId reason workers answer
    by_cases none : workers = []
    · simp only [if_pos none]
      exact .quiet (fun _ => mailbox_silent rfl) (fun _ _ _ => Iff.rfl) fun _ known => known
    · simp only [if_neg none]
      exact .begun queryId reason workers rfl holders none
        (Coordinator.cancelQuery_accepted ok accepted).1 (fun _ => mailbox_silent rfl) rfl
  | announced nowMs waiting =>
    rename_i action message workers
    refine .announced action message workers waiting (fun workerId => ?_) rfl
    rw [mailbox_silent rfl, mailbox, List.append_assoc, ← queue_push]
    rfl

theorem Progress.coordinator (progress : Progress plane event reply next)
    (ok : plane.coordinator.WellFormed) : next.coordinator.WellFormed ∧
      ∀ queryId ∈ plane.coordinator.cancelledQueries, queryId ∈ next.coordinator.cancelledQueries := by
  have step (operation : Operation) :
      (Coordinator.machine.next operation plane.coordinator).WellFormed ∧
        ∀ queryId ∈ plane.coordinator.cancelledQueries,
          queryId ∈ (Coordinator.machine.next operation plane.coordinator).cancelledQueries :=
    ⟨Coordinator.next_wellFormed ok operation,
      fun _ member => Coordinator.next_cancelledQueries ok operation member⟩
  cases progress with
  | submitted | informed | polled | cancelled => exact step _
  | taken | declined | asked | refused | announced | nothing => exact ⟨ok, fun _ member => member⟩

def cancels (queryId : QueryId) : CoordinatorMessage → Bool
  | .cancelQuery _ cancelled _ => cancelled = queryId
  | .assignTask .. => false

def Announces (c : Coordinator) (message : CoordinatorMessage) : Prop :=
  ∃ queryId reason, message = .cancelQuery protocolVersion queryId reason ∧
    queryId ∈ c.cancelledQueries

structure Announced (history : History) (plane : ControlPlane) : Prop where
  formed : plane.coordinator.WellFormed
  messages : ∀ workerId, ∀ message ∈ mailbox history plane workerId, Announces plane.coordinator message
  underWay : ∀ (action : Nat) message workers, plane.actions[action]? = some (.cancelling message workers) →
    Announces plane.coordinator message

theorem Announced.step (announced : Announced history plane) (progress : Progress plane event reply next) :
    Announced (history ++ [(event, reply)]) next := by
  obtain ⟨formed, cancelled⟩ := progress.coordinator announced.formed
  have still {message : CoordinatorMessage} (known : Announces plane.coordinator message) :
      Announces next.coordinator message := by
    obtain ⟨queryId, reason, same, member⟩ := known
    exact ⟨queryId, reason, same, cancelled queryId member⟩
  constructor
  case formed => exact formed
  case messages =>
    intro workerId message member
    cases progress.traffic history announced.formed with
    | quiet same | begun _ _ _ _ _ _ _ same =>
      rw [same] at member
      exact still (announced.messages workerId message member)
    | announced action found workers waiting pushed =>
      rw [pushed, List.mem_append] at member
      rcases member with old | new
      · exact still (announced.messages workerId message old)
      · rw [List.eq_of_mem_replicate new]
        exact still (announced.underWay action found workers waiting)
  case underWay =>
    intro action message workers waiting
    cases progress.traffic history announced.formed with
    | quiet _ cancelling =>
      exact still (announced.underWay action message workers ((cancelling ..).mp waiting))
    | begun queryId reason found _ _ _ member _ added =>
      rw [added, List.getElem?_append] at waiting
      split at waiting
      next => exact still (announced.underWay action message workers waiting)
      next =>
        have here := List.mem_of_getElem? waiting
        cases List.mem_singleton.mp here
        exact ⟨queryId, reason, rfl, member⟩
    | announced other found _ _ _ done =>
      rw [done, List.getElem?_set] at waiting
      split at waiting
      next =>
        split at waiting
        next => exact nomatch waiting
        next => exact nomatch waiting
      next => exact still (announced.underWay action message workers waiting)

-- One cancellation of a query, followed from the critical section in which it took effect.
structure Tracked (queryId : QueryId) (message : CoordinatorMessage) (holders : List WorkerId)
    (action : Nat) (history : History) (plane : ControlPlane) : Prop where
  formed : plane.coordinator.WellFormed
  member : queryId ∈ plane.coordinator.cancelledQueries
  alone : ∀ (other : Nat) found workers, plane.actions[other]? = some (.cancelling found workers) →
    cancels queryId found = true → other = action
  sent : (plane.actions[action]? = some (.cancelling message holders) ∧
      ∀ workerId, (mailbox history plane workerId).filter (cancels queryId) = []) ∨
    (plane.actions[action]? = some .finished ∧
      ∀ workerId, (mailbox history plane workerId).filter (cancels queryId) =
        List.replicate (holders.count workerId) message)

theorem no_holders (ok : c.WellFormed) {queryId : QueryId} (member : queryId ∈ c.cancelledQueries)
    (found : c.activeWorkersForQuery queryId = .ok workers) : workers = [] := by
  apply List.eq_nil_iff_forall_not_mem.mpr
  intro workerId listed
  obtain ⟨stageId, index, task, lease, startedAtMs, present⟩ :=
    ((Coordinator.activeWorkersForQuery_ok found).2 workerId).mp listed
  rcases Coordinator.cancelled_partition ok member present with ⟨_, _, _, same⟩ | same | ⟨_, _, same⟩
  · exact nomatch same
  · exact nomatch same
  · exact nomatch same

theorem Tracked.step {queryId : QueryId} (named : cancels queryId message = true)
    (tracked : Tracked queryId message holders action history plane)
    (progress : Progress plane event reply next) :
    Tracked queryId message holders action (history ++ [(event, reply)]) next := by
  obtain ⟨formed, cancelled⟩ := progress.coordinator tracked.formed
  have member := cancelled queryId tracked.member
  cases progress.traffic history tracked.formed with
  | quiet same cancelling finished =>
    refine ⟨formed, member, ?_, ?_⟩
    · intro other found workers waiting
      exact tracked.alone other found workers ((cancelling ..).mp waiting)
    · simp only [same]
      rcases tracked.sent with ⟨waiting, empty⟩ | ⟨done, known⟩
      · exact .inl ⟨(cancelling ..).mpr waiting, empty⟩
      · exact .inr ⟨finished action done, known⟩
  | begun other reason workers _ found some _ same added =>
    -- Another query is cancelled: this one has no lease holder any more.
    have different : other ≠ queryId := by
      rintro rfl
      exact some (no_holders tracked.formed tracked.member found)
    have place : action < plane.actions.length := by
      rcases tracked.sent with ⟨waiting, _⟩ | ⟨done, _⟩
      · exact (List.getElem?_eq_some_iff.mp waiting).1
      · exact (List.getElem?_eq_some_iff.mp done).1
    refine ⟨formed, member, ?_, ?_⟩
    · intro index message workers waiting
      rw [added, List.getElem?_append] at waiting
      split at waiting
      next => exact tracked.alone index message workers waiting
      next =>
        have here := List.mem_of_getElem? waiting
        cases List.mem_singleton.mp here
        simp [cancels, different]
    · simp only [same, added, List.getElem?_append_left place]
      exact tracked.sent
  | announced other found workers waiting pushed done =>
    by_cases here : other = action
    · -- The messages of this very cancellation are queued.
      subst here
      obtain ⟨now, empty⟩ : plane.actions[other]? = some (.cancelling message holders) ∧
          ∀ workerId, (mailbox history plane workerId).filter (cancels queryId) = [] := by
        rcases tracked.sent with sent | ⟨finished, _⟩
        · exact sent
        · rw [waiting] at finished
          exact nomatch finished
      cases waiting.symm.trans now
      have place := (List.getElem?_eq_some_iff.mp waiting).1
      refine ⟨formed, member, ?_, .inr ⟨?_, ?_⟩⟩
      · intro index found workers waiting
        rw [done, List.getElem?_set] at waiting
        split at waiting
        next same => exact fun _ => same.symm
        next => exact tracked.alone index found workers waiting
      · rw [done, List.getElem?_set_self place]
      · intro workerId
        rw [pushed, List.filter_append, empty, List.nil_append, List.filter_replicate, if_pos named]
    · have foreign : cancels queryId found = false := by
        by_contra same
        exact here (tracked.alone other found workers waiting (by simpa using same))
      refine ⟨formed, member, ?_, ?_⟩
      · intro index message workers waiting
        rw [done, List.getElem?_set] at waiting
        split at waiting
        next =>
          split at waiting
          next => exact nomatch waiting
          next => exact nomatch waiting
        next => exact tracked.alone index message workers waiting
      · simp only [pushed, List.filter_append, List.filter_replicate, foreign, Bool.false_eq_true,
          if_false, List.append_nil, done, List.getElem?_set_ne here]
        exact tracked.sent

end

section

theorem progress_next (plane : ControlPlane) (event : ControlEvent) :
    Progress plane event (sections.output event plane) (sections.next event plane) :=
  respond_progress plane event

theorem announced_run {config : CoordinatorConfig} {start : ControlPlane}
    (created : ControlPlane.new config = .ok start) (events : List ControlEvent) :
    Announced (sections.trace events start) (sections.exec events start) := by
  apply Machine.trace_induct Announced
  · obtain ⟨coordinator, fresh, same⟩ := bind_ok.mp created
    obtain rfl := pure_eq_ok.mp same
    constructor
    case formed => exact Coordinator.new_wellFormed fresh
    case messages => simp [mailbox, queue]
    case underWay => simp
  · exact fun history plane event _ announced => announced.step (progress_next plane event)

variable {queryId : QueryId} {history : History} {plane : ControlPlane}

theorem tracked_run {action : Nat} (named : cancels queryId message = true)
    (tracked : Tracked queryId message holders action history plane) (events : List ControlEvent) :
    Tracked queryId message holders action (history ++ sections.trace events plane)
      (sections.exec events plane) := by
  induction events generalizing history plane with
  | nil => simpa [Machine.trace] using tracked
  | cons event rest ih =>
    have next := ih (tracked.step named (progress_next plane event))
    simpa [Machine.trace] using next

theorem mailbox_run {history : History} {plane : ControlPlane}
    (ok : plane.coordinator.WellFormed) (events : List ControlEvent) (workerId : WorkerId) :
    ∃ pushed, mailbox (history ++ sections.trace events plane) (sections.exec events plane) workerId =
      mailbox history plane workerId ++ pushed := by
  induction events generalizing history plane with
  | nil => exact ⟨[], by simp [Machine.trace]⟩
  | cons event rest ih =>
    have progress := progress_next plane event
    obtain ⟨later, grown⟩ := @ih (history ++ [(event, sections.output event plane)])
      (sections.next event plane) (progress.coordinator ok).1
    have step : ∃ pushed, mailbox (history ++ [(event, sections.output event plane)])
        (sections.next event plane) workerId = mailbox history plane workerId ++ pushed := by
      cases progress.traffic history ok with
      | quiet same | begun _ _ _ _ _ _ _ same => exact ⟨[], by rw [same, List.append_nil]⟩
      | announced action message workers waiting pushed => exact ⟨_, pushed workerId⟩
    obtain ⟨pushed, same⟩ := step
    refine ⟨pushed ++ later, ?_⟩
    rw [← List.append_assoc, ← same, ← grown, List.append_assoc]
    rfl

theorem assigned_live (announced : Announced history plane) {event : ControlEvent} {version : U16}
    {plan : StagePlan} {task : TaskAttemptId} {lease : TaskLease} {blocks : List ShuffleBlock}
    (handed : sections.output event plane =
      .ok (.assignment (some (.assignTask version plan task lease blocks)))) :
    task.queryId ∉ plane.coordinator.cancelledQueries := by
  have progress := progress_next plane event
  rw [handed] at progress
  generalize sections.next event plane = next at progress
  generalize answered : (.ok (.assignment (some (.assignTask version plan task lease blocks))) :
    Except Fault ControlReply) = reply at progress
  have relayed {operation : Operation}
      (same : (.ok (.assignment (some (.assignTask version plan task lease blocks))) :
        Except Fault ControlReply) = relay (Coordinator.machine.output operation plane.coordinator)) :
      task.queryId ∉ plane.coordinator.cancelledQueries := by
    have issued : handedOut (Coordinator.machine.output operation plane.coordinator) = some task := by
      generalize Coordinator.machine.output operation plane.coordinator = result at same
      cases result with
      | error fault => exact nomatch same
      | ok reply =>
        cases reply with
        | done | cancellation => exact nomatch same
        | assignment message =>
          cases same
          rfl
    exact Coordinator.output_handedOut announced.formed issued
  cases progress with
  | submitted | informed | polled => exact relayed answered
  | taken acceptTasks queued =>
    rename_i workerId message rest
    cases answered
    have member : CoordinatorMessage.assignTask version plan task lease blocks ∈
        mailbox history plane workerId := by
      rw [mailbox, queued]
      simp
    obtain ⟨_, _, same, _⟩ := announced.messages workerId _ member
    exact nomatch same
  | cancelled =>
    split at answered
    next => exact nomatch answered
    next => exact nomatch answered
  | refused | declined | asked | announced | nothing => exact nomatch answered

theorem coordinator_run (ok : plane.coordinator.WellFormed)
    (member : queryId ∈ plane.coordinator.cancelledQueries) (events : List ControlEvent) :
    queryId ∈ (sections.exec events plane).coordinator.cancelledQueries := by
  induction events generalizing plane with
  | nil => exact member
  | cons event rest ih =>
    obtain ⟨formed, kept⟩ := (progress_next plane event).coordinator ok
    exact ih formed (kept queryId member)

theorem tracked_cancelQuery (announced : Announced history plane) {reason : String}
    (first : queryId ∉ plane.coordinator.cancelledQueries)
    (effective : queryId ∈ (sections.next (.cancelQuery queryId reason) plane).coordinator.cancelledQueries)
    {workerId : WorkerId} (holds : plane.coordinator.HoldsActive queryId workerId) :
    ∃ holders : List WorkerId, holders.count workerId = 1 ∧
      Tracked queryId (.cancelQuery protocolVersion queryId reason) holders plane.actions.length
        (history ++ [(.cancelQuery queryId reason, sections.output (.cancelQuery queryId reason) plane)])
        (sections.next (.cancelQuery queryId reason) plane) := by
  have progress := progress_next plane (.cancelQuery queryId reason)
  obtain ⟨formed, _⟩ := progress.coordinator announced.formed
  generalize sections.next (.cancelQuery queryId reason) plane = next at progress formed effective
  generalize sections.output (.cancelQuery queryId reason) plane = reply at progress
  have unannounced {message : CoordinatorMessage} (known : Announces plane.coordinator message) :
      cancels queryId message = false := by
    obtain ⟨other, _, rfl, member⟩ := known
    refine decide_eq_false fun same => first ?_
    rwa [← same]
  cases progress with
  | refused => exact absurd effective first
  | cancelled found taken =>
    rename_i holders answer
    obtain ⟨distinct, members⟩ := Coordinator.activeWorkersForQuery_ok found
    have listed := (members workerId).mpr holds
    have some : holders ≠ [] := List.ne_nil_of_mem listed
    refine ⟨holders, List.count_eq_one_of_mem distinct listed, formed,
      (Coordinator.cancelQuery_accepted announced.formed taken).1, ?_, .inl ⟨?_, ?_⟩⟩
    · intro other message workers waiting named
      simp only [if_neg some, List.getElem?_append] at waiting
      split at waiting
      next =>
        have known := announced.underWay other message workers waiting
        simp [unannounced known] at named
      next outside =>
        have bound := (List.getElem?_eq_some_iff.mp waiting).1
        simp only [List.length_singleton] at bound
        omega
    · simp only [if_neg some, List.getElem?_concat_length]
    · intro workerId
      rw [mailbox_silent rfl, List.filter_eq_nil_iff]
      intro message member
      rw [unannounced (announced.messages workerId message member)]
      exact Bool.false_ne_true

variable {event : ControlEvent} {workerId : WorkerId}

theorem exec_eq (events : List ControlEvent) (plane : ControlPlane) :
    service.exec events plane = sections.exec events plane := by
  induction events generalizing plane with
  | nil => rfl
  | cons event rest ih => exact ih (sections.next event plane)

omit [PhysicalPlanCodec] in
theorem encodeResponse_ok {reply found : ControlReply} :
    encodeResponse reply = .ok found ↔ reply.bytes ≤ maxControlMessageBytes ∧ reply = found := by
  rw [encodeResponse, check_ok, rejectIf_ok, Nat.not_lt, pure_eq_ok]

theorem service_ok {reply : ControlReply} : service.output event plane = .ok reply ↔
    sections.output event plane = .ok reply ∧ reply.bytes ≤ maxControlMessageBytes := by
  refine bind_ok.trans ⟨?_, fun both => ⟨reply, both.1, encodeResponse_ok.mpr ⟨both.2, rfl⟩⟩⟩
  rintro ⟨found, responded, encoded⟩
  obtain ⟨fits, rfl⟩ := encodeResponse_ok.mp encoded
  exact ⟨responded, fits⟩

omit [PhysicalPlanCodec] in
theorem takenBy_eq_some {reply : Except Fault ControlReply} :
    takenBy workerId (event, reply) = some message ↔
      ∃ acceptTasks, event = .pollAssignment workerId acceptTasks ∧ reply = .ok (.assignment (some message)) := by
  unfold takenBy
  split
  next same =>
    cases same
    simp [eq_comm]
  next other =>
    refine ⟨nofun, ?_⟩
    rintro ⟨acceptTasks, rfl, rfl⟩
    exact absurd rfl (other _ _ _)

theorem sections_poll (plane : ControlPlane) (workerId : WorkerId) (acceptTasks : Bool) :
    sections.output (.pollAssignment workerId acceptTasks) plane = .ok (.assignment (some message)) ↔
      ∃ rest, plane.queue workerId = message :: rest := by
  have progress := progress_next plane (.pollAssignment workerId acceptTasks)
  generalize sections.next (.pollAssignment workerId acceptTasks) plane = next at progress
  generalize sections.output (.pollAssignment workerId acceptTasks) plane = reply at progress
  cases progress with
  | taken _ queued => simp [queued]
  | declined empty | asked empty => simp [empty]

-- What a poll returns is what it took from the queue, where the response is not too long.
def Fits (plane : ControlPlane) (event : ControlEvent) : Prop :=
  ∀ workerId acceptTasks message rest, event = .pollAssignment workerId acceptTasks →
    plane.queue workerId = message :: rest →
      (ControlReply.assignment (some message)).bytes ≤ maxControlMessageBytes

theorem takenBy_service (fits : plane.Fits event) (workerId : WorkerId) :
    takenBy workerId (event, service.output event plane) = takenBy workerId (event, sections.output event plane) := by
  refine Option.ext fun message => ?_
  rw [takenBy_eq_some, takenBy_eq_some]
  refine exists_congr fun acceptTasks => and_congr_right fun polled => ?_
  subst polled
  rw [service_ok, and_iff_left_iff_imp, sections_poll]
  rintro ⟨rest, queued⟩
  exact fits workerId acceptTasks message rest rfl queued

def returned (events : List ControlEvent) (plane : ControlPlane) (workerId : WorkerId) : List CoordinatorMessage :=
  (service.trace events plane).filterMap (takenBy workerId)

-- All messages that were ever queued for a worker: those that its polls took and those that wait.
def queued (events : List ControlEvent) (plane : ControlPlane) (workerId : WorkerId) : List CoordinatorMessage :=
  mailbox (sections.trace events plane) (service.exec events plane) workerId

theorem returned_iff {events : List ControlEvent} {plane : ControlPlane} :
    (∀ earlier later, events = earlier ++ later → ∀ workerId,
      returned earlier plane workerId ++ (service.exec earlier plane).queue workerId =
        queued earlier plane workerId) ↔
    ∀ earlier event later, events = earlier ++ event :: later → (service.exec earlier plane).Fits event := by
  simp only [queued, mailbox, List.append_cancel_right_eq, returned]
  constructor
  · rintro same earlier event later split workerId acceptTasks message rest rfl queued
    have before := same earlier _ split workerId
    have now := same (earlier ++ [.pollAssignment workerId acceptTasks]) later (by simp [split]) workerId
    rw [Machine.filterMap_trace, Machine.filterMap_trace, before, List.append_cancel_left_eq] at now
    have taken : takenBy workerId (.pollAssignment workerId acceptTasks, sections.output
        (.pollAssignment workerId acceptTasks) (sections.exec earlier plane)) = some message := by
      refine takenBy_eq_some.mpr ⟨acceptTasks, rfl, (sections_poll ..).mpr ⟨rest, ?_⟩⟩
      rwa [← exec_eq]
    rw [taken, Option.toList_some, Option.toList_eq_singleton_iff, takenBy_eq_some] at now
    obtain ⟨_, _, answered⟩ := now
    exact (service_ok.mp answered).2
  · intro fits earlier later split workerId
    induction earlier using List.reverseRecOn generalizing later with
    | nil => rfl
    | append_singleton earlier event ih =>
      rw [List.append_assoc] at split
      rw [Machine.filterMap_trace, Machine.filterMap_trace, ih _ split, ← exec_eq,
        takenBy_service (fits earlier event later split)]

-- The answer to a cancellation may be lost with its size; what counts is that it took effect.
theorem cancellation_reaches_lease_holders {config : CoordinatorConfig} {start : ControlPlane}
    (created : ControlPlane.new config = .ok start) (before after : List ControlEvent)
    {queryId : QueryId} {reason : String}
    (first : queryId ∉ (service.exec before start).coordinator.cancelledQueries)
    (effective : queryId ∈ (service.next (.cancelQuery queryId reason)
      (service.exec before start)).coordinator.cancelledQueries) :
    let events := before ++ .cancelQuery queryId reason :: after
    let final := service.exec events start
    (∀ workerId, (service.exec before start).coordinator.HoldsActive queryId workerId →
      final.actions[(service.exec before start).actions.length]? = some .finished →
      (queued events start workerId).filter (cancels queryId) = [.cancelQuery protocolVersion queryId reason]) ∧
    (∀ earlier later, events = earlier ++ later → ∀ workerId, ∃ pushed,
      queued events start workerId = queued earlier start workerId ++ pushed) ∧
    ((∀ earlier later, events = earlier ++ later → ∀ workerId,
      returned earlier start workerId ++ (service.exec earlier start).queue workerId =
        queued earlier start workerId) ↔
      ∀ earlier event later, events = earlier ++ event :: later → (service.exec earlier start).Fits event) ∧
    ∀ event version plan task lease blocks,
      service.output event final = .ok (.assignment (some (.assignTask version plan task lease blocks))) →
        task.queryId ≠ queryId := by
  simp only [queued, exec_eq] at first effective ⊢
  have announced := announced_run created before
  have reached : sections.exec (before ++ .cancelQuery queryId reason :: after) start =
      sections.exec after (sections.next (.cancelQuery queryId reason) (sections.exec before start)) :=
    sections.exec_append before _ start
  refine ⟨?_, ?_, by simpa only [queued, exec_eq] using returned_iff, ?_⟩
  · intro workerId holds done
    obtain ⟨holders, once, tracked⟩ := tracked_cancelQuery announced first effective holds
    have named : cancels queryId (.cancelQuery protocolVersion queryId reason) = true :=
      decide_eq_true rfl
    have tracked := tracked_run named tracked after
    rw [List.append_assoc, List.singleton_append, ← Machine.trace, ← Machine.trace_append, ← reached] at tracked
    rcases tracked.sent with ⟨waiting, _⟩ | ⟨_, sent⟩
    · rw [waiting] at done
      cases done
    · rw [sent, once]
      rfl
  · intro earlier later split workerId
    have known := announced_run created earlier
    have grown := @mailbox_run _ (sections.trace earlier start) (sections.exec earlier start)
      known.formed later workerId
    rwa [← Machine.trace_append, ← Machine.exec_append, ← split] at grown
  · rintro event version plan task lease blocks handed rfl
    apply assigned_live (announced_run created _) (service_ok.mp handed).1
    rw [reached]
    have progress := progress_next (sections.exec before start) (.cancelQuery task.queryId reason)
    exact coordinator_run (progress.coordinator announced.formed).1 effective after

end

end ControlPlane

namespace ControlPlane

open Coordinator.Sample

def sampleStart : ControlPlane :=
  { coordinator := Coordinator.Sample.start, pendingMessages := ∅, actions := [] }

def sampleEvents : List ControlEvent :=
  [.submitStage scanStage, .workerMessage (.register protocolVersion ⟨worker, 2, 1024⟩) 0,
    .pollAssignment worker true, .resume 0 0]

theorem cancellation_reaches_lease_holders_one_lease :
    (queued (sampleEvents ++ [.cancelQuery query "stop", .resume 1 0, .pollAssignment worker false]) sampleStart
      worker).filter (cancels query) = [.cancelQuery protocolVersion query "stop"] := by
  have created : ControlPlane.new {} = .ok sampleStart := rfl
  have holds : (service.exec sampleEvents sampleStart).coordinator.HoldsActive query worker :=
    ⟨0, 0, task 0 0, ⟨worker, 0, 30000⟩, none, by decide⟩
  exact (cancellation_reaches_lease_holders created sampleEvents [.resume 1 0, .pollAssignment worker false]
    (by decide) (by decide)).1 worker holds (by decide)

section

variable {reason : String}

theorem sample_cancel (said : Text.isBlank reason = false) :
    ∃ coordinator, sections.step (.cancelQuery query reason) (service.exec sampleEvents sampleStart) =
      (.ok .underWay, { service.exec sampleEvents sampleStart with
        coordinator
        actions := [.finished, .cancelling (.cancelQuery protocolVersion query reason) [worker]] }) := by
  have valid : (CoordinatorMessage.cancelQuery protocolVersion query reason).validate = .ok () :=
    check_ok.mpr ⟨rfl, check_ok.mpr ⟨rfl, rejectIf_ok.mpr (by simp [said])⟩⟩
  obtain ⟨coordinator, cancelled⟩ : ∃ coordinator, (Coordinator.cancelHolders query reason).run
      (service.exec sampleEvents sampleStart).coordinator =
        (.ok (.cancelQuery protocolVersion query reason, [worker]), coordinator) := by
    unfold Coordinator.cancelHolders Coordinator.cancelQuery
    simp only [valid]
    exact ⟨_, rfl⟩
  have lifted : (onCoordinator (Coordinator.cancelHolders query reason)).run (service.exec sampleEvents sampleStart) =
      (((Coordinator.cancelHolders query reason).run (service.exec sampleEvents sampleStart).coordinator).1,
        { service.exec sampleEvents sampleStart with coordinator := ((Coordinator.cancelHolders query reason).run
          (service.exec sampleEvents sampleStart).coordinator).2 }) := rfl
  rw [cancelled] at lifted
  refine ⟨coordinator, ?_⟩
  change (cancelQuery query reason).run _ = _
  rw [cancelQuery, Stateful.run_bind_ok lifted]
  rfl

theorem lost_of_long (said : Text.isBlank reason = false)
    (short : (ControlReply.cancellation (.cancelQuery protocolVersion query reason)).bytes ≤ maxControlMessageBytes)
    (long : maxControlMessageBytes <
      (ControlReply.assignment (some (.cancelQuery protocolVersion query reason))).bytes) :
    let cancelled := service.next (.cancelQuery query reason) (service.exec sampleEvents sampleStart)
    let announced := service.next (.resume 1 0) cancelled
    service.output (.resume 1 0) cancelled = .ok (.cancellation (.cancelQuery protocolVersion query reason)) ∧
      announced.queue worker = [.cancelQuery protocolVersion query reason] ∧
      (∃ message, service.output (.pollAssignment worker false) announced = .error (.error (.resourceExhausted message))) ∧
      (service.next (.pollAssignment worker false) announced).queue worker = [] := by
  obtain ⟨coordinator, stepped⟩ := sample_cancel said
  have next := congrArg Prod.snd stepped
  change service.next (.cancelQuery query reason) _ = _ at next
  rw [next]
  refine ⟨service_ok.mpr ⟨rfl, short⟩, rfl, ?_, rfl⟩
  exact ⟨_, bind_error.mpr (.inr ⟨_, rfl, bind_error.mpr (.inl (rejectIf_error.mpr ⟨long, rfl⟩))⟩)⟩

-- The body of the request, the answer to it, and the response to the poll that takes the message.
theorem bytes_long (count : Nat) :
    ((jsonObject [("query_id", jsonText query.value),
      ("reason", jsonText (String.ofList (List.replicate count 'x')))]).map Char.utf8Size).sum = count + 28 ∧
    (ControlReply.cancellation (.cancelQuery protocolVersion query
      (String.ofList (List.replicate count 'x')))).bytes = count + 62 ∧
    (ControlReply.assignment (some (.cancelQuery protocolVersion query
      (String.ofList (List.replicate count 'x'))))).bytes = count + 77 := by
  have letters : (List.replicate count 'x').flatMap escapeChar = List.replicate count 'x' := by
    induction count with
    | zero => rfl
    | succ count ih => rw [List.replicate_succ, List.flatMap_cons, ih]; rfl
  have words : ["type", "cancel_query", "version", "query_id", "q", "reason", "assignment"].map
      (fun word => ((word.toList.flatMap escapeChar).map Char.utf8Size).sum) = [4, 12, 7, 8, 1, 6, 10] := by decide
  have marks : '{'.utf8Size = 1 ∧ '}'.utf8Size = 1 ∧ '"'.utf8Size = 1 ∧ ':'.utf8Size = 1 ∧ ','.utf8Size = 1 ∧
      'x'.utf8Size = 1 ∧ ((jsonNumber protocolVersion.val).map Char.utf8Size).sum = 1 := by decide
  simp only [List.map_cons, List.map_nil, List.cons.injEq, and_true] at words
  simp only [ControlReply.bytes, ControlReply.toJson, CoordinatorMessage.toJson, Option.elim_some, jsonObject,
    jsonText, query, String.toList_ofList, letters, List.intercalate, List.intersperse, List.flatten_cons,
    List.flatten_nil, List.map_cons, List.map_nil, List.map_append, List.map_replicate, List.sum_append,
    List.sum_cons, List.sum_nil, List.sum_replicate, smul_eq_mul, words, marks]
  omega

theorem said_long {count : Nat} (some : 0 < count) :
    Text.isBlank (String.ofList (List.replicate count 'x')) = false := by
  obtain ⟨rest, rfl⟩ := Nat.exists_eq_succ_of_ne_zero some.ne'
  rw [Text.isBlank, String.toList_ofList, List.replicate_succ]
  rfl

theorem cancellation_too_long_to_poll :
    let reason := String.ofList (List.replicate 100663225 'x')
    let cancelled := service.next (.cancelQuery query reason) (service.exec sampleEvents sampleStart)
    let announced := service.next (.resume 1 0) cancelled
    ((jsonObject [("query_id", jsonText query.value), ("reason", jsonText reason)]).map Char.utf8Size).sum ≤
        maxControlMessageBytes ∧
      service.output (.resume 1 0) cancelled = .ok (.cancellation (.cancelQuery protocolVersion query reason)) ∧
      announced.queue worker = [.cancelQuery protocolVersion query reason] ∧
      (∃ message, service.output (.pollAssignment worker false) announced = .error (.error (.resourceExhausted message))) ∧
      (service.next (.pollAssignment worker false) announced).queue worker = [] := by
  obtain ⟨request, answer, response⟩ := bytes_long 100663225
  refine ⟨?_, lost_of_long (said_long (by decide)) ?_ ?_⟩
  · rw [request]
    decide
  · rw [answer]
    decide
  · rw [response]
    decide

end

end ControlPlane

end SparkX
