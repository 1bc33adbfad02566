import SparkX.Cluster.ControlPlane.Delivery
import SparkX.Cluster.Coordinator.Leases
import SparkX.Cluster.WorkerLoop.Model

set_option autoImplicit false

namespace SparkX

open Std

-- The attempts that a worker may hold without having them in its map: from the answer to its poll on
-- until its start is acknowledged, and from its end on until the report is acknowledged. After a
-- poll whose response was too long it may hold any; the loop ends when it hears of it.
def WorkerRequest.unrecorded : WorkerRequest → Delivery → Set TaskAttemptId
  | .poll _, .answered (.ok (.assignment (some (.assignTask _ _ task _ _)))) => {task}
  | .poll _, .answered (.error _) => Set.univ
  | .start _ _, .answered (.error (.error .taskSuperseded)) => ∅
  | .start task _, _ => {task}
  | .finish _, .answered (.ok _) => ∅
  | .finish _, .answered (.error (.error .taskSuperseded)) => ∅
  | .finish completion, _ => {completion.task}
  | _, _ => ∅

theorem WorkerRequest.start_settled {task : TaskAttemptId} {lease : TaskLease} {delivery : Delivery}
    (settled : task ∉ (WorkerRequest.start task lease).unrecorded delivery) :
    delivery = .answered (.error (.error .taskSuperseded)) := by
  by_contra other
  exact settled (by simp [unrecorded])

theorem WorkerRequest.finish_settled {completion : TaskCompletion} {delivery : Delivery}
    (settled : completion.task ∉ (WorkerRequest.finish completion).unrecorded delivery) :
    (∃ reply, delivery = .answered (.ok reply)) ∨
      delivery = .answered (.error (.error .taskSuperseded)) := by
  by_contra other
  rw [not_or, not_exists] at other
  exact settled (by simp [unrecorded, other])

namespace WorkerLoop

def unrecorded (loop : WorkerLoop) : Set TaskAttemptId :=
  match loop.state with
  | .selecting => ∅
  | _ => loop.request.unrecorded loop.delivery

def Joined (loop : WorkerLoop) : Prop :=
  loop.request ≠ .register ∨ ∃ reply, loop.delivery = .answered (.ok reply)

structure Sound (loop : WorkerLoop) (plane : ControlPlane) : Prop where
  selecting : loop.state = .selecting → loop.Joined ∧ ∃ answer, loop.delivery = .answered answer
  registered : loop.Joined → ∃ worker, plane.coordinator.workers[loop.config.workerId]? = some worker ∧
    worker.registration = loop.config.registration
  recorded : loop.Joined → ∀ task, plane.coordinator.Leases loop.config.workerId task →
    task ∈ loop.worker.active ∨ task ∈ loop.unrecorded
  room : loop.worker.active.length ≤ loop.config.slots.val
  free : ∀ task lease, loop.request = .start task lease → loop.state = .waiting →
    loop.worker.active.length < loop.config.slots.val
  reported : ∀ report, loop.request = .heartbeat report →
    ∃ observedAtMs reservedBytes, report = loop.heartbeatReport observedAtMs reservedBytes
  waits : ∀ action, loop.delivery = .underWay action → (∃ acceptTasks, loop.request = .poll acceptTasks) ∧
    (plane.actions[action]? = some (.polling loop.config.workerId) ∨
      plane.actions[action]? = some .finished)

end WorkerLoop

namespace ControlPlane

variable [PhysicalPlanCodec] {plane next : ControlPlane} {event : ControlEvent}
variable {reply : Except Fault ControlReply}

def HandsOut (plane : ControlPlane) (event : ControlEvent) (reply : Except Fault ControlReply)
    (workerId : WorkerId) (task : TaskAttemptId) : Prop :=
  ∃ action nowMs, event = .resume action nowMs ∧ plane.actions[action]? = some (.polling workerId) ∧
    ∃ version stage lease blocks,
      reply = .ok (.assignment (some (.assignTask version stage task lease blocks)))

-- What a critical section leaves to the workers: their registrations and their polls, and no lease
-- but the one that it hands out.
structure Kept (plane next : ControlPlane) (handsOut : WorkerId → TaskAttemptId → Prop) : Prop where
  formed : next.coordinator.WellFormed
  registration : ∀ (workerId : WorkerId) worker, plane.coordinator.workers[workerId]? = some worker →
    ∃ later, next.coordinator.workers[workerId]? = some later ∧ later.registration = worker.registration
  leases : ∀ workerId task, next.coordinator.Leases workerId task →
    plane.coordinator.Leases workerId task ∨ handsOut workerId task
  actions : ∀ (action : Nat) workerId, plane.actions[action]? = some (.polling workerId) ∨
      plane.actions[action]? = some .finished →
    next.actions[action]? = some (.polling workerId) ∨ next.actions[action]? = some .finished

variable {result : Except Fault Reply}

omit [PhysicalPlanCodec] in
theorem relay_handedOut {task : TaskAttemptId} (issued : handedOut result = some task) :
    ∃ version stage lease blocks,
      relay result = .ok (.assignment (some (.assignTask version stage task lease blocks))) := by
  unfold handedOut at issued
  split at issued
  next version stage found lease blocks =>
    cases issued
    exact ⟨version, stage, lease, blocks, rfl⟩
  next => exact nomatch issued

omit [PhysicalPlanCodec] in
theorem relay_over (result : Except Fault Reply) : relay result ≠ .ok .underWay := by
  unfold relay
  split <;> nofun

omit [PhysicalPlanCodec] in
theorem encodeResponse_cases (reply : ControlReply) :
    encodeResponse reply = .ok reply ∨ ∃ fault, encodeResponse reply = .error fault := by
  cases encoded : encodeResponse reply with
  | error fault => exact .inr ⟨fault, rfl⟩
  | ok found => exact .inl (congrArg _ (encodeResponse_ok.mp encoded).2.symm)

omit [PhysicalPlanCodec] in
theorem relay_encoded (result : Except Fault Reply) : relay result >>= encodeResponse ≠ .ok .underWay := by
  intro same
  obtain ⟨reply, relayed, encoded⟩ := bind_ok.mp same
  exact relay_over result (relayed.trans (congrArg _ (encodeResponse_ok.mp encoded).2))

omit [PhysicalPlanCodec] in
theorem relay_ok {answer : ControlReply} (accepted : relay result = .ok answer) :
    ∃ reply, result = .ok reply := by
  cases result with
  | ok reply => exact ⟨reply, rfl⟩
  | error fault => exact nomatch accepted

omit [PhysicalPlanCodec] in
theorem relay_error {fault : Fault} (failed : relay result = .error fault) : result = .error fault := by
  unfold relay at failed
  split at failed
  next => exact nomatch failed
  next => exact nomatch failed
  next => exact nomatch failed
  next => exact congrArg Except.error (Except.error.inj failed)

theorem service_workerMessage (plane : ControlPlane) (message : WorkerMessage) (nowMs : U64) :
    service.step (.workerMessage message nowMs) plane =
      (relay (Coordinator.machine.output (.workerMessage message nowMs) plane.coordinator),
        { plane with
          coordinator := Coordinator.machine.next (.workerMessage message nowMs) plane.coordinator }) := by
  have acknowledged : encodeResponse .accepted = .ok .accepted := encodeResponse_ok.mpr ⟨by decide, rfl⟩
  have said : Coordinator.machine.output (.workerMessage message nowMs) plane.coordinator =
      ((Coordinator.handleWorkerMessage message nowMs).run plane.coordinator).1.map fun _ => .done :=
    congrArg Prod.fst (Stateful.run_bind_map _ (fun _ => Reply.done) plane.coordinator)
  have step : sections.step (.workerMessage message nowMs) plane = _ :=
    call_progress (.workerMessage message nowMs) rfl (fun _ => rfl) plane
  change ((sections.step _ plane).1 >>= encodeResponse, (sections.step _ plane).2) = _
  rw [step, said]
  cases ((Coordinator.handleWorkerMessage message nowMs).run plane.coordinator).1 with
  | error fault => rfl
  | ok done => exact congrArg (·, _) acknowledged

omit [PhysicalPlanCodec] in
theorem getElem?_append_kept {actions added : List ActionState} {action : Nat} {state : ActionState}
    (found : actions[action]? = some state) : (actions ++ added)[action]? = some state := by
  rw [List.getElem?_append_left (List.getElem?_eq_some_iff.mp found).1, found]

omit [PhysicalPlanCodec] in
theorem getElem?_finish {actions : List ActionState} (place : Nat) {action : Nat} {workerId : WorkerId}
    (found : actions[action]? = some (.polling workerId) ∨ actions[action]? = some .finished) :
    (actions.set place .finished)[action]? = some (.polling workerId) ∨
      (actions.set place .finished)[action]? = some .finished := by
  rw [List.getElem?_set]
  split
  next same =>
    subst same
    have inside : place < actions.length := by
      rcases found with found | found
      · exact (List.getElem?_eq_some_iff.mp found).1
      · exact (List.getElem?_eq_some_iff.mp found).1
    rw [if_pos inside]
    exact .inr rfl
  next => exact found

theorem Progress.kept (progress : Progress plane event reply next)
    (ok : plane.coordinator.WellFormed) : Kept plane next (HandsOut plane event reply) := by
  have formed (operation : Operation) := Coordinator.next_wellFormed ok operation
  have registration (operation : Operation) (workerId : WorkerId) (worker : WorkerRuntime)
      (present : plane.coordinator.workers[workerId]? = some worker) :=
    Coordinator.next_registration ok operation present
  have unassigned (operation : Operation) (other : ∀ workerId nowMs,
        operation ≠ .nextAssignment nowMs ∧ operation ≠ .nextAssignmentFor workerId nowMs)
      {workerId : WorkerId} {task : TaskAttemptId}
      (leased : (Coordinator.machine.next operation plane.coordinator).Leases workerId task) :
      plane.coordinator.Leases workerId task := by
    rcases Coordinator.next_leases ok leased with before | ⟨_, nowMs, called | called⟩
    · exact before
    · exact absurd called (other workerId nowMs).1
    · exact absurd called (other workerId nowMs).2
  cases progress with
  | submitted stage | informed message receivedAtMs =>
    exact ⟨formed _, registration _, fun _ _ leased => .inl (unassigned _ (by simp) leased),
      fun _ _ found => found⟩
  | cancelled =>
    refine ⟨formed _, registration _, fun _ _ leased => .inl (unassigned _ (by simp) leased), ?_⟩
    intro action workerId found
    dsimp only
    split
    next => exact found
    next => exact found.imp getElem?_append_kept getElem?_append_kept
  | polled nowMs waiting =>
    rename_i action polled
    refine ⟨formed _, registration _, ?_, fun _ _ found => getElem?_finish action found⟩
    intro workerId task leased
    rcases Coordinator.next_leases ok leased with before | ⟨issued, _, called | called⟩
    · exact .inl before
    · exact nomatch called
    · cases called
      exact .inr ⟨action, nowMs, rfl, waiting, relay_handedOut issued⟩
  | asked =>
    exact ⟨ok, fun _ worker present => ⟨worker, present, rfl⟩, fun _ _ leased => .inl leased,
      fun _ _ found => found.imp getElem?_append_kept getElem?_append_kept⟩
  | announced =>
    exact ⟨ok, fun _ worker present => ⟨worker, present, rfl⟩, fun _ _ leased => .inl leased,
      fun _ _ found => getElem?_finish _ found⟩
  | taken | declined | refused | nothing =>
    exact ⟨ok, fun _ worker present => ⟨worker, present, rfl⟩, fun _ _ leased => .inl leased,
      fun _ _ found => found⟩

end ControlPlane

namespace WorkerLoop

section

variable {loop : WorkerLoop} {plane : ControlPlane}

structure Settled (loop : WorkerLoop) (plane : ControlPlane) : Prop where
  joined : loop.Joined
  answered : ∃ answer, loop.delivery = .answered answer
  registered : ∃ worker, plane.coordinator.workers[loop.config.workerId]? = some worker ∧
    worker.registration = loop.config.registration
  recorded : ∀ task, plane.coordinator.Leases loop.config.workerId task → task ∈ loop.worker.active
  room : loop.worker.active.length ≤ loop.config.slots.val
  reported : ∀ report, loop.request = .heartbeat report →
    ∃ observedAtMs reservedBytes, report = loop.heartbeatReport observedAtMs reservedBytes

theorem Sound.settled (sound : loop.Sound plane) (joined : loop.Joined)
    (answered : ∃ answer, loop.delivery = .answered answer) (none : loop.unrecorded = ∅) :
    loop.Settled plane := by
  refine ⟨joined, answered, sound.registered joined, ?_, sound.room, sound.reported⟩
  intro task leased
  rcases sound.recorded joined task leased with listed | open'
  · exact listed
  · rw [none] at open'
    exact open'.elim

theorem Sound.settled_selecting (sound : loop.Sound plane) (selecting : loop.state = .selecting) :
    loop.Settled plane := by
  obtain ⟨joined, answered⟩ := sound.selecting selecting
  exact sound.settled joined answered (by rw [unrecorded, selecting])

theorem Settled.nextTurn (settled : loop.Settled plane) : loop.nextTurn.Sound plane := by
  obtain ⟨answer, answered⟩ := settled.answered
  have waitless (action : Nat) : loop.delivery ≠ .underWay action := by simp [answered]
  unfold WorkerLoop.nextTurn
  split
  next =>
    exact ⟨nofun, fun _ => settled.registered, fun _ task leased => .inl (settled.recorded task leased),
      settled.room, nofun, settled.reported, fun action waiting => absurd waiting (waitless action)⟩
  next =>
    exact ⟨fun _ => ⟨settled.joined, settled.answered⟩, fun _ => settled.registered,
      fun _ task leased => .inl (settled.recorded task leased), settled.room, nofun, settled.reported,
      fun action waiting => absurd waiting (waitless action)⟩

theorem Settled.send (settled : loop.Settled plane) {request : WorkerRequest}
    (startless : ∀ task lease, request ≠ .start task lease)
    (reported : ∀ report, request = .heartbeat report →
      ∃ observedAtMs reservedBytes, report = loop.heartbeatReport observedAtMs reservedBytes) :
    (loop.send request).Sound plane :=
  ⟨nofun, fun _ => settled.registered, fun _ task leased => .inl (settled.recorded task leased),
    settled.room, fun task lease same => absurd same (startless task lease), reported, nofun⟩

theorem Sound.exit (sound : loop.Sound plane) (error : SparkXError) : (loop.exit error).Sound plane := by
  refine ⟨nofun, sound.registered, ?_, sound.room, nofun, sound.reported, sound.waits⟩
  intro joined task leased
  rcases sound.recorded joined task leased with listed | open'
  · exact .inl listed
  · rw [unrecorded] at open'
    split at open'
    next => exact nomatch open'
    next => exact .inr open'

theorem Sound.select (sound : loop.Sound plane) (selecting : loop.state = .selecting)
    (branch : Branch) : (loop.select branch).Sound plane := by
  have settled := sound.settled_selecting selecting
  cases branch with
  | shutdown =>
    rw [WorkerLoop.select]
    split
    next => exact sound
    next =>
      have stopping : { loop with worker := { loop.worker with stopping := true } }.Settled plane :=
        ⟨settled.joined, settled.answered, settled.registered, settled.recorded, settled.room,
          settled.reported⟩
      exact stopping.nextTurn
  | heartbeat observedAtMs reservedBytes =>
    refine settled.send (by simp) ?_
    rintro _ ⟨⟩
    exact ⟨observedAtMs, reservedBytes, rfl⟩
  | poll =>
    rw [WorkerLoop.select]
    split
    next => exact sound
    next => exact settled.send nofun nofun
  | join index joined =>
    rw [WorkerLoop.select]
    split
    next => exact sound
    next task lease found =>
      cases joined with
      | error message =>
        have left : { loop with tasks := loop.tasks.eraseIdx index }.Sound plane :=
          ⟨sound.selecting, sound.registered, sound.recorded, sound.room, sound.free, sound.reported,
            sound.waits⟩
        exact left.exit _
      | ok result =>
        refine ⟨nofun, fun _ => settled.registered, ?_, ?_, nofun, nofun, nofun⟩
        · intro _ other leased
          by_cases same : other = task
          · subst same
            exact .inr rfl
          · exact .inl ((List.mem_erase_of_ne same).mpr (settled.recorded other leased))
        · exact (List.erase_sublist.length_le).trans settled.room

theorem Sound.handle (sound : loop.Sound plane) (waiting : loop.state = .waiting)
    {acceptTasks : Bool} (polled : loop.request = .poll acceptTasks) {message : CoordinatorMessage}
    (answered : loop.delivery = .answered (.ok (.assignment (some message)))) :
    (loop.handle message).Sound plane := by
  have joined : loop.Joined := .inr ⟨_, answered⟩
  cases message with
  | assignTask version stage task lease blocks =>
    rw [WorkerLoop.handle]
    split
    next => exact sound.exit _
    next =>
      split
      next => exact sound.exit _
      next free =>
        refine ⟨nofun, fun _ => sound.registered joined, ?_, sound.room, ?_, nofun, nofun⟩
        · intro _ other leased
          have known := sound.recorded joined other leased
          rw [unrecorded, waiting, polled, answered] at known
          exact known
        · exact fun _ _ _ _ => Nat.not_le.mp free
  | cancelQuery version queryId reason =>
    have settled := sound.settled joined ⟨_, answered⟩ (by rw [unrecorded, waiting, polled, answered]; rfl)
    have cancelled : { loop with worker := { loop.worker with
        cancelledQueries := loop.worker.cancelledQueries.insert queryId reason } }.Settled plane :=
      ⟨settled.joined, settled.answered, settled.registered, settled.recorded, settled.room,
        settled.reported⟩
    exact cancelled.nextTurn

theorem Sound.receive [PhysicalPlanCodec] (sound : loop.Sound plane) (waiting : loop.state = .waiting)
    {answer : Except Fault ControlReply} (answered : loop.delivery = .answered answer) :
    (loop.receive answer).Sound plane := by
  have settled (joined : loop.Joined) (none : loop.request.unrecorded (.answered answer) = ∅) :
      loop.Settled plane :=
    sound.settled joined ⟨answer, answered⟩ (by rw [unrecorded, waiting, answered, none])
  have accepted {action : String} {reply : ControlReply} (called : callResult action answer = .ok reply) :
      loop.Joined := .inr ⟨reply, by rw [answered, callResult_ok.mp called]⟩
  unfold WorkerLoop.receive
  cases requested : loop.request with
  | register | heartbeat =>
    dsimp only
    split
    next called => exact (settled (accepted called) (by rw [requested]; rfl)).nextTurn
    next => exact sound.exit _
  | poll acceptTasks =>
    dsimp only
    split
    next called =>
      have known := callResult_ok.mp called
      exact (settled (accepted called) (by rw [requested, known]; rfl)).nextTurn
    next message called =>
      have known := callResult_ok.mp called
      split
      next => exact sound.handle waiting requested (answered.trans (congrArg _ known))
      next => exact sound.exit _
    next => exact sound.exit _
    next => exact sound.exit _
  | start task lease =>
    have joined : loop.Joined := .inl (by simp [requested])
    have known := sound.recorded joined
    rw [unrecorded, waiting, answered, requested] at known
    dsimp only
    split
    next reply called =>
      -- The attempt enters the map with the acknowledgement of its start.
      rw [callResult_ok.mp called] at known
      have free := sound.free task lease requested waiting
      have started : ({ loop with
          worker := { loop.worker with active := loop.worker.active.insert task }
          tasks := loop.tasks ++ [(task, lease)] } : WorkerLoop).Settled plane := by
        refine ⟨joined, ⟨answer, answered⟩, sound.registered joined, ?_, ?_, ?_⟩
        · intro other leased
          rcases known other leased with listed | same
          · exact List.mem_insert_of_mem listed
          · cases same
            exact List.mem_insert_self
        · dsimp only
          by_cases known : task ∈ loop.worker.active
          · rw [List.insert_of_mem known]
            exact sound.room
          · rw [List.insert_of_not_mem known]
            exact free
        · intro report same
          exact nomatch requested.symm.trans same
      rw [← requested]
      exact started.nextTurn
    next called =>
      exact (settled joined (by rw [requested, callResult_superseded.mp called]; rfl)).nextTurn
    next => exact sound.exit _
  | finish completion =>
    have joined : loop.Joined := .inl (by simp [requested])
    dsimp only
    split
    next next continues =>
      obtain ⟨same, outcome⟩ := RemoteWorker.acknowledge_continues continues
      have none : loop.request.unrecorded (.answered answer) = ∅ := by
        rw [requested]
        rcases outcome with fine | superseded
        · obtain ⟨reply, called, _⟩ := map_eq_ok.mp fine
          rw [callResult_ok.mp called]
          rfl
        · rw [callResult_superseded.mp (map_eq_error.mp superseded)]
          rfl
      have before := settled joined none
      have concluded : { loop with worker := next }.Settled plane := by
        refine ⟨joined, ⟨answer, answered⟩, before.registered, ?_, ?_, ?_⟩
        · intro task leased
          rw [same]
          exact before.recorded task leased
        · rw [same]
          exact before.room
        · intro report other
          exact nomatch requested.symm.trans other
      rw [← requested]
      exact concluded.nextTurn
    next => exact sound.exit _

end

section

variable [PhysicalPlanCodec] {loop : WorkerLoop} {plane next : ControlPlane} {event : ControlEvent}
variable {handsOut : WorkerId → TaskAttemptId → Prop}

theorem Sound.kept (sound : loop.Sound plane) (kept : plane.Kept next handsOut)
    (foreign : ∀ task, handsOut loop.config.workerId task → ¬loop.Joined) : loop.Sound next := by
  refine ⟨sound.selecting, ?_, ?_, sound.room, sound.free, sound.reported, ?_⟩
  · intro joined
    obtain ⟨worker, present, same⟩ := sound.registered joined
    obtain ⟨later, found, again⟩ := kept.registration _ worker present
    exact ⟨later, found, again.trans same⟩
  · intro joined task leased
    rcases kept.leases _ task leased with before | issued
    · exact sound.recorded joined task before
    · exact absurd joined (foreign task issued)
  · intro action waiting
    obtain ⟨polled, known⟩ := sound.waits action waiting
    exact ⟨polled, kept.actions action _ known⟩

theorem Sound.redeliver (sound : loop.Sound plane) (kept : plane.Kept next handsOut)
    (named : loop.request ≠ .register) (open' : loop.state ≠ .selecting) {delivery : Delivery}
    (recorded : ∀ task, next.coordinator.Leases loop.config.workerId task →
      task ∈ loop.worker.active ∨ task ∈ loop.request.unrecorded delivery)
    (waits : ∀ action, delivery = .underWay action → (∃ acceptTasks, loop.request = .poll acceptTasks) ∧
      (next.actions[action]? = some (.polling loop.config.workerId) ∨
        next.actions[action]? = some .finished)) : { loop with delivery }.Sound next := by
  refine ⟨fun selecting => absurd selecting open', ?_, ?_, sound.room, sound.free, sound.reported, waits⟩
  · intro _
    obtain ⟨worker, present, same⟩ := sound.registered (.inl named)
    obtain ⟨later, found, again⟩ := kept.registration _ worker present
    exact ⟨later, found, again.trans same⟩
  · intro _ task leased
    rw [unrecorded]
    split
    next selecting => exact absurd selecting open'
    next => exact recorded task leased

omit [PhysicalPlanCodec] in
theorem Sound.unselected (sound : loop.Sound plane)
    (unanswered : ∀ answer, loop.delivery ≠ .answered answer) : loop.state ≠ .selecting := by
  intro selecting
  obtain ⟨_, answer, answered⟩ := sound.selecting selecting
  exact unanswered answer answered

theorem Sound.recorded_sent (sound : loop.Sound plane) (kept : plane.Kept next handsOut)
    (named : loop.request ≠ .register) (sent : loop.delivery = .sent)
    {task : TaskAttemptId} (unissued : ¬handsOut loop.config.workerId task)
    (leased : next.coordinator.Leases loop.config.workerId task) :
    task ∈ loop.worker.active ∨ task ∈ loop.request.unrecorded .sent := by
  have unselected := sound.unselected (by simp [sent])
  rcases kept.leases _ task leased with before | issued
  · have known := sound.recorded (.inl named) task before
    rw [unrecorded, sent] at known
    split at known
    next selecting => exact absurd selecting unselected
    next => exact known
  · exact absurd issued unissued

theorem Sound.served_poll (sound : loop.Sound plane) (ok : plane.coordinator.WellFormed)
    {acceptTasks : Bool} (polled : loop.request = .poll acceptTasks) (sent : loop.delivery = .sent) :
    (loop.delivered plane.actions.length
      (ControlPlane.service.output (.pollAssignment loop.config.workerId acceptTasks) plane)).Sound
        (ControlPlane.service.next (.pollAssignment loop.config.workerId acceptTasks) plane) := by
  have progress := ControlPlane.progress_next plane (.pollAssignment loop.config.workerId acceptTasks)
  have kept := progress.kept ok
  have named : loop.request ≠ .register := by simp [polled]
  have unselected := sound.unselected (by simp [sent])
  have listed {delivery : Delivery} (task : TaskAttemptId)
      (leased : (ControlPlane.service.next (.pollAssignment loop.config.workerId acceptTasks)
        plane).coordinator.Leases loop.config.workerId task) :
      task ∈ loop.worker.active ∨ task ∈ loop.request.unrecorded delivery := by
    have known := sound.recorded_sent kept named sent (by simp [ControlPlane.HandsOut]) leased
    rw [polled] at known
    exact .inl (known.resolve_right id)
  by_cases asks : ControlPlane.service.output (.pollAssignment loop.config.workerId acceptTasks) plane =
      .ok .underWay
  case neg =>
    rw [delivered_answered _ _ asks]
    exact sound.redeliver kept named unselected listed nofun
  rw [asks, delivered_asked _ sent]
  refine sound.redeliver kept named unselected listed ?_
  rintro _ ⟨⟩
  refine ⟨⟨acceptTasks, polled⟩, .inl ?_⟩
  rw [(ControlPlane.service_ok.mp asks).1] at progress
  generalize ControlPlane.sections.next (.pollAssignment loop.config.workerId acceptTasks) plane = next at progress ⊢
  cases progress with
  | asked empty => exact List.getElem?_concat_length

theorem Sound.served_resume (sound : loop.Sound plane) (ok : plane.coordinator.WellFormed)
    {action : Nat} (nowMs : U64) (waiting : loop.delivery = .underWay action) :
    (loop.delivered plane.actions.length
      (ControlPlane.service.output (.resume action nowMs) plane)).Sound
        (ControlPlane.service.next (.resume action nowMs) plane) := by
  have progress := ControlPlane.progress_next plane (.resume action nowMs)
  have kept := progress.kept ok
  obtain ⟨⟨acceptTasks, polled⟩, known⟩ := sound.waits action waiting
  have named : loop.request ≠ .register := by simp [polled]
  have unselected := sound.unselected (by simp [waiting])
  change (loop.delivered _ (ControlPlane.sections.output _ plane >>= encodeResponse)).Sound
    (ControlPlane.sections.next _ plane)
  generalize ControlPlane.sections.next (.resume action nowMs) plane = next at progress kept ⊢
  generalize ControlPlane.sections.output (.resume action nowMs) plane = reply at progress kept ⊢
  have listed (task : TaskAttemptId) (leased : next.coordinator.Leases loop.config.workerId task) :
      task ∈ loop.worker.active ∨ task ∈ loop.request.unrecorded (.answered (reply >>= encodeResponse)) := by
    rcases kept.leases _ task leased with before | ⟨_, _, _, _, _, _, _, _, rfl⟩
    · have recorded := sound.recorded (.inl named) task before
      rw [unrecorded, polled, waiting] at recorded
      split at recorded
      next => exact .inl (recorded.resolve_right id)
      next => exact .inl (recorded.resolve_right id)
    · rw [polled]
      refine .inr (?_ : task ∈ WorkerRequest.unrecorded _ (.answered (encodeResponse _)))
      rcases ControlPlane.encodeResponse_cases _ with same | ⟨fault, refused⟩
      · rw [same]
        rfl
      · rw [refused]
        trivial
  cases progress with
  | polled _ polling =>
    rw [delivered_answered _ _ (ControlPlane.relay_encoded _)]
    exact sound.redeliver kept named unselected listed nofun
  | announced _ cancelling =>
    rcases known with known | known
    · exact nomatch known.symm.trans cancelling
    · exact nomatch known.symm.trans cancelling
  | nothing =>
    have silent : encodeResponse .underWay = .ok .underWay :=
      ControlPlane.encodeResponse_ok.mpr ⟨Nat.zero_le _, rfl⟩
    change (loop.delivered _ (encodeResponse .underWay)).Sound _
    rw [silent, delivered_still _ waiting]
    exact sound

theorem Sound.served_update (sound : loop.Sound plane) (ok : plane.coordinator.WellFormed)
    {message : WorkerMessage} (nowMs : U64) (named : loop.request ≠ .register)
    (sent : loop.delivery = .sent)
    (settled : ∀ task ∈ loop.request.unrecorded .sent,
      task ∉ loop.request.unrecorded (.answered (ControlPlane.relay
        (Coordinator.machine.output (.workerMessage message nowMs) plane.coordinator))) →
      ¬(Coordinator.machine.next (.workerMessage message nowMs) plane.coordinator).Leases
        loop.config.workerId task) :
    (loop.delivered plane.actions.length
      (ControlPlane.service.output (.workerMessage message nowMs) plane)).Sound
        (ControlPlane.service.next (.workerMessage message nowMs) plane) := by
  have kept : plane.Kept (ControlPlane.service.next (.workerMessage message nowMs) plane) _ :=
    (ControlPlane.progress_next plane (.workerMessage message nowMs)).kept ok
  have unselected := sound.unselected (by simp [sent])
  rw [Machine.output, Machine.next, ControlPlane.service_workerMessage] at kept ⊢
  rw [delivered_answered _ _ (ControlPlane.relay_over _)]
  refine sound.redeliver kept named unselected ?_ (by simp)
  intro task leased
  rcases sound.recorded_sent kept named sent (by simp [ControlPlane.HandsOut]) leased with listed | unlisted
  · exact .inl listed
  · by_contra missing
    rw [not_or] at missing
    exact settled task unlisted missing.2 leased

omit [PhysicalPlanCodec] in
theorem conclude_finished (worker : RemoteWorker) (completion : TaskCompletion) :
    ∃ finishedAtMs, Coordinator.finishedAt (worker.conclude completion).state = some finishedAtMs := by
  simp only [RemoteWorker.conclude]
  split
  next => exact ⟨_, rfl⟩
  next =>
    split
    next => exact ⟨_, rfl⟩
    next =>
      split
      next => exact ⟨_, rfl⟩
      next => exact ⟨_, rfl⟩
    next => exact ⟨_, rfl⟩

theorem register_joined (ok : plane.coordinator.WellFormed) {nowMs : U64}
    (requested : loop.request = .register)
    (joined : (loop.delivered plane.actions.length (ControlPlane.service.output
      (.workerMessage (.register protocolVersion loop.config.registration) nowMs) plane)).Joined) :
    plane.coordinator.workers[loop.config.workerId]? = none ∧ ∃ worker, (ControlPlane.service.next
      (.workerMessage (.register protocolVersion loop.config.registration) nowMs)
        plane).coordinator.workers[loop.config.workerId]? = some worker ∧
          worker.registration = loop.config.registration := by
  rw [Machine.output, ControlPlane.service_workerMessage,
    delivered_answered _ _ (ControlPlane.relay_over _)] at joined
  rw [Machine.next, ControlPlane.service_workerMessage]
  obtain ⟨answer, answered⟩ := joined.resolve_left (not_not_intro requested)
  obtain ⟨reply, accepted⟩ := ControlPlane.relay_ok (Delivery.answered.inj answered)
  exact Coordinator.register_accepted ok accepted

theorem Sound.served_register (sound : loop.Sound plane) (ok : plane.coordinator.WellFormed) (nowMs : U64)
    (requested : loop.request = .register) (sent : loop.delivery = .sent) :
    (loop.delivered plane.actions.length (ControlPlane.service.output
      (.workerMessage (.register protocolVersion loop.config.registration) nowMs) plane)).Sound
        (ControlPlane.service.next
          (.workerMessage (.register protocolVersion loop.config.registration) nowMs) plane) := by
  have kept : plane.Kept (ControlPlane.service.next
      (.workerMessage (.register protocolVersion loop.config.registration) nowMs) plane) _ :=
    (ControlPlane.progress_next plane _).kept ok
  have unselected := sound.unselected (by simp [sent])
  have accepted := @register_joined _ loop plane ok nowMs requested
  rw [Machine.output, Machine.next, ControlPlane.service_workerMessage] at kept accepted ⊢
  rw [delivered_answered _ _ (ControlPlane.relay_over _)] at accepted ⊢
  refine ⟨fun selecting => absurd selecting unselected, fun joined => (accepted joined).2, ?_, sound.room,
    sound.free, sound.reported, by simp⟩
  intro joined task leased
  -- The worker was unknown, so it held nothing.
  rcases kept.leases _ task leased with before | ⟨_, _, resumed, _⟩
  · obtain ⟨worker, present⟩ := Coordinator.leases_registered ok before
    cases (accepted joined).1.symm.trans present
  · cases resumed

variable {nowMs : U64}

theorem Sound.served (sound : loop.Sound plane) (ok : plane.coordinator.WellFormed)
    (pending : loop.pending nowMs = some event) :
    (loop.delivered plane.actions.length (ControlPlane.service.output event plane)).Sound
      (ControlPlane.service.next event plane) := by
  unfold WorkerLoop.pending at pending
  split at pending
  next sent =>
    cases pending
    rw [message]
    cases requested : loop.request with
    | register => exact sound.served_register ok nowMs requested sent
    | heartbeat report =>
      apply sound.served_update ok nowMs (by simp [requested]) sent
      intro task unlisted
      rw [requested] at unlisted
      exact nomatch unlisted
    | poll acceptTasks => exact sound.served_poll ok requested sent
    | start task lease =>
      apply sound.served_update ok nowMs (by simp [requested]) sent
      rw [requested]
      rintro _ ⟨⟩ settled
      have superseded := WorkerRequest.start_settled settled
      exact Coordinator.superseded_unleased ok (ControlPlane.relay_error (Delivery.answered.inj superseded))
    | finish completion =>
      apply sound.served_update ok nowMs (by simp [requested]) sent
      rw [requested]
      rintro _ ⟨⟩ settled
      rcases WorkerRequest.finish_settled settled with ⟨reply, accepted⟩ | superseded
      · obtain ⟨_, finished⟩ := conclude_finished loop.worker completion
        obtain ⟨_, accepted⟩ := ControlPlane.relay_ok (Delivery.answered.inj accepted)
        exact Coordinator.finished_unleased ok finished accepted
      · exact Coordinator.superseded_unleased ok
          (ControlPlane.relay_error (Delivery.answered.inj superseded))
  next action waiting =>
    cases pending
    exact sound.served_resume ok nowMs waiting
  next => exact nomatch pending

omit [PhysicalPlanCodec] in
theorem pending_resume {action : Nat} {now : U64} (pending : loop.pending nowMs = some (.resume action now)) :
    loop.delivery = .underWay action := by
  unfold WorkerLoop.pending at pending
  split at pending
  next =>
    unfold message at pending
    split at pending <;> exact nomatch pending
  next =>
    cases pending
    assumption
  next => exact nomatch pending

theorem Sound.served_joined (sound : loop.Sound plane) (ok : plane.coordinator.WellFormed)
    (pending : loop.pending nowMs = some event)
    (joined : (loop.delivered plane.actions.length (ControlPlane.service.output event plane)).Joined) :
    loop.Joined ∨ plane.coordinator.workers[loop.config.workerId]? = none := by
  unfold WorkerLoop.pending at pending
  split at pending
  next sent =>
    cases pending
    cases requested : loop.request with
    | register =>
      rw [message, requested] at joined
      exact .inr (register_joined ok requested joined).1
    | _ => exact .inl (.inl (by simp [requested]))
  next action waiting =>
    obtain ⟨⟨_, polled⟩, _⟩ := sound.waits action waiting
    exact .inl (.inl (by simp [polled]))
  next => exact nomatch pending

omit [PhysicalPlanCodec] in
theorem delivered_config (loop : WorkerLoop) (action : Nat) (reply : Except Fault ControlReply) :
    (loop.delivered action reply).config = loop.config := by
  unfold delivered
  split <;> rfl

end

section

variable (loop : WorkerLoop)

@[simp] theorem nextTurn_config : loop.nextTurn.config = loop.config := by
  unfold nextTurn
  split
  next => rfl
  next => rfl

theorem nextTurn_joined : loop.nextTurn.Joined ↔ loop.Joined := by
  unfold nextTurn
  split
  next => rfl
  next => rfl

theorem select_config (branch : Branch) : (loop.select branch).config = loop.config := by
  cases branch with
  | heartbeat => rfl
  | shutdown =>
    rw [select]
    split
    next => rfl
    next => simp
  | poll =>
    rw [select]
    split
    next => rfl
    next => rfl
  | join index joined =>
    rw [select]
    split
    next => rfl
    next =>
      cases joined with
      | error => rfl
      | ok => rfl

theorem handle_config (message : CoordinatorMessage) : (loop.handle message).config = loop.config := by
  cases message with
  | assignTask =>
    rw [handle]
    split
    next => rfl
    next =>
      split
      next => rfl
      next => rfl
  | cancelQuery => simp [handle]

variable [PhysicalPlanCodec] (answer : Except Fault ControlReply)

theorem receive_config : (loop.receive answer).config = loop.config := by
  unfold receive
  split
  next => split <;> simp [exit]
  next => split <;> simp [exit]
  next =>
    split
    next => simp
    next =>
      split
      next => exact handle_config loop _
      next => rfl
    next => rfl
    next => rfl
  next =>
    split
    next => simp
    next => simp
    next => rfl
  next =>
    dsimp only
    split
    next => simp
    next => rfl

theorem receive_joined (joined : (loop.receive answer).Joined) : loop.Joined := by
  unfold receive at joined
  split at joined
  next requested =>
    split at joined
    next => exact (nextTurn_joined loop).mp joined
    next => exact joined
  next requested => exact .inl (by simp [requested])
  next requested => exact .inl (by simp [requested])
  next requested => exact .inl (by simp [requested])
  next requested => exact .inl (by simp [requested])

end

end WorkerLoop

namespace RemoteCluster

variable [PhysicalPlanCodec] {cluster : RemoteCluster}

structure Sound (cluster : RemoteCluster) : Prop where
  formed : cluster.plane.coordinator.WellFormed
  loops : ∀ (index : Nat) loop, cluster.loops[index]? = some loop → loop.Sound cluster.plane
  unique : ∀ (first second : Nat) one other, cluster.loops[first]? = some one →
    cluster.loops[second]? = some other → one.Joined → other.Joined →
    one.config.workerId = other.config.workerId → first = second

theorem Sound.update (sound : cluster.Sound) (index : Nat) {change : WorkerLoop → WorkerLoop}
    (keeps : ∀ loop, loop.Sound cluster.plane → (change loop).Sound cluster.plane)
    (config : ∀ loop, (change loop).config = loop.config)
    (joined : ∀ loop, loop.Sound cluster.plane → (change loop).Joined → loop.Joined) :
    (cluster.update index change).Sound := by
  have changed (place : Nat) (loop : WorkerLoop)
      (found : (cluster.loops.modify index change)[place]? = some loop) :
      ∃ old, cluster.loops[place]? = some old ∧ loop.Sound cluster.plane ∧
        loop.config = old.config ∧ (loop.Joined → old.Joined) := by
    rw [List.getElem?_modify] at found
    obtain ⟨old, before, same⟩ := Option.map_eq_some_iff.mp found
    have known := sound.loops place old before
    split at same
    next =>
      subst same
      exact ⟨old, before, keeps old known, config old, joined old known⟩
    next =>
      subst same
      exact ⟨_, before, known, rfl, id⟩
  refine ⟨sound.formed, ?_, ?_⟩
  · intro place loop found
    exact (changed place loop found).choose_spec.2.1
  · intro first second one other here there oneJoined otherJoined same
    obtain ⟨old, before, _, config, joined⟩ := changed first one here
    obtain ⟨old', before', _, config', joined'⟩ := changed second other there
    rw [config, config'] at same
    exact sound.unique first second old old' before before' (joined oneJoined) (joined' otherJoined) same

theorem Sound.plane (sound : cluster.Sound) {next : ControlPlane}
    (kept : cluster.plane.Kept next fun _ _ => False) : { cluster with plane := next }.Sound :=
  ⟨kept.formed, fun index loop found => (sound.loops index loop found).kept kept nofun, sound.unique⟩

theorem Sound.client (sound : cluster.Sound) {event : ControlEvent}
    (unpolled : ∀ workerId task reply, ¬cluster.plane.HandsOut event reply workerId task) :
    (cluster.client event).Sound := by
  have kept := (ControlPlane.progress_next cluster.plane event).kept sound.formed
  apply sound.plane
  exact ⟨kept.formed, kept.registration,
    fun workerId task leased => (kept.leases workerId task leased).imp_right (unpolled workerId task _),
    kept.actions⟩

theorem Sound.replace (sound : cluster.Sound) {index : Nat} {loop served : WorkerLoop}
    (here : cluster.loops[index]? = some loop) {next : ControlPlane}
    {handsOut : WorkerId → TaskAttemptId → Prop} (kept : cluster.plane.Kept next handsOut)
    (mine : served.Sound next) (config : served.config = loop.config)
    (joins : served.Joined →
      loop.Joined ∨ cluster.plane.coordinator.workers[loop.config.workerId]? = none)
    (foreign : ∀ (place : Nat) other, cluster.loops[place]? = some other → index ≠ place →
      ∀ task, handsOut other.config.workerId task → ¬other.Joined) :
    { plane := next, loops := cluster.loops.set index served : RemoteCluster }.Sound := by
  have apart (place : Nat) (other : WorkerLoop) (there : cluster.loops[place]? = some other)
      (different : index ≠ place) (servedJoined : served.Joined) (joined : other.Joined) :
      served.config.workerId ≠ other.config.workerId := by
    intro same
    rw [config] at same
    rcases joins servedJoined with before | absent
    · exact different (sound.unique index place loop other here there before joined same)
    · obtain ⟨worker, present, _⟩ := (sound.loops place other there).registered joined
      rw [← same, absent] at present
      exact nomatch present
  have placed (place : Nat) (found : WorkerLoop)
      (there : (cluster.loops.set index served)[place]? = some found) :
      index = place ∧ found = served ∨ index ≠ place ∧ cluster.loops[place]? = some found := by
    rw [List.getElem?_set] at there
    split at there
    next same =>
      split at there
      next => exact .inl ⟨same, (Option.some.inj there).symm⟩
      next => exact nomatch there
    next different => exact .inr ⟨different, there⟩
  refine ⟨kept.formed, ?_, ?_⟩
  · intro place found there
    rcases placed place found there with ⟨_, rfl⟩ | ⟨different, before⟩
    · exact mine
    · exact (sound.loops place found before).kept kept (foreign place found before different)
  · intro first second one other oneThere otherThere oneJoined otherJoined same
    rcases placed first one oneThere with ⟨rfl, rfl⟩ | ⟨different, before⟩
    · rcases placed second other otherThere with ⟨rfl, _⟩ | ⟨different, before⟩
      · rfl
      · exact absurd same (apart second other before different oneJoined otherJoined)
    · rcases placed second other otherThere with ⟨rfl, rfl⟩ | ⟨_, before'⟩
      · exact absurd same.symm (apart first one before different otherJoined oneJoined)
      · exact sound.unique first second one other before before' oneJoined otherJoined same

theorem Sound.serve (sound : cluster.Sound) (index : Nat) (nowMs : U64) :
    (cluster.serve index nowMs).Sound := by
  rw [RemoteCluster.serve]
  split
  next => exact sound
  next loop here =>
    have known := sound.loops index loop here
    split
    next => exact sound
    next event pending =>
      have kept := (ControlPlane.progress_next cluster.plane event).kept sound.formed
      refine sound.replace here kept (known.served sound.formed pending) (loop.delivered_config _ _)
        (known.served_joined sound.formed pending) ?_
      rintro place other there different task ⟨action, now, rfl, polling, _⟩ joined
      -- The poll belongs to the loop that is served, and the worker has no other loop.
      obtain ⟨⟨_, polled⟩, waiting | finished⟩ := known.waits action (WorkerLoop.pending_resume pending)
      · have same := ActionState.polling.inj (Option.some.inj (polling.symm.trans waiting))
        exact different
          (sound.unique index place loop other here there (.inl (by simp [polled])) joined same.symm)
      · exact nomatch polling.symm.trans finished

theorem Sound.spawn (sound : cluster.Sound) (config : WorkerConfig) :
    { cluster with loops := cluster.loops ++ [WorkerLoop.begin config] }.Sound := by
  have strange : ¬(WorkerLoop.begin config).Joined := by
    rintro (named | ⟨_, answered⟩)
    · exact named rfl
    · exact nomatch answered
  have placed (place : Nat) (found : WorkerLoop)
      (there : (cluster.loops ++ [WorkerLoop.begin config])[place]? = some found) :
      cluster.loops[place]? = some found ∨ found = WorkerLoop.begin config := by
    rw [List.getElem?_append] at there
    split at there
    next => exact .inl there
    next => exact .inr (List.mem_singleton.mp (List.mem_of_getElem? there))
  refine ⟨sound.formed, ?_, ?_⟩
  · intro place found there
    rcases placed place found there with before | rfl
    · exact sound.loops place found before
    · exact ⟨nofun, fun joined => absurd joined strange, fun joined => absurd joined strange,
        Nat.zero_le _, nofun, nofun, nofun⟩
  · intro first second one other oneThere otherThere oneJoined otherJoined same
    rcases placed first one oneThere with before | rfl
    · rcases placed second other otherThere with before' | rfl
      · exact sound.unique first second one other before before' oneJoined otherJoined same
      · exact absurd otherJoined strange
    · exact absurd oneJoined strange

theorem Sound.advance (sound : cluster.Sound) (event : ClusterEvent) : (cluster.advance event).Sound := by
  cases event with
  | spawn config =>
    rw [RemoteCluster.advance]
    split
    next => exact sound.spawn config
    next => exact sound
  | submitStage stage | cancelQuery queryId reason => exact sound.client (by simp [ControlPlane.HandsOut])
  | announce action =>
    rw [RemoteCluster.advance]
    split
    next message workers cancelling =>
      apply sound.client
      rintro workerId task reply ⟨_, _, ⟨⟩, polling, _⟩
      exact nomatch polling.symm.trans cancelling
    next => exact sound
  | advanceTime nowMs =>
    apply sound.plane
    refine ⟨Coordinator.next_wellFormed sound.formed _,
      fun _ _ present => Coordinator.next_registration sound.formed _ present, ?_, fun _ _ found => found⟩
    intro workerId task leased
    rcases Coordinator.next_leases sound.formed leased with before | ⟨_, _, called | called⟩
    · exact .inl before
    · exact nomatch called
    · exact nomatch called
  | select index branch =>
    refine sound.update index ?_ ?_ ?_
    · intro loop known
      split
      next selecting => exact known.select selecting branch
      next => exact known
    · intro loop
      split
      next => exact loop.select_config branch
      next => rfl
    · intro loop known joined
      split at joined
      next selecting => exact (known.selecting selecting).1
      next => exact joined
  | serve index nowMs => exact sound.serve index nowMs
  | receive index =>
    refine sound.update index ?_ ?_ ?_
    · intro loop known
      split
      next waiting answered => exact known.receive waiting answered
      next => exact known
    · intro loop
      split
      next => exact loop.receive_config _
      next => rfl
    · intro loop _ joined
      split at joined
      next => exact loop.receive_joined _ joined
      next => exact joined
  | giveUp index error =>
    refine sound.update index ?_ ?_ ?_
    · intro loop known
      split
      next => exact known.exit error
      next => exact known
    · intro loop
      split
      next => rfl
      next => rfl
    · intro loop _ joined
      split at joined
      next => exact joined
      next => exact joined

theorem sound_run {config : CoordinatorConfig} {start : RemoteCluster}
    (created : RemoteCluster.new config = .ok start) (events : List ClusterEvent) :
    (machine.exec events start).Sound := by
  have reached : machine.Reaches start (machine.exec events start) := ⟨events, rfl⟩
  apply reached.induct Sound
  · obtain ⟨plane, fresh, same⟩ := bind_ok.mp created
    obtain rfl := pure_eq_ok.mp same
    obtain ⟨coordinator, made, same⟩ := bind_ok.mp fresh
    obtain rfl := pure_eq_ok.mp same
    exact ⟨Coordinator.new_wellFormed made, by simp, by simp⟩
  · exact fun cluster event _ sound => sound.advance event

omit [PhysicalPlanCodec] in
theorem available_slots {loop : WorkerLoop} {plane : ControlPlane} (sound : loop.Sound plane)
    {report : WorkerHeartbeat} (requested : loop.request = .heartbeat report) :
    report.workerId = loop.config.workerId ∧
      report.availableSlots.val = loop.config.slots.val - loop.worker.active.length ∧
      report.availableMemoryBytes ≤ loop.config.memoryBytes := by
  obtain ⟨observedAtMs, reservedBytes, rfl⟩ := sound.reported report requested
  have small : loop.worker.active.length < 2 ^ 32 := by
    have bound := loop.config.slots.isLt
    have room := sound.room
    omega
  refine ⟨rfl, ?_, ?_⟩
  · rw [WorkerLoop.heartbeatReport, Word.val_saturatingSub, Word.val_truncate small]
  · exact Nat.sub_le _ _

theorem heartbeats_within_slots {config : CoordinatorConfig} {start : RemoteCluster}
    (created : RemoteCluster.new config = .ok start) (events : List ClusterEvent) {index : Nat}
    {loop : WorkerLoop} (running : (machine.exec events start).loops[index]? = some loop)
    {report : WorkerHeartbeat} (requested : loop.request = .heartbeat report) :
    let plane := (machine.exec events start).plane
    (∀ task, plane.coordinator.Leases loop.config.workerId task → task ∈ loop.worker.active) ∧
    report.availableSlots.val = loop.config.slots.val - loop.worker.active.length ∧
    ∃ worker, plane.coordinator.workers[loop.config.workerId]? = some worker ∧ ∀ receivedAtMs,
      report.availableSlots ≤ Word.saturatingSub worker.registration.slots
        ((plane.coordinator.advanced receivedAtMs).activeTasksForWorker loop.config.workerId) ∧
      (worker.lastObservedAtMs ≤ report.observedAtMs →
        ControlPlane.service.output (loop.message receivedAtMs) plane = .ok .accepted) := by
  intro plane
  have sound := sound_run created events
  have known := sound.loops index loop running
  have joined : loop.Joined := .inl (by simp [requested])
  obtain ⟨named, slots, memory⟩ := available_slots known requested
  obtain ⟨worker, present, registered⟩ := known.registered joined
  have recorded (task : TaskAttemptId) (leased : plane.coordinator.Leases loop.config.workerId task) :
      task ∈ loop.worker.active := by
    have listed := known.recorded joined task leased
    rw [WorkerLoop.unrecorded, requested] at listed
    split at listed
    next => exact listed.resolve_right id
    next => exact listed.resolve_right id
  refine ⟨recorded, slots, worker, present, ?_⟩
  intro receivedAtMs
  -- The passage of time only takes leases away.
  have formed := Coordinator.advanced_wellFormed receivedAtMs sound.formed
  have few := Coordinator.occupied_le formed fun task leased =>
    recorded task (Coordinator.advanced_leases receivedAtMs leased)
  obtain ⟨later, found, _, _⟩ := Coordinator.advanced_registration receivedAtMs present
  have counted := Coordinator.activeTasks_eq formed found
  have fits : report.availableSlots ≤ Word.saturatingSub worker.registration.slots
      ((plane.coordinator.advanced receivedAtMs).activeTasksForWorker loop.config.workerId) := by
    rw [Fin.le_def, Word.val_saturatingSub, counted, registered, slots]
    exact Nat.sub_le_sub_left few _
  refine ⟨fits, fun forward => ?_⟩
  rw [WorkerLoop.message, requested, Machine.output, ControlPlane.service_workerMessage]
  rw [← named] at present fits
  rw [Coordinator.heartbeat_accepted sound.formed receivedAtMs present fits
    (by rw [registered]; exact memory) forward]
  rfl

end RemoteCluster

namespace RemoteCluster

open Coordinator.Sample

def sampleStart : RemoteCluster :=
  { plane := { coordinator := Coordinator.Sample.start, pendingMessages := ∅, actions := [] }
    loops := [] }

def sampleEvents : List ClusterEvent :=
  [.spawn { coordinatorEndpoint := "http://c", workerId := worker, slots := 2 }, .serve 0 0, .receive 0,
    .submitStage scanStage, .select 0 .poll, .serve 0 0, .serve 0 0, .receive 0, .serve 0 0, .receive 0,
    .select 0 (.heartbeat 1 0)]

set_option maxRecDepth 4000 in
theorem heartbeats_within_slots_one_task :
    let plane := (machine.exec sampleEvents sampleStart).plane
    plane.coordinator.Leases worker (task 0 0) ∧
      ∀ other, plane.coordinator.Leases worker other → other ∈ [task 0 0] := by
  intro plane
  have created : RemoteCluster.new {} = .ok sampleStart := rfl
  have running : (machine.exec sampleEvents sampleStart).loops[0]? = some
      { config := { coordinatorEndpoint := "http://c", workerId := worker, slots := 2 }
        worker :=
          { workerId := worker
            maxTerminalTasks := none
            active := [task 0 0]
            cancelledQueries := ∅
            stopping := false
            summary := {} }
        tasks := [(task 0 0, ⟨worker, 0, 30000⟩)]
        request := .heartbeat ⟨worker, 1, 1, 536870912⟩
        delivery := .sent
        state := .waiting } := by rfl
  refine ⟨⟨(query, 0), 0, .active (task 0 0) worker ⟨worker, 0, 30000⟩ (some 0), ⟨worker, 0, 30000⟩, ?_,
    .inr ⟨some 0, rfl⟩⟩, ?_⟩
  · decide
  · exact (heartbeats_within_slots created sampleEvents running rfl).1

end RemoteCluster

end SparkX
