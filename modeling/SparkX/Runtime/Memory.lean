import SparkX.Error
import SparkX.Shared.OrderedMap
import SparkX.Shared.Transition
import SparkX.Shared.Word

set_option autoImplicit false

-- The budget of a query in `memory.rs`, shared by the operators that reserve from it. A call is cut
-- at its atomic accesses; between two of them any other operator may run, so a list of inputs is
-- one interleaving. `Ordering::AcqRel` orders the accesses to each counter as this machine does.

namespace SparkX

open Std (TreeMap)

structure MemoryState where
  limitBytes : U64
  reservedBytes : U64
  peakBytes : U64

-- The bytes that `reserve` is called with, and what the reservation holds when it succeeds.
structure MemoryDemand where
  bytes : U64
  claim : U64

-- A call between two of its atomic accesses.
inductive MemoryCall where
  -- `reserve`, before the load
  | reserving (demand : MemoryDemand)
  -- `reserve`, with what it last read
  | exchanging (demand : MemoryDemand) (current : U64)
  -- `reserve`, before `fetch_max`
  | raising (demand : MemoryDemand) (next : U64)
  -- `release`, before `fetch_sub`
  | releasing (bytes : U64)

-- An operator with at most one `MemoryReservation`: `&mut self` admits one call at a time.
structure MemoryOwner where
  bytes : Option U64 := none
  call : Option MemoryCall := none

inductive MemoryAccess where
  | tryReserve (bytes : U64)
  | tryGrow (additionalBytes : U64)
  | shrink (bytes : U64)
  | drop
  | load
  -- `compare_exchange_weak` may fail although it reads what it expects
  | compareExchange (spurious : Bool)
  | fetchMax
  | fetchSub

inductive MemoryAnswer where
  -- no such access is due
  | ignored
  | started
  | observed
  | granted (bytes : U64)
  | refused (error : SparkXError)
  | finished
  | returned (bytes : U64)
  | panicked (message : String)

namespace MemoryState

def new (limitBytes : U64) : MemoryState :=
  { limitBytes := max limitBytes 1, reservedBytes := 0, peakBytes := 0 }

def overflowed : SparkXError := .resourceExhausted "query memory reservation overflowed"

def exceeded (memory : MemoryState) (next : U64) : SparkXError := .resourceExhausted
  s!"query requires at least {next.val} bytes but its limit is {memory.limitBytes.val} bytes"

-- One turn of the loop in `reserve`, up to its `compare_exchange_weak`.
def turn (memory : MemoryState) (demand : MemoryDemand) (current : U64) (spurious : Bool) :
    MemoryAnswer × MemoryState × Option MemoryCall :=
  match Word.checkedAdd current demand.bytes with
  | none => (.refused overflowed, memory, none)
  | some next =>
    if memory.limitBytes < next then (.refused (memory.exceeded next), memory, none)
    else if memory.reservedBytes = current ∧ spurious = false then
      (.granted demand.bytes, { memory with reservedBytes := next }, some (.raising demand next))
    else (.observed, memory, some (.exchanging demand memory.reservedBytes))

-- `release`; the subtraction wraps, as `fetch_sub` does.
def release (memory : MemoryState) (bytes : U64) : MemoryAnswer × MemoryState :=
  if bytes = 0 then (.returned 0, memory)
  else
    (if bytes ≤ memory.reservedBytes then .returned bytes
      else .panicked "released more query memory than reserved",
     { memory with reservedBytes := memory.reservedBytes - bytes })

def access (memory : MemoryState) (owner : MemoryOwner) :
    MemoryAccess → MemoryAnswer × MemoryState × MemoryOwner
  | .tryReserve bytes =>
    match owner with
    | ⟨none, none⟩ => (.started, memory, ⟨none, some (.reserving ⟨bytes, bytes⟩)⟩)
    | _ => (.ignored, memory, owner)
  | .tryGrow additionalBytes =>
    match owner with
    | ⟨some own, none⟩ =>
      match Word.checkedAdd own additionalBytes with
      | none => (.refused (.resourceExhausted "memory reservation size overflowed"), memory, owner)
      | some next => (.started, memory, ⟨some own, some (.reserving ⟨additionalBytes, next⟩)⟩)
    | _ => (.ignored, memory, owner)
  | .shrink bytes =>
    match owner with
    | ⟨some own, none⟩ =>
      let released := min bytes own
      (.started, memory, ⟨some (own - released), some (.releasing released)⟩)
    | _ => (.ignored, memory, owner)
  | .drop =>
    match owner with
    | ⟨some own, none⟩ => (.started, memory, ⟨none, some (.releasing own)⟩)
    | _ => (.ignored, memory, owner)
  | .load =>
    match owner.call with
    | some (.reserving demand) =>
      (.observed, memory, { owner with call := some (.exchanging demand memory.reservedBytes) })
    | _ => (.ignored, memory, owner)
  | .compareExchange spurious =>
    match owner.call with
    | some (.exchanging demand current) =>
      let (answer, memory, call) := memory.turn demand current spurious
      (answer, memory, { owner with call })
    | _ => (.ignored, memory, owner)
  | .fetchMax =>
    match owner.call with
    | some (.raising demand next) =>
      (.finished, { memory with peakBytes := max memory.peakBytes next }, ⟨some demand.claim, none⟩)
    | _ => (.ignored, memory, owner)
  | .fetchSub =>
    match owner.call with
    | some (.releasing bytes) =>
      let (answer, memory) := memory.release bytes
      (answer, memory, { owner with call := none })
    | _ => (.ignored, memory, owner)

end MemoryState

-- A query's budget and the operators that share it.
structure QueryMemory where
  state : MemoryState
  owners : TreeMap Nat MemoryOwner

namespace QueryMemory

def new (limitBytes : U64) : QueryMemory := { state := .new limitBytes, owners := ∅ }

def owner (memory : QueryMemory) (index : Nat) : MemoryOwner := memory.owners[index]?.getD {}

def accesses : Machine QueryMemory (Nat × MemoryAccess) MemoryAnswer where
  step input memory :=
    let (answer, state, owner) := memory.state.access (memory.owner input.1) input.2
    (answer, { state, owners := memory.owners.insert input.1 owner })

end QueryMemory

-- What the owner's reservation and its call in progress hold of the budget.
def MemoryOwner.charge (owner : MemoryOwner) : Nat :=
  (owner.bytes.elim 0 (·.val)) + match owner.call with
    | some (.raising demand _) => demand.bytes.val
    | some (.releasing bytes) => bytes.val
    | _ => 0

def MemoryOwner.demand (owner : MemoryOwner) : Option MemoryDemand :=
  match owner.call with
  | some (.reserving demand) | some (.exchanging demand _) | some (.raising demand _) => some demand
  | _ => none

def MemoryOwner.Waits (owner : MemoryOwner) : Prop :=
  (∃ demand, owner.call = some (.reserving demand)) ∨
    ∃ demand current, owner.call = some (.exchanging demand current)

inductive MemoryState.Moves (memory : MemoryState) (owner : MemoryOwner) :
    MemoryAnswer → MemoryState → MemoryOwner → Prop where
  | stays : Moves memory owner .ignored memory owner
  | starts {demand : MemoryDemand} (idle : owner.call = none)
    (claim : demand.claim.val = owner.bytes.elim 0 (·.val) + demand.bytes.val) :
    Moves memory owner .started memory { owner with call := some (.reserving demand) }
  | overflows (error : SparkXError) : Moves memory owner (.refused error) memory owner
  | gives {kept : Option U64} {released : U64} (idle : owner.call = none)
    (own : kept.elim 0 (·.val) + released.val = owner.bytes.elim 0 (·.val)) :
    Moves memory owner .started memory ⟨kept, some (.releasing released)⟩
  | observes {demand : MemoryDemand} (waits : owner.Waits) (same : owner.demand = some demand) :
    Moves memory owner .observed memory
      { owner with call := some (.exchanging demand memory.reservedBytes) }
  | refuses (error : SparkXError) (waits : owner.Waits) :
    Moves memory owner (.refused error) memory { owner with call := none }
  | grants {demand : MemoryDemand} {next : U64} (waits : owner.Waits)
    (same : owner.demand = some demand)
    (sum : next.val = memory.reservedBytes.val + demand.bytes.val) (fits : next ≤ memory.limitBytes) :
    Moves memory owner (.granted demand.bytes) { memory with reservedBytes := next }
      { owner with call := some (.raising demand next) }
  | finishes {demand : MemoryDemand} {next : U64} (raising : owner.call = some (.raising demand next)) :
    Moves memory owner .finished { memory with peakBytes := max memory.peakBytes next }
      ⟨some demand.claim, none⟩
  | returns {bytes left : U64} (releasing : owner.call = some (.releasing bytes))
    (covered : bytes ≤ memory.reservedBytes) (rest : left.val + bytes.val = memory.reservedBytes.val) :
    Moves memory owner (.returned bytes) { memory with reservedBytes := left }
      { owner with call := none }
  | underflows {bytes left : U64} (message : String) (releasing : owner.call = some (.releasing bytes))
    (short : memory.reservedBytes < bytes) :
    Moves memory owner (.panicked message) { memory with reservedBytes := left }
      { owner with call := none }

namespace MemoryState

variable (memory : MemoryState) (owner : MemoryOwner)

theorem turn_moves {demand : MemoryDemand} {current : U64} (spurious : Bool)
    (exchanging : owner.call = some (.exchanging demand current)) :
    memory.Moves owner (memory.turn demand current spurious).1 (memory.turn demand current spurious).2.1
      { owner with call := (memory.turn demand current spurious).2.2 } := by
  have waits : owner.Waits := .inr ⟨demand, current, exchanging⟩
  have same : owner.demand = some demand := by simp [MemoryOwner.demand, exchanging]
  unfold turn
  split
  next => exact .refuses _ waits
  next next sum =>
    split
    next => exact .refuses _ waits
    next within =>
      split
      next read =>
        obtain ⟨rfl, _⟩ := read
        exact .grants waits same (Word.checkedAdd_eq_some.mp sum) (not_lt.mp within)
      next => exact .observes waits same

theorem release_moves {bytes : U64} (releasing : owner.call = some (.releasing bytes)) :
    memory.Moves owner (memory.release bytes).1 (memory.release bytes).2 { owner with call := none } := by
  unfold release
  split
  next zero =>
    subst zero
    exact .returns releasing (Fin.zero_le _) rfl
  next =>
    by_cases covered : bytes ≤ memory.reservedBytes
    next =>
      rw [if_pos covered]
      apply Moves.returns releasing covered
      rw [Fin.sub_val_of_le covered]
      have := Fin.le_def.mp covered
      omega
    next =>
      rw [if_neg covered]
      exact .underflows _ releasing (not_le.mp covered)

theorem access_moves (request : MemoryAccess) :
    memory.Moves owner (memory.access owner request).1 (memory.access owner request).2.1
      (memory.access owner request).2.2 := by
  obtain ⟨own, call⟩ := owner
  cases request with
  | tryReserve bytes =>
    cases own <;> cases call
    case none.none => exact .starts rfl (Nat.zero_add _).symm
    all_goals exact .stays
  | tryGrow additional =>
    cases own <;> cases call
    case some.none own =>
      simp only [access]
      split
      next => exact .overflows _
      next next sum => exact .starts rfl (Word.checkedAdd_eq_some.mp sum)
    all_goals exact .stays
  | shrink bytes =>
    cases own <;> cases call
    case some.none own =>
      apply Moves.gives rfl
      change (own - min bytes own).val + (min bytes own).val = own.val
      have within : min bytes own ≤ own := min_le_right bytes own
      rw [Fin.sub_val_of_le within]
      have := Fin.le_def.mp within
      omega
    all_goals exact .stays
  | drop =>
    cases own <;> cases call
    case some.none own => exact .gives rfl (Nat.zero_add _)
    all_goals exact .stays
  | load =>
    rcases call with _ | ⟨demand⟩ | ⟨demand, current⟩ | ⟨demand, next⟩ | ⟨bytes⟩
    case some.reserving => exact .observes (.inl ⟨demand, rfl⟩) rfl
    all_goals exact .stays
  | compareExchange spurious =>
    rcases call with _ | ⟨demand⟩ | ⟨demand, current⟩ | ⟨demand, next⟩ | ⟨bytes⟩
    case some.exchanging => exact turn_moves memory _ spurious rfl
    all_goals exact .stays
  | fetchMax =>
    rcases call with _ | ⟨demand⟩ | ⟨demand, current⟩ | ⟨demand, next⟩ | ⟨bytes⟩
    case some.raising => exact .finishes rfl
    all_goals exact .stays
  | fetchSub =>
    rcases call with _ | ⟨demand⟩ | ⟨demand, current⟩ | ⟨demand, next⟩ | ⟨bytes⟩
    case some.releasing => exact release_moves memory _ rfl
    all_goals exact .stays

end MemoryState

def MemoryOwner.Claims (owner : MemoryOwner) : Prop :=
  ∀ demand ∈ owner.demand, demand.claim.val = owner.bytes.elim 0 (·.val) + demand.bytes.val

def MemoryAnswer.grantedBytes : MemoryAnswer → Nat
  | .granted bytes => bytes.val
  | _ => 0

def MemoryAnswer.returnedBytes : MemoryAnswer → Nat
  | .returned bytes => bytes.val
  | _ => 0

namespace MemoryState.Moves

variable {memory memory' : MemoryState} {owner owner' : MemoryOwner} {answer : MemoryAnswer}

theorem waits_charge (waits : owner.Waits) : owner.charge = owner.bytes.elim 0 (·.val) := by
  rcases waits with ⟨demand, call⟩ | ⟨demand, current, call⟩ <;> simp [MemoryOwner.charge, call]

theorem releasing_le {bytes : U64} (covered : owner.charge ≤ memory.reservedBytes.val)
    (releasing : owner.call = some (.releasing bytes)) : bytes ≤ memory.reservedBytes := by
  simp only [MemoryOwner.charge, releasing] at covered
  exact Fin.le_def.mpr (by omega)

theorem not_panicked (moves : memory.Moves owner answer memory' owner')
    (covered : owner.charge ≤ memory.reservedBytes.val) (message : String) :
    answer ≠ .panicked message := by
  cases moves with
  | underflows _ releasing short => exact absurd short (not_lt.mpr (releasing_le covered releasing))
  | _ => exact nofun

theorem charged (moves : memory.Moves owner answer memory' owner')
    (covered : owner.charge ≤ memory.reservedBytes.val) (claims : owner.Claims) :
    memory'.reservedBytes.val + owner.charge = memory.reservedBytes.val + owner'.charge := by
  cases moves with
  | stays | overflows => rfl
  | starts idle _ => simp [MemoryOwner.charge, idle]
  | gives idle own =>
    simp only [MemoryOwner.charge, idle]
    omega
  | observes waits _ | refuses _ waits =>
    rw [waits_charge waits]
    rfl
  | grants waits _ sum _ =>
    rw [waits_charge waits]
    simp only [MemoryOwner.charge]
    omega
  | @finishes demand _ raising =>
    have claim := claims demand (by simp [MemoryOwner.demand, raising])
    simp only [MemoryOwner.charge, raising, Option.elim_some]
    omega
  | returns releasing _ rest =>
    simp only [MemoryOwner.charge, releasing]
    omega
  | underflows _ releasing short => exact absurd short (not_lt.mpr (releasing_le covered releasing))

theorem bounded (moves : memory.Moves owner answer memory' owner')
    (covered : owner.charge ≤ memory.reservedBytes.val)
    (bounded : memory.reservedBytes ≤ memory.limitBytes) :
    memory'.limitBytes = memory.limitBytes ∧ memory'.reservedBytes ≤ memory.limitBytes := by
  cases moves with
  | grants _ _ _ fits => exact ⟨rfl, fits⟩
  | @returns _ left _ _ rest =>
    have within : left ≤ memory.reservedBytes := Fin.le_def.mpr (by omega)
    exact ⟨rfl, within.trans bounded⟩
  | underflows _ releasing short => exact absurd short (not_lt.mpr (releasing_le covered releasing))
  | _ => exact ⟨rfl, bounded⟩

theorem claims (moves : memory.Moves owner answer memory' owner') (claims : owner.Claims) :
    owner'.Claims := by
  cases moves with
  | stays | overflows => exact claims
  | starts _ claim =>
    intro demand same
    cases same
    exact claim
  | observes _ same | grants _ same =>
    intro demand found
    cases found
    exact claims _ same
  | _ => exact nofun

theorem ledger (moves : memory.Moves owner answer memory' owner')
    (covered : owner.charge ≤ memory.reservedBytes.val) :
    memory'.reservedBytes.val + answer.returnedBytes =
      memory.reservedBytes.val + answer.grantedBytes := by
  cases moves with
  | grants _ _ sum _ => exact sum
  | returns _ _ rest => exact rest
  | underflows _ releasing short => exact absurd short (not_lt.mpr (releasing_le covered releasing))
  | _ => rfl

theorem waits_back (moves : memory.Moves owner answer memory' owner') (busy : owner.call ≠ none)
    (waits : owner'.Waits) : owner.Waits ∧ owner'.bytes = owner.bytes ∧ memory' = memory := by
  cases moves with
  | stays | overflows => exact ⟨waits, rfl, rfl⟩
  | starts idle | gives idle => exact absurd idle busy
  | observes before => exact ⟨before, rfl, rfl⟩
  | refuses | grants | finishes | returns | underflows => simp [MemoryOwner.Waits] at waits

theorem waits_call (waits : owner.Waits) (demand : MemoryDemand) (next : U64) :
    owner.call ≠ some (.raising demand next) := by
  rcases waits with ⟨_, call⟩ | ⟨_, _, call⟩ <;> simp [call]

theorem peak_cases (moves : memory.Moves owner answer memory' owner')
    (covered : owner.charge ≤ memory.reservedBytes.val) :
    (memory'.peakBytes = memory.peakBytes ∧ memory'.reservedBytes ≤ memory.reservedBytes ∧
      ∀ demand next, owner'.call = some (.raising demand next) ↔
        owner.call = some (.raising demand next)) ∨
    (∃ demand, memory'.peakBytes = memory.peakBytes ∧
      owner'.call = some (.raising demand memory'.reservedBytes) ∧
      ∀ demand next, owner.call ≠ some (.raising demand next)) ∨
    ∃ demand next, owner.call = some (.raising demand next) ∧ owner'.call = none ∧
      memory'.reservedBytes = memory.reservedBytes ∧
      memory'.peakBytes = max memory.peakBytes next := by
  cases moves with
  | stays | overflows => exact .inl ⟨rfl, le_rfl, fun _ _ => Iff.rfl⟩
  | starts idle | gives idle => exact .inl ⟨rfl, le_rfl, by simp [idle]⟩
  | observes waits | refuses _ waits =>
    exact .inl ⟨rfl, le_rfl, fun demand next => iff_of_false nofun (waits_call waits demand next)⟩
  | @grants demand _ waits => exact .inr (.inl ⟨demand, rfl, rfl, waits_call waits⟩)
  | @finishes demand next raising => exact .inr (.inr ⟨demand, next, raising, rfl, rfl, rfl⟩)
  | @returns _ left releasing _ rest =>
    have within : left ≤ memory.reservedBytes := Fin.le_def.mpr (by omega)
    exact .inl ⟨rfl, within, by simp [releasing]⟩
  | underflows _ releasing short => exact absurd short (not_lt.mpr (releasing_le covered releasing))

end MemoryState.Moves

namespace QueryMemory

variable {memory : QueryMemory}

theorem owner_next (memory : QueryMemory) (index other : Nat) (request : MemoryAccess) :
    (accesses.next (index, request) memory).owner other =
      if index = other then (memory.state.access (memory.owner index) request).2.2
      else memory.owner other := by
  change ((memory.owners.insert index _)[other]?).getD {} = _
  rw [OrderedMap.getElem?_insert]
  split <;> rfl

theorem next_moves (memory : QueryMemory) (index : Nat) (request : MemoryAccess) :
    memory.state.Moves (memory.owner index) (accesses.output (index, request) memory)
      (accesses.next (index, request) memory).state
      ((accesses.next (index, request) memory).owner index) := by
  rw [owner_next, if_pos rfl]
  exact MemoryState.access_moves _ _ request

def held (memory : QueryMemory) : Nat := OrderedMap.total (fun _ => MemoryOwner.charge) memory.owners

theorem held_next (memory : QueryMemory) (index : Nat) (request : MemoryAccess) :
    (accesses.next (index, request) memory).held + (memory.owner index).charge =
      memory.held + ((accesses.next (index, request) memory).owner index).charge := by
  have total := OrderedMap.total_insert (fun _ => MemoryOwner.charge) memory.owners index
    (memory.state.access (memory.owner index) request).2.2
  rw [owner_next, if_pos rfl]
  have old : ((memory.owners[index]?).map MemoryOwner.charge).getD 0 = (memory.owner index).charge := by
    unfold owner
    cases memory.owners[index]? <;> rfl
  rw [← old]
  exact total

theorem charge_le_held (memory : QueryMemory) (index : Nat) :
    (memory.owner index).charge ≤ memory.held := by
  unfold owner
  cases present : memory.owners[index]? with
  | none => exact Nat.zero_le _
  | some owner => exact OrderedMap.weight_le_total (fun _ => MemoryOwner.charge) present

structure Accounted (memory : QueryMemory) : Prop where
  charged : memory.state.reservedBytes.val = memory.held
  bounded : memory.state.reservedBytes ≤ memory.state.limitBytes
  claims : ∀ index, (memory.owner index).Claims

theorem accounted_new (limitBytes : U64) : (new limitBytes).Accounted where
  charged := rfl
  bounded := Fin.zero_le _
  claims _ := nofun

theorem Accounted.covered (accounted : memory.Accounted) (index : Nat) :
    (memory.owner index).charge ≤ memory.state.reservedBytes.val :=
  accounted.charged ▸ charge_le_held memory index

theorem Accounted.next (accounted : memory.Accounted) (input : Nat × MemoryAccess) :
    (accesses.next input memory).Accounted := by
  obtain ⟨index, request⟩ := input
  have moves := next_moves memory index request
  have covered := accounted.covered index
  constructor
  case charged =>
    have changed := moves.charged covered (accounted.claims index)
    have total := held_next memory index request
    have charged := accounted.charged
    omega
  case bounded =>
    obtain ⟨limit, bounded⟩ := moves.bounded covered accounted.bounded
    exact limit ▸ bounded
  case claims =>
    intro other
    by_cases here : index = other
    next =>
      subst here
      exact moves.claims (accounted.claims index)
    next =>
      rw [owner_next, if_neg here]
      exact accounted.claims other

theorem accounted_exec (limitBytes : U64) (inputs : List (Nat × MemoryAccess)) :
    (accesses.exec inputs (new limitBytes)).Accounted :=
  Machine.Reaches.induct ⟨inputs, rfl⟩ Accounted (accounted_new limitBytes)
    fun _ input _ accounted => accounted.next input

-- What is reserved now is what was granted in the run and has not been returned.
def Balanced (history : List ((Nat × MemoryAccess) × MemoryAnswer)) (memory : QueryMemory) : Prop :=
  memory.state.reservedBytes.val + (history.map (·.2.returnedBytes)).sum =
    (history.map (·.2.grantedBytes)).sum

theorem balanced_exec (limitBytes : U64) (inputs : List (Nat × MemoryAccess)) :
    Balanced (accesses.trace inputs (new limitBytes)) (accesses.exec inputs (new limitBytes)) := by
  apply Machine.trace_induct Balanced (by rfl)
  intro history memory input reached balance
  obtain ⟨inputs, rfl⟩ := reached
  obtain ⟨index, request⟩ := input
  have covered := (accounted_exec limitBytes inputs).covered index
  have moved := (next_moves _ index request).ledger covered
  unfold Balanced at balance ⊢
  simp only [List.map_append, List.map_singleton, List.sum_append, List.sum_singleton]
  omega

end QueryMemory

section

def MemoryAccess.reserves : MemoryAccess → Bool
  | .tryReserve _ | .tryGrow _ => true
  | _ => false

def MemoryAccess.begins : MemoryAccess → Bool
  | .tryReserve _ | .tryGrow _ | .shrink _ | .drop => true
  | _ => false

variable {memory : QueryMemory} {index : Nat}

variable {request : MemoryAccess}

theorem MemoryState.access_idle {memory : MemoryState} {owner : MemoryOwner} (idle : owner.call = none)
    (continues : request.begins = false) : memory.access owner request = (.ignored, memory, owner) := by
  cases request <;> simp_all [MemoryState.access, MemoryAccess.begins]

theorem MemoryState.compareExchange_refused {memory : MemoryState} {owner : MemoryOwner}
    {spurious : Bool} {error : SparkXError}
    (refused : (memory.access owner (.compareExchange spurious)).1 = .refused error) :
    owner.Waits ∧ (memory.access owner (.compareExchange spurious)).2 =
      (memory, { owner with call := none }) := by
  simp only [MemoryState.access] at refused ⊢
  split at refused
  next demand current exchanging =>
    refine ⟨.inr ⟨demand, current, exchanging⟩, ?_⟩
    unfold MemoryState.turn at refused ⊢
    split
    next => rfl
    next next sum =>
      simp only [sum] at refused
      split
      next => rfl
      next within =>
        rw [if_neg within] at refused
        split at refused <;> exact nomatch refused
  next => exact nomatch refused

theorem MemoryState.begin_waits {memory : MemoryState} {owner : MemoryOwner} {request : MemoryAccess}
    (idle : owner.call = none) (reserves : request.reserves = true) :
    (memory.access owner request).2.1 = memory ∧
      (memory.access owner request).2.2.bytes = owner.bytes ∧
      (∀ error, (memory.access owner request).1 = .refused error →
        (memory.access owner request).2.2 = owner) := by
  obtain ⟨own, call⟩ := owner
  cases idle
  cases request with
  | tryReserve => cases own <;> exact ⟨rfl, rfl, nofun⟩
  | tryGrow =>
    cases own with
    | none => exact ⟨rfl, rfl, nofun⟩
    | some own =>
      simp only [access]
      split
      next => exact ⟨rfl, rfl, fun _ _ => rfl⟩
      next => exact ⟨rfl, rfl, nofun⟩
  | _ => exact nomatch reserves

namespace QueryMemory

-- While a call waits, none of its accesses has changed the budget or the reservation. The induction
-- is on the run, from its end: only there is the call known to wait.
theorem waits_exec (during : List (Nat × MemoryAccess))
    (alone : ∀ input ∈ during, input.1 = index → input.2.begins = false)
    (waits : ((accesses.exec during memory).owner index).Waits) :
    (memory.owner index).Waits ∧
      ((accesses.exec during memory).owner index).bytes = (memory.owner index).bytes ∧
      ∀ done input, done ++ [input] <+: during → input.1 = index →
        (accesses.next input (accesses.exec done memory)).state = (accesses.exec done memory).state := by
  induction during generalizing memory with
  | nil =>
    refine ⟨waits, rfl, ?_⟩
    intro done input within
    simp at within
  | cons first rest ih =>
    obtain ⟨later, same, quiet⟩ := ih (fun input member => alone input (List.mem_cons_of_mem _ member)) waits
    obtain ⟨actor, request⟩ := first
    -- The first access of the run, once its effect on the owner and on the budget is known.
    have assemble (before : (memory.owner index).Waits)
        (kept : ((accesses.next (actor, request) memory).owner index).bytes = (memory.owner index).bytes)
        (state : actor = index → (accesses.next (actor, request) memory).state = memory.state) :
        (memory.owner index).Waits ∧
          ((accesses.exec ((actor, request) :: rest) memory).owner index).bytes =
            (memory.owner index).bytes ∧
          ∀ done input, done ++ [input] <+: (actor, request) :: rest → input.1 = index →
            (accesses.next input (accesses.exec done memory)).state =
              (accesses.exec done memory).state := by
      refine ⟨before, same.trans kept, ?_⟩
      intro done input within here
      cases done with
      | nil =>
        obtain ⟨rfl, _⟩ := List.cons_prefix_cons.mp within
        exact state here
      | cons head done =>
        obtain ⟨rfl, tail⟩ := List.cons_prefix_cons.mp within
        exact quiet done input tail here
    by_cases here : actor = index
    next =>
      subst here
      have continues := alone (actor, request) List.mem_cons_self rfl
      by_cases idle : (memory.owner actor).call = none
      next =>
        rw [owner_next, if_pos rfl, MemoryState.access_idle idle continues] at later
        simp [MemoryOwner.Waits, idle] at later
      next =>
        obtain ⟨before, kept, state⟩ := (next_moves memory actor request).waits_back idle later
        exact assemble before kept fun _ => state
    next =>
      have frame : (accesses.next (actor, request) memory).owner index = memory.owner index := by
        rw [owner_next, if_neg here]
      rw [frame] at later
      exact assemble later (by rw [frame]) fun same => absurd same here

-- A call of `try_reserve` or `try_grow` that fails, at once or in a later turn of its loop, leaves
-- the reservation as it was, and no access of it changes the budget.
structure RefusesQuietly (memory : QueryMemory) (index : Nat) (request : MemoryAccess) : Prop where
  atOnce : ∀ error, accesses.output (index, request) memory = .refused error →
    (accesses.next (index, request) memory).state = memory.state ∧
      (accesses.next (index, request) memory).owner index = memory.owner index
  later : ∀ during spurious error,
    (∀ input ∈ during, input.1 = index → input.2.begins = false) →
    accesses.output (index, .compareExchange spurious)
      (accesses.exec ((index, request) :: during) memory) = .refused error →
    (accesses.exec ((index, request) :: during ++ [(index, .compareExchange spurious)]) memory).owner
        index = memory.owner index ∧
      ∀ done input, done ++ [input] <+:
          (index, request) :: during ++ [(index, .compareExchange spurious)] → input.1 = index →
        (accesses.next input (accesses.exec done memory)).state = (accesses.exec done memory).state

theorem refusesQuietly (idle : (memory.owner index).call = none) (reserves : request.reserves = true) :
    memory.RefusesQuietly index request := by
  obtain ⟨state, own, same⟩ := @MemoryState.begin_waits memory.state _ _ idle reserves
  constructor
  case atOnce =>
    intro error refused
    refine ⟨state, ?_⟩
    rw [owner_next, if_pos rfl]
    exact same error refused
  case later =>
    intro during spurious error alone refused
    obtain ⟨waits, ended⟩ := MemoryState.compareExchange_refused refused
    obtain ⟨_, kept, quiet⟩ := waits_exec during alone waits
    rw [owner_next, if_pos rfl] at kept
    constructor
    next =>
      rw [Machine.exec_append, Machine.exec_cons, Machine.exec_nil, owner_next, if_pos rfl, ended]
      change MemoryOwner.mk _ none = _
      rw [Machine.exec_cons, kept, own, ← idle]
    next =>
      intro done input within here
      rcases List.prefix_concat_iff.mp within with last | within
      · obtain ⟨rfl, same⟩ := List.append_inj' last rfl
        cases same
        exact congrArg Prod.fst ended
      · cases done with
        | nil =>
          obtain ⟨rfl, _⟩ := List.cons_prefix_cons.mp within
          exact state
        | cons head done =>
          obtain ⟨rfl, tail⟩ := List.cons_prefix_cons.mp within
          exact quiet done input tail here

end QueryMemory

end

namespace QueryMemory

-- The values in `seen` against the peak; a value that no `fetch_max` has told yet is at most one
-- that a call is about to tell.
structure Peaked (seen : U64 → Prop) (memory : QueryMemory) : Prop where
  current : seen memory.state.reservedBytes
  attained : seen memory.state.peakBytes
  raised : ∀ index demand next,
    (memory.owner index).call = some (.raising demand next) → seen next
  below : ∀ value, seen value → value ≤ memory.state.peakBytes ∨
    ∃ index demand next, (memory.owner index).call = some (.raising demand next) ∧ value ≤ next

theorem peaked_new (limitBytes : U64) : (new limitBytes).Peaked (· = 0) where
  current := rfl
  attained := rfl
  raised _ _ _ := nofun
  below _ zero := .inl (Fin.le_of_eq zero)

variable {seen : U64 → Prop}

theorem Peaked.next_of_le {memory after : QueryMemory} (peaked : memory.Peaked seen)
    (peak : after.state.peakBytes = memory.state.peakBytes)
    (reserved : after.state.reservedBytes ≤ memory.state.reservedBytes)
    (calls : ∀ index demand next, (after.owner index).call = some (.raising demand next) ↔
      (memory.owner index).call = some (.raising demand next)) :
    after.Peaked fun value => seen value ∨ value = after.state.reservedBytes where
  current := .inr rfl
  attained := .inl (peak ▸ peaked.attained)
  raised index demand next raising := .inl (peaked.raised index demand next ((calls _ _ _).mp raising))
  below value known := by
    have covered (known : seen value) : value ≤ after.state.peakBytes ∨ ∃ index demand next,
        (after.owner index).call = some (.raising demand next) ∧ value ≤ next := by
      rw [peak]
      simp only [calls]
      exact peaked.below value known
    rcases known with known | rfl
    · exact covered known
    · simp only [peak, calls]
      rcases peaked.below _ peaked.current with within | ⟨index, demand, next, raising, within⟩
      · exact .inl (reserved.trans within)
      · exact .inr ⟨index, demand, next, raising, reserved.trans within⟩

theorem Peaked.next {memory : QueryMemory} (peaked : memory.Peaked seen) (accounted : memory.Accounted)
    (input : Nat × MemoryAccess) :
    (accesses.next input memory).Peaked fun value =>
      seen value ∨ value = (accesses.next input memory).state.reservedBytes := by
  obtain ⟨actor, request⟩ := input
  have moves := next_moves memory actor request
  have frame (other : Nat) (different : actor ≠ other) :
      (accesses.next (actor, request) memory).owner other = memory.owner other := by
    rw [owner_next, if_neg different]
  generalize accesses.next (actor, request) memory = after at moves frame ⊢
  rcases moves.peak_cases (accounted.covered actor) with
    ⟨peak, reserved, call⟩ | ⟨demand, peak, granted, fresh⟩ | ⟨demand, next, told, idle, same, peak⟩
  case inl =>
    apply peaked.next_of_le peak reserved
    intro index demand next
    by_cases here : actor = index
    next => exact here ▸ call demand next
    next => rw [frame index here]
  case inr.inl =>
    -- The new value is the one that this owner is about to tell.
    constructor
    case current => exact .inr rfl
    case attained => exact .inl (peak ▸ peaked.attained)
    case raised =>
      intro index demand next raising
      by_cases here : actor = index
      next =>
        subst here
        cases granted.symm.trans raising
        exact .inr rfl
      next => exact .inl (peaked.raised index demand next (frame index here ▸ raising))
    case below =>
      intro value known
      rcases known with known | rfl
      · rw [peak]
        rcases peaked.below value known with within | ⟨index, demand, next, raising, within⟩
        · exact .inl within
        · have here : actor ≠ index := by
            intro same
            exact fresh demand next (same ▸ raising)
          exact .inr ⟨index, demand, next, frame index here ▸ raising, within⟩
      · exact .inr ⟨actor, demand, _, granted, le_rfl⟩
  case inr.inr =>
    have raised (index : Nat) (demand : MemoryDemand) (value : U64)
        (raising : (after.owner index).call = some (.raising demand value)) :
        (memory.owner index).call = some (.raising demand value) := by
      by_cases here : actor = index
      next =>
        subst here
        exact nomatch idle.symm.trans raising
      next => exact frame index here ▸ raising
    have below (value : U64) (known : seen value) : value ≤ after.state.peakBytes ∨
        ∃ index demand next, (after.owner index).call = some (.raising demand next) ∧ value ≤ next := by
      rw [peak]
      rcases peaked.below value known with within | ⟨index, demand, other, raising, within⟩
      · exact .inl (le_max_of_le_left within)
      · by_cases here : actor = index
        next =>
          subst here
          cases told.symm.trans raising
          exact .inl (le_max_of_le_right within)
        next => exact .inr ⟨index, demand, other, (frame index here).symm ▸ raising, within⟩
    constructor
    case current => exact .inr rfl
    case attained =>
      rw [peak]
      rcases max_choice memory.state.peakBytes next with chosen | chosen
      · exact .inl (chosen.symm ▸ peaked.attained)
      · exact .inl (chosen.symm ▸ peaked.raised actor demand next told)
    case raised =>
      intro index demand value raising
      exact .inl (peaked.raised index demand value (raised index demand value raising))
    case below =>
      intro value known
      rcases known with known | rfl
      · exact below value known
      · exact below _ (same ▸ peaked.current)

theorem peaked_exec (limitBytes : U64) (inputs : List (Nat × MemoryAccess)) :
    (accesses.exec inputs (new limitBytes)).Peaked fun value =>
      ∃ memory, accesses.Visits inputs (new limitBytes) memory ∧ value = memory.state.reservedBytes := by
  induction inputs using List.reverseRecOn with
  | nil =>
    simp only [Machine.visits_nil, exists_eq_left]
    exact peaked_new limitBytes
  | append_singleton inputs input ih =>
    simp only [Machine.visits_concat, or_and_right, exists_or, exists_eq_left]
    rw [Machine.exec_append]
    exact ih.next (accounted_exec limitBytes inputs) input

def Quiescent (memory : QueryMemory) : Prop := ∀ index, (memory.owner index).call = none

theorem Peaked.isGreatest {memory : QueryMemory} (peaked : memory.Peaked seen) (quiescent : memory.Quiescent) :
    IsGreatest { value | seen value } memory.state.peakBytes := by
  refine ⟨peaked.attained, ?_⟩
  intro value known
  rcases peaked.below value known with within | ⟨index, demand, next, raising, _⟩
  · exact within
  · exact nomatch (quiescent index).symm.trans raising

theorem limitBytes_exec (limitBytes : U64) (inputs : List (Nat × MemoryAccess)) :
    (accesses.exec inputs (new limitBytes)).state.limitBytes = max limitBytes 1 := by
  induction inputs using List.reverseRecOn with
  | nil => rfl
  | append_singleton inputs input ih =>
    have accounted := accounted_exec limitBytes inputs
    rw [Machine.exec_append, ← ih]
    exact ((next_moves _ input.1 input.2).bounded (accounted.covered input.1) accounted.bounded).1

theorem memory_accounting (limitBytes : U64) (inputs : List (Nat × MemoryAccess)) :
    let memory := accesses.exec inputs (new limitBytes)
    Balanced (accesses.trace inputs (new limitBytes)) memory ∧
      memory.state.reservedBytes.val = memory.held ∧
      memory.state.reservedBytes ≤ memory.state.limitBytes ∧
      memory.state.limitBytes = max limitBytes 1 ∧
      (∀ index bytes, (memory.owner index).call = some (.releasing bytes) →
        bytes ≤ memory.state.reservedBytes) ∧
      (∀ input message, accesses.output input memory ≠ .panicked message) ∧
      (∀ index request, (memory.owner index).call = none → request.reserves = true →
        memory.RefusesQuietly index request) ∧
      (memory.Quiescent → IsGreatest { value | ∃ earlier, accesses.Visits inputs (new limitBytes) earlier ∧
        value = earlier.state.reservedBytes } memory.state.peakBytes) := by
  intro memory
  have accounted : memory.Accounted := accounted_exec limitBytes inputs
  refine ⟨balanced_exec limitBytes inputs, accounted.charged, accounted.bounded,
    limitBytes_exec limitBytes inputs, ?_, ?_, ?_, ?_⟩
  · exact fun index bytes releasing =>
      MemoryState.Moves.releasing_le (accounted.covered index) releasing
  · exact fun input message =>
      (next_moves memory input.1 input.2).not_panicked (accounted.covered input.1) message
  · exact fun index request idle reserves => refusesQuietly idle reserves
  · exact (peaked_exec limitBytes inputs).isGreatest

end QueryMemory

end SparkX
