import Mathlib

set_option autoImplicit false

inductive Phase (Output : Type) where
  | absent
  | pending (next : Nat)
  | leased (attempt : Nat)
  | stopping (attempt : Nat)
  | committed (attempt : Nat) (output : Output)
  | failed (attempt : Nat)
  | cancelled

namespace Phase

variable {Output : Type} {limit : Nat} {phase later : Phase Output}

inductive Quiet (limit : Nat) : Phase Output → Phase Output → Prop
  | stay (phase : Phase Output) : Quiet limit phase phase
  | submit : Quiet limit absent (pending 0)
  | commit (attempt : Nat) (output : Output) : Quiet limit (leased attempt) (committed attempt output)
  | retry (attempt : Nat) (again : attempt + 1 < limit) :
    Quiet limit (leased attempt) (pending (attempt + 1))
  | giveUp (attempt : Nat) : Quiet limit (leased attempt) (failed attempt)
  | abandon (attempt : Nat) : Quiet limit (leased attempt) cancelled
  | stop (attempt : Nat) : Quiet limit (leased attempt) (stopping attempt)
  | acknowledge (attempt : Nat) : Quiet limit (stopping attempt) cancelled
  | drop (next : Nat) : Quiet limit (pending next) cancelled
  | forget (attempt : Nat) : Quiet limit (failed attempt) cancelled

inductive Step (limit : Nat) : Phase Output → Phase Output → Prop
  | quiet {phase later : Phase Output} (changed : Quiet limit phase later) : Step limit phase later
  | issue (attempt : Nat) : Step limit (pending attempt) (leased attempt)

def Issued : Phase Output → Nat → Prop
  | .absent, count => count = 0
  | .pending next, count => count = next
  | .leased attempt, count | .stopping attempt, count | .committed attempt _, count
  | .failed attempt, count => count = attempt + 1
  | .cancelled, _ => True

theorem Quiet.issued (changed : Quiet limit phase later) {count : Nat}
    (issued : phase.Issued count) : later.Issued count := by
  cases changed with
  | stay => exact issued
  | submit => exact issued
  | retry attempt again => exact issued
  | abandon | acknowledge | drop | forget => trivial
  | commit | giveUp | stop => exact issued

-- No attempt up to `attempt` will be leased again.
def Closed (attempt : Nat) : Phase Output → Prop
  | .absent => False
  | .pending next => attempt < next
  | .leased current | .stopping current => attempt < current
  | .committed current _ | .failed current => attempt ≤ current
  | .cancelled => True

theorem Quiet.closed (changed : Quiet limit phase later) {attempt : Nat}
    (closed : phase.Closed attempt) : later.Closed attempt := by
  cases changed with
  | stay => exact closed
  | submit => exact closed.elim
  | retry current again => exact Nat.lt_succ_of_lt closed
  | commit | giveUp => exact Nat.le_of_lt closed
  | stop => exact closed
  | abandon | acknowledge | drop | forget => trivial

theorem Step.closed (changed : Step limit phase later) {attempt : Nat}
    (closed : phase.Closed attempt) : later.Closed attempt := by
  cases changed with
  | quiet changed => exact changed.closed closed
  | issue next => exact closed

variable {attempt : Nat}

theorem Issued.closed {count : Nat} (issued : phase.Issued count) (handed : attempt < count)
    (ended : phase ≠ .leased attempt ∧ phase ≠ .stopping attempt) : phase.Closed attempt := by
  cases phase with
  | absent =>
    simp only [Issued] at issued
    omega
  | pending next =>
    simp only [Issued] at issued
    simp only [Closed]
    omega
  | leased current =>
    have other : current ≠ attempt := fun same => ended.1 (congrArg leased same)
    simp only [Issued] at issued
    simp only [Closed]
    omega
  | stopping current =>
    have other : current ≠ attempt := fun same => ended.2 (congrArg stopping same)
    simp only [Issued] at issued
    simp only [Closed]
    omega
  | committed current output | failed current =>
    simp only [Issued] at issued
    simp only [Closed]
    omega
  | cancelled => trivial

theorem Step.committed {output : Output} (changed : Step limit (.committed attempt output) later) :
    later = .committed attempt output := by
  cases changed with
  | quiet changed =>
    cases changed with
    | stay => rfl

theorem Step.cancelled (changed : Step limit (.cancelled : Phase Output) later) : later = .cancelled := by
  cases changed with
  | quiet changed =>
    cases changed with
    | stay => rfl

def Run (limit : Nat) : Phase Output → Phase Output → Prop := Relation.ReflTransGen (Step limit)

theorem Run.closed (run : Run limit phase later) {attempt : Nat} (closed : phase.Closed attempt) :
    later.Closed attempt := by
  induction run with
  | refl => exact closed
  | tail _ changed ih => exact changed.closed ih

theorem Run.committed {output : Output} (run : Run limit (.committed attempt output) later) :
    later = .committed attempt output := by
  induction run with
  | refl => rfl
  | tail _ changed ih =>
    subst ih
    exact changed.committed

theorem Run.cancelled (run : Run limit (.cancelled : Phase Output) later) : later = .cancelled := by
  induction run with
  | refl => rfl
  | tail _ changed ih =>
    subst ih
    exact changed.cancelled

end Phase
