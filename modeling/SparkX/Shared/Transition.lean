import Mathlib

set_option autoImplicit false

structure Machine (State Input Output : Type) where
  step : Input → State → Output × State

namespace Machine

variable {State Input Output : Type} (m : Machine State Input Output)

def output (input : Input) (s : State) : Output := (m.step input s).1

def next (input : Input) (s : State) : State := (m.step input s).2

def exec : List Input → State → State
  | [], s => s
  | input :: rest, s => exec rest (m.next input s)

def trace : List Input → State → List (Input × Output)
  | [], _ => []
  | input :: rest, s => (input, m.output input s) :: trace rest (m.next input s)

def Reaches (s t : State) : Prop := ∃ inputs, m.exec inputs s = t

@[simp] theorem exec_nil (s : State) : m.exec [] s = s := rfl

@[simp] theorem exec_cons (input : Input) (rest : List Input) (s : State) :
    m.exec (input :: rest) s = m.exec rest (m.next input s) := rfl

theorem exec_append (before after : List Input) (s : State) :
    m.exec (before ++ after) s = m.exec after (m.exec before s) := by
  induction before generalizing s with
  | nil => rfl
  | cons input rest ih => exact ih (m.next input s)

theorem trace_append (before after : List Input) (s : State) :
    m.trace (before ++ after) s = m.trace before s ++ m.trace after (m.exec before s) := by
  induction before generalizing s with
  | nil => rfl
  | cons input rest ih => simp only [List.cons_append, trace, exec_cons, ih]

theorem filterMap_trace {α : Type} (f : Input × Output → Option α) (inputs : List Input) (input : Input) (s : State) :
    (m.trace (inputs ++ [input]) s).filterMap f =
      (m.trace inputs s).filterMap f ++ (f (input, m.output input (m.exec inputs s))).toList := by
  rw [trace_append, List.filterMap_append]
  cases found : f (input, m.output input (m.exec inputs s)) <;> simp [trace, found]

variable {m}

theorem Reaches.refl (s : State) : m.Reaches s s := ⟨[], rfl⟩

variable {s t : State}

theorem Reaches.step (reached : m.Reaches s t) (input : Input) : m.Reaches s (m.next input t) := by
  obtain ⟨inputs, rfl⟩ := reached
  exact ⟨inputs ++ [input], by rw [exec_append]; rfl⟩

theorem Reaches.trans {u : State} (first : m.Reaches s t) (second : m.Reaches t u) : m.Reaches s u := by
  obtain ⟨before, rfl⟩ := first
  obtain ⟨after, rfl⟩ := second
  exact ⟨before ++ after, m.exec_append before after s⟩

theorem Reaches.induct (reached : m.Reaches s t) (holds : State → Prop) (start : holds s)
    (preserved : ∀ u input, m.Reaches s u → holds u → holds (m.next input u)) : holds t := by
  obtain ⟨inputs, rfl⟩ := reached
  have general (rest : List Input) (u : State) (known : m.Reaches s u) (now : holds u) :
      holds (m.exec rest u) := by
    induction rest generalizing u with
    | nil => exact now
    | cons input rest ih => exact ih _ (known.step input) (preserved u input known now)
  exact general inputs s (Reaches.refl s) start

def Visits (m : Machine State Input Output) (inputs : List Input) (s t : State) : Prop :=
  ∃ done, done <+: inputs ∧ m.exec done s = t

theorem visits_last (inputs : List Input) (s : State) : m.Visits inputs s (m.exec inputs s) :=
  ⟨inputs, List.prefix_rfl, rfl⟩

theorem visits_nil : m.Visits [] s t ↔ t = s := by
  constructor
  · rintro ⟨done, within, rfl⟩
    rw [List.prefix_nil.mp within, exec_nil]
  · rintro rfl
    exact visits_last [] t

theorem visits_concat {inputs : List Input} {input : Input} :
    m.Visits (inputs ++ [input]) s t ↔ m.Visits inputs s t ∨ t = m.next input (m.exec inputs s) := by
  constructor
  · rintro ⟨done, within, rfl⟩
    rcases List.prefix_concat_iff.mp within with rfl | within
    · exact .inr (m.exec_append inputs [input] s)
    · exact .inl ⟨done, within, rfl⟩
  · rintro (⟨done, within, rfl⟩ | rfl)
    · exact ⟨done, within.trans (List.prefix_append _ _), rfl⟩
    · exact ⟨inputs ++ [input], List.prefix_rfl, m.exec_append inputs [input] s⟩

theorem trace_induct (holds : List (Input × Output) → State → Prop) (start : holds [] s)
    (preserved : ∀ history u input, m.Reaches s u → holds history u →
      holds (history ++ [(input, m.output input u)]) (m.next input u))
    (inputs : List Input) : holds (m.trace inputs s) (m.exec inputs s) := by
  have general (rest : List Input) (history : List (Input × Output)) (u : State)
      (known : m.Reaches s u) (now : holds history u) :
      holds (history ++ m.trace rest u) (m.exec rest u) := by
    induction rest generalizing history u with
    | nil => simpa [trace] using now
    | cons input rest ih =>
      have later := ih _ _ (known.step input) (preserved history u input known now)
      simpa only [trace, exec_cons, List.append_assoc, List.singleton_append] using later
  exact general inputs [] s (Reaches.refl s) start

end Machine
