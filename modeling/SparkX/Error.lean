import SparkX.Shared.Stateful

set_option autoImplicit false

namespace SparkX

export Except (bind_ok pure_eq_ok check_ok bind_error map_eq_ok map_eq_error forM_ok foldlM_induct forM_error)

inductive SparkXError where
  | arrow (message : String)
  | parquet (message : String)
  | io (message : String)
  | sql (message : String)
  | planning (message : String)
  | execution (message : String)
  | unsupported (message : String)
  | protocol (message : String)
  | transport (message : String)
  | notFound (message : String)
  | resourceExhausted (message : String)
  | taskSuperseded
  | cancelled
  | channelClosed
deriving DecidableEq, Repr

namespace SparkXError

def toText : SparkXError → String
  | .arrow message => s!"Arrow error: {message}"
  | .parquet message => s!"Parquet error: {message}"
  | .io message => s!"I/O error: {message}"
  | .sql message => s!"SQL parse error: {message}"
  | .planning message => s!"planning error: {message}"
  | .execution message => s!"execution error: {message}"
  | .unsupported message => s!"unsupported operation: {message}"
  | .protocol message => s!"protocol error: {message}"
  | .transport message => s!"transport error: {message}"
  | .notFound message => s!"resource not found: {message}"
  | .resourceExhausted message => s!"resource exhausted: {message}"
  | .taskSuperseded => "task attempt was superseded"
  | .cancelled => "query was cancelled"
  | .channelClosed => "operator channel closed unexpectedly"

end SparkXError

-- A call that does not return `Ok` either returns an error or panics: `expect`, an index out of
-- bounds, an arithmetic overflow.
inductive Fault where
  | error (error : SparkXError)
  | panic (message : String)
deriving DecidableEq, Repr

instance : MonadLift (Except SparkXError) (Except Fault) where
  monadLift := Except.mapError Fault.error

-- `value.expect(message)`, also used for indexing and for unchecked arithmetic.
def expect {α : Type} (value : Option α) (message : String) : Except Fault α :=
  match value with
  | some found => .ok found
  | none => .error (.panic message)

-- `value.ok_or_else(|| error)`
def okOr {α : Type} (value : Option α) (error : SparkXError) : Except SparkXError α :=
  match value with
  | some found => .ok found
  | none => .error error

variable {message : String}

theorem expect_ok {α : Type} {value : Option α} {found : α} :
    expect value message = .ok found ↔ value = some found := by
  cases value <;> simp [expect]

theorem lift_ok {α : Type} {result : Except SparkXError α} {value : α} :
    (liftM result : Except Fault α) = .ok value ↔ result = .ok value := by
  cases result
  · exact ⟨nofun, nofun⟩
  · exact ⟨fun same => by rw [← Except.ok.inj same], fun same => by rw [Except.ok.inj same]; rfl⟩

theorem lift_error {α : Type} {result : Except SparkXError α} {fault : Fault} :
    (liftM result : Except Fault α) = .error fault ↔ ∃ error, result = .error error ∧ fault = .error error := by
  cases result with
  | ok value => exact ⟨nofun, fun ⟨_, failed, _⟩ => nomatch failed⟩
  | error error =>
    constructor
    · intro failed
      exact ⟨error, rfl, (Except.error.inj failed).symm⟩
    · rintro ⟨_, ⟨⟩, rfl⟩
      rfl

theorem lift_no_panic {α : Type} {result : Except SparkXError α} :
    (liftM result : Except Fault α) ≠ .error (.panic message) := by
  cases result <;> exact nofun

theorem foldlM_lift_ok {α σ : Type} {step : σ → α → Except SparkXError σ} {items : List α}
    {state final : σ} :
    items.foldlM (fun state item => (liftM (step state item) : Except Fault σ)) state = .ok final ↔
      items.foldlM step state = .ok final := by
  induction items generalizing state with
  | nil => simp only [List.foldlM_nil, pure_eq_ok]
  | cons item rest ih => simp only [List.foldlM_cons, bind_ok, lift_ok, ih]

variable {error : SparkXError}

theorem okOr_ok {α : Type} {value : Option α} {found : α} :
    okOr value error = .ok found ↔ value = some found := by
  cases value <;> simp [okOr]

theorem okOr_error {α : Type} {value : Option α} {found : SparkXError} :
    okOr value error = .error found ↔ value = none ∧ error = found := by
  cases value <;> simp [okOr]

theorem expect_error {α : Type} {value : Option α} {fault : Fault} :
    expect value message = .error fault ↔ value = none ∧ fault = .panic message := by
  cases value <;> simp [expect, eq_comm]

section

variable {α β : Type}

def Panics (result : Except Fault α) : Prop := ∃ message, result = .error (.panic message)

@[simp] theorem panics_pure (value : α) : ¬Panics (pure value) := nofun

@[simp] theorem panics_lift (result : Except SparkXError α) : ¬Panics (liftM result) :=
  fun ⟨_, panicked⟩ => lift_no_panic panicked

@[simp] theorem panics_rejectIf {condition : Prop} [Decidable condition] :
    ¬Panics (rejectIf condition (Fault.error error)) :=
  fun ⟨_, panicked⟩ => nomatch (rejectIf_error.mp panicked).2

theorem panics_bind {x : Except Fault α} {f : α → Except Fault β} :
    Panics (x >>= f) ↔ Panics x ∨ ∃ a, x = .ok a ∧ Panics (f a) := by
  simp only [Panics, bind_error]
  grind

theorem panics_mapM {f : α → Except Fault β} {items : List α} :
    Panics (items.mapM f) ↔ ∃ before item after, items = before ++ item :: after ∧
      (∀ other ∈ before, ∃ result, f other = .ok result) ∧ Panics (f item) := by
  simp only [Panics, Except.mapM_error, Except.FirstFailure]
  grind

theorem panics_forM {check : α → Except Fault Unit} {items : List α} :
    Panics (items.forM check) ↔ ∃ before item after, items = before ++ item :: after ∧
      (∀ other ∈ before, ∃ result, check other = .ok result) ∧ Panics (check item) := by
  simp only [Panics, Except.forM_eq_error, Except.FirstFailure]
  grind

end

section

variable {σ α β : Type} {s : σ} {post : Except Fault β → σ → Prop}

theorem run_expect (value : Option α) (message : String) (rest : α → Stateful Fault σ β) (s : σ) :
    ((liftM (expect value message) : Stateful Fault σ α) >>= rest).run s =
      match value with
      | some found => (rest found).run s
      | none => (.error (.panic message), s) := by
  cases value <;> rfl

theorem run_check {check : Except SparkXError α} {value : α} (passed : check = .ok value)
    (rest : α → Stateful Fault σ β) (s : σ) :
    ((liftM check : Stateful Fault σ α) >>= rest).run s = (rest value).run s := by
  subst passed
  rfl

theorem yields_check {check : Except SparkXError α} {rest : α → Stateful Fault σ β}
    (failed : ∀ error, check = .error error → post (.error (.error error)) s)
    (passed : ∀ value, check = .ok value → (rest value).Yields s post) :
    ((liftM check : Stateful Fault σ α) >>= rest).Yields s post := by
  cases check with
  | error error => exact failed error rfl
  | ok value => exact passed value rfl

theorem yields_rejectIf {condition : Prop} [Decidable condition] {rest : Unit → Stateful Fault σ β}
    (failed : condition → post (.error (.error error)) s) (passed : ¬condition → (rest ()).Yields s post) :
    ((liftM (rejectIf condition error) : Stateful Fault σ Unit) >>= rest).Yields s post := by
  apply yields_check
  · intro found rejected
    obtain ⟨holds, rfl⟩ := rejectIf_error.mp rejected
    exact failed holds
  · intro _ accepted
    exact passed (rejectIf_ok.mp accepted)

theorem yields_last_check {check : Except SparkXError β}
    (failed : ∀ error, check = .error error → post (.error (.error error)) s)
    (passed : ∀ value, check = .ok value → post (.ok value) s) :
    (liftM check : Stateful Fault σ β).Yields s post := by
  cases check with
  | error error => exact failed error rfl
  | ok value => exact passed value rfl

theorem yields_expect {value : Option α} {found : α} {message : String}
    {rest : α → Stateful Fault σ β} (present : value = some found)
    (passed : (rest found).Yields s post) :
    ((liftM (expect value message) : Stateful Fault σ α) >>= rest).Yields s post := by
  subst present
  exact passed

end

end SparkX
