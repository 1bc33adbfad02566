import Mathlib

set_option autoImplicit false

def Stateful (ε σ α : Type) := σ → Except ε α × σ

def rejectIf {ε : Type} (condition : Prop) [Decidable condition] (error : ε) : Except ε Unit :=
  if condition then .error error else .ok ()

variable {ε : Type} {condition : Prop}

theorem rejectIf_ok [Decidable condition] {error : ε} : rejectIf condition error = .ok () ↔ ¬condition := by
  unfold rejectIf
  split <;> simp_all

theorem rejectIf_eq_ok [Decidable condition] {error : ε} {done : Unit} :
    rejectIf condition error = .ok done ↔ ¬condition := rejectIf_ok

theorem rejectIf_error [Decidable condition] {error found : ε} :
    rejectIf condition error = .error found ↔ condition ∧ error = found := by
  unfold rejectIf
  split <;> simp_all

namespace Except

variable {ε α β : Type}

theorem bind_ok {x : Except ε α} {f : α → Except ε β} {b : β} :
    x >>= f = .ok b ↔ ∃ a, x = .ok a ∧ f a = .ok b := by
  cases x <;> simp [bind, Except.bind]

theorem pure_eq_ok {a b : α} : (pure a : Except ε α) = .ok b ↔ a = b :=
  ⟨Except.ok.inj, congrArg Except.ok⟩

theorem check_ok {x : Except ε Unit} {y : Except ε β} {b : β} :
    (x >>= fun _ => y) = .ok b ↔ x = .ok () ∧ y = .ok b := by
  rw [bind_ok]
  exact ⟨fun ⟨_, passed⟩ => passed, fun passed => ⟨(), passed⟩⟩

variable {items : List α} {check : α → Except ε Unit}

theorem forM_ok : items.forM check = .ok () ↔ ∀ item ∈ items, check item = .ok () := by
  induction items with
  | nil => simp [List.forM, pure, Except.pure]
  | cons item rest ih =>
    change (check item >>= fun _ => rest.forM check) = .ok () ↔ _
    rw [check_ok, ih, List.forall_mem_cons]

variable {e : ε}

theorem forM_error (failed : items.forM check = .error e) : ∃ item ∈ items, check item = .error e := by
  induction items with
  | nil => cases failed
  | cons item rest ih =>
    change (check item >>= fun _ => rest.forM check) = .error e at failed
    cases here : check item with
    | error found =>
      rw [here] at failed
      exact ⟨item, by simp, here.trans failed⟩
    | ok _ =>
      rw [here] at failed
      obtain ⟨later, member, there⟩ := ih failed
      exact ⟨later, by simp [member], there⟩

theorem bind_error {x : Except ε α} {f : α → Except ε β} :
    x >>= f = .error e ↔ x = .error e ∨ ∃ a, x = .ok a ∧ f a = .error e := by
  cases x <;> simp [bind, Except.bind]

-- Where a loop over `items` that runs `f` on each stops with `e`.
def FirstFailure (f : α → Except ε β) (e : ε) (items : List α) : Prop :=
  ∃ before item after, items = before ++ item :: after ∧
    (∀ other ∈ before, ∃ result, f other = .ok result) ∧ f item = .error e

theorem firstFailure_cons {f : α → Except ε β} {item : α} {rest : List α} :
    FirstFailure f e (item :: rest) ↔
      f item = .error e ∨ (∃ result, f item = .ok result) ∧ FirstFailure f e rest := by
  constructor
  · rintro ⟨before, found, after, same, passed, failed⟩
    cases before with
    | nil =>
      obtain ⟨rfl, rfl⟩ := List.cons.inj same
      exact .inl failed
    | cons first others =>
      obtain ⟨rfl, rfl⟩ := List.cons.inj same
      have ⟨here, there⟩ := List.forall_mem_cons.mp passed
      exact .inr ⟨here, others, found, after, rfl, there, failed⟩
  · rintro (failed | ⟨here, before, found, after, rfl, passed, failed⟩)
    · exact ⟨[], item, rest, rfl, nofun, failed⟩
    · exact ⟨item :: before, found, after, rfl, List.forall_mem_cons.mpr ⟨here, passed⟩, failed⟩

theorem mapM_error {f : α → Except ε β} : items.mapM f = .error e ↔ FirstFailure f e items := by
  induction items with
  | nil => simp [FirstFailure, pure, Except.pure]
  | cons item rest ih =>
    rw [List.mapM_cons, bind_error, firstFailure_cons, ← ih]
    simp [bind_error, pure, Except.pure]

theorem forM_eq_error : items.forM check = .error e ↔ FirstFailure check e items := by
  induction items with
  | nil => simp [FirstFailure, List.forM, pure, Except.pure]
  | cons item rest ih =>
    change (check item >>= fun _ => rest.forM check) = .error e ↔ _
    rw [bind_error, firstFailure_cons, ← ih]
    simp

theorem map_eq_ok {x : Except ε α} {f : α → β} {b : β} :
    f <$> x = .ok b ↔ ∃ a, x = .ok a ∧ f a = b := by
  cases x <;> simp [Functor.map, Except.map]

theorem mapError_eq_ok {δ : Type} {x : Except ε α} {f : ε → δ} {a : α} :
    x.mapError f = .ok a ↔ x = .ok a := by
  cases x <;> simp [Except.mapError]

theorem map_eq_error {x : Except ε α} {f : α → β} : x.map f = .error e ↔ x = .error e := by
  cases x <;> simp [Except.map]

section

variable {σ : Type} {step : σ → α → Except ε σ}

theorem foldlM_induct (holds : List α → σ → Prop)
    (preserved : ∀ seen item s s', holds seen s → step s item = .ok s' → holds (seen ++ [item]) s')
    {items : List α} {s final : σ} (start : holds [] s) (ran : items.foldlM step s = .ok final) :
    holds items final := by
  have general (rest seen : List α) (s : σ) (now : holds seen s)
      (ran : rest.foldlM step s = .ok final) : holds (seen ++ rest) final := by
    induction rest generalizing seen s with
    | nil =>
      cases ran
      simpa using now
    | cons item rest ih =>
      obtain ⟨next, stepped, ran⟩ := bind_ok.mp ran
      simpa using ih (seen ++ [item]) next (preserved seen item s next now stepped) ran
  exact general items [] s start ran

theorem foldlM_total (holds : List α → σ → Prop) {items : List α} {s : σ} (start : holds [] s)
    (advances : ∀ seen item rest s, items = seen ++ item :: rest → holds seen s →
      ∃ s', step s item = .ok s' ∧ holds (seen ++ [item]) s') :
    ∃ final, items.foldlM step s = .ok final ∧ holds items final := by
  have general (rest seen : List α) (s : σ) (split : items = seen ++ rest) (now : holds seen s) :
      ∃ final, rest.foldlM step s = .ok final ∧ holds items final := by
    induction rest generalizing seen s with
    | nil => exact ⟨s, rfl, by simpa [split] using now⟩
    | cons item rest ih =>
      obtain ⟨next, stepped, later⟩ := advances seen item rest s split now
      obtain ⟨final, ran, done⟩ := ih (seen ++ [item]) next (by simp [split]) later
      exact ⟨final, bind_ok.mpr ⟨next, stepped, ran⟩, done⟩
  exact general items [] s rfl start

end

end Except

namespace Stateful

variable {ε σ α β : Type}

def run (x : Stateful ε σ α) (s : σ) : Except ε α × σ := x s

instance : Monad (Stateful ε σ) where
  pure a := fun s => (.ok a, s)
  bind x f := fun s =>
    match x s with
    | (.ok a, s') => f a s'
    | (.error e, s') => (.error e, s')

instance : MonadExceptOf ε (Stateful ε σ) where
  throw e := fun s => (.error e, s)
  tryCatch x handle := fun s =>
    match x s with
    | (.ok a, s') => (.ok a, s')
    | (.error e, s') => handle e s'

instance : MonadStateOf σ (Stateful ε σ) where
  get := fun s => (.ok s, s)
  set s := fun _ => (.ok ⟨⟩, s)
  modifyGet f := fun s => (.ok (f s).1, (f s).2)

instance : MonadLift (Except ε) (Stateful ε σ) where
  monadLift x := fun s => (x, s)

-- A computation on a part of the state; `wrap` puts the part back in its place.
def within {τ : Type} (wrap : σ → τ) (x : Stateful ε σ α) (s : σ) : Except ε α × τ :=
  ((x.run s).1, wrap (x.run s).2)

@[simp] theorem run_pure (a : α) (s : σ) : (pure a : Stateful ε σ α).run s = (.ok a, s) := rfl

theorem run_bind (x : Stateful ε σ α) (f : α → Stateful ε σ β) (s : σ) : (x >>= f).run s =
      match x.run s with
      | (.ok a, s') => (f a).run s'
      | (.error e, s') => (.error e, s') := rfl

variable {s s' : σ}

theorem run_bind_ok {x : Stateful ε σ α} {a : α} (ran : x.run s = (.ok a, s')) (f : α → Stateful ε σ β) :
    (x >>= f).run s = (f a).run s' := by
  rw [run_bind, ran]

theorem run_tryCatch_ok {x : Stateful ε σ α} {a : α} (ran : x.run s = (.ok a, s'))
    (handle : ε → Stateful ε σ α) : (tryCatch x handle : Stateful ε σ α).run s = (.ok a, s') := by
  change (match x.run s with
    | (Except.ok a, s') => (Except.ok a, s')
    | (Except.error e, s') => (handle e).run s') = _
  rw [ran]

theorem run_bind_check {x : Stateful ε σ α} {check : Except ε α} {f : α → Stateful ε σ β}
    {g : α → Except ε β} (ran : x.run s = (check, s)) (same : ∀ a, check = .ok a → (f a).run s = (g a, s)) :
    (x >>= f).run s = (check >>= g, s) := by
  rw [run_bind, ran]
  cases check with
  | error e => rfl
  | ok a => exact same a rfl

theorem run_bind_map (x : Stateful ε σ α) (f : α → β) (s : σ) :
    (x >>= fun a => pure (f a)).run s = ((x.run s).1.map f, (x.run s).2) := by
  rw [run_bind]
  split
  next a s' ran => rw [ran]; rfl
  next e s' ran => rw [ran]; rfl

@[simp] theorem run_bind_get (f : σ → Stateful ε σ β) (s : σ) :
    ((get : Stateful ε σ σ) >>= f).run s = (f s).run s := rfl

@[simp] theorem run_bind_modify (g : σ → σ) (f : PUnit → Stateful ε σ β) (s : σ) :
    ((modify g : Stateful ε σ PUnit) >>= f).run s = (f ⟨⟩).run (g s) := rfl

theorem run_forM_cons {loop : β → Stateful ε σ Unit} {item : β} {rest : List β}
    (ran : (loop item).run s = (.ok (), s')) : ((item :: rest).forM loop).run s = (rest.forM loop).run s' :=
  run_bind_ok ran fun _ => rest.forM loop

theorem run_forM (loop : β → Stateful ε σ Unit) (body : σ → β → σ) (able : List β → σ → Prop)
    (succeeds : ∀ item rest s, able (item :: rest) s →
      (loop item).run s = (.ok (), body s item) ∧ able rest (body s item))
    (items : List β) (s : σ) (start : able items s) :
    (items.forM loop).run s = (.ok (), items.foldl body s) := by
  induction items generalizing s with
  | nil => rfl
  | cons item rest ih =>
    obtain ⟨here, later⟩ := succeeds item rest s start
    rw [run_forM_cons here]
    exact ih (body s item) later

def Yields (x : Stateful ε σ α) (s : σ) (post : Except ε α → σ → Prop) : Prop :=
  post (x.run s).1 (x.run s).2

variable {s s' : σ} {post : Except ε β → σ → Prop}

theorem Yields.throw {e : ε} (holds : post (.error e) s) :
    (throw e : Stateful ε σ β).Yields s post :=
  holds

theorem Yields.get {f : σ → Stateful ε σ β} (rest : (f s).Yields s post) :
    (MonadState.get >>= f).Yields s post :=
  rest

theorem Yields.set {f : PUnit → Stateful ε σ β} (rest : (f ⟨⟩).Yields s' post) :
    (MonadStateOf.set s' >>= f).Yields s post :=
  rest

theorem Yields.modify {g : σ → σ} {f : PUnit → Stateful ε σ β} (rest : (f ⟨⟩).Yields (g s) post) :
    (modify g >>= f).Yields s post :=
  rest

theorem Yields.bind {x : Stateful ε σ α} {f : α → Stateful ε σ β}
    (failed : ∀ e s', x.run s = (.error e, s') → post (.error e) s')
    (passed : ∀ a s', x.run s = (.ok a, s') → (f a).Yields s' post) :
    (x >>= f).Yields s post := by
  change post ((x >>= f).run s).1 ((x >>= f).run s).2
  rw [run_bind]
  split
  next a s' ran => exact passed a s' ran
  next e s' ran => exact failed e s' ran

theorem Yields.lift {x : Except ε α} {f : α → Stateful ε σ β}
    (failed : ∀ e, x = .error e → post (.error e) s)
    (passed : ∀ a, x = .ok a → (f a).Yields s post) : (liftM x >>= f).Yields s post := by
  cases x with
  | error e => exact failed e rfl
  | ok a => exact passed a rfl

theorem Yields.seq {x : Stateful ε σ α} {f : α → Stateful ε σ β} {first : Except ε α → σ → Prop}
    (yields : x.Yields s first) (failed : ∀ e s', first (.error e) s' → post (.error e) s')
    (passed : ∀ a s', first (.ok a) s' → (f a).Yields s' post) : (x >>= f).Yields s post := by
  apply Yields.bind
  · intro e s' ran
    have known := yields
    simp only [Yields, ran] at known
    exact failed e s' known
  · intro a s' ran
    have known := yields
    simp only [Yields, ran] at known
    exact passed a s' known

theorem Yields.map {x : Stateful ε σ α} {f : α → β}
    (yields : x.Yields s fun result s' => post (result.map f) s') :
    (x >>= fun a => Pure.pure (f a)).Yields s post :=
  yields.seq (fun _ _ known => known) fun _ _ known => known

theorem Yields.tryCatch {x : Stateful ε σ β} {handle : ε → Stateful ε σ β}
    {first : Except ε β → σ → Prop} (yields : x.Yields s first)
    (passed : ∀ b s', first (.ok b) s' → post (.ok b) s')
    (failed : ∀ e s', first (.error e) s' → (handle e).Yields s' post) :
    (tryCatch x handle : Stateful ε σ β).Yields s post := by
  have ran : (MonadExcept.tryCatch x handle : Stateful ε σ β).run s =
      match x.run s with
      | (.ok b, s') => (.ok b, s')
      | (.error e, s') => (handle e).run s' := rfl
  unfold Yields at yields ⊢
  rw [ran]
  split
  next b s' here =>
    rw [here] at yields
    exact passed b s' yields
  next e s' here =>
    rw [here] at yields
    exact failed e s' yields

theorem Yields.mono {weaker : Except ε β → σ → Prop} {x : Stateful ε σ β}
    (yields : x.Yields s post) (weaken : ∀ result s', post result s' → weaker result s') :
    x.Yields s weaker :=
  weaken _ _ yields

end Stateful
