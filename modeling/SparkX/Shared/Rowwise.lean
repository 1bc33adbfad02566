import SparkX.Shared.Stateful

set_option autoImplicit false

namespace Rowwise

variable {ε α β γ δ : Type}

variable {items : List α} {results : List β}

theorem mapM_ok {f : α → Except ε β} :
    items.mapM f = .ok results ↔ List.Forall₂ (fun item result => f item = .ok result) items results := by
  induction items generalizing results with
  | nil => cases results <;> simp [pure, Except.pure]
  | cons item rest ih =>
    rw [List.mapM_cons, Except.bind_ok]
    constructor
    · rintro ⟨first, here, later⟩
      obtain ⟨others, there, same⟩ := Except.bind_ok.mp later
      cases same
      exact .cons here (ih.mp there)
    · intro pointwise
      obtain ⟨first, others, here, there, rfl⟩ := List.forall₂_cons_left_iff.mp pointwise
      exact ⟨first, here, Except.bind_ok.mpr ⟨others, ih.mpr there, rfl⟩⟩

theorem mapM_some {f : α → Option β} :
    items.mapM f = some results ↔ List.Forall₂ (fun item result => f item = some result) items results := by
  induction items generalizing results with
  | nil => cases results <;> simp
  | cons item rest ih =>
    simp only [List.mapM_cons, Option.bind_eq_bind, Option.bind_eq_some_iff, Option.pure_def,
      Option.some.injEq, ih, List.forall₂_cons_left_iff]
    grind

variable {related : α → β → Prop}

theorem forall₂_mem (pointwise : List.Forall₂ related items results) {result : β}
    (member : result ∈ results) : ∃ item ∈ items, related item result := by
  induction pointwise with
  | nil => cases member
  | cons here _ ih =>
    rcases List.mem_cons.mp member with rfl | later
    · exact ⟨_, List.mem_cons_self, here⟩
    · obtain ⟨item, inside, found⟩ := ih later
      exact ⟨item, List.mem_cons_of_mem _ inside, found⟩

variable {first : α → β → Prop}

theorem forall₂_and {second : α → β → Prop} (here : List.Forall₂ first items results)
    (there : List.Forall₂ second items results) :
    List.Forall₂ (fun item result => first item result ∧ second item result) items results := by
  induction here with
  | nil => exact .nil
  | cons one _ ih =>
    cases there with
    | cons other others => exact .cons ⟨one, other⟩ (ih others)

theorem forall₂_common {first : α → γ → Prop} {second : β → γ → Prop} {others : List β}
    (pairs : List.Forall₂ (fun item other => ∃ result, first item result ∧ second other result) items others) :
    ∃ results, List.Forall₂ first items results ∧ List.Forall₂ second others results := by
  induction pairs with
  | nil => exact ⟨[], .nil, .nil⟩
  | cons here _ ih =>
    obtain ⟨result, one, other⟩ := here
    obtain ⟨results, ones, others⟩ := ih
    exact ⟨result :: results, .cons one ones, .cons other others⟩

theorem forall₂_getElem? (pointwise : List.Forall₂ related items results) {index : Nat} {item : α}
    (found : items[index]? = some item) : ∃ result, results[index]? = some result ∧ related item result := by
  induction pointwise generalizing index with
  | nil => cases found
  | cons here _ ih =>
    cases index with
    | zero =>
      cases found
      exact ⟨_, rfl, here⟩
    | succ index => exact ih found

theorem forall₂_imp_mem {second : α → β → Prop}
    (implies : ∀ item result, item ∈ items → first item result → second item result)
    (pointwise : List.Forall₂ first items results) : List.Forall₂ second items results := by
  induction pointwise with
  | nil => exact .nil
  | cons here _ ih =>
    exact .cons (implies _ _ List.mem_cons_self here)
      (ih fun item result member => implies item result (List.mem_cons_of_mem _ member))

theorem forall₂_eq {f : α → β} :
    List.Forall₂ (fun item result => f item = result) items results ↔ results = items.map f := by
  rw [← List.forall₂_map_left_iff, List.forall₂_eq_eq_eq]
  exact eq_comm

theorem forall₂_exists (each : ∀ item ∈ items, ∃ result, related item result) :
    ∃ results, List.Forall₂ related items results := by
  induction items with
  | nil => exact ⟨[], .nil⟩
  | cons item rest ih =>
    obtain ⟨result, here⟩ := each item (by simp)
    obtain ⟨results, there⟩ := ih fun other member => each other (List.mem_cons_of_mem _ member)
    exact ⟨result :: results, .cons here there⟩

theorem forall₂_item (pointwise : List.Forall₂ related items results) {item : α} (member : item ∈ items) :
    ∃ result ∈ results, related item result := by
  obtain ⟨result, inside, found⟩ := forall₂_mem pointwise.flip member
  exact ⟨result, inside, found⟩

theorem forall₂_comp {second : β → γ → Prop} {results : List γ} :
    List.Forall₂ (fun item result => ∃ middle, first item middle ∧ second middle result) items results ↔
      ∃ middles, List.Forall₂ first items middles ∧ List.Forall₂ second middles results := by
  constructor
  · intro pointwise
    induction pointwise with
    | nil => exact ⟨[], .nil, .nil⟩
    | cons here _ ih =>
      obtain ⟨middle, passed, found⟩ := here
      obtain ⟨middles, others, rest⟩ := ih
      exact ⟨middle :: middles, .cons passed others, .cons found rest⟩
  · rintro ⟨middles, passed, found⟩
    induction passed generalizing results with
    | nil =>
      cases found
      exact .nil
    | cons here _ ih =>
      cases found with
      | cons there rest => exact .cons ⟨_, here, there⟩ (ih rest)

theorem forall₂_map {g : β → γ} {results : List γ} :
    List.Forall₂ (fun item result => ∃ middle, first item middle ∧ g middle = result) items results ↔
      ∃ middles, List.Forall₂ first items middles ∧ middles.map g = results := by
  rw [forall₂_comp]
  simp only [forall₂_eq, eq_comm]

theorem mapM_forall {f : α → Except ε β} {holds : β → Prop} (mapped : items.mapM f = .ok results) :
    (∀ result ∈ results, holds result) ↔ ∀ item ∈ items, ∃ result, f item = .ok result ∧ holds result := by
  have pointwise := mapM_ok.mp mapped
  constructor
  · intro each item member
    obtain ⟨result, inside, found⟩ := forall₂_item pointwise member
    exact ⟨result, found, each result inside⟩
  · intro each result member
    obtain ⟨item, inside, found⟩ := forall₂_mem pointwise member
    obtain ⟨other, again, good⟩ := each item inside
    rw [found] at again
    exact Except.ok.inj again ▸ good

theorem mapM_map {f : α → Except ε β} {measured : β → γ} {expected : α → γ}
    (each : ∀ item result, f item = .ok result → measured result = expected item)
    (mapped : items.mapM f = .ok results) : results.map measured = items.map expected := by
  have pointwise := mapM_ok.mp mapped
  induction pointwise with
  | nil => rfl
  | cons here there ih => rw [List.map_cons, List.map_cons, each _ _ here, ih (mapM_ok.mpr there)]

theorem mapM_reads {ζ : Type} {write : α → Except ε β} {read : β → Except ζ α}
    (reads : ∀ item wire other, write item = .ok wire → read wire = .ok other → item = other)
    {others : List α} (written : items.mapM write = .ok results) (found : results.mapM read = .ok others) :
    items = others := by
  rw [mapM_ok] at written found
  induction written generalizing others with
  | nil =>
    cases found
    rfl
  | cons here _ ih =>
    cases found with
    | cons first rest => rw [reads _ _ _ here first, ih rest]

theorem mapM_inverse {ζ : Type} {read : β → Except ζ α} {write : α → Except ε β} {similar : β → β → Prop}
    {good : α → Prop}
    (inverse : ∀ wire item, read wire = .ok item ↔
      good item ∧ ∃ encoded, write item = .ok encoded ∧ similar encoded wire)
    {wires : List β} :
    wires.mapM read = .ok items ↔ (∀ item ∈ items, good item) ∧
      ∃ encoded, items.mapM write = .ok encoded ∧ List.Forall₂ similar encoded wires := by
  have flipped : List.Forall₂ (fun wire item => read wire = .ok item) wires items ↔
      List.Forall₂ (fun item wire => read wire = .ok item) items wires := ⟨.flip, .flip⟩
  rw [mapM_ok, flipped]
  simp only [inverse, List.forall₂_and_left, forall₂_comp, mapM_ok]

theorem forall₂_zip {second : α → γ → Prop} (combined : β × γ → δ → Prop) {results : List δ} :
    List.Forall₂ (fun item result => ∃ left right, first item left ∧ second item right ∧
        combined (left, right) result) items results ↔
      ∃ lefts rights, List.Forall₂ first items lefts ∧ List.Forall₂ second items rights ∧
        List.Forall₂ combined (lefts.zip rights) results := by
  induction items generalizing results with
  | nil =>
    constructor
    · intro pointwise
      obtain rfl := List.forall₂_nil_left_iff.mp pointwise
      exact ⟨[], [], .nil, .nil, .nil⟩
    · rintro ⟨lefts, rights, passed, _, joined⟩
      obtain rfl := List.forall₂_nil_left_iff.mp passed
      obtain rfl := List.forall₂_nil_left_iff.mp joined
      exact .nil
  | cons item rest ih =>
    constructor
    · intro pointwise
      obtain ⟨result, others, ⟨left, right, here⟩, there, rfl⟩ := List.forall₂_cons_left_iff.mp pointwise
      obtain ⟨lefts, rights, later⟩ := ih.mp there
      exact ⟨left :: lefts, right :: rights, .cons here.1 later.1, .cons here.2.1 later.2.1,
        .cons here.2.2 later.2.2⟩
    · rintro ⟨lefts, rights, passed, again, joined⟩
      obtain ⟨left, moreLefts, leftOk, lefts, rfl⟩ := List.forall₂_cons_left_iff.mp passed
      obtain ⟨right, moreRights, rightOk, rights, rfl⟩ := List.forall₂_cons_left_iff.mp again
      obtain ⟨result, others, resultOk, results, rfl⟩ := List.forall₂_cons_left_iff.mp joined
      exact .cons ⟨left, right, leftOk, rightOk, resultOk⟩
        (ih.mpr ⟨moreLefts, moreRights, lefts, rights, results⟩)

theorem filterMap_range_getElem? (items : List α) :
    (List.range items.length).filterMap (items[·]?) = items := by
  induction items with
  | nil => rfl
  | cons item rest ih =>
    rw [List.length_cons, List.range_succ_eq_map, List.filterMap_cons, List.filterMap_map]
    simpa using ih

theorem forall₂_range_take {items : List α} {count : Nat} {results : List β} {g : β → α} :
    List.Forall₂ (fun index result => items[index]? = some (g result)) (List.range count) results ↔
      count ≤ items.length ∧ results.map g = items.take count := by
  rw [List.forall₂_iff_get]
  simp only [List.length_range, List.get_eq_getElem, List.getElem_range]
  constructor
  · rintro ⟨rfl, each⟩
    have inside : results.length ≤ items.length := by
      by_contra beyond
      have last := each items.length (by omega) (by omega)
      simp at last
    refine ⟨inside, List.ext_getElem (by rw [List.length_map, List.length_take]; omega) fun index first second => ?_⟩
    have here := each index (by simpa using first) (by simpa using first)
    simp only [List.getElem_map, List.getElem_take]
    exact (List.getElem?_eq_some_iff.mp here).2.symm
  · rintro ⟨inside, same⟩
    have size : results.length = count := by simpa [inside] using congrArg List.length same
    refine ⟨size.symm, fun index first second => ?_⟩
    have here := congrArg (·[index]?) same
    simpa [List.getElem?_take, first, List.getElem?_eq_getElem second] using here.symm

theorem forall₂_unique {first second : List β}
    (unique : ∀ item one other, related item one → related item other → one = other)
    (left : List.Forall₂ related items first) (right : List.Forall₂ related items second) :
    first = second := by
  refine List.right_unique_forall₂' ?_ left right
  intro item one other here there
  exact unique item one other here there

theorem forall₂_and_right {holds : β → Prop} :
    List.Forall₂ (fun item result => related item result ∧ holds result) items
      results ↔ List.Forall₂ related items results ∧ ∀ result ∈ results, holds result := by
  constructor
  · intro both
    refine ⟨both.imp fun _ _ pair => pair.1, fun result member => ?_⟩
    obtain ⟨_, _, pair⟩ := forall₂_mem both member
    exact pair.2
  · rintro ⟨pointwise, each⟩
    induction pointwise with
    | nil => exact .nil
    | cons here _ ih =>
      have ⟨first, rest⟩ := List.forall_mem_cons.mp each
      exact .cons ⟨here, first⟩ (ih rest)

theorem map_eq_map_iff {f : α → γ} {g : β → γ} : items.map f = results.map g ↔
    List.Forall₂ (fun item result => f item = g result) items results := by
  rw [← List.forall₂_map_right_iff (f := g), forall₂_eq]
  exact eq_comm

theorem forall₂_and_forall {always : γ → α → β → Prop} {range : List γ} :
    List.Forall₂ (fun item result => related item result ∧ ∀ entry ∈ range, always entry item result) items results ↔
      List.Forall₂ related items results ∧ ∀ entry ∈ range, List.Forall₂ (always entry) items results := by
  simp only [List.forall₂_iff_zip]
  grind

theorem forall₂_zipWith {second : α → γ → Prop} {combine : β → γ → δ} {lefts : List β} {rights : List γ}
    (left : List.Forall₂ first items lefts) (right : List.Forall₂ second items rights) :
    List.Forall₂ (fun item result => ∃ b c, first item b ∧ second item c ∧ combine b c = result)
      items (List.zipWith combine lefts rights) := by
  induction left generalizing rights with
  | nil =>
    cases right
    exact .nil
  | cons here _ ih =>
    cases right with
    | cons there rest => exact .cons ⟨_, _, here, there, rfl⟩ (ih rest)

theorem forall₂_append_left {first second : List α} :
    List.Forall₂ related (first ++ second) results ↔ ∃ left right, List.Forall₂ related first left ∧
      List.Forall₂ related second right ∧ results = left ++ right := by
  constructor
  · intro pointwise
    refine ⟨_, _, List.forall₂_take_append _ _ _ pointwise.flip |>.flip, List.forall₂_drop_append _ _ _ pointwise.flip |>.flip, ?_⟩
    exact (List.take_append_drop _ _).symm
  · rintro ⟨left, right, earlier, later, rfl⟩
    exact List.rel_append earlier later

theorem forall₂_flatMap {related : β → γ → Prop} {parts : α → List β} {results : List γ} :
    List.Forall₂ related (items.flatMap parts) results ↔
      ∃ chunks, List.Forall₂ (fun item chunk => List.Forall₂ related (parts item) chunk) items chunks ∧
        results = chunks.flatten := by
  induction items generalizing results with
  | nil => simp
  | cons item rest ih =>
    rw [List.flatMap_cons, forall₂_append_left]
    simp only [ih, List.forall₂_cons_left_iff]
    constructor
    · rintro ⟨left, _, here, ⟨chunks, later, rfl⟩, rfl⟩
      exact ⟨_, ⟨left, chunks, here, later, rfl⟩, rfl⟩
    · rintro ⟨_, ⟨left, chunks, here, later, rfl⟩, rfl⟩
      exact ⟨left, _, here, ⟨chunks, later, rfl⟩, rfl⟩

theorem forall₂_zip_comp {first : α × β → γ → Prop} {second : α × γ → δ → Prop} {indices : List α}
    {items : List β} {results : List δ} (equal : items.length = indices.length) :
    List.Forall₂ (fun entry result => ∃ middle, first entry middle ∧ second (entry.1, middle) result)
        (indices.zip items) results ↔
      ∃ middles, List.Forall₂ first (indices.zip items) middles ∧
        List.Forall₂ second (indices.zip middles) results := by
  induction indices generalizing items results with
  | nil => simp
  | cons index indices ih =>
    obtain ⟨item, items, rfl⟩ := List.exists_cons_of_length_eq_add_one equal
    simp only [List.zip_cons_cons, List.forall₂_cons_left_iff, ih (Nat.succ_inj.mp equal)]
    constructor
    · rintro ⟨result, _, ⟨middle, here, next⟩, ⟨middles, there, later⟩, rfl⟩
      refine ⟨middle :: middles, ⟨middle, middles, here, there, rfl⟩, ?_⟩
      exact .cons next later
    · rintro ⟨_, ⟨middle, middles, here, there, rfl⟩, chained⟩
      obtain ⟨result, others, next, later, rfl⟩ := List.forall₂_cons_left_iff.mp chained
      exact ⟨result, others, ⟨middle, here, next⟩, ⟨middles, there, later⟩, rfl⟩

theorem foldlM_parts {σ ζ : Type} {step : σ → α → Except ε σ} {inner : σ → β → Except ζ σ}
    {checked : α → Prop} {parts : α → List β}
    (each : ∀ item ∈ items, ∀ state next, step state item = .ok next ↔
      checked item ∧ (parts item).foldlM inner state = .ok next)
    {state final : σ} :
    items.foldlM step state = .ok final ↔
      (∀ item ∈ items, checked item) ∧ (items.flatMap parts).foldlM inner state = .ok final := by
  induction items generalizing state with
  | nil => simp only [List.foldlM_nil, Except.pure_eq_ok, List.flatMap_nil, List.not_mem_nil, false_implies,
      implies_true, true_and]
  | cons item rest ih =>
    have ⟨here, later⟩ := List.forall_mem_cons.mp each
    simp only [List.foldlM_cons, Except.bind_ok, here, ih later, List.forall_mem_cons, List.flatMap_cons,
      List.foldlM_append]
    grind

end Rowwise
